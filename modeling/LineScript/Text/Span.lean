/-!
# Spans of code points

A property of characters is given by the intervals of code points that have it. A table is an array of such intervals,
and membership is a search through the array.
-/

namespace LineScript.Text

structure Span where
  first : Nat
  last : Nat
  deriving Repr, DecidableEq

namespace Span

def contains (span : Span) (code : Nat) : Bool :=
  span.first ≤ code && code ≤ span.last

def covers (table : Array Span) (code : Nat) : Bool :=
  table.any fun span => span.contains code

/-- The intervals from a code point on. The numbers tell by turns how many code points are passed over and how
many the next interval has. -/
def spaced (next : Nat) : List Nat → List Span
  | passed :: count :: rest =>
    ⟨next + passed, next + passed + count - 1⟩ :: spaced (next + passed + count) rest
  | _ => []

def table (counts : List Nat) : Array Span :=
  ⟨spaced 0 counts⟩

end Span

end LineScript.Text
