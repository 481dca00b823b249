import LineScript.Encoding.Page
import LineScript.Text.Packed

/-!
# Charts of characters

A chart gives a character to codes of two bytes, the lead and the trail. The moves from one character to the next are
written in digits with base sixty-four. Most are one digit, for how many free characters further the next one is. The
digits zero and from sixty-one on tell what the digits after them are: how many codes have no character, a long way, a way
back, and the number of a character. A character that is used is not free any more, if the chart keeps account of that.
-/

namespace LineScript.Encoding

/-- The codes of a chart: the first lead and how many there are, and the same for the trails. -/
structure Layout where
  firstLead : Nat
  leads : Nat
  firstTrail : Nat
  trails : Nat
  deriving Repr, DecidableEq

def squareLayout : Layout :=
  ⟨0x21, 94, 0x21, 94⟩

/-- All leads and trails of encodings that leave the first half of a page to single bytes. -/
def wideLayout : Layout :=
  ⟨0x81, 126, 0x40, 191⟩

def Layout.place (layout : Layout) (code : Nat) : Nat :=
  (code / 256 - layout.firstLead) * layout.trails + (code % 256 - layout.firstTrail)

def Layout.has (layout : Layout) (lead trail : Nat) : Bool :=
  layout.firstLead ≤ lead && lead < layout.firstLead + layout.leads && layout.firstTrail ≤ trail
    && trail < layout.firstTrail + layout.trails

structure Chart where
  layout : Layout
  characters : Array Char

open LineScript.Text (digit)

namespace Chart

def marks : String :=
  "0mno"

inductive Move where
  | skip (codes : Nat)
  | forward (steps : Nat)
  | back (steps : Nat)
  | go (number : Nat)

def Move.ofDigits : List Char → List Move
  | [] => []
  | c :: rest =>
    match digit c, rest with
    | 0, x :: y :: rest => .skip (64 * digit x + digit y) :: ofDigits rest
    | 61, x :: y :: rest => .forward (61 + 64 * digit x + digit y) :: ofDigits rest
    | 62, x :: rest => .back (digit x + 1) :: ofDigits rest
    | 63, x :: y :: z :: rest => .go (64 * (64 * digit x + digit y) + digit z) :: ofDigits rest
    | steps, rest => .forward steps :: ofDigits rest

/-- The number of the character that is so many free ones away, in a direction. -/
def walk (used : Array Bool) (next : Nat → Nat) : Nat → Nat → Nat → Nat
  | 0, _, number => number
  | bound + 1, steps, number =>
    let number := next number
    if used.getD number false then walk used next bound steps number
    else if steps = 1 then number else walk used next bound (steps - 1) number

def Move.target (used : Array Bool) (before : Nat) : Move → Nat
  | .skip _ => before
  | .forward steps => walk used (· + 1) 0x30000 steps before
  | .back steps => walk used (· - 1) 0x30000 steps before
  | .go number => number

/-- The characters that moves lead to, after the character with a number. -/
def readCells (used : Array Bool) (before : Nat) : List Move → List Char
  | [] => []
  | .skip codes :: moves => List.replicate codes missingCharacter ++ readCells used before moves
  | move :: moves =>
    let number := move.target used before
    Char.ofNat number :: readCells (used.setIfInBounds number true) number moves

/-- An account of the characters of charts. -/
def account (charts : List Chart) : Array Bool :=
  charts.foldl (fun used chart => chart.characters.foldl (fun used c => used.setIfInBounds c.toNat true) used)
    (.replicate 0x30000 false)

/-- The chart whose cells a packed text has, which is so many digits long; the last cells may be left out. -/
def ofPacked (layout : Layout) (used : Array Bool) (length : Nat) (packed : String) : Chart :=
  let cells := readCells used 0 (Move.ofDigits (Text.Packed.toList ⟨Text.digits, marks, 2, length, packed⟩))
  ⟨layout, cells.toArray ++ Array.replicate (layout.leads * layout.trails - cells.length) missingCharacter⟩

def find? (chart : Chart) (lead trail : Nat) : Option Char :=
  if chart.layout.has lead trail then
    (chart.characters[chart.layout.place (lead * 256 + trail)]?).filter (· ≠ missingCharacter)
  else none

end Chart

end LineScript.Encoding
