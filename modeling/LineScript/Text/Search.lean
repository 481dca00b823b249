/-!
# Finding, splitting and joining text

Positions count characters. Splitting at a separator cuts at its occurrences from left to right, each
found after the end of the one before.
-/

namespace LineScript.Text

/-- The first position, counted from `offset`, at which `pattern` starts in the text. -/
def findFrom (pattern : List Char) (offset : Nat) : List Char → Option Nat
  | [] => if pattern.isEmpty then some offset else none
  | c :: rest =>
    if pattern.isPrefixOf (c :: rest) then some offset else findFrom pattern (offset + 1) rest

def find? (pattern text : List Char) (start : Nat) : Option Nat :=
  if text.length < start then none else findFrom pattern start (text.drop start)

def includes (text pattern : List Char) : Bool :=
  (find? pattern text 0).isSome

/-- The parts of a text between the occurrences of a separator. The current part is held last
character first, and `skip` counts the characters of an occurrence that are still to be passed. -/
def splitFrom (separator : List Char) (part : List Char) (skip : Nat) : List Char → List (List Char)
  | [] => [part.reverse]
  | c :: rest =>
    match skip with
    | more + 1 => splitFrom separator part more rest
    | 0 =>
      if separator.isPrefixOf (c :: rest) then
        part.reverse :: splitFrom separator [] (separator.length - 1) rest
      else splitFrom separator (c :: part) 0 rest

/-- The parts of a text between the occurrences of a separator, or its characters one by one when the
separator is empty. -/
def split (text separator : List Char) : List (List Char) :=
  if separator.isEmpty then text.map fun c => [c] else splitFrom separator [] 0 text

def slice (text : List Char) (first last : Nat) : List Char :=
  (text.drop first).take (last - first)

end LineScript.Text
