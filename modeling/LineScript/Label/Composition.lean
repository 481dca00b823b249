import LineScript.Label.Folding

/-!
# Composition of characters

A character may be followed by marks that stand above it, below it and so on. Marks of different places are put into the
order of their places, and then each mark is joined with the character before it where there is one character for both.
-/

namespace LineScript.Label

open LineScript.Text (Span splitSyllable?)

/-! ## Places of marks -/

def markPlaces : List (Nat × Array Span) :=
  (Text.groups Text.NumberTable.markPlaces.numbers).map fun (place, counts) => (place, Span.table counts)

def placeOf (c : Char) : Nat :=
  match markPlaces.find? fun entry => Span.covers entry.2 c.toNat with
  | some entry => entry.1
  | none => 0

/-- A mark is put before the marks of later places at the end of a text. The text is held last character
first. -/
def insertMark (c : Char) : List Char → List Char
  | [] => [c]
  | before :: rest =>
    if placeOf c < placeOf before then before :: insertMark c rest else c :: before :: rest

def orderMarks (cs : List Char) : List Char :=
  (cs.foldl (fun done c => if placeOf c = 0 then c :: done else insertMark c done) []).reverse

/-! ## Joining -/

/-- A character joined with what can be joined with it, and the text that is left. Of the marks that were passed over, last
one first, the last one has the given place. -/
def joinInto (c : Char) (place : Nat) (passed : List Char) : List Char → Char × List Char
  | [] => (c, passed.reverse)
  | next :: rest =>
    let nextPlace := placeOf next
    if place ≠ 0 ∧ nextPlace = 0 then (c, passed.reverse ++ next :: rest)
    else if place ≠ 0 ∧ nextPlace ≤ place then joinInto c place (next :: passed) rest
    else
      match joined? c next with
      | some result => joinInto result place passed rest
      | none =>
        if nextPlace = 0 then (c, passed.reverse ++ next :: rest)
        else joinInto c nextPlace (next :: passed) rest

def joinAll : Nat → List Char → List Char
  | 0, cs => cs
  | _ + 1, [] => []
  | fuel + 1, c :: rest =>
    match splitSyllable? (c :: rest) with
    | some (syllable, left) => syllable :: joinAll fuel left
    | none =>
      let (result, left) := joinInto c 0 [] rest
      result :: joinAll fuel left

def compose (cs : List Char) : List Char :=
  joinAll cs.length (orderMarks cs)

end LineScript.Label
