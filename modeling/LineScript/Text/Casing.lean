import LineScript.Text.Span
import LineScript.Text.Tables

/-!
# Upper and lower case

The full case mapping of the Unicode standard. Most characters map by adding a number to their code point, and the
characters that share the number form runs. A few map to several characters. The Greek capital sigma has two lower
forms.
-/

namespace LineScript.Text

/-- Every `step`-th code point from `first` to `last` maps by adding `shift`. -/
structure CaseRun where
  first : Nat
  last : Nat
  step : Nat
  shift : Int
  deriving Repr, DecidableEq

namespace CaseRun

def contains (run : CaseRun) (code : Nat) : Bool :=
  run.first ≤ code && code ≤ run.last && (code - run.first) % run.step == 0

def inverse (run : CaseRun) : CaseRun :=
  ⟨(run.first + run.shift).toNat, (run.last + run.shift).toNat, run.step, -run.shift⟩

def map? (table : Array CaseRun) (code : Nat) : Option Nat :=
  (table.find? fun run => run.contains code).map fun run => ((code : Int) + run.shift).toNat

/-- The runs that numbers stand for, after the first code point of another run: how far the next run is from there, how
many steps it has, the step, and the shift. -/
def ofNumbers (before : Nat) : List Nat → List CaseRun
  | passed :: count :: step :: shift :: rest =>
    let first := before + passed
    ⟨first, first + step * count, step, signed shift⟩ :: ofNumbers first rest
  | _ => []

end CaseRun

def upperRuns : Array CaseRun :=
  (CaseRun.ofNumbers 0 NumberTable.upperRuns.numbers).toArray

def upperExpansions : List (Nat × List Nat) :=
  groups NumberTable.upperExpansions.numbers

/-- Runs of characters beyond ASCII with one lower-case character, where that is not the first character which has
them as its upper case. -/
def lowerExceptions : Array CaseRun := #[
  ⟨0x1c4, 0x1c4, 1, 2⟩, ⟨0x1c5, 0x1c5, 1, 1⟩, ⟨0x1c7, 0x1c7, 1, 2⟩, ⟨0x1c8, 0x1c8, 1, 1⟩, ⟨0x1ca, 0x1ca, 1, 2⟩,
  ⟨0x1cb, 0x1cb, 1, 1⟩, ⟨0x1f1, 0x1f1, 1, 2⟩, ⟨0x1f2, 0x1f2, 1, 1⟩, ⟨0x399, 0x399, 1, 32⟩, ⟨0x39c, 0x39c, 1, 32⟩,
  ⟨0x3a3, 0x3a3, 1, 32⟩, ⟨0x3f4, 0x3f4, 1, -60⟩, ⟨0x1e9e, 0x1e9e, 1, -7615⟩, ⟨0x1f88, 0x1f8f, 1, -8⟩,
  ⟨0x1f98, 0x1f9f, 1, -8⟩, ⟨0x1fa8, 0x1faf, 1, -8⟩, ⟨0x1fbc, 0x1fbc, 1, -9⟩, ⟨0x1fcc, 0x1fcc, 1, -9⟩,
  ⟨0x1ffc, 0x1ffc, 1, -9⟩, ⟨0x2126, 0x2126, 1, -7517⟩, ⟨0x212a, 0x212a, 1, -8383⟩, ⟨0x212b, 0x212b, 1, -8262⟩,
  ⟨0xa64a, 0xa64a, 1, 1⟩]

/-- Runs of characters beyond ASCII with one lower-case character: for the others it is the one that has them as its
upper case. -/
def lowerRuns : Array CaseRun :=
  lowerExceptions ++ upperRuns.map CaseRun.inverse

def lowerExpansions : List (Nat × List Nat) := [
  (0x130, [0x69, 0x307])]

/-- Characters with case that the search around a capital sigma stops at. -/
def casedTable : Array Span :=
  Span.table NumberTable.cased.numbers

/-- Characters that the search around a capital sigma passes over. -/
def caseIgnorableTable : Array Span :=
  Span.table NumberTable.caseIgnorable.numbers

def mapCase (runs : Array CaseRun) (expansions : List (Nat × List Nat)) (c : Char) : List Char :=
  match expansions.lookup c.toNat with
  | some codes => codes.map Char.ofNat
  | none =>
    match CaseRun.map? runs c.toNat with
    | some code => [Char.ofNat code]
    | none => [c]

def upperChar (c : Char) : List Char :=
  if c.toNat < 0x80 then [c.toUpper] else mapCase upperRuns upperExpansions c

def toUpper (cs : List Char) : List Char :=
  cs.flatMap upperChar

/-- After the characters that are passed over, the next one has case. -/
def meetsCased (cs : List Char) : Bool :=
  match cs.dropWhile fun c => Span.covers caseIgnorableTable c.toNat with
  | [] => false
  | c :: _ => Span.covers casedTable c.toNat

/-- The lower case of one character, given the characters before it (nearest first) and after it. -/
def lowerChar (before : List Char) (c : Char) (after : List Char) : List Char :=
  if c.toNat < 0x80 then [c.toLower]
  else if c.toNat = 0x3a3 then
    [if meetsCased before && !meetsCased after then Char.ofNat 0x3c2 else Char.ofNat 0x3c3]
  else mapCase lowerRuns lowerExpansions c

/-- The lower case of the characters after `before`, which holds the earlier ones nearest first. -/
def lowerFrom (before : List Char) : List Char → List Char
  | [] => []
  | c :: after => lowerChar before c after ++ lowerFrom (c :: before) after

def toLower (cs : List Char) : List Char :=
  lowerFrom [] cs

end LineScript.Text
