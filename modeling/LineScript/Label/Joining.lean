import LineScript.Text.Tables

/-!
# Characters made of two

Some characters stand for a character and a second part, most often a mark.
-/

namespace LineScript.Label

/-- The characters that a mark, or another second part, is joined with, each with the result. -/
structure JoinRun where
  second : Nat
  pairs : List (Char × Char)
  deriving Repr, DecidableEq

/-- The pairs that numbers stand for, after a pair: how far the next result is from the one before, and the same for
what is joined, which may be less. -/
def pairsFrom (first : Int) (result : Nat) : List Nat → List (Char × Char)
  | passed :: step :: rest =>
    let first := first + Text.signed step
    (Char.ofNat first.toNat, Char.ofNat (result + passed)) :: pairsFrom first (result + passed) rest
  | _ => []

def joinRuns : Array JoinRun :=
  ((Text.groups Text.NumberTable.joins.numbers).map fun (second, numbers) => ⟨second, pairsFrom 0 0 numbers⟩).toArray

def JoinRun.result? (run : JoinRun) (first : Char) : Option Char :=
  run.pairs.lookup first

def joined? (first second : Char) : Option Char :=
  joinRuns.findSome? fun run => if run.second = second.toNat then run.result? first else none

def JoinRun.parts? (run : JoinRun) (result : Char) : Option (Char × Char) :=
  (run.pairs.find? fun pair => pair.2 = result).map fun pair => (pair.1, Char.ofNat run.second)

def parts? (result : Char) : Option (Char × Char) :=
  joinRuns.findSome? fun run => run.parts? result

end LineScript.Label
