import LineScript.Sorting.Merge

/-!
# Sorting by a comparison that may act

The items are cut into runs from left to right, none shorter than a least length but for the last, and the runs are
merged. The comparison tells whether its first item is less than its second; it works in a monad, and it may refuse to
answer. Sorting stops at the first refusal, with the items as they stand.

The power of the place between two runs is the number of times that the whole stretch has to be halved until a cut
lies between their middles. A run is merged with the one before it as soon as the next place has a smaller power.
-/

namespace LineScript.Sorting

variable {m : Type → Type} {α : Type} [Monad m]

/-- The least length of a run among this many items: all of them if there are few, and else a number from 32 to 64
with about a power of two runs. `odd` tells whether some halving left a rest. -/
def leastRunWithin : Nat → Bool → Nat → Nat
  | 0, _, count => count
  | fuel + 1, odd, count =>
    if 64 ≤ count then leastRunWithin fuel (odd || count % 2 = 1) (count / 2)
    else if odd then count + 1
    else count

def leastRun (count : Nat) : Nat :=
  leastRunWithin count false count

/-- The power of a place, from twice the middles of the runs at it, as parts of a total. -/
def powerWithin (total : Nat) : Nat → Nat → Nat → Nat
  | 0, _, _ => 0
  | fuel + 1, left, right =>
    if total ≤ left then 1 + powerWithin total fuel (2 * (left - total)) (2 * (right - total))
    else if total ≤ right then 1
    else 1 + powerWithin total fuel (2 * left) (2 * right)

/-- The power of the place between two runs of the given lengths, the first of which starts at `start`. -/
def power (total start left right : Nat) : Nat :=
  powerWithin total (total + 1) (2 * start + left) (2 * start + 2 * left + right)

/-- A run that waits to be merged, and the power of the place after it. -/
structure Pending (α : Type) where
  items : List α
  power : Nat
  deriving Repr

def pendingItems (pending : List (Pending α)) : List α :=
  pending.reverse.flatMap Pending.items

section

variable (less : α → α → OptionT m Bool)

/-- The last run is merged with those before it as long as the places between have a greater power than
the place after it. The result tells whether no comparison was refused. -/
def mergeBelow (power : Nat) (last : List α) : List (Pending α) → StateT Nat m (Bool × List (Pending α))
  | [] => return (true, [⟨last, power⟩])
  | before :: pending => do
    if power < before.power then
      let arrangement ← mergeRuns less before.items last
      if arrangement.finished then mergeBelow power arrangement.items pending
      else return (false, ⟨arrangement.items, power⟩ :: pending)
    else return (true, ⟨last, power⟩ :: before :: pending)

def makeRoom (total size : Nat) : List (Pending α) → StateT Nat m (Bool × List (Pending α))
  | [] => return (true, [])
  | last :: pending =>
    let start := (pendingItems pending).length
    mergeBelow less (power total start last.items.length size) last.items pending

/-- All runs are merged, the shorter neighbour of the last but one first. -/
def mergeAll : Nat → List (List α) → StateT Nat m (Arrangement α)
  | 0, runs => return ⟨runs.reverse.flatten, true⟩
  | fuel + 1, last :: middle :: first :: runs => do
    if first.length < last.length then
      let arrangement ← mergeRuns less first middle
      let runs := last :: arrangement.items :: runs
      if arrangement.finished then mergeAll fuel runs else return ⟨runs.reverse.flatten, false⟩
    else
      let arrangement ← mergeRuns less middle last
      let runs := arrangement.items :: first :: runs
      if arrangement.finished then mergeAll fuel runs else return ⟨runs.reverse.flatten, false⟩
  | _ + 1, [last, first] => mergeRuns less first last
  | _ + 1, runs => return ⟨runs.reverse.flatten, true⟩

/-- The first run of the items, of the least length if there are enough, and the items after it. -/
def nextRun (least : Nat) (items : List α) : m (Arrangement α × List α) := do
  match ← (firstRun less items).run with
  | none => return (⟨[], false⟩, items)
  | some (run, rest) =>
    let missing := least - run.length
    return (← insertAll less run.toArray (rest.take missing), rest.drop missing)

/-- The items after the waiting runs are cut into runs, and all are merged. -/
def sortFrom (total least : Nat) : Nat → List (Pending α) → List α → StateT Nat m (Arrangement α)
  | 0, pending, items => return ⟨pendingItems pending ++ items, true⟩
  | _ + 1, pending, [] => mergeAll less pending.length (pending.map Pending.items)
  | fuel + 1, pending, items => do
    let (run, rest) ← (nextRun less least items : m (Arrangement α × List α))
    if run.finished then
      let (merged, pending) ← makeRoom less total run.items.length pending
      if merged then sortFrom total least fuel (⟨run.items, 0⟩ :: pending) rest
      else return ⟨pendingItems pending ++ run.items ++ rest, false⟩
    else return ⟨pendingItems pending ++ run.items ++ rest, false⟩

def sort (items : List α) : m (Arrangement α) :=
  (sortFrom less items.length (leastRun items.length) (items.length + 1) [] items).run' leastGallop

end

end LineScript.Sorting
