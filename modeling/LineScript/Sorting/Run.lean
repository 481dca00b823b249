import LineScript.Sorting.Search

/-!
# Runs

A run is a stretch of items that are in order. The longest run at the start of some items never descends,
or it always descends and is reversed. A short run is made longer by putting the next items in, each at the
place where it is not less than those before it.

Items that are not less than each other keep their order.
-/

namespace LineScript.Sorting

variable {m : Type → Type} {α : Type} [Monad m]

/-- Items as they stand, and whether no comparison was refused so far. -/
structure Arrangement (α : Type) where
  items : List α
  finished : Bool
  deriving Repr

section

variable (less : α → α → OptionT m Bool)

/-- The run that goes on from `last` as long as each item is less than the one before it, exactly if `descending`, and the
items after it. The run is held last item first. -/
def extendRun (descending : Bool) (run : List α) (last : α) : List α → OptionT m (List α × List α)
  | [] => return (run, [])
  | item :: rest => do
    let answer ← less item last
    if answer = descending then extendRun descending (item :: run) item rest
    else return (run, item :: rest)

def firstRun : List α → OptionT m (List α × List α)
  | [] => return ([], [])
  | [item] => return ([item], [])
  | first :: second :: rest => do
    let descending ← less second first
    let (run, rest) ← extendRun less descending [second, first] second rest
    return (if descending then run else run.reverse, rest)

def place (run : Array α) (item : α) : OptionT m Nat :=
  leadingBetween (fun other => not <$> less item other) .forward run run.size 0 run.size

def insertAll (run : Array α) : List α → m (Arrangement α)
  | [] => return ⟨run.toList, true⟩
  | item :: rest => do
    match ← (place less run item).run with
    | none => return ⟨run.toList ++ item :: rest, false⟩
    | some index => insertAll (run.insertIdxIfInBounds index item) rest

end

end LineScript.Sorting
