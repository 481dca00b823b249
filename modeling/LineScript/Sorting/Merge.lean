import LineScript.Sorting.Run

/-!
# Merging runs

Two runs next to each other become one. What is in place already at both ends stays there. The rest is merged from
the end at which the shorter run stands. Seen in that direction, each run gives its next item in turn; an item of the
long run goes first if the comparison says so.

When one run gives many items in a row, the merge looks for how many it can place at once. How many are many is the
patience: it falls while that pays, rises when it does not, and is kept from one merge to the next. A merge ends at
the first refusal, with all items as they stand.
-/

namespace LineScript.Sorting

variable {m : Type → Type} {α : Type} [Monad m]

/-- The patience at the start, and the number of items placed at once that pays. -/
def leastGallop : Nat :=
  7

/-- A merge under way: the items placed, and those left in the short and in the long run. -/
structure Merge (α : Type) where
  placed : Array α
  short : List α
  long : List α
  deriving Repr

/-- Steps of a merge, with the patience. A merge ends with an arrangement. -/
abbrev Merging (m : Type → Type) (α : Type) := ExceptT (Arrangement α) (StateT Nat m)

namespace Merge

def standing (merge : Merge α) : List α :=
  merge.placed.toList ++ merge.short ++ merge.long

/-- The merge goes on while both runs have items. The last item of the short run comes after all others. -/
def settle (merge : Merge α) : Merging m α (Merge α) :=
  match merge.long, merge.short with
  | [], _ | _, [] => throw ⟨merge.standing, true⟩
  | long, [last] => throw ⟨merge.placed.toList ++ long ++ [last], true⟩
  | _, _ => return merge

def takeShort (merge : Merge α) (count : Nat) : Merging m α (Merge α) :=
  settle ⟨merge.placed ++ merge.short.take count, merge.short.drop count, merge.long⟩

def takeLong (merge : Merge α) (count : Nat) : Merging m α (Merge α) :=
  settle ⟨merge.placed ++ merge.long.take count, merge.short, merge.long.drop count⟩

def ask {β : Type} (merge : Merge α) (answer : OptionT m β) : Merging m α β := do
  match ← (answer.run : m (Option β)) with
  | some answer => return answer
  | none => throw ⟨merge.standing, false⟩

end Merge

section

variable (longFirst : α → α → OptionT m Bool)

/-- Items are placed one by one until one run has given many in a row. -/
def alternate : Nat → Bool → Nat → Merge α → Merging m α (Merge α)
  | 0, _, _, merge => return merge
  | fuel + 1, fromLong, streak, merge =>
    match merge.long, merge.short with
    | long :: _, short :: _ => do
      let takesLong ← merge.ask (longFirst long short)
      let merge ← if takesLong then merge.takeLong 1 else merge.takeShort 1
      let streak := if takesLong = fromLong then streak + 1 else 1
      if (← get) ≤ streak then return merge else alternate fuel takesLong streak merge
    | _, _ => return merge

variable (direction : Direction)

/-- The items of the short run that go before the next one of the long run are placed, and then that one;
the result has their number. -/
def passShort (merge : Merge α) : Merging m α (Nat × Merge α) :=
  match merge.long with
  | [] => return (0, merge)
  | long :: _ => do
    let count ← merge.ask (leading (fun item => not <$> longFirst long item) direction merge.short)
    let merge ← merge.takeShort count
    return (count, ← merge.takeLong 1)

/-- The items of the long run that go before the next one of the short run are placed, and then that one;
the result has their number. -/
def passLong (merge : Merge α) : Merging m α (Nat × Merge α) :=
  match merge.short with
  | [] => return (0, merge)
  | short :: _ => do
    let count ← merge.ask (leading (fun item => longFirst item short) direction merge.long)
    let merge ← merge.takeLong count
    return (count, ← merge.takeShort 1)

/-- Items of both runs are placed at once, those of the left run first; the result has the greater of the
two numbers. -/
def passBoth (merge : Merge α) : Merging m α (Nat × Merge α) :=
  match direction with
  | .forward => do
    let (first, merge) ← passShort longFirst direction merge
    let (second, merge) ← passLong longFirst direction merge
    return (max first second, merge)
  | .backward => do
    let (first, merge) ← passLong longFirst direction merge
    let (second, merge) ← passShort longFirst direction merge
    return (max first second, merge)

/-- Items are placed at once as long as that pays. -/
def gallop : Nat → Merge α → Merging m α (Merge α)
  | 0, merge => return merge
  | fuel + 1, merge => do
    let (count, merge) ← passBoth longFirst direction merge
    if leastGallop ≤ count then
      modify fun patience => if 1 < patience then patience - 1 else patience
      gallop fuel merge
    else
      modify (· + 1)
      return merge

def mergeOn : Nat → Merge α → Merging m α (Merge α)
  | 0, merge => return merge
  | fuel + 1, merge => do
    let size := merge.short.length + merge.long.length
    let merge ← alternate longFirst size false 0 merge
    let merge ← gallop longFirst direction size merge
    mergeOn fuel merge

/-- The items of two runs, in the direction of the walk; the long run has the first of them. -/
def mergeWalk (short long : List α) : StateT Nat m (Arrangement α) := do
  let whole : Merging m α (Merge α) := do
    let merge ← Merge.takeLong ⟨#[], short, long⟩ 1
    mergeOn longFirst direction (short.length + long.length) merge
  match ← whole.run with
  | .ok merge => return ⟨merge.standing, true⟩
  | .error arrangement => return arrangement

end

section

variable (less : α → α → OptionT m Bool)

/-- The items of two runs of which the right one starts, and the left one ends, out of place. -/
def mergeCore (left right : List α) : StateT Nat m (Arrangement α) :=
  if left.length ≤ right.length then mergeWalk less .forward left right
  else do
    let arrangement ← mergeWalk (fun long short => less short long) .backward right.reverse left.reverse
    return { arrangement with items := arrangement.items.reverse }

/-- The number of items at the start of the left run that stay before the right run. -/
def settledFront (left : List α) : List α → OptionT m Nat
  | [] => return left.length
  | first :: _ => leading (fun item => not <$> less first item) .forward left

/-- The number of items at the end of the right run that stay after the left run. -/
def settledBack (left right : List α) : OptionT m Nat :=
  match left.getLast? with
  | none => return right.length
  | some last => leading (fun item => not <$> less item last) .backward right.reverse

def mergeRuns (left right : List α) : StateT Nat m (Arrangement α) := do
  match ← ((settledFront less left right).run : m (Option Nat)) with
  | none => return ⟨left ++ right, false⟩
  | some front =>
    if left.length ≤ front then return ⟨left ++ right, true⟩
    else
      match ← ((settledBack less (left.drop front) right).run : m (Option Nat)) with
      | none => return ⟨left ++ right, false⟩
      | some back =>
        if right.length ≤ back then return ⟨left ++ right, true⟩
        else
          let count := right.length - back
          let core ← mergeCore less (left.drop front) (right.take count)
          return ⟨left.take front ++ core.items ++ right.drop count, core.finished⟩

end

end LineScript.Sorting
