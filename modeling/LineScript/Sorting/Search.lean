/-!
# Counting leading items

How many items at the start of a run satisfy a condition that no item after them does? The condition is asked of few
items: first of the item at the start, then in growing strides, and then by halving what is left. It works in a monad
and may be refused, and then there is no count.
-/

namespace LineScript.Sorting

/-- The direction in which the items of a run are walked. -/
inductive Direction where
  | forward
  | backward
  deriving Repr, DecidableEq

/-- The place at which a stretch is halved; of two places in the middle it is the later one of the run. -/
def Direction.middle : Direction → Nat → Nat → Nat
  | .forward, low, high => low + (high - low) / 2
  | .backward, low, high => low + (high - low - 1) / 2

variable {m : Type → Type} {α : Type} [Monad m]

section

variable (leads : α → OptionT m Bool)

/-- The count, known to lie between two numbers. -/
def leadingBetween (direction : Direction) (items : Array α) : Nat → Nat → Nat → OptionT m Nat
  | 0, low, _ => return low
  | fuel + 1, low, high =>
    if low < high then
      let middle := direction.middle low high
      match items[middle]? with
      | none => return low
      | some item => do
        if ← leads item then leadingBetween direction items fuel (middle + 1) high
        else leadingBetween direction items fuel low middle
    else return low

/-- Two numbers between which the count lies, found in strides from a place on. All items before `known` lead. -/
def stride (items : List α) : Nat → Nat → Nat → OptionT m (Nat × Nat)
  | 0, known, next => return (known, min next items.length)
  | fuel + 1, known, next =>
    match items[next]? with
    | none => return (known, items.length)
    | some item => do
      if ← leads item then stride items fuel (next + 1) (2 * next + 1) else return (known, next)

def leading (direction : Direction) : List α → OptionT m Nat
  | [] => return 0
  | first :: rest => do
    if ← leads first then
      let (low, high) ← stride leads (first :: rest) rest.length 1 1
      leadingBetween leads direction ((first :: rest).take high).toArray high low high
    else return 0

end

end LineScript.Sorting
