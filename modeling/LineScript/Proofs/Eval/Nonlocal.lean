import LineScript.Proofs.Eval.Inheritance

/-!
# Nonlocal assignments with an operator

A nonlocal assignment binds a name anew in the nearest frame around its own that binds it. With an operator it looks the
old value up first, and it starts to look in its own frame, not in the one around it. So it updates the binding that it
reads just if its own frame does not bind the name; if it does, the value of the outer name becomes the result of the
operator on the value of the inner one (`nonlocal_reads_own_binding`). No other binding changes.
-/

set_option autoImplicit false

namespace LineScript

/-- The nearest of the frames around a frame that bind a name, and the value that it has there. -/
def Store.NearestAround (store : Store) (scope : FrameId) (name : String) (target : FrameId) (value : Value) : Prop :=
  store.ownBinding? target name = some value ∧ ∃ nearer farther,
    (store.frame scope).path = nearer ++ target :: farther ∧ ∀ id ∈ nearer, store.ownBinding? id name = none

section

variable {scope target : FrameId} {name : String} {value : Value} {store after : Store}

theorem Store.nearestAround_of_definingFrame? (found : store.definingFrame? scope name = some target) :
    ∃ value, store.NearestAround scope name target value := by
  obtain ⟨bound, nearer, farther, path, unbound⟩ := List.find?_eq_some_iff_append.mp found
  obtain ⟨value, bound⟩ := Option.isSome_iff_exists.mp bound
  refine ⟨value, bound, nearer, farther, path, fun id member => ?_⟩
  simpa [Store.ownBinding?, Bindings.binds] using unbound id member

/-- A name is looked up in the own frame, and then in the nearest frame around it that binds it. -/
theorem Store.NearestAround.lookup? (nearest : store.NearestAround scope name target value) :
    store.lookup? scope name = some ((store.ownBinding? scope name).getD value) := by
  obtain ⟨bound, nearer, farther, path, unbound⟩ := nearest
  have outer : store.lookupIn? name (store.frame scope).path = some value := by
    rw [path]
    clear path
    induction nearer with
    | nil => rw [List.nil_append, lookupIn?, bound]
    | cons id nearer ih =>
      rw [List.cons_append, lookupIn?, unbound id (.head _)]
      exact ih fun id member => unbound id (.tail _ member)
  rw [Store.lookup?, lookupIn?]
  cases store.ownBinding? scope name with
  | none => exact outer
  | some own => rfl

/-! ## The steps of an assignment -/

theorem Eval.of_lookup (run : Eval.lookup scope name store = .ok value after) :
    store.lookup? scope name = some value ∧ after = store := by
  rw [Eval.lookup, Eval.get_bind_apply] at run
  cases found : store.lookup? scope name with
  | none =>
    rw [found] at run
    cases run
  | some value =>
    rw [found] at run
    cases run
    exact ⟨rfl, rfl⟩

theorem Eval.of_assignNonlocal (run : Eval.assignNonlocal scope name value store = .ok () after) :
    ∃ target, store.definingFrame? scope name = some target ∧ after = store.assign target name value := by
  rw [Eval.assignNonlocal, Eval.get_bind_apply] at run
  cases found : store.definingFrame? scope name with
  | none =>
    rw [found] at run
    cases run
  | some target =>
    rw [found] at run
    cases run
    exact ⟨target, rfl, rfl⟩

theorem Eval.textOf_keeps {text : String} (run : Eval.textOf value store = .ok text after) : after = store := by
  rw [Eval.textOf, Eval.get_bind_apply] at run
  cases found : store.textOf? value with
  | none =>
    rw [found] at run
    cases run
  | some text =>
    rw [found] at run
    cases run
    rfl

/-- An operator leaves the store as it is. -/
theorem Operator.apply_keeps {operator : Operator} {left right : Value}
    (run : operator.apply left right store = .ok value after) : after = store := by
  rw [Operator.apply.eq_def] at run
  split at run
  · cases run
    rfl
  · cases run
    rfl
  · split at run
    · obtain ⟨_, middle, first, run⟩ := Eval.of_bind_ok run
      obtain ⟨_, last, second, run⟩ := Eval.of_bind_ok run
      cases run
      rw [Eval.textOf_keeps second, Eval.textOf_keeps first]
    · cases result : operator.onOperands? left right with
      | some value =>
        rw [result] at run
        cases run
        rfl
      | none =>
        rw [result] at run
        obtain ⟨_, _, _, run⟩ := Eval.of_bind_ok run
        obtain ⟨_, _, _, run⟩ := Eval.of_bind_ok run
        cases run

end

/-- What a nonlocal assignment with an operator does, whenever it succeeds. Once its expression is evaluated, there is
a nearest frame around its own that binds the name. There the name is then bound to the result of the operator on the
old value and the given one, if the own frame does not bind the name; and if it does, to the result on the value in the
own frame. No other binding of any frame changes. -/
theorem nonlocal_updates_nearest_binding {engine : Engine} {scope : FrameId} {name : String} {operator : Operator}
    {value : Expr} {store after : Store} {completion : Completion}
    (run : execStatement engine scope (.nonlocal name (some operator) value) store = .ok completion after) :
    ∃ given middle target old new, evalExpr engine scope value store = .ok given middle ∧
      middle.NearestAround scope name target old ∧ middle.Rebinds target name (some new) after ∧
      (middle.ownBinding? scope name = none → operator.apply old given middle = .ok new middle) ∧
      (∀ own, middle.ownBinding? scope name = some own → operator.apply own given middle = .ok new middle) := by
  rw [execStatement] at run
  obtain ⟨given, middle, evaluates, run⟩ := Eval.of_bind_ok run
  obtain ⟨new, combined, combines, run⟩ := Eval.of_bind_ok run
  obtain ⟨_, _, assigns, done⟩ := Eval.of_bind_ok run
  cases done
  obtain ⟨read, _, looks, applies⟩ := Eval.of_bind_ok combines
  obtain ⟨looked, rfl⟩ := Eval.of_lookup looks
  obtain rfl := Operator.apply_keeps applies
  obtain ⟨target, found, rfl⟩ := Eval.of_assignNonlocal assigns
  obtain ⟨old, nearest⟩ := Store.nearestAround_of_definingFrame? found
  have inside := Store.inside_of_ownBinding? nearest.1
  rw [nearest.lookup?, Option.some_inj] at looked
  refine ⟨given, _, target, old, new, evaluates, nearest, Store.rebinds_assign inside name new, fun unbound => ?_,
    fun own bound => ?_⟩
  · rwa [← looked, unbound] at applies
  · rwa [← looked, bound] at applies

/-- The frame of a function, and around it a frame that binds a name to a text. -/
def Store.nested (outer : String) (inner : Bindings Value) : Store :=
  { Store.initial .default ⟨[], []⟩ [] 0 with
    frames := #[⟨[], [("n", .text outer)], default⟩, ⟨[⟨0⟩], inner, default⟩] }

/-- The own frame does not bind the name. -/
theorem nonlocal_updates_nearest_binding_of_outer_frame :
    let store := Store.nested "a" [("m", .text "x")]
    let update := execStatement (engineFor 0) ⟨1⟩ (.nonlocal "n" (some .add) (.literal (.text "b")))
    ((update.leaves store).ownBinding? ⟨0⟩ "n").any (·.same (.text "ab")) = true ∧
    ∃ completion after, update store = .ok completion after ∧
      ∃ given middle target old new, evalExpr (engineFor 0) ⟨1⟩ (.literal (.text "b")) store = .ok given middle ∧
        middle.NearestAround ⟨1⟩ "n" target old ∧ middle.Rebinds target "n" (some new) after ∧
        (middle.ownBinding? ⟨1⟩ "n" = none → Operator.add.apply old given middle = .ok new middle) ∧
        (∀ own, middle.ownBinding? ⟨1⟩ "n" = some own → Operator.add.apply own given middle = .ok new middle) := by
  intro store update
  have succeeds : update.succeeds store = true := by decide +kernel
  obtain ⟨completion, after, run⟩ := Eval.of_succeeds succeeds
  exact ⟨by decide +kernel, completion, after, run, nonlocal_updates_nearest_binding run⟩

/-- The own frame binds the name, as that of a function does whose parameter has the name. The value of the outer name
is then the result of the operator on the value of the inner one, and not on its old value. -/
theorem nonlocal_reads_own_binding :
    let store := Store.nested "a" [("n", .text "x")]
    let update := execStatement (engineFor 0) ⟨1⟩ (.nonlocal "n" (some .add) (.literal (.text "b")))
    let program := Interpreter.run "n = 'a'\ndef f(n):\n nonlocal n += 'b'\nend\nf('x')" "main.toy"
    let initial := Store.initial .default ⟨[], []⟩ [] 0
    store.NearestAround ⟨1⟩ "n" ⟨0⟩ (.text "a") ∧
      Operator.add.apply (.text "a") (.text "b") store = .ok (.text "ab") store ∧
      update.succeeds store = true ∧ ((update.leaves store).ownBinding? ⟨0⟩ "n").any (·.same (.text "xb")) = true ∧
      program.succeeds initial = true ∧
      ((program.leaves initial).ownBinding? ⟨0⟩ "n").any (·.same (.text "xb")) = true :=
  ⟨⟨rfl, [], [], rfl, nofun⟩, rfl, by decide +kernel, by decide +kernel, by decide +kernel, by decide +kernel⟩

end LineScript
