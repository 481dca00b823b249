import LineScript.Proofs.Store.Bindings
import LineScript.Store.Basic
import Mathlib.Logic.Relation
import Mathlib.Tactic.Common

/-!
# Changes of the store

Code in a frame changes the store in few ways, listed in `Change`, and it opens new frames, below an older
one or as the root of a program (`NewFrame`). Two facts about a store are said here, because the changes
depend on them:

* `Store.Fits`: the functions of the store hold code of one kind. New functions hold such code.
* `Store.Classed`: what stands for a class is one, both as the class of an instance and among the built-in
  classes of a frame. New instances are made of a class, as long as the store is so.

Some changes are made by few evaluations only. The manner of an evaluation says which of them it may make.
-/

set_option autoImplicit false

namespace LineScript

/-! ## Code in the store -/

/-- The functions that a payload carries hold code of one kind. -/
def Payload.Fits (fits : Code → Prop) : Payload → Prop
  | .function held => fits held.code
  | .class node => ∀ method ∈ node.methods, fits method.code
  | .object | .list _ | .text _ => True

/-- The functions of the store hold code of one kind. -/
def Store.Fits (fits : Code → Prop) (store : Store) : Prop :=
  ∀ object ∈ store.instances, object.payload.Fits fits

/-- Any code counts as of the kind of all code. -/
theorem Store.fits_all (store : Store) : store.Fits fun _ => True := by
  intro object _
  cases object.payload <;> simp [Payload.Fits]

theorem Store.fits_initial (fits : Code → Prop) (settings : Config.Settings) (files : Files.FileSystem)
    (inputs : List String) (clock : Float) : (initial settings files inputs clock).Fits fits :=
  fun _ member => nomatch member

section

variable {fits : Code → Prop} {store : Store}

theorem Store.Fits.object (good : store.Fits fits) (id : InstanceId) : (store.object id).payload.Fits fits := by
  rw [Store.object]
  cases found : store.instances[id.index]? with
  | none => trivial
  | some object => exact good object (Array.mem_of_getElem? found)

theorem Store.Fits.addInstance (good : store.Fits fits) {object : Instance} (fit : object.payload.Fits fits) :
    (store.addInstance object).2.Fits fits := by
  intro other member
  rcases Array.mem_push.mp member with member | rfl
  · exact good other member
  · exact fit

theorem Store.Fits.modifyInstance (good : store.Fits fits) (id : InstanceId) {change : Instance → Instance}
    (kept : ∀ object : Instance, object.payload.Fits fits → (change object).payload.Fits fits) :
    (store.modifyInstance id change).Fits fits := by
  intro other member
  obtain ⟨index, found⟩ := Array.mem_iff_getElem?.mp member
  rw [Store.modifyInstance, Array.getElem?_modify] at found
  split at found
  · obtain ⟨object, inside, rfl⟩ := Option.map_eq_some_iff.mp found
    exact kept object (good object (Array.mem_of_getElem? inside))
  · exact good other (Array.mem_of_getElem? found)

end

/-! ## Classes in the store -/

/-- The instance is a class. -/
def Store.IsClass (store : Store) (id : InstanceId) : Prop :=
  (store.classNode? id).isSome

/-- What stands for a class is one: the class of every instance, and every built-in class of a frame. -/
structure Store.Classed (store : Store) : Prop where
  objects : ∀ object ∈ store.instances, store.IsClass object.cls
  origins : ∀ frame ∈ store.frames, ∀ entry ∈ frame.origin.classes, store.IsClass entry.2

theorem Store.isClass_of_payload {store : Store} {id : InstanceId} {node : ClassNode}
    (payload : (store.object id).payload = .class node) : store.IsClass id := by
  rw [Store.IsClass, Store.classNode?, payload]
  rfl

theorem Store.inside_of_classNode? {store : Store} {id : InstanceId} {node : ClassNode}
    (found : store.classNode? id = some node) : id.index < store.instances.size := by
  by_contra outside
  rw [Store.classNode?, Store.object, Array.getElem?_eq_none (Nat.le_of_not_lt outside)] at found
  cases found

/-- Classes stay classes when the store gets one more instance. -/
theorem Store.classNode?_addInstance {store : Store} {id : InstanceId} {node : ClassNode}
    (found : store.classNode? id = some node) (object : Instance) :
    (store.addInstance object).2.classNode? id = some node := by
  have inside := Store.inside_of_classNode? found
  rw [← found, Store.classNode?, Store.classNode?, Store.object, Store.object]
  simp only [Store.addInstance, Array.getElem?_push_lt inside, Array.getElem?_eq_getElem inside]

/-- A class stays a class when an instance changes, unless the payload changes and the instance is the class. -/
theorem Store.classNode?_modifyInstance (store : Store) {id other : InstanceId} {change : Instance → Instance}
    (kept : id = other → (change (store.object id)).payload = (store.object id).payload) :
    (store.modifyInstance other change).classNode? id = store.classNode? id := by
  have same : ((store.modifyInstance other change).object id).payload = (store.object id).payload := by
    rw [Store.object, Store.modifyInstance, Array.getElem?_modify]
    split
    · rename_i equal
      have kept := kept (congrArg InstanceId.mk equal.symm)
      rw [Store.object] at kept ⊢
      cases found : store.instances[id.index]? with
      | none => rfl
      | some object => rwa [found] at kept
    · rfl
  rw [Store.classNode?, Store.classNode?, same]

/-- The built-in classes that code in a frame finds are classes. -/
theorem Store.Classed.builtinClass {store : Store} (classed : store.Classed) {frame : FrameId} {name : String}
    {id : InstanceId} (found : store.builtinClass? frame name = some id) : store.IsClass id := by
  have member := Bindings.mem_of_get? found
  rw [Store.frame] at member
  cases inside : store.frames[frame.index]? with
  | none =>
    rw [inside] at member
    cases member
  | some entry =>
    rw [inside] at member
    exact classed.origins entry (Array.mem_of_getElem? inside) _ member

/-! ## One change -/

/-- What an evaluation may do besides the rest: catch exceptions, look at any escape and hold it, mark escapes with
the places they pass, bind names of outer frames anew, make a class into something else, load modules, and open some
new frames. -/
structure Manner where
  catches : Bool
  inspects : Bool
  marks : Bool
  rebinds : Bool
  overwrites : Bool
  loads : Bool
  opens : FrameId → Prop

/-- The manner of an evaluation that may do all of it. -/
def Manner.free : Manner :=
  ⟨true, true, true, true, true, true, fun _ => True⟩

/-- What code in a frame does to the store in one step. New functions hold code of one kind, and a new instance
is made of a class. -/
inductive Change (fits : Code → Prop) (manner : Manner) (scope : FrameId) (store : Store) : Store → Prop where
  | object {object : Instance} (fit : object.payload.Fits fits) (made : store.Classed → store.IsClass object.cls) :
      Change fits manner scope store (store.addInstance object).2
  | metaclass {node : ClassNode} (fit : (Payload.class node).Fits fits) :
      Change fits manner scope store (store.addInstance ⟨⟨store.instances.size⟩, [], .class node⟩).2
  | become (id : InstanceId) {payload : Payload} (plain : ∀ fits, payload.Fits fits)
      (spared : manner.overwrites = true ∨ ¬ store.IsClass id) :
      Change fits manner scope store (store.setPayload id payload)
  | property (id : InstanceId) (name : String) (value : Value) :
      Change fits manner scope store (store.setProperty id name value)
  | cell (items : Array Value) : Change fits manner scope store (store.addCell items).2
  | items (cell : CellId) (change : Array Value → Array Value) :
      Change fits manner scope store (store.modifyCell cell change)
  | assign (name : String) (value : Value) : Change fits manner scope store (store.assign scope name value)
  | assignNonlocal {name : String} {other : FrameId} (rebinds : manner.rebinds = true)
      (around : store.definingFrame? scope name = some other) (value : Value) :
      Change fits manner scope store (store.assign other name value)
  | delete (name : String) : Change fits manner scope store (store.delete scope name)
  | surroundings (events : Array Event) (inputs : List String) (log : Array LogEntry) :
      Change fits manner scope store { store with events := events, inputs := inputs, log := log }
  | modules (loads : manner.loads = true) (modules : Bindings InstanceId) :
      Change fits manner scope store { store with modules := modules }

/-- What code in a frame does to the store in some steps. -/
abbrev Changes (fits : Code → Prop) (manner : Manner) (scope : FrameId) : Store → Store → Prop :=
  Relation.ReflTransGen (Change fits manner scope)

theorem Change.fits {fits : Code → Prop} {manner : Manner} {scope : FrameId} {store after : Store}
    (change : Change fits manner scope store after) (good : store.Fits fits) : after.Fits fits := by
  cases change with
  | object fit | metaclass fit => exact good.addInstance fit
  | become id plain => exact good.modifyInstance id fun _ _ => plain fits
  | property id name value => exact good.modifyInstance id fun _ fit => fit
  | cell | items | assign | assignNonlocal | delete | surroundings | modules => exact good

/-- A frame that code opens in a store: below an older one, or, if it loads modules, the root frame of a source with
the built-in classes. It binds each name once. -/
inductive NewFrame (manner : Manner) (store : Store) : Frame → Prop where
  | child (parent : FrameId) (bindings : Bindings Value) (distinct : bindings.names.Nodup) :
      NewFrame manner store (store.childFrame parent bindings)
  | root (loads : manner.loads = true) (file source : String) (importing : Bool) (bindings : Bindings Value)
      {classes : Bindings InstanceId} (sound : store.Classed → ∀ entry ∈ classes, store.IsClass entry.2)
      (distinct : bindings.names.Nodup) :
      NewFrame manner store ⟨[], bindings, ⟨file, Origin.rowsOf source, classes, importing⟩⟩

end LineScript
