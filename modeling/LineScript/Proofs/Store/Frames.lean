import LineScript.Proofs.Store.Change

/-!
# Frames

A change of the store leaves the frames as they are, or it changes the bindings of one frame: of the frame in
which the code runs, or of an outer frame that binds the name already (`Change.frames`). So frames stay, and
each keeps the frames around it and its origin (`Store.Extends`).
-/

set_option autoImplicit false

namespace LineScript

section

variable {store : Store} {id other : FrameId}

theorem Store.frame_congr {after : Store} (same : after.frames = store.frames) : after.frame id = store.frame id := by
  rw [Store.frame, Store.frame, same]

theorem Store.frame_modifyBindings_of_ne (different : id ≠ other) (change : Bindings Value → Bindings Value) :
    (store.modifyBindings other change).frame id = store.frame id := by
  have apart : other.index ≠ id.index := fun equal => different (congrArg FrameId.mk equal.symm)
  rw [Store.frame, Store.modifyBindings, Array.getElem?_modify, if_neg apart, Store.frame]

theorem Store.bindings_modifyBindings (inside : id.index < store.frames.size)
    (change : Bindings Value → Bindings Value) :
    ((store.modifyBindings id change).frame id).bindings = change (store.frame id).bindings := by
  simp [Store.frame, Store.modifyBindings, Array.getElem?_modify, Array.getElem?_eq_getElem inside]

theorem Store.inside_of_ownBinding? {name : String} {value : Value} (bound : store.ownBinding? id name = some value) :
    id.index < store.frames.size := by
  by_contra outside
  rw [Store.ownBinding?, Store.frame, Array.getElem?_eq_none (Nat.le_of_not_lt outside)] at bound
  cases bound

/-- One store has the bindings of another, but for one name in one frame, which has a given value or is not bound. -/
def Store.Rebinds (store : Store) (scope : FrameId) (name : String) (value : Option Value) (after : Store) : Prop :=
  ∀ id other, after.ownBinding? id other = if id = scope ∧ other = name then value else store.ownBinding? id other

theorem Store.rebinds_modifyBindings (inside : id.index < store.frames.size) {name : String} {value : Option Value}
    {change : Bindings Value → Bindings Value} (changed : ∀ other, (change (store.frame id).bindings).get? other =
      if other = name then value else (store.frame id).bindings.get? other) :
    store.Rebinds id name value (store.modifyBindings id change) := by
  intro frame other
  rw [Store.ownBinding?]
  by_cases here : frame = id
  · rw [here, Store.bindings_modifyBindings inside, changed]
    simp [Store.ownBinding?]
  · rw [Store.frame_modifyBindings_of_ne here, if_neg fun both => here both.1, Store.ownBinding?]

theorem Store.rebinds_assign (inside : id.index < store.frames.size) (name : String) (value : Value) :
    store.Rebinds id name (some value) (store.assign id name value) :=
  Store.rebinds_modifyBindings inside fun _ => Bindings.get?_set

theorem Store.rebinds_delete (inside : id.index < store.frames.size) (distinct : (store.frame id).bindings.names.Nodup)
    (name : String) : store.Rebinds id name none (store.delete id name) :=
  Store.rebinds_modifyBindings inside fun _ => Bindings.get?_erase distinct

theorem Store.nodup_modifyBindings {change : Bindings Value → Bindings Value}
    (keeps : ∀ bindings : Bindings Value, bindings.names.Nodup → (change bindings).names.Nodup)
    (distinct : (store.frame id).bindings.names.Nodup) :
    ((store.modifyBindings other change).frame id).bindings.names.Nodup := by
  rw [Store.frame] at distinct ⊢
  rw [Store.modifyBindings, Array.getElem?_modify]
  split
  · cases found : store.frames[id.index]? with
    | none => exact List.nodup_nil
    | some frame =>
      rw [found] at distinct
      exact keeps _ distinct
  · exact distinct

theorem Store.size_modifyBindings (change : Bindings Value → Bindings Value) :
    (store.modifyBindings other change).frames.size = store.frames.size := by
  simp [Store.modifyBindings]

theorem Store.origin_modifyBindings (change : Bindings Value → Bindings Value) :
    ((store.modifyBindings other change).frame id).origin = (store.frame id).origin := by
  rw [Store.frame, Store.modifyBindings, Array.getElem?_modify, Store.frame]
  split
  · cases store.frames[id.index]? <;> rfl
  · rfl

theorem Store.path_modifyBindings (change : Bindings Value → Bindings Value) :
    ((store.modifyBindings other change).frame id).path = (store.frame id).path := by
  rw [Store.frame, Store.modifyBindings, Array.getElem?_modify, Store.frame]
  split
  · cases store.frames[id.index]? <;> rfl
  · rfl

theorem Store.frame_addFrame (inside : id.index < store.frames.size) (frame : Frame) :
    (store.addFrame frame).2.frame id = store.frame id := by
  simp [Store.frame, Store.addFrame, Array.getElem?_push, Nat.ne_of_lt inside]

theorem Store.frame_addFrame_of_ne (different : id ≠ ⟨store.frames.size⟩) (frame : Frame) :
    (store.addFrame frame).2.frame id = store.frame id := by
  have apart : id.index ≠ store.frames.size := fun equal => different (congrArg FrameId.mk equal)
  simp [Store.frame, Store.addFrame, Array.getElem?_push, apart]

theorem Store.frame_added (store : Store) (frame : Frame) :
    (store.addFrame frame).2.frame ⟨store.frames.size⟩ = frame := by
  simp [Store.frame, Store.addFrame]

end

/-- What a change does to the frames: nothing, or new bindings in the frame of the code, or a name bound anew
in an outer frame that binds it. -/
theorem Change.frames {fits : Code → Prop} {manner : Manner} {scope : FrameId} {store after : Store}
    (change : Change fits manner scope store after) :
    after.frames = store.frames ∨
    (∃ update, after.frames = (store.modifyBindings scope update).frames) ∨
    ∃ other name value, manner.rebinds = true ∧ (store.frame other).bindings.binds name = true ∧
      after.frames = (store.modifyBindings other fun bindings => bindings.set name value).frames := by
  cases change with
  | object | metaclass | become | property | cell | items | surroundings | modules => exact .inl rfl
  | assign name value => exact .inr (.inl ⟨fun bindings => bindings.set name value, rfl⟩)
  | delete name => exact .inr (.inl ⟨fun bindings => bindings.erase name, rfl⟩)
  | @assignNonlocal name other rebinds around value =>
    rw [Store.definingFrame?] at around
    have binds := List.find?_some around
    exact .inr (.inr ⟨other, name, value, rebinds, binds, rfl⟩)

/-- No change binds a name twice in a frame. -/
theorem Change.distinct {fits : Code → Prop} {manner : Manner} {scope : FrameId} {store after : Store}
    (change : Change fits manner scope store after) {id : FrameId} (distinct : (store.frame id).bindings.names.Nodup) :
    (after.frame id).bindings.names.Nodup := by
  cases change with
  | object | metaclass | become | property | cell | items | surroundings | modules => exact distinct
  | assign | assignNonlocal => exact Store.nodup_modifyBindings (fun _ => Bindings.nodup_set) distinct
  | delete => exact Store.nodup_modifyBindings (fun _ => Bindings.nodup_erase) distinct

/-- The frames of a store are there in another store, with the origin that they had. -/
structure Store.Extends (store after : Store) : Prop where
  grows : store.frames.size ≤ after.frames.size
  origin : ∀ id : FrameId, id.index < store.frames.size → (after.frame id).origin = (store.frame id).origin

namespace Store.Extends

variable {first second third : Store}

theorem refl (store : Store) : store.Extends store :=
  ⟨Nat.le_refl _, fun _ _ => rfl⟩

theorem trans (before : first.Extends second) (after : second.Extends third) : first.Extends third where
  grows := Nat.le_trans before.grows after.grows
  origin id inside := by
    rw [after.origin id (Nat.lt_of_lt_of_le inside before.grows), before.origin id inside]

theorem addFrame (store : Store) (frame : Frame) : store.Extends (store.addFrame frame).2 where
  grows := by simp [Store.addFrame]
  origin _ inside := by rw [Store.frame_addFrame inside]

/-- The entry of a line in the code of a frame stays. -/
theorem entry (later : first.Extends second) {id : FrameId} (inside : id.index < first.frames.size) (line : Int) :
    second.entry id line = first.entry id line := by
  rw [Store.entry, Store.entry, later.origin id inside]

end Store.Extends

section

variable {fits : Code → Prop} {manner : Manner} {scope : FrameId} {store after : Store}
  (change : Change fits manner scope store after)

include change

/-- No change touches the origin of a frame. -/
theorem Change.origin (id : FrameId) : (after.frame id).origin = (store.frame id).origin := by
  rcases change.frames with same | ⟨update, frames⟩ | ⟨other, name, value, _, _, frames⟩
  · rw [Store.frame_congr same]
  · rw [Store.frame_congr frames, Store.origin_modifyBindings]
  · rw [Store.frame_congr frames, Store.origin_modifyBindings]

theorem Change.size : after.frames.size = store.frames.size := by
  rcases change.frames with same | ⟨update, frames⟩ | ⟨other, name, value, _, _, frames⟩
  · rw [same]
  · rw [frames, Store.size_modifyBindings]
  · rw [frames, Store.size_modifyBindings]

theorem Change.extends : store.Extends after :=
  ⟨Nat.le_of_eq change.size.symm, fun id _ => change.origin id⟩

end

end LineScript
