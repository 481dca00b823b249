import LineScript.Eval.Call
import LineScript.Proofs.Eval.Acts
import LineScript.Proofs.Store.Hierarchy

/-!
# What calls are made of

The operations of evaluation, the search for methods, calls of values, properties and display, as made of
changes and of questions to a runner. A method that is found holds code of the kind that the store holds
(`Store.Fits.findMethod`), so that a runner is only asked to run such code, in a frame made for it.
-/

set_option autoImplicit false

namespace LineScript

section

variable {E : Type} {fits : Code → Prop} {asks : FrameId → (α : Type) → (E → Eval α) → Prop} {manner : Manner}
  {scope : FrameId}

/-- An evaluation of whose value nothing is said. -/
abbrev Does (fits : Code → Prop) (asks : FrameId → (α : Type) → (E → Eval α) → Prop) (manner : Manner)
    (scope : FrameId) {α : Type} (action : E → Eval α) : Prop :=
  Acts fits asks manner scope (fun _ => True) action

/-- A change of the store of whose result nothing is said. -/
theorem Acts.step {α : Type} {step : Store → α × Store}
    (each : ∀ store, Change fits manner scope store (step store).2) :
    Does fits asks manner scope fun _ => (modifyGet step : Eval α) :=
  .change fun store _ => ⟨trivial, .single (each store)⟩

theorem Acts.ite {α : Type} {holds : α → Prop} {condition : Prop} [Decidable condition] {first second : E → Eval α}
    (yes : Acts fits asks manner scope holds first) (no : Acts fits asks manner scope holds second) :
    Acts fits asks manner scope holds fun env => if condition then first env else second env := by
  by_cases condition
  · simpa only [if_pos ‹condition›] using yes
  · simpa only [if_neg ‹¬condition›] using no

theorem Acts.mapM {α β : Type} {items : List α} {action : α → E → Eval β}
    (each : ∀ item, Does fits asks manner scope (action item)) :
    Does fits asks manner scope fun env => items.mapM fun item => action item env := by
  induction items with
  | nil => exact .pure trivial
  | cons item items ih =>
    simp only [List.mapM_cons]
    exact (each item).bind fun _ _ => ih.bind fun _ _ => .pure trivial

/-! ## Reading the store -/

theorem acts_expected {α : Type} {holds : α → Prop} {value : Option α} (good : ∀ found ∈ value, holds found) :
    Acts fits asks manner scope holds fun _ => Eval.expected value := by
  cases value with
  | none => exact .throw _
  | some value => exact .pure (good value rfl)

theorem acts_lookup (frame : FrameId) (name : String) : Does fits asks manner scope fun _ => Eval.lookup frame name :=
  .read fun store _ => by
    cases store.lookup? frame name with
    | none => exact .throw _
    | some value => exact .pure trivial

theorem acts_argument (frame : FrameId) (name : String) :
    Does fits asks manner scope fun _ => Eval.argument frame name :=
  .read fun _ _ => .pure trivial

theorem acts_itemsAt (cell : CellId) : Does fits asks manner scope fun _ => Eval.itemsAt cell :=
  .read fun _ _ => .pure trivial

/-- An instance of the store carries code of the kind that the store holds. -/
theorem acts_instanceAt (id : InstanceId) :
    Acts fits asks manner scope (fun object => object.payload.Fits fits) fun _ => Eval.instanceAt id :=
  .read fun _ good => .pure (good.object id)

theorem Store.Fits.classNode {store : Store} (good : store.Fits fits) {id : InstanceId} {node : ClassNode}
    (found : store.classNode? id = some node) : (Payload.class node).Fits fits := by
  have fit := good.object id
  rw [Store.classNode?] at found
  split at found
  · rename_i payload
    cases found
    rwa [payload] at fit
  · cases found

theorem acts_classOf (id : InstanceId) :
    Acts fits asks manner scope (fun node => (Payload.class node).Fits fits) fun _ => Eval.classOf id :=
  .read fun _ good => acts_expected fun _ found => good.classNode found

theorem acts_textOf (value : Value) : Does fits asks manner scope fun _ => Eval.textOf value :=
  .read fun _ _ => acts_expected fun _ _ => trivial

theorem acts_describe (value : Value) : Does fits asks manner scope fun _ => Eval.describe value :=
  .read fun _ _ => acts_expected fun _ _ => trivial

/-- A failure that describes a value. -/
theorem acts_failDescribed {α : Type} {holds : α → Prop} (value : Value) (cause : String → FailureCause) :
    Acts fits asks manner scope holds fun _ => (do Eval.fail (cause (← Eval.describe value))) :=
  (acts_describe value).bind fun _ _ => .throw _

/-! ## Changing the store -/

theorem acts_assign (name : String) (value : Value) :
    Does fits asks manner scope fun _ => Eval.assign scope name value :=
  .step fun _ => .assign name value

theorem acts_assignNonlocal (rebinds : manner.rebinds = true) (name : String) (value : Value) :
    Does fits asks manner scope fun _ => Eval.assignNonlocal scope name value := by
  refine .change fun store _ => ?_
  rw [Eval.assignNonlocal, Eval.get_bind_apply]
  cases found : store.definingFrame? scope name with
  | none => exact ⟨rfl, rfl⟩
  | some other => exact ⟨trivial, .single (.assignNonlocal rebinds found value)⟩

theorem acts_delete (name : String) : Does fits asks manner scope fun _ => Eval.delete scope name :=
  .step fun _ => .delete name

theorem acts_setProperty (id : InstanceId) (name : String) (value : Value) :
    Does fits asks manner scope fun _ => Eval.setProperty id name value :=
  .step fun _ => .property id name value

theorem acts_modifyItems (cell : CellId) (change : Array Value → Array Value) :
    Does fits asks manner scope fun _ => Eval.modifyItems cell change :=
  .step fun _ => .items cell change

theorem acts_output (text : String) : Does fits asks manner scope fun _ => Eval.output text :=
  .step fun store => .surroundings _ store.inputs store.log

theorem acts_note (entry : LogEntry) : Does fits asks manner scope fun _ => Eval.note entry :=
  .step fun store => .surroundings store.events store.inputs _

theorem acts_input (prompt : String) : Does fits asks manner scope fun _ => Eval.input prompt := by
  refine (Acts.step fun store => .surroundings _ store.inputs store.log).bind fun _ _ => ?_
  refine .read fun store _ => ?_
  cases store.inputs with
  | nil => exact .throw _
  | cons line rest =>
    exact (Acts.step fun store => .surroundings store.events _ store.log).bind fun _ _ => .pure trivial

/-! ## Instances of built-in classes -/

theorem Eval.builtinClass_bind_apply {α : Type} (frame : FrameId) (name : String) (next : InstanceId → Eval α)
    (store : Store) : (Eval.builtinClass frame name >>= next) store = match store.builtinClass? frame name with
      | some id => next id store
      | none => .error (.ofCause (.notDefined name)) store := by
  rw [Eval.bind_apply, Eval.builtinClass, Eval.get_bind_apply]
  cases store.builtinClass? frame name <;> rfl

/-- Steps that begin with a built-in class and change the store with it. -/
theorem Acts.builtin {α : Type} {frame : FrameId} {name : String} {next : InstanceId → Eval α}
    (each : ∀ (store : Store) (id : InstanceId), store.builtinClass? frame name = some id →
      ∃ value after, next id store = .ok value after ∧ Changes fits manner scope store after) :
    Does fits asks manner scope fun _ => Eval.builtinClass frame name >>= next := by
  refine .change fun store _ => ?_
  rw [Eval.builtinClass_bind_apply]
  cases found : store.builtinClass? frame name with
  | none => exact ⟨rfl, rfl⟩
  | some id =>
    obtain ⟨value, after, run, changes⟩ := each store id found
    dsimp only
    rw [run]
    exact ⟨trivial, changes⟩

/-- A new instance of a built-in class is made of a class. -/
theorem Change.ofBuiltin {store : Store} {frame : FrameId} {name : String} {id : InstanceId} {payload : Payload}
    (found : store.builtinClass? frame name = some id) (fit : payload.Fits fits) :
    Change fits manner scope store (store.addInstance ⟨id, [], payload⟩).2 :=
  .object fit fun classed => classed.builtinClass found

theorem acts_newBuiltin (frame : FrameId) (name : String) {payload : Payload} (fit : payload.Fits fits) :
    Does fits asks manner scope fun _ => Eval.newBuiltin frame name payload :=
  .builtin fun _ _ found => ⟨_, _, rfl, .single (.ofBuiltin found fit)⟩

theorem acts_newList (frame : FrameId) (items : Array Value) :
    Does fits asks manner scope fun _ => Eval.newList frame items := by
  refine .builtin fun store id found => ⟨_, _, rfl, ?_⟩
  have filled : Change fits manner scope store (store.addCell items).2 := .cell items
  have found : (store.addCell items).2.builtinClass? frame "List" = some id := found
  exact .tail (.single filled) (.ofBuiltin found trivial)

/-! ## Questions to a runner -/

/-- To run code of one kind in a new frame is a question to the environment. -/
structure AsksRuns (fits : Code → Prop) (asks : FrameId → (α : Type) → (E → Eval α) → Prop) (manner : Manner)
    (run : E → Runner) : Prop where
  run : ∀ inner code, manner.opens inner → fits code → asks inner Completion fun env => run env inner code

/-! ## Methods -/

section

variable {store : Store}

theorem Store.Fits.resolveLevel (good : store.Fits fits) {frame : FrameId} {visited level : List String}
    {nodes : List ClassNode} {after : List String}
    (resolved : store.resolveLevel frame visited level = .ok (nodes, after)) :
    ∀ node ∈ nodes, (Payload.class node).Fits fits := by
  induction level generalizing visited nodes after with
  | nil =>
    cases resolved
    exact fun _ member => nomatch member
  | cons name names ih =>
    rw [Store.resolveLevel] at resolved
    split at resolved
    · exact ih resolved
    · cases first : store.resolveClass frame name with
      | error cause =>
        rw [first] at resolved
        cases resolved
      | ok node =>
        cases rest : store.resolveLevel frame (name :: visited) names with
        | error cause =>
          rw [first] at resolved
          simp only [bind, Except.bind, rest] at resolved
          cases resolved
        | ok result =>
          rw [first] at resolved
          simp only [bind, Except.bind, rest] at resolved
          cases resolved
          intro other member
          rcases List.mem_cons.mp member with rfl | member
          · obtain ⟨id, found⟩ := Store.resolveClass_ok first
            exact good.classNode found
          · exact ih rest other member

theorem fits_ownMethod {node : ClassNode} (fit : (Payload.class node).Fits fits) {name : String}
    {method : Function} (own : node.ownMethod? name = some method) : fits method.code :=
  fit method (List.mem_of_find?_eq_some own)

theorem Store.Fits.searchLevels (good : store.Fits fits) {frame : FrameId} {name : String} {fuel : Nat}
    {visited level : List String} {method : Function}
    (found : store.searchLevels frame name fuel visited level = .ok (some method)) : fits method.code := by
  induction fuel generalizing visited level with
  | zero => cases found
  | succ fuel ih =>
    cases level with
    | nil => cases found
    | cons first level =>
      rw [Store.searchLevels] at found
      · cases resolved : store.resolveLevel frame visited (first :: level) with
        | error cause =>
          rw [resolved] at found
          cases found
        | ok result =>
          rw [resolved] at found
          simp only [bind, Except.bind] at found
          split at found
          · rename_i own
            cases found
            obtain ⟨node, member, own⟩ := List.exists_of_findSome?_eq_some own
            exact fits_ownMethod (good.resolveLevel resolved node member) own
          · exact ih found
      · intro empty
        cases empty

/-- A method that is found holds code of the kind that the store holds. -/
theorem Store.Fits.findMethod (good : store.Fits fits) {node : ClassNode} (fit : (Payload.class node).Fits fits)
    {frame : FrameId} {name : String} {method : Function}
    (found : store.findMethod frame node name = .ok (some method)) : fits method.code := by
  rw [Store.findMethod] at found
  split at found
  · cases found
    exact fits_ownMethod fit ‹_›
  · split at found
    · cases found
    · exact good.searchLevels found

end

theorem acts_liftCause {α : Type} {holds : α → Prop} {result : Except FailureCause α}
    (good : ∀ value, result = .ok value → holds value) :
    Acts fits asks manner scope holds fun _ => Eval.liftCause result := by
  cases result with
  | error cause => exact .throw _
  | ok value => exact .pure (good value rfl)

theorem acts_findMethod? (frame : FrameId) {node : ClassNode} (fit : (Payload.class node).Fits fits) (name : String) :
    Acts fits asks manner scope (fun found => ∀ method ∈ found, fits method.code)
      fun _ => Eval.findMethod? frame node name := by
  refine .read fun store good => acts_liftCause fun found equal method member => ?_
  cases member
  exact good.findMethod fit equal

theorem acts_findMethod (frame : FrameId) {node : ClassNode} (fit : (Payload.class node).Fits fits) (name : String) :
    Acts fits asks manner scope (fun method => fits method.code) fun _ => Eval.findMethod frame node name := by
  refine (acts_findMethod? frame fit name).bind fun found good => ?_
  cases found with
  | none => exact .throw _
  | some method => exact .pure (good method rfl)

/-! ## Properties -/

theorem acts_receiverOf (frame : FrameId) (target : Value) (name : String) :
    Does fits asks manner scope fun _ => Eval.receiverOf frame target name := by
  cases target with
  | «instance» id => exact .pure trivial
  | text value => exact .builtin fun _ _ found => ⟨_, _, rfl, .single (.ofBuiltin found trivial)⟩
  | null | number | boolean => exact acts_failDescribed _ _

/-- A method of an instance becomes a function value with the same code. -/
theorem acts_propertyOf (frame : FrameId) (receiver : InstanceId) (name : String) :
    Does fits asks manner scope fun _ => Eval.propertyOf frame receiver name := by
  refine (acts_instanceAt receiver).bind fun object _ => ?_
  cases object.properties.get? name with
  | some value => exact .pure trivial
  | none =>
    refine (acts_classOf receiver).bind fun node fit => ?_
    exact (acts_findMethod frame fit name).bind fun method good => acts_newBuiltin frame "Function" good

/-! ## Calls -/

theorem Eval.nodup_bindParameters {names : List String} {values : List Value} {bindings : Bindings Value}
    (distinct : bindings.names.Nodup) : (bindParameters names values bindings).names.Nodup := by
  induction names generalizing values bindings with
  | nil => exact distinct
  | cons name names ih => cases values <;> exact ih (Bindings.nodup_set distinct)

theorem Eval.nodup_bindReceiver {receiver : Option Value} {bindings : Bindings Value} (distinct : bindings.names.Nodup) :
    (bindReceiver receiver bindings).names.Nodup := by
  cases receiver with
  | none => exact distinct
  | some value => exact Bindings.nodup_set distinct

/-- What a call of an instance with a payload makes first: an instance, if it calls a class. -/
def Eval.prepare (callee : InstanceId) : Payload → Eval InstanceId
  | .class _ => newInstance ⟨callee, [], .object⟩
  | .function _ | .object | .list _ | .text _ => pure callee

/-- The rest of a call of an instance with a payload. -/
def Eval.proceed (run : Runner) (caller : FrameId) (callee : InstanceId) (arguments : List Value)
    (receiver : Option Value) (payload : Payload) (object : InstanceId) : Eval Value := do
  match payload with
  | .class node =>
    match ← findMethod? caller node "init" with
    | some init =>
      let _ ← callFunction run caller init arguments (some (.instance object))
    | none => pure ()
    return .instance object
  | .function function => callFunction run caller function arguments receiver
  | .object | .list _ | .text _ => fail (.notCallable (← describe (.instance callee)))

theorem Eval.callValue_instance (run : Runner) (caller : FrameId) (id : InstanceId) (arguments : List Value)
    (receiver : Option Value) : callValue run caller (.instance id) arguments receiver =
      get >>= fun store => prepare id (store.object id).payload >>= fun object =>
        proceed run caller id arguments receiver (store.object id).payload object := by
  funext store
  have read : instanceAt id store = .ok (store.object id) store := rfl
  rw [Eval.get_bind_apply, callValue, Eval.bind_ok read]
  cases (store.object id).payload <;> rfl

/-- A call makes an instance only of a class. -/
theorem stepped_prepare (store : Store) (id : InstanceId) :
    Stepped fits manner scope (fun _ => True) store (Eval.prepare id (store.object id).payload store) := by
  cases payload : (store.object id).payload with
  | «class» node => exact ⟨trivial, .single (.object trivial fun _ => store.isClass_of_payload payload)⟩
  | function | object | list | text => exact ⟨trivial, .refl⟩

variable {run : E → Runner} (calls : AsksRuns fits asks manner run)

include calls

/-- A call asks the runner to run the code of the function, in a new frame. -/
theorem acts_callFunction (caller : FrameId) {function : Function} (fit : fits function.code)
    (arguments : List Value) (receiver : Option Value) :
    Does fits asks manner scope fun env => Eval.callFunction (run env) caller function arguments receiver := by
  refine (acts_newList caller _).bind fun all _ => .frame (fun store _ => ?_) fun inner opened => ?_
  · have none : (Bindings.names ([] : Bindings Value)).Nodup := List.nodup_nil
    refine ⟨store, _, .refl, .child _ _ ?_, rfl⟩
    exact Eval.nodup_bindReceiver (Bindings.nodup_set (Eval.nodup_bindParameters none))
  exact (Acts.ask (calls.run inner _ opened fit)).bind fun completion _ => .pure trivial

theorem acts_proceed (caller : FrameId) (callee object : InstanceId) (arguments : List Value)
    (receiver : Option Value) {payload : Payload} (fit : payload.Fits fits) :
    Does fits asks manner scope fun env =>
      Eval.proceed (run env) caller callee arguments receiver payload object := by
  cases payload with
  | «class» node =>
    refine (acts_findMethod? caller fit "init").bind fun found good => ?_
    cases found with
    | none => exact .pure trivial
    | some init =>
      exact (acts_callFunction calls caller (good init rfl) arguments _).bind fun _ _ => .pure trivial
  | function function => exact acts_callFunction calls caller fit arguments receiver
  | object | list | text => exact acts_failDescribed _ _

theorem acts_callValue (caller : FrameId) (callee : Value) (arguments : List Value) (receiver : Option Value) :
    Does fits asks manner scope fun env => Eval.callValue (run env) caller callee arguments receiver := by
  cases callee with
  | «instance» id =>
    simp only [Eval.callValue_instance]
    refine .react (fun store _ => ?_) fun store object good =>
      acts_proceed calls caller id object arguments receiver (good.object id)
    exact stepped_prepare store id
  | null | number | text | boolean => exact acts_failDescribed _ _

theorem acts_display (frame : FrameId) (value : Value) :
    Does fits asks manner scope fun env => Eval.display (run env) frame value := by
  cases value with
  | null | number | text | boolean => exact acts_textOf _
  | «instance» id =>
    refine (acts_instanceAt id).bind fun object _ => ?_
    obtain ⟨cls, properties, payload⟩ := object
    cases payload with
    | «class» | function | text => exact acts_textOf _
    | object | list =>
      refine (acts_classOf id).bind fun node fit => ?_
      refine (acts_findMethod? frame fit "toString").bind fun found good => ?_
      cases found with
      | none => exact acts_textOf _
      | some method => exact (acts_callFunction calls frame (good method rfl) _ _).bind fun _ _ => acts_textOf _

end

end LineScript
