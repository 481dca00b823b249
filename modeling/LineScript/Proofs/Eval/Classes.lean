import LineScript.Proofs.Eval.Programs
import LineScript.Proofs.Store.Frames

/-!
# Classes stay classes

The class of every instance is a class, and a class stays what it is, as long as none of the built-in functions
that make their receiver into something else gets a class as its receiver. These functions do not look at what
their receiver is, and a program can call them with any receiver: then a class is lost, and whatever asks for the
class of one of its instances ends in a fault (`class_becomes_text`).

`runExcept` runs code as `runCode` does, except that something else may run in place of some of it. With `sparing`
that is in place of such a call, and then classes stay classes, if what runs instead leaves them alone
(`follows_sparing`). A program that runs in the same way as with `sparing` makes no such call.
-/

set_option autoImplicit false

namespace LineScript

/-! ## What changes keep -/

instance (store : Store) (id : InstanceId) : Decidable (store.IsClass id) :=
  inferInstanceAs (Decidable (_ = true))

instance (store : Store) : Decidable store.Classed :=
  decidable_of_iff ((∀ object ∈ store.instances, store.IsClass object.cls) ∧
      ∀ frame ∈ store.frames, ∀ entry ∈ frame.origin.classes, store.IsClass entry.2)
    ⟨fun both => ⟨both.1, both.2⟩, fun classed => ⟨classed.objects, classed.origins⟩⟩

/-- Every class of a store is the same class in another store. -/
def Store.KeepsClasses (store after : Store) : Prop :=
  ∀ id node, store.classNode? id = some node → after.classNode? id = some node

section

variable {store after : Store}

theorem Store.KeepsClasses.isClass (keeps : store.KeepsClasses after) {id : InstanceId} (found : store.IsClass id) :
    after.IsClass id := by
  obtain ⟨node, found⟩ := Option.isSome_iff_exists.mp found
  rw [Store.IsClass, keeps id node found]
  rfl

/-- What stands for a class is one after some steps, if the steps keep classes, and instances and frames that are
new or changed are made of classes. -/
theorem Store.Classed.step (classed : store.Classed) (keeps : store.KeepsClasses after)
    (objects : ∀ object ∈ after.instances, (∃ old ∈ store.instances, old.cls = object.cls) ∨ after.IsClass object.cls)
    (origins : ∀ frame ∈ after.frames, ∃ old ∈ store.frames, old.origin = frame.origin) : after.Classed where
  objects object member := by
    rcases objects object member with ⟨old, inside, same⟩ | found
    · exact keeps.isClass (same ▸ classed.objects old inside)
    · exact found
  origins frame member entry listed := by
    obtain ⟨old, inside, same⟩ := origins frame member
    exact keeps.isClass (classed.origins old inside entry (same ▸ listed))

theorem Store.mem_frames_modifyBindings {other : FrameId} {change : Bindings Value → Bindings Value} {frame : Frame}
    (member : frame ∈ (store.modifyBindings other change).frames) :
    ∃ old ∈ store.frames, old.origin = frame.origin := by
  obtain ⟨index, found⟩ := Array.mem_iff_getElem?.mp member
  rw [Store.modifyBindings, Array.getElem?_modify] at found
  split at found
  · obtain ⟨old, inside, rfl⟩ := Option.map_eq_some_iff.mp found
    exact ⟨old, Array.mem_of_getElem? inside, rfl⟩
  · exact ⟨frame, Array.mem_of_getElem? found, rfl⟩

theorem Store.mem_instances_modifyInstance {id : InstanceId} {change : Instance → Instance} {object : Instance}
    (member : object ∈ (store.modifyInstance id change).instances)
    (kept : ∀ object : Instance, (change object).cls = object.cls) : ∃ old ∈ store.instances, old.cls = object.cls := by
  obtain ⟨index, found⟩ := Array.mem_iff_getElem?.mp member
  rw [Store.modifyInstance, Array.getElem?_modify] at found
  split at found
  · obtain ⟨old, inside, rfl⟩ := Option.map_eq_some_iff.mp found
    exact ⟨old, Array.mem_of_getElem? inside, (kept old).symm⟩
  · exact ⟨object, Array.mem_of_getElem? found, rfl⟩

end

section

variable {fits : Code → Prop} {manner : Manner} {scope : FrameId} {store after : Store}

/-- A change that overwrites no class keeps all classes. -/
theorem Change.keepsClasses (change : Change fits manner scope store after) (spares : manner.overwrites = false) :
    store.KeepsClasses after := by
  intro id node found
  cases change with
  | object | metaclass => exact store.classNode?_addInstance found _
  | @become other payload plain spared =>
    have different : id ≠ other := by
      rintro rfl
      rcases spared with overwrites | none
      · rw [spares] at overwrites
        cases overwrites
      · exact none (by rw [Store.IsClass, found]; rfl)
    rw [Store.setPayload, store.classNode?_modifyInstance fun same => absurd same different]
    exact found
  | property other name value =>
    rw [Store.setProperty, store.classNode?_modifyInstance fun _ => rfl]
    exact found
  | cell | items | assign | assignNonlocal | delete | surroundings | modules => exact found

/-- A change that overwrites no class leaves a store in which classes are classes. -/
theorem Change.classed (change : Change fits manner scope store after) (spares : manner.overwrites = false)
    (classed : store.Classed) : after.Classed := by
  have keeps := change.keepsClasses spares
  have same (frame : Frame) (member : frame ∈ store.frames) : ∃ old ∈ store.frames, old.origin = frame.origin :=
    ⟨frame, member, rfl⟩
  have old (object : Instance) (member : object ∈ store.instances) :
      (∃ old ∈ store.instances, old.cls = object.cls) ∨ after.IsClass object.cls := .inl ⟨object, member, rfl⟩
  cases change with
  | @object object fit made =>
    refine classed.step keeps (fun other member => ?_) same
    rcases Array.mem_push.mp member with member | rfl
    · exact old other member
    · exact .inr (keeps.isClass (made classed))
  | @metaclass node =>
    refine classed.step keeps (fun other member => ?_) same
    rcases Array.mem_push.mp member with member | rfl
    · exact old other member
    · exact .inr (store.isClass_added _ _ _)
  | become id | property id =>
    exact classed.step keeps (fun _ member => .inl (Store.mem_instances_modifyInstance member fun _ => rfl)) same
  | assign | assignNonlocal | delete =>
    exact classed.step keeps old fun _ member => Store.mem_frames_modifyBindings member
  | cell | items | surroundings | modules => exact classed.step keeps old same

/-- A new frame leaves a store in which classes are classes. -/
theorem NewFrame.classed {frame : Frame} (new : NewFrame manner store frame) (classed : store.Classed) :
    (store.addFrame frame).2.Classed := by
  refine ⟨classed.objects, fun other member => ?_⟩
  rcases Array.mem_push.mp member with member | rfl
  · exact classed.origins other member
  · cases new with
    | child parent bindings =>
      intro entry listed
      rw [Store.childFrame, Store.frame] at listed
      cases found : store.frames[parent.index]? with
      | none =>
        rw [found] at listed
        cases listed
      | some around =>
        rw [found] at listed
        exact classed.origins around (Array.mem_of_getElem? found) entry listed
    | root loads file source importing bindings sound => exact sound classed

end

/-- The manner of code that makes no class into something else. -/
def Manner.sparing : Manner :=
  { Manner.free with overwrites := false }

/-- Code keeps classes, in a store in which classes are classes. -/
def Protocol.classes : Protocol (fun _ => True) .sparing where
  good store := store.Classed
  step _ := Store.KeepsClasses
  kind _ := Store.fits_all _
  refl _ _ _ _ found := found
  trans first second id node found := second id node (first id node found)
  change classed change := ⟨change.classed rfl classed, change.keepsClasses rfl⟩
  opens _ := trivial
  frame classed new := new.classed classed
  inner _ _ _ _ _ inner := inner

/-! ## Built-in functions that overwrite their receiver -/

/-- The built-in function, called in a frame, makes a class into something else. -/
def Native.overwritesClass (native : Native) (scope : FrameId) (store : Store) : Bool :=
  native.overwrites &&
    match store.ownBinding? scope "this" with
    | some (.instance id) => (store.classNode? id).isSome
    | _ => false

theorem Native.eq_init {native : Native} (overwrites : native.overwrites = true) :
    native = .textMethod .init ∨ native = .listMethod .init := by
  unfold Native.overwrites at overwrites
  split at overwrites
  · exact .inl rfl
  · exact .inr rfl
  · cases overwrites

/-- The evaluation only looks at the store. -/
def Looks {α : Type} (action : Eval α) : Prop :=
  ∀ store, (∃ value, action store = .ok value store) ∨ ∃ escape, escape.marks = [] ∧ action store = .error escape store

theorem looks_pure {α : Type} (value : α) : Looks (pure value : Eval α) :=
  fun _ => .inl ⟨value, rfl⟩

theorem looks_throw {α : Type} {escape : Escape} (unmarked : escape.marks = []) : Looks (throw escape : Eval α) :=
  fun _ => .inr ⟨escape, unmarked, rfl⟩

theorem Looks.bind {α β : Type} {action : Eval α} {next : α → Eval β} (first : Looks action)
    (rest : ∀ value, Looks (next value)) : Looks (action >>= next) := by
  intro store
  rw [Eval.bind_apply]
  rcases first store with ⟨value, run⟩ | ⟨escape, unmarked, run⟩
  · rw [run]
    exact rest value store
  · rw [run]
    exact .inr ⟨escape, unmarked, rfl⟩

theorem looks_expected {α : Type} (find : Store → Option α) : Looks (do Eval.expected (find (← get))) := by
  intro store
  rw [Eval.get_bind_apply]
  cases find store with
  | none => exact .inr ⟨_, rfl, rfl⟩
  | some value => exact .inl ⟨value, rfl⟩

theorem looks_integerOr (function : String) (default : Int) (value : Value) :
    Looks (Eval.integerOr function default value) := by
  have refused : Looks (do Eval.refuse (α := Int) function (.expectedNumber (← Eval.describe value))) :=
    (looks_expected fun store => store.describe? value).bind fun _ => looks_throw rfl
  cases value with
  | null => exact looks_pure default
  | number x =>
    simp only [Eval.integerOr, Eval.integerArgument]
    cases Number.truncate? x with
    | none => exact refused
    | some n => exact looks_pure n
  | text | boolean | «instance» => exact refused

theorem looks_repeated (count : Int) (value : Value) : Looks (Eval.repeated count value) := by
  rw [Eval.repeated]
  split
  · exact looks_throw rfl
  · split
    · exact looks_throw rfl
    · exact looks_pure _

section

variable {fits : Code → Prop} {manner : Manner} {scope : FrameId} {store : Store}

theorem Stepped.look {α β : Type} {holds : β → Prop} {action : Eval α} {next : α → Eval β} (looks : Looks action)
    (rest : ∀ value, action store = .ok value store → Stepped fits manner scope holds store (next value store)) :
    Stepped fits manner scope holds store ((action >>= next) store) := by
  rw [Eval.bind_apply]
  rcases looks store with ⟨value, run⟩ | ⟨escape, unmarked, run⟩
  · rw [run]
    exact rest value run
  · rw [run]
    exact ⟨unmarked, rfl⟩

theorem looks_argument (scope : FrameId) (name : String) : Looks (Eval.argument scope name) :=
  fun store => .inl ⟨(store.ownBinding? scope name).getD .null, rfl⟩

/-- The receiver of a call is what the frame binds. -/
theorem ownBinding_of_receiver {id : InstanceId} (run : Eval.receiver scope store = .ok (.instance id) store) :
    store.ownBinding? scope "this" = some (.instance id) := by
  change EStateM.Result.ok ((store.ownBinding? scope "this").getD .null) store = _ at run
  cases bound : store.ownBinding? scope "this" with
  | none => simp [bound] at run
  | some value => simpa [bound] using run

/-- A receiver that is no class becomes a text. -/
theorem stepped_becomeText (this : Value) (content : String) :
    (∀ id, this = .instance id → ¬ store.IsClass id) → Stepped fits manner scope (fun _ => True) store
      ((match this with
        | .instance id => do
          modify fun store => store.setPayload id (.text content)
          return .null
        | _ => return .null : Eval Value) store) := by
  intro spared
  cases this with
  | null | number | text | boolean => exact ⟨trivial, .refl⟩
  | «instance» id =>
    have plain (fits : Code → Prop) : (Payload.text content).Fits fits := trivial
    exact ⟨trivial, .single (.become id plain (.inr (spared id rfl)))⟩

variable (spared : ∀ id, store.ownBinding? scope "this" = some (.instance id) → ¬ store.IsClass id)

include spared

theorem stepped_textInit : Stepped fits manner scope (fun _ => True) store (TextMethod.run scope .init store) := by
  refine .look (looks_argument scope "this") fun this received => ?_
  have spared (id : InstanceId) (equal : this = .instance id) : ¬ store.IsClass id :=
    spared id (ownBinding_of_receiver (equal ▸ received))
  refine .look (looks_argument scope "value") fun value _ => ?_
  by_cases null : isNull value = true
  · simp only [if_pos null]
    exact stepped_becomeText this "" spared
  · simp only [if_neg null]
    exact .look (looks_expected fun store => store.textOf? value) fun content _ =>
      stepped_becomeText this content spared

theorem stepped_listInit (engine : Engine) :
    Stepped fits manner scope (fun _ => True) store (ListMethod.run engine scope .init store) := by
  refine .look (looks_argument scope "this") fun this received => ?_
  refine .look (looks_argument scope "length") fun length _ => ?_
  refine .look (looks_integerOr "List" 0 length) fun count _ => ?_
  refine .look (looks_repeated count .null) fun items _ => ?_
  cases this with
  | null | number | text | boolean => exact ⟨trivial, .refl⟩
  | «instance» id =>
    have plain (fits : Code → Prop) : (Payload.list ⟨store.cells.size⟩).Fits fits := trivial
    have filled : Change fits manner scope store (store.addCell items).2 := .cell items
    have spared : ¬ (store.addCell items).2.IsClass id := spared id (ownBinding_of_receiver received)
    exact ⟨trivial, .tail (.single filled) (.become id plain (.inr spared))⟩

end

/-- A built-in function that overwrites no class keeps classes, if nested code does. -/
theorem follows_native {runner : Runner} (runs : RunnerFollows Protocol.classes runner) (loopSteps : Nat)
    (native : Native) {scope : FrameId} {store : Store} (classed : store.Classed)
    (spared : native.overwritesClass scope store = false) :
    Followed Protocol.classes scope store (fun _ => True) (native.run ⟨runner, loopSteps⟩ scope store) := by
  by_cases overwrites : native.overwrites = true
  · have receiver (id : InstanceId) (bound : store.ownBinding? scope "this" = some (.instance id)) :
        ¬ store.IsClass id := by
      rw [Native.overwritesClass, overwrites, bound] at spared
      simpa [Store.IsClass] using spared
    rcases Native.eq_init overwrites with rfl | rfl
    · exact (stepped_textInit receiver).followed classed
    · exact (stepped_listInit receiver ⟨runner, loopSteps⟩).followed classed
  · have permits : Manner.sparing.Permits native := ⟨fun _ => rfl, fun yes => absurd yes overwrites⟩
    have acts : Does (fun _ => True) (RunsCode fun _ => True) .sparing scope fun runner =>
      native.run ⟨runner, loopSteps⟩ scope := acts_native asksRuns_runsCode scope loopSteps native permits
    exact acts.follows runs.asks classed

/-! ## Runs -/

/-- Runs code as `runCode` does, except where something else is given to run in its place. -/
def runExcept (instead : FrameId → Code → Store → Option (Eval Completion)) (loopSteps : Nat) : Nat → Runner
  | 0 => fun _ _ => throw .tooDeep
  | levels + 1 => fun scope code => do
    let engine : Engine := ⟨runExcept instead loopSteps levels, loopSteps⟩
    match instead scope code (← get), code with
    | some action, _ => action
    | none, .block body => execBlock engine scope body
    | none, .native native => return .returned (← native.run engine scope)

/-- Something else in place of a built-in function that would make a class into something else. -/
def sparing (instead : Runner) (scope : FrameId) (code : Code) (store : Store) : Option (Eval Completion) :=
  match code with
  | .block _ => none
  | .native native => if native.overwritesClass scope store then some (instead scope code) else none

/-- In addition, something else in place of all code in a store in which something stands for a class and is none. -/
def checking (instead other : Runner) (scope : FrameId) (code : Code) (store : Store) : Option (Eval Completion) :=
  if store.Classed then sparing instead scope code store else some (other scope code)

section

variable {instead other : FrameId → Code → Store → Option (Eval Completion)}

theorem evaluates_sparing : Evaluates (fun _ => True) (RunsCode fun _ => True) .sparing .none :=
  inherits_all.evaluates ⟨rfl, rfl, rfl⟩ rfl

/-- What runs, and what is given instead, keeps classes: then all code does, on every level. -/
theorem follows_runExcept
    (replaced : ∀ scope code store action, store.Classed → instead scope code store = some action →
      Followed Protocol.classes scope store (fun _ => True) (action store))
    (spared : ∀ scope native store, instead scope (.native native) store = none →
      native.overwritesClass scope store = false) (loopSteps levels : Nat) :
    RunnerFollows Protocol.classes (runExcept instead loopSteps levels) := by
  induction levels with
  | zero => exact fun scope code fit store classed => ⟨classed, Protocol.refl _ scope store⟩
  | succ levels ih =>
    intro scope code fit store classed
    simp only [runExcept]
    rw [Eval.get_bind_apply]
    cases given : instead scope code store with
    | some action => exact replaced scope code store action classed given
    | none =>
      cases code with
      | block body => exact (evaluates_sparing.acts_execBlock loopSteps scope trivial).follows ih.asks classed
      | native native =>
        have followed := follows_native ih loopSteps native classed (spared scope native store given)
        exact followed.bind fun _ after _ kept => ⟨trivial, kept, Protocol.refl _ scope after⟩

/-- Nested code that runs alike, as long as classes are classes, gives the same run of a built-in function. -/
theorem agree_native {first second : Runner} (runs : RunnerFollows Protocol.classes first)
    (same : AsksAgree Protocol.classes (RunsCode fun _ => True) first second) (loopSteps : Nat) (native : Native)
    (scope : FrameId) {store : Store} (classed : store.Classed) :
    native.run ⟨second, loopSteps⟩ scope store = native.run ⟨first, loopSteps⟩ scope store := by
  by_cases overwrites : native.overwrites = true
  · rcases Native.eq_init overwrites with rfl | rfl <;> rfl
  · have permits : Manner.sparing.Permits native := ⟨fun _ => rfl, fun yes => absurd yes overwrites⟩
    exact (acts_native asksRuns_runsCode scope loopSteps native permits).agree runs.asks same classed

/-- Runs with the same instead, as long as classes are classes, are the same. -/
theorem runExcept_agree (same : ∀ scope code store, store.Classed → other scope code store = instead scope code store)
    {loopSteps : Nat} (follows : ∀ levels, RunnerFollows Protocol.classes (runExcept instead loopSteps levels))
    (levels : Nat) (scope : FrameId) (code : Code) {store : Store} (classed : store.Classed) :
    runExcept other loopSteps levels scope code store = runExcept instead loopSteps levels scope code store := by
  induction levels generalizing scope code store with
  | zero => rfl
  | succ levels ih =>
    have alike : AsksAgree Protocol.classes (RunsCode fun _ => True) (runExcept instead loopSteps levels)
        (runExcept other loopSteps levels) := by
      intro scope α action question store classed
      cases question with
      | run => exact ih _ _ classed
    simp only [runExcept]
    rw [Eval.get_bind_apply, Eval.get_bind_apply, same scope code store classed]
    cases instead scope code store with
    | some action => rfl
    | none =>
      cases code with
      | block body =>
        exact (evaluates_sparing.acts_execBlock loopSteps scope trivial).agree (follows levels).asks alike classed
      | native native =>
        simp only [Eval.bind_apply]
        rw [agree_native (follows levels) alike loopSteps native scope classed]

end

/-- Classes of a store stay what they are in another store, and what stands for a class there is one. -/
structure Store.StaysClassed (store after : Store) : Prop where
  classed : after.Classed
  keeps : store.KeepsClasses after

/-- Classes stay classes, whatever the runner runs. -/
def SparesClasses (runner : Runner) : Prop :=
  ∀ (scope : FrameId) (code : Code) (store : Store), store.Classed →
    store.StaysClassed ((runner scope code).leaves store)

theorem followed_of_staysClassed {α : Type} {action : Eval α} (scope : FrameId) {store : Store}
    (stays : store.StaysClassed (action.leaves store)) :
    Followed Protocol.classes scope store (fun _ => True) (action store) := by
  rw [Eval.leaves] at stays
  cases run : action store with
  | ok value after =>
    rw [run] at stays
    exact ⟨trivial, stays.classed, stays.keeps⟩
  | error escape after =>
    rw [run] at stays
    exact ⟨stays.classed, stays.keeps⟩

theorem Followed.staysClassed {α : Type} {action : Eval α} {scope : FrameId} {store : Store} {holds : α → Prop}
    (followed : Followed Protocol.classes scope store holds (action store)) :
    store.StaysClassed (action.leaves store) :=
  ⟨followed.leaves.1, followed.leaves.2⟩

/-- Classes stay classes on every level, if built-in functions do not overwrite them. -/
theorem follows_sparing {instead : Runner} (keeps : SparesClasses instead) (loopSteps levels : Nat) :
    RunnerFollows Protocol.classes (runExcept (sparing instead) loopSteps levels) := by
  refine follows_runExcept (fun scope code store action classed given => ?_) (fun scope native store given => ?_)
    loopSteps levels
  · cases code with
    | block => cases given
    | native native =>
      rw [sparing] at given
      split at given
      · cases given
        exact followed_of_staysClassed scope (keeps scope _ store classed)
      · cases given
  · rw [sparing] at given
    split at given
    · cases given
    · simpa using ‹¬ native.overwritesClass scope store = true›

/-! ## Programs -/

theorem Store.classed_initial (settings : Config.Settings) (files : Files.FileSystem) (inputs : List String)
    (clock : Float) : (initial settings files inputs clock).Classed :=
  ⟨nofun, nofun⟩

/-- Whatever asks for the class of an instance finds it. -/
theorem Store.Classed.found {store : Store} (classed : store.Classed) {id : InstanceId}
    (inside : id.index < store.instances.size) :
    ∃ node, Eval.classOf id store = .ok node store ∧ typeName (.instance id) store = .ok node.name store ∧
      ∃ text, Eval.textOf (.instance id) store = .ok text store := by
  have object : store.object id = store.instances[id.index] := by
    rw [Store.object, Array.getElem?_eq_getElem inside, Option.getD_some]
  have isClass := classed.objects _ (Array.getElem_mem inside)
  rw [← object] at isClass
  obtain ⟨node, found⟩ := Option.isSome_iff_exists.mp isClass
  have known : Eval.classOf id store = .ok node store := by
    rw [Eval.classOf, Eval.get_bind_apply, Store.classOf?, found]
    rfl
  refine ⟨node, known, Eval.bind_ok known, ?_⟩
  rw [Eval.textOf, Eval.get_bind_apply, Store.textOf?]
  cases (store.object id).payload with
  | «class» | function | text => exact ⟨_, rfl⟩
  | object | list =>
    rw [Store.classOf?, found]
    exact ⟨_, rfl⟩

namespace Interpreter

/-- The runners for programs, each with something else to do in some places. -/
def runnersExcept (instead : FrameId → Code → Store → Option (Eval Completion)) (limit : Int) : Runner :=
  runExcept instead loopSteps (callLevels limit)

/-- A program that is not affected when built-in functions spare classes keeps classes, and none of its code runs in
a store in which something stands for a class and is none. -/
theorem run_classed {instead : Runner} (keeps : SparesClasses instead) {source file : String} {store : Store}
    (classed : store.Classed)
    (unaffected : runUnder (runnersExcept (sparing instead)) source file store = run source file store) :
    store.StaysClassed ((run source file).leaves store) ∧
    ∀ other, runUnder (runnersExcept (checking instead other)) source file store = run source file store := by
  have follows := follows_sparing keeps loopSteps
  have answers : AsksFollow Protocol.classes (RunsUnder fun _ => True) (runnersExcept (sparing instead)) := by
    intro scope α action question found kept
    cases question with
    | run limit fit => exact follows _ scope _ fit found kept
  have acts : Does (fun _ => True) (RunsUnder fun _ => True) .sparing ⟨0⟩ fun runners =>
    runUnder runners source file := acts_runUnder rfl rfl rfl inherits_all.toAdmits ⟨0⟩ source file
  refine ⟨?_, fun other => ?_⟩
  · have followed := acts.follows answers classed
    rw [unaffected] at followed
    exact followed.staysClassed
  · rw [← unaffected]
    refine acts.agree answers (fun scope α action question found kept => ?_) classed
    cases question with
    | run limit fit =>
      refine runExcept_agree (fun scope code store classed => ?_) follows _ scope _ kept
      rw [checking, if_pos classed]

end Interpreter

/-- Classes stay classes, unless a built-in function makes one into something else. In the first store what stands
for a class is one, and in such a store whatever asks for the class of an instance finds it. If something else that
keeps classes runs in place of the calls that make a class into something else, then all code keeps classes. A
program that is not affected by that leaves all classes what they are, and none of its code runs in a store in which
something stands for a class and is none. -/
theorem classes_stay_classes_unless_overwritten {instead : Runner} (keeps : SparesClasses instead) :
    (∀ settings files inputs clock, (Store.initial settings files inputs clock).Classed) ∧
    (∀ (store : Store) (id : InstanceId), store.Classed → id.index < store.instances.size →
      ∃ node, Eval.classOf id store = .ok node store ∧ typeName (.instance id) store = .ok node.name store ∧
        ∃ text, Eval.textOf (.instance id) store = .ok text store) ∧
    (∀ loopSteps levels, SparesClasses (runExcept (sparing instead) loopSteps levels)) ∧
    ∀ (store : Store) (source file : String), store.Classed →
      Interpreter.runUnder (Interpreter.runnersExcept (sparing instead)) source file store =
        Interpreter.run source file store →
      store.StaysClassed ((Interpreter.run source file).leaves store) ∧
      ∀ other, Interpreter.runUnder (Interpreter.runnersExcept (checking instead other)) source file store =
        Interpreter.run source file store :=
  ⟨Store.classed_initial, fun _ _ classed inside => classed.found inside,
    fun loopSteps levels scope code store classed =>
      (follows_sparing keeps loopSteps levels scope code trivial store classed).staysClassed,
    fun _ _ _ classed unaffected => Interpreter.run_classed keeps classed unaffected⟩

/-- The block is one assignment of a literal. -/
def Block.assignsLiteral : Block → Bool
  | [⟨_, .assign _ none (.literal _)⟩] => true
  | _ => false

theorem Block.of_assignsLiteral {block : Block} (is : block.assignsLiteral = true) :
    ∃ line name value, block = [⟨line, .assign name none (.literal value)⟩] := by
  rw [assignsLiteral.eq_def] at is
  split at is
  · exact ⟨_, _, _, rfl⟩
  · cases is

theorem execBlock_literal (engine : Engine) (scope : FrameId) (line : Int) (name : String) (value : Literal) :
    execBlock engine scope [⟨line, .assign name none (.literal value)⟩] = (do
      Eval.assign scope name (.ofLiteral value)
      return .normal) := by
  simp only [execBlock, execStatement, evalExpr, combined]
  rfl

theorem Interpreter.runProgram_literal {runners : Int → Runner} {line : Int} {name : String} {value : Literal}
    (runs : ∀ limit root, runners limit root (.block [⟨line, .assign name none (.literal value)⟩]) = (do
      Eval.assign root name (.ofLiteral value)
      return .normal)) {source file : String} :
    runProgram runners source file [⟨line, .assign name none (.literal value)⟩] = (do
      let root ← Eval.newRoot file (Origin.rowsOf source) true
      Eval.note (.running file)
      let limit := (← get).settings.recursionLimit
      if greatestLimit < limit then Eval.fault .limitTooLarge
      else do
        Eval.assign root name (.ofLiteral value)
        return .ok ⟨root, .normal⟩) := by
  have attempted (limit : Int) (root : FrameId) :
      attempt (runners limit) root limit [⟨line, .assign name none (.literal value)⟩] = (do
        Eval.assign root name (.ofLiteral value)
        return .ok .normal) := by
    rw [attempt, runs]
    rfl
  simp only [runProgram, attempted, conclude, bind_assoc, pure_bind]

/-- In place of a call that makes a class into something else the run ends, and the program makes no such call. -/
theorem classes_stay_classes_unless_overwritten_in_assignment :
    let ended : Runner := fun _ _ => throw .outOfSteps
    let store : Store := .initial .default ⟨[], []⟩ [] 0
    SparesClasses ended ∧ store.Classed ∧
    Interpreter.runUnder (Interpreter.runnersExcept (sparing ended)) "x = 'a'" "main.toy" store =
      Interpreter.run "x = 'a'" "main.toy" store ∧
    store.StaysClassed ((Interpreter.run "x = 'a'" "main.toy").leaves store) := by
  intro ended store
  have keeps : SparesClasses ended := fun _ _ store classed => ⟨classed, fun _ _ found => found⟩
  have classed : store.Classed := Store.classed_initial _ _ _ _
  have unaffected : Interpreter.runUnder (Interpreter.runnersExcept (sparing ended)) "x = 'a'" "main.toy" store =
      Interpreter.run "x = 'a'" "main.toy" store := by
    -- the program that is read is one assignment of a literal, which asks no runner for anything
    have read : (Module.programIn? "x = 'a'" "main.toy").map Block.assignsLiteral = some true := by decide +kernel
    rw [Interpreter.run_eq_runUnder, Interpreter.runUnder_eq, Interpreter.runUnder_eq, Eval.bind_apply,
      Eval.bind_apply]
    cases parsed : Module.parse "x = 'a'" "main.toy" store with
    | error escape after => rfl
    | ok program after =>
      rw [Module.parse_ok parsed, Option.map_some, Option.some_inj] at read
      obtain ⟨line, name, value, rfl⟩ := Block.of_assignsLiteral read
      refine congrArg (· after) ((Interpreter.runProgram_literal fun limit root => ?_).trans
        (Interpreter.runProgram_literal fun limit root => ?_).symm)
      · obtain ⟨levels, found⟩ := callLevels_eq_succ limit
        rw [Interpreter.runnersExcept, found]
        exact execBlock_literal ⟨runExcept (sparing ended) loopSteps levels, loopSteps⟩ root line name value
      · obtain ⟨levels, found⟩ := callLevels_eq_succ limit
        rw [engineFor, found]
        exact execBlock_literal _ root line name value
  exact ⟨keeps, classed, unaffected,
    ((classes_stay_classes_unless_overwritten keeps).2.2.2 store "x = 'a'" "main.toy" classed unaffected).1⟩

/-- A program that calls the method `init` of texts with a class as its receiver: the class is lost. -/
theorem class_becomes_text :
    let source := "class A:\nend\na = A()\nA.become = ''.init\nA.become('x')\nprintln(typeof(a))\n"
    ¬ ((Interpreter.run source "main.toy").leaves (.initial .default ⟨[], []⟩ [] 0)).Classed := by
  decide +kernel

end LineScript
