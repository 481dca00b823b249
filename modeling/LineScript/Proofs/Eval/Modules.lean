import LineScript.Module.Loader
import LineScript.Proofs.Eval.Calls

/-!
# What loading a module is made of

A new root frame comes after the instances of the built-in library, whose functions are built in and whose
classes are classes (`opened_newRoot`). Loading a module reads its text, makes its root frame and asks a runner
to run the program in it; an escape from there is thrown on after the module is withdrawn.
-/

set_option autoImplicit false

namespace LineScript

/-- The kind of code takes in what comes with the language and what is read from texts. -/
structure Admits (fits : Code → Prop) : Prop where
  native : ∀ native, fits (.native native)
  program : ∀ lines table block table', Program.readProgramLines lines table = .ok block table' →
    fits (.block block)

/-- The program in a source text. -/
def Module.programIn? (source file : String) : Option Block :=
  match (Program.readProgramLines (Source.readLines source (some file))).run .empty with
  | .ok block _ => some block
  | .error _ _ => none

theorem Module.parse_ok {source file : String} {store after : Store} {program : Block}
    (run : Module.parse source file store = .ok program after) : Module.programIn? source file = some program := by
  rw [Module.parse] at run
  rw [Module.programIn?]
  cases read : (Program.readProgramLines (Source.readLines source (some file))).run .empty with
  | error error table =>
    simp only [read] at run
    cases run
  | ok block table =>
    simp only [read] at run
    cases run
    rfl

theorem Admits.programIn {fits : Code → Prop} (admits : Admits fits) {source file : String} {program : Block}
    (read : Module.programIn? source file = some program) : fits (.block program) := by
  rw [Module.programIn?] at read
  cases run : (Program.readProgramLines (Source.readLines source (some file))).run .empty with
  | error error table => simp [run] at read
  | ok block table =>
    rw [run] at read
    cases read
    exact admits.program _ _ _ _ run

/-! ## Root frames -/

/-- What a root frame binds at first: instances, under distinct names. -/
structure Bindings.Installed (bindings : Bindings Value) : Prop where
  distinct : bindings.names.Nodup
  instances : ∀ entry ∈ bindings, ∃ id, entry.2 = .instance id

/-- Some steps change the store and leave every class as it is. -/
structure Builds (fits : Code → Prop) (manner : Manner) (scope : FrameId) (store after : Store) : Prop where
  changes : Changes fits manner scope store after
  classes : ∀ id, store.IsClass id → after.IsClass id

section

variable {fits : Code → Prop} {manner : Manner} {scope : FrameId} {store : Store}

theorem Builds.refl : Builds fits manner scope store store :=
  ⟨.refl, fun _ found => found⟩

theorem Builds.trans {middle after : Store} (first : Builds fits manner scope store middle)
    (second : Builds fits manner scope middle after) : Builds fits manner scope store after :=
  ⟨first.changes.trans second.changes, fun id found => second.classes id (first.classes id found)⟩

theorem Store.IsClass.addInstance {id : InstanceId} (found : store.IsClass id) (object : Instance) :
    (store.addInstance object).2.IsClass id := by
  obtain ⟨node, found⟩ := Option.isSome_iff_exists.mp found
  rw [Store.IsClass, Store.classNode?_addInstance found object]
  rfl

theorem Store.isClass_added (store : Store) (cls : InstanceId) (properties : Bindings Value) (node : ClassNode) :
    (store.addInstance ⟨cls, properties, .class node⟩).2.IsClass ⟨store.instances.size⟩ := by
  have payload : ((store.addInstance ⟨cls, properties, .class node⟩).2.object ⟨store.instances.size⟩).payload =
      .class node := by simp [Store.object, Store.addInstance]
  exact Store.isClass_of_payload payload

theorem builds_newInstance {object : Instance} (fit : object.payload.Fits fits) (made : store.IsClass object.cls) :
    Builds fits manner scope store (store.addInstance object).2 :=
  ⟨.single (.object fit fun _ => made), fun _ found => found.addInstance object⟩

variable (fits manner scope)

theorem builds_setProperties (store : Store) (id : InstanceId) (properties : Bindings Value) :
    ∃ after, Eval.setProperties id properties store = .ok () after ∧ Builds fits manner scope store after := by
  induction properties generalizing store with
  | nil => exact ⟨store, rfl, .refl⟩
  | cons property rest ih =>
    obtain ⟨after, run, built⟩ := ih (store.setProperty id property.1 property.2)
    refine ⟨after, run, Builds.trans ⟨.single (.property id _ _), fun other found => ?_⟩ built⟩
    rwa [Store.IsClass, Store.setProperty, Store.classNode?_modifyInstance store fun _ => rfl]

variable {fits} (native : ∀ native, fits (.native native))

include native

theorem fits_builtinClass (cls : BuiltinClass) : (Payload.class cls.node).Fits fits := by
  intro method member
  obtain ⟨function, _, rfl⟩ := List.mem_map.mp member
  exact native function

theorem builds_newClasses {classClass : InstanceId} (made : store.IsClass classClass) (classes : List BuiltinClass) :
    ∃ found after, Eval.newClasses classClass classes store = .ok found after ∧
      Builds fits manner scope store after ∧ (∀ entry ∈ found, after.IsClass entry.2) ∧
      found.names = classes.map BuiltinClass.name := by
  induction classes generalizing store with
  | nil => exact ⟨[], store, rfl, .refl, nofun, rfl⟩
  | cons cls rest ih =>
    have first : Builds fits manner scope store (store.addInstance ⟨classClass, cls.constants, .class cls.node⟩).2 :=
      builds_newInstance (fits_builtinClass native cls) made
    obtain ⟨found, after, run, built, sound, names⟩ := ih (first.classes _ made)
    refine ⟨(cls.name, ⟨store.instances.size⟩) :: found, after, ?_, first.trans built, fun entry member => ?_, ?_⟩
    · change (Eval.newClasses classClass rest >>= fun found => pure ((cls.name, _) :: found)) _ = _
      exact Eval.bind_ok run
    · rcases List.mem_cons.mp member with rfl | member
      · exact built.classes _ (store.isClass_added _ _ _)
      · exact sound entry member
    · rw [Bindings.names_cons, names, List.map_cons]

theorem builds_newFunctions {functionClass : InstanceId} (made : store.IsClass functionClass)
    (natives : List Native) : ∃ found after, Eval.newFunctions functionClass natives store = .ok found after ∧
      Builds fits manner scope store after ∧ (∀ entry ∈ found, ∃ id, entry.2 = .instance id) ∧
      found.names = natives.map Native.name := by
  induction natives generalizing store with
  | nil => exact ⟨[], store, rfl, .refl, nofun, rfl⟩
  | cons first rest ih =>
    have built : Builds fits manner scope store
        (store.addInstance ⟨functionClass, [], .function (.ofNative first)⟩).2 :=
      builds_newInstance (native first) made
    obtain ⟨found, after, run, others, instances, names⟩ := ih (built.classes _ made)
    refine ⟨(first.name, .instance ⟨store.instances.size⟩) :: found, after, ?_, built.trans others,
      List.forall_mem_cons.mpr ⟨⟨_, rfl⟩, instances⟩, ?_⟩
    · change (Eval.newFunctions functionClass rest >>= fun found => pure ((first.name, _) :: found)) _ = _
      exact Eval.bind_ok run
    · rw [Bindings.names_cons, names, List.map_cons]

theorem builds_installFunctions {functionClass : InstanceId} (made : store.IsClass functionClass)
    (classes : Bindings InstanceId) (holders : List BuiltinClass) :
    ∃ after, Eval.installFunctions functionClass classes holders store = .ok () after ∧
      Builds fits manner scope store after := by
  induction holders generalizing store with
  | nil => exact ⟨store, rfl, .refl⟩
  | cons cls rest ih =>
    rw [Eval.installFunctions]
    cases classes.get? cls.name with
    | none => exact ih made
    | some id =>
      obtain ⟨functions, first, run, built, _⟩ := builds_newFunctions manner scope native made cls.functions
      obtain ⟨second, set, placed⟩ := builds_setProperties fits manner scope first id functions
      obtain ⟨after, installed, others⟩ := ih (placed.classes _ (built.classes _ made))
      refine ⟨after, ?_, (built.trans placed).trans others⟩
      exact (Eval.bind_ok run).trans ((Eval.bind_ok set).trans installed)

variable {manner scope}

/-- A new root frame is added after the built-in library is made, whose classes are the built-in classes of it. -/
theorem newRoot_apply (manner : Manner) (scope : FrameId) (file : String) (rows : List String) (importing : Bool)
    (store : Store) :
    ∃ middle bindings classes, Changes fits manner scope store middle ∧ bindings.Installed ∧
      (∀ entry ∈ classes, middle.IsClass entry.2) ∧
      Eval.newRoot file rows importing store =
        .ok ⟨middle.frames.size⟩ (middle.addFrame ⟨[], bindings, ⟨file, rows, classes, importing⟩⟩).2 := by
  let classClass : InstanceId := ⟨store.instances.size⟩
  let first := (store.addInstance ⟨classClass, [], .class (BuiltinClass.node .metaclass)⟩).2
  have metaclass : Change fits manner scope store first := .metaclass (fits_builtinClass native .metaclass)
  have made : first.IsClass classClass := store.isClass_added _ _ _
  obtain ⟨ordinary, second, classesRun, classesBuilt, sound, classNames⟩ :=
    builds_newClasses manner scope native made BuiltinClass.ordinary
  let classes : Bindings InstanceId := (BuiltinClass.name .metaclass, classClass) :: ordinary
  have all : ∀ entry ∈ classes, second.IsClass entry.2 := by
    intro entry member
    rcases List.mem_cons.mp member with rfl | member
    · exact classesBuilt.classes _ made
    · exact sound entry member
  let functionClass := (classes.get? (BuiltinClass.name .function)).getD classClass
  have function : second.IsClass functionClass := by
    cases found : classes.get? (BuiltinClass.name .function) with
    | none => simpa [functionClass, found] using classesBuilt.classes _ made
    | some id => simpa [functionClass, found] using all _ (Bindings.mem_of_get? found)
  obtain ⟨globals, third, globalsRun, globalsBuilt, instances, globalNames⟩ :=
    builds_newFunctions manner scope native function (GlobalFunction.every.map .global)
  obtain ⟨fourth, installRun, installBuilt⟩ :=
    builds_installFunctions manner scope native (globalsBuilt.classes _ function) classes BuiltinClass.ordinary
  have built := (classesBuilt.trans globalsBuilt).trans installBuilt
  have still : ∀ entry ∈ classes, fourth.IsClass entry.2 :=
    fun entry member => (globalsBuilt.trans installBuilt).classes _ (all entry member)
  let bindings : Bindings Value := classes.map fun entry => (entry.1, Value.instance entry.2)
  have installed : Bindings.Installed (bindings ++ globals) := by
    constructor
    · have classNames : bindings.names = (BuiltinClass.metaclass :: BuiltinClass.ordinary).map BuiltinClass.name := by
        simpa [bindings, classes, Bindings.names, Function.comp_def] using classNames
      rw [Bindings.names_append, classNames, globalNames]
      decide
    · intro entry member
      rcases List.mem_append.mp member with member | member
      · obtain ⟨held, _, rfl⟩ := List.mem_map.mp member
        exact ⟨held.2, rfl⟩
      · exact instances entry member
  refine ⟨fourth, bindings ++ globals, classes, .head metaclass built.changes, installed, still, ?_⟩
  refine (Eval.bind_ok (show Eval.newClassClass store = .ok classClass first from rfl)).trans ?_
  exact (Eval.bind_ok classesRun).trans ((Eval.bind_ok globalsRun).trans (Eval.bind_ok installRun))

/-- Code that loads modules opens a new root frame after the built-in library is made. -/
theorem opened_newRoot (loads : manner.loads = true) (file source : String) (importing : Bool) (store : Store) :
    Opened fits manner scope store (Eval.newRoot file (Origin.rowsOf source) importing store) := by
  obtain ⟨middle, bindings, classes, changes, installed, sound, made⟩ :=
    newRoot_apply native manner scope file (Origin.rowsOf source) importing store
  exact ⟨middle, _, changes, .root loads file source importing bindings (fun _ => sound) installed.distinct, made⟩

end

section

variable {E : Type} {fits : Code → Prop} {asks : FrameId → (α : Type) → (E → Eval α) → Prop} {manner : Manner}
  {scope : FrameId}

/-- What goes on in a new root frame. -/
theorem acts_newRoot (loads : manner.loads = true) (native : ∀ native, fits (.native native)) {α : Type} {holds : α → Prop}
    {next : FrameId → E → Eval α} (file source : String) (importing : Bool)
    (rest : ∀ root, manner.opens root → Acts fits asks manner root holds (next root)) :
    Acts fits asks manner scope holds fun env =>
      Eval.newRoot file (Origin.rowsOf source) importing >>= fun root => next root env :=
  .frame (fun store _ => opened_newRoot native loads file source importing store) rest

/-! ## Loading -/

theorem acts_parse (source file : String) :
    Acts fits asks manner scope (fun program => Module.programIn? source file = some program)
      fun _ => Module.parse source file := by
  simp only [Module.parse, Module.programIn?]
  cases (Program.readProgramLines (Source.readLines source (some file))).run .empty with
  | error error table => exact .throw _
  | ok block table => exact (acts_note _).bind fun _ _ => .pure rfl

theorem acts_resolve (name : String) : Does fits asks manner scope fun _ => Module.resolve name := by
  refine .read fun store _ => ?_
  cases Module.candidates store.settings name with
  | error reason => exact .throw _
  | ok paths =>
    simp only
    cases store.files.firstFile paths with
    | error reason => exact .throw _
    | ok found =>
      cases found with
      | none => exact .throw _
      | some path => exact .pure trivial

theorem acts_readModule (name : String) (path : Files.Path) :
    Does fits asks manner scope fun _ => Module.readModule name path := by
  have read : Does fits asks manner scope fun _ => Module.readSource path := .read fun _ _ => .pure trivial
  refine read.bind fun result _ => ?_
  cases result with
  | ok text => exact .pure trivial
  | error reason => exact .ite (.throw _) (.throw _)

theorem acts_fetch (name : String) :
    Acts fits asks manner scope
      (fun fetched => Module.programIn? fetched.source fetched.path.text = some fetched.program)
      fun _ => Module.fetch name := by
  refine (acts_resolve name).bind fun path _ => (acts_note _).bind fun _ _ => ?_
  refine (acts_readModule name path).bind fun source _ => ?_
  exact (acts_parse source path.text).bind fun program read => .pure read

theorem acts_setProperties (id : InstanceId) (properties : Bindings Value) :
    Does fits asks manner scope fun _ => Eval.setProperties id properties := by
  induction properties with
  | nil => exact .pure trivial
  | cons property rest ih => exact (acts_setProperty id _ _).bind fun _ _ => ih

section

variable {run : E → Runner} (calls : AsksRuns fits asks manner run) (loads : manner.loads = true)
  (native : ∀ native, fits (.native native)) (importer : FrameId) {fetched : Module.Fetched}
  (fit : fits (.block fetched.program))

include calls loads native fit

theorem acts_runModule (object : InstanceId) :
    Does fits asks manner scope fun env => Module.runModule (run env) importer object fetched := by
  refine .read fun _ _ => acts_newRoot loads native _ _ _ fun root opened => .read fun _ _ => ?_
  refine (Acts.ask (calls.run root _ opened fit)).bind fun _ _ => .read fun _ _ => ?_
  exact acts_setProperties object _

/-- A module that is fetched is made known, runs, and is withdrawn if it throws or fails. -/
theorem acts_install (name : String) :
    Does fits asks manner scope fun env => Module.install (run env) importer name fetched := by
  have object : Does fits asks manner scope fun _ => (do
      let cls ← Eval.builtinClass importer "Object"
      Eval.newInstance ⟨cls, [], .object⟩) :=
    .builtin fun _ _ found => ⟨_, _, rfl, .single (.ofBuiltin found trivial)⟩
  simp only [Module.install, ← bind_assoc (Eval.builtinClass importer "Object")]
  refine object.bind fun object _ => (Acts.step fun store => .modules loads _).bind fun _ _ => ?_
  refine Acts.bind (.rethrow (acts_runModule calls loads native importer fit object) fun escape store => ?_)
    fun _ (_ : True) => .pure trivial
  cases escape.withdrawsModule with
  | true => exact ⟨_, rfl, .single (.modules loads _)⟩
  | false => exact ⟨_, rfl, .refl⟩

end

theorem acts_load {run : E → Runner} (calls : AsksRuns fits asks manner run) (loads : manner.loads = true)
    (admits : Admits fits) (importer : FrameId) (name : String) :
    Does fits asks manner scope fun env => Module.load (run env) importer name := by
  refine .read fun store _ => ?_
  cases store.modules.get? name with
  | some object => exact .pure trivial
  | none =>
    exact (acts_fetch name).bind fun _ read =>
      acts_install calls loads admits.native importer (admits.programIn read) name

end

end LineScript
