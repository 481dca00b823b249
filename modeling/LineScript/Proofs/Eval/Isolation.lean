import LineScript.Proofs.Eval.Programs
import LineScript.Proofs.Store.Frames

/-!
# Scopes are isolated

Code in a frame binds and deletes names in that frame, and it binds names anew in frames around it by nonlocal
assignments. All other code that it sets going runs in frames of its own: calls, bodies of classes and modules.
So the other frames of the store keep their names, however the code ends, and they keep their bindings if there
is no nonlocal assignment in the code, in the functions of the store, and in the modules that may be imported.

Both are protocols of evaluation, for two ways in which bindings can be the same (`Lenient`).
-/

set_option autoImplicit false

namespace LineScript

/-! ## Isolated frames -/

/-- The frames of a store other than one are there in another store, with bindings that are the same in some
sense. -/
structure Isolated (same : Bindings Value → Bindings Value → Prop) (scope : FrameId) (store after : Store) :
    Prop where
  grows : store.frames.size ≤ after.frames.size
  frames : ∀ id : FrameId, id.index < store.frames.size → id ≠ scope →
    same (store.frame id).bindings (after.frame id).bindings

/-- A sense in which bindings are the same for a manner: if names may be bound anew, that makes no difference. -/
structure Lenient (manner : Manner) (same : Bindings Value → Bindings Value → Prop) : Prop where
  refl : ∀ bindings, same bindings bindings
  trans : ∀ {first second third}, same first second → same second third → same first third
  rebound : manner.rebinds = true → ∀ bindings name value, bindings.binds name = true →
    same bindings (bindings.set name value)

/-- Bindings of the same names. -/
theorem lenient_names (manner : Manner) : Lenient manner fun first second => second.names = first.names where
  refl _ := rfl
  trans first second := second.trans first
  rebound _ _ _ _ binds := Bindings.names_set_of_bound (Bindings.get?_isSome_iff.mp binds)

/-- The very same bindings, where no name is bound anew. -/
theorem lenient_eq {manner : Manner} (fixed : manner.rebinds = false) : Lenient manner fun first second => second = first where
  refl _ := rfl
  trans first second := second.trans first
  rebound rebinds := by
    rw [fixed] at rebinds
    cases rebinds

section

variable {fits : Code → Prop} {manner : Manner} {same : Bindings Value → Bindings Value → Prop}
  (lenient : Lenient manner same) {scope : FrameId} {store after : Store}

include lenient

theorem Isolated.refl (scope : FrameId) (store : Store) : Isolated same scope store store :=
  ⟨Nat.le_refl _, fun _ _ _ => lenient.refl _⟩

theorem Isolated.trans {first second third : Store} (before : Isolated same scope first second)
    (later : Isolated same scope second third) : Isolated same scope first third where
  grows := Nat.le_trans before.grows later.grows
  frames id inside different :=
    lenient.trans (before.frames id inside different)
      (later.frames id (Nat.lt_of_lt_of_le inside before.grows) different)

/-- A change in a frame leaves the others alone. -/
theorem Change.isolated (change : Change fits manner scope store after) : Isolated same scope store after := by
  refine ⟨change.extends.grows, fun id inside different => ?_⟩
  rcases change.frames with equal | ⟨update, frames⟩ | ⟨other, name, value, rebinds, binds, frames⟩
  · rw [Store.frame_congr equal]
    exact lenient.refl _
  · rw [Store.frame_congr frames, Store.frame_modifyBindings_of_ne different]
    exact lenient.refl _
  · rw [Store.frame_congr frames]
    by_cases here : id = other
    · subst here
      rw [Store.bindings_modifyBindings inside]
      exact lenient.rebound rebinds _ name value binds
    · rw [Store.frame_modifyBindings_of_ne here]
      exact lenient.refl _

omit lenient

/-- What goes on in a new frame leaves all older frames alone. -/
theorem Isolated.ofInner (scope : FrameId) {frame : Frame}
    (inner : Isolated same ⟨store.frames.size⟩ (store.addFrame frame).2 after) : Isolated same scope store after := by
  have added : (store.addFrame frame).2.frames.size = store.frames.size + 1 := by simp [Store.addFrame]
  have grows := inner.grows
  refine ⟨by omega, fun id inside _ => ?_⟩
  have older : id ≠ ⟨store.frames.size⟩ := fun equal => Nat.lt_irrefl _ (equal ▸ inside)
  have kept := inner.frames id (by omega) older
  rwa [Store.frame_addFrame inside] at kept

end

/-- Code keeps to its frame, in a store with functions of one kind; settings and files stay as they are. -/
def Protocol.isolation {fits : Code → Prop} {manner : Manner} {same : Bindings Value → Bindings Value → Prop}
    (lenient : Lenient manner same) (opens : ∀ frame, manner.opens frame) (settings : Config.Settings)
    (files : Files.FileSystem) : Protocol fits manner where
  good store := store.Fits fits ∧ store.settings = settings ∧ store.files = files
  step := Isolated same
  kind good := good.1
  refl := Isolated.refl lenient
  trans := Isolated.trans lenient
  change good change := by
    refine ⟨⟨change.fits good.1, ?_⟩, change.isolated lenient⟩
    cases change <;> exact good.2
  opens _ := opens _
  frame good _ := good
  inner scope _ _ _ _ inner := inner.ofInner scope

/-! ## Code without nonlocal assignments -/

/-- The statement is no nonlocal assignment, and it imports no other modules than some. -/
def Statement.Local (modules : String → Prop) : Statement → Prop
  | .nonlocal _ _ _ => False
  | .importModule path _ => modules (moduleName path)
  | _ => True

/-- Every statement of the code is local. -/
def Code.Local (modules : String → Prop) : Code → Prop
  | .block body => EveryStatement.block (Statement.Local modules) body
  | .native _ => True

/-- The settings and the files have a program for a module. -/
def Module.HasProgram (settings : Config.Settings) (files : Files.FileSystem) (name : String) (program : Block) :
    Prop :=
  ∃ paths path encoding source, candidates settings name = .ok paths ∧ files.firstFile paths = .ok (some path) ∧
    encodingName settings.encoding = .ok encoding ∧ files.readText path encoding = .ok source ∧
    programIn? source path.text = some program

/-- The functions of the store hold local code, and so do the modules that may be imported. -/
structure Store.Local (modules : String → Prop) (store : Store) : Prop where
  functions : store.Fits (Code.Local modules)
  imports : ∀ name, modules name → ∀ program, Module.HasProgram store.settings store.files name program →
    (Code.block program).Local modules

/-- The manner of code that binds no names of outer frames anew. -/
def Manner.local : Manner :=
  { Manner.free with rebinds := false }

theorem Module.resolve_ok {name : String} {store after : Store} {path : Files.Path}
    (run : Module.resolve name store = .ok path after) : after = store ∧ ∃ paths,
      Module.candidates store.settings name = .ok paths ∧ store.files.firstFile paths = .ok (some path) := by
  rw [Module.resolve, Eval.get_bind_apply] at run
  cases candidates : Module.candidates store.settings name with
  | error reason =>
    rw [candidates] at run
    cases run
  | ok paths =>
    simp only [candidates] at run
    cases first : store.files.firstFile paths with
    | error reason =>
      rw [first] at run
      cases run
    | ok found =>
      rw [first] at run
      cases found with
      | none => cases run
      | some other =>
        cases run
        exact ⟨rfl, paths, rfl, first⟩

theorem Module.readModule_ok {name : String} {path : Files.Path} {store after : Store} {source : String}
    (run : Module.readModule name path store = .ok source after) : after = store ∧ ∃ encoding,
      Module.encodingName store.settings.encoding = .ok encoding ∧ store.files.readText path encoding = .ok source := by
  rw [Module.readModule] at run
  obtain ⟨result, middle, read, rest⟩ := Eval.of_bind_ok run
  rw [Module.readSource, Eval.get_bind_apply] at read
  cases read
  cases named : Module.encodingName store.settings.encoding with
  | error reason =>
    simp only [named, bind, Except.bind] at rest
    by_cases reported : reason.isReported = true
    · rw [if_pos reported] at rest
      cases rest
    · rw [if_neg reported] at rest
      cases rest
  | ok encoding =>
    simp only [named, bind, Except.bind] at rest
    cases text : store.files.readText path encoding with
    | error reason =>
      rw [text] at rest
      by_cases reported : reason.isReported = true
      · simp only [if_pos reported] at rest
        cases rest
      · simp only [if_neg reported] at rest
        cases rest
    | ok found =>
      rw [text] at rest
      cases rest
      exact ⟨rfl, encoding, rfl, text⟩

/-- What is fetched for a module is a program that the settings and the files have for it. -/
theorem Module.hasProgram_of_fetch {name : String} {store after : Store} {fetched : Module.Fetched}
    (run : Module.fetch name store = .ok fetched after) :
    Module.HasProgram store.settings store.files name fetched.program := by
  rw [Module.fetch] at run
  obtain ⟨path, first, resolved, afterPath⟩ := Eval.of_bind_ok run
  obtain ⟨rfl, paths, candidates, found⟩ := Module.resolve_ok resolved
  obtain ⟨_, second, noted, afterNote⟩ := Eval.of_bind_ok afterPath
  cases noted
  obtain ⟨source, third, read, afterText⟩ := Eval.of_bind_ok afterNote
  obtain ⟨rfl, encoding, named, text⟩ := Module.readModule_ok read
  obtain ⟨program, fourth, parsed, done⟩ := Eval.of_bind_ok afterText
  cases done
  exact ⟨paths, path, encoding, source, candidates, found, named, text, Module.parse_ok parsed⟩

/-! ## Runs -/

/-- The questions how local code runs, and how a module is loaded. -/
inductive RunsLocal (modules : String → Prop) : FrameId → (α : Type) → (Runner → Eval α) → Prop where
  | run {scope : FrameId} {code : Code} (fit : code.Local modules) :
      RunsLocal modules scope Completion fun runner => runner scope code
  | load {scope : FrameId} {name : String} (admitted : modules name) :
      RunsLocal modules scope InstanceId fun runner => Module.load runner scope name

section

variable {modules : String → Prop}

theorem evaluates_local : Evaluates (Code.Local modules) (RunsLocal modules) .local
    (.everyStatement (Statement.Local modules)) where
  heredity := Conditions.hereditary_everyStatement _
  literal _ all := all
  run := ⟨fun _ _ _ fit => .run fit⟩
  load _ _ _ all := .ask (.load all)
  marks := rfl
  allows statement all := by
    refine ⟨fun _ _ _ _ => rfl, fun name operator value equal => ?_⟩
    subst equal
    exact all.self.elim

variable {store : Store} (imports : ∀ name, modules name → ∀ program,
  Module.HasProgram store.settings store.files name program → (Code.block program).Local modules)

/-- Local code keeps to its frame, with the modules that a store has. -/
def Protocol.local (modules : String → Prop) (store : Store) : Protocol (Code.Local modules) .local :=
  .isolation (lenient_eq rfl) (fun _ => trivial) store.settings store.files

include imports

/-- A module that may be imported runs local code. -/
theorem follows_load {runner : Runner} (runs : RunnerFollows (.local modules store) runner) (scope : FrameId)
    {name : String} (admitted : modules name) {found : Store} (good : (Protocol.local modules store).good found) :
    Followed (.local modules store) scope found (fun _ => True) (Module.load runner scope name found) := by
  rw [Module.load, Eval.get_bind_apply]
  cases found.modules.get? name with
  | some object => exact ⟨trivial, good, Protocol.refl _ _ _⟩
  | none =>
    have acts : Acts (Code.Local modules) (RunsCode (Code.Local modules)) .local scope _ fun _ : Runner =>
      Module.fetch name := acts_fetch name
    have fetches : Followed (.local modules store) scope found
        (fun fetched => (Code.block fetched.program).Local modules) (Module.fetch name found) := by
      have followed := acts.follows runs.asks good
      cases run : Module.fetch name found with
      | error escape after =>
        rw [run] at followed
        exact followed
      | ok fetched after =>
        rw [run] at followed
        have stands := Module.hasProgram_of_fetch run
        rw [good.2.1, good.2.2] at stands
        exact ⟨imports name admitted _ stands, followed.2⟩
    refine fetches.bind fun fetched after fit kept => ?_
    exact (acts_install asksRuns_runsCode rfl (fun _ => trivial) scope fit name).follows runs.asks kept

theorem asksFollow_local (runner : Runner) (runs : RunnerFollows (.local modules store) runner) :
    AsksFollow (.local modules store) (RunsLocal modules) runner := by
  intro scope α action question found good
  cases question with
  | run fit => exact runs scope _ fit found good
  | load admitted => exact follows_load imports runs scope admitted good

theorem runnerFollows_local (loopSteps levels : Nat) :
    RunnerFollows (.local modules store) (runCode loopSteps levels) :=
  follows_runCode evaluates_local (fun _ all => all) (Manner.permits rfl rfl) (asksFollow_local imports) loopSteps levels

end

/-! ## Isolation -/

section

variable (loopSteps levels : Nat) (scope : FrameId) (statement : Statement) (store : Store)

/-- A statement leaves the names of the other frames as they are. -/
theorem isolated_names : Isolated (fun first second => second.names = first.names) scope store
    ((execStatement ⟨runCode loopSteps levels, loopSteps⟩ scope statement).leaves store) := by
  let protocol : Protocol (fun _ => True) .free :=
    .isolation (lenient_names .free) (fun _ => trivial) store.settings store.files
  have evaluates : Evaluates (fun _ => True) (RunsCode fun _ => True) .free .none :=
    inherits_all.evaluates ⟨rfl, rfl, rfl⟩ rfl
  have acts : Does (fun _ => True) (RunsCode fun _ => True) .free scope fun runner =>
    execStatement ⟨runner, loopSteps⟩ scope statement := evaluates.acts_execStatement loopSteps scope trivial
  have runs := inherits_all.follows loopSteps protocol levels
  exact (acts.follows runs.asks ⟨store.fits_all, rfl, rfl⟩).leaves.2

/-- A local statement leaves the bindings of the other frames as they are, and the store local. -/
theorem isolated_bindings {modules : String → Prop} (all : statement.EveryStatement (Statement.Local modules))
    (good : store.Local modules) :
    let after := (execStatement ⟨runCode loopSteps levels, loopSteps⟩ scope statement).leaves store
    Isolated (fun first second => second = first) scope store after ∧ after.Local modules := by
  have acts := evaluates_local.acts_execStatement loopSteps scope all
  have runs := runnerFollows_local good.imports loopSteps levels
  have followed := acts.follows (asksFollow_local good.imports _ runs) ⟨good.functions, rfl, rfl⟩
  obtain ⟨⟨functions, settings, files⟩, isolated⟩ := followed.leaves
  refine ⟨isolated, functions, ?_⟩
  rw [settings, files]
  exact good.imports

/-- A local program leaves the store local. -/
theorem local_run {modules : String → Prop} (source file : String)
    (all : ∀ program, Module.programIn? source file = some program → (Code.block program).Local modules)
    (good : store.Local modules) : ((Interpreter.run source file).leaves store).Local modules := by
  have answers : AsksFollow (.local modules store) (Interpreter.RunsUnder (Code.Local modules))
      fun limit => (engineFor limit).run := by
    intro scope α action question found kept
    cases question with
    | run limit fit => exact runnerFollows_local good.imports _ _ scope _ fit found kept
  have acts : Does (Code.Local modules) (Interpreter.RunsUnder (Code.Local modules)) .local ⟨0⟩ fun runners =>
      Interpreter.runUnder runners source file :=
    (acts_parse source file).bind fun program read =>
      Interpreter.acts_runProgram rfl rfl rfl (fun _ => trivial) ⟨0⟩ source file (all program read)
  obtain ⟨⟨functions, settings, files⟩, _⟩ := (acts.follows answers ⟨good.functions, rfl, rfl⟩).leaves
  refine ⟨functions, ?_⟩
  rw [Interpreter.run_eq_runUnder, settings, files]
  exact good.imports

end

/-- Scopes are isolated. A statement leaves the other frames with the names they have, whatever it calls, makes or
imports and however it ends. If it has no nonlocal assignment, and neither have the functions of the store and the
modules that may be imported, then it leaves them with the bindings they have, and the store is such a store again;
and so do programs without nonlocal assignments. -/
theorem scopes_are_isolated (loopSteps levels : Nat) (scope : FrameId) (statement : Statement) (store : Store) :
    let after := (execStatement ⟨runCode loopSteps levels, loopSteps⟩ scope statement).leaves store
    Isolated (fun first second => second.names = first.names) scope store after ∧
    ∀ modules, store.Local modules →
      (statement.EveryStatement (Statement.Local modules) →
        Isolated (fun first second => second = first) scope store after ∧ after.Local modules) ∧
      ∀ source file,
        (∀ program, Module.programIn? source file = some program → (Code.block program).Local modules) →
        ((Interpreter.run source file).leaves store).Local modules :=
  ⟨isolated_names loopSteps levels scope statement store, fun _ good =>
    ⟨fun all => isolated_bindings loopSteps levels scope statement store all good,
      fun source file all => local_run store source file all good⟩⟩

/-- A call, in an inner frame, of a function that binds a name of an outer frame for itself and then imports a
module: the outer frame is as it was. -/
theorem scopes_are_isolated_from_call :
    let function : Function := ⟨"f", [], .block [⟨1, .assign "x" none (.literal (.boolean true))⟩,
      ⟨2, .importModule ["m"] none⟩], some ⟨0⟩⟩
    let outer : Frame := ⟨[], [("x", .null), ("f", .instance ⟨0⟩)], ⟨"main.toy", [], [], true⟩⟩
    let store : Store := { Store.initial .default ⟨[], []⟩ [] 0 with
      frames := #[outer, ⟨[⟨0⟩], [], outer.origin⟩], instances := #[⟨⟨0⟩, [], .function function⟩] }
    let call : Statement := .expression (.call (.variable "f") [])
    store.Local (· = "m") ∧ call.EveryStatement (Statement.Local (· = "m")) ∧
    Isolated (fun first second => second = first) ⟨1⟩ store
      ((execStatement ⟨runCode 1 2, 1⟩ ⟨1⟩ call).leaves store) := by
  intro function outer store call
  have candidates : Module.candidates .default "m" = .ok [⟨"", ["m.toy"]⟩] := rfl
  have missing : (⟨[], []⟩ : Files.FileSystem).firstFile [⟨"", ["m.toy"]⟩] = .ok none := by decide +kernel
  have good : store.Local (· = "m") := by
    refine ⟨fun object member => ?_, fun name here program stands => ?_⟩
    · obtain rfl : object = ⟨⟨0⟩, [], .function function⟩ := by simpa [store] using member
      exact ⟨⟨trivial, trivial⟩, rfl, trivial⟩
    · subst here
      obtain ⟨paths, path, encoding, source, named, found, _⟩ := stands
      cases candidates.symm.trans named
      cases missing.symm.trans found
  have all : call.EveryStatement (Statement.Local (· = "m")) := ⟨trivial, trivial, trivial⟩
  exact ⟨good, all, (((scopes_are_isolated 1 2 ⟨1⟩ call store).2 _ good).1 all).1⟩

end LineScript
