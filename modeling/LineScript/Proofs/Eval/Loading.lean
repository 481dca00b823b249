import LineScript.Proofs.Eval.Courses
import LineScript.Proofs.Eval.Isolation

/-!
# How a module is loaded

The loading of a module starts with a program from a file, an instance for the module, an entry in the table of the
modules and a root frame (`Module.start`). Then the program runs, and the loading is finished by how that ended
(`Module.finish`). `Module.Begun` says what has changed when the program begins to run.

Apart from loading, code opens no root frames and leaves the table of the modules alone: it is quiet. Whatever code
does, the store grows (`Store.Grows`), and the roots of the store are the root frames opened so far.
-/

set_option autoImplicit false

namespace LineScript

/-! ## Growth -/

/-- What stays of a store, whatever code does: the settings and the files, the places of the frames, and the instances.
Names stay distinct in a frame in which they are. -/
structure Store.Grows (store after : Store) : Prop where
  settings : after.settings = store.settings
  files : after.files = store.files
  instances : store.instances.size ≤ after.instances.size
  frames : store.frames.size ≤ after.frames.size
  paths : ∀ id : FrameId, id.index < store.frames.size → (after.frame id).path = (store.frame id).path
  distinct : ∀ id : FrameId, id.index < store.frames.size → (store.frame id).bindings.names.Nodup →
    (after.frame id).bindings.names.Nodup

namespace Store.Grows

variable {first second third : Store}

theorem refl (store : Store) : store.Grows store :=
  ⟨rfl, rfl, Nat.le_refl _, Nat.le_refl _, fun _ _ => rfl, fun _ _ same => same⟩

theorem trans (before : first.Grows second) (after : second.Grows third) : first.Grows third where
  settings := after.settings.trans before.settings
  files := after.files.trans before.files
  instances := Nat.le_trans before.instances after.instances
  frames := Nat.le_trans before.frames after.frames
  paths id inside := by rw [after.paths id (Nat.lt_of_lt_of_le inside before.frames), before.paths id inside]
  distinct id inside names :=
    after.distinct id (Nat.lt_of_lt_of_le inside before.frames) (before.distinct id inside names)

theorem addFrame (store : Store) (frame : Frame) : store.Grows (store.addFrame frame).2 where
  settings := rfl
  files := rfl
  instances := Nat.le_refl _
  frames := by simp [Store.addFrame]
  paths _ inside := by rw [Store.frame_addFrame inside]
  distinct _ inside names := by rwa [Store.frame_addFrame inside]

/-- The table of the modules is no part of what stays. -/
theorem modules (store : Store) (modules : Bindings InstanceId) : store.Grows { store with modules := modules } :=
  ⟨rfl, rfl, Nat.le_refl _, Nat.le_refl _, fun _ _ => rfl, fun _ _ same => same⟩

end Store.Grows

theorem Store.grows_modifyBindings (store : Store) (other : FrameId) {change : Bindings Value → Bindings Value}
    (keeps : ∀ bindings : Bindings Value, bindings.names.Nodup → (change bindings).names.Nodup) :
    store.Grows (store.modifyBindings other change) where
  settings := rfl
  files := rfl
  instances := Nat.le_refl _
  frames := by rw [Store.size_modifyBindings]
  paths _ _ := Store.path_modifyBindings change
  distinct _ _ names := Store.nodup_modifyBindings keeps names

variable {store after : Store} {fits : Code → Prop}

theorem Change.grows {manner : Manner} {scope : FrameId} (change : Change fits manner scope store after) :
    store.Grows after := by
  have same {after : Store} (settings : after.settings = store.settings) (files : after.files = store.files)
      (frames : after.frames = store.frames) (instances : store.instances.size ≤ after.instances.size) :
      store.Grows after :=
    ⟨settings, files, instances, Nat.le_of_eq (congrArg _ frames.symm), fun _ _ => by rw [Store.frame_congr frames],
      fun _ _ names => by rwa [Store.frame_congr frames]⟩
  cases change with
  | object | metaclass => exact same rfl rfl rfl (by simp [Store.addInstance])
  | become | property => exact same rfl rfl rfl (by simp [Store.setPayload, Store.setProperty, Store.modifyInstance])
  | cell | items | surroundings | modules => exact same rfl rfl rfl (Nat.le_refl _)
  | assign | assignNonlocal => exact store.grows_modifyBindings _ fun _ names => Bindings.nodup_set names
  | delete => exact store.grows_modifyBindings _ fun _ names => Bindings.nodup_erase names

/-! ## Root frames -/

/-- The root frames of a store, from the first opened to the last. -/
def Store.roots (store : Store) : List FrameId :=
  ((List.range store.frames.size).map FrameId.mk).filter fun id => (store.frame id).path.isEmpty

theorem Store.roots_congr (size : after.frames.size = store.frames.size)
    (paths : ∀ id : FrameId, id.index < store.frames.size → (after.frame id).path = (store.frame id).path) :
    after.roots = store.roots := by
  rw [Store.roots, Store.roots, size]
  refine List.filter_congr fun id member => ?_
  obtain ⟨index, inside, rfl⟩ := List.mem_map.mp member
  rw [paths ⟨index⟩ (List.mem_range.mp inside)]

theorem Store.roots_addFrame (store : Store) (frame : Frame) :
    (store.addFrame frame).2.roots = store.roots ++ if frame.path.isEmpty then [⟨store.frames.size⟩] else [] := by
  have older : ((List.range store.frames.size).map FrameId.mk).filter
      (fun id => ((store.addFrame frame).2.frame id).path.isEmpty) = store.roots := by
    refine List.filter_congr fun id member => ?_
    obtain ⟨index, inside, rfl⟩ := List.mem_map.mp member
    rw [Store.frame_addFrame (List.mem_range.mp inside)]
  have size : (store.addFrame frame).2.frames.size = store.frames.size + 1 := by simp [Store.addFrame]
  rw [Store.roots, size, List.range_succ, List.map_append, List.filter_append, older]
  simp only [List.map_cons, List.map_nil, List.filter_singleton, Store.frame_added]
  cases frame.path.isEmpty <;> rfl

/-! ## Quiet code -/

/-- The manner of code that loads no modules and looks at no escapes. -/
def Manner.quiet : Manner :=
  { Manner.free with inspects := false, loads := false }

/-- What code does in one step, apart from loading. -/
inductive QuietStep (fits : Code → Prop) (store : Store) : Store → Prop where
  | change {scope : FrameId} {after : Store} (change : Change fits .quiet scope store after) : QuietStep fits store after
  | frame (parent : FrameId) (bindings : Bindings Value) :
      QuietStep fits store (store.addFrame (store.childFrame parent bindings)).2

/-- What code does in some steps, apart from loading. -/
abbrev Quiet (fits : Code → Prop) : Store → Store → Prop :=
  Relation.ReflTransGen (QuietStep fits)

section

variable {fits : Code → Prop} {store after : Store}

theorem QuietStep.grows (step : QuietStep fits store after) : store.Grows after := by
  cases step with
  | change change => exact change.grows
  | frame parent bindings => exact .addFrame store _

theorem Change.modules_of_quiet {manner : Manner} {scope : FrameId} (change : Change fits manner scope store after)
    (quiet : manner.loads = false) : after.modules = store.modules := by
  cases change with
  | modules loads =>
    rw [quiet] at loads
    cases loads
  | object | metaclass | become | property | cell | items | assign | assignNonlocal | delete | surroundings => rfl

theorem QuietStep.modules (step : QuietStep fits store after) : after.modules = store.modules := by
  cases step with
  | frame => rfl
  | change change => exact change.modules_of_quiet rfl

theorem QuietStep.roots (step : QuietStep fits store after) : after.roots = store.roots := by
  cases step with
  | change change => exact Store.roots_congr change.size change.grows.paths
  | frame parent bindings => rw [Store.roots_addFrame]; exact List.append_nil _

theorem QuietStep.kind (step : QuietStep fits store after) (good : store.Fits fits) : after.Fits fits := by
  cases step with
  | change change => exact change.fits good
  | frame => exact good

theorem Quiet.grows (quiet : Quiet fits store after) : store.Grows after := by
  induction quiet with
  | refl => exact .refl store
  | tail _ step ih => exact ih.trans step.grows

theorem Quiet.modules (quiet : Quiet fits store after) : after.modules = store.modules := by
  induction quiet with
  | refl => rfl
  | tail _ step ih => exact step.modules.trans ih

theorem Quiet.roots (quiet : Quiet fits store after) : after.roots = store.roots := by
  induction quiet with
  | refl => rfl
  | tail _ step ih => exact step.roots.trans ih

theorem Quiet.kind (quiet : Quiet fits store after) (good : store.Fits fits) : after.Fits fits := by
  induction quiet with
  | refl => exact good
  | tail _ step ih => exact step.kind ih

theorem Quiet.of_changes {scope : FrameId} (changes : Changes fits .quiet scope store after) : Quiet fits store after :=
  changes.lift id fun _ _ change => .change change

end

/-- Quiet code, however it ends. -/
def Course.quiet (fits : Code → Prop) : Course fits .quiet where
  good _ store := store.Fits fits
  step := Quiet fits
  ends _ := Quiet fits
  fatal _ := False
  kind good := good
  opens _ := trivial
  keeps good quiet := Quiet.kind quiet good
  kept good quiet := Quiet.kind quiet good
  refl _ := .refl
  trans first second := first.trans second
  throws _ _ _ := .refl
  before first second := first.trans second
  later first second := first.trans second
  caught quiet := quiet
  passes _ _ _ _ _ _ quiet := quiet
  change _ change := .single (.change change)
  frame good new := by
    cases new with
    | child parent bindings => exact ⟨.single (.frame parent bindings), good⟩
    | root loads => cases loads
  uncaught := Escape.isException_of_false
  fatal_pass _ _ := id

/-- An evaluation that asks nothing is quiet. -/
theorem Acts.quiet {scope : FrameId} {α : Type} {holds : α → Prop} {action : Eval α}
    (acts : Acts fits (fun _ _ _ => False) .quiet scope holds fun _ : Unit => action) (good : store.Fits fits) :
    (Course.quiet fits).Outcome holds store (action store) := by
  have answers : AsksCarried (Course.quiet fits) (fun _ _ _ => False) () () := fun _ _ _ question => question.elim
  exact (acts.carried rfl answers good).outcome fun _ => id

theorem newRoot_total (file : String) (rows : List String) (importing : Bool) (store : Store) :
    ∃ root after, Eval.newRoot file rows importing store = .ok root after := by
  obtain ⟨middle, bindings, classes, _, _, _, made⟩ :=
    @newRoot_apply (fun _ => True) (fun _ => trivial) .quiet ⟨0⟩ file rows importing store
  exact ⟨_, _, made⟩

/-- What a new root frame does to a store. -/
structure Rooted (fits : Code → Prop) (store : Store) (root : FrameId) (after : Store) : Prop where
  kind : store.Fits fits → after.Fits fits
  grows : store.Grows after
  modules : after.modules = store.modules
  roots : after.roots = store.roots ++ [root]
  inside : root.index < after.frames.size
  path : (after.frame root).path = []
  installed : (after.frame root).bindings.Installed

theorem rooted_of_newRoot (native : ∀ native, fits (.native native)) {file : String} {rows : List String}
    {importing : Bool} {root : FrameId} (opens : Eval.newRoot file rows importing store = .ok root after) :
    Rooted fits store root after := by
  obtain ⟨opened, bindings, classes, changes, installed, _, made⟩ :=
    newRoot_apply native .quiet ⟨0⟩ file rows importing store
  rw [opens] at made
  obtain ⟨rfl, rfl⟩ : root = _ ∧ after = _ := by injection made with same other; exact ⟨same, other⟩
  have quiet : Quiet fits store opened := .of_changes changes
  refine ⟨quiet.kind, quiet.grows.trans (.addFrame opened _), quiet.modules, ?_, by simp [Store.addFrame], ?_, ?_⟩
  · rw [Store.roots_addFrame, quiet.roots]
    rfl
  · rw [Store.frame_added]
  · rwa [Store.frame_added]

/-! ## The parts of loading -/

/-- What ends with an escape does so in one of its steps. -/
theorem Eval.of_bind_error {α β : Type} {action : Eval α} {next : α → Eval β} {escape : Escape}
    (run : (action >>= next) store = .error escape after) : action store = .error escape after ∨
      ∃ value middle, action store = .ok value middle ∧ next value middle = .error escape after := by
  rw [Eval.bind_apply] at run
  cases first : action store with
  | ok value middle =>
    rw [first] at run
    exact .inr ⟨value, middle, rfl, run⟩
  | error other middle =>
    rw [first] at run
    cases run
    exact .inl rfl

namespace Module

/-- A module whose program is about to run: what stands in its file, the instance for it, and its root frame with what
that binds at first. -/
structure Started where
  fetched : Fetched
  object : InstanceId
  root : FrameId
  installed : Bindings Value

/-- A new instance for a module. -/
def newModule (importer : FrameId) : Eval InstanceId := do
  let cls ← Eval.builtinClass importer "Object"
  Eval.newInstance ⟨cls, [], .object⟩

/-- A module gets its root frame. -/
def enter (importer : FrameId) (fetched : Fetched) (object : InstanceId) : Eval Started := do
  let importing := ((← get).frame importer).origin.importing
  let root ← Eval.newRoot fetched.path.text (Origin.rowsOf fetched.source) importing
  return ⟨fetched, object, root, ((← get).frame root).bindings⟩

/-- The loading of a module up to the run of its program. -/
def start (importer : FrameId) (name : String) : Eval Started := do
  let fetched ← fetch name
  let object ← newModule importer
  modifyLoaded fun modules => modules.set name object
  enter importer fetched object

/-- The loading of a module after the run of its program. -/
def finish (name : String) (started : Started) :
    EStateM.Result Escape Store Completion → EStateM.Result Escape Store InstanceId
  | .ok _ ended =>
    (Eval.setProperties started.object (newBindings started.installed (ended.frame started.root).bindings) >>= fun _ =>
      pure started.object) ended
  | .error escape ended =>
    .error escape (if escape.withdrawsModule then { ended with modules := ended.modules.erase name } else ended)

section

variable {run : Runner} {importer : FrameId} {name : String} {store : Store}

theorem modifyLoaded_bind_apply {α : Type} (change : Bindings InstanceId → Bindings InstanceId) (next : Unit → Eval α) :
    (modifyLoaded change >>= next) store = next () { store with modules := change store.modules } :=
  rfl

theorem install_eq (fetched : Fetched) : install run importer name fetched =
    newModule importer >>= fun object => modifyLoaded (fun modules => modules.set name object) >>= fun _ =>
      tryCatch (runModule run importer object fetched) (fun escape => do
        if escape.withdrawsModule then modifyLoaded fun modules => modules.erase name
        throw escape) >>= fun _ => pure object := by
  rw [install, newModule, bind_assoc]

theorem runModule_eq (object : InstanceId) (fetched : Fetched) :
    runModule run importer object fetched = enter importer fetched object >>= fun started =>
      run started.root (.block fetched.program) >>= fun _ => get >>= fun ended =>
        Eval.setProperties object (newBindings started.installed (ended.frame started.root).bindings) := by
  simp only [runModule, enter, bind_assoc, pure_bind]

variable {started : Started}

theorem enter_ok {fetched : Fetched} {object : InstanceId} {began : Store}
    (entered : enter importer fetched object store = .ok started began) :
    started.fetched = fetched ∧ started.object = object ∧ started.installed = (began.frame started.root).bindings ∧
      Eval.newRoot fetched.path.text (Origin.rowsOf fetched.source) (store.frame importer).origin.importing store =
        .ok started.root began := by
  rw [enter, Eval.get_bind_apply] at entered
  obtain ⟨root, opened, rooted, rest⟩ := Eval.of_bind_ok entered
  cases rest
  exact ⟨rfl, rfl, rfl, rooted⟩

theorem start_ok {began : Store} (starts : start importer name store = .ok started began) :
    ∃ first made, fetch name store = .ok started.fetched first ∧ newModule importer first = .ok started.object made ∧
      enter importer started.fetched started.object { made with modules := made.modules.set name started.object } =
        .ok started began := by
  rw [start] at starts
  obtain ⟨fetched, first, fetches, starts⟩ := Eval.of_bind_ok starts
  obtain ⟨object, made, new, starts⟩ := Eval.of_bind_ok starts
  rw [modifyLoaded_bind_apply] at starts
  obtain ⟨rfl, rfl, _⟩ := enter_ok starts
  exact ⟨first, made, fetches, new, starts⟩

/-- A module whose loading starts runs, and then its loading is finished. -/
theorem loadNew_of_start {began : Store} (starts : start importer name store = .ok started began) :
    loadNew run importer name store =
      finish name started (run started.root (.block started.fetched.program) began) := by
  obtain ⟨first, made, fetches, new, entered⟩ := start_ok starts
  rw [loadNew, Eval.bind_ok fetches, install_eq, Eval.bind_ok new, modifyLoaded_bind_apply, Eval.bind_apply,
    Eval.tryCatch_apply, runModule_eq, Eval.bind_ok entered, Eval.bind_apply]
  cases run started.root (.block started.fetched.program) began with
  | ok completion ended =>
    obtain ⟨after, set, _⟩ := builds_setProperties (fun _ => True) .quiet importer ended started.object
      (newBindings started.installed (ended.frame started.root).bindings)
    simp only [finish, Eval.get_bind_apply, Eval.bind_ok set, set]
  | error escape ended =>
    dsimp only [finish]
    cases escape.withdrawsModule <;> rfl

theorem enter_total (fetched : Fetched) (object : InstanceId) :
    ∃ started began, enter importer fetched object store = .ok started began := by
  obtain ⟨root, began, opens⟩ := newRoot_total fetched.path.text (Origin.rowsOf fetched.source)
    (store.frame importer).origin.importing store
  rw [enter, Eval.get_bind_apply, Eval.bind_ok opens]
  exact ⟨_, _, rfl⟩

/-- The loading of a module fails to start if there is no program or no class for it. -/
theorem start_error {escape : Escape} (fails : start importer name store = .error escape after) :
    fetch name store = .error escape after ∨
      ∃ fetched first, fetch name store = .ok fetched first ∧ newModule importer first = .error escape after := by
  rw [start] at fails
  refine (Eval.of_bind_error fails).imp_right fun ⟨fetched, first, fetches, fails⟩ => ⟨fetched, first, fetches, ?_⟩
  rcases Eval.of_bind_error fails with new | ⟨object, made, new, fails⟩
  · exact new
  · obtain ⟨started, began, entered⟩ := enter_total fetched object
    rw [modifyLoaded_bind_apply, entered] at fails
    cases fails

/-- A module whose loading fails to start is not loaded. -/
theorem loadNew_of_failed {escape : Escape} (fails : start importer name store = .error escape after) :
    loadNew run importer name store = .error escape after := by
  rw [loadNew]
  rcases start_error fails with fetches | ⟨fetched, first, fetches, new⟩
  · rw [Eval.bind_apply, fetches]
  · rw [Eval.bind_ok fetches, install_eq, Eval.bind_apply, new]

end

/-- What has changed when the program of a module begins to run. -/
structure Begun (fits : Code → Prop) (name : String) (store : Store) (started : Started) (began : Store) : Prop where
  program : HasProgram store.settings store.files name started.fetched.program
  kind : began.Fits fits
  grows : store.Grows began
  modules : began.modules = store.modules.set name started.object
  roots : began.roots = store.roots ++ [started.root]
  object : started.object.index < began.instances.size
  root : started.root.index < began.frames.size
  path : (began.frame started.root).path = []
  bindings : (began.frame started.root).bindings = started.installed
  installed : started.installed.Installed

section

variable {fits : Code → Prop} {importer : FrameId} {name : String} {store : Store}

theorem quiet_fetch (name : String) (good : store.Fits fits) :
    (Course.quiet fits).Outcome (fun fetched => programIn? fetched.source fetched.path.text = some fetched.program) store
      (fetch name store) := by
  have acts : Acts fits (fun _ _ _ => False) .quiet ⟨0⟩ _ fun _ : Unit => fetch name := acts_fetch name
  exact acts.quiet good

theorem quiet_newModule (importer : FrameId) (good : store.Fits fits) :
    (Course.quiet fits).Outcome (fun _ => True) store (newModule importer store) := by
  have acts : Does fits (fun _ _ _ => False) .quiet importer fun _ : Unit => newModule importer :=
    .builtin fun _ _ found => ⟨_, _, rfl, .single (.ofBuiltin found trivial)⟩
  exact acts.quiet good

theorem newModule_ok {object : InstanceId} {made : Store} (new : newModule importer store = .ok object made) :
    object.index < made.instances.size := by
  rw [newModule, Eval.builtinClass_bind_apply] at new
  cases found : store.builtinClass? importer "Object" with
  | none =>
    rw [found] at new
    cases new
  | some cls =>
    rw [found] at new
    cases new
    simp

theorem begun_of_start {started : Started} {began : Store} (native : ∀ native, fits (.native native)) (good : store.Fits fits)
    (starts : start importer name store = .ok started began) : Begun fits name store started began := by
  obtain ⟨first, made, fetches, new, entered⟩ := start_ok starts
  have fetching := quiet_fetch name good
  rw [fetches] at fetching
  have making := quiet_newModule importer (Quiet.kind fetching.2 good)
  rw [new] at making
  have quiet : Quiet fits store made := fetching.2.trans making.2
  obtain ⟨_, _, installed, opens⟩ := enter_ok entered
  have rooted := rooted_of_newRoot native opens
  refine ⟨hasProgram_of_fetch fetches, rooted.kind (quiet.kind good), (quiet.grows.trans (.modules made _)).trans rooted.grows,
    ?_, ?_, ?_, rooted.inside, rooted.path, installed.symm, installed ▸ rooted.installed⟩
  · rw [rooted.modules, quiet.modules]
  · rw [rooted.roots, ← quiet.roots]
    rfl
  · exact Nat.lt_of_lt_of_le (newModule_ok new) rooted.grows.instances

/-- A loading that fails to start does nothing else. -/
theorem quiet_of_failed {escape : Escape} (good : store.Fits fits)
    (fails : start importer name store = .error escape after) : Quiet fits store after := by
  have fetching := quiet_fetch name good
  rcases start_error fails with fetches | ⟨fetched, first, fetches, new⟩
  · rw [fetches] at fetching
    exact fetching
  · rw [fetches] at fetching
    have making := quiet_newModule importer (Quiet.kind fetching.2 good)
    rw [new] at making
    exact fetching.2.trans making

/-- After a run that ended without an escape, the instance gets its properties. -/
theorem finish_ok (fits : Code → Prop) (name : String) (started : Started) (completion : Completion) (ended : Store) :
    ∃ after, finish name started (.ok completion ended) = .ok started.object after ∧ Quiet fits ended after ∧
      Eval.setProperties started.object (newBindings started.installed (ended.frame started.root).bindings) ended =
        .ok () after := by
  obtain ⟨after, set, built⟩ := builds_setProperties fits .quiet ⟨0⟩ ended started.object
    (newBindings started.installed (ended.frame started.root).bindings)
  exact ⟨after, Eval.bind_ok set, .of_changes built.changes, set⟩

end

section

variable {run : Runner} {importer : FrameId} {name : String} {store : Store}

/-- A load that ends without an escape gives the instance that it started with. -/
theorem object_of_loadNew {started : Started} {began : Store} {object : InstanceId}
    (starts : start importer name store = .ok started began)
    (ends : loadNew run importer name store = .ok object after) : started.object = object := by
  rw [loadNew_of_start starts] at ends
  cases ran : run started.root (.block started.fetched.program) began with
  | ok completion ended =>
    obtain ⟨last, finished, _⟩ := finish_ok (fun _ => True) name started completion ended
    rw [ran, finished] at ends
    cases ends
    rfl
  | error escape ended =>
    rw [ran] at ends
    cases ends

theorem load_of_known {object : InstanceId} (known : store.modules.get? name = some object) :
    load run importer name store = .ok object store := by
  rw [load, Eval.get_bind_apply, known]
  rfl

theorem load_of_new (new : store.modules.get? name = none) :
    load run importer name store = loadNew run importer name store := by
  rw [load, Eval.get_bind_apply, new]

end

end Module

/-! ## Questions -/

/-- The questions how code of one kind runs in a frame that was opened in some manner, and how a module is loaded. -/
inductive RunsOrLoads (fits : Code → Prop) (manner : Manner) (modules : String → Prop) :
    FrameId → (α : Type) → (Runner → Eval α) → Prop where
  | run {scope : FrameId} {code : Code} (opened : manner.opens scope) (fit : fits code) :
      RunsOrLoads fits manner modules scope Completion fun runner => runner scope code
  | load {scope : FrameId} {name : String} (admitted : modules name) :
      RunsOrLoads fits manner modules scope InstanceId fun runner => Module.load runner scope name

/-- Code is made of such questions, without loading anything by itself. -/
theorem evaluates_quiet {modules : String → Prop} {conditions : Conditions} (heredity : conditions.Hereditary)
    (literal : ∀ body, conditions.body body → fits (.block body))
    (imports : ∀ path localName, conditions.statement (.importModule path localName) → modules (moduleName path))
    (opens : FrameId → Prop) :
    Evaluates fits (RunsOrLoads fits { Manner.quiet with opens := opens } modules)
      { Manner.quiet with opens := opens } conditions where
  heredity := heredity
  literal := literal
  run := ⟨fun _ _ opened fit => .run opened fit⟩
  load _ path localName meets := .ask (.load (imports path localName meets))
  marks := rfl
  allows _ _ := ⟨fun _ _ _ _ => rfl, fun _ _ _ _ => rfl⟩

end LineScript
