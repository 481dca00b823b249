import LineScript.Proofs.Eval.Loading

/-!
# What happens with modules

A history lists what happens with modules while programs run: programs start, modules are imported that are known as
loaded, and the loading of modules starts. The loads stand in the order in which they started, each with what came of
it. `Happened` says that a history leads from one store to another. A load that is over stands for a run of the program
of the module, which has a history of its own.

A history accounts for the table of the modules (`Happened.modules`) and for the root frames (`Happened.roots`).
-/

set_option autoImplicit false

namespace LineScript

/-- What came of a load: it is completed, it is withdrawn, or neither of it. -/
inductive LoadState where
  | completed
  | withdrawn
  | unfinished
  deriving Repr, DecidableEq

/-- What happens with modules. -/
inductive LoadEvent where
  /-- A program starts in a root frame. -/
  | program (root : FrameId)
  /-- A module is imported that is known as loaded. -/
  | found (name : String) (object : InstanceId)
  /-- The loading of a module starts. -/
  | load (name : String) (started : Module.Started) (state : LoadState)

namespace LoadEvent

/-- The entry in the table of the modules that is left of an event. -/
def entry? : LoadEvent → Option (String × InstanceId)
  | .load _ _ .withdrawn => none
  | .load name started _ => some (name, started.object)
  | .program _ | .found _ _ => none

/-- The module that is imported, with its instance. -/
def import? : LoadEvent → Option (String × InstanceId)
  | .found name object => some (name, object)
  | .load name started _ => some (name, started.object)
  | .program _ => none

/-- The root frame that is opened. -/
def root? : LoadEvent → Option FrameId
  | .program root => some root
  | .load _ started _ => some started.root
  | .found _ _ => none

/-- The root frame of the program that starts. -/
def program? : LoadEvent → Option FrameId
  | .program root => some root
  | .load _ _ _ | .found _ _ => none

/-- The name of the module whose loading starts. -/
def loads? : LoadEvent → Option String
  | .load name _ _ => some name
  | .program _ | .found _ _ => none

/-- The module whose load is completed, with its instance. -/
def completed? : LoadEvent → Option (String × InstanceId)
  | .load name started .completed => some (name, started.object)
  | .load _ _ _ | .program _ | .found _ _ => none

end LoadEvent

/-- What happens with modules, in order. -/
abbrev History :=
  List LoadEvent

variable {started : Module.Started}

variable {history : History}

namespace History

/-- The entries in the table of the modules that are left. -/
def entries (history : History) : Bindings InstanceId :=
  history.filterMap LoadEvent.entry?

/-- The modules whose load is completed, with their instances. -/
def completed (history : History) : Bindings InstanceId :=
  history.filterMap LoadEvent.completed?

/-- The modules that are imported, with their instances. -/
def imports (history : History) : Bindings InstanceId :=
  history.filterMap LoadEvent.import?

/-- The root frames that are opened. -/
def roots (history : History) : List FrameId :=
  history.filterMap LoadEvent.root?

/-- The root frames of the programs that start. -/
def programs (history : History) : List FrameId :=
  history.filterMap LoadEvent.program?

/-- The modules whose loading starts. -/
def loads (history : History) : List String :=
  history.filterMap LoadEvent.loads?

/-- Every load is completed or withdrawn. -/
def Settled (history : History) : Prop :=
  ∀ name started, .load name started .unfinished ∉ history

/-- No program starts. -/
def Nested (history : History) : Prop :=
  ∀ root, .program root ∉ history

/-- No load is withdrawn. -/
def Unbroken (history : History) : Prop :=
  ∀ name started, .load name started .withdrawn ∉ history

theorem Settled.nil : Settled [] :=
  fun _ _ member => nomatch member

theorem Settled.append {first second : History} (before : first.Settled) (after : second.Settled) :
    Settled (first ++ second) :=
  fun name started member => (List.mem_append.mp member).elim (before name started) (after name started)

theorem Settled.found {name : String} {object : InstanceId} (rest : history.Settled) :
    Settled (.found name object :: history) := by
  intro other started member
  rcases List.mem_cons.mp member with same | member
  · cases same
  · exact rest other started member

theorem Settled.load {name : String} {state : LoadState} (ended : state ≠ .unfinished) (rest : history.Settled) :
    Settled (.load name started state :: history) := by
  intro other started' member
  rcases List.mem_cons.mp member with same | member
  · cases same
    exact ended rfl
  · exact rest other started' member

theorem entries_append (first second : History) : entries (first ++ second) = first.entries ++ second.entries :=
  List.filterMap_append

theorem roots_append (first second : History) : roots (first ++ second) = first.roots ++ second.roots :=
  List.filterMap_append

theorem Nested.nil : Nested [] :=
  fun _ member => nomatch member

theorem Nested.append {first second : History} (before : first.Nested) (after : second.Nested) :
    Nested (first ++ second) :=
  fun root member => (List.mem_append.mp member).elim (before root) (after root)

theorem Nested.cons {event : LoadEvent} {entry : String × InstanceId} (imports : event.import? = some entry)
    (rest : history.Nested) : Nested (event :: history) := by
  intro root member
  rcases List.mem_cons.mp member with rfl | member
  · cases imports
  · exact rest root member

theorem Nested.programs (nested : history.Nested) : history.programs = [] := by
  refine List.filterMap_eq_nil_iff.mpr fun event member => ?_
  cases event with
  | program root => exact absurd member (nested root)
  | found | load => rfl

/-- What is left of settled loads is completed. -/
theorem Settled.entries_eq (settled : history.Settled) : history.entries = history.completed := by
  refine List.filterMap_congr fun event member => ?_
  cases event with
  | program | found => rfl
  | load name started state =>
    cases state with
    | completed | withdrawn => rfl
    | unfinished => exact absurd member (settled name started)

end History

/-- A history leads from one store to another. A load that is over stands for a run of the program of the module; and a
load that is unfinished for one that is still going on, or that ended with an escape that withdraws nothing. -/
inductive Happened (loopSteps : Nat) : Store → History → Store → Prop where
  | refl (store : Store) : Happened loopSteps store [] store
  | quiet {history : History} {store middle after : Store} (earlier : Happened loopSteps store history middle)
      (step : QuietStep (fun _ => True) middle after) : Happened loopSteps store history after
  | program {history : History} {store middle after : Store} {file : String} {rows : List String} {root : FrameId}
      (earlier : Happened loopSteps store history middle)
      (opens : Eval.newRoot file rows true middle = .ok root after) :
      Happened loopSteps store (history ++ [.program root]) after
  | found {history : History} {store after : Store} {name : String} {object : InstanceId}
      (earlier : Happened loopSteps store history after) (known : after.modules.get? name = some object) :
      Happened loopSteps store (history ++ [.found name object]) after
  | starts {history : History} {store middle after : Store} {importer : FrameId} {name : String} {started : Module.Started}
      (earlier : Happened loopSteps store history middle) (new : middle.modules.get? name = none)
      (starts : Module.start importer name middle = .ok started after) :
      Happened loopSteps store (history ++ [.load name started .unfinished]) after
  | completes {history inside : History} {store middle began ended after : Store} {importer : FrameId} {name : String}
      {started : Module.Started} {levels : Nat} {completion : Completion}
      (earlier : Happened loopSteps store history middle) (new : middle.modules.get? name = none)
      (starts : Module.start importer name middle = .ok started began)
      (inner : Happened loopSteps began inside ended)
      (runs : runCode loopSteps levels started.root (.block started.fetched.program) began = .ok completion ended)
      (exports : Module.finish name started (.ok completion ended) = .ok started.object after) :
      Happened loopSteps store (history ++ .load name started .completed :: inside) after
  | withdraws {history inside : History} {store middle began ended : Store} {importer : FrameId} {name : String}
      {started : Module.Started} {levels : Nat} {escape : Escape}
      (earlier : Happened loopSteps store history middle) (new : middle.modules.get? name = none)
      (starts : Module.start importer name middle = .ok started began)
      (inner : Happened loopSteps began inside ended)
      (runs : runCode loopSteps levels started.root (.block started.fetched.program) began = .error escape ended)
      (withdrawn : escape.withdrawsModule = true) :
      Happened loopSteps store (history ++ .load name started .withdrawn :: inside)
        { ended with modules := ended.modules.erase name }

namespace Happened

variable {loopSteps : Nat} {store middle after : Store} {history later : History}

theorem quietly (earlier : Happened loopSteps store history middle) (quiet : Quiet (fun _ => True) middle after) :
    Happened loopSteps store history after := by
  induction quiet with
  | refl => exact earlier
  | tail _ step ih => exact .quiet ih step

theorem trans (earlier : Happened loopSteps store history middle) (rest : Happened loopSteps middle later after) :
    Happened loopSteps store (history ++ later) after := by
  induction rest with
  | refl => rwa [List.append_nil]
  | quiet _ step ih => exact .quiet (ih earlier) step
  | program _ opens ih => exact List.append_assoc .. ▸ .program (ih earlier) opens
  | found _ known ih => exact List.append_assoc .. ▸ .found (ih earlier) known
  | starts _ new starts ih => exact List.append_assoc .. ▸ .starts (ih earlier) new starts
  | completes _ new starts inner runs exports ih _ =>
    exact List.append_assoc .. ▸ .completes (ih earlier) new starts inner runs exports
  | withdraws _ new starts inner runs withdrawn ih _ =>
    exact List.append_assoc .. ▸ .withdraws (ih earlier) new starts inner runs withdrawn

/-- When a module gets its properties, nothing else happens. -/
theorem quiet_of_exports {name : String} {completion : Completion} {ended : Store}
    (exports : Module.finish name started (.ok completion ended) = .ok started.object after) :
    Quiet (fun _ => True) ended after := by
  obtain ⟨other, finished, quiet, _⟩ := Module.finish_ok (fun _ => True) name started completion ended
  rw [exports] at finished
  cases finished
  exact quiet

/-! ## What stays -/

theorem begun {importer : FrameId} {name : String} {began : Store}
    (starts : Module.start importer name middle = .ok started began) :
    Module.Begun (fun _ => True) name middle started began :=
  Module.begun_of_start (fun _ => trivial) middle.fits_all starts

theorem rooted {file : String} {rows : List String} {importing : Bool} {root : FrameId}
    (opens : Eval.newRoot file rows importing store = .ok root after) : Rooted (fun _ => True) store root after :=
  rooted_of_newRoot (fun _ => trivial) opens

theorem grows (happened : Happened loopSteps store history after) : store.Grows after := by
  induction happened with
  | refl => exact .refl _
  | quiet _ step ih => exact ih.trans step.grows
  | program _ opens ih => exact ih.trans (rooted opens).grows
  | found _ _ ih => exact ih
  | starts _ _ starts ih => exact ih.trans (begun starts).grows
  | completes _ _ starts _ _ exports ih inside =>
    exact ((ih.trans (begun starts).grows).trans inside).trans (quiet_of_exports exports).grows
  | withdraws _ _ starts _ _ _ ih inside =>
    exact ((ih.trans (begun starts).grows).trans inside).trans (.modules _ _)

/-! ## The table of the modules -/

/-- A history accounts for the table of the modules: what is left of the loads comes after the older entries. -/
structure Accounts (store : Store) (history : History) (after : Store) : Prop where
  modules : after.modules = store.modules ++ history.entries
  adds : store.modules.Adds history.entries

theorem Accounts.of_same {event : LoadEvent} (none : event.entry? = none) (modules : after.modules = store.modules) :
    Accounts store [event] after := by
  have entries : History.entries [event] = [] := List.filterMap_cons_none none
  constructor
  · rw [entries, modules, List.append_nil]
  · rw [entries]
    exact Bindings.adds_nil _

theorem Accounts.quietly (accounts : Accounts store history middle) (modules : after.modules = middle.modules) :
    Accounts store history after :=
  ⟨modules.trans accounts.modules, accounts.adds⟩

theorem Accounts.trans {first second third : Store} {later : History} (before : Accounts first history second)
    (rest : Accounts second later third) : Accounts first (history ++ later) third where
  modules := by rw [rest.modules, before.modules, History.entries_append, List.append_assoc]
  adds := by
    rw [History.entries_append]
    exact before.adds.append (before.modules ▸ rest.adds)

section

variable {importer : FrameId} {name : String} {started : Module.Started} {began ended : Store}
  (new : middle.modules.get? name = none) (starts : Module.start importer name middle = .ok started began)

include new starts

theorem modules_of_start : began.modules = middle.modules ++ [(name, started.object)] := by
  rw [(begun starts).modules, Bindings.set_of_unbound (Bindings.get?_eq_none_iff.mp new)]

theorem Accounts.of_start {state : LoadState} (left : state ≠ .withdrawn) :
    Accounts middle [.load name started state] began := by
  have entries : History.entries [.load name started state] = [(name, started.object)] := by
    cases state with
    | completed | unfinished => rfl
    | withdrawn => exact absurd rfl left
  constructor
  · rw [entries, modules_of_start new starts]
  · rw [entries]
    exact Bindings.adds_single (Bindings.get?_eq_none_iff.mp new)

/-- A module that is withdrawn leaves what was loaded while it ran, which has other names. -/
theorem Accounts.withdrawn {inside : History} (inner : Accounts began inside ended) :
    ended.modules.erase name = middle.modules ++ inside.entries ∧ name ∉ inside.entries.names ∧
      middle.modules.Adds inside.entries := by
  have unbound := Bindings.get?_eq_none_iff.mp new
  have modules := modules_of_start new starts
  have adds := inner.adds
  rw [modules] at adds
  refine ⟨?_, fun member => adds.new name member ?_, adds.of_append⟩
  · rw [inner.modules, modules, List.append_assoc]
    exact Bindings.erase_append unbound inside.entries
  · rw [Bindings.names_append]
    exact List.mem_append_right _ (List.mem_singleton_self name)

theorem Accounts.of_withdrawal {inside : History} (inner : Accounts began inside ended) :
    Accounts middle (.load name started .withdrawn :: inside) { ended with modules := ended.modules.erase name } :=
  have ⟨modules, _, adds⟩ := Accounts.withdrawn new starts inner
  ⟨modules, adds⟩

end

/-- Every history accounts for the table of the modules. -/
theorem accounts (happened : Happened loopSteps store history after) : Accounts store history after := by
  induction happened with
  | refl => exact ⟨(List.append_nil _).symm, Bindings.adds_nil _⟩
  | quiet _ step ih => exact ih.quietly step.modules
  | program _ opens ih =>
    exact ih.trans (.of_same rfl (rooted opens).modules)
  | found _ known ih => exact ih.trans (.of_same rfl rfl)
  | starts _ new starts ih => exact ih.trans (.of_start new starts (by decide))
  | @completes _ _ _ _ _ _ _ _ name started _ _ _ new starts _ _ exports ih inner =>
    have start : Accounts _ [.load name started .completed] _ := .of_start new starts (by decide)
    exact ih.trans (start.trans (inner.quietly (quiet_of_exports exports).modules))
  | withdraws _ new starts _ _ _ ih inner => exact ih.trans (.of_withdrawal new starts inner)

/-! ## Root frames -/

/-- The root frames are opened by what happens, in its order, and stay. -/
theorem roots (happened : Happened loopSteps store history after) : after.roots = store.roots ++ history.roots := by
  induction happened with
  | refl => exact (List.append_nil _).symm
  | quiet _ step ih => rw [step.roots, ih]
  | program _ opens ih =>
    rw [(rooted opens).roots, ih, History.roots_append, List.append_assoc]
    rfl
  | found _ _ ih =>
    rw [ih, History.roots_append]
    exact (List.append_nil _).symm ▸ rfl
  | starts _ _ starts ih =>
    rw [(begun starts).roots, ih, History.roots_append, List.append_assoc]
    rfl
  | completes _ _ starts _ _ exports ih inner =>
    rw [(quiet_of_exports exports).roots, inner, (begun starts).roots, ih, History.roots_append, List.append_assoc, List.append_assoc]
    rfl
  | @withdraws _ _ _ _ _ ended _ _ _ _ _ _ _ starts _ _ _ ih inner =>
    change ended.roots = _
    rw [inner, (begun starts).roots, ih, History.roots_append, List.append_assoc, List.append_assoc]
    rfl

end Happened

/-! ## Runs -/

theorem Escape.withdrawsModule_pass (escape : Escape) (frame : FrameId) (entry : TraceEntry) :
    (escape.pass frame entry).withdrawsModule = escape.withdrawsModule := by
  cases escape <;> rfl

/-- Runs make histories, in which no program starts. All loads in them are settled, unless the run ends with an escape
that withdraws nothing. -/
def Course.recounted (loopSteps : Nat) : Course (fun _ => True) .quiet where
  good _ _ := True
  step store after := ∃ history : History, history.Nested ∧ history.Settled ∧ Happened loopSteps store history after
  ends escape store after := ∃ history : History, history.Nested ∧ (escape.withdrawsModule = true → history.Settled) ∧
    Happened loopSteps store history after
  fatal _ := False
  kind _ := Store.fits_all _
  opens _ := trivial
  keeps _ _ := trivial
  kept _ _ := trivial
  refl store := ⟨[], .nil, .nil, .refl store⟩
  trans := by
    rintro _ _ _ ⟨_, nested, settled, first⟩ ⟨_, nested', settled', second⟩
    exact ⟨_, nested.append nested', settled.append settled', first.trans second⟩
  throws _ store _ := ⟨[], .nil, fun _ => .nil, .refl store⟩
  before := by
    rintro _ _ _ _ ⟨_, nested, settled, first⟩ ⟨_, nested', settled', second⟩
    exact ⟨_, nested.append nested', fun withdraws => settled.append (settled' withdraws), first.trans second⟩
  later := by
    rintro _ _ _ _ ⟨_, nested, settled, first⟩ ⟨_, nested', settled', second⟩
    exact ⟨_, nested.append nested', fun withdraws => (settled withdraws).append settled', first.trans second⟩
  caught := by
    rintro _ _ _ ⟨history, nested, settled, happened⟩
    exact ⟨history, nested, settled rfl, happened⟩
  passes := by
    rintro _ escape _ _ frame entry ⟨history, nested, settled, happened⟩
    exact ⟨history, nested, fun withdraws => settled (escape.withdrawsModule_pass frame entry ▸ withdraws), happened⟩
  change _ change := ⟨[], .nil, .nil, .quiet (.refl _) (.change change)⟩
  frame _ new := by
    cases new with
    | child parent bindings => exact ⟨⟨[], .nil, .nil, .quiet (.refl _) (.frame parent bindings)⟩, trivial⟩
    | root loads => cases loads
  uncaught := Escape.isException_of_false
  fatal_pass _ _ := id

theorem Course.Outcome.happened {α : Type} {holds : α → Prop} {loopSteps : Nat} {action : Eval α} {store : Store}
    (outcome : (Course.recounted loopSteps).Outcome holds store (action store)) :
    ∃ history : History, history.Nested ∧ Happened loopSteps store history (action.leaves store) := by
  rw [Eval.leaves]
  cases run : action store with
  | ok value after =>
    rw [run] at outcome
    obtain ⟨_, history, nested, _, happened⟩ := outcome
    exact ⟨history, nested, happened⟩
  | error escape after =>
    rw [run] at outcome
    obtain ⟨history, nested, _, happened⟩ := outcome
    exact ⟨history, nested, happened⟩

/-- What has come of a load whose program ends in some way. -/
def LoadState.after {α : Type} : EStateM.Result Escape Store α → LoadState
  | .ok _ _ => .completed
  | .error escape _ => if escape.withdrawsModule then .withdrawn else .unfinished

section

variable {loopSteps levels : Nat} {importer : FrameId} {name : String} {store : Store}
  (runs : ∀ scope code store, (Course.recounted loopSteps).Outcome (fun _ => True) store
    (runCode loopSteps levels scope code store))

include runs

/-- A load whose program runs is an event, and what happens in the run comes after it. -/
theorem happened_loadNew (new : store.modules.get? name = none) {began : Store}
    (starts : Module.start importer name store = .ok started began) :
    ∃ inside : History, inside.Nested ∧
      (LoadState.after (Module.loadNew (runCode loopSteps levels) importer name store) ≠ .unfinished → inside.Settled) ∧
      Happened loopSteps store
        (.load name started (.after (Module.loadNew (runCode loopSteps levels) importer name store)) :: inside)
        ((Module.loadNew (runCode loopSteps levels) importer name).leaves store) := by
  have outcome := runs started.root (.block started.fetched.program) began
  rw [Eval.leaves, Module.loadNew_of_start starts]
  cases run : runCode loopSteps levels started.root (.block started.fetched.program) began with
  | ok completion ended =>
    rw [run] at outcome
    obtain ⟨_, inside, nested, settled, inner⟩ := outcome
    obtain ⟨after, exports, _⟩ := Module.finish_ok (fun _ => True) name started completion ended
    rw [exports]
    exact ⟨inside, nested, fun _ => settled, .completes (.refl store) new starts inner run exports⟩
  | error escape ended =>
    rw [run] at outcome
    obtain ⟨inside, nested, settled, inner⟩ := outcome
    refine ⟨inside, nested, ?_⟩
    simp only [Module.finish, LoadState.after]
    cases withdraws : escape.withdrawsModule with
    | true => exact ⟨fun _ => settled withdraws, .withdraws (.refl store) new starts inner run withdraws⟩
    | false => exact ⟨fun ended => absurd rfl ended, Happened.trans (.starts (.refl store) new starts) inner⟩

/-- An import that ends without an escape is an event, and gives the instance of the module. -/
theorem happened_import {object : InstanceId} {after : Store}
    (ends : Module.load (runCode loopSteps levels) importer name store = .ok object after) :
    ∃ (event : LoadEvent) (inside : History), event.import? = some (name, object) ∧ inside.Nested ∧
      History.Settled (event :: inside) ∧ Happened loopSteps store (event :: inside) after := by
  cases known : store.modules.get? name with
  | some found =>
    rw [Module.load_of_known known] at ends
    cases ends
    exact ⟨.found name object, [], rfl, .nil, .found .nil, .found (.refl store) known⟩
  | none =>
    rw [Module.load_of_new known] at ends
    cases start : Module.start importer name store with
    | error escape failed =>
      rw [Module.loadNew_of_failed start] at ends
      cases ends
    | ok started began =>
      obtain ⟨inside, nested, settled, happened⟩ := happened_loadNew runs known start
      rw [Eval.leaves, ends] at happened
      rw [ends] at settled
      have ended : LoadState.completed ≠ .unfinished := by decide
      refine ⟨_, inside, ?_, nested, .load ended (settled ended), happened⟩
      rw [LoadEvent.import?, ← Module.object_of_loadNew start ends]

theorem outcome_load (importer : FrameId) (name : String) (store : Store) :
    (Course.recounted loopSteps).Outcome (fun _ => True) store
      (Module.load (runCode loopSteps levels) importer name store) := by
  cases ends : Module.load (runCode loopSteps levels) importer name store with
  | ok object after =>
    obtain ⟨event, inside, imports, nested, settled, happened⟩ := happened_import runs ends
    exact ⟨trivial, _, nested.cons imports, settled, happened⟩
  | error escape after =>
    cases known : store.modules.get? name with
    | some found =>
      rw [Module.load_of_known known] at ends
      cases ends
    | none =>
      rw [Module.load_of_new known] at ends
      cases start : Module.start importer name store with
      | error escape failed =>
        rw [Module.loadNew_of_failed start] at ends
        cases ends
        have quiet : Quiet (fun _ => True) store _ := Module.quiet_of_failed store.fits_all start
        exact ⟨[], .nil, fun _ => .nil, .quietly (.refl store) quiet⟩
      | ok started began =>
        obtain ⟨inside, nested, settled, happened⟩ := happened_loadNew runs known start
        rw [Eval.leaves, ends] at happened
        rw [ends] at settled
        refine ⟨_, nested.cons rfl, fun withdraws => ?_, happened⟩
        have ended : LoadState.after (.error escape after : EStateM.Result Escape Store InstanceId) ≠ .unfinished := by
          simp [LoadState.after, withdraws]
        exact .load ended (settled ended)

end

/-- Code makes histories, on every level. -/
theorem outcome_runCode (loopSteps levels : Nat) (scope : FrameId) (code : Code) (store : Store) :
    (Course.recounted loopSteps).Outcome (fun _ => True) store (runCode loopSteps levels scope code store) := by
  induction levels generalizing scope code store with
  | zero => exact ⟨[], .nil, fun _ => .nil, .refl store⟩
  | succ levels ih =>
    rw [runCode_succ]
    have answers : AsksCarried (Course.recounted loopSteps) (RunsOrLoads (fun _ => True) .quiet fun _ => True)
        (runCode loopSteps levels) (runCode loopSteps levels) := by
      intro scope α action question store _
      cases question with
      | run => exact .refl (ih scope _ store)
      | load => exact .refl (outcome_load ih scope _ store)
    have evaluates : Evaluates (fun _ => True) (RunsOrLoads (fun _ => True) .quiet fun _ => True) .quiet .none :=
      evaluates_quiet Conditions.hereditary_none (fun _ _ => trivial) (fun _ _ _ => trivial) fun _ => True
    have carried : (Course.recounted loopSteps).Carried (fun _ => True) store
        (runStep ⟨runCode loopSteps levels, loopSteps⟩ scope code store) _ :=
      carried_runStep rfl answers loopSteps evaluates (fun _ _ => trivial) rfl trivial trivial
    exact carried.outcome fun _ => id

theorem happened_runCode (loopSteps levels : Nat) (scope : FrameId) (code : Code) (store : Store) :
    ∃ history : History, history.Nested ∧
      Happened loopSteps store history ((runCode loopSteps levels scope code).leaves store) :=
  (outcome_runCode loopSteps levels scope code store).happened

namespace Interpreter

end Interpreter

end LineScript
