import LineScript.Interpreter
import LineScript.Proofs.Eval.Parts
import LineScript.Proofs.Store.Frames

/-!
# What running a program is made of

A program asks for code to run under a recursion limit, and each level of code for the level below it. So code
on every level follows the protocols that its questions follow (`follows_runCode`), and so do programs
(`Interpreter.follows_run`). In particular, the stores that programs leave behind hold code of any kind that goes
over to the bodies in it (`Reached.fits`).
-/

set_option autoImplicit false

namespace LineScript

section

variable {fits : Code → Prop} {manner : Manner}

/-- Code of one kind follows a protocol when it runs. -/
def RunnerFollows (protocol : Protocol fits manner) (runner : Runner) : Prop :=
  ∀ scope code, fits code → ∀ store, protocol.good store →
    Followed protocol scope store (fun _ => True) (runner scope code store)

theorem RunnerFollows.asks {protocol : Protocol fits manner} {runner : Runner} (runs : RunnerFollows protocol runner) :
    AsksFollow protocol (RunsCode fits) runner := by
  intro scope α action question store good
  cases question with
  | run fit => exact runs scope _ fit store good

variable {asks : FrameId → (α : Type) → (Runner → Eval α) → Prop} {conditions : Conditions}
  {protocol : Protocol fits manner}

/-- Code of one kind follows a protocol on every level, if what it asks for does whenever runs do. -/
theorem follows_runCode (evaluates : Evaluates fits asks manner conditions)
    (blocks : ∀ body, fits (.block body) → conditions.block body) (permits : ∀ native, manner.Permits native)
    (answers : ∀ runner, RunnerFollows protocol runner → AsksFollow protocol asks runner) (loopSteps levels : Nat) :
    RunnerFollows protocol (runCode loopSteps levels) := by
  induction levels with
  | zero => exact fun scope code fit store good => ⟨good, protocol.refl scope store⟩
  | succ levels ih =>
    intro scope code fit store good
    have questions := answers _ ih
    cases code with
    | block body => exact (evaluates.acts_execBlock loopSteps scope (blocks body fit)).follows questions good
    | native native =>
      have acts := acts_native evaluates.run scope loopSteps native (permits native)
      exact (acts.follows questions good).bind fun _ _ _ kept => ⟨trivial, kept, protocol.refl scope _⟩

end

/-- Every manner that is not bound in looking at escapes and overwriting permits the built-in functions. -/
theorem Manner.permits {manner : Manner} (inspects : manner.inspects = true) (overwrites : manner.overwrites = true)
    (native : Native) : manner.Permits native :=
  ⟨fun _ => inspects, fun _ => overwrites⟩

section

variable {fits : Code → Prop} {conditions : Conditions} (inherits : Inherits fits conditions) (loopSteps : Nat)

include inherits

/-- Code of one kind follows every protocol for such code, on every level. -/
theorem Inherits.follows (protocol : Protocol fits .free) (levels : Nat) :
    RunnerFollows protocol (runCode loopSteps levels) :=
  follows_runCode (inherits.evaluates ⟨rfl, rfl, rfl⟩ rfl) inherits.block (Manner.permits rfl rfl)
    (fun _ runs => runs.asks) loopSteps levels

end

theorem callLevels_eq_succ (limit : Int) : ∃ levels, callLevels limit = levels + 1 :=
  ⟨callLevels limit - 1, by unfold callLevels; omega⟩

namespace Interpreter

/-- The program in a source text runs, with a runner for each recursion limit. -/
def runUnder (runners : Int → Runner) (source file : String) : Eval (Except Uncaught Finished) := do
  let program ← Module.parse source file
  let root ← Eval.newRoot file (Origin.rowsOf source) true
  Eval.note (.running file)
  let limit := (← get).settings.recursionLimit
  if greatestLimit < limit then Eval.fault .limitTooLarge
  else
    match ← attempt (runners limit) root limit program with
    | .ok completion => return .ok ⟨root, completion⟩
    | .error exception => return .error (← report (runners limit) root exception)

theorem run_eq_runUnder (source file : String) :
    run source file = runUnder (fun limit => (engineFor limit).run) source file :=
  rfl

/-- How a program ends that was attempted. -/
def conclude (run : Runner) (root : FrameId) : Except Thrown Completion → Eval (Except Uncaught Finished)
  | .ok completion => return .ok ⟨root, completion⟩
  | .error exception => return .error (← report run root exception)

/-- A program that is read from a source text runs, with a runner for each recursion limit. -/
def runProgram (runners : Int → Runner) (source file : String) (program : Block) : Eval (Except Uncaught Finished) := do
  let root ← Eval.newRoot file (Origin.rowsOf source) true
  Eval.note (.running file)
  let limit := (← get).settings.recursionLimit
  if greatestLimit < limit then Eval.fault .limitTooLarge
  else attempt (runners limit) root limit program >>= conclude (runners limit) root

theorem runUnder_eq (runners : Int → Runner) (source file : String) :
    runUnder runners source file = Module.parse source file >>= runProgram runners source file :=
  rfl

/-- The question how code of one kind runs under a limit. -/
inductive RunsUnder (fits : Code → Prop) : FrameId → (α : Type) → ((Int → Runner) → Eval α) → Prop where
  | run {scope : FrameId} {code : Code} (limit : Int) (fit : fits code) :
      RunsUnder fits scope Completion fun runners => runners limit scope code

section

variable {fits : Code → Prop} {manner : Manner} (limit : Int)

theorem asksRuns_runsUnder : AsksRuns fits (RunsUnder fits) manner fun runners => runners limit where
  run _ _ _ fit := .run limit fit

theorem acts_attempt (inspects : manner.inspects = true) (root : FrameId) {program : Block} (fit : fits (.block program)) :
    Does fits (RunsUnder fits) manner root fun runners => attempt (runners limit) root limit program := by
  refine .inspect inspects ((Acts.ask (.run limit fit)).bind fun _ _ => .pure trivial) fun escape => ?_
  cases escape with
  | thrown => exact .pure trivial
  | failure | unreadable | fault | tooDeep | outOfSteps => exact .throw _ (.inl inspects)

theorem acts_report (catches : manner.catches = true) (root : FrameId) (exception : Thrown) :
    Does fits (RunsUnder fits) manner root fun runners => report (runners limit) root exception := by
  have described : Does fits (RunsUnder fits) manner root fun runners =>
      describeThrown (runners limit) root exception.value := by
    refine .recover catches (acts_display (asksRuns_runsUnder limit) root _) (fun _ => acts_textOf _) ?_
    intro escape other
    cases escape with
    | thrown => cases other
    | failure | unreadable | fault | tooDeep | outOfSteps => rfl
  exact described.bind fun _ _ => (acts_output _).bind fun _ _ => .pure trivial

variable (catches : manner.catches = true) (inspects : manner.inspects = true) (loads : manner.loads = true)

include catches inspects loads

/-- Running a program is made of what it asks the runners for. -/
theorem acts_runProgram (native : ∀ native, fits (.native native)) (scope : FrameId) (source file : String)
    {program : Block} (fit : fits (.block program)) :
    Does fits (RunsUnder fits) manner scope fun runners => runProgram runners source file program := by
  refine acts_newRoot loads native _ _ _ fun root _ => (acts_note _).bind fun _ _ => .read fun store _ => ?_
  refine .ite (.throw _) ((acts_attempt _ inspects root fit).bind fun ended _ => ?_)
  cases ended with
  | ok completion => exact .pure trivial
  | error exception => exact (acts_report _ catches root exception).bind fun _ _ => .pure trivial

/-- Reading and running a program is made of what it asks the runners for. -/
theorem acts_runUnder (admits : Admits fits) (scope : FrameId) (source file : String) :
    Does fits (RunsUnder fits) manner scope fun runners => runUnder runners source file := by
  simp only [runUnder_eq]
  exact (acts_parse source file).bind fun program read =>
    acts_runProgram catches inspects loads admits.native scope source file (admits.programIn read)

end

section

variable {fits : Code → Prop} {conditions : Conditions} (inherits : Inherits fits conditions)

include inherits

theorem follows_engineFor (protocol : Protocol fits .free) :
    AsksFollow protocol (RunsUnder fits) fun limit => (engineFor limit).run := by
  intro scope α action question store good
  cases question with
  | run limit fit => exact inherits.follows _ protocol _ scope _ fit store good

/-- Programs follow every protocol for code of one kind. -/
theorem follows_run (protocol : Protocol fits .free) (source file : String) {store : Store}
    (good : protocol.good store) : Followed protocol ⟨0⟩ store (fun _ => True) (run source file store) := by
  have acts : Does fits (RunsUnder fits) .free ⟨0⟩ fun runners => runUnder runners source file :=
    acts_runUnder rfl rfl rfl inherits.toAdmits ⟨0⟩ source file
  exact acts.follows (follows_engineFor inherits protocol) good

end

end Interpreter

/-- The stores that come up in the course of programs: made of a first one by changes and new frames. -/
inductive Arises (fits : Code → Prop) : Store → Prop where
  | initial (settings : Config.Settings) (files : Files.FileSystem) (inputs : List String) (clock : Float) :
      Arises fits (.initial settings files inputs clock)
  | change {scope : FrameId} {store after : Store} (arises : Arises fits store)
      (change : Change fits .free scope store after) : Arises fits after
  | frame {store : Store} {frame : Frame} (arises : Arises fits store) (new : NewFrame .free store frame) :
      Arises fits (store.addFrame frame).2

theorem Arises.fits {fits : Code → Prop} {store : Store} (arises : Arises fits store) : store.Fits fits := by
  induction arises with
  | initial settings files inputs clock => exact Store.fits_initial fits settings files inputs clock
  | change _ change ih => exact change.fits ih
  | frame _ _ ih => exact ih

/-- In the stores that come up, each frame binds each name once. -/
theorem Arises.distinct {fits : Code → Prop} {store : Store} (arises : Arises fits store) (id : FrameId) :
    (store.frame id).bindings.names.Nodup := by
  induction arises generalizing id with
  | initial => exact List.nodup_nil
  | change _ change ih => exact change.distinct (ih id)
  | @frame store frame _ new ih =>
    by_cases added : id = ⟨store.frames.size⟩
    · rw [added, Store.frame_added]
      cases new with
      | child _ _ distinct | root _ _ _ _ _ _ distinct => exact distinct
    · rw [Store.frame_addFrame_of_ne added]
      exact ih id

/-- Code makes the store into others that come up, in which the frames are still there. -/
def Protocol.arising (fits : Code → Prop) : Protocol fits .free where
  good := Arises fits
  step _ := Store.Extends
  kind arises := arises.fits
  refl _ := .refl
  trans := .trans
  change arises change := ⟨.change arises change, change.extends⟩
  opens _ := trivial
  frame arises new := .frame arises new
  inner _ _ _ _ _ later := (Store.Extends.addFrame _ _).trans later

theorem Arises.execBlock {store : Store} (arises : Arises (fun _ => True) store) (loopSteps levels : Nat)
    (scope : FrameId) (block : Block) :
    Followed (.arising fun _ => True) scope store (fun _ => True)
      (LineScript.execBlock ⟨runCode loopSteps levels, loopSteps⟩ scope block store) := by
  have acts : Does (fun _ => True) (RunsCode fun _ => True) .free scope fun runner =>
      LineScript.execBlock ⟨runner, loopSteps⟩ scope block :=
    (inherits_all.evaluates ⟨rfl, rfl, rfl⟩ rfl).acts_execBlock loopSteps scope trivial
  exact acts.follows (inherits_all.follows loopSteps (.arising _) levels).asks arises

/-- The stores that programs find: the first one, and what a program leaves behind. -/
inductive Reached : Store → Prop where
  | initial (settings : Config.Settings) (files : Files.FileSystem) (inputs : List String) (clock : Float) :
      Reached (.initial settings files inputs clock)
  | ended {store after : Store} {source file : String} {result : Except Interpreter.Uncaught Interpreter.Finished}
      (reached : Reached store) (run : Interpreter.run source file store = .ok result after) : Reached after
  | escaped {store after : Store} {source file : String} {escape : Escape} (reached : Reached store)
      (run : Interpreter.run source file store = .error escape after) : Reached after

/-- The stores that programs find come up in the course of programs. -/
theorem Reached.arises {fits : Code → Prop} {conditions : Conditions} (inherits : Inherits fits conditions)
    {store : Store} (reached : Reached store) : Arises fits store := by
  induction reached with
  | initial settings files inputs clock => exact .initial settings files inputs clock
  | @ended _ _ source file _ _ run good =>
    have followed := Interpreter.follows_run inherits (.arising fits) source file good
    rw [run] at followed
    exact followed.2.1
  | @escaped _ _ source file _ _ run good =>
    have followed := Interpreter.follows_run inherits (.arising fits) source file good
    rw [run] at followed
    exact followed.1

/-- The stores that programs find hold code of any kind that goes over to bodies. -/
theorem Reached.fits {fits : Code → Prop} {conditions : Conditions} (inherits : Inherits fits conditions) {store : Store}
    (reached : Reached store) : store.Fits fits :=
  (reached.arises inherits).fits

end LineScript
