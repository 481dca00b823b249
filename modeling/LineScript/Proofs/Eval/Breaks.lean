import LineScript.Proofs.Eval.Programs
import LineScript.Proofs.Program.Located

/-!
# A loop is left from inside only

A tight block does not end by `break`, whatever runs the nested code (`ensures_execBlock`), and neither does
a loop (`ensures_whileLoop`). To speak of all code that runs in the course of a program, `runStrictly` runs
code as `runCode` does as long as the code is placed and does not end by `break`, and does something else
otherwise. A program runs in the same way with it, whatever else it does (`run_strictly`): no other code ever
runs, and none of it ends so.

The functions in a store hold placed code after any number of programs (`Reached.fits`): the reader accepts
no other, and functions come from literals in placed code.
-/

set_option autoImplicit false

namespace LineScript

/-! ## How statements end -/

theorem Ensures.tryCatch {α : Type} {holds : α → Prop} {action : Eval α} {handler : Escape → Eval α}
    (body : Ensures holds action) (handling : ∀ escape, Ensures holds (handler escape)) :
    Ensures holds (MonadExcept.tryCatch action handler) := by
  intro store value after equal
  rw [Eval.tryCatch_apply] at equal
  cases run : action store with
  | ok result middle =>
    rw [run] at equal
    cases equal
    exact body store value after run
  | error escape middle =>
    rw [run] at equal
    exact handling escape middle value after equal

section

variable (engine : Engine) (scope : FrameId)

/-- A loop does not end by `break`, however its body ends. -/
theorem ensures_whileLoop (condition : Eval Bool) (body : Eval Completion) (steps : Nat) :
    Ensures (· ≠ .broken) (whileLoop condition body steps) := by
  induction steps with
  | zero => exact .throw _
  | succ steps ih =>
    refine .after fun holds => .ite (.after fun completion => ?_) (.pure nofun)
    cases completion with
    | normal => exact ih
    | broken | returned => exact .pure nofun

theorem ensures_handle (name : String) (exception : Thrown) {handler : Eval Completion}
    (ends : Ensures (· ≠ .broken) handler) : Ensures (· ≠ .broken) (handle scope name exception handler) := by
  refine .after fun _ => .after fun _ => Ensures.bind (ends.tryCatch fun escape => ?_) fun completion good =>
    .after fun _ => .pure (by exact good)
  cases escape with
  | thrown => exact .after fun _ => .throw _
  | failure | unreadable | fault | tooDeep | outOfSteps => exact .throw _

theorem ensures_passing (line : Int) {action : Eval Completion} (ends : Ensures (· ≠ .broken) action) :
    Ensures (· ≠ .broken) (Eval.passing scope line action) :=
  ends.tryCatch fun _ => .after fun _ => .throw _

mutual

/-- A tight statement does not end by `break`. -/
theorem ensures_execStatement : ∀ statement : Statement, statement.Tight →
    Ensures (· ≠ .broken) (execStatement engine scope statement)
  | .break, tight => tight.elim
  | .expression _, _ => by
    rw [execStatement]
    exact .after fun _ => .pure nofun
  | .assign _ _ _, _ | .nonlocal _ _ _, _ => by
    rw [execStatement]
    exact .after fun _ => .after fun _ => .after fun _ => .pure nofun
  | .setProperty _ _ _ _, _ => by
    rw [execStatement]
    exact .after fun _ => .after fun _ => .after fun _ => .after fun _ => .after fun _ => .pure nofun
  | .choose _ consequent alternative, tight => by
    rw [execStatement]
    exact .after fun _ => .ite (ensures_execBlock consequent tight.1) (ensures_execBlock alternative tight.2)
  | .loop _ _, _ => by
    rw [execStatement]
    exact ensures_whileLoop _ _ _
  | .switch _ cases fallback, tight => by
    rw [execStatement]
    refine .after fun value => (ensures_execCases value cases tight.1).bind fun found good => ?_
    cases found with
    | some completion => exact .pure fun equal => good (congrArg some equal)
    | none => exact ensures_execBlock fallback tight.2
  | .return value, _ => by
    cases value with
    | none =>
      rw [execStatement]
      exact .pure nofun
    | some value =>
      rw [execStatement]
      exact .after fun _ => .pure nofun
  | .throw _, _ => by
    rw [execStatement]
    exact .after fun _ => .throw _
  | .guard body caught handler, tight => by
    rw [execStatement]
    refine (ensures_execBlock body tight.1).tryCatch fun escape => ?_
    cases escape with
    | thrown exception => exact ensures_handle scope caught exception (ensures_execBlock handler tight.2)
    | failure | unreadable | fault | tooDeep | outOfSteps => exact .throw _
  | .importModule _ _, _ => by
    rw [execStatement]
    exact .after fun _ => .after fun _ => .pure nofun

theorem ensures_execCases (subject : Value) : ∀ cases : List SwitchCase, Tight.cases cases →
    Ensures (· ≠ some .broken) (execCases engine scope subject cases)
  | [], _ => by
    rw [execCases]
    exact .pure nofun
  | ⟨_, body⟩ :: cases, tight => by
    rw [execCases]
    refine .after fun _ => .ite ?_ (ensures_execCases subject cases tight.2)
    exact (ensures_execBlock body tight.1).bind fun completion good =>
      .pure fun equal => good (Option.some.inj equal)

/-- A tight block does not end by `break`. -/
theorem ensures_execBlock : ∀ block : List NumberedStatement, Tight.block block →
    Ensures (· ≠ .broken) (execBlock engine scope block)
  | [], _ => by
    rw [execBlock]
    exact .pure nofun
  | ⟨_, statement⟩ :: rest, tight => by
    rw [execBlock]
    refine (ensures_passing scope _ (ensures_execStatement statement tight.1)).bind fun completion good => ?_
    cases completion with
    | normal => exact ensures_execBlock rest tight.2
    | broken => exact absurd rfl good
    | returned => exact .pure nofun

end

end

/-! ## Code that runs -/

/-- The code is built in, or it is a placed block. -/
def Code.Placed : Code → Prop
  | .block body => LineScript.Placed body
  | .native _ => True

theorem inherits_placed : Inherits Code.Placed (.everyBody Tight.block) where
  native _ := trivial
  program := Program.readProgramLines_placed
  heredity := Conditions.hereditary_everyBody Tight.block
  literal _ placed := placed
  block _ placed := placed.2

/-- Runs code as `runCode` does, except that `instead` runs in place of a block that is not placed, and after
one that ends by `break`. -/
def runStrictly (instead : Runner) (loopSteps : Nat) : Nat → Runner
  | 0 => fun _ _ => throw .tooDeep
  | levels + 1 => fun scope code =>
    let engine : Engine := ⟨runStrictly instead loopSteps levels, loopSteps⟩
    match code with
    | .block body =>
      if LineScript.Placed body then do
        match ← execBlock engine scope body with
        | .broken => instead scope code
        | completion => return completion
      else instead scope code
    | .native native => return .returned (← native.run engine scope)

section

variable (loopSteps : Nat)

/-- Placed code does not end by `break` on any level. -/
theorem ensures_runCode (levels : Nat) (scope : FrameId) {code : Code} (placed : code.Placed) :
    Ensures (· ≠ .broken) (runCode loopSteps levels scope code) := by
  cases levels with
  | zero => exact .throw _
  | succ levels =>
    cases code with
    | block body => exact ensures_execBlock _ scope body placed.1
    | native native => exact .after fun _ => .pure nofun

/-- Placed code, in a store with placed code, runs strictly as it runs. -/
theorem runStrictly_eq (instead : Runner) (levels : Nat) (scope : FrameId) {code : Code} (placed : code.Placed)
    {store : Store} (good : store.Fits Code.Placed) :
    runStrictly instead loopSteps levels scope code store = runCode loopSteps levels scope code store := by
  induction levels generalizing scope code store with
  | zero => rfl
  | succ levels ih =>
    have same : AsksAgree (.ofKind Code.Placed .free fun _ => trivial) (RunsCode Code.Placed) (runCode loopSteps levels)
        (runStrictly instead loopSteps levels) := by
      intro scope α action question store good
      cases question with
      | run placed => exact ih _ placed good
    have answers := (inherits_placed.follows loopSteps (.ofKind Code.Placed .free fun _ => trivial) levels).asks
    have evaluates : Evaluates Code.Placed (RunsCode Code.Placed) .free (.everyBody Tight.block) :=
      inherits_placed.evaluates ⟨rfl, rfl, rfl⟩ rfl
    cases code with
    | block body =>
      have acts := evaluates.acts_execBlock loopSteps scope (inherits_placed.block body placed)
      have equal := acts.agree answers same good
      simp only [runStrictly, runCode, if_pos (show Placed body from placed), Eval.bind_apply, equal]
      cases run : execBlock ⟨runCode loopSteps levels, loopSteps⟩ scope body store with
      | error escape after => rfl
      | ok completion after =>
        -- the two differ only after a block that ends by `break`, which a tight one does not
        cases completion with
        | broken => exact absurd rfl (ensures_execBlock _ scope body placed.1 _ _ _ run)
        | normal | returned => rfl
    | native native =>
      have permits : Manner.free.Permits native := Manner.permits rfl rfl native
      have acts := acts_native evaluates.run scope loopSteps native permits
      have equal := acts.agree answers same good
      simp only [runStrictly, runCode, Eval.bind_apply, equal]

end

/-! ## Programs -/

theorem ensures_parse (source file : String) : Ensures Placed (Module.parse source file) := by
  simp only [Module.parse]
  cases read : (Program.readProgramLines (Source.readLines source (some file))).run .empty with
  | error error table => exact .throw _
  | ok block table => exact .after fun _ => .pure (Program.readProgramLines_placed _ _ _ _ read)

namespace Interpreter

theorem ensures_attempt {runner : Runner} {root : FrameId} {program : Block} (limit : Int)
    (ends : Ensures (· ≠ .broken) (runner root (.block program))) :
    Ensures (fun ended => ∀ completion, ended = .ok completion → completion ≠ .broken)
      (attempt runner root limit program) := by
  refine Ensures.tryCatch (ends.bind fun completion good => .pure fun other equal => ?_) fun escape => ?_
  · cases equal
    exact good
  · cases escape with
    | thrown => exact .pure nofun
    | failure | unreadable | fault | tooDeep | outOfSteps => exact .throw _

/-- A program that ends does not end by `break`. -/
theorem ensures_run (source file : String) :
    Ensures (fun ended => ∀ finished, ended = .ok finished → finished.completion ≠ .broken) (run source file) := by
  refine (ensures_parse source file).bind fun program placed => ?_
  refine .after fun root => .after fun _ => .after fun store => .ite (.throw _) ?_
  refine (ensures_attempt _ (ensures_runCode _ _ root placed)).bind fun ended good => ?_
  cases ended with
  | ok completion =>
    refine .pure fun finished equal => ?_
    cases equal
    exact good completion rfl
  | error exception => exact .after fun _ => .pure nofun

/-- The runners for programs, each with something else to do. -/
def strictRunners (instead : Runner) (limit : Int) : Runner :=
  runStrictly instead loopSteps (callLevels limit)

/-- A program runs strictly as it runs, in a store with placed code. -/
theorem run_strictly (instead : Runner) (source file : String) {store : Store} (good : store.Fits Code.Placed) :
    runUnder (strictRunners instead) source file store = run source file store := by
  have same : AsksAgree (.ofKind Code.Placed .free fun _ => trivial) (RunsUnder Code.Placed) (fun limit => (engineFor limit).run)
      (strictRunners instead) := by
    intro scope α action question store good
    cases question with
    | run limit placed => exact runStrictly_eq loopSteps instead _ scope placed good
  rw [run_eq_runUnder]
  have acts : Does Code.Placed (RunsUnder Code.Placed) .free ⟨0⟩ fun runners => runUnder runners source file :=
    acts_runUnder rfl rfl rfl inherits_placed.toAdmits ⟨0⟩ source file
  exact acts.agree (follows_engineFor inherits_placed _) same good

end Interpreter

/-- A `break` leaves the loop that it stands in, and no more. In a program that the reader accepts each `break`
has a loop around it within its body. No loop and no tight block ends by `break`, whatever runs nested code and
in any store. No code that is not placed runs in the course of a program, after any programs before it, and
none ends by `break`; and a program that ends ends normally or by a return. -/
theorem break_leaves_its_loop_only :
    (∀ source file, Ensures Placed (Program.readProgram source file)) ∧
    (∀ engine scope condition body,
      Ensures (· ≠ .broken) (execStatement engine scope (.loop condition body))) ∧
    (∀ engine scope body, Tight.block body → Ensures (· ≠ .broken) (execBlock engine scope body)) ∧
    (∀ store, Reached store → ∀ instead source file,
      Interpreter.runUnder (Interpreter.strictRunners instead) source file store =
        Interpreter.run source file store) ∧
    ∀ source file, Ensures (fun ended => ∀ finished, ended = .ok finished →
      finished.completion = .normal ∨ ∃ value, finished.completion = .returned value)
      (Interpreter.run source file) := by
  refine ⟨fun source file => Program.readProgramLines_placed _, fun engine scope condition body => ?_,
    fun engine scope body tight => ensures_execBlock engine scope body tight, fun store reached instead source file =>
    Interpreter.run_strictly instead source file (reached.fits inherits_placed), fun source file => ?_⟩
  · rw [execStatement]
    exact ensures_whileLoop _ _ _
  · intro store ended after run finished equal
    have unbroken := Interpreter.ensures_run source file store ended after run finished equal
    cases completion : finished.completion with
    | normal => exact .inl rfl
    | returned value => exact .inr ⟨value, rfl⟩
    | broken => exact absurd completion unbroken

/-- A block whose loop is left from a branch, and the first program of all. -/
theorem break_leaves_its_loop_only_in_branch :
    Tight.block [⟨1, .loop (.variable "x") [⟨2, .choose (.variable "y") [⟨3, .break⟩] []⟩]⟩] ∧
    Ensures (· ≠ .broken) (execBlock (engineFor 0) ⟨0⟩
      [⟨1, .loop (.variable "x") [⟨2, .choose (.variable "y") [⟨3, .break⟩] []⟩]⟩]) ∧
    Interpreter.runUnder (Interpreter.strictRunners fun _ _ => throw .outOfSteps)
        "while true\n  break\nend" "main.toy" (.initial .default ⟨[], []⟩ [] 0) =
      Interpreter.run "while true\n  break\nend" "main.toy" (.initial .default ⟨[], []⟩ [] 0) :=
  ⟨by decide, break_leaves_its_loop_only.2.2.1 _ _ _ (by decide),
    break_leaves_its_loop_only.2.2.2.1 _ (.initial .default ⟨[], []⟩ [] 0) _ _ _⟩

end LineScript
