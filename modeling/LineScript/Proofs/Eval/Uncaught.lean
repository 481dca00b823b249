import LineScript.Proofs.Eval.Withdrawal

/-!
# Exceptions that nothing catches

A program whose top-level code throws ends with a report: the thrown value as printing shows it, and a line for each
entry of the trace. Printing an instance runs its method `toString`, which can throw in turn, and can fail. If it
throws, the plain text of the value is shown instead. If it fails, its failure is the end of the run: there is no
report, and the host is told of an error and not of the exception (`failing_display_hides_exception`). In all other
cases the exception is reported.
-/

set_option autoImplicit false

namespace LineScript

namespace Interpreter

/-- How the top-level code of a program ended, in which frame and under which recursion limit. -/
structure Evaluated where
  root : FrameId
  limit : Int
  result : Except Thrown Completion

/-- The program in a source text runs to the end of its top-level code. -/
def evaluate (source file : String) : Eval Evaluated := do
  let program ← Module.parse source file
  let root ← Eval.newRoot file (Origin.rowsOf source) true
  Eval.note (.running file)
  let limit := (← get).settings.recursionLimit
  if greatestLimit < limit then Eval.fault .limitTooLarge
  else return ⟨root, limit, ← attempt (engineFor limit).run root limit program⟩

/-- A program runs to the end of its top-level code, and then an exception is reported. -/
theorem run_eq_evaluate (source file : String) :
    run source file = evaluate source file >>= fun ended =>
      conclude (engineFor ended.limit).run ended.root ended.result := by
  rw [run_eq_runUnder, runUnder_eq, evaluate, bind_assoc]
  refine congrArg (Module.parse source file >>= ·) (funext fun program => ?_)
  simp only [runProgram, bind_assoc]
  refine congrArg (Eval.newRoot file (Origin.rowsOf source) true >>= ·) (funext fun root => ?_)
  refine congrArg (Eval.note (.running file) >>= ·) (funext fun _ => ?_)
  refine congrArg (get >>= ·) (funext fun store => ?_)
  split
  · rfl
  · rw [bind_assoc]
    rfl

/-! ## The text of a thrown value -/

section

variable {run : Runner} {scope : FrameId} {value : Value} {store after : Store}

theorem describeThrown_of_text {text : String} (shown : Eval.display run scope value store = .ok text after) :
    describeThrown run scope value store = .ok text after := by
  rw [describeThrown, Eval.tryCatch_apply, shown]

theorem describeThrown_of_thrown {other : Thrown} (shown : Eval.display run scope value store = .error (.thrown other) after) :
    describeThrown run scope value store = Eval.textOf value after := by
  rw [describeThrown, Eval.tryCatch_apply, shown]

theorem describeThrown_of_other {escape : Escape} (other : escape.isException = false)
    (shown : Eval.display run scope value store = .error escape after) :
    describeThrown run scope value store = .error escape after := by
  rw [describeThrown, Eval.tryCatch_apply, shown]
  cases escape with
  | thrown exception => cases other
  | failure | unreadable | fault | tooDeep | outOfSteps => rfl

end

/-! ## Reports -/

/-- The text of a report: the description of the thrown value, and a line for each entry of the trace. -/
def reportText (description : String) (trace : Trace) : String :=
  "\n".intercalate (("Uncaught " ++ description) :: trace.entries.map fun entry => "  at " ++ entry.text) ++ "\n"

/-- The exception is reported with a description, once that is made. The report is the last output, and the host is
told of the exception. -/
structure IsReported (source file : String) (store : Store) (exception : Thrown) (description : String)
    (described after : Store) : Prop where
  run : Interpreter.run source file store = .ok (.error ⟨exception, description⟩) after
  events : after.events = described.events.push (.output (reportText description exception.trace))
  told : execute source file store = .ok (.uncaught ⟨exception, description⟩) after
  code : (Uncaught.mk exception description).diagnostic.code = "E501"

/-- The exception is lost to an escape. There is no report, and the host is told of an error if the escape is one. -/
structure IsLost (source file : String) (store : Store) (escape : Escape) (after : Store) : Prop where
  run : Interpreter.run source file store = .error escape after
  told : ∀ stage, Stage.ofEscape? escape = some stage → execute source file store = .ok (.failed stage escape) after
  untold : Stage.ofEscape? escape = none → execute source file store = .error escape after

section

variable {source file : String} {store ended after : Store} {root : FrameId} {limit : Int} {exception : Thrown}
  (throws : evaluate source file store = .ok ⟨root, limit, .error exception⟩ ended)

include throws

theorem isReported_of_described {description : String}
    (described : describeThrown (engineFor limit).run root exception.value ended = .ok description after) :
    ∃ final, IsReported source file store exception description after final := by
  let final : Store := { after with
    events := after.events.push (.output (reportText description exception.trace)) }
  have ran : Interpreter.run source file store = .ok (.error ⟨exception, description⟩) final := by
    rw [run_eq_evaluate, Eval.bind_ok throws]
    dsimp only [conclude]
    rw [report, bind_assoc, Eval.bind_ok described]
    rfl
  refine ⟨final, ran, rfl, ?_, rfl⟩
  rw [execute, Eval.tryCatch_apply, Eval.bind_ok ran]
  rfl

theorem isLost_of_undescribed {escape : Escape}
    (undescribed : describeThrown (engineFor limit).run root exception.value ended = .error escape after) :
    IsLost source file store escape after := by
  have ran : Interpreter.run source file store = .error escape after := by
    rw [run_eq_evaluate, Eval.bind_ok throws]
    dsimp only [conclude]
    rw [report, bind_assoc, Eval.bind_apply, undescribed]
  refine ⟨ran, fun stage known => ?_, fun unknown => ?_⟩
  · rw [execute, Eval.tryCatch_apply, Eval.bind_apply, ran]
    simp only [known]
    rfl
  · rw [execute, Eval.tryCatch_apply, Eval.bind_apply, ran]
    simp only [unknown]
    rfl

end

/-- Printing a value runs no code: the value is no object, and no list. -/
def printsPlainly (store : Store) : Value → Bool
  | .instance id =>
    match (store.object id).payload with
    | .object | .list _ => false
    | .function _ | .class _ | .text _ => true
  | _ => true

theorem display_of_printsPlainly {store : Store} {value : Value} (plain : printsPlainly store value = true)
    (run : Runner) (scope : FrameId) : ∃ text, Eval.display run scope value store = .ok text store := by
  cases value with
  | null | number | text | boolean => exact ⟨_, rfl⟩
  | «instance» id =>
    rw [printsPlainly] at plain
    rw [Eval.display, Eval.instanceAt, bind_assoc, Eval.get_bind_apply, pure_bind]
    cases payload : (store.object id).payload with
    | object | list => simp [payload] at plain
    | function | «class» | text =>
      dsimp only
      rw [Eval.textOf, Eval.get_bind_apply, Store.textOf?, payload]
      exact ⟨_, rfl⟩

/-- What becomes of an exception that leaves the top-level code of a program. If printing shows a text for the thrown
value, the exception is reported with that text. If printing throws, it is reported with the plain text of the value,
unless the value has lost its class by then. If printing escapes otherwise, the exception is lost to that escape. It
is not lost if printing the value runs no code. -/
theorem uncaught_reported_unless_display_fails {source file : String} {store ended : Store} {root : FrameId}
    {limit : Int} {exception : Thrown}
    (throws : evaluate source file store = .ok ⟨root, limit, .error exception⟩ ended) :
    let shown := Eval.display (engineFor limit).run root exception.value ended
    (∀ text after, shown = .ok text after → ∃ final, IsReported source file store exception text after final) ∧
    (∀ other after, shown = .error (.thrown other) after →
      (∃ text final, after.textOf? exception.value = some text ∧
        IsReported source file store exception text after final) ∨
      after.textOf? exception.value = none ∧ IsLost source file store (.fault .missingAttribute) after) ∧
    (∀ escape after, escape.isException = false → shown = .error escape after →
      IsLost source file store escape after) ∧
    (printsPlainly ended exception.value = true →
      ∃ text final, IsReported source file store exception text ended final) := by
  intro shown
  refine ⟨fun text after run => ?_, fun other after run => ?_, fun escape after kind run => ?_, fun plain => ?_⟩
  · exact isReported_of_described throws (describeThrown_of_text run)
  · have described := describeThrown_of_thrown run
    rw [Eval.textOf, Eval.get_bind_apply] at described
    cases found : after.textOf? exception.value with
    | none =>
      rw [found] at described
      exact .inr ⟨rfl, isLost_of_undescribed throws described⟩
    | some text =>
      rw [found] at described
      obtain ⟨final, reported⟩ := isReported_of_described throws described
      exact .inl ⟨text, final, rfl, reported⟩
  · exact isLost_of_undescribed throws (describeThrown_of_other kind run)
  · obtain ⟨text, run⟩ := display_of_printsPlainly plain (engineFor limit).run root
    exact ⟨text, isReported_of_described throws (describeThrown_of_text run)⟩

/-- The top-level code of a program ended with an exception. -/
def throwsAtTop (source file : String) (store : Store) : Bool :=
  match evaluate source file store with
  | .ok ended _ => ended.result.toOption.isNone
  | .error _ _ => false

theorem of_throwsAtTop {source file : String} {store : Store} (throws : throwsAtTop source file store = true) :
    ∃ root limit exception ended, evaluate source file store = .ok ⟨root, limit, .error exception⟩ ended := by
  rw [throwsAtTop] at throws
  cases run : evaluate source file store with
  | error escape after =>
    rw [run] at throws
    cases throws
  | ok done after =>
    rw [run] at throws
    obtain ⟨root, limit, result⟩ := done
    cases result with
    | ok completion => cases throws
    | error exception => exact ⟨root, limit, exception, after, rfl⟩

/-- Printing the thrown object throws. -/
theorem uncaught_reported_unless_display_fails_of_throwing_display :
    let source := "class A:\n def toString():\n  throw 1\n end\nend\nthrow A()"
    let store := Store.initial .default ⟨[], []⟩ [] 0
    ((execute source "main.toy").leaves store).events = #[.output "Uncaught <A object>\n  at main.toy:6 throw A()\n"] ∧
    ∃ root limit exception ended, evaluate source "main.toy" store = .ok ⟨root, limit, .error exception⟩ ended ∧
      let shown := Eval.display (engineFor limit).run root exception.value ended
      (∀ text after, shown = .ok text after → ∃ final, IsReported source "main.toy" store exception text after final) ∧
      (∀ other after, shown = .error (.thrown other) after →
        (∃ text final, after.textOf? exception.value = some text ∧
          IsReported source "main.toy" store exception text after final) ∨
        after.textOf? exception.value = none ∧ IsLost source "main.toy" store (.fault .missingAttribute) after) ∧
      (∀ escape after, escape.isException = false → shown = .error escape after →
        IsLost source "main.toy" store escape after) ∧
      (printsPlainly ended exception.value = true →
        ∃ text final, IsReported source "main.toy" store exception text ended final) := by
  intro source store
  have throws : throwsAtTop source "main.toy" store = true := by decide +kernel
  obtain ⟨root, limit, exception, ended, throws⟩ := of_throwsAtTop throws
  exact ⟨by decide +kernel, root, limit, exception, ended, throws, uncaught_reported_unless_display_fails throws⟩

/-- The host is told of a failure of the program. -/
def tellsFailure (source file : String) (store : Store) : Bool :=
  match execute source file store with
  | .ok (.failed .running _) _ => true
  | _ => false

/-- Printing the thrown object fails. Nothing is written, and the host is told of a failure. -/
theorem failing_display_hides_exception :
    let source := "class A:\n def toString():\n  return missing\n end\nend\nthrow A()"
    let store := Store.initial .default ⟨[], []⟩ [] 0
    throwsAtTop source "main.toy" store = true ∧
      (Interpreter.run source "main.toy").escapes (fun escape after => !escape.isException && after.events.isEmpty)
        store = true ∧
      tellsFailure source "main.toy" store = true :=
  ⟨by decide +kernel, by decide +kernel, by decide +kernel⟩

end Interpreter

end LineScript
