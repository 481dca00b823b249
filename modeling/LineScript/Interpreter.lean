import LineScript.Eval.Run

/-!
# Running programs

A program is read and runs in a new frame with the built-in library. If it throws and nothing catches the exception, a
report is written to the output: the thrown value as printing shows it, and the places that the exception passed. If it
nests too deeply, that is a failure. A host can have errors told apart by the stage in which they came up.
-/

namespace LineScript

namespace Interpreter

structure Finished where
  root : FrameId
  completion : Completion

/-- An exception that nothing caught, with the text that stands for it in the report. -/
structure Uncaught where
  exception : Thrown
  description : String

def Uncaught.diagnostic (uncaught : Uncaught) : Source.Diagnostic :=
  .unplaced "E501" ("uncaught exception: " ++ uncaught.description) []

def greatestLimit : Int :=
  2147483647

/-- The text that stands for a thrown value: what printing shows, or its plain text if printing it throws
in turn. -/
def describeThrown (run : Runner) (scope : FrameId) (value : Value) : Eval String :=
  tryCatch (Eval.display run scope value) fun escape =>
    match escape with
    | .thrown _ => Eval.textOf value
    | _ => throw escape

def report (run : Runner) (scope : FrameId) (exception : Thrown) : Eval Uncaught := do
  let description ← describeThrown run scope exception.value
  Eval.output ("\n".intercalate (("Uncaught " ++ description) :: exception.trace.lines) ++ "\n")
  return ⟨exception, description⟩

/-- A program runs to its end, or an exception leaves it. Nesting too deeply is a failure. -/
def attempt (run : Runner) (root : FrameId) (limit : Int) (program : Block) : Eval (Except Thrown Completion) :=
  tryCatch (do return .ok (← run root (.block program))) fun escape =>
    match escape with
    | .thrown exception => return .error exception
    | .tooDeep => Eval.fail (.recursionDepth limit)
    | _ => throw escape

def run (source file : String) : Eval (Except Uncaught Finished) := do
  let program ← Module.parse source file
  let root ← Eval.newRoot file (Origin.rowsOf source) true
  Eval.note (.running file)
  let limit := (← get).settings.recursionLimit
  if greatestLimit < limit then Eval.fault .limitTooLarge
  else
    let engine := engineFor limit
    match ← attempt engine.run root limit program with
    | .ok completion => return .ok ⟨root, completion⟩
    | .error exception => return .error (← report engine.run root exception)

inductive Stage where
  | lexing
  | parsing
  | running
  deriving DecidableEq, Repr

def Stage.label : Stage → String
  | .lexing => "Lexer error: "
  | .parsing => "Parser error: "
  | .running => "Runtime error: "

/-- The stage in which an error came up; nothing for what escapes for other reasons than an error in a program. -/
def Stage.ofEscape? : Escape → Option Stage
  | .unreadable (.reported cause _) => some (if cause.isLexical then .lexing else .parsing)
  | .failure _ => some .running
  | _ => none

/-- What a host is told about a program: how it ended, which exception left it, or which error there was. -/
inductive Outcome where
  | finished (finished : Finished)
  | uncaught (uncaught : Uncaught)
  | failed (stage : Stage) (error : Escape)

def execute (source file : String) : Eval Outcome :=
  tryCatch
    (do
      match ← run source file with
      | .ok finished => return .finished finished
      | .error uncaught => return .uncaught uncaught)
    fun escape =>
      match Stage.ofEscape? escape with
      | some stage => return .failed stage escape
      | none => throw escape

end Interpreter

end LineScript
