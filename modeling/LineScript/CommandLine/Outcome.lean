import LineScript.CommandLine.Arguments
import LineScript.Config.Load
import LineScript.Interpreter

/-!
# Outcomes of commands

Checking counts the statements of the program in a file, and running runs it, with modules looked for next to the file
first. What the program writes, and the texts with which it asks for input, go to the output; errors and the log go to
the error output.
-/

namespace LineScript.CommandLine

open LineScript.Config (LoadFault Settings)
open LineScript.Files (FileSystem Path)

structure Surroundings where
  files : FileSystem
  inputs : List String
  clock : Float

inductive Ending where
  | exited (status : Nat)
  | unsettled (reason : LoadFault)
  | escaped (reason : Escape)

structure Outcome where
  ending : Ending
  output : String
  errors : String

/-! ## Texts -/

def escapeMessage? : Escape → Option String
  | .failure reason => some reason.text
  | .unreadable error => error.diagnostic?.map Source.Diagnostic.text
  | .fault reason => reason.message?
  | _ => none

/-- The lines of an input text. A line feed ends a line, and the last line need not have one. -/
def inputLines (text : String) : List String :=
  match (text.splitOn "\n").reverse with
  | "" :: lines => lines.reverse
  | lines => lines.reverse

def errorLine (message : String) : String :=
  "Error: " ++ message ++ "\n"

def eventText : Event → String
  | .output text => text
  | .prompt text => text

def outputOf (store : Store) : String :=
  String.join (store.events.toList.map eventText)

def logOf (store : Store) : String :=
  if store.settings.logsDetails then
    String.join (store.log.toList.map fun entry => entry.text ++ "\n")
  else ""

def failed (message : String) : Outcome :=
  ⟨.exited 1, "", errorLine message⟩

def escapedOutcome (escape : Escape) (output log : String) : Outcome :=
  match escapeMessage? escape with
  | some message => ⟨.exited 1, output, log ++ errorLine message⟩
  | none => ⟨.escaped escape, output, log⟩

/-! ## Commands -/

def readFile (path : Path) : Eval String := do
  match ← Module.readSource path with
  | .ok source => return source
  | .error reason => Eval.fault (.file reason)

def check (surroundings : Surroundings) (settings : Settings) (path : Path) : Outcome :=
  let program : Eval Block := do Module.parse (← readFile path) path.text
  match program.run (.initial settings surroundings.files [] surroundings.clock) with
  | .ok block _ =>
    ⟨.exited 0, "OK: " ++ path.name ++ " - " ++ Number.digitsOf block.length ++ " statement(s)\n", ""⟩
  | .error escape _ => escapedOutcome escape "" ""

def directoryOf (files : FileSystem) (path : Path) : String :=
  (FileSystem.pathOf ((files.locate path).toOption.join.getD []).dropLast).text

def withDirectory (settings : Settings) (directory : String) : Settings :=
  if settings.modulePaths.contains directory then settings
  else { settings with modulePaths := directory :: settings.modulePaths }

def run (surroundings : Surroundings) (settings : Settings) (path : Path) : Outcome :=
  let settings := withDirectory settings (directoryOf surroundings.files path)
  let program := do Interpreter.run (← readFile path) path.text
  match program.run (.initial settings surroundings.files surroundings.inputs surroundings.clock) with
  | .ok (.ok _) store => ⟨.exited 0, outputOf store, logOf store⟩
  | .ok (.error _) store => ⟨.exited 1, outputOf store, logOf store⟩
  | .error escape store => escapedOutcome escape (outputOf store) (logOf store)

def settingsFor (files : FileSystem) : Option String → Except LoadFault Settings
  | none => .ok .default
  | some name => if name.isEmpty then .ok .default else Settings.load files (.ofText name)

def Invocation.outcome (invocation : Invocation) (surroundings : Surroundings) : Outcome :=
  let path := Path.ofText invocation.file
  match surroundings.files.holds path with
  | .error reason => ⟨.escaped (.fault (.file reason)), "", ""⟩
  | .ok false => failed ("File not found: " ++ path.text)
  | .ok true =>
    match settingsFor surroundings.files invocation.settings with
    | .ok settings =>
      match invocation.command with
      | .check => check surroundings settings path
      | .run => run surroundings settings path
    | .error reason =>
      match reason.message? with
      | some message => failed message
      | none => ⟨.unsettled reason, "", ""⟩

end LineScript.CommandLine
