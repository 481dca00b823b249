import LineScript.CommandLine.Outcome
import LineScript.Module.Imports
import Std.Time.DateTime.Timestamp

/-!
# The command line

The outer layer: it reads the files that a command may need, runs the command on them, and writes what the
command wrote. If the program asks for a line that was not read yet, one more line is read and the program
runs again from its start. It does the same then up to that place, so only what is new is written.
-/

namespace LineScript.CommandLine

open LineScript.Files (Entry FileSystem Path Place)

def usageText : String :=
  "usage: linescript [-h] check|run [-h] [-c FILE] FILE\n"

/-! ## Files -/

def readEntry (place : Place) : IO (Option Entry) := do
  let path := (← IO.currentDir) / (FileSystem.pathOf place).text
  if ← path.isDir then return some .directory
  else if ← path.pathExists then return some (.file (← IO.FS.readBinFile path).toList)
  else return none

def placesAlong (place : Place) : List String → List Place
  | [] => []
  | name :: names =>
    let next := if name = ".." then place.dropLast else place ++ [name]
    next :: placesAlong next names

/-- The files, with what stands on the way along a path. -/
def observe (files : FileSystem) (path : Path) : IO FileSystem := do
  let start := if path.root.isEmpty then files.workingDirectory else []
  (placesAlong start path.names).foldlM (fun files place => do
    match ← readEntry place with
    | some entry => return { files with entries := (place, entry) :: files.entries }
    | none => return files) files

partial def observeModules (settings : Config.Settings) (files : FileSystem) (seen : List String) :
    List String → IO FileSystem
  | [] => return files
  | name :: names => do
    if seen.contains name then observeModules settings files seen names
    else
      let paths := (Module.candidates settings name).toOption.getD []
      let files ← paths.foldlM observe files
      let sources := paths.filterMap fun path =>
        (do files.readText path (← Module.encodingName settings.encoding)).toOption
      observeModules settings files (name :: seen) (names ++ sources.flatMap Module.importedNames)

def observeFor (invocation : Invocation) : IO FileSystem := do
  let here := Path.ofText (← IO.currentDir).toString
  let path := Path.ofText invocation.file
  let files ← observe ⟨here.names, []⟩ path
  let files ← observe files (.ofText (invocation.settings.getD ""))
  match settingsFor files invocation.settings with
  | .error _ => return files
  | .ok settings =>
    let settings := withDirectory settings (directoryOf files path)
    match do files.readText path (← Module.encodingName settings.encoding) with
    | .ok source => observeModules settings files [] (Module.importedNames source)
    | .error _ => return files

/-! ## Running -/

/-- The command runs, with one more line of input as long as it asks for one. The number says how much of
its output is written already. -/
partial def converse (invocation : Invocation) (surroundings : Surroundings) (written : Nat) :
    IO Outcome := do
  let outcome := invocation.outcome surroundings
  let output ← IO.getStdout
  output.putStr (outcome.output.drop written).toString
  output.flush
  match outcome.ending with
  | .escaped (.fault .endOfInput) =>
    let line ← (← IO.getStdin).getLine
    if line.isEmpty then return outcome
    else
      let inputs := surroundings.inputs ++ inputLines line
      converse invocation { surroundings with inputs := inputs } outcome.output.length
  | _ => return outcome

def Ending.status : Ending → Nat
  | .exited status => status
  | .unsettled _ => 1
  | .escaped _ => 1

def currentTime : IO Float := do
  return Number.ofInteger (← Std.Time.Timestamp.now).toMillisecondsSinceUnixEpoch.val

def execute (arguments : List String) : IO UInt32 := do
  match Invocation.ofArguments arguments with
  | .error usage =>
    (if usage = .help then IO.print else IO.eprint) usageText
    return usage.status.toUInt32
  | .ok invocation =>
    let files ← observeFor invocation
    let outcome ← converse invocation ⟨files, [], ← currentTime⟩ 0
    IO.eprint outcome.errors
    return outcome.ending.status.toUInt32

end LineScript.CommandLine

def main (arguments : List String) : IO UInt32 :=
  LineScript.CommandLine.execute arguments
