import LineScript.Program.Header
import LineScript.Tree

/-!
# Imports in a source text

The modules that a program may load are named in its lines, so they are known before it runs.
-/

namespace LineScript.Module

def importedName? (line : Source.Line) : Option String :=
  match line.body with
  | .keyword .importModule rest =>
    (Program.importHeader? rest).map fun header => moduleName (header.1.map String.ofList)
  | _ => none

def importedNames (source : String) : List String :=
  (Source.readLines source none).filterMap importedName?

end LineScript.Module
