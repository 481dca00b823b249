import LineScript.Text.Quoted

/-!
# Paths

A path has a root, which is empty for a relative path, and names. Empty names and single dots vanish when
a path is read; a path up to the parent directory stays as it is written.
-/

namespace LineScript.Files

structure Path where
  root : String
  names : List String
  deriving Repr, DecidableEq

namespace Path

def splitSlashes (part : List Char) : List Char → List String
  | [] => [String.ofList part.reverse]
  | c :: rest =>
    if c = '/' then String.ofList part.reverse :: splitSlashes [] rest
    else splitSlashes (c :: part) rest

/-- The root at the start of a text. Exactly two slashes are a root of their own. -/
def rootOf (cs : List Char) : String :=
  match (cs.takeWhile (· = '/')).length with
  | 0 => ""
  | 2 => "//"
  | _ => "/"

def ofText (text : String) : Path :=
  ⟨rootOf text.toList, (splitSlashes [] text.toList).filter fun name => name ≠ "" && name ≠ "."⟩

def here : Path :=
  ⟨"", []⟩

def text (path : Path) : String :=
  if path.root.isEmpty && path.names.isEmpty then "." else path.root ++ "/".intercalate path.names

/-- A path below another; a path with a root stays itself. -/
def append (base path : Path) : Path :=
  if path.root.isEmpty then ⟨base.root, base.names ++ path.names⟩ else path

def ofParts (parts : List String) : Path :=
  parts.foldl (fun path part => path.append (ofText part)) here

/-- The last name of a path; a path without names has none. -/
def name (path : Path) : String :=
  path.names.getLast?.getD ""

def parent (path : Path) : Path :=
  ⟨path.root, path.names.dropLast⟩

def extend (path : Path) (ending : String) : Path :=
  ⟨path.root, path.names.dropLast ++ [path.name ++ ending]⟩

end Path

end LineScript.Files
