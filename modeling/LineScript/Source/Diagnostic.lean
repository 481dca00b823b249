import LineScript.Number.Written

/-!
# Locations and diagnostics

A diagnostic is what an error says: a code, a message, a severity, the place in the source, the source line itself, and
hints.
-/

namespace LineScript.Source

open LineScript.Number (integerText)

/-- A place in a source text. Lines and columns count from one. -/
structure Location where
  line : Int
  column : Int
  file : Option String
  deriving Repr, DecidableEq

def Location.text (location : Location) : String :=
  let place := integerText location.line ++ ":" ++ integerText location.column
  match location.file with
  | none => place
  | some file => if file.isEmpty then place else file ++ ":" ++ place

/-- Where an error is reported: the location and, if it is known, the source line. -/
structure Site where
  location : Location
  sourceLine : Option String
  deriving Repr, DecidableEq

inductive Severity where
  | error
  | warning
  | info
  | hint
  deriving Repr, DecidableEq

namespace Severity

def word : Severity → String
  | .error => "error"
  | .warning => "warning"
  | .info => "info"
  | .hint => "hint"

def ofWord? (word : String) : Option Severity :=
  [Severity.error, .warning, .info, .hint].find? fun severity => severity.word == word

end Severity

structure Diagnostic where
  code : String
  message : String
  severity : Severity
  location : Option Location
  sourceLine : Option String
  hints : List String
  deriving Repr, DecidableEq

namespace Diagnostic

def unplaced (code message : String) (hints : List String) : Diagnostic :=
  ⟨code, message, .error, none, none, hints⟩

def placed (code message : String) (site : Option Site) (hints : List String) : Diagnostic :=
  ⟨code, message, .error, site.map Site.location, site.bind Site.sourceLine, hints⟩

def spaces (count : Nat) : String :=
  String.ofList (List.replicate count ' ')

def header (diagnostic : Diagnostic) : String :=
  let body := diagnostic.severity.word ++ "[" ++ diagnostic.code ++ "]: " ++ diagnostic.message
  match diagnostic.location with
  | some location => location.text ++ ": " ++ body
  | none => body

/-- The source line with its number and a caret under the column. -/
def excerpt (diagnostic : Diagnostic) : List String :=
  match diagnostic.location, diagnostic.sourceLine with
  | some location, some sourceLine =>
    let number := integerText location.line
    ["  |", spaces (3 - number.length) ++ number ++ " | " ++ sourceLine,
      "    | " ++ spaces (location.column - 1).toNat ++ "^"]
  | _, _ => []

def hintLines (diagnostic : Diagnostic) : List String :=
  diagnostic.hints.map fun hint => "    = hint: " ++ hint

def text (diagnostic : Diagnostic) : String :=
  "\n".intercalate (diagnostic.header :: diagnostic.excerpt ++ diagnostic.hintLines)

def shortText (diagnostic : Diagnostic) : String :=
  "\n".intercalate (diagnostic.header :: diagnostic.hintLines)

end Diagnostic

end LineScript.Source
