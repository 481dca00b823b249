import LineScript.Facet.Basic
import LineScript.Text.NumberForm

/-!
# Templates

A template is text with fields between braces; a brace that is text is written twice. A field has a name, perhaps a
conversion after `!`, and perhaps a form after `:`, which may hold plain fields itself. The name is the number of an
argument, or empty for the next one, and may go on with `[index]` and `.attribute` (see `LineScript.Facet.Basic`). Of
the values that these lead to, only the integers take a form.
-/

namespace LineScript.Text

/-! ## Cutting a field -/

/-- The name of a field, the character that ends it, and the text after that. The name is held last
character first; inside square brackets only the closing one counts. -/
def splitFieldName (name : List Char) (inBrackets : Bool) :
    List Char → Except TemplateFault (List Char × Char × List Char)
  | [] => .error .missingClosing
  | c :: rest =>
    if inBrackets then splitFieldName (c :: name) (c ≠ ']') rest
    else if c = '\x7b' then .error .openingInName
    else if c = '[' then splitFieldName (c :: name) true rest
    else if c = '\x7d' ∨ c = ':' ∨ c = '!' then .ok (name.reverse, c, rest)
    else splitFieldName (c :: name) false rest

/-- The form of a field up to the brace that closes it, and the text after that. The form is held last
character first, and `depth` counts the open braces in it. -/
def splitForm (form : List Char) (depth : Nat) : List Char → Except TemplateFault (List Char × List Char)
  | [] => .error .unmatchedForm
  | c :: rest =>
    if c = '\x7b' then splitForm (c :: form) (depth + 1) rest
    else if c = '\x7d' then
      match depth with
      | 0 => .ok (form.reverse, rest)
      | depth + 1 => splitForm (c :: form) depth rest
    else splitForm (c :: form) depth rest

structure Field where
  name : List Char
  conversion : Option Char
  form : List Char

def splitFieldAfter (name : List Char) (ending : Char) (rest : List Char) : Except TemplateFault (Field × List Char) :=
  if ending = ':' then do
    let (form, rest) ← splitForm [] 0 rest
    return (⟨name, none, form⟩, rest)
  else if ending = '!' then
    match rest with
    | [] => .error .missingConversion
    | [_] => .error .unmatchedForm
    | conversion :: c :: rest =>
      if c = '\x7d' then .ok (⟨name, some conversion, []⟩, rest)
      else if c = ':' then do
        let (form, rest) ← splitForm [] 0 rest
        return (⟨name, some conversion, form⟩, rest)
      else .error .missingColon
  else .ok (⟨name, none, []⟩, rest)

def splitField (cs : List Char) : Except TemplateFault (Field × List Char) := do
  let (name, ending, rest) ← splitFieldName [] false cs
  splitFieldAfter name ending rest

/-! ## Values of fields -/

inductive Numbering where
  | undecided
  | automatic (next : Nat)
  | manual
  deriving Repr, DecidableEq

abbrev Filling := StateT Numbering (Except TemplateFault)

def nextNumber : Filling Nat := do
  match ← get with
  | .undecided => set (Numbering.automatic 1); return 0
  | .automatic next => set (Numbering.automatic (next + 1)); return next
  | .manual => throw .fromManual

def noteNumber : Filling Unit := do
  match ← get with
  | .automatic _ => throw .fromAutomatic
  | _ => set Numbering.manual

/-- The character starts the second or a later part of a field name. -/
def startsPart (c : Char) : Bool :=
  c = '.' || c = '['

def itemOf (value index : Facet) : Except TemplateFault Facet :=
  (value.item index).mapError fun reason =>
    match reason with
    | .beyondText => .indexOutOfRange
    | .beyondRow => .rowIndexOutOfRange
    | .noKey key => .noKey (String.ofList key.quoted)
    | .indexType => .indexType

def indexOf (part : List Char) : Except TemplateFault Facet := do
  match ← wholeNumber? part with
  | some index => return .integer index
  | none => return .text part

def attributeOf (value : Facet) (name : List Char) : Except TemplateFault Facet :=
  match value.attribute? (String.ofList name) with
  | some found => .ok found
  | none => .error .attribute

/-- The value that the later parts of a field name lead to from a value. -/
def followParts : Nat → Facet → List Char → Except TemplateFault Facet
  | 0, value, _ => .ok value
  | _ + 1, value, [] => .ok value
  | fuel + 1, value, c :: rest =>
    if c = '.' then do
      let name := rest.takeWhile fun d => !startsPart d
      if name.isEmpty then throw .emptyAttribute
      followParts fuel (← attributeOf value name) (rest.dropWhile fun d => !startsPart d)
    else if c = '[' then
      match rest.dropWhile (· ≠ ']') with
      | [] => .error .missingBracket
      | _ :: after => do
        let part := rest.takeWhile (· ≠ ']')
        let index ← indexOf part
        if part.isEmpty then throw .emptyAttribute
        followParts fuel (← itemOf value index) after
    else .error .afterBracket

def argumentOf (arguments : List (List Char)) (first : List Char) : Filling (List Char) := do
  let index ←
    if first.isEmpty then nextNumber
    else
      match ← wholeNumber? first with
      | some index => noteNumber; pure index
      | none => throw (.noName (String.ofList first))
  match arguments[index]? with
  | some value => return value
  | none => throw (.noArgument index)

def valueOfName (arguments : List (List Char)) (name : List Char) : Filling Facet := do
  let value ← argumentOf arguments (name.takeWhile fun c => !startsPart c)
  let parts := name.dropWhile fun c => !startsPart c
  followParts parts.length (.text value) parts

/-- A value converted as a field asks for. A character of number zero asks for nothing. -/
def convert (value : Facet) : Option Char → Except TemplateFault Facet
  | none | some '\x00' => .ok value
  | some 's' => .ok (.text value.shown)
  | some 'r' => .ok (.text value.quoted)
  | some 'a' => .ok (.text value.quotedAscii)
  | some c => .error (.unknownConversion c)

def applyForm (form : List Char) (value : Facet) : Except TemplateFault (List Char) :=
  if form.isEmpty then .ok value.shown
  else
    match value with
    | .text content => formText form content
    | .integer number => formInteger value.kindOf.name form number
    | .boolean truth => formInteger value.kindOf.name form truth.toNat
    | _ => .error .formType

/-! ## Filling -/

section

variable (arguments : List (List Char)) (fillForm : List Char → Filling (List Char))

def fillField (field : Field) : Filling (List Char) := do
  let value ← valueOfName arguments field.name
  let value ← convert value field.conversion
  let form ← if field.form.contains '\x7b' then fillForm field.form else pure field.form
  applyForm form value

def fillFrom : Nat → List Char → Filling (List Char)
  | 0, _ => return []
  | _ + 1, [] => return []
  | fuel + 1, c :: rest =>
    if c = '\x7d' then
      match rest with
      | '\x7d' :: rest => return c :: (← fillFrom fuel rest)
      | _ => throw .singleClosing
    else if c = '\x7b' then
      match rest with
      | [] => throw .singleOpening
      | '\x7b' :: rest => return c :: (← fillFrom fuel rest)
      | _ => do
        let (field, after) ← splitField rest
        let shown ← fillField arguments fillForm field
        return shown ++ (← fillFrom fuel after)
    else return c :: (← fillFrom fuel rest)

end

/-- The text of a template whose forms may nest the given number of times. -/
def fillNested (arguments : List (List Char)) : Nat → List Char → Filling (List Char)
  | 0, _ => throw .tooNested
  | depth + 1, cs => fillFrom arguments (fillNested arguments depth) cs.length cs

def fillTemplate (template : String) (arguments : List String) : Except TemplateFault String := do
  let filled ← (fillNested (arguments.map String.toList) 2 template.toList).run' .undecided
  return String.ofList filled

end LineScript.Text
