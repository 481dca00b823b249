import LineScript.Yaml.Property

/-!
# Directives

A directive is a line that starts with a percent sign. It tells the version of the language, or what a handle
of tags stands for; any other one says nothing.
-/

namespace LineScript.Yaml

inductive Directive where
  | version (major : Nat)
  | handle (handle name : List Char)
  | other
  deriving Repr, DecidableEq

/-- The place after blanks, a comment and the end of the line. -/
def skipRestOfLine (cursor : Cursor) : Except Fault Cursor :=
  let cursor := cursor.skipWhile (· = ' ')
  let cursor := if cursor.head? = some '#' then cursor.skipWhile (fun c => !isBreak c) else cursor
  match cursor.rest with
  | [] => .ok cursor
  | c :: _ => if isBreak c then .ok cursor.next else .error .badLine

def takeNumber (cursor : Cursor) : Except Fault (Nat × Cursor) :=
  let digits := cursor.rest.takeWhile Char.isDigit
  if digits.isEmpty then .error .badDirective
  else if Number.digitLimit < digits.length then .error (.tooManyDigits digits.length)
  else .ok (Number.radixRun 10 digits, cursor.skip digits.length)

def takeVersion (cursor : Cursor) : Except Fault (Directive × Cursor) := do
  let (major, after) ← takeNumber (cursor.skipWhile (· = ' '))
  if after.head? ≠ some '.' then throw .badDirective
  let (_, after) ← takeNumber after.next
  return (.version major, after)

def takeHandleName (cursor : Cursor) : Except Fault (Directive × Cursor) := do
  let (handle, after) ← takeHandle (cursor.skipWhile (· = ' '))
  if after.head? ≠ some ' ' then throw .badDirective
  let (name, after) ← tagName (after.skipWhile (· = ' '))
  return (.handle handle name, after)

def takeDirective (cursor : Cursor) : Except Fault (Directive × Cursor) := do
  let (name, after) := takeName cursor.next
  if name.isEmpty || !atSpace after.rest then throw .badDirective
  let (directive, after) ←
    if name = "YAML".toList then takeVersion after
    else if name = "TAG".toList then takeHandleName after
    else pure (.other, after.skipWhile fun c => !isBreak c)
  if !atSpace after.rest then throw .badDirective
  return (directive, ← skipRestOfLine after)

/-! ## Handles -/

def commonHandles : List (List Char × List Char) :=
  [(['!'], ['!']), (['!', '!'], "tag:yaml.org,2002:".toList)]

/-- The handles that directives give, in front of the common ones. There is at most one version, and it is of
the first language; no handle is given twice. -/
def handlesOf (directives : List Directive) : Except Fault (List (List Char × List Char)) := do
  let versions := directives.filterMap fun directive =>
    match directive with
    | .version major => some major
    | _ => none
  let handles := directives.filterMap fun directive =>
    match directive with
    | .handle handle name => some (handle, name)
    | _ => none
  if 1 < versions.length || versions.any (· ≠ 1) then throw .badDirective
  if (handles.map Prod.fst).eraseDups.length ≠ handles.length then throw .badDirective
  return handles ++ commonHandles

end LineScript.Yaml
