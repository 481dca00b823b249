import LineScript.Source.Line

/-!
# Headers of statements

After its keyword, a line has the form that the keyword asks for. Each function here takes that text
apart, and gives nothing if it has another form.
-/

namespace LineScript.Program

open LineScript.Text LineScript.Source

def isColon (cs : List Char) : Bool :=
  trimStart cs == [':']

/-- The text between parentheses at the start of a text, up to the first closing one, with the text
after it. -/
def splitParenthesized? : List Char → Option (List Char × List Char)
  | '(' :: rest =>
    match rest.dropWhile (· ≠ ')') with
    | _ :: after => some (rest.takeWhile (· ≠ ')'), after)
    | [] => none
  | _ => none

def functionHeader? (cs : List Char) : Option (List Char × List Char) := do
  let (name, rest) ← splitName? cs
  let (parameters, rest) ← splitParenthesized? (trimStart rest)
  if isColon rest then some (name, parameters) else none

/-- A class header: `name:` or `name(parents):`. Without parentheses the list of parents is empty. -/
def classHeader? (cs : List Char) : Option (List Char × List Char) := do
  let (name, rest) ← splitName? cs
  match splitParenthesized? (trimStart rest) with
  | some (parents, rest) => if isColon rest then some (name, parents) else none
  | none => if isColon rest then some (name, []) else none

/-- The text after a character, if it starts with it, and else the text itself. -/
def skipChar (c : Char) : List Char → List Char
  | [] => []
  | d :: rest => if d = c then rest else d :: rest

/-- The name in a handler header: `(name):`, where each parenthesis may be missing. -/
def handlerHeader? (cs : List Char) : Option (List Char) := do
  let (name, rest) ← splitName? (trimStart (skipChar '(' cs))
  if isColon (skipChar ')' (trimStart rest)) then some name else none

def blockHeader? (cs : List Char) : Option (List Char) :=
  if cs.getLast? = some ':' then some (trim cs.dropLast) else none

def nonlocalHeader? (cs : List Char) : Option (List Char × Option Operator × List Char) := do
  let (name, rest) ← splitName? cs
  let (operator, value) ← splitAssignment? rest
  some (name, operator, value)

def skipBlanks? : List Char → Option (List Char)
  | [] => none
  | c :: rest => if isBlank c then some (trimStart rest) else none

/-- The alias of an import, from the text after the module path: none at the end of the text. -/
def importAlias? (cs : List Char) : Option (Option (List Char)) :=
  match cs with
  | [] => some none
  | _ => do
    match ← skipBlanks? cs with
    | 'a' :: 's' :: rest =>
      let name ← skipBlanks? rest
      if isName name then some (some name) else none
    | _ => none

def importHeader? (cs : List Char) : Option (List (List Char) × Option (List Char)) := do
  let (path, rest) ← splitPath? cs
  let localName ← importAlias? rest
  some (path, localName)

def names? (cs : List Char) : Option (List String) :=
  let parts := splitTopLevel cs
  if parts.all isName then some (parts.map String.ofList) else none

end LineScript.Program
