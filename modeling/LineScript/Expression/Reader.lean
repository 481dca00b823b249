import LineScript.Expression.Interner
import LineScript.Expression.Postfix

/-!
# Reading expressions

The text of an expression becomes tokens, the tokens become a postfix list, and a stack of operands folds that list
into a tree. Each operand is read by its kind. The arguments and elements inside an operand are expressions again, which
are shorter, so the length of the text bounds the nesting. Reading collects variables and literals in a table, which
keeps what was collected before a failure.
-/

namespace LineScript.Expression

open LineScript.Text LineScript.Source LineScript.Number

abbrev ReadM := EStateM ReadError Interner

def failWith {α : Type} (site : Option Site) (cause : ReadCause) : ReadM α :=
  throw (.reported cause site)

def liftCause {α : Type} (site : Option Site) : Except ReadCause α → ReadM α
  | .ok value => pure value
  | .error cause => failWith site cause

def internVariable (name : List Char) : ReadM Expr := do
  modify fun table => table.addVariable (String.ofList name)
  return .variable (String.ofList name)

def internLiteral (value : Literal) : ReadM Expr := do
  modify fun table => table.addLiteral value
  return .literal value

/-! ## Operands -/

def isTextLiteral (cs : List Char) : Bool :=
  match cs with
  | quote :: rest => isQuote quote && rest.getLast? == some quote
  | [] => false

def isListLiteral (cs : List Char) : Bool :=
  match cs with
  | '[' :: rest => rest.getLast? == some ']'
  | _ => false

def inside (cs : List Char) : List Char :=
  (cs.drop 1).dropLast

def readTextLiteral (site : Option Site) (cs : List Char) : ReadM Expr := do
  let value ← liftCause site (decodeText cs)
  internLiteral (.text (String.ofList value))

section

variable (site : Option Site) (readInner : List Char → ReadM Expr)

def readListLiteral (cs : List Char) : ReadM Expr := do
  let elements ← (splitTopLevel (inside cs)).mapM readInner
  return .list elements

/-- The properties and calls that follow a node; nothing if the text is no chain. -/
def readSuffixes : Nat → Expr → List Char → ReadM (Option Expr)
  | 0, node, _ => return some node
  | _ + 1, node, [] => return some node
  | fuel + 1, node, c :: rest =>
    if c = '(' then do
      let after ← liftCause site (skipGroup (c :: rest))
      let arguments ← (splitTopLevel (inside (consumed (c :: rest) after))).mapM readInner
      readSuffixes fuel (.call node arguments) after
    else if c = '.' then
      match splitName? rest with
      | some (name, after) => readSuffixes fuel (.property node (String.ofList name)) after
      | none => return none
    else return none

/-- The first part of a chain, with the text after it; nothing if the text starts with none. -/
def readHead (cs : List Char) : ReadM (Option (Expr × List Char)) :=
  match cs with
  | [] => return none
  | c :: rest =>
    if isQuote c then do
      let after ← liftCause site <|
        match skipText c rest with
        | some after => .ok after
        | none => .error .unterminatedText
      let head ← readTextLiteral site (consumed cs after)
      return some (head, after)
    else if c = '[' then do
      let after ← liftCause site (skipGroup cs)
      if isListLiteral (consumed cs after) then
        let head ← readListLiteral readInner (consumed cs after)
        return some (head, after)
      else return none
    else
      match splitName? cs with
      | some (name, after) => return some (← internVariable name, after)
      | none => return none

/-- A chain of properties and calls; nothing if the text is none. -/
def readChain (cs : List Char) : ReadM (Option Expr) := do
  match ← readHead site readInner cs with
  | none => return none
  | some (_, []) => return none
  | some (head, rest) => readSuffixes site readInner rest.length head rest

def readOperand (cs : List Char) : ReadM Expr :=
  if isTextLiteral cs then readTextLiteral site cs
  else
    match Numeral.ofText? cs with
    | some numeral => internLiteral (.number numeral.value)
    | none =>
      if cs = "true".toList then internLiteral (.boolean true)
      else if cs = "false".toList then internLiteral (.boolean false)
      else if cs = "null".toList then return .null
      else if isListLiteral cs then readListLiteral readInner cs
      else do
        match ← readChain site readInner cs with
        | some node => return node
        | none =>
          if isName cs then internVariable cs
          else failWith site (.invalidExpression (String.ofList cs))

/-! ## Trees from postfix lists -/

def fold (text : List Char) : List Expr → List PostfixItem → ReadM Expr
  | [tree], [] => return tree
  | _, [] => failWith site (.invalidExpression (String.ofList text))
  | stack, .operand operand :: items => do
    let node ← readOperand site readInner operand
    fold text (node :: stack) items
  | right :: left :: stack, .binary operator :: items =>
    fold text (.binary operator left right :: stack) items
  | _, .binary _ :: _ => failWith site (.invalidExpression (String.ofList text))
  | operand :: stack, .unary operator :: items => fold text (.unary operator operand :: stack) items
  | _, .unary _ :: _ => failWith site (.invalidExpression (String.ofList text))

def readTokens (text : List Char) (tokens : List Token) : ReadM Expr := do
  let items ← liftCause site (toPostfix tokens)
  fold site readInner text [] items

end

/-! ## Expressions -/

def readNested (site : Option Site) : Nat → List Char → ReadM Expr
  | 0, _ => failWith site (.invalidExpression "")
  | fuel + 1, cs => do
    let text := trim cs
    if text.isEmpty then failWith site (.invalidExpression "")
    else
      let tokens ←
        match tokenize text with
        | .ok tokens => pure tokens
        | .error error => throw (error.at site)
      readTokens site (readNested site fuel) text tokens

def readExpr (site : Option Site) (cs : List Char) : ReadM Expr :=
  readNested site (cs.length + 1) cs

def readSingleOperand (cs : List Char) : ReadM Expr :=
  readOperand none (readExpr none) cs

end LineScript.Expression
