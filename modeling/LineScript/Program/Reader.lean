import LineScript.Expression.Reader
import LineScript.Program.Header

/-!
# Reading programs

A statement takes its first line and, if it opens a block, the lines up to the matching `end`; the lines after it are
handed on. A block stops at the first line that ends statements, and the statement around it checks that line.

Every reader of a statement works over a reader of the statements nested in it, and the number of lines bounds the
nesting. The number of loops around a statement in the same body tells where `break` is allowed.
-/

namespace LineScript.Program

open LineScript.Text LineScript.Source LineScript.Expression

/-- A reader of one statement from its first line and the lines after it, with the number of loops around
it. It hands on the lines after the statement. -/
abbrev StatementReader := Nat → Line → List Line → ReadM (Statement × List Line)

def failAt {α : Type} (line : Line) (cause : ReadCause) : ReadM α :=
  throw (line.error cause)

def failStatement {α : Type} (line : Line) : ReadM α :=
  failAt line (.noStatement line.text)

def require {α : Type} (line : Line) : Option α → ReadM α
  | some value => pure value
  | none => failStatement line

def exprOn (line : Line) (cs : List Char) : ReadM Expr :=
  readExpr (some ⟨line.location, some line.text⟩) cs

def headerOn (line : Line) (rest : List Char) : ReadM (List Char) :=
  require line (blockHeader? rest)

def emptyHeaderOn (line : Line) (rest : List Char) : ReadM Unit := do
  let header ← headerOn line rest
  if header.isEmpty then pure () else failStatement line

def afterBlockOf (opener : Line) (lines : List Line) : ReadM (List Line) :=
  match afterBlock? 1 lines with
  | some after => pure after
  | none => failAt opener (.missingEnd opener.text)

def reachesEnd (stop after : List Line) : Bool :=
  stop.length = after.length + 1

def failUnexpected {α : Type} (expected : String) : List Line → ReadM α
  | line :: _ => failAt line (.unexpectedLine expected line.text)
  | [] => throw .noSuchLine

def expectEnd (stop after : List Line) : ReadM Unit :=
  if reachesEnd stop after then pure () else failUnexpected "'end'" stop

section

variable (inner : StatementReader)

/-- The statements up to a line that ends them, with the lines from there on. -/
def readStatements (depth : Nat) : Nat → List Line → ReadM (Block × List Line)
  | 0, lines => return ([], lines)
  | _ + 1, [] => return ([], [])
  | fuel + 1, line :: rest =>
    if line.body.endsStatements then return ([], line :: rest)
    else do
      let (statement, after) ← inner depth line rest
      let (block, stop) ← readStatements depth fuel after
      return (⟨line.location.line, statement⟩ :: block, stop)

def readBlock (depth : Nat) (lines : List Line) : ReadM (Block × List Line) :=
  readStatements inner depth lines.length lines

def readFunction (line : Line) (header : List Char) (lines : List Line) : ReadM (FunctionLiteral × List Line) := do
  let (name, parameters) ← require line (functionHeader? header)
  let after ← afterBlockOf line lines
  let (body, stop) ← readBlock inner 0 lines
  expectEnd stop after
  let parameters ← require line (names? parameters)
  return (⟨String.ofList name, parameters, body⟩, after)

def addMethod (method : FunctionLiteral) : List FunctionLiteral → List FunctionLiteral
  | [] => [method]
  | other :: others =>
    if other.name = method.name then method :: others else other :: addMethod method others

/-- The methods and the other statements of a class, after those read before, up to the `end` before the lines
`after`. -/
def readMembers (after : List Line) : Nat → List FunctionLiteral → List Line → ReadM (List FunctionLiteral × Block)
  | 0, methods, _ => return (methods, [])
  | _ + 1, methods, [] => return (methods, [])
  | fuel + 1, methods, line :: rest =>
    if reachesEnd (line :: rest) after then return (methods, [])
    else
      match line.body with
      | .keyword .define header => do
        let (method, lines) ← readFunction inner line header rest
        readMembers after fuel (addMethod method methods) lines
      | body =>
        if body.endsStatements then failUnexpected "'def' or a statement" (line :: rest)
        else do
          let (statement, lines) ← inner 0 line rest
          let (methods, block) ← readMembers after fuel methods lines
          return (methods, ⟨line.location.line, statement⟩ :: block)

def readParents (line : Line) (parents : List Char) : ReadM (List String) :=
  if (trim parents).isEmpty then return ["Object"] else require line (names? parents)

def readClass (line : Line) (header : List Char) (lines : List Line) : ReadM (ClassLiteral × List Line) := do
  let (name, parents) ← require line (classHeader? header)
  let parents ← readParents line parents
  let after ← afterBlockOf line lines
  let (methods, body) ← readMembers inner after lines.length [] lines
  return (⟨String.ofList name, parents, methods, body⟩, after)

def readChoice (depth : Nat) (line : Line) (rest : List Char) (lines : List Line) : ReadM (Statement × List Line) := do
  let condition ← exprOn line (← headerOn line rest)
  let after ← afterBlockOf line lines
  let (consequent, stop) ← readBlock inner depth lines
  match stop with
  | ⟨.keyword .else rest, location, text⟩ :: lines =>
    emptyHeaderOn ⟨.keyword .else rest, location, text⟩ rest
    let (alternative, stop) ← readBlock inner depth lines
    expectEnd stop after
    return (.choose condition consequent alternative, after)
  | _ =>
    expectEnd stop after
    return (.choose condition consequent [], after)

def readLoop (depth : Nat) (line : Line) (rest : List Char) (lines : List Line) : ReadM (Statement × List Line) := do
  let condition ← exprOn line (← headerOn line rest)
  let after ← afterBlockOf line lines
  let (body, stop) ← readBlock inner (depth + 1) lines
  expectEnd stop after
  return (.loop condition body, after)

/-- The cases and the fallback of a switch, up to the `end` before the lines `after`. -/
def readCases (depth : Nat) (after : List Line) : Nat → List Line → ReadM (List SwitchCase × Block)
  | 0, _ => return ([], [])
  | _ + 1, [] => return ([], [])
  | fuel + 1, line :: rest =>
    if reachesEnd (line :: rest) after then return ([], [])
    else
      match line.body with
      | .keyword .case header => do
        let values ← (splitTopLevel (← headerOn line header)).mapM (exprOn line)
        if values.isEmpty then failStatement line
        else
          let (body, stop) ← readBlock inner depth rest
          let (cases, fallback) ← readCases depth after fuel stop
          return (⟨values, body⟩ :: cases, fallback)
      | .keyword .default header => do
        emptyHeaderOn line header
        let (body, stop) ← readBlock inner depth rest
        expectEnd stop after
        return ([], body)
      | _ => failUnexpected "'case' or 'default'" (line :: rest)

def readSwitch (depth : Nat) (line : Line) (rest : List Char) (lines : List Line) : ReadM (Statement × List Line) := do
  let subject ← exprOn line (← headerOn line rest)
  let after ← afterBlockOf line lines
  let (cases, fallback) ← readCases inner depth after lines.length lines
  return (.switch subject cases fallback, after)

def readGuard (depth : Nat) (line : Line) (rest : List Char) (lines : List Line) : ReadM (Statement × List Line) := do
  emptyHeaderOn line rest
  let after ← afterBlockOf line lines
  let (body, stop) ← readBlock inner depth lines
  match stop with
  | ⟨.keyword .catch rest, location, text⟩ :: lines =>
    let caught ← require ⟨.keyword .catch rest, location, text⟩ (handlerHeader? rest)
    let (handler, stop) ← readBlock inner depth lines
    expectEnd stop after
    return (.guard body (String.ofList caught) handler, after)
  | _ => failUnexpected "'catch'" stop

def readAssignment (line : Line) (path : List (List Char)) (operator : Option Operator)
    (value : List Char) : ReadM Statement := do
  let value ← exprOn line value
  match path.reverse with
  | [] => failStatement line
  | [name] => return .assign (String.ofList name) operator value
  | name :: owner =>
    let target ← exprOn line (List.intercalate ['.'] owner.reverse)
    return .setProperty target (String.ofList name) operator value

def readKeyword (depth : Nat) (line : Line) (word : Keyword) (rest : List Char) (lines : List Line) :
    ReadM (Statement × List Line) :=
  match word with
  | .define => do
    let (literal, after) ← readFunction inner line rest lines
    return (.assign literal.name none (.function literal), after)
  | .defineClass => do
    let (literal, after) ← readClass inner line rest lines
    return (.assign literal.name none (.class literal), after)
  | .return => do
    if rest.isEmpty then return (.return none, lines)
    else return (.return (some (← exprOn line rest)), lines)
  | .if => readChoice inner depth line rest lines
  | .while => readLoop inner depth line rest lines
  | .switch => readSwitch inner depth line rest lines
  | .try => readGuard inner depth line rest lines
  | .throw => do return (.throw (← exprOn line rest), lines)
  | .break =>
    if !rest.isEmpty then failStatement line
    else if depth = 0 then failAt line .breakOutsideLoop
    else return (.break, lines)
  | .nonlocal => do
    let (name, operator, value) ← require line (nonlocalHeader? rest)
    return (.nonlocal (String.ofList name) operator (← exprOn line value), lines)
  | .importModule => do
    let (path, localName) ← require line (importHeader? rest)
    return (.importModule (path.map String.ofList) (localName.map String.ofList), lines)
  | .else | .case | .default | .catch => failStatement line

def readStatementWith (depth : Nat) (line : Line) (lines : List Line) : ReadM (Statement × List Line) :=
  match line.body with
  | .assign path operator value => do
    return (← readAssignment line path operator value, lines)
  | .call text => do
    match ← exprOn line text with
    | .call callee arguments => return (.expression (.call callee arguments), lines)
    | _ => failStatement line
  | .keyword word rest => readKeyword inner depth line word rest lines
  | .endBlock | .unknown _ => failStatement line

end

def readStatement : Nat → StatementReader
  | 0 => fun _ line _ => failStatement line
  | fuel + 1 => readStatementWith (readStatement fuel)

def readProgramLines (lines : List Line) : ReadM Block := do
  let (block, stop) ← readBlock (readStatement lines.length) 0 lines
  match stop with
  | [] => return block
  | _ => failUnexpected "a statement" stop

def readProgram (source : String) (file : Option String) : ReadM Block :=
  readProgramLines (readLines source file)

end LineScript.Program
