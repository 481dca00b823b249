import LineScript.Eval.Call
import LineScript.Eval.Operation
import LineScript.Module.Loader

/-!
# Evaluation of trees

Expressions are evaluated and statements are executed by recursion on the tree. Calls and imports go through the
engine. Operands, arguments and elements are evaluated from left to right, and an escape from one of them ends the
whole.

Each statement of a block marks the exceptions and failures that leave it with its line. A guard catches an exception,
copies its trace into the thrown instance if that keeps one, and binds the thrown value while its handler runs.
-/

namespace LineScript

/-- A loop: the body runs as long as the condition holds and the body ends normally. -/
def whileLoop (condition : Eval Bool) (body : Eval Completion) : Nat → Eval Completion
  | 0 => throw .outOfSteps
  | steps + 1 => do
    if ← condition then
      match ← body with
      | .normal => whileLoop condition body steps
      | .broken => return .normal
      | .returned value => return .returned value
    else return .normal

def newElement (scope : FrameId) (entry : TraceEntry) : Eval Value := do
  let cls ← Eval.builtinClass scope "Object"
  let properties : Bindings Value :=
    [("fileName", .text entry.file), ("lineNumber", .number (Number.ofInteger entry.line)),
      ("statement", .text entry.statement)]
  return .instance (← Eval.newInstance ⟨cls, properties, .object⟩)

/-- The items of the list in which a thrown value keeps its trace; nothing if it keeps none. -/
def traceCell? (value : Value) : Eval (Option CellId) := do
  match value with
  | .instance id =>
    match (← Eval.instanceAt id).properties.get? "stackTraceElements" with
    | some (.instance elements) =>
      match (← Eval.instanceAt elements).payload with
      | .list cell => return some cell
      | _ => return none
    | _ => return none
  | _ => return none

def recordEntries (scope : FrameId) (cell : CellId) : List TraceEntry → Eval Unit
  | [] => return ()
  | entry :: entries => do
    let element ← newElement scope entry
    Eval.modifyItems cell fun items => items.push element
    recordEntries scope cell entries

/-- The trace of an exception is copied into the thrown value, if that keeps one. -/
def recordTrace (scope : FrameId) (exception : Thrown) : Eval Unit := do
  match ← traceCell? exception.value with
  | some cell => recordEntries scope cell exception.trace.entries
  | none => return ()

/-- A handler runs with a name bound to the thrown value. The binding ends with the handler, unless the
handler fails. -/
def handle (scope : FrameId) (name : String) (exception : Thrown) (handler : Eval Completion) : Eval Completion := do
  recordTrace scope exception
  Eval.assign scope name exception.value
  let completion ← tryCatch handler fun escape => do
    match escape with
    | .thrown _ => Eval.delete scope name
    | _ => pure ()
    throw escape
  Eval.delete scope name
  return completion

def guarded (body : Eval Completion) (handler : Thrown → Eval Completion) : Eval Completion :=
  tryCatch body fun escape =>
    match escape with
    | .thrown exception => handler exception
    | _ => throw escape

def combined (operator : Option Operator) (old : Eval Value) (value : Value) : Eval Value := do
  match operator with
  | none => return value
  | some operator => operator.apply (← old) value

def ownProperty (id : InstanceId) (name : String) : Eval Value := do
  match (← Eval.instanceAt id).properties.get? name with
  | some value => return value
  | none => Eval.fail (.notDefined name)

def assignee (target : Value) (name : String) : Eval InstanceId := do
  match target with
  | .instance id => return id
  | _ => Eval.fail (.noProperties (← Eval.describe target) name)

def importModule (run : Runner) (scope : FrameId) (path : List String) : Eval Value := do
  if ((← get).frame scope).origin.importing then
    return .instance (← Module.load run scope (moduleName path))
  else Eval.fail (.moduleNotFound (moduleName path) [])

def newClass (scope : FrameId) (literal : ClassLiteral) : Eval Value := do
  let node := ClassNode.ofLiteral literal scope
  Eval.liftCause ((← get).validateParents scope node)
  Eval.newBuiltin scope "Class" (.class node)

mutual

def evalExpr (engine : Engine) (scope : FrameId) : Expr → Eval Value
  | .null => return .null
  | .literal value => return .ofLiteral value
  | .variable name => Eval.lookup scope name
  | .binary (.apply operator) left right => do
    let first ← evalExpr engine scope left
    let second ← evalExpr engine scope right
    operator.apply first second
  | .binary (.connect .conjunction) left right => do
    let first ← evalExpr engine scope left
    if first.truthy then return .boolean (← evalExpr engine scope right).truthy
    else return .boolean false
  | .binary (.connect .disjunction) left right => do
    let first ← evalExpr engine scope left
    if first.truthy then return .boolean true
    else return .boolean (← evalExpr engine scope right).truthy
  | .unary operator operand => do
    let value ← evalExpr engine scope operand
    operator.apply value
  | .property target name => do
    let value ← evalExpr engine scope target
    let receiver ← Eval.receiverOf scope value name
    Eval.propertyOf scope receiver name
  | .call (.property target name) arguments => do
    let value ← evalExpr engine scope target
    let receiver ← Eval.receiverOf scope value name
    let callee ← Eval.propertyOf scope receiver name
    let values ← evalAll engine scope arguments
    Eval.callValue engine.run scope callee values (some (.instance receiver))
  | .call callee arguments => do
    let function ← evalExpr engine scope callee
    let values ← evalAll engine scope arguments
    Eval.callValue engine.run scope function values none
  | .list elements => do
    let items ← evalAll engine scope elements
    Eval.newList scope items.toArray
  | .function literal => Eval.newFunction scope (.ofLiteral literal scope)
  | .class ⟨name, parents, methods, body⟩ => do
    let value ← newClass scope ⟨name, parents, methods, body⟩
    let inner ← Eval.newScope scope [("this", value)]
    let _ ← execBlock engine inner body
    return value

def evalAll (engine : Engine) (scope : FrameId) : List Expr → Eval (List Value)
  | [] => return []
  | expr :: exprs => do
    let value ← evalExpr engine scope expr
    return value :: (← evalAll engine scope exprs)

def anySame (engine : Engine) (scope : FrameId) (subject : Value) : List Expr → Eval Bool
  | [] => return false
  | expr :: exprs => do
    let value ← evalExpr engine scope expr
    if subject.same value then return true else anySame engine scope subject exprs

def execStatement (engine : Engine) (scope : FrameId) : Statement → Eval Completion
  | .expression value => do
    let _ ← evalExpr engine scope value
    return .normal
  | .assign name operator value => do
    let given ← evalExpr engine scope value
    Eval.assign scope name (← combined operator (Eval.lookup scope name) given)
    return .normal
  | .nonlocal name operator value => do
    let given ← evalExpr engine scope value
    Eval.assignNonlocal scope name (← combined operator (Eval.lookup scope name) given)
    return .normal
  | .setProperty target name operator value => do
    let id ← assignee (← evalExpr engine scope target) name
    let given ← evalExpr engine scope value
    Eval.setProperty id name (← combined operator (ownProperty id name) given)
    return .normal
  | .choose condition consequent alternative => do
    if (← evalExpr engine scope condition).truthy then execBlock engine scope consequent
    else execBlock engine scope alternative
  | .loop condition body =>
    whileLoop (do return (← evalExpr engine scope condition).truthy) (execBlock engine scope body)
      engine.loopSteps
  | .switch subject cases fallback => do
    let value ← evalExpr engine scope subject
    match ← execCases engine scope value cases with
    | some completion => return completion
    | none => execBlock engine scope fallback
  | .return none => return .returned .null
  | .return (some value) => return .returned (← evalExpr engine scope value)
  | .throw value => do throw (.thrown ⟨← evalExpr engine scope value, .empty⟩)
  | .guard body caught handler =>
    guarded (execBlock engine scope body) fun exception =>
      handle scope caught exception (execBlock engine scope handler)
  | .break => return .broken
  | .importModule path localName => do
    Eval.assign scope (boundName path localName) (← importModule engine.run scope path)
    return .normal

/-- The execution of the first case that has the value of the subject; nothing if none has. -/
def execCases (engine : Engine) (scope : FrameId) (subject : Value) : List SwitchCase → Eval (Option Completion)
  | [] => return none
  | ⟨values, body⟩ :: cases => do
    if ← anySame engine scope subject values then return some (← execBlock engine scope body)
    else execCases engine scope subject cases

def execBlock (engine : Engine) (scope : FrameId) : List NumberedStatement → Eval Completion
  | [] => return .normal
  | ⟨line, statement⟩ :: rest => do
    match ← Eval.passing scope line (execStatement engine scope statement) with
    | .normal => execBlock engine scope rest
    | completion => return completion

end

end LineScript
