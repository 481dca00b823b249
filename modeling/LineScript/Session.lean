import LineScript.Interpreter
import LineScript.Snapshot

/-!
# Sessions

A session keeps one store, with its modules, over many steps. Some steps run whole programs in frames of their own;
others evaluate statements and expressions in one frame that lasts for the session.
-/

namespace LineScript

namespace Session

def fileName : String :=
  "<session>"

def engine : Engine :=
  engineFor 0

def start (importing : Bool) : Eval FrameId :=
  Eval.newRoot fileName [] importing

def catching {α : Type} (action : Eval α) : Eval (Except Thrown α) :=
  tryCatch (do return .ok (← action)) fun escape =>
    match escape with
    | .thrown exception => return .error exception
    | _ => throw escape

def exec (root : FrameId) (source : String) : Eval (Except Thrown Completion) := do
  let program ← Module.parse source fileName
  catching (execBlock engine root program)

def eval (root : FrameId) (text : String) : Eval (Except Thrown Value) := do
  match (Expression.readExpr none text.toList).run .empty with
  | .ok tree _ => catching (evalExpr engine root tree)
  | .error error _ => throw (.unreadable error)

/-- What printing the value of an expression shows. An exception shows its value as plain text. -/
def display (root : FrameId) (text : String) : Eval (Except Thrown String) := do
  match ← eval root text with
  | .ok value => catching (Eval.display engine.run root value)
  | .error exception => return .ok (← Eval.textOf exception.value)

def describe (root : FrameId) (text : String) : Eval String := do
  match ← eval root text with
  | .ok value => Eval.describe value
  | .error exception => Eval.textOf exception.value

def method (root : FrameId) (className name : String) : Eval Function := do
  match ← Eval.payloadOf? (← Eval.lookup root className) with
  | some (.class node) => Eval.findMethod root node name
  | _ => Eval.fault .missingAttribute

end Session

end LineScript
