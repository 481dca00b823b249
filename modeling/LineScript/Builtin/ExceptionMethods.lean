import LineScript.Builtin.GlobalFunctions

/-!
# Methods of exceptions

An exception has a message and a list of trace elements, which is filled when it is caught.
-/

namespace LineScript

def propertyOrNull (id : InstanceId) (name : String) : Eval Value :=
  return ((← Eval.instanceAt id).properties.get? name).getD .null

def exceptionText (id : InstanceId) : Eval String := do
  let message ← propertyOrNull id "message"
  let name := (← Eval.classOf id).name
  if isNull message then return name else return name ++ ": " ++ (← Eval.textOf message)

def elementEntry (properties : Bindings Value) (name : String) : Eval String :=
  match properties.get? name with
  | some value => Eval.textOf value
  | none => Eval.fault .missingKey

def elementLine (element : Value) : Eval String := do
  let id ← Eval.instanceReceiver element
  let properties := (← Eval.instanceAt id).properties
  let file ← elementEntry properties "fileName"
  let line ← elementEntry properties "lineNumber"
  let statement ← elementEntry properties "statement"
  return "  at " ++ file ++ ":" ++ line ++ " " ++ statement

def elementLines (id : InstanceId) : Eval (List String) := do
  match (← Eval.instanceAt id).properties.get? "stackTraceElements" with
  | none => return []
  | some elements =>
    let cell ← Eval.listReceiver "Exception.printStackTrace" elements
    (← Eval.itemsAt cell).toList.mapM elementLine

def ExceptionMethod.run (runner : Runner) (scope : FrameId) (method : ExceptionMethod) : Eval Value := do
  let this ← Eval.receiver scope
  match method with
  | .init =>
    let id ← Eval.instanceReceiver this
    Eval.setProperty id "message" (← Eval.argument scope "message")
    Eval.setProperty id "stackTraceElements" (← Eval.newList scope #[])
    return .null
  | .getMessage =>
    let id ← Eval.instanceReceiver this
    propertyOrNull id "message"
  | .toString =>
    let id ← Eval.instanceReceiver this
    return .text (← exceptionText id)
  | .printStackTrace =>
    let shown ← Eval.display runner scope this
    let id ← Eval.instanceReceiver this
    let lines ← elementLines id
    Eval.output ("\n".intercalate (shown :: lines) ++ "\n")
    return .null

end LineScript
