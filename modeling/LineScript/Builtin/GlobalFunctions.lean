import LineScript.Builtin.Argument

/-!
# Global functions and the methods of functions and classes

Printing, input, questions about values, the time, the loaded modules; the name of a function or a class,
a call with a list of arguments, and the names of the parents of a class.
-/

namespace LineScript

def typeName (value : Value) : Eval String :=
  match value with
  | .null => Eval.refuse "typeof" .noValue
  | .instance id => return (← Eval.classOf id).name
  | .text _ => return "string"
  | .boolean _ => return "boolean"
  | .number _ => return "number"

def visibleModules (scope : FrameId) : Eval (List String) := do
  let store ← get
  return if (store.frame scope).origin.importing then store.modules.names else []

def isNull : Value → Bool
  | .null => true
  | _ => false

namespace GlobalFunction

def run (runner : Runner) (scope : FrameId) : GlobalFunction → Eval Value
  | .print => do
    Eval.output (← Eval.display runner scope (← Eval.argument scope "value"))
    return .null
  | .println => do
    let value ← Eval.argument scope "value"
    if !isNull value then Eval.output (← Eval.display runner scope value)
    Eval.output "\n"
    return .null
  | .input => do
    let prompt ← Eval.argument scope "prompt"
    let shown ← if isNull prompt then pure "" else Eval.textOf prompt
    return .text (← Eval.input shown)
  | .hasValue => return .boolean (!isNull (← Eval.argument scope "value"))
  | .noValue => return .boolean (isNull (← Eval.argument scope "value"))
  | .typeof => return .text (← typeName (← Eval.argument scope "value"))
  | .currentTimeMillis => return .number (← get).clock
  | .loadedModules => do
    Eval.newList scope ((← visibleModules scope).map Value.text).toArray

end GlobalFunction

def carriedName (receiver : Value) : Eval Value := do
  match ← Eval.payloadOf? receiver with
  | some (.function function) => return .text function.name
  | some (.class node) => return .text node.name
  | _ => Eval.fault .missingAttribute

def FunctionMethod.run (runner : Runner) (scope : FrameId) : FunctionMethod → Eval Value
  | .name => do carriedName (← Eval.receiver scope)
  | .apply => do
    let list ← Eval.argument scope "args"
    let items ←
      if isNull list then pure #[]
      else Eval.itemsAt (← Eval.listReceiver "Function.apply" list)
    Eval.callValue runner scope (← Eval.receiver scope) items.toList none

def ClassMethod.run (scope : FrameId) : ClassMethod → Eval Value
  | .name => do carriedName (← Eval.receiver scope)
  | .parents => do
    match ← Eval.payloadOf? (← Eval.receiver scope) with
    | some (.class node) => Eval.newList scope (node.parents.map Value.text).toArray
    | _ => Eval.fault .missingAttribute

end LineScript
