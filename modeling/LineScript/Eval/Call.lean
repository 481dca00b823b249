import LineScript.Eval.Hierarchy

/-!
# Calls, properties and display

A call of a function runs its code in a new frame, below the frame the function was defined in. The frame binds the
parameters, the list of all arguments, and the receiver of a method call. A call of a class makes an instance and runs
the method `init` on it.

A property is an own property of the receiver or a method of its class. Text has the properties of the text class.
Printing shows what the method `toString` gives, for instances that have it, and else the text of the value.
-/

namespace LineScript

namespace Eval

/-- The parameters bound to the arguments; a parameter without an argument is null. -/
def bindParameters : List String → List Value → Bindings Value → Bindings Value
  | [], _, bindings => bindings
  | name :: names, [], bindings => bindParameters names [] (bindings.set name .null)
  | name :: names, value :: values, bindings => bindParameters names values (bindings.set name value)

def bindReceiver (receiver : Option Value) (bindings : Bindings Value) : Bindings Value :=
  match receiver with
  | some value => bindings.set "this" value
  | none => bindings

def callFunction (run : Runner) (caller : FrameId) (function : Function) (arguments : List Value)
    (receiver : Option Value) : Eval Value := do
  let all ← newList caller arguments.toArray
  let bindings := (bindParameters function.parameters arguments []).set "arguments" all
  let scope ← newScope (function.closure.getD caller) (bindReceiver receiver bindings)
  return (← run scope function.code).result

def construct (run : Runner) (caller : FrameId) (cls : InstanceId) (node : ClassNode)
    (arguments : List Value) : Eval Value := do
  let object ← newInstance ⟨cls, [], .object⟩
  match ← findMethod? caller node "init" with
  | some init =>
    let _ ← callFunction run caller init arguments (some (.instance object))
  | none => pure ()
  return .instance object

def callValue (run : Runner) (caller : FrameId) (callee : Value) (arguments : List Value)
    (receiver : Option Value) : Eval Value := do
  match callee with
  | .instance id =>
    match (← instanceAt id).payload with
    | .class node => construct run caller id node arguments
    | .function function => callFunction run caller function arguments receiver
    | _ => fail (.notCallable (← describe callee))
  | _ => fail (.notCallable (← describe callee))

/-! ## Properties -/

def receiverOf (scope : FrameId) (target : Value) (name : String) : Eval InstanceId := do
  match target with
  | .instance id => return id
  | .text value =>
    let cls ← builtinClass scope "String"
    newInstance ⟨cls, [], .text value⟩
  | _ => fail (.noProperties (← describe target) name)

def propertyOf (scope : FrameId) (receiver : InstanceId) (name : String) : Eval Value := do
  match (← instanceAt receiver).properties.get? name with
  | some value => return value
  | none =>
    let node ← classOf receiver
    let method ← findMethod scope node name
    newFunction scope method

/-! ## Display -/

def display (run : Runner) (scope : FrameId) (value : Value) : Eval String := do
  match value with
  | .instance id =>
    match (← instanceAt id).payload with
    | .object | .list _ =>
      let node ← classOf id
      match ← findMethod? scope node "toString" with
      | some method => textOf (← callFunction run scope method [] (some value))
      | none => textOf value
    | _ => textOf value
  | _ => textOf value

end Eval

end LineScript
