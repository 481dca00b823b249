import LineScript.Builtin.Native
import LineScript.Store.Bindings
import LineScript.Value

/-!
# Instances

An instance has a class, own properties, and a payload. The payload of a plain object says nothing more;
functions, classes, lists and boxed texts carry what makes them one.
-/

namespace LineScript

inductive Code where
  | block (body : Block)
  | native (native : Native)

/-- A function: its parameters, its code, and the frame it was defined in. A built-in function has no
such frame and runs below the frame of its caller. -/
structure Function where
  name : String
  parameters : List String
  code : Code
  closure : Option FrameId

namespace Function

def ofNative (native : Native) : Function :=
  ⟨native.name, native.parameters, .native native, none⟩

def ofLiteral (literal : FunctionLiteral) (scope : FrameId) : Function :=
  ⟨literal.name, literal.parameters, .block literal.body, some scope⟩

def isNative (function : Function) : Bool :=
  match function.code with
  | .native _ => true
  | .block _ => false

def text (function : Function) : String :=
  "<function " ++ (if function.name.isEmpty then "anonymous" else function.name) ++ ">"

end Function

/-- A class: the names of its parents, its own methods, and the frame in which those names are looked up.
A built-in class has no such frame and looks them up where it is used. -/
structure ClassNode where
  name : String
  parents : List String
  methods : List Function
  closure : Option FrameId

namespace ClassNode

def ofLiteral (literal : ClassLiteral) (scope : FrameId) : ClassNode :=
  ⟨literal.name, literal.parents, literal.methods.map fun method => .ofLiteral method scope, some scope⟩

def ownMethod? (node : ClassNode) (name : String) : Option Function :=
  node.methods.find? fun method => method.name = name

/-- The search for methods and the check of parents end at a class of this name. -/
def isRoot (node : ClassNode) : Bool :=
  node.name = "Object"

def text (node : ClassNode) : String :=
  "<class " ++ node.name ++ ">"

end ClassNode

inductive Payload where
  | object
  | class (node : ClassNode)
  | function (function : Function)
  | list (cell : CellId)
  | text (value : String)

structure Instance where
  cls : InstanceId
  properties : Bindings Value
  payload : Payload

instance : Inhabited Instance :=
  ⟨⟨⟨0⟩, [], .object⟩⟩

end LineScript
