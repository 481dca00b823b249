import LineScript.Eval.Basic
import LineScript.Number.Dyadic

/-!
# The built-in library

Every program and every module starts with a frame of its own that binds the built-in classes and
functions. They are made anew for each such frame, so that nothing is shared between programs. The class
of all classes is an instance of itself.
-/

namespace LineScript

inductive BuiltinClass where
  | metaclass
  | object
  | function
  | string
  | list
  | number
  | exception
  deriving Repr, DecidableEq

namespace BuiltinClass

def ordinary : List BuiltinClass :=
  [.object, .function, .string, .list, .number, .exception]

def name : BuiltinClass → String
  | .metaclass => "Class"
  | .object => "Object"
  | .function => "Function"
  | .string => "String"
  | .list => "List"
  | .number => "Number"
  | .exception => "Exception"

def parents : BuiltinClass → List String
  | .object => []
  | _ => ["Object"]

def methods : BuiltinClass → List Native
  | .metaclass => [.classMethod .name, .classMethod .parents]
  | .function => [.functionMethod .name, .functionMethod .apply]
  | .string => TextMethod.every.map .textMethod
  | .list => ListMethod.every.map .listMethod
  | .exception => ExceptionMethod.every.map .exceptionMethod
  | .object | .number => []

def functions : BuiltinClass → List Native
  | .string => [.formatText]
  | .list => [.createList]
  | .number => NumberFunction.every.map .numberFunction
  | _ => []

def greatestNumber : Float :=
  Float.ofBits 0x7fefffffffffffff

def leastNumber : Float :=
  Float.ofBits 1

def constants : BuiltinClass → Bindings Value
  | .number =>
    [("MAX_VALUE", .number greatestNumber), ("MIN_VALUE", .number leastNumber),
      ("NaN", .number Number.notANumber), ("POSITIVE_INFINITY", .number (Number.infinity false)),
      ("NEGATIVE_INFINITY", .number (Number.infinity true))]
  | _ => []

def node (cls : BuiltinClass) : ClassNode :=
  ⟨cls.name, cls.parents, cls.methods.map .ofNative, none⟩

end BuiltinClass

namespace Eval

def newClassClass : Eval InstanceId := do
  let id : InstanceId := ⟨(← get).instances.size⟩
  newInstance ⟨id, [], .class (BuiltinClass.node .metaclass)⟩

def newClasses (classClass : InstanceId) : List BuiltinClass → Eval (Bindings InstanceId)
  | [] => return []
  | cls :: rest => do
    let id ← newInstance ⟨classClass, cls.constants, .class cls.node⟩
    return (cls.name, id) :: (← newClasses classClass rest)

def newFunctions (functionClass : InstanceId) : List Native → Eval (Bindings Value)
  | [] => return []
  | native :: rest => do
    let id ← newInstance ⟨functionClass, [], .function (.ofNative native)⟩
    return (native.name, .instance id) :: (← newFunctions functionClass rest)

def setProperties (id : InstanceId) : Bindings Value → Eval Unit
  | [] => return ()
  | (name, value) :: rest => do
    setProperty id name value
    setProperties id rest

def installFunctions (functionClass : InstanceId) (classes : Bindings InstanceId) : List BuiltinClass → Eval Unit
  | [] => return ()
  | cls :: rest => do
    match classes.get? cls.name with
    | some id => setProperties id (← newFunctions functionClass cls.functions)
    | none => pure ()
    installFunctions functionClass classes rest

def newRoot (file : String) (rows : List String) (importing : Bool) : Eval FrameId := do
  let classClass ← newClassClass
  let ordinary ← newClasses classClass BuiltinClass.ordinary
  let classes : Bindings InstanceId := (BuiltinClass.name .metaclass, classClass) :: ordinary
  let functionClass := (classes.get? (BuiltinClass.name .function)).getD classClass
  let globals ← newFunctions functionClass (GlobalFunction.every.map .global)
  installFunctions functionClass classes BuiltinClass.ordinary
  let bindings := classes.map fun (name, id) => (name, Value.instance id)
  modifyGet fun store => store.addFrame ⟨[], bindings ++ globals, ⟨file, rows, classes, importing⟩⟩

end Eval

end LineScript
