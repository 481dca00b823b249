import LineScript.Builtin.Install

/-!
# Snapshots of values

A snapshot shows a value with all that can be reached from it. Instances are numbered in the order in
which they are met, an instance before what it holds, its items before its properties, and its properties
in the order of their names. An instance that is met again is shown by its number.
-/

namespace LineScript

mutual

inductive Snapshot where
  | null
  | boolean (value : Bool)
  | number (value : Float)
  | text (value : String)
  | reference (number : Nat)
  | object (number : Nat) (className : String) (content : SnapshotContent)
    (properties : List (String × Snapshot))

inductive SnapshotContent where
  | plain
  | class (name : String) (parents methods : List String)
  | function (name : String) (parameters : List String) (native : Bool)
  | list (items : List Snapshot)
  | boxed (value : String)

end

namespace Snapshot

/-- The instances met so far, the latest first. A snapshot fails if a class is none any more. -/
abbrev Tour := StateT (List InstanceId) Option

def numberOf? (met : List InstanceId) (id : InstanceId) : Option Nat :=
  (met.reverse.findIdx? fun other => other = id)

def sorted (bindings : Bindings Value) : Bindings Value :=
  bindings.mergeSort fun left right => left.1 ≤ right.1

section

variable (inner : Value → Tour Snapshot)

def ofBindingsWith : Bindings Value → Tour (List (String × Snapshot))
  | [] => return []
  | (name, value) :: rest => do
    let shown ← inner value
    return (name, shown) :: (← ofBindingsWith rest)

def contentWith (store : Store) : Payload → Tour SnapshotContent
  | .object => return .plain
  | .class node =>
    return .class node.name node.parents ((node.methods.map Function.name).mergeSort fun a b => a ≤ b)
  | .function function => return .function function.name function.parameters function.isNative
  | .list cell => return .list (← (store.cell cell).toList.mapM inner)
  | .text value => return .boxed value

end

def ofValueWithin (store : Store) : Nat → Value → Tour Snapshot
  | _, .null => return .null
  | _, .boolean value => return .boolean value
  | _, .number value => return .number value
  | _, .text value => return .text value
  | 0, .instance _ => failure
  | fuel + 1, .instance id => do
    match numberOf? (← get) id with
    | some index => return .reference index
    | none =>
      let index := (← get).length
      modify (id :: ·)
      let node ← StateT.lift (store.classOf? id)
      let object := store.object id
      let content ← contentWith (ofValueWithin store fuel) store object.payload
      let properties ← ofBindingsWith (ofValueWithin store fuel) (sorted object.properties)
      return .object index node.name content properties

def ofValue? (store : Store) (value : Value) : Option Snapshot :=
  (ofValueWithin store (store.instances.size + 1) value).run' []

def ofBindings? (store : Store) (bindings : Bindings Value) : Option (List (String × Snapshot)) :=
  (ofBindingsWith (ofValueWithin store (store.instances.size + 1)) (sorted bindings)).run' []

/-- The binding is one as the built-in library makes them: of the name of a built-in class to that class,
or of the name of a built-in function or method to it. -/
def isBuiltin (store : Store) (origin : Origin) (name : String) (value : Value) : Bool :=
  match value with
  | .instance id =>
    match (store.object id).payload with
    | .function function => function.isNative && function.name = name
    | _ => origin.classes.get? name = some id
  | _ => false

def ofFrame? (store : Store) (id : FrameId) : Option (List (String × Snapshot)) :=
  let frame := store.frame id
  ofBindings? store (frame.bindings.filter fun (name, value) =>
    !isBuiltin store frame.origin name value)

end Snapshot

end LineScript
