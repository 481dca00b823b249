import LineScript.Number.Written
import LineScript.Text.Quoted
import LineScript.Tree

/-!
# Values

A value is null, a number, a text, a boolean, or an instance. Instances live in the store, and a value
refers to one by its identity. Equality is strict: values of different types are never equal, numbers
are equal as doubles are, and instances are equal if they are the same one.

An exception in flight is not a value, so no variable, property or list can hold one.
-/

namespace LineScript

structure InstanceId where
  index : Nat
  deriving Repr, DecidableEq, Inhabited

structure FrameId where
  index : Nat
  deriving Repr, DecidableEq, Inhabited

structure CellId where
  index : Nat
  deriving Repr, DecidableEq, Inhabited

inductive Value where
  | null
  | number (value : Float)
  | text (value : String)
  | boolean (value : Bool)
  | instance (id : InstanceId)
  deriving Repr, Inhabited

namespace Value

def ofLiteral : Literal → Value
  | .text value => .text value
  | .number value => .number value
  | .boolean value => .boolean value

/-- A condition holds for every value but null, false, zero, the undefined number and the empty text. -/
def truthy : Value → Bool
  | .null => false
  | .number value => !(value == 0.0) && !Number.isNotANumber value
  | .text value => !value.isEmpty
  | .boolean value => value
  | .instance _ => true

def same : Value → Value → Bool
  | .null, .null => true
  | .number left, .number right => left == right
  | .text left, .text right => left == right
  | .boolean left, .boolean right => left == right
  | .instance left, .instance right => left == right
  | _, _ => false

def numeric? : Value → Option Float
  | .number value => some value
  | .boolean value => some (if value then 1.0 else 0.0)
  | _ => none

/-- The text of a value shown as data; nothing for an instance. -/
def shown? : Value → Option String
  | .null => some "Null"
  | .number value => some ("Primitive(" ++ Number.exactText value ++ ")")
  | .text value => some ("Primitive(" ++ Text.quoted value ++ ")")
  | .boolean value => some (if value then "Primitive(True)" else "Primitive(False)")
  | .instance _ => none

end Value

end LineScript
