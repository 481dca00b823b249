/-!
# Kinds

Every value that a template can reach is of a kind, and kinds are values themselves. Every kind stands below `object`,
and all but the booleans, which stand below the integers, do so directly. A kind has a name, a place where the name is
known, and a layout of its values in memory.
-/

namespace LineScript

inductive Kind where
  | object
  | text
  | type
  | row
  | nothing
  | integer
  | boolean
  | mapping
  | view
  | parametrized
  /-- An operation with a name of its own, of no value in particular. -/
  | method
  /-- An operation that the language calls, of no value in particular. -/
  | slot
  | kindMethod
  /-- An operation that a kind keeps for all, as the kind keeps it. -/
  | sharedMethod
  | boundMethod
  /-- An operation that the language calls, of one value. -/
  | boundSlot
  | property
  | member
  deriving Repr, DecidableEq

/-- How values of a kind lie in memory: their size, that of their items, flags, and where the references to them and their
attributes are, zero if there are none. -/
structure Layout where
  size : Nat
  itemSize : Nat
  flags : Nat
  references : Nat
  attributes : Nat
  deriving Repr, DecidableEq

namespace Kind

/-- The name of a kind, after the place where it is known unless that is the common one. -/
def fullName : Kind → String
  | .object => "object"
  | .text => "str"
  | .type => "type"
  | .row => "tuple"
  | .nothing => "NoneType"
  | .integer => "int"
  | .boolean => "bool"
  | .mapping => "dict"
  | .view => "mappingproxy"
  | .parametrized => "types.GenericAlias"
  | .method => "method_descriptor"
  | .slot => "wrapper_descriptor"
  | .kindMethod => "classmethod_descriptor"
  | .sharedMethod => "staticmethod"
  | .boundMethod => "builtin_function_or_method"
  | .boundSlot => "method-wrapper"
  | .property => "getset_descriptor"
  | .member => "member_descriptor"

def name : Kind → String
  | .parametrized => "GenericAlias"
  | kind => kind.fullName

def home : Kind → String
  | .parametrized => "types"
  | _ => "builtins"

def line : Kind → List Kind
  | .object => [.object]
  | .boolean => [.boolean, .integer, .object]
  | kind => [kind, .object]

def parent? (kind : Kind) : Option Kind :=
  kind.line[1]?

def shown (kind : Kind) : String :=
  "<class '" ++ kind.fullName ++ "'>"

def signature? : Kind → Option String
  | .object => some "()"
  | .row => some "(iterable=(), /)"
  | _ => none

def layout : Kind → Layout
  | .object => ⟨16, 0, 529664, 0, 0⟩
  | .text => ⟨80, 0, 273159424, 0, 0⟩
  | .type => ⟨904, 40, 2148031744, 368, 264⟩
  | .row => ⟨24, 8, 71849248, 0, 0⟩
  | .nothing => ⟨16, 0, 528640, 0, 0⟩
  | .integer => ⟨24, 4, 21501184, 0, 0⟩
  | .boolean => ⟨32, 4, 21500160, 0, 0⟩
  | .mapping => ⟨48, 0, 541611328, 0, 0⟩
  | .view => ⟨24, 0, 545088, 0, 0⟩
  | .parametrized => ⟨64, 0, 548096, 40, 0⟩
  | .method => ⟨56, 0, 678272, 0, 0⟩
  | .slot => ⟨56, 0, 676224, 0, 0⟩
  | .kindMethod => ⟨56, 0, 545152, 0, 0⟩
  | .sharedMethod => ⟨32, 0, 546048, 0, 24⟩
  | .boundMethod => ⟨56, 0, 547200, 40, 0⟩
  | .boundSlot => ⟨32, 0, 545152, 0, 0⟩
  | .property => ⟨48, 0, 545152, 0, 0⟩
  | .member => ⟨48, 0, 545152, 0, 0⟩

def takesParameter : Kind → Bool
  | .type | .row | .mapping | .view => true
  | _ => false

end Kind

end LineScript
