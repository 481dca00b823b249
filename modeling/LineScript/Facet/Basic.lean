import LineScript.Facet.Operations
import LineScript.Number.Written
import LineScript.Text.Quoted

/-!
# Facets

A template starts at a text and may go on from any value to one of its attributes, to one of its items, or from
a kind to the kind with a parameter. A *facet* is a value that can be reached in this way.

An attribute is looked for among the operations of the kind of a value, from below. An operation that is a part of the
value gives that part. Of a kind, parts that all kinds have come first, then the operations of the values of the kind,
then the operations of all kinds.
-/

namespace LineScript

inductive Facet where
  | text (content : List Char)
  | integer (value : Nat)
  | boolean (value : Bool)
  | nothing
  | type (kind : Kind)
  | row (items : List Facet)
  | view (kind : Kind)
  | mapping
  | unbound (home : Kind) (operation : Operation)
  | shared (home : Kind) (operation : Operation)
  | bound (home : Kind) (operation : Operation) (owner : Facet)
  | parametrized (kind : Kind) (parameter : Facet)
  deriving Repr

namespace Facet

def ofString (content : String) : Facet :=
  .text content.toList

def ofString? : Option String → Facet
  | some content => ofString content
  | none => .nothing

def kindOf : Facet → Kind
  | .text _ => .text
  | .integer _ => .integer
  | .boolean _ => .boolean
  | .nothing => .nothing
  | .type _ => .type
  | .row _ => .row
  | .view _ => .view
  | .mapping => .mapping
  | .unbound _ operation =>
    match operation.belonging with
    | .slot => .slot
    | .ofKind => .kindMethod
    | .property => .property
    | .member => .member
    | .method | .maker | .shared | .value => .method
  | .shared _ _ => .sharedMethod
  | .bound _ operation _ => if operation.belonging = .slot then .boundSlot else .boundMethod
  | .parametrized _ _ => .parametrized

def kept (home : Kind) (operation : Operation) : Facet :=
  match operation.belonging with
  | .value => ofString? operation.description?
  | .maker => .bound home operation (.type home)
  | .shared => .shared home operation
  | .method | .slot | .ofKind | .property | .member => .unbound home operation

/-! ## Writing -/

def placeText : String :=
  "0x7f0000000000"

def operationText (home : Kind) (operation : Operation) : String :=
  let what :=
    match operation.belonging with
    | .slot => "slot wrapper"
    | .property => "attribute"
    | .member => "member"
    | .method | .ofKind | .maker | .shared | .value => "method"
  "<" ++ what ++ " '" ++ operation.name ++ "' of '" ++ home.fullName ++ "' objects>"

def boundText (operation : Operation) (kind : Kind) : String :=
  let what :=
    if operation.belonging = .slot then "method-wrapper '" ++ operation.name ++ "'"
    else "built-in method " ++ operation.name
  "<" ++ what ++ " of " ++ kind.fullName ++ " object at " ++ placeText ++ ">"

/-- An operation for no value, as it is written the way its kind keeps it. -/
def sharedText (operation : Operation) : String :=
  "<staticmethod(" ++ boundText operation .type ++ ")>"

/-- What a kind keeps under a name, as it is written inside the view of the kind. -/
def keptText (home : Kind) (operation : Operation) : String :=
  match operation.belonging with
  | .value => (operation.description?.map Text.quoted).getD "None"
  | .maker => boundText operation .type
  | .shared => sharedText operation
  | .method | .slot | .ofKind | .property | .member => operationText home operation

def viewText (kind : Kind) : String :=
  "\x7b" ++ ", ".intercalate (kind.operations.map fun operation =>
    Text.quoted operation.name ++ ": " ++ keptText kind operation) ++ "\x7d"

mutual

/-- A facet as it is written inside another one: a text is quoted with the given quoting. -/
def written (quote : String → String) : Facet → String
  | .text content => quote (String.ofList content)
  | .integer value => Number.digitsOf value
  | .boolean value => if value then "True" else "False"
  | .nothing => "None"
  | .type kind => kind.shown
  | .row items =>
    match writtenItems quote items with
    | [item] => "(" ++ item ++ ",)"
    | written => "(" ++ ", ".intercalate written ++ ")"
  | .view kind => "mappingproxy(" ++ viewText kind ++ ")"
  | .mapping => "\x7b\x7d"
  | .unbound home operation => operationText home operation
  | .shared _ operation => sharedText operation
  | .bound _ operation owner => boundText operation owner.kindOf
  | .parametrized kind parameter => kind.name ++ "[" ++ written quote parameter ++ "]"

def writtenItems (quote : String → String) : List Facet → List String
  | [] => []
  | item :: items => written quote item :: writtenItems quote items

end

def quoted (facet : Facet) : List Char :=
  (facet.written Text.quoted).toList

def quotedAscii (facet : Facet) : List Char :=
  (facet.written Text.quotedAscii).toList

/-- A facet as it is written; a text is itself, and a view is like a mapping. -/
def shown (facet : Facet) : List Char :=
  match facet with
  | .text content => content
  | .view kind => (viewText kind).toList
  | facet => facet.quoted

/-! ## Parts -/

def fullName (kind : Kind) (operation : Operation) : String :=
  kind.name ++ "." ++ operation.name

/-- The kind that an operation of a value names itself after: that of the value, or the value if it is a
kind. -/
def ownerKind : Facet → Kind
  | .type kind => kind
  | facet => facet.kindOf

def typeDescription : String :=
  "type(object) -> the object's type\ntype(name, bases, dict, **kwds) -> a new type"

/-- What a kind says about its values. A kind that says nothing may still keep a part of its values under that
name. -/
def descriptionOf (kind : Kind) : Facet :=
  if kind = .type then ofString typeDescription
  else
    match kind.ownOperation? "__doc__" with
    | some operation => kept kind operation
    | none => .nothing

def kindPart? (kind : Kind) : String → Option Facet
  | "__name__" | "__qualname__" => some (ofString kind.name)
  | "__module__" => some (ofString kind.home)
  | "__bases__" => some (.row (kind.parent?.toList.map .type))
  | "__base__" => some ((kind.parent?.map Facet.type).getD .nothing)
  | "__mro__" => some (.row (kind.line.map .type))
  | "__doc__" => some (descriptionOf kind)
  | "__dict__" => some (.view kind)
  | "__text_signature__" => some (ofString? kind.signature?)
  | "__basicsize__" => some (.integer kind.layout.size)
  | "__itemsize__" => some (.integer kind.layout.itemSize)
  | "__flags__" => some (.integer kind.layout.flags)
  | "__weakrefoffset__" => some (.integer kind.layout.references)
  | "__dictoffset__" => some (.integer kind.layout.attributes)
  | _ => none

def integerPart? (value : Nat) : String → Option Facet
  | "real" | "numerator" => some (.integer value)
  | "imag" => some (.integer 0)
  | "denominator" => some (.integer 1)
  | _ => none

def operationPart? (home : Kind) (operation : Operation) : String → Option Facet
  | "__name__" => some (ofString operation.name)
  | "__qualname__" => some (ofString (fullName home operation))
  | "__objclass__" => some (.type home)
  | "__doc__" => some (ofString? operation.description?)
  | "__text_signature__" => some (ofString? operation.signature?)
  | _ => none

def boundPart? (home : Kind) (operation : Operation) (owner : Facet) (name : String) : Option Facet :=
  if operation.belonging = .slot then
    match name with
    | "__self__" => some owner
    | name => operationPart? home operation name
  else
    match name with
    | "__qualname__" => some (ofString (fullName owner.ownerKind operation))
    | "__self__" => some (if operation.belonging = .shared then .nothing else owner)
    | "__module__" => some .nothing
    | name => operationPart? home operation name

def sharedPart? (home : Kind) (operation : Operation) : String → Option Facet
  | "__func__" | "__wrapped__" => some (.bound home operation (.type home))
  | "__isabstractmethod__" => some (.boolean false)
  | "__dict__" => some .mapping
  | _ => none

def parametrizedPart? (kind : Kind) (parameter : Facet) : String → Option Facet
  | "__origin__" => some (.type kind)
  | "__args__" => some (.row [parameter])
  | "__parameters__" => some (.row [])
  | "__unpacked__" => some (.boolean false)
  | "__typing_unpacked_tuple_args__" => some .nothing
  | _ => none

def part? (facet : Facet) (name : String) : Option Facet :=
  if name = "__class__" then some (.type facet.kindOf)
  else
    match facet with
    | .type kind => kindPart? kind name
    | .integer value => integerPart? value name
    | .boolean value => integerPart? value.toNat name
    | .unbound home operation => operationPart? home operation name
    | .bound home operation owner => boundPart? home operation owner name
    | .shared home operation => sharedPart? home operation name
    | .parametrized kind parameter => parametrizedPart? kind parameter name
    | .text _ | .row _ | .nothing | .view _ | .mapping => none

/-! ## Attributes -/

def operationOfKind (kind home : Kind) (operation : Operation) : Facet :=
  match operation.belonging with
  | .ofKind => .bound home operation (.type kind)
  | .shared => .bound home operation (.type home)
  | .method | .slot | .maker | .property | .member | .value => kept home operation

def operationOfValue (facet : Facet) (home : Kind) (operation : Operation) : Option Facet :=
  match operation.belonging with
  | .ofKind => some (.bound home operation (.type facet.kindOf))
  | .method | .slot => some (.bound home operation facet)
  | .property | .member => facet.part? operation.name
  | .shared => some (.bound home operation (.type home))
  | .maker | .value => some (kept home operation)

def valueAttribute? (facet : Facet) (name : String) : Option Facet :=
  (facet.kindOf.operation? name).bind fun found => operationOfValue facet found.1 found.2

def kindAttribute? (kind : Kind) (name : String) : Option Facet :=
  let isPart := ((Kind.type.operation? name).map fun found => found.2.isPart).getD false
  match if isPart then none else kind.operation? name with
  | some found => some (operationOfKind kind found.1 found.2)
  | none => valueAttribute? (.type kind) name

/-- The names of the attributes that a kind with a parameter has itself. All others are those of the kind. -/
def parametrizedNames : List String :=
  ["__class__", "__origin__", "__args__", "__unpacked__", "__parameters__", "__typing_unpacked_tuple_args__",
    "__mro_entries__", "__reduce_ex__", "__reduce__", "__copy__", "__deepcopy__"]

def attribute? (facet : Facet) (name : String) : Option Facet :=
  match facet with
  | .type kind => kindAttribute? kind name
  | .parametrized kind _ =>
    if parametrizedNames.contains name then valueAttribute? facet name else kindAttribute? kind name
  | facet => valueAttribute? facet name

/-! ## Items -/

inductive ItemFault where
  | beyondText
  | beyondRow
  | noKey (key : Facet)
  | indexType
  deriving Repr

def item (facet index : Facet) : Except ItemFault Facet :=
  match facet, index with
  | .text content, .integer position => (content[position]?.map fun c => .text [c]).elim (.error .beyondText) .ok
  | .row items, .integer position => items[position]?.elim (.error .beyondRow) .ok
  | .view kind, .text name =>
    match kind.ownOperation? (String.ofList name) with
    | some operation => .ok (kept kind operation)
    | none => .error (.noKey index)
  | .view _, _ | .mapping, _ => .error (.noKey index)
  | .type kind, _ => if kind.takesParameter then .ok (.parametrized kind index) else .error .indexType
  | _, _ => .error .indexType

end Facet

end LineScript
