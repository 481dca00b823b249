import LineScript.Tree

/-!
# The table of leaves

While a program is read, a table collects its distinct variables and its distinct literals. Literals are
told apart by their type and their value, and the null value is not collected.
-/

namespace LineScript.Expression

inductive LiteralKey where
  | text (value : String)
  | number (bits : UInt64)
  | boolean (value : Bool)
  deriving Repr, DecidableEq

def literalKey : Literal → LiteralKey
  | .text value => .text value
  | .number value => .number value.toBits
  | .boolean value => .boolean value

/-- The variables and literals met so far, the latest first. -/
structure Interner where
  names : List String
  literals : List LiteralKey
  deriving Repr, DecidableEq

namespace Interner

def empty : Interner :=
  ⟨[], []⟩

def addVariable (table : Interner) (name : String) : Interner :=
  if name ∈ table.names then table else { table with names := name :: table.names }

def addLiteral (table : Interner) (value : Literal) : Interner :=
  if literalKey value ∈ table.literals then table
  else { table with literals := literalKey value :: table.literals }

def size (table : Interner) : Nat :=
  table.names.length + table.literals.length

end Interner

end LineScript.Expression
