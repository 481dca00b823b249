/-!
# Operations of kinds

An operation has a name, belongs to a kind in one of several ways, and mostly says what it takes and what it does. The
operations that the language calls say the same for every kind.
-/

namespace LineScript

inductive Belonging where
  | method
  | slot
  | ofKind
  | maker
  | shared
  | property
  | member
  /-- It is no operation but a text, which is its description, or nothing. -/
  | value
  deriving Repr, DecidableEq

structure Operation where
  name : String
  belonging : Belonging
  signature? : Option String
  description? : Option String
  deriving Repr, DecidableEq

namespace Operation

def isPart (operation : Operation) : Bool :=
  operation.belonging = .property || operation.belonging = .member

end Operation

end LineScript
