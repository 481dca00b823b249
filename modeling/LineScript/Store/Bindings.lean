/-!
# Bindings

Names bound to values, in the order in which they were first bound.
-/

namespace LineScript

abbrev Bindings (α : Type) := List (String × α)

namespace Bindings

variable {α : Type}

def get? (bindings : Bindings α) (name : String) : Option α :=
  match bindings with
  | [] => none
  | (other, value) :: rest => if other = name then some value else get? rest name

/-- The bindings with a name bound to a value; a name that is bound already keeps its place. -/
def set (bindings : Bindings α) (name : String) (value : α) : Bindings α :=
  match bindings with
  | [] => [(name, value)]
  | (other, old) :: rest =>
    if other = name then (name, value) :: rest else (other, old) :: set rest name value

def erase (bindings : Bindings α) (name : String) : Bindings α :=
  match bindings with
  | [] => []
  | (other, value) :: rest => if other = name then rest else (other, value) :: erase rest name

def binds (bindings : Bindings α) (name : String) : Bool :=
  (bindings.get? name).isSome

def names (bindings : Bindings α) : List String :=
  bindings.map Prod.fst

end Bindings

end LineScript
