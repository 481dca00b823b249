import LineScript.Eval.Basic

/-!
# Classes and their parents

A class names its parents, and all ancestors are looked up in the frame that the class was defined in; a built-in
class looks them up where it is used.

A method is searched level by level. Each name is visited once, and a class called `Object` ends its branch. A level
beyond the first adds a name only through a class that no earlier level had, so there are no more levels than
instances. When a class is defined, every ancestor must be a class, and none may have the name of the class itself.
-/

namespace LineScript

namespace Store

def parentScope (node : ClassNode) (scope : FrameId) : FrameId :=
  node.closure.getD scope

def resolveClass (store : Store) (scope : FrameId) (name : String) : Except FailureCause ClassNode :=
  match store.lookup? scope name with
  | none => .error (.notDefined name)
  | some (.instance id) =>
    match store.classNode? id with
    | some node => .ok node
    | none => .error (.noClass name)
  | some _ => .error (.noClass name)

/-! ## The search for a method -/

/-- The classes that the names of a level stand for, without those visited before, and the names visited
afterwards. -/
def resolveLevel (store : Store) (scope : FrameId) (visited : List String) :
    List String → Except FailureCause (List ClassNode × List String)
  | [] => .ok ([], visited)
  | name :: names =>
    if name ∈ visited then store.resolveLevel scope visited names
    else do
      let node ← store.resolveClass scope name
      let (nodes, visited) ← store.resolveLevel scope (name :: visited) names
      return (node :: nodes, visited)

def nextLevel (nodes : List ClassNode) : List String :=
  (nodes.filter fun node => !node.isRoot).flatMap ClassNode.parents

def firstMethod? (nodes : List ClassNode) (name : String) : Option Function :=
  nodes.findSome? fun node => node.ownMethod? name

def searchLevels (store : Store) (scope : FrameId) (name : String) :
    Nat → List String → List String → Except FailureCause (Option Function)
  | 0, _, _ => .ok none
  | _ + 1, _, [] => .ok none
  | fuel + 1, visited, level => do
    let (nodes, visited) ← store.resolveLevel scope visited level
    match firstMethod? nodes name with
    | some method => return some method
    | none => store.searchLevels scope name fuel visited (nextLevel nodes)

def findMethod (store : Store) (scope : FrameId) (node : ClassNode) (name : String) :
    Except FailureCause (Option Function) :=
  match node.ownMethod? name with
  | some method => .ok (some method)
  | none =>
    if node.isRoot then .ok none
    else
      store.searchLevels (parentScope node scope) name (store.instances.size + 2) [node.name] node.parents

/-! ## The check of a new class -/

def parentCount (store : Store) : Nat :=
  store.instances.foldl (fun total object =>
    match object.payload with
    | .class node => total + node.parents.length
    | _ => total) 0

/-- The names still to check after a class: its parents, the last one first, before the others, without
names that are checked already. -/
def pendingAfter (node : ClassNode) (seen pending : List String) : List String :=
  ((if node.isRoot then [] else node.parents.reverse) ++ pending).filter fun name => name ∉ seen

/-- The names still to check stand for classes other than the given one. -/
def checkAncestors (store : Store) (scope : FrameId) (own : String) :
    Nat → List String → List String → Except FailureCause Unit
  | 0, _, _ => .ok ()
  | _ + 1, _, [] => .ok ()
  | fuel + 1, seen, name :: pending =>
    if name = own then .error (.inheritsItself own)
    else do
      let node ← store.resolveClass scope name
      store.checkAncestors scope own fuel (name :: seen) (pendingAfter node (name :: seen) pending)

def validateParents (store : Store) (scope : FrameId) (node : ClassNode) : Except FailureCause Unit :=
  store.checkAncestors (parentScope node scope) node.name
    (store.parentCount + node.parents.length + 1) [] node.parents.reverse

end Store

namespace Eval

def liftCause {α : Type} : Except FailureCause α → Eval α
  | .ok value => pure value
  | .error cause => fail cause

def findMethod? (scope : FrameId) (node : ClassNode) (name : String) : Eval (Option Function) := do
  liftCause ((← get).findMethod scope node name)

def findMethod (scope : FrameId) (node : ClassNode) (name : String) : Eval Function := do
  match ← findMethod? scope node name with
  | some method => return method
  | none => fail (.notDefined name)

end Eval

end LineScript
