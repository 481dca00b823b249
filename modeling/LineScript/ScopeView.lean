import LineScript.Builtin.Install

/-!
# Views of scopes

A view looks at a frame and carries a signal: how the statements in that frame ended. Any number of views
may look at one frame, and what is bound through one of them is seen through all. Exceptions in flight
have numbers here, so that several views can carry the same one while places are noted in it.
-/

namespace LineScript

inductive Signal where
  | normal
  | returned (value : Value)
  | thrown (number : Nat)
  | broken
  deriving Repr

def Signal.name : Signal → String
  | .normal => "NORMAL"
  | .returned _ => "RETURNED"
  | .thrown _ => "THROWN"
  | .broken => "BROKEN"

structure ScopeView where
  frame : FrameId
  signal : Signal
  deriving Repr

namespace ScopeView

def child (view : ScopeView) : Eval ScopeView :=
  return ⟨← Eval.newScope view.frame [], .normal⟩

def withSignal (view : ScopeView) (signal : Signal) : ScopeView :=
  { view with signal := signal }

def sameFrame (view other : ScopeView) : Bool :=
  view.frame = other.frame

def names (store : Store) (view : ScopeView) : List String :=
  (store.frame view.frame).bindings.names.mergeSort fun a b => a ≤ b

def text (store : Store) (view : ScopeView) : String :=
  "Context(signal=" ++ view.signal.name ++ ", names=[" ++
    ", ".intercalate ((view.names store).map Text.quoted) ++ "])"

/-- The name of a built-in class, for code in the frame of a view. -/
def builtinName (view : ScopeView) (name : String) : Eval String := do
  let id ← Eval.builtinClass view.frame name
  match (← get).classNode? id with
  | some node => return node.name
  | none => Eval.fault .missingAttribute

end ScopeView

/-- A new frame that no other surrounds, for code from a source and without the built-in library. -/
def newBareRoot (file : String) (rows : List String) : Eval FrameId :=
  modifyGet fun store => store.addFrame ⟨[], [], ⟨file, rows, [], false⟩⟩

end LineScript
