import LineScript.Failure
import LineScript.Store.Basic

/-!
# Evaluation

Evaluation works on the store and may escape. What was done to the store before an escape stays done.
-/

namespace LineScript

abbrev Eval := EStateM Escape Store

namespace Eval

def fail {α : Type} (cause : FailureCause) : Eval α :=
  throw (.ofCause cause)

def fault {α : Type} (reason : Fault) : Eval α :=
  throw (.fault reason)

def expected {α : Type} : Option α → Eval α
  | some value => pure value
  | none => fault .missingAttribute

/-! ## Scopes -/

def newScope (parent : FrameId) (bindings : Bindings Value) : Eval FrameId :=
  modifyGet fun store => store.addFrame (store.childFrame parent bindings)

def lookup (scope : FrameId) (name : String) : Eval Value := do
  match (← get).lookup? scope name with
  | some value => return value
  | none => fail (.notDefined name)

def assign (scope : FrameId) (name : String) (value : Value) : Eval Unit :=
  modify fun store => store.assign scope name value

def assignNonlocal (scope : FrameId) (name : String) (value : Value) : Eval Unit := do
  match (← get).definingFrame? scope name with
  | some other => assign other name value
  | none => fail (.notDefined name)

def delete (scope : FrameId) (name : String) : Eval Unit :=
  modify fun store => store.delete scope name

def builtinClass (scope : FrameId) (name : String) : Eval InstanceId := do
  match (← get).builtinClass? scope name with
  | some id => return id
  | none => fail (.notDefined name)

def argument (scope : FrameId) (name : String) : Eval Value :=
  return ((← get).ownBinding? scope name).getD .null

/-! ## Instances -/

def newInstance (object : Instance) : Eval InstanceId :=
  modifyGet fun store => store.addInstance object

def instanceAt (id : InstanceId) : Eval Instance :=
  return (← get).object id

def newBuiltin (scope : FrameId) (className : String) (payload : Payload) : Eval Value := do
  let cls ← builtinClass scope className
  return .instance (← newInstance ⟨cls, [], payload⟩)

def setProperty (id : InstanceId) (name : String) (value : Value) : Eval Unit :=
  modify fun store => store.setProperty id name value

def newList (scope : FrameId) (items : Array Value) : Eval Value := do
  let cls ← builtinClass scope "List"
  let cell ← modifyGet fun store => store.addCell items
  return .instance (← newInstance ⟨cls, [], .list cell⟩)

def newFunction (scope : FrameId) (function : Function) : Eval Value :=
  newBuiltin scope "Function" (.function function)

def itemsAt (cell : CellId) : Eval (Array Value) :=
  return (← get).cell cell

def modifyItems (cell : CellId) (change : Array Value → Array Value) : Eval Unit :=
  modify fun store => store.modifyCell cell change

def classOf (id : InstanceId) : Eval ClassNode := do
  expected ((← get).classOf? id)

/-! ## Texts -/

def textOf (value : Value) : Eval String := do
  expected ((← get).textOf? value)

def describe (value : Value) : Eval String := do
  expected ((← get).describe? value)

/-! ## Surroundings -/

def output (text : String) : Eval Unit :=
  modify fun store => { store with events := store.events.push (.output text) }

def input (prompt : String) : Eval String := do
  modify fun store => { store with events := store.events.push (.prompt prompt) }
  match (← get).inputs with
  | [] => fault .endOfInput
  | line :: rest =>
    modify fun store => { store with inputs := rest }
    return line

def note (entry : LogEntry) : Eval Unit :=
  modify fun store => { store with log := store.log.push entry }

/-- The place of a line is noted by an exception or a failure on its way out of a scope. -/
def passing {α : Type} (scope : FrameId) (line : Int) (action : Eval α) : Eval α :=
  tryCatch action fun escape => do
    throw (escape.pass scope ((← get).entry scope line))

end Eval

inductive Completion where
  | normal
  | returned (value : Value)
  | broken
  deriving Repr

def Completion.result : Completion → Value
  | .returned value => value
  | .normal | .broken => .null

/-- Runs code in a frame. Evaluation takes this as a parameter wherever a call nests. -/
abbrev Runner := FrameId → Code → Eval Completion

/-- What evaluation is given from outside: how nested code runs, and how many steps a loop may take. -/
structure Engine where
  run : Runner
  loopSteps : Nat

end LineScript
