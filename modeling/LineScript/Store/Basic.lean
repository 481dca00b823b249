import LineScript.Config.Settings
import LineScript.Files.FileSystem
import LineScript.Store.Frame
import LineScript.Store.Instance
import LineScript.Text.Quoted

/-!
# The store

All state of a run: the scope frames, the instances, the items of lists, the loaded modules, and what passed between the
program and its surroundings. Frames, instances and lists are only ever added.

A name is looked up in the own frame and then in the frames around it, the nearest first. An assignment changes the own
frame; a nonlocal assignment changes the nearest frame around it that has the name.
-/

namespace LineScript

open LineScript.Number (integerText digitsOf)

inductive Event where
  | output (text : String)
  | prompt (text : String)
  deriving Repr, DecidableEq

inductive LogEntry where
  | parsed (file : String) (lines leaves : Nat)
  | running (file : String)
  | loading (name path : String)
  deriving Repr, DecidableEq

def LogEntry.text : LogEntry → String
  | .parsed file lines leaves =>
    "DEBUG toylang.parser: parsed " ++ file ++ ": " ++ digitsOf lines ++ " lines, " ++
      digitsOf leaves ++ " interned nodes"
  | .running file => "DEBUG toylang.runtime.interpreter: running " ++ file
  | .loading name path => "DEBUG toylang.runtime.modules: loading module " ++ name ++ " from " ++ path

structure Store where
  frames : Array Frame
  instances : Array Instance
  cells : Array (Array Value)
  /-- The loaded modules, in the order in which their loading started. -/
  modules : Bindings InstanceId
  events : Array Event
  inputs : List String
  log : Array LogEntry
  files : Files.FileSystem
  settings : Config.Settings
  clock : Float

namespace Store

def initial (settings : Config.Settings) (files : Files.FileSystem) (inputs : List String) (clock : Float) : Store :=
  ⟨#[], #[], #[], [], #[], inputs, #[], files, settings, clock⟩

/-! ## Frames -/

def frame (store : Store) (id : FrameId) : Frame :=
  (store.frames[id.index]?).getD default

def addFrame (store : Store) (frame : Frame) : FrameId × Store :=
  (⟨store.frames.size⟩, { store with frames := store.frames.push frame })

def childFrame (store : Store) (parent : FrameId) (bindings : Bindings Value) : Frame :=
  let around := store.frame parent
  ⟨parent :: around.path, bindings, around.origin⟩

def ownBinding? (store : Store) (id : FrameId) (name : String) : Option Value :=
  (store.frame id).bindings.get? name

def lookupIn? (store : Store) (name : String) : List FrameId → Option Value
  | [] => none
  | id :: ids =>
    match store.ownBinding? id name with
    | some value => some value
    | none => lookupIn? store name ids

def lookup? (store : Store) (id : FrameId) (name : String) : Option Value :=
  store.lookupIn? name (id :: (store.frame id).path)

def modifyBindings (store : Store) (id : FrameId) (change : Bindings Value → Bindings Value) : Store :=
  { store with
    frames := store.frames.modify id.index fun frame =>
      { frame with bindings := change frame.bindings } }

def assign (store : Store) (id : FrameId) (name : String) (value : Value) : Store :=
  store.modifyBindings id fun bindings => bindings.set name value

def delete (store : Store) (id : FrameId) (name : String) : Store :=
  store.modifyBindings id fun bindings => bindings.erase name

def definingFrame? (store : Store) (id : FrameId) (name : String) : Option FrameId :=
  (store.frame id).path.find? fun other => (store.frame other).bindings.binds name

/-- The store with a name bound anew in the nearest frame around a frame that binds it. -/
def assignNonlocal? (store : Store) (id : FrameId) (name : String) (value : Value) : Option Store :=
  (store.definingFrame? id name).map fun other => store.assign other name value

def builtinClass? (store : Store) (id : FrameId) (name : String) : Option InstanceId :=
  (store.frame id).origin.classes.get? name

def entry (store : Store) (id : FrameId) (line : Int) : TraceEntry :=
  (store.frame id).origin.entry line

/-! ## Instances -/

def object (store : Store) (id : InstanceId) : Instance :=
  (store.instances[id.index]?).getD default

def addInstance (store : Store) (object : Instance) : InstanceId × Store :=
  (⟨store.instances.size⟩, { store with instances := store.instances.push object })

def modifyInstance (store : Store) (id : InstanceId) (change : Instance → Instance) : Store :=
  { store with instances := store.instances.modify id.index change }

def setProperty (store : Store) (id : InstanceId) (name : String) (value : Value) : Store :=
  store.modifyInstance id fun object =>
    { object with properties := object.properties.set name value }

def setPayload (store : Store) (id : InstanceId) (payload : Payload) : Store :=
  store.modifyInstance id fun object => { object with payload := payload }

def classNode? (store : Store) (id : InstanceId) : Option ClassNode :=
  match (store.object id).payload with
  | .class node => some node
  | _ => none

def classOf? (store : Store) (id : InstanceId) : Option ClassNode :=
  store.classNode? (store.object id).cls

/-! ## Lists -/

def cell (store : Store) (id : CellId) : Array Value :=
  (store.cells[id.index]?).getD #[]

def addCell (store : Store) (items : Array Value) : CellId × Store :=
  (⟨store.cells.size⟩, { store with cells := store.cells.push items })

def modifyCell (store : Store) (id : CellId) (change : Array Value → Array Value) : Store :=
  { store with cells := store.cells.modify id.index change }

/-! ## The text of values -/

/-- The text of a value; nothing if it names a class that is none any more. -/
def textOf? (store : Store) : Value → Option String
  | .null => some "null"
  | .number value => some (Number.written value)
  | .text value => some value
  | .boolean value => some (if value then "true" else "false")
  | .instance id =>
    match (store.object id).payload with
    | .function function => some function.text
    | .class node => some node.text
    | .text value => some value
    | .object | .list _ => (store.classOf? id).map fun node => "<" ++ node.name ++ " object>"

def describe? (store : Store) : Value → Option String
  | .text value => some (Text.quoted value)
  | value => store.textOf? value

end Store

end LineScript
