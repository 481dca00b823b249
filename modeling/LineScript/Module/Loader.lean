import LineScript.Builtin.Install
import LineScript.Program.Reader

/-!
# Modules

A module with a dotted name stands in a file of that path below one of the module directories, of which the first wins.
It runs once, in a frame of its own. The program that imports it gets an instance whose properties are the bindings that
the module made at its top level. A module is known as loaded before it runs, so that modules can import each other. If
it throws or fails it is withdrawn again.
-/

namespace LineScript

open LineScript.Config (Datum)
open LineScript.Files (Path)

namespace Module

def nameParts (name : String) : List String :=
  (Source.splitDots [] name.toList).map String.ofList

/-- A path with an ending; a path without a last name has none. -/
def withEnding (path : Path) (ending : String) : Except Fault Path :=
  if path.name.isEmpty then .error (.emptyModuleName path.text) else .ok (path.extend ending)

/-- The ending of module files is a text with a dot in front, or empty. -/
def isEnding (ending : String) : Bool :=
  let cs := ending.toList
  !cs.contains '/' && (cs.isEmpty || (cs.head? == some '.' && ending ≠ "."))

def isSlash : Datum → Bool
  | .text value => value = "/"
  | _ => false

def withCollection (path : Path) (suffix : Datum) (items : List Datum) : Except Fault Path :=
  if items.any isSlash then .error (.badSuffix suffix.shown)
  else if !items.isEmpty then .error .suffixShape
  else if path.name.isEmpty then .error (.emptyModuleName path.text)
  else .error .suffixType

def withSuffix (path : Path) (suffix : Datum) : Except Fault Path :=
  match suffix with
  | .text ending =>
    if isEnding ending then withEnding path ending else .error (.badSuffix (Text.quoted ending))
  | .list items => withCollection path suffix items
  | .mapping entries => withCollection path suffix (entries.map Prod.fst)
  | _ => .error .suffixType

def candidates (settings : Config.Settings) (name : String) : Except Fault (List Path) := do
  let relative ← withSuffix (Path.ofParts (nameParts name)) settings.moduleSuffix
  return settings.modulePaths.map fun base => (Path.ofText base).append relative

def resolve (name : String) : Eval Path := do
  let store ← get
  match candidates store.settings name with
  | .error reason => Eval.fault reason
  | .ok paths =>
    match store.files.firstFile paths with
    | .ok (some path) => return path
    | .ok none => Eval.fail (.moduleNotFound name (paths.map Path.text))
    | .error reason => Eval.fault (.file reason)

def encodingName : Datum → Except Files.FileFault String
  | .text name => .ok name
  | .null => .ok "utf-8"
  | _ => .error .encodingType

def readSource (path : Path) : Eval (Except Files.FileFault String) := do
  let store ← get
  return do store.files.readText path (← encodingName store.settings.encoding)

def readModule (name : String) (path : Path) : Eval String := do
  match ← readSource path with
  | .ok text => return text
  | .error reason =>
    if reason.isReported then Eval.fail (.moduleUnreadable name path.text reason.message)
    else Eval.fault (.file reason)

def parse (source file : String) : Eval Block := do
  let lines := Source.readLines source (some file)
  match (Program.readProgramLines lines).run .empty with
  | .ok block table =>
    Eval.note (.parsed (if file.isEmpty then "<source>" else file) lines.length table.size)
    return block
  | .error error _ => throw (.unreadable error)

def newBindings (first : Bindings Value) (bindings : Bindings Value) : Bindings Value :=
  bindings.filter fun (name, value) =>
    match first.get? name, value with
    | some (.instance old), .instance new => old ≠ new
    | _, _ => true

structure Fetched where
  path : Path
  source : String
  program : Block

def fetch (name : String) : Eval Fetched := do
  let path ← resolve name
  Eval.note (.loading name path.text)
  let source ← readModule name path
  return ⟨path, source, ← parse source path.text⟩

/-- A module runs in a new frame, and its bindings become the properties of the instance. -/
def runModule (run : Runner) (importer : FrameId) (object : InstanceId) (fetched : Fetched) : Eval Unit := do
  let importing := ((← get).frame importer).origin.importing
  let root ← Eval.newRoot fetched.path.text (Origin.rowsOf fetched.source) importing
  let first := ((← get).frame root).bindings
  let _ ← run root (.block fetched.program)
  Eval.setProperties object (newBindings first ((← get).frame root).bindings)

def modifyLoaded (change : Bindings InstanceId → Bindings InstanceId) : Eval Unit :=
  modify fun store => { store with modules := change store.modules }

def install (run : Runner) (importer : FrameId) (name : String) (fetched : Fetched) : Eval InstanceId := do
  let cls ← Eval.builtinClass importer "Object"
  let object ← Eval.newInstance ⟨cls, [], .object⟩
  modifyLoaded fun modules => modules.set name object
  tryCatch (runModule run importer object fetched) fun escape => do
    if escape.withdrawsModule then modifyLoaded fun modules => modules.erase name
    throw escape
  return object

def loadNew (run : Runner) (importer : FrameId) (name : String) : Eval InstanceId := do
  install run importer name (← fetch name)

def load (run : Runner) (importer : FrameId) (name : String) : Eval InstanceId := do
  match (← get).modules.get? name with
  | some object => return object
  | none => loadNew run importer name

end Module

end LineScript
