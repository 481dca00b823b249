import LineScript.Config.Datum
import LineScript.Text.Casing

/-!
# Settings

Five settings govern a run: where modules are looked for, the ending of their files, the encoding of source files, how
much is logged, and how deeply evaluation may nest. A mapping gives some of them, and the others keep their defaults.
-/

namespace LineScript.Config

structure Settings where
  modulePaths : List String
  moduleSuffix : Datum
  encoding : Datum
  logLevel : String
  recursionLimit : Int
  deriving Repr, Inhabited

namespace Settings

def default : Settings :=
  ⟨["."], .text ".toy", .text "utf-8", "WARNING", 10000⟩

def obstacle? (settings : Settings) : Option Datum.Obstacle :=
  (settings.moduleSuffix.obstacles ++ settings.encoding.obstacles ++
    Datum.obstacles (.integer settings.recursionLimit)).head?

def logsDetails (settings : Settings) : Bool :=
  settings.logLevel = "DEBUG" || settings.logLevel = "NOTSET"

end Settings

inductive SettingsFault where
  | unknownKeys (names : List String)
  | keyType
  | modulePaths
  | recursionLimit
  | logLevel (level : String)
  | unwritableLevel
  deriving Repr, DecidableEq

def SettingsFault.message : SettingsFault → String
  | .unknownKeys names => "unknown configuration keys: " ++ ", ".intercalate names
  | .keyType => "a configuration key must be a text"
  | .modulePaths => "module_paths must be a list of directories"
  | .recursionLimit => "recursion_limit must be an integer of at least 100"
  | .logLevel level => "unknown log level: " ++ level
  | .unwritableLevel => Number.tooLongText

def knownKeys : List String :=
  ["module_paths", "module_suffix", "encoding", "log_level", "recursion_limit"]

def logLevels : List String :=
  ["CRITICAL", "FATAL", "ERROR", "WARN", "WARNING", "INFO", "DEBUG", "NOTSET"]

def leastRecursionLimit : Int :=
  100

def valueOf? (entries : List (Datum × Datum)) (key : String) : Option Datum :=
  (entries.find? fun entry =>
    match entry.1 with
    | .text name => name = key
    | _ => false).map Prod.snd

def textOf? : Datum → Option String
  | .text value => some value
  | _ => none

/-- The keys that are no settings: their names, or nothing if one of them is not a text. -/
def unknownKeys? (entries : List (Datum × Datum)) : Option (List String) :=
  (entries.filterMap fun entry =>
    match entry.1 with
    | .text name => if name ∈ knownKeys then none else some (some name)
    | _ => some none).mapM id

def directories? : Datum → Option (List String)
  | .text path => some [path]
  | .list items => items.mapM textOf?
  | _ => none

def checkKeys (entries : List (Datum × Datum)) : Except SettingsFault Unit :=
  match unknownKeys? entries with
  | none => .error .keyType
  | some [] => .ok ()
  | some names => .error (.unknownKeys (names.mergeSort fun a b => a ≤ b))

def readModulePaths : Option Datum → Except SettingsFault (List String)
  | none => .ok Settings.default.modulePaths
  | some datum =>
    match directories? datum with
    | some paths => .ok paths
    | none => .error .modulePaths

def readRecursionLimit : Option Datum → Except SettingsFault Int
  | none => .ok Settings.default.recursionLimit
  | some (.integer limit) =>
    if leastRecursionLimit ≤ limit then .ok limit else .error .recursionLimit
  | some _ => .error .recursionLimit

def readLogLevel : Option Datum → Except SettingsFault String
  | none => .ok Settings.default.logLevel
  | some datum =>
    let level := String.ofList (Text.toUpper datum.toText.toList)
    if datum.isUnwritable then .error .unwritableLevel
    else if level ∈ logLevels then .ok level else .error (.logLevel datum.toText)

def Settings.ofEntries (entries : List (Datum × Datum)) : Except SettingsFault Settings := do
  checkKeys entries
  let modulePaths ← readModulePaths (valueOf? entries "module_paths")
  let recursionLimit ← readRecursionLimit (valueOf? entries "recursion_limit")
  let logLevel ← readLogLevel (valueOf? entries "log_level")
  return ⟨modulePaths, (valueOf? entries "module_suffix").getD Settings.default.moduleSuffix,
    (valueOf? entries "encoding").getD Settings.default.encoding, logLevel, recursionLimit⟩

end LineScript.Config
