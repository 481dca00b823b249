import LineScript.Config.Settings
import LineScript.Files.FileSystem
import LineScript.Yaml.Document

/-!
# Settings in files

A file of settings is a document in UTF-8 with a mapping of settings.
-/

namespace LineScript.Config

open LineScript.Files (FileFault FileSystem Path)

inductive LoadFault where
  | notFound (path : Path)
  | file (reason : FileFault)
  | document (reason : Yaml.Fault)
  | notMapping (path : Path)
  | settings (reason : SettingsFault)
  deriving Repr, DecidableEq

def LoadFault.message? : LoadFault → Option String
  | .notFound path => some ("config not found: " ++ path.text)
  | .file (.unknownEncoding _) => none
  | .file .encodingType => none
  | .file reason => some reason.message
  | .document reason => reason.message?
  | .notMapping path => some ("config must be a mapping: " ++ path.text)
  | .settings .keyType => none
  | .settings reason => some reason.message

def readStream (files : FileSystem) (path : Path) : Except FileFault String :=
  (files.readText path "utf-8").mapError fun reason =>
    match reason with
    | .undecodable fault => .undecodable (Encoding.DecodeFault.inStream fault)
    | reason => reason

def entriesOf (path : Path) (datum : Datum) : Except LoadFault (List (Datum × Datum)) :=
  if datum.isTruthy then
    match datum with
    | .mapping entries => .ok entries
    | _ => .error (.notMapping path)
  else .ok []

def Settings.load (files : FileSystem) (path : Path) : Except LoadFault Settings := do
  if !(← (files.holds path).mapError .file) then throw (.notFound path)
  let text ← (readStream files path).mapError .file
  let datum ← (Yaml.read text).mapError .document
  let entries ← entriesOf path datum
  (Settings.ofEntries entries).mapError .settings

end LineScript.Config
