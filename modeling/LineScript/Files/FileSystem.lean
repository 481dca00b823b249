import LineScript.Encoding.Basic
import LineScript.Files.Path

/-!
# Files

The files that a program can read: a working directory, and what stands at absolute places. A place is a
list of names from the root. A directory exists if it is listed, if something listed stands below it, or
if the working directory does.
-/

namespace LineScript.Files

/-- A place in the file system: the names from the root. -/
abbrev Place := List String

inductive Entry where
  | file (content : List UInt8)
  | directory
  deriving Repr, DecidableEq

structure FileSystem where
  workingDirectory : Place
  entries : List (Place × Entry)
  deriving Repr

inductive FileFault where
  | notFound (path : Path)
  | isDirectory (path : Path)
  | nameTooLong (path : Path)
  | undecodable (fault : Encoding.DecodeFault)
  | unknownEncoding (name : String)
  | encodingZero
  | encodingType
  deriving Repr, DecidableEq

namespace FileFault

def message : FileFault → String
  | .notFound path => "[Errno 2] No such file or directory: " ++ Text.quoted path.text
  | .isDirectory path => "[Errno 21] Is a directory: " ++ Text.quoted path.text
  | .nameTooLong path => "[Errno 36] File name too long: " ++ Text.quoted path.text
  | .undecodable fault => fault.message
  | .unknownEncoding name => "unknown encoding: " ++ name
  | .encodingZero => "embedded null character"
  | .encodingType => "the encoding must be a text"

/-- The fault is one of the file system, or of bytes at a place in the file, and not of the encoding. -/
def isReported : FileFault → Bool
  | .notFound _ | .isDirectory _ | .nameTooLong _ => true
  | .undecodable fault => fault.isPlaced
  | .unknownEncoding _ | .encodingZero | .encodingType => false

end FileFault

namespace FileSystem

def entry? (files : FileSystem) (place : Place) : Option Entry :=
  match files.entries.find? fun entry => entry.1 = place with
  | some (_, entry) => some entry
  | none =>
    if place.isPrefixOf files.workingDirectory ||
        files.entries.any (fun entry => place.isPrefixOf entry.1) then some .directory
    else none

def nameLimit : Nat :=
  255

def pathLimit : Nat :=
  4095

/-- The place reached from a directory by the names of a path; nothing if it does not exist. A name that is
too long is refused in the directory where it is looked for. -/
def walk (files : FileSystem) (path : Path) (place : Place) : List String → Except FileFault (Option Place)
  | [] => .ok (if (files.entry? place).isSome then some place else none)
  | name :: names =>
    if files.entry? place = some .directory then
      if nameLimit < name.utf8ByteSize then .error (.nameTooLong path)
      else walk files path (if name = ".." then place.dropLast else place ++ [name]) names
    else .ok none

def locate (files : FileSystem) (path : Path) : Except FileFault (Option Place) :=
  if path.text.toList.contains '\x00' then .ok none
  else if pathLimit < path.text.utf8ByteSize then .error (.nameTooLong path)
  else files.walk path (if path.root.isEmpty then files.workingDirectory else []) path.names

def find (files : FileSystem) (path : Path) : Except FileFault (Option Entry) := do
  return (← files.locate path).bind files.entry?

def holds (files : FileSystem) (path : Path) : Except FileFault Bool := do
  return (← files.find path).isSome

def holdsFile (files : FileSystem) (path : Path) : Except FileFault Bool := do
  match ← files.find path with
  | some (.file _) => return true
  | _ => return false

def firstFile (files : FileSystem) : List Path → Except FileFault (Option Path)
  | [] => .ok none
  | path :: paths => do
    if ← files.holdsFile path then return some path else files.firstFile paths

def readBytes (files : FileSystem) (path : Path) : Except FileFault (List UInt8) := do
  match ← files.find path with
  | some (.file content) => return content
  | some .directory => throw (.isDirectory path)
  | none => throw (.notFound path)

/-- The encoding with a name; the word for the usual encoding of the place has no other spelling. -/
def encodingOf (name : String) : Except FileFault Encoding :=
  if name = "locale" then .ok .utf8
  else
    match Encoding.ofName? name with
    | some encoding => .ok encoding
    | none => .error (.unknownEncoding name)

def readText (files : FileSystem) (path : Path) (encoding : String) : Except FileFault String := do
  if encoding.toList.contains '\x00' then throw .encodingZero
  let bytes ← files.readBytes path
  let encoding ← encodingOf encoding
  (encoding.decodeText bytes).mapError .undecodable

def pathOf (place : Place) : Path :=
  ⟨"/", place⟩

def placeOf (files : FileSystem) (path : Path) : Place :=
  (if path.root.isEmpty then files.workingDirectory else []) ++ path.names

def write (files : FileSystem) (path : Path) (entry : Entry) : FileSystem :=
  let place := files.placeOf path
  { files with entries := (place, entry) :: files.entries.filter fun other => other.1 ≠ place }

/-- The files without the entry at a path. The directory around it stays. -/
def remove (files : FileSystem) (path : Path) : FileSystem :=
  let place := files.placeOf path
  { files with
    entries := (place.dropLast, .directory) ::
      files.entries.filter fun other => other.1 ≠ place && other.1 ≠ place.dropLast }

end FileSystem

end LineScript.Files
