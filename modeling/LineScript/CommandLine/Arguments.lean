import LineScript.Text.Digit

/-!
# Arguments of the command line

The command line names a command, a file and perhaps a file of settings. A flag may be shortened as long as one flag has
the start, and its value may follow it in the next argument, after an equals sign, or at once behind a short flag. After
two dashes no argument is a flag, and no argument that looks like a negative number or has a space in it is one.
-/

namespace LineScript.CommandLine

inductive Command where
  | check
  | run
  deriving Repr, DecidableEq

def Command.ofName? : String → Option Command
  | "check" => some .check
  | "run" => some .run
  | _ => none

structure Invocation where
  command : Command
  file : String
  settings : Option String
  deriving Repr, DecidableEq

inductive Usage where
  | help
  | mistake
  deriving Repr, DecidableEq

def Usage.status : Usage → Nat
  | .help => 0
  | .mistake => 2

/-! ## Words -/

inductive Flag where
  | help
  | settings
  deriving Repr, DecidableEq

abbrev FlagNames := List (List Char × Flag)

def generalFlags : FlagNames :=
  [("-h".toList, .help), ("--help".toList, .help)]

def commandFlags : FlagNames :=
  generalFlags ++ [("-c".toList, .settings), ("--config".toList, .settings)]

inductive Joined where
  | none
  /-- Behind a flag of one letter, perhaps after an equals sign. -/
  | direct (text : List Char)
  /-- Behind a longer flag, after an equals sign. -/
  | assigned (text : List Char)
  deriving Repr, DecidableEq

inductive Word where
  | argument (text : String)
  | divider
  | flag (flag : Flag) (joined : Joined)
  | unknownFlag
  deriving Repr, DecidableEq

def splitEquals (cs : List Char) : List Char × Option (List Char) :=
  match cs.dropWhile (· ≠ '=') with
  | _ :: rest => (cs.takeWhile (· ≠ '='), some rest)
  | [] => (cs, none)

def joinedTo (name : List Char) : Option (List Char) → Joined
  | none => .none
  | some text => if name.length ≤ 2 then .direct text else .assigned text

/-- The flags whose names start with a text; the name of a letter may have a text behind it. -/
def candidates (flags : FlagNames) (cs : List Char) : List (Flag × Joined) :=
  match cs with
  | '-' :: '-' :: _ =>
    let (start, text) := splitEquals cs
    flags.filterMap fun (name, flag) =>
      if start.isPrefixOf name then some (flag, joinedTo name text) else none
  | _ =>
    flags.filterMap fun (name, flag) =>
      if name = cs.take 2 then some (flag, .direct (cs.drop 2)) else none

def isNegativeNumber : List Char → Bool
  | '-' :: digits =>
    let whole := digits.takeWhile Text.isDecimal
    match digits.dropWhile Text.isDecimal with
    | [] => !whole.isEmpty
    | c :: fraction => c = '.' && !fraction.isEmpty && fraction.all Text.isDecimal
  | _ => false

/-- The kind of an argument that starts with a dash and names no flag in full. -/
def dashedWord (flags : FlagNames) (word : String) : Except Usage Word :=
  let cs := word.toList
  let (name, text) := splitEquals cs
  match flags.lookup name with
  | some flag => .ok (.flag flag (joinedTo name text))
  | none =>
    match candidates flags cs with
    | [(flag, joined)] => .ok (.flag flag joined)
    | _ :: _ => .error .mistake
    | [] =>
      if isNegativeNumber cs || cs.contains ' ' then .ok (.argument word) else .ok .unknownFlag

def wordOf (flags : FlagNames) (text : String) : Except Usage Word :=
  match text.toList with
  | ['-', '-'] => .ok .divider
  | '-' :: _ :: _ =>
    match flags.lookup text.toList with
    | some flag => .ok (.flag flag .none)
    | none => dashedWord flags text
  | _ => .ok (.argument text)

def wordsOf (flags : FlagNames) : List String → Except Usage (List Word)
  | [] => .ok []
  | text :: texts => do
    match ← wordOf flags text with
    | .divider => return .divider :: texts.map .argument
    | word => return word :: (← wordsOf flags texts)

/-! ## Help -/

/-- What a flag for help with letters behind it asks for. The letters are flags of their own. -/
def helpWith (flags : FlagNames) (followed : Bool) : List Char → Usage
  | [] => .help
  | c :: rest =>
    match flags.lookup ['-', c] with
    | some .help => helpWith flags followed rest
    | some .settings => if rest.isEmpty && !followed then .mistake else .help
    | none => .mistake

def helpFor (flags : FlagNames) (followed : Bool) : Joined → Usage
  | .none => .help
  | .direct [] | .assigned _ => .mistake
  | .direct letters => helpWith flags followed letters

def isFollowed : List Word → Bool
  | .argument _ :: _ => true
  | _ => false

/-! ## The words after a command -/

structure Gathered where
  file : Option String
  settings : Option String
  leftOver : Bool
  deriving Repr, DecidableEq

/-- The value that is joined to a flag. Two dashes are dropped as they are elsewhere, and then there is no
value. -/
def joinedValue? (value : List Char) : Option String :=
  if value = ['-', '-'] then none else some (String.ofList value)

def gather : List Word → Gathered → Except Usage Gathered
  | [], gathered => .ok gathered
  | .argument text :: .divider :: rest, gathered =>
    if gathered.file.isNone then gather rest { gathered with file := some text }
    else gather rest { gathered with leftOver := true }
  | .argument text :: rest, gathered =>
    if gathered.file.isNone then gather rest { gathered with file := some text }
    else gather rest { gathered with leftOver := true }
  | .divider :: rest, gathered =>
    gather rest { gathered with leftOver := gathered.leftOver || gathered.file.isSome }
  | .unknownFlag :: rest, gathered => gather rest { gathered with leftOver := true }
  | .flag .help joined :: rest, _ => .error (helpFor commandFlags (isFollowed rest) joined)
  | .flag .settings (.direct value) :: rest, gathered
  | .flag .settings (.assigned value) :: rest, gathered =>
    gather rest { gathered with settings := joinedValue? value }
  | .flag .settings .none :: .argument value :: rest, gathered =>
    gather rest { gathered with settings := some value }
  | .flag .settings .none :: _, _ => .error .mistake

def readCommand (command : Command) (leftOver : Bool) (texts : List String) : Except Usage Invocation := do
  let gathered ← gather (← wordsOf commandFlags texts) ⟨none, none, leftOver⟩
  match gathered.file with
  | some file => if gathered.leftOver then throw .mistake else return ⟨command, file, gathered.settings⟩
  | none => throw .mistake

def readGeneral (leftOver : Bool) : List String → Except Usage Invocation
  | [] => .error .mistake
  | text :: texts => do
    match ← wordOf generalFlags text with
    | .argument name =>
      match Command.ofName? name with
      | some command => readCommand command leftOver texts
      | none => throw .mistake
    | .divider => throw .mistake
    | .flag .help joined => throw (helpFor generalFlags false joined)
    | .flag .settings _ => throw .mistake
    | .unknownFlag => readGeneral true texts

def Invocation.ofArguments (texts : List String) : Except Usage Invocation :=
  readGeneral false texts

end LineScript.CommandLine
