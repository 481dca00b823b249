import LineScript.Calendar
import LineScript.Number.Limit
import LineScript.Text.Quoted

/-!
# Data in settings

A setting is given as data: null, a boolean, an integer, a number with a fraction, a moment, a text, bytes, a
list, a pair, a set or a mapping.
-/

namespace LineScript.Config

inductive Datum where
  | null
  | boolean (value : Bool)
  | integer (value : Int)
  | number (value : Float)
  | moment (value : Calendar.Moment)
  | text (value : String)
  | bytes (value : List UInt8)
  | list (items : List Datum)
  | pair (first second : Datum)
  | set (items : List Datum)
  | mapping (entries : List (Datum × Datum))
  | again (isMapping : Bool)
  deriving Repr, Inhabited

namespace Datum

def byteText (quote : Char) (byte : UInt8) : String :=
  let c := Char.ofNat byte.toNat
  if c = quote ∨ c = '\\' then "\\" ++ String.singleton c
  else if c = '\t' then "\\t"
  else if c = '\n' then "\\n"
  else if c = '\r' then "\\r"
  else if 0x20 ≤ byte ∧ byte < 0x7f then String.singleton c
  else "\\x" ++ String.ofList (Text.hexDigits 2 byte.toNat)

/-- The text of bytes, in double quotes if there are single ones among them and no double ones. -/
def bytesText (bytes : List UInt8) : String :=
  let quote := if bytes.contains 0x27 && !bytes.contains 0x22 then '\x22' else '\x27'
  "b" ++ String.singleton quote ++ String.join (bytes.map (byteText quote)) ++ String.singleton quote

mutual

def shown : Datum → String
  | .null => "None"
  | .boolean value => if value then "True" else "False"
  | .integer value => Number.integerText value
  | .number value => Number.exactText value
  | .moment value => value.shown
  | .text value => Text.quoted value
  | .bytes value => bytesText value
  | .list items => "[" ++ ", ".intercalate (shownItems items) ++ "]"
  | .pair first second => "(" ++ first.shown ++ ", " ++ second.shown ++ ")"
  | .set items =>
    if items.isEmpty then "set()" else "\x7b" ++ ", ".intercalate (shownItems items) ++ "\x7d"
  | .mapping entries => "\x7b" ++ ", ".intercalate (shownEntries entries) ++ "\x7d"
  | .again isMapping => if isMapping then "\x7b...\x7d" else "[...]"

def shownItems : List Datum → List String
  | [] => []
  | item :: items => item.shown :: shownItems items

def shownEntries : List (Datum × Datum) → List String
  | [] => []
  | (key, value) :: entries => (key.shown ++ ": " ++ value.shown) :: shownEntries entries

end

def toText : Datum → String
  | .text value => value
  | .moment value => value.text
  | datum => datum.shown

def isTruthy : Datum → Bool
  | .null => false
  | .boolean value => value
  | .integer value => value ≠ 0
  | .number value => !(value == 0.0)
  | .moment _ => true
  | .text value => !value.isEmpty
  | .bytes value => !value.isEmpty
  | .list items => !items.isEmpty
  | .pair _ _ => true
  | .set items => !items.isEmpty
  | .mapping entries => !entries.isEmpty
  | .again _ => true

/-! ## Obstacles -/

/-- Why data cannot be written in another notation. -/
inductive Obstacle where
  /-- A moment, bytes or a set, which not every notation has. -/
  | uncommonKind
  | tooManyDigits
  | circular
  deriving Repr, DecidableEq

mutual

def obstacles : Datum → List Obstacle
  | .moment _ | .bytes _ | .set _ => [.uncommonKind]
  | .integer value => if Number.isTooLong value then [.tooManyDigits] else []
  | .again _ => [.circular]
  | .list items => obstaclesOfItems items
  | .pair first second => first.obstacles ++ second.obstacles
  | .mapping entries => obstaclesOfEntries entries
  | .null | .boolean _ | .number _ | .text _ => []

def obstaclesOfItems : List Datum → List Obstacle
  | [] => []
  | item :: items => item.obstacles ++ obstaclesOfItems items

def obstaclesOfEntries : List (Datum × Datum) → List Obstacle
  | [] => []
  | (key, value) :: entries => key.obstacles ++ value.obstacles ++ obstaclesOfEntries entries

end

mutual

/-- The data holds an integer of too many digits, so that it has no text. -/
def isUnwritable : Datum → Bool
  | .integer value => Number.isTooLong value
  | .list items | .set items => anyUnwritable items
  | .pair first second => first.isUnwritable || second.isUnwritable
  | .mapping entries => anyUnwritableEntry entries
  | .null | .boolean _ | .number _ | .text _ | .moment _ | .bytes _ | .again _ => false

def anyUnwritable : List Datum → Bool
  | [] => false
  | item :: items => item.isUnwritable || anyUnwritable items

def anyUnwritableEntry : List (Datum × Datum) → Bool
  | [] => false
  | (key, value) :: entries => key.isUnwritable || value.isUnwritable || anyUnwritableEntry entries

end

end Datum

end LineScript.Config
