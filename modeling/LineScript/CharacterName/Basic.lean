import LineScript.CharacterName.Steps
import LineScript.Number.Reading
import LineScript.Text.Span
import LineScript.Text.Syllable

/-!
# Names of characters

Most characters have names, and one can be found by its name. A table holds the names, without regard to case; some
characters have several. The names of ideographs end with the number of the character, the selectors of variants have
short names with numbers, and the names of Korean syllables are made of those of their letters.
-/

namespace LineScript.CharacterName

open LineScript.Text (Span)

/-! ## Names with numbers -/

def hexNumber? (digits : List Char) : Option Nat :=
  if 4 ≤ digits.length ∧ digits.length ≤ 5 ∧ digits.all (fun c => c.isDigit || ('A' ≤ c && c ≤ 'F')) then
    some (Number.radixRun 16 digits)
  else none

def after? (start : String) (cs : List Char) : Option (List Char) :=
  if start.toList.isPrefixOf cs then some (cs.drop start.length) else none

/-- The starts of names that go on with the number of the character, and the numbers. -/
def numberedNames : List (String × Span) :=
  [("CJK COMPATIBILITY IDEOGRAPH-", ⟨0xf900, 0xfa6d⟩),
    ("CJK COMPATIBILITY IDEOGRAPH-", ⟨0xfa70, 0xfad9⟩),
    ("CJK COMPATIBILITY IDEOGRAPH-", ⟨0x2f800, 0x2fa1d⟩),
    ("KHITAN SMALL SCRIPT CHARACTER-", ⟨0x18b00, 0x18cd5⟩),
    ("NUSHU CHARACTER-", ⟨0x1b170, 0x1b2fb⟩)]

/-- The character whose name ends with its number. The number has no zeros in front that it does not need. -/
def findNumbered? (name : List Char) : Option Nat :=
  numberedNames.findSome? fun (start, span) => do
    let digits ← after? start name
    let code ← hexNumber? digits
    if span.contains code && (digits.length = 4 || 0x10000 ≤ code) then some code else none

def decimal? (cs : List Char) : Option Nat :=
  if cs.isEmpty || cs.head? = some '0' || !cs.all Char.isDigit then none
  else some (cs.foldl (fun total c => 10 * total + (c.toNat - 0x30)) 0)

def selector? : List Char → Option Nat
  | 'V' :: 'S' :: digits => do
    let number ← decimal? digits
    if number ≤ 16 then some (0xfe00 + number - 1)
    else if number ≤ 256 then some (0xe0100 + number - 17)
    else none
  | _ => none

def ideographTable : Array Span := #[
  ⟨0x3400, 0x4dbf⟩, ⟨0x4e00, 0x9fff⟩, ⟨0x20000, 0x2a6df⟩, ⟨0x2a700, 0x2b738⟩, ⟨0x2b740, 0x2b81d⟩,
  ⟨0x2b820, 0x2cea1⟩, ⟨0x2ceb0, 0x2ebe0⟩, ⟨0x30000, 0x3134a⟩]

def findIdeograph? (digits : List Char) : Option Nat := do
  let code ← hexNumber? digits
  if Span.covers ideographTable code then some code else none

/-! ## Korean syllables -/

def leadNames : List String :=
  ["G", "GG", "N", "D", "DD", "R", "M", "B", "BB", "S", "SS", "", "J", "JJ", "C", "K", "T", "P", "H"]

def vowelNames : List String :=
  ["A", "AE", "YA", "YAE", "EO", "E", "YEO", "YE", "O", "WA", "WAE", "OE", "YO", "U", "WEO", "WE", "WI", "YU",
    "EU", "YI", "I"]

def tailNames : List String :=
  ["", "G", "GG", "GS", "N", "NJ", "NH", "D", "L", "LG", "LM", "LB", "LS", "LT", "LP", "LH", "M", "B", "BS", "S",
    "SS", "NG", "J", "C", "K", "T", "P", "H"]

def longestName? (names : List String) (cs : List Char) : Option (Nat × List Char) :=
  let fitting := names.zipIdx.filter fun (name, _) => name.toList.isPrefixOf cs
  let longest := fitting.foldl (fun (best : Option (String × Nat)) entry =>
    match best with
    | some (name, _) => if name.length < entry.1.length then some entry else best
    | none => some entry) none
  longest.map fun (name, index) => (index, cs.drop name.length)

def findSyllable? (cs : List Char) : Option Nat := do
  let (lead, rest) ← longestName? leadNames cs
  let (vowel, rest) ← longestName? vowelNames rest
  let (tail, rest) ← longestName? tailNames rest
  if rest.isEmpty then some (Text.syllableOf lead vowel tail).toNat else none

/-! ## All names -/

def upper (c : Char) : Char :=
  if c.isLower then c.toUpper else c

/-- The character with a name. Names of Korean syllables and of common ideographs are in upper case. -/
def find? (name : List Char) : Option Char :=
  let code :=
    match after? "HANGUL SYLLABLE " name, after? "CJK UNIFIED IDEOGRAPH-" name with
    | some letters, _ => findSyllable? letters
    | none, some digits => findIdeograph? digits
    | none, none =>
      let name := name.map upper
      findNumbered? name <|> selector? name <|> findListed? name
  code.map Char.ofNat

end LineScript.CharacterName
