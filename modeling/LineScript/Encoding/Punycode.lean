import LineScript.Encoding.Page
import LineScript.Number.Reading

/-!
# Text as ASCII with insertions

The ASCII characters stand before the last dash. After it, numbers tell how far the next insertion of another character
is from the one before, in the order of the characters and of the places for them. The digits of a number are letters
and decimal digits, the lowest first; how great a digit has to be for another one to follow depends on a bias, which
adapts to the numbers.
-/

namespace LineScript.Encoding

/-- The digit from which on another digit follows, at a place in a number. -/
def threshold (place bias : Nat) : Nat :=
  max 1 (min 26 (36 * (place + 1) - bias))

/-- The value of a character as a digit; letters come first. -/
def insertionDigit? (c : Char) : Option Nat :=
  if c.isUpper then some (c.toNat - 0x41)
  else if c.isLower then some (c.toNat - 0x61)
  else if c.isDigit then some (c.toNat - 22)
  else none

/-- The number at the start of digits, and the digits after it. The number so far is `total`, and the next
digit counts `weight`. -/
def insertionNumber (bias place total weight : Nat) : List Char → Except DecodeFault (Nat × List Char)
  | [] => .error .unfinishedNumber
  | c :: rest =>
    match insertionDigit? c with
    | none => .error (.badDigit c)
    | some digit =>
      let least := threshold place bias
      let total := total + digit * weight
      if digit < least then .ok (total, rest)
      else insertionNumber bias (place + 1) total (weight * (36 - least)) rest

def biasOf : Nat → Nat → Nat → Nat
  | 0, divisions, _ => divisions
  | fuel + 1, divisions, delta =>
    if 455 < delta then biasOf fuel (divisions + 36) (delta / 35)
    else divisions + 36 * delta / (delta + 38)

/-- The bias after a number; `count` is the number of characters then. -/
def adaptBias (delta : Nat) (first : Bool) (count : Nat) : Nat :=
  let scaled := if first then delta / 700 else delta / 2
  let scaled := scaled + scaled / count
  biasOf (scaled + 1) 0 scaled

/-- The text with the insertions that digits tell. The next insertion is looked for from a character and a place on. -/
def insertCharacters (bias character : Nat) (place : Nat) (first : Bool) :
    Nat → List Char → List Char → Except DecodeFault (List Char)
  | 0, text, _ => .ok text
  | _ + 1, text, [] => .ok text
  | fuel + 1, text, digits => do
    let (delta, rest) ← insertionNumber bias 0 0 1 digits
    let total := place + delta
    let character := character + total / (text.length + 1)
    if 0x10ffff < character then throw (.beyondCharacters character)
    let place := total % (text.length + 1)
    let text := text.insertIdx place (Char.ofNat character)
    insertCharacters (adaptBias delta first text.length) character (place + 1) false fuel text rest

def splitLastDash (bytes : List UInt8) : List UInt8 × List UInt8 :=
  let after := (bytes.reverse.takeWhile (· ≠ 0x2d)).reverse
  (bytes.take (bytes.length - after.length - 1), after)

def upperAscii (c : Char) : Char :=
  if c.isLower then c.toUpper else c

/-! ## Decoding -/

def decodePunycode (bytes : List UInt8) : Except DecodeFault (List Char) := do
  let (base, digits) := splitLastDash bytes
  let base ← decodeAscii base
  let digits ← decodeAscii digits
  insertCharacters 72 0x80 0 true digits.length base (digits.map upperAscii)

/-! ## Encoding -/

def insertionDigit (digit : Nat) : Char :=
  if digit < 26 then Char.ofNat (0x61 + digit) else Char.ofNat (0x16 + digit)

def insertionDigits (bias : Nat) : Nat → Nat → Nat → List Char
  | 0, _, _ => []
  | fuel + 1, place, number =>
    let least := threshold place bias
    if number < least then [insertionDigit number]
    else
      insertionDigit (least + (number - least) % (36 - least)) ::
        insertionDigits bias fuel (place + 1) ((number - least) / (36 - least))

/-- The state of encoding: the digits so far, how far the next insertion is from the last one, the bias, and how
many characters are there. -/
structure Insertions where
  digits : List Char
  delta : Nat
  bias : Nat
  count : Nat

/-- A character of the text is passed, or inserted if it is the one that is looked for. -/
def Insertions.pass (base character : Nat) (state : Insertions) (c : Char) : Insertions :=
  if c.toNat < character then { state with delta := state.delta + 1 }
  else if c.toNat = character then
    ⟨state.digits ++ insertionDigits state.bias (state.delta + 1) 0 state.delta, 0,
      adaptBias state.delta (state.count = base) (state.count + 1), state.count + 1⟩
  else state

/-- The insertions of characters in ascending order; the last one before them had the number before `next`. -/
def Insertions.ofCharacters (base : Nat) (text : List Char) : Nat → Insertions → List Nat → Insertions
  | _, state, [] => state
  | next, state, character :: characters =>
    let moved := { state with delta := state.delta + (character - next) * (state.count + 1) }
    let passed := text.foldl (Insertions.pass base character) moved
    ofCharacters base text (character + 1) { passed with delta := passed.delta + 1 } characters

def encodePunycode (text : List Char) : List Char :=
  let base := text.filter (·.toNat < 0x80)
  let others := ((text.filter (0x80 ≤ ·.toNat)).map Char.toNat).mergeSort.eraseDups
  let done := Insertions.ofCharacters base.length text 0x80 ⟨[], 0, 72, base.length⟩ others
  if base.isEmpty then done.digits else base ++ '-' :: done.digits

end LineScript.Encoding
