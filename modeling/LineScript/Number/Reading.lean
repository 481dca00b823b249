import LineScript.Number.Dyadic
import LineScript.Number.Limit
import LineScript.Text.Blank
import LineScript.Text.Digit

/-!
# Reading numbers

Three readers share the runs of decimal digits: numerals of the language (`12` and `12.5`), the longest decimal number
at the start of a text, and the longest integer in a radix at the start of a text.
-/

namespace LineScript.Number

open LineScript.Text

def decimalRun (digits : List Char) : Nat :=
  digits.foldl (fun total c => 10 * total + (decimalValue? c).getD 0) 0

/-- The double nearest to `digits * 10 ^ exponent`. Exponents that leave no doubt are not expanded. -/
def ofDecimal (digits : Nat) (exponent : Int) : Float :=
  if digits = 0 then 0.0
  else if 400 < exponent then infinity false
  else if digits.log2 + 1101 < 3 * (-exponent).toNat then 0.0
  else nearest (digits * tenTo exponent.toNat) (tenTo (-exponent).toNat)

/-! ## Numerals -/

/-- A numeral: its digits before the point and, if it has a point, those after it. -/
structure Numeral where
  whole : List Char
  fraction : List Char

namespace Numeral

/-- The longest numeral at the start of a text, with the text after it. A point belongs to the numeral
only if a digit follows it. -/
def split (cs : List Char) : Numeral × List Char :=
  let whole := cs.takeWhile isDecimal
  let rest := cs.dropWhile isDecimal
  match rest with
  | '.' :: tail =>
    let fraction := tail.takeWhile isDecimal
    if fraction.isEmpty then (⟨whole, []⟩, rest) else (⟨whole, fraction⟩, tail.dropWhile isDecimal)
  | _ => (⟨whole, []⟩, rest)

def text (numeral : Numeral) : List Char :=
  if numeral.fraction.isEmpty then numeral.whole else numeral.whole ++ '.' :: numeral.fraction

def value (numeral : Numeral) : Float :=
  ofDecimal (decimalRun (numeral.whole ++ numeral.fraction)) (-(numeral.fraction.length : Int))

def ofText? (cs : List Char) : Option Numeral :=
  match split cs with
  | (numeral, []) => if numeral.whole.isEmpty then none else some numeral
  | _ => none

end Numeral

/-! ## Decimal numbers at the start of a text -/

/-- The magnitude of a decimal number: infinite, or an integer times a power of ten. -/
inductive Magnitude where
  | infinite
  | decimal (digits : Nat) (exponent : Int)

def Magnitude.value : Magnitude → Float
  | .infinite => infinity false
  | .decimal digits exponent => ofDecimal digits exponent

/-- A sign at the start of a text, true for a minus, with the text after it. -/
def splitSign : List Char → Bool × List Char
  | '+' :: rest => (false, rest)
  | '-' :: rest => (true, rest)
  | cs => (false, cs)

/-- An exponent at the start of a text, zero if there is none, with the text after it. The letter
belongs to the exponent only if digits follow, perhaps after a sign. -/
def splitExponent : List Char → Int × List Char
  | c :: rest =>
    if c = 'e' ∨ c = 'E' then
      let (negative, digits) := splitSign rest
      let run := digits.takeWhile isDecimal
      if run.isEmpty then (0, c :: rest)
      else
        let power : Int := decimalRun run
        (if negative then -power else power, digits.dropWhile isDecimal)
    else (0, c :: rest)
  | [] => (0, [])

def infinityWord : List Char :=
  "Infinity".toList

def splitMagnitude? (cs : List Char) : Option (Magnitude × List Char) :=
  if infinityWord.isPrefixOf cs then some (.infinite, cs.drop infinityWord.length)
  else
    let whole := cs.takeWhile isDecimal
    let rest := cs.dropWhile isDecimal
    if whole.isEmpty then
      match rest with
      | '.' :: tail =>
        let fraction := tail.takeWhile isDecimal
        if fraction.isEmpty then none
        else
          let (power, rest) := splitExponent (tail.dropWhile isDecimal)
          some (.decimal (decimalRun fraction) (power - fraction.length), rest)
      | _ => none
    else
      let (fraction, rest) :=
        match rest with
        | '.' :: tail => (tail.takeWhile isDecimal, tail.dropWhile isDecimal)
        | _ => ([], rest)
      let (power, rest) := splitExponent rest
      some (.decimal (decimalRun (whole ++ fraction)) (power - fraction.length), rest)

/-- The number at the start of a text, after white space; undefined if there is none. -/
def parseFloat (cs : List Char) : Float :=
  let (negative, rest) := splitSign (trimStart cs)
  match splitMagnitude? rest with
  | some (magnitude, _) => if negative then -magnitude.value else magnitude.value
  | none => notANumber

/-- The text without the underscores that each stand between two digits; nothing if one stands elsewhere.
`after` tells whether a digit stands before the text. -/
def joinDigits? (after : Bool) : List Char → Option (List Char)
  | [] => some []
  | c :: rest =>
    if c = '_' then
      match rest with
      | d :: _ => if after && isDecimal d then joinDigits? false rest else none
      | [] => none
    else (joinDigits? (isDecimal c) rest).map (c :: ·)

def magnitudeOfText? (cs : List Char) : Option Float :=
  let word := String.ofList (cs.map Char.toLower)
  if word = "nan" then some notANumber
  else if word = "inf" ∨ word = "infinity" then some (infinity false)
  else
    match (joinDigits? false cs).bind splitMagnitude? with
    | some (.decimal digits exponent, []) => some (ofDecimal digits exponent)
    | _ => none

/-- The character may stand around a number: it is white space, but no information separator. -/
def isMargin (c : Char) : Bool :=
  isBlank c && !(0x1c ≤ c.toNat && c.toNat ≤ 0x1f)

def withoutMargins (cs : List Char) : List Char :=
  ((cs.dropWhile isMargin).reverse.dropWhile isMargin).reverse

/-- The number that a whole text is, in the forms in which numbers are data: with white space around it, a
sign, and underscores between digits. -/
def ofText? (text : String) : Option Float :=
  let (negative, rest) := splitSign (withoutMargins text.toList)
  (magnitudeOfText? rest).map fun x => if negative then -x else x

/-! ## Integers at the start of a text -/

def radixDigit? (c : Char) : Option Nat :=
  if c.isDigit then some (c.toNat - 0x30)
  else if c.isLower then some (c.toNat - 0x61 + 10)
  else if c.isUpper then some (c.toNat - 0x41 + 10)
  else none

def isRadixDigit (radix : Nat) (c : Char) : Bool :=
  match radixDigit? c with
  | some digit => digit < radix
  | none => false

def radixRun (radix : Nat) (digits : List Char) : Nat :=
  digits.foldl (fun total c => radix * total + (radixDigit? c).getD 0) 0

def skipRadixMark (radix : Nat) (cs : List Char) : List Char :=
  match cs with
  | '0' :: c :: rest => if radix = 16 ∧ (c = 'x' ∨ c = 'X') then rest else cs
  | _ => cs

/-- The sign and the digits of the longest integer in a radix at the start of a text, after white
space, one sign and the mark of the radix. -/
def integerPrefix (radix : Nat) (cs : List Char) : Bool × List Char :=
  let (negative, rest) := splitSign (trim cs)
  (negative, (skipRadixMark radix rest).takeWhile (isRadixDigit radix))

def integerPrefix? (radix : Nat) (cs : List Char) : Option Int :=
  let (negative, digits) := integerPrefix radix cs
  if digits.isEmpty then none
  else
    let magnitude : Int := radixRun radix digits
    some (if negative then -magnitude else magnitude)

inductive IntegerFault where
  | tooManyDigits (count : Nat)
  | tooLarge
  deriving Repr, DecidableEq

def isBinaryRadix (radix : Nat) : Bool :=
  radix = 2 || radix = 4 || radix = 8 || radix = 16 || radix = 32

/-- The integer at the start of a text as a double; undefined if there is none or the radix is not
between 2 and 36. -/
def parseInt (cs : List Char) (radix : Int) : Except IntegerFault Float :=
  if radix < 2 ∨ 36 < radix then .ok notANumber
  else
    let base := radix.toNat
    let count := (integerPrefix base cs).2.length
    if digitLimit < count && !isBinaryRadix base then .error (.tooManyDigits count)
    else
      match integerPrefix? base cs with
      | none => .ok notANumber
      | some n =>
        let x := ofInteger n
        if isFinite x then .ok x else .error .tooLarge

end LineScript.Number
