import LineScript.Number.Dyadic
import LineScript.Text.Form

/-!
# Forms of integers

An integer is written in base two, eight, ten or sixteen, as the character of its number, or as the double nearest to
it, with or without an exponent. Its digits may be divided into groups.
-/

namespace LineScript.Text

open LineScript.Number (digitsOf tenTo)

/-! ## Digits -/

/-- The digits of a number, lowest first, in groups of a size with a separator between them. There are at least as
many characters as `least`. -/
def groupDigits (size : Nat) (separator : Char) : Nat → Nat → List Char → List Char
  | 0, _, digits => digits
  | fuel + 1, least, digits =>
    let count := min size (max 1 (max digits.length least))
    let group := digits.take count ++ List.replicate (count - digits.length) '0'
    let rest := digits.drop count
    if rest.isEmpty && least ≤ count then group
    else group ++ separator :: groupDigits size separator fuel (least - count - 1) rest

/-- Digits with at least as many characters as `least`: in groups if there is a separator. -/
def spreadDigits (size : Nat) (separator : Option Char) (least : Nat) (digits : List Char) : List Char :=
  match separator with
  | some separator =>
    (groupDigits size separator (digits.length + least + 1) least digits.reverse).reverse
  | none => List.replicate (least - digits.length) '0' ++ digits

/-! ## Numbers in their width -/

/-- A number that is not negative, cut for its form: what stands before its digits, the digits that can be
grouped, and what stands behind them. -/
structure NumberParts where
  mark : List Char
  digits : List Char
  rest : List Char

def Form.signText (form : Form) : List Char :=
  match form.sign with
  | some '-' | none => []
  | some sign => [sign]

def Form.groupSize (form : Form) : Nat :=
  if ['b', 'o', 'x', 'X'].contains form.type then 4 else 3

def Form.applyNumber (form : Form) (number : NumberParts) : List Char :=
  let sign := form.signText
  let around := sign.length + number.mark.length + number.rest.length
  let least := if form.fill = '0' && form.align = .afterSign then form.width - around else 0
  let digits :=
    if number.digits.isEmpty then []
    else spreadDigits form.groupSize form.separator least number.digits
  let room := form.width - (around + digits.length)
  let fill (count : Nat) : List Char := List.replicate count form.fill
  match form.align with
  | .left => sign ++ number.mark ++ digits ++ number.rest ++ fill room
  | .right => fill room ++ sign ++ number.mark ++ digits ++ number.rest
  | .center => fill (room / 2) ++ sign ++ number.mark ++ digits ++ number.rest ++ fill (room - room / 2)
  | .afterSign => sign ++ number.mark ++ fill room ++ digits ++ number.rest

/-! ## Bases -/

def baseDigits (base value : Nat) : List Char :=
  Nat.toDigits base value

def Form.baseParts (form : Form) (value : Nat) : NumberParts :=
  let mark (letter : Char) : List Char := if form.alternate then ['0', letter] else []
  match form.type with
  | 'b' => ⟨mark 'b', baseDigits 2 value, []⟩
  | 'o' => ⟨mark 'o', baseDigits 8 value, []⟩
  | 'x' => ⟨mark 'x', baseDigits 16 value, []⟩
  | 'X' => ⟨mark 'X', (baseDigits 16 value).map Char.toUpper, []⟩
  | _ => ⟨[], baseDigits 10 value, []⟩

def characterParts (value : Nat) : Except TemplateFault NumberParts :=
  if value < 0x110000 then .ok ⟨[], [], [Char.ofNat value]⟩ else .error .noCharacter

def Form.integerParts (form : Form) (value : Nat) : Except TemplateFault NumberParts :=
  if form.precision.isSome then .error .integerPrecision
  else if form.zeroSign then .error .integerZeroSign
  else if form.type = 'c' then
    if form.sign.isSome then .error .characterSign
    else if form.alternate then .error .characterAlternate
    else characterParts value
  else .ok (form.baseParts value)

/-! ## Points and exponents -/

def doubleOf (value : Nat) : Nat :=
  ((Number.truncate? (Number.nearest value 1)).getD 0).toNat

/-- A point and the digits behind it. A point alone is written only if asked for. -/
def fractionText (keepPoint : Bool) (digits : List Char) : List Char :=
  if digits.isEmpty && !keepPoint then [] else '.' :: digits

def fixedParts (keepPoint : Bool) (precision value : Nat) : NumberParts :=
  ⟨[], baseDigits 10 value, fractionText keepPoint (List.replicate precision '0')⟩

/-- A number as so many digits times a power of ten. A number half-way between two such goes to the even one. -/
def significant (count value : Nat) : Nat × Nat :=
  let length := (baseDigits 10 value).length
  if value = 0 then (0, 0)
  else if length ≤ count then (value * tenTo (count - length), length - 1)
  else
    let unit := tenTo (length - count)
    let below := value / unit
    let excess := 2 * (value % unit)
    let rounded := if unit < excess || (excess = unit && below % 2 = 1) then below + 1 else below
    if rounded = tenTo count then (tenTo (count - 1), length) else (rounded, length - 1)

def exponentText (letter : Char) (exponent : Nat) : List Char :=
  let digits := baseDigits 10 exponent
  letter :: '+' :: (List.replicate (2 - digits.length) '0' ++ digits)

def exponentParts (letter : Char) (keepPoint : Bool) (digits : List Char) (exponent : Nat) : NumberParts :=
  ⟨[], digits.take 1, fractionText keepPoint (digits.drop 1) ++ exponentText letter exponent⟩

def filledDigits (count value : Nat) : List Char :=
  let digits := baseDigits 10 value
  List.replicate (count - digits.length) '0' ++ digits

def withoutZeros (digits : List Char) : List Char :=
  (digits.reverse.dropWhile (· = '0')).reverse

/-- The parts of a number with at most so many digits that count, with an exponent if it is great. -/
def generalParts (letter : Char) (alternate : Bool) (precision value : Nat) : NumberParts :=
  let count := max 1 precision
  let (digits, exponent) := significant count value
  let digits := filledDigits count digits
  let trimmed (cs : List Char) : List Char := if alternate then cs else withoutZeros cs
  if exponent < count then
    ⟨[], digits.take (exponent + 1), fractionText alternate (trimmed (digits.drop (exponent + 1)))⟩
  else exponentParts letter alternate (digits.take 1 ++ trimmed (digits.drop 1)) exponent

def greatestPrecision : Nat :=
  2147483647

def Form.doubleParts (form : Form) (value : Nat) : Except TemplateFault NumberParts :=
  let precision := form.precision.getD 6
  let double := doubleOf value
  let withExponent (letter : Char) : NumberParts :=
    let (digits, exponent) := significant (precision + 1) double
    exponentParts letter form.alternate (filledDigits (precision + 1) digits) exponent
  if greatestPrecision < precision then .error .greatPrecision
  else
    match form.type with
    | 'e' => .ok (withExponent 'e')
    | 'E' => .ok (withExponent 'E')
    | 'g' => .ok (generalParts 'e' form.alternate precision double)
    | 'G' => .ok (generalParts 'E' form.alternate precision double)
    | '%' =>
      let parts := fixedParts form.alternate precision (doubleOf (double * 100))
      .ok { parts with rest := parts.rest ++ ['%'] }
    | _ => .ok (fixedParts form.alternate precision double)

/-! ## Integers -/

def integerTypes : List Char :=
  ['b', 'c', 'd', 'o', 'x', 'X', 'n']

def doubleTypes : List Char :=
  ['e', 'E', 'f', 'F', 'g', 'G', '%']

def formInteger (kind : String) (form : List Char) (value : Nat) : Except TemplateFault (List Char) := do
  let form ← Form.ofText ⟨'d', .right, kind⟩ form
  if integerTypes.contains form.type then return form.applyNumber (← form.integerParts value)
  else if doubleTypes.contains form.type then return form.applyNumber (← form.doubleParts value)
  else throw (.unknownType form.type kind)

end LineScript.Text
