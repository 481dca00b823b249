import LineScript.Text.Blank
import LineScript.Text.Casing
import LineScript.Yaml.Tag
import LineScript.Yaml.Word

/-!
# Texts with tags

A tag may say that a text is data of another kind than it is written like. Then it is read as that kind as far
as this is possible: numbers may have blanks around them and digits of any script, and booleans are words
without regard to case.
-/

namespace LineScript.Yaml

open LineScript.Config (Datum)

/-! ## Integers -/

def radixLetter? (radix : Nat) : Option Char :=
  if radix = 2 then some 'b' else if radix = 8 then some 'o' else if radix = 16 then some 'x' else none

def withoutMark (radix : Nat) : List Char → List Char
  | '0' :: letter :: rest =>
    if radixLetter? radix = some letter.toLower && !rest.isEmpty then rest else '0' :: letter :: rest
  | cs => cs

def asciiDigit (c : Char) : Char :=
  match Text.decimalValue? c with
  | some value => Char.ofNat (0x30 + value)
  | none => c

/-- The integer of a radix that a text stands for, with blanks around it and perhaps a sign. -/
def readInteger (radix : Nat) (cs : List Char) : Except Fault Int :=
  let (negative, rest) := Number.splitSign (Number.withoutMargins cs)
  let digits := withoutMark radix (rest.map asciiDigit)
  if digits.isEmpty || !digits.all (Number.isRadixDigit radix) then .error (.badInteger radix (String.ofList cs))
  else if radix = 10 ∧ Number.digitLimit < digits.length then .error (.tooManyDigits digits.length)
  else
    let magnitude : Int := Number.radixRun radix digits
    .ok (if negative then -magnitude else magnitude)

def readMagnitude (cs : List Char) : Except Fault Int :=
  match cs with
  | [] => .error .emptyNumber
  | ['0'] => .ok 0
  | '0' :: 'b' :: digits => readInteger 2 digits
  | '0' :: 'x' :: digits => readInteger 16 digits
  | '0' :: _ => readInteger 8 cs
  | _ =>
    if cs.contains ':' then do
      let parts ← (splitColons [] cs).mapM (readInteger 10)
      return parts.foldl (fun total part => 60 * total + part) 0
    else readInteger 10 cs

def taggedInteger (cs : List Char) : Except Fault Datum := do
  let (negative, rest) := Number.splitSign (withoutUnderscores cs)
  let magnitude ← readMagnitude rest
  return .integer (if negative then -magnitude else magnitude)

/-! ## Numbers with a point -/

def readNumber (cs : List Char) : Except Fault Float :=
  match Number.ofText? (String.ofList cs) with
  | some x => .ok x
  | none => .error (.badNumber (String.ofList cs))

def readParts (parts : List (List Char)) : Except Fault Float := do
  let numbers ← parts.mapM readNumber
  if greatestParts < parts.length then throw .tooManyParts
  return sixtySum numbers.reverse

def readPositive (cs : List Char) : Except Fault Float :=
  if cs.isEmpty then .error .emptyNumber
  else if cs = ".inf".toList then .ok (Number.infinity false)
  else if cs = ".nan".toList then .ok Number.notANumber
  else if cs.contains ':' then readParts (splitColons [] cs)
  else readNumber cs

def taggedNumber (cs : List Char) : Except Fault Datum := do
  let (negative, rest) := Number.splitSign (Text.toLower (withoutUnderscores cs))
  let x ← readPositive rest
  return .number (if negative then -x else x)

/-! ## Bytes -/

def digitOfSixtyFour? (c : Char) : Option Nat :=
  if 'A' ≤ c ∧ c ≤ 'Z' then some (c.toNat - 0x41)
  else if 'a' ≤ c ∧ c ≤ 'z' then some (c.toNat - 0x61 + 26)
  else if c.isDigit then some (c.toNat - 0x30 + 52)
  else if c = '+' then some 62
  else if c = '/' then some 63
  else none

/-- The bytes that digits of base 64 stand for, after a number of digits of the present four whose bits that
make no byte yet are given. Other characters do not count; equals signs fill the last four digits. -/
def bytesOfDigits (digits bits filled : Nat) : List Char → Except Fault (List UInt8)
  | [] => if digits = 0 then .ok [] else .error .badBytes
  | c :: rest =>
    if c = '=' then
      if 2 ≤ digits ∧ 4 ≤ digits + filled + 1 then .ok []
      else bytesOfDigits digits bits (filled + 1) rest
    else
      match digitOfSixtyFour? c with
      | none => bytesOfDigits digits bits filled rest
      | some value =>
        let all := bits * 64 + value
        if digits = 0 then bytesOfDigits 1 all 0 rest
        else
          let weight := if digits = 1 then 16 else if digits = 2 then 4 else 1
          (bytesOfDigits ((digits + 1) % 4) (all % weight) 0 rest).map (UInt8.ofNat (all / weight) :: ·)

def taggedBytes (cs : List Char) : Except Fault Datum :=
  if cs.all (fun c => c.toNat < 0x80) then (bytesOfDigits 0 0 0 cs).map Datum.bytes else .error .badBytes

/-! ## Any kind -/

def taggedBoolean (cs : List Char) : Except Fault Datum :=
  let word := Text.toLower cs
  if trueWords.contains word then .ok (.boolean true)
  else if falseWords.contains word then .ok (.boolean false)
  else .error .unknownBoolean

def taggedMoment (cs : List Char) : Except Fault Datum :=
  match anyMoment? cs with
  | some moment => momentDatum moment
  | none => .error .noMoment

def taggedDatum (tag : Tag) (cs : List Char) : Except Fault Datum :=
  match tag with
  | .null => .ok .null
  | .boolean => taggedBoolean cs
  | .integer => taggedInteger cs
  | .number => taggedNumber cs
  | .bytes => taggedBytes cs
  | .moment => taggedMoment cs
  | .text => .ok (.text (String.ofList cs))
  | .merge | .fallback => .error .reservedWord
  | .unknown => .error .unknownTag
  | .list | .mapping | .set | .pairs | .ordered => .error .wrongKind

end LineScript.Yaml
