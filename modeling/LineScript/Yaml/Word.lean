import LineScript.Config.Datum
import LineScript.Number.Reading
import LineScript.Yaml.Fault
import LineScript.Yaml.Moment

/-!
# Plain words as data

A plain text stands for null, a boolean, an integer, a number with a point or a moment if it is written like one, and
else for itself, but for two words with a meaning of their own. Digits may be divided by underscores; parts divided by
colons are digits of base sixty.
-/

namespace LineScript.Yaml

open LineScript.Config (Datum)

/-! ## Digits -/

def orUnderscore (kind : Char → Bool) (c : Char) : Bool :=
  c = '_' || kind c

def withoutUnderscores (cs : List Char) : List Char :=
  cs.filter (· ≠ '_')

def splitColons (part : List Char) : List Char → List (List Char)
  | [] => [part.reverse]
  | c :: rest => if c = ':' then part.reverse :: splitColons [] rest else splitColons (c :: part) rest

def isSixtieth : List Char → Bool
  | [low] => low.isDigit
  | [high, low] => high.isDigit && high < '6' && low.isDigit
  | _ => false

/-- A run of digits that starts with a digit and goes on with digits and underscores. -/
def isDigitRun : List Char → Bool
  | [] => false
  | c :: rest => c.isDigit && rest.all (orUnderscore Char.isDigit)

/-! ## Integers -/

/-- The number that digits of a radix stand for, if there are any among the underscores. -/
def radixNumber? (radix : Nat) (cs : List Char) : Option Nat :=
  let digits := withoutUnderscores cs
  if digits.isEmpty || !digits.all (Number.isRadixDigit radix) then none
  else some (Number.radixRun radix digits)

def sixtyNumber? : List (List Char) → Option Nat
  | [] => none
  | first :: parts =>
    if isDigitRun first && first.head? != some '0' && parts.all isSixtieth then
      some ((first :: parts).foldl
        (fun total part => 60 * total + Number.radixRun 10 (withoutUnderscores part)) 0)
    else none

/-- The number that a text without a sign stands for: in base two after `0b`, sixteen after `0x`, eight
after another zero, and ten or sixty otherwise. -/
def natural? : List Char → Option Nat
  | ['0'] => some 0
  | '0' :: 'b' :: digits => radixNumber? 2 digits
  | '0' :: 'x' :: digits => radixNumber? 16 digits
  | '0' :: digits => radixNumber? 8 ('0' :: digits)
  | cs => sixtyNumber? (splitColons [] cs)

def integer? (cs : List Char) : Option Int :=
  let (negative, digits) := Number.splitSign cs
  (natural? digits).map fun (magnitude : Nat) =>
    if negative then -(magnitude : Int) else (magnitude : Int)

def bareRadix? (cs : List Char) : Option Nat :=
  match (Number.splitSign cs).2 with
  | '0' :: 'b' :: rest => if !rest.isEmpty && rest.all (· = '_') then some 2 else none
  | '0' :: 'x' :: rest => if !rest.isEmpty && rest.all (· = '_') then some 16 else none
  | _ => none

/-- The number of digits that are read in base ten: all of an integer without a mark, or those before its
first colon. -/
def decimalDigits (cs : List Char) : Nat :=
  match (Number.splitSign cs).2 with
  | '0' :: _ => 0
  | digits => (withoutUnderscores (digits.takeWhile (· ≠ ':'))).length

def integerDatum (cs : List Char) (value : Int) : Except Fault Datum :=
  if Number.digitLimit < decimalDigits cs then .error (.tooManyDigits (decimalDigits cs))
  else .ok (.integer value)

/-! ## Numbers with a point -/

def isExponent : List Char → Bool
  | [] => true
  | mark :: sign :: digits =>
    (mark = 'e' || mark = 'E') && (sign = '+' || sign = '-') && !digits.isEmpty && digits.all Char.isDigit
  | _ => false

/-- The text after the point of a number: digits and underscores, and perhaps an exponent. -/
def isFraction (cs : List Char) : Bool :=
  isExponent (cs.dropWhile (orUnderscore Char.isDigit))

def splitPoint? (cs : List Char) : Option (List Char × List Char) :=
  match cs.dropWhile (· ≠ '.') with
  | _ :: fraction => some (cs.takeWhile (· ≠ '.'), fraction)
  | [] => none

def decimal (cs : List Char) : Float :=
  (Number.ofText? (String.ofList (withoutUnderscores cs))).getD 0.0

def sixtySum (parts : List Float) : Float :=
  (parts.foldl (fun (total : Float × Nat) part =>
    (total.1 + part * Number.ofInteger (total.2 : Int), total.2 * 60)) (0.0, 1)).1

/-- The greatest number of parts of base sixty whose first one has a factor among the numbers. -/
def greatestParts : Nat :=
  174

/-- The number that parts of base sixty stand for, of which the last has a point. -/
def sixtyDecimal (parts : List (List Char)) : Float :=
  sixtySum (parts.reverse.map decimal)

def magnitude? (cs : List Char) : Option Float :=
  match splitPoint? cs with
  | none => none
  | some (whole, fraction) =>
    match splitColons [] whole with
    | [digits] => if isDigitRun digits && isFraction fraction then some (decimal cs) else none
    | first :: parts =>
      if isDigitRun first && parts.all isSixtieth && fraction.all (orUnderscore Char.isDigit) then
        some (sixtyDecimal (splitColons [] cs))
      else none
    | [] => none

/-- The number without digits before its point that a text stands for; it has no sign. -/
def bareFraction? : List Char → Option Float
  | '.' :: c :: rest => if c.isDigit && isFraction rest then some (decimal ('.' :: c :: rest)) else none
  | _ => none

def infinityWords : List (List Char) :=
  [".inf".toList, ".Inf".toList, ".INF".toList]

def undefinedWords : List (List Char) :=
  [".nan".toList, ".NaN".toList, ".NAN".toList]

def number? (cs : List Char) : Option Float :=
  let (negative, rest) := Number.splitSign cs
  if undefinedWords.contains cs then some Number.notANumber
  else if infinityWords.contains rest then some (Number.infinity negative)
  else
    match bareFraction? cs, magnitude? rest with
    | some x, _ => some x
    | none, some x => some (if negative then -x else x)
    | none, none => none

/-! ## Words -/

def nullWords : List (List Char) :=
  [[], "~".toList, "null".toList, "Null".toList, "NULL".toList]

def trueWords : List (List Char) :=
  ["yes", "Yes", "YES", "true", "True", "TRUE", "on", "On", "ON"].map String.toList

def falseWords : List (List Char) :=
  ["no", "No", "NO", "false", "False", "FALSE", "off", "Off", "OFF"].map String.toList

def fallbackWord : List Char :=
  "=".toList

def mergeWord : List Char :=
  "<<".toList

def momentDatum (moment : Calendar.Moment) : Except Fault Datum :=
  match moment.check with
  | .ok () => .ok (.moment moment)
  | .error reason => .error (.moment reason)

def numberDatum (cs : List Char) (value : Float) : Except Fault Datum :=
  if greatestParts < (splitColons [] cs).length then .error .tooManyParts else .ok (.number value)

def plainDatum (cs : List Char) : Except Fault Datum :=
  if nullWords.contains cs then .ok .null
  else if trueWords.contains cs then .ok (.boolean true)
  else if falseWords.contains cs then .ok (.boolean false)
  else if cs = fallbackWord ∨ cs = mergeWord then .error .reservedWord
  else
    match number? cs, integer? cs, bareRadix? cs, moment? cs with
    | some x, _, _, _ => numberDatum cs x
    | none, some n, _, _ => integerDatum cs n
    | none, none, some radix, _ => .error (.badInteger radix "")
    | none, none, none, some moment => momentDatum moment
    | none, none, none, none => .ok (.text (String.ofList cs))

end LineScript.Yaml
