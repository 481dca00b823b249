import LineScript.Number.Dyadic

/-!
# Shortest decimals

The shortest decimal that reads back as a given double. The reals that round to a double form an interval, whose ends
belong to it when the mantissa is even. For one digit, two digits and so on, the two neighbours of the value on the grid
of such decimals are tested against the interval.
-/

namespace LineScript.Number

structure Decimal where
  digits : Nat
  exponent : Int
  deriving Repr, DecidableEq

namespace Shortest

/-- The exponent of the leading decimal digit of `mantissa * 2 ^ exponent`, for a positive mantissa. -/
def leadingExponent (mantissa : Nat) (exponent : Int) : Int :=
  let atLeast (power : Int) : Bool :=
    tenTo power.toNat * twoTo (-exponent).toNat ≤ mantissa * twoTo exponent.toNat * tenTo (-power).toNat
  let guess := ((mantissa.log2 : Int) + exponent) * 30103 / 100000
  if !atLeast guess then guess - 1
  else if atLeast (guess + 1) then guess + 1
  else guess

/-- The decimal with `count` digits that reads back as the double, if there is one. The value and the
ends of its interval are taken four times, so that they are integers at the same power of two. -/
def withDigits? (mantissa : Nat) (exponent : Int) (leading : Int) (count : Nat) : Option Decimal :=
  let power := leading - (count : Int) + 1
  let scale := twoTo (exponent - 2).toNat * tenTo (-power).toNat
  let unit := twoTo (2 - exponent).toNat * tenTo power.toNat
  let gapBelow := if mantissa = twoTo 52 ∧ -1074 < exponent then 1 else 2
  let value := 4 * mantissa * scale
  let low := (4 * mantissa - gapBelow) * scale
  let high := (4 * mantissa + 2) * scale
  let inside (point : Nat) : Bool :=
    if mantissa % 2 = 0 then low ≤ point && point ≤ high else low < point && point < high
  let below := value / unit
  let above := below + 1
  match inside (below * unit), inside (above * unit) with
  | true, true =>
    let belowIsNearer :=
      if 2 * value = below * unit + above * unit then below % 2 = 0
      else 2 * value < below * unit + above * unit
    if belowIsNearer then some ⟨below, power⟩ else some ⟨above, power⟩
  | true, false => some ⟨below, power⟩
  | false, true => some ⟨above, power⟩
  | false, false => none

/-- The first decimal found with `count` digits or more, trying `attempts` further counts. -/
def search (mantissa : Nat) (exponent leading : Int) : Nat → Nat → Decimal
  | count, 0 =>
    (withDigits? mantissa exponent leading count).getD ⟨mantissa, exponent⟩
  | count, attempts + 1 =>
    match withDigits? mantissa exponent leading count with
    | some decimal => decimal
    | none => search mantissa exponent leading (count + 1) attempts

/-- The decimal without zeros at its end, taking off at most `attempts` of them. -/
def strip : Nat → Decimal → Decimal
  | 0, decimal => decimal
  | attempts + 1, decimal =>
    if decimal.digits % 10 = 0 then strip attempts ⟨decimal.digits / 10, decimal.exponent + 1⟩
    else decimal

end Shortest

/-- The shortest decimal that reads back as the magnitude of a finite double other than zero.
Seventeen digits always suffice. -/
def Dyadic.shortest (d : Dyadic) : Decimal :=
  Shortest.strip 18
    (Shortest.search d.mantissa d.exponent (Shortest.leadingExponent d.mantissa d.exponent) 1 16)

end LineScript.Number
