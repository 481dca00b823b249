import LineScript.Number.Power

/-!
# Finite doubles as dyadic numbers

A finite double is an integer times a power of two. The two parts are read off the bits, and truncation to an integer,
the test for an integral value, and the remainder of a division that truncates are exact on them. In the other
direction, `nearest` rounds a quotient of integers to a double.
-/

namespace LineScript.Number

structure Dyadic where
  negative : Bool
  mantissa : Nat
  exponent : Int
  deriving Repr, DecidableEq

inductive Reading where
  | notANumber
  | infinite (negative : Bool)
  | finite (number : Dyadic)
  deriving Repr, DecidableEq

/-- The value of a double, read off its sign, exponent and fraction bits. -/
def Reading.ofFloat (x : Float) : Reading :=
  let bits := x.toBits.toNat
  let negative := bits / twoTo 63 == 1
  let field : Nat := bits / twoTo 52 % twoTo 11
  let fraction : Nat := bits % twoTo 52
  if field = 2047 then
    if fraction = 0 then .infinite negative else .notANumber
  else if field = 0 then .finite ⟨negative, fraction, -1074⟩
  else .finite ⟨negative, twoTo 52 + fraction, (field : Int) - 1075⟩

def notANumber : Float :=
  0.0 / 0.0

def infinity (negative : Bool) : Float :=
  if negative then -1.0 / 0.0 else 1.0 / 0.0

/-- The double nearest to a quotient. Half-way between two doubles it is the one with the even mantissa, which gets 53 bits
unless the exponent would fall below the least one. -/
def nearest (numerator denominator : Nat) : Float :=
  if numerator = 0 then 0.0
  else
    let estimate := (numerator.log2 : Int) - denominator.log2 - 52
    let full := denominator * twoTo (estimate + 52).toNat ≤ numerator * twoTo (-(estimate + 52)).toNat
    let exponent := max (if full then estimate else estimate - 1) (-1074)
    let scaled := numerator * twoTo (-exponent).toNat
    let unit := denominator * twoTo exponent.toNat
    let below := scaled / unit
    let excess := 2 * (scaled % unit)
    let mantissa := if unit < excess ∨ (excess = unit ∧ below % 2 = 1) then below + 1 else below
    let bits := (exponent + 1074).toNat * twoTo 52 + mantissa
    if 2047 * twoTo 52 ≤ bits then infinity false else Float.ofBits (UInt64.ofNat bits)

def ofInteger (n : Int) : Float :=
  if n < 0 then -nearest n.natAbs 1 else nearest n.natAbs 1

namespace Dyadic

def truncatedMagnitude (d : Dyadic) : Nat :=
  if 0 ≤ d.exponent then d.mantissa * twoTo d.exponent.toNat else d.mantissa / twoTo (-d.exponent).toNat

def truncate (d : Dyadic) : Int :=
  if d.negative then -(d.truncatedMagnitude : Int) else d.truncatedMagnitude

def isIntegral (d : Dyadic) : Bool :=
  0 ≤ d.exponent || d.mantissa % twoTo (-d.exponent).toNat == 0

/-- The double nearest to the number; it is exact whenever the number is a double. -/
def toFloat (d : Dyadic) : Float :=
  let magnitude := nearest (d.mantissa * twoTo d.exponent.toNat) (twoTo (-d.exponent).toNat)
  if d.negative then -magnitude else magnitude

/-- The remainder of dividing by a number other than zero, with the sign of the dividend. -/
def remainder (dividend divisor : Dyadic) : Dyadic :=
  let exponent := min dividend.exponent divisor.exponent
  let left := dividend.mantissa * twoTo (dividend.exponent - exponent).toNat
  let right := divisor.mantissa * twoTo (divisor.exponent - exponent).toNat
  ⟨dividend.negative, left % right, exponent⟩

end Dyadic

def isFinite (x : Float) : Bool :=
  match Reading.ofFloat x with
  | .finite _ => true
  | _ => false

def isNotANumber (x : Float) : Bool :=
  match Reading.ofFloat x with
  | .notANumber => true
  | _ => false

def isInteger (x : Float) : Bool :=
  match Reading.ofFloat x with
  | .finite d => d.isIntegral
  | _ => false

def truncate? (x : Float) : Option Int :=
  match Reading.ofFloat x with
  | .finite d => some d.truncate
  | _ => none

/-- The remainder of a division that truncates. -/
def modulo (left right : Float) : Float :=
  match Reading.ofFloat left, Reading.ofFloat right with
  | .finite a, .finite b => if b.mantissa = 0 then notANumber else (a.remainder b).toFloat
  | .finite _, .infinite _ => left
  | _, _ => notANumber

end LineScript.Number
