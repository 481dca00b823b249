import LineScript.Number.Shortest

/-!
# Written numbers

The text of a number. Printing writes an integral value with all its digits and any other value as its
shortest decimal. The exact form, used where a number is shown as data, marks an integral value with
`.0` and keeps the sign of zero.
-/

namespace LineScript.Number

/-- How a decimal is laid out: the positions of the point that are written without an exponent, and
the least number of digits of an exponent. -/
structure Layout where
  leastPoint : Int
  greatestPoint : Int
  exponentWidth : Nat

/-- Values from `0.0001` up to below `10^16` have no exponent, and an exponent has two digits. -/
def plainLayout : Layout :=
  ⟨-3, 16, 2⟩

def digitsOf (n : Nat) : String :=
  String.ofList (Nat.toDigits 10 n)

def integerText (n : Int) : String :=
  if n < 0 then "-" ++ digitsOf n.natAbs else digitsOf n.natAbs

def zeroPadded (width : Nat) (text : String) : String :=
  String.ofList (List.replicate (width - text.length) '0') ++ text

/-- A positive decimal in a layout, with `.0` after an integral value that has no exponent. -/
def Layout.write (layout : Layout) (decimal : Decimal) : String :=
  let digits := Nat.toDigits 10 decimal.digits
  let point := (digits.length : Int) + decimal.exponent
  if layout.leastPoint ≤ point ∧ point ≤ layout.greatestPoint then
    if point ≤ 0 then
      "0." ++ String.ofList (List.replicate (-point).toNat '0' ++ digits)
    else
      let whole := digits.take point.toNat ++ List.replicate (point.toNat - digits.length) '0'
      let fraction := digits.drop point.toNat
      String.ofList whole ++ "." ++ (if fraction.isEmpty then "0" else String.ofList fraction)
  else
    let power := point - 1
    let fraction := digits.drop 1
    let mantissa :=
      String.ofList (digits.take 1) ++ (if fraction.isEmpty then "" else "." ++ String.ofList fraction)
    mantissa ++ (if power < 0 then "e-" else "e+") ++
      zeroPadded layout.exponentWidth (digitsOf power.natAbs)

def Dyadic.plainText (d : Dyadic) : String :=
  if d.mantissa = 0 then "0.0" else plainLayout.write d.shortest

def written (x : Float) : String :=
  match Reading.ofFloat x with
  | .notANumber => "NaN"
  | .infinite negative => if negative then "-Infinity" else "Infinity"
  | .finite d =>
    if d.isIntegral then integerText d.truncate
    else (if d.negative then "-" else "") ++ d.plainText

def exactText (x : Float) : String :=
  match Reading.ofFloat x with
  | .notANumber => "nan"
  | .infinite negative => if negative then "-inf" else "inf"
  | .finite d => (if d.negative then "-" else "") ++ d.plainText

end LineScript.Number
