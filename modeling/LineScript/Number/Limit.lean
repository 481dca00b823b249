import LineScript.Number.Written

/-!
# The limit of digits

Integers of very many digits are neither read nor written, but in a radix that is a power of two.
-/

namespace LineScript.Number

/-- The greatest number of digits that are converted in a radix that is not a power of two. -/
def digitLimit : Nat :=
  4300

def isTooLong (n : Int) : Bool :=
  tenTo digitLimit ≤ n.natAbs

def tooLongText : String :=
  "Exceeds the limit (" ++ digitsOf digitLimit ++ " digits) for integer string conversion; use " ++
    "sys.set_int_max_str_digits() to increase the limit"

def tooManyDigitsText (count : Nat) : String :=
  "Exceeds the limit (" ++ digitsOf digitLimit ++ " digits) for integer string conversion: value has " ++
    digitsOf count ++ " digits; use sys.set_int_max_str_digits() to increase the limit"

end LineScript.Number
