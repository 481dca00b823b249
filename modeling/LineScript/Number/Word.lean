import LineScript.Number.Dyadic

/-!
# 32-bit words

The bit operators of the language work on words of 32 bits in two's complement. A number enters as its
integer part modulo `2 ^ 32`, where an infinite or undefined number counts as zero, and a word leaves as
its signed value. Shifts take the low five bits of the right operand.
-/

namespace LineScript.Number

abbrev Word := BitVec 32

namespace Word

/-- The integer part of a number, modulo `2 ^ 32`. -/
def ofFloat (x : Float) : Word :=
  BitVec.ofInt 32 ((truncate? x).getD 0)

def toFloat (w : Word) : Float :=
  ofInteger w.toInt

def shiftAmount (w : Word) : Nat :=
  w.toNat % 32

def shiftLeft (left right : Word) : Word :=
  left <<< right.shiftAmount

def shiftRight (left right : Word) : Word :=
  left.sshiftRight right.shiftAmount

end Word

end LineScript.Number
