import LineScript.Text.Letter

/-!
# Digits and word characters

Three classes of the Unicode standard nest: decimal digits, which have a value from zero to nine and
come in runs of ten, characters with a digit value (superscripts among them), and characters with any
numeric value. A word character is a letter, a character with a numeric value, or an underscore.
-/

namespace LineScript.Text

/-- The zeros of the runs of ten decimal digits beyond ASCII. -/
def decimalZeros : List Nat := [
  0x660, 0x6f0, 0x7c0, 0x966, 0x9e6, 0xa66, 0xae6, 0xb66, 0xbe6, 0xc66, 0xce6, 0xd66, 0xde6,
  0xe50, 0xed0, 0xf20, 0x1040, 0x1090, 0x17e0, 0x1810, 0x1946, 0x19d0, 0x1a80, 0x1a90, 0x1b50,
  0x1bb0, 0x1c40, 0x1c50, 0xa620, 0xa8d0, 0xa900, 0xa9d0, 0xa9f0, 0xaa50, 0xabf0, 0xff10, 0x104a0,
  0x10d30, 0x11066, 0x110f0, 0x11136, 0x111d0, 0x112f0, 0x11450, 0x114d0, 0x11650, 0x116c0,
  0x11730, 0x118e0, 0x11950, 0x11c50, 0x11d50, 0x11da0, 0x16a60, 0x16ac0, 0x16b50, 0x1d7ce,
  0x1d7d8, 0x1d7e2, 0x1d7ec, 0x1d7f6, 0x1e140, 0x1e2f0, 0x1e950, 0x1fbf0]

def digitTable : Array Span := Span.table [
  178, 2, 5, 1, 4783, 9, 1640, 1, 1685, 1, 3, 6, 6, 10, 982, 9, 11, 9, 11, 9, 89, 1, 10, 9, 1, 1, 630, 9, 1, 9,
  1, 9, 58029, 4, 1052, 9, 489, 9, 57509, 11]

/-- The characters with a numeric value that are neither letters nor digits. -/
def numericTable : Array Span := Span.table [
  188, 3, 2357, 6, 376, 6, 120, 3, 133, 7, 217, 7, 17, 9, 433, 10, 1086, 11, 881, 3, 255, 10, 2390, 51, 2, 5,
  735, 11, 9, 11, 9, 11, 79, 10, 9, 1, 640, 1, 9, 1, 9, 1, 1385, 1, 777, 1, 25, 9, 14, 3, 343, 4, 138, 10, 30,
  8, 1, 15, 32, 10, 39, 15, 29734, 10, 320, 6, 22737, 45, 12, 57, 17, 2, 341, 27, 36, 4, 29, 1, 8, 1, 134, 5,
  1154, 8, 25, 7, 39, 9, 75, 5, 22, 6, 160, 2, 2, 16, 2, 46, 68, 5, 52, 2, 30, 3, 75, 5, 104, 8, 24, 8, 41, 7,
  330, 6, 361, 22, 158, 10, 42, 4, 112, 7, 143, 11, 379, 20, 1349, 2, 430, 9, 871, 19, 851, 21, 1067, 111,
  18156, 7, 798, 23, 25673, 20, 108, 25, 5454, 9, 929, 59, 1, 3, 1, 4, 76, 45, 1, 15, 973, 2]

def decimalValue? (c : Char) : Option Nat :=
  if c.isDigit then some (c.toNat - 0x30)
  else if c.toNat < 0x80 then none
  else (decimalZeros.find? fun base => base ≤ c.toNat && c.toNat < base + 10).map fun base =>
    c.toNat - base

def isDecimal (c : Char) : Bool :=
  (decimalValue? c).isSome

def isDigitLike (c : Char) : Bool :=
  isDecimal c || (0x80 ≤ c.toNat && Span.covers digitTable c.toNat)

def isAlphanumeric (c : Char) : Bool :=
  if c.toNat < 0x80 then c.isAlphanum
  else isLetter c || isDigitLike c || Span.covers numericTable c.toNat

def isWord (c : Char) : Bool :=
  isAlphanumeric c || c == '_'

end LineScript.Text
