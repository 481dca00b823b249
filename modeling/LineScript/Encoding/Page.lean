import LineScript.Encoding.Decoding

/-!
# Encodings with a byte for each character

A page lists the characters of the bytes.
-/

namespace LineScript.Encoding

structure Page where
  name : String
  aliases : List String
  /-- The characters of the last bytes. The bytes before them are the numbers of their characters. -/
  characters : List Char
  deriving Repr, DecidableEq

def missingCharacter : Char :=
  '\ufffe'

def Page.table (page : Page) : Array Char :=
  ((List.range (256 - page.characters.length)).map Char.ofNat ++ page.characters).toArray

def tableStep (table : Array Char) (first : UInt8) (_ : List UInt8) : DecodeStep :=
  match table[first.toNat]? with
  | some c =>
    if c = missingCharacter then .invalid 1 "character maps to <undefined>" else .characters [c] 1
  | none => .invalid 1 "character maps to <undefined>"

def Page.decode (page : Page) (bytes : List UInt8) : Except DecodeFault (List Char) :=
  decodeSteps "charmap" (tableStep page.table) bytes

def asciiStep (first : UInt8) (_ : List UInt8) : DecodeStep :=
  if first < 0x80 then .ofCode first.toNat 1 else .invalid 1 "ordinal not in range(128)"

def decodeAscii (bytes : List UInt8) : Except DecodeFault (List Char) :=
  decodeSteps "ascii" asciiStep bytes

def decodeLatin (bytes : List UInt8) : Except DecodeFault (List Char) :=
  .ok (bytes.map fun byte => Char.ofNat byte.toNat)

end LineScript.Encoding
