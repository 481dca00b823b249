import LineScript.CharacterName.Basic
import LineScript.Encoding.Decoding
import LineScript.Number.Reading

/-!
# Text with escapes

Bytes are the numbers of their characters, but for a backslash: it starts an escape. In the full form escapes are
letters for control characters, octal and hexadecimal numbers, and names; in the raw form only hexadecimal numbers of
four or eight digits.
-/

namespace LineScript.Encoding

def byteCharacter (byte : UInt8) : Char :=
  Char.ofNat byte.toNat

/-- The number of a hexadecimal escape of `missing` more digits, of which `size` bytes gave `code`. -/
def hexStep (code size : Nat) (reason tooLarge : String) : Nat → List UInt8 → DecodeStep
  | 0, _ => if 0x110000 ≤ code then .invalid size tooLarge else .ofCode code size
  | _ + 1, [] => .invalid size reason
  | missing + 1, byte :: rest =>
    if Number.isRadixDigit 16 (byteCharacter byte) then
      hexStep (code * 16 + (Number.radixDigit? (byteCharacter byte)).getD 0) (size + 1) reason tooLarge
        missing rest
    else .invalid size reason

def shortEscape (letter : Char) (digits : Nat) : String :=
  "truncated \\" ++ String.singleton letter ++ String.ofList (List.replicate digits 'X') ++ " escape"

def hexEscape (letter : Char) (digits : Nat) (tooLarge : String) (rest : List UInt8) : DecodeStep :=
  hexStep 0 2 (shortEscape letter digits) tooLarge digits rest

/-! ## The full form -/

def letterEscape? : Char → Option Char
  | '\\' => some '\\'
  | '\'' => some '\''
  | '"' => some '"'
  | 'b' => some '\x08'
  | 'f' => some '\x0c'
  | 't' => some '\t'
  | 'n' => some '\n'
  | 'r' => some '\r'
  | 'v' => some '\x0b'
  | 'a' => some '\x07'
  | _ => none

def isOctal (byte : UInt8) : Bool :=
  0x30 ≤ byte && byte ≤ 0x37

def octalEscape (digits : List UInt8) : DecodeStep :=
  .ofCode (digits.foldl (fun total digit => 8 * total + (digit.toNat - 0x30)) 0) (1 + digits.length)

def nameEscape : List UInt8 → DecodeStep
  | 0x7b :: rest =>
    let name := rest.takeWhile (· ≠ 0x7d)
    if name.length = rest.length then .invalid (3 + name.length) "malformed \\N character escape"
    else if name.isEmpty then .invalid 3 "malformed \\N character escape"
    else
      match CharacterName.find? (name.map byteCharacter) with
      | some c => .characters [c] (4 + name.length)
      | none => .invalid (4 + name.length) "unknown Unicode character name"
  | _ => .invalid 2 "malformed \\N character escape"

def escapeStep : List UInt8 → DecodeStep
  | [] => .invalid 1 "\\ at end of string"
  | byte :: rest =>
    let letter := byteCharacter byte
    let tooLarge := "illegal Unicode character"
    match letterEscape? letter with
    | some c => .characters [c] 2
    | none =>
      if letter = '\n' then .characters [] 2
      else if isOctal byte then octalEscape (((byte :: rest).take 3).takeWhile isOctal)
      else if letter = 'x' then hexEscape 'x' 2 tooLarge rest
      else if letter = 'u' then hexEscape 'u' 4 tooLarge rest
      else if letter = 'U' then hexEscape 'U' 8 tooLarge rest
      else if letter = 'N' then nameEscape rest
      else .characters ['\\', letter] 2

/-! ## The raw form -/

def rawEscapeStep : List UInt8 → DecodeStep
  | [] => .characters ['\\'] 1
  | byte :: rest =>
    let letter := byteCharacter byte
    let tooLarge := "\\Uxxxxxxxx out of range"
    if letter = 'u' then hexEscape 'u' 4 tooLarge rest
    else if letter = 'U' then hexEscape 'U' 8 tooLarge rest
    else .characters ['\\', letter] 2

/-! ## Both forms -/

def decodeEscapes (label : String) (step : List UInt8 → DecodeStep) (bytes : List UInt8) :
    Except DecodeFault (List Char) :=
  decodeSteps label (fun first rest => if first = 0x5c then step rest else .characters [byteCharacter first] 1) bytes

end LineScript.Encoding
