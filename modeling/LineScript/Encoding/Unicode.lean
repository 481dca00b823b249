import LineScript.Encoding.Decoding

/-!
# Encodings of all characters

A character takes one to four bytes, or one or two units of two bytes, or one unit of four bytes. Units have an order of
bytes, which a mark at the start may tell.
-/

namespace LineScript.Encoding

inductive ByteOrder where
  | little
  | big
  deriving Repr, DecidableEq

def ByteOrder.suffix : ByteOrder → String
  | .little => "-le"
  | .big => "-be"

def ByteOrder.number : ByteOrder → List UInt8 → Nat
  | .little, bytes => bytes.foldr (fun byte total => byte.toNat + 256 * total) 0
  | .big, bytes => bytes.foldl (fun total byte => 256 * total + byte.toNat) 0

/-! ## Bytes -/

def isContinuation (byte : UInt8) : Bool :=
  0x80 ≤ byte && byte ≤ 0xbf

def badStart : String :=
  "invalid start byte"

def badContinuation : String :=
  "invalid continuation byte"

def cutOff : String :=
  "unexpected end of data"

def addBits (code : Nat) (byte : UInt8) : Nat :=
  code * 64 + (byte.toNat - 0x80)

/-- The range of the second byte of a character, by its first byte. -/
def secondRange (first : UInt8) : UInt8 × UInt8 :=
  if first = 0xe0 then (0xa0, 0xbf)
  else if first = 0xed then (0x80, 0x9f)
  else if first = 0xf0 then (0x90, 0xbf)
  else if first = 0xf4 then (0x80, 0x8f)
  else (0x80, 0xbf)

/-- The rest of a character of `missing` more bytes, of which `taken` bytes gave `code`. -/
def continueStep (code taken : Nat) : Nat → List UInt8 → DecodeStep
  | 0, _ => .ofCode code taken
  | _ + 1, [] => .invalid taken cutOff
  | missing + 1, byte :: rest =>
    if isContinuation byte then continueStep (addBits code byte) (taken + 1) missing rest
    else .invalid taken badContinuation

def multiByteStep (first : UInt8) (code missing : Nat) : List UInt8 → DecodeStep
  | [] => .invalid 1 cutOff
  | byte :: rest =>
    let (low, high) := secondRange first
    if low ≤ byte && byte ≤ high then continueStep (addBits code byte) 2 (missing - 1) rest
    else .invalid 1 badContinuation

def utf8Step (first : UInt8) (rest : List UInt8) : DecodeStep :=
  if first < 0x80 then .ofCode first.toNat 1
  else if first < 0xc2 then .invalid 1 badStart
  else if first < 0xe0 then multiByteStep first (first.toNat - 0xc0) 1 rest
  else if first < 0xf0 then multiByteStep first (first.toNat - 0xe0) 2 rest
  else if first < 0xf5 then multiByteStep first (first.toNat - 0xf0) 3 rest
  else .invalid 1 badStart

def decodeUtf8 (bytes : List UInt8) : Except DecodeFault (List Char) :=
  decodeSteps "utf-8" utf8Step bytes

/-- The characters of bytes without a mark at the start. A part of the mark alone is no text either. -/
def decodeMarkedUtf8 : List UInt8 → Except DecodeFault (List Char)
  | [0xef] | [0xef, 0xbb] => .ok []
  | 0xef :: 0xbb :: 0xbf :: rest => decodeUtf8 rest
  | bytes => decodeUtf8 bytes

/-! ## Units of two bytes -/

def utf16Step (order : ByteOrder) (first : UInt8) : List UInt8 → DecodeStep
  | [] => .invalid 1 "truncated data"
  | second :: rest =>
    let high := order.number [first, second]
    if high < 0xd800 ∨ 0xe000 ≤ high then .ofCode high 2
    else if 0xdc00 ≤ high then .invalid 2 "illegal encoding"
    else
      match rest with
      | third :: fourth :: _ =>
        let low := order.number [third, fourth]
        if 0xdc00 ≤ low ∧ low < 0xe000 then
          .ofCode (0x10000 + (high - 0xd800) * 0x400 + (low - 0xdc00)) 4
        else .invalid 2 "illegal UTF-16 surrogate"
      | rest => .invalid (2 + rest.length) cutOff

/-! ## Units of four bytes -/

def utf32Step (order : ByteOrder) (first : UInt8) : List UInt8 → DecodeStep
  | second :: third :: fourth :: _ =>
    let code := order.number [first, second, third, fourth]
    if 0xd800 ≤ code ∧ code < 0xe000 then
      .invalid 4 "code point in surrogate code point range(0xd800, 0xe000)"
    else if 0x110000 ≤ code then .invalid 4 "code point not in range(0x110000)"
    else .ofCode code 4
  | rest => .invalid (1 + rest.length) "truncated data"

/-! ## Marks -/

section

variable (bits : Nat) (step : ByteOrder → UInt8 → List UInt8 → DecodeStep)

def decodeUnits (order : ByteOrder) (mark : Nat) (bytes : List UInt8) : Except DecodeFault (List Char) :=
  decodeAfter ("utf-" ++ Number.digitsOf bits ++ order.suffix) (step order) mark bytes

def decodeMarkedUnits (bytes : List UInt8) : Except DecodeFault (List Char) :=
  let size := bits / 8
  let zeros := List.replicate (size - 2) 0
  if bytes.take size = 0xff :: 0xfe :: zeros then decodeUnits bits step .little size (bytes.drop size)
  else if bytes.take size = zeros ++ [0xfe, 0xff] then decodeUnits bits step .big size (bytes.drop size)
  else do
    let cs ← decodeUnits bits step .little 0 bytes
    if bytes.isEmpty then return cs else throw (.noMark bits)

end

end LineScript.Encoding
