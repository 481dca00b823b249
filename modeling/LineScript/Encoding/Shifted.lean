import LineScript.Encoding.Decoding

/-!
# Text in seven bits

ASCII characters stand for themselves. Between a plus and the first character that is no digit of base 64, the digits
are the bits of units of sixteen bits. A minus after the digits only ends them, and a plus before a minus is a plus.
-/

namespace LineScript.Encoding

def sixBits? (byte : UInt8) : Option Nat :=
  let n := byte.toNat
  if 0x41 ≤ n ∧ n ≤ 0x5a then some (n - 0x41)
  else if 0x61 ≤ n ∧ n ≤ 0x7a then some (n - 0x61 + 26)
  else if 0x30 ≤ n ∧ n ≤ 0x39 then some (n - 0x30 + 52)
  else if n = 0x2b then some 62
  else if n = 0x2f then some 63
  else none

/-- What digits of base 64 gave so far: the bits that make no unit yet and their number, and the first half
of a pair of units. -/
structure ShiftState where
  bits : Nat
  count : Nat
  half : Option Nat

def takeUnit (half : Option Nat) (unit : Nat) : List Char × Option Nat :=
  let alone : List Char × Option Nat :=
    if 0xd800 ≤ unit ∧ unit < 0xdc00 then ([], some unit) else ([Char.ofNat unit], none)
  match half with
  | none => alone
  | some high =>
    if 0xdc00 ≤ unit ∧ unit < 0xe000 then
      ([Char.ofNat (0x10000 + (high - 0xd800) * 0x400 + (unit - 0xdc00))], none)
    else (Char.ofNat high :: alone.1, alone.2)

def ShiftState.push (state : ShiftState) (digit : Nat) : List Char × ShiftState :=
  let bits := state.bits * 64 + digit
  let count := state.count + 6
  if 16 ≤ count then
    let weight := Nat.shiftLeft 1 (count - 16)
    let (cs, half) := takeUnit state.half (bits / weight)
    (cs, ⟨bits % weight, count - 16, half⟩)
  else ([], ⟨bits, count, state.half⟩)

def ShiftState.fault? (state : ShiftState) : Option String :=
  if 6 ≤ state.count then some "partial character in shift sequence"
  else if state.bits ≠ 0 then some "non-zero padding bits in shift sequence"
  else none

def ShiftState.isWhole (state : ShiftState) : Bool :=
  state.half.isNone && state.count < 6 && state.bits = 0

/-- The characters of digits of base 64, whose plus and digits so far are `size` bytes, and of the byte that
ends them. -/
def shiftedStep (cs : List Char) (size : Nat) (state : ShiftState) : List UInt8 → DecodeStep
  | [] => if state.isWhole then .characters cs size else .invalid size "unterminated shift sequence"
  | byte :: rest =>
    match sixBits? byte with
    | some digit =>
      let (more, state) := state.push digit
      shiftedStep (cs ++ more) (size + 1) state rest
    | none =>
      match state.fault? with
      | some reason => .invalid (size + 1) reason
      | none =>
        let alone := if byte < 0x80 then state.half.toList.map Char.ofNat else []
        .characters (cs ++ alone) (if byte = 0x2d then size + 1 else size)

def utf7Step (first : UInt8) (rest : List UInt8) : DecodeStep :=
  if first = 0x2b then
    match rest with
    | [] => .characters [] 1
    | byte :: _ =>
      if byte = 0x2d then .characters ['+'] 2
      else if (sixBits? byte).isNone then .invalid 2 "ill-formed sequence"
      else shiftedStep [] 1 ⟨0, 0, none⟩ rest
  else if first < 0x80 then .ofCode first.toNat 1
  else .invalid 1 "unexpected special character"

def decodeUtf7 (bytes : List UInt8) : Except DecodeFault (List Char) :=
  decodeSteps "utf7" utf7Step bytes

end LineScript.Encoding
