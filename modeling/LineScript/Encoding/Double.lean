import LineScript.Encoding.Chart

/-!
# Steps of encodings with several bytes for a character

A byte below 0x80 is mostly a character alone, and any other byte needs the bytes after it. Only the first byte
of what an encoding does not have is at fault, and all bytes of what is cut off.
-/

namespace LineScript.Encoding

def DecodeStep.illegal (size : Nat) : DecodeStep :=
  .invalid size "illegal multibyte sequence"

def DecodeStep.unfinished (bytes : List UInt8) : DecodeStep :=
  .invalid bytes.length "incomplete multibyte sequence"

def DecodeStep.ofList? (size : Nat) : Option (List Char) → DecodeStep
  | some cs => .characters cs size
  | none => .illegal 1

def DecodeStep.ofChar? (size : Nat) (c : Option Char) : DecodeStep :=
  .ofList? size (c.map ([·]))

def pairStep (find : Nat → Nat → Option (List Char)) (first : UInt8) (rest : List UInt8) : DecodeStep :=
  match rest with
  | [] => .unfinished [first]
  | second :: _ => .ofList? 2 (find first.toNat second.toNat)

/-- The step for ASCII, and for characters of two bytes that are given by their numbers. -/
def asciiOrPairStep (find : Nat → Nat → Option Char) (first : UInt8) (rest : List UInt8) : DecodeStep :=
  if first < 0x80 then .ofCode first.toNat 1
  else pairStep (fun lead trail => (find lead trail).map ([·])) first rest

/-- The character of a square chart whose row and cell are given by bytes from 0x80 on. -/
def Chart.findHigh? (chart : Chart) (lead trail : Nat) : Option Char :=
  if 0x80 ≤ lead ∧ 0x80 ≤ trail then chart.find? (lead - 0x80) (trail - 0x80) else none

def pairs? (pairs : List (Nat × List Char)) (lead trail : Nat) : Option (List Char) :=
  pairs.lookup (lead * 256 + trail)

end LineScript.Encoding
