import LineScript.Encoding.Double
import LineScript.Encoding.JapaneseChart
import LineScript.Encoding.JapaneseExtension
import LineScript.Encoding.JapaneseSupplement

/-!
# Japanese encodings

Two encodings of the Japanese charts are in use. One adds 0x80 to row and cell. The other, the shifted one,
puts two rows under each lead and leaves bytes between its leads to half-width letters. Each is in use with the
standard chart and with the extended charts, of which there are two editions; the shifted one also with a
vendor's chart.
-/

namespace LineScript.Encoding

inductive Edition where
  | first
  | second
  deriving Repr, DecidableEq

/-- The codes of the first plane that came with the second edition. -/
def laterCodes : List Nat :=
  [0x2e21, 0x2f7e, 0x4f54, 0x4f7e, 0x7427, 0x7e7a, 0x7e7b, 0x7e7c, 0x7e7d, 0x7e7e]

def isLater (edition : Edition) (row cell : Nat) : Bool :=
  edition = .first && laterCodes.contains (row * 256 + cell)

def firstPlane? (edition : Edition) (row cell : Nat) : Option (List Char) :=
  if isLater edition row cell then none
  else
    ((japaneseChart.find? row cell <|> japaneseFirstPlane.find? row cell).map ([·])) <|>
      pairs? japanesePairs row cell

/-- The step for a code of the first plane in two bytes. Both are at fault if the code came later. -/
def firstPlaneStep (edition : Edition) (row cell : Nat) : DecodeStep :=
  if isLater edition row cell then .illegal 2 else .ofList? 2 (firstPlane? edition row cell)

/-- The character of a code of the second plane. The editions differ in one. -/
def secondPlane? (edition : Edition) (row cell : Nat) : Option Char :=
  if edition = .first ∧ row = 0x7d ∧ cell = 0x3b then some '鬝' else japaneseSecondPlane.find? row cell

def halfWidth? (byte : Nat) : Option Char :=
  if 0xa1 ≤ byte ∧ byte ≤ 0xdf then some (Char.ofNat (0xfec0 + byte)) else none

def romanCharacter (byte : Nat) : Char :=
  if byte = 0x5c then '¥' else if byte = 0x7e then '‾' else Char.ofNat byte

/-! ## The encoding that adds to row and cell -/

def halfWidthStep (first : UInt8) (rest : List UInt8) : DecodeStep :=
  pairStep (fun _ trail => (halfWidth? trail).map ([·])) first rest

/-- The character of two bytes after the byte that announces another chart. -/
def announcedStep (find : Nat → Nat → Option Char) (first : UInt8) : List UInt8 → DecodeStep
  | second :: third :: _ => .ofChar? 3 (find second.toNat third.toNat)
  | rest => .unfinished (first :: rest)

/-- Characters by the standard chart, with half-width letters and the supplementary chart. -/
def eucStep (first : UInt8) (rest : List UInt8) : DecodeStep :=
  if first = 0x8e then halfWidthStep first rest
  else if first = 0x8f then announcedStep japaneseSupplement.findHigh? first rest
  else asciiOrPairStep japaneseChart.findHigh? first rest

def flipHigh (byte : Nat) : Nat :=
  if byte < 0x80 then byte + 0x80 else byte - 0x80

/-- Characters by the extended charts. The second plane leaves room for the supplementary chart, and the tilde
of the first one is wide. -/
def extendedEucStep (edition : Edition) (first : UInt8) (rest : List UInt8) : DecodeStep :=
  if first < 0x80 then .ofCode first.toNat 1
  else if first = 0x8e then halfWidthStep first rest
  else if first = 0x8f then
    announcedStep (fun lead trail =>
      secondPlane? edition (flipHigh lead) (flipHigh trail) <|> japaneseSupplement.findHigh? lead trail)
      first rest
  else
    match rest with
    | [] => .unfinished [first]
    | second :: _ =>
      if first = 0xa2 ∧ second = 0xb2 then .characters ['～'] 2
      else firstPlaneStep edition (flipHigh first.toNat) (flipHigh second.toNat)

/-! ## The shifted encoding -/

def isShiftedLead (last byte : Nat) : Bool :=
  0x81 ≤ byte && byte ≤ 0x9f || 0xe0 ≤ byte && byte ≤ last

def shiftedPlace? (lead trail : Nat) : Option (Nat × Nat) :=
  if isShiftedLead 0xfc lead ∧ 0x40 ≤ trail ∧ trail ≤ 0xfc ∧ trail ≠ 0x7f then
    let row := 2 * (if lead < 0xe0 then lead - 0x81 else lead - 0xc1)
    let cell := if trail < 0x80 then trail - 0x40 else trail - 0x41
    some (if cell < 94 then (row, cell) else (row + 1, cell - 94))
  else none

def shifted? (lead trail : Nat) : Option Char := do
  let (row, cell) ← shiftedPlace? lead trail
  japaneseChart.find? (row + 0x21) (cell + 0x21)

def shiftedJapaneseStep (first : UInt8) (rest : List UInt8) : DecodeStep :=
  match halfWidth? first.toNat with
  | some c => .characters [c] 1
  | none =>
    if first < 0x80 ∨ isShiftedLead 0xea first.toNat then asciiOrPairStep shifted? first rest else .illegal 1

def userCharacter? (lead trail : Nat) : Option Char :=
  if 0xf0 ≤ lead ∧ lead ≤ 0xf9 ∧ 0x40 ≤ trail ∧ trail ≤ 0xfc ∧ trail ≠ 0x7f then
    some (Char.ofNat (0xe000 + 188 * (lead - 0xf0) + (if trail < 0x80 then trail - 0x40 else trail - 0x41)))
  else none

def vendorShifted? (lead trail : Nat) : Option Char :=
  japaneseVendor.find? lead trail <|> userCharacter? lead trail <|> shifted? lead trail

def vendorShiftedStep (first : UInt8) (rest : List UInt8) : DecodeStep :=
  if first = 0x80 then .ofCode 0x80 1
  else if first = 0xa0 then .ofCode 0xf8f0 1
  else if 0xfd ≤ first then .ofCode (0xf8f1 + (first.toNat - 0xfd)) 1
  else
    match halfWidth? first.toNat with
    | some c => .characters [c] 1
    | none => asciiOrPairStep vendorShifted? first rest

/-- The row of the second plane that follows the rows of the first one. The plane uses only some of its rows. -/
def secondPlaneRow (row : Nat) : Nat :=
  if 0x67 ≤ row then row + 0x07 else if 0x63 ≤ row ∨ row = 0x5f then row - 0x37 else row - 0x3d

/-- The step for two bytes with the extended charts. The wide backslash of the first plane is read as the plain one. -/
def extendedPairStep (edition : Edition) (lead trail : Nat) : DecodeStep :=
  match shiftedPlace? lead trail with
  | none => .illegal 1
  | some (0, 0x1f) => .characters ['\\'] 2
  | some (row, cell) =>
    if row < 94 then firstPlaneStep edition (row + 0x21) (cell + 0x21)
    else .ofChar? 2 (secondPlane? edition (secondPlaneRow row) (cell + 0x21))

def extendedShiftedStep (edition : Edition) (first : UInt8) (rest : List UInt8) : DecodeStep :=
  if first < 0x80 then .characters [romanCharacter first.toNat] 1
  else
    match halfWidth? first.toNat with
    | some c => .characters [c] 1
    | none =>
      match rest with
      | second :: _ => extendedPairStep edition first.toNat second.toNat
      | [] => if isShiftedLead 0xfc first.toNat then .unfinished [first] else .illegal 1

end LineScript.Encoding
