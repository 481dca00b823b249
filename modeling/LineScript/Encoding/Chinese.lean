import LineScript.Encoding.ChineseChart
import LineScript.Encoding.ChineseExtension
import LineScript.Encoding.Double

/-!
# Encodings of simplified Chinese

The standard chart has 0x80 added to row and cell. The first extension adds all other ideographs, in the order of their
numbers, at leads and trails that the chart leaves free; the second one adds codes of four bytes for all other
characters.
-/

namespace LineScript.Encoding

def ideographs : List Nat :=
  (List.range (0x9fa6 - 0x4e00)).map (0x4e00 + ·)

def listedIdeographs : Array Bool :=
  chineseChart.characters.foldl (fun listed c =>
    if 0x4e00 ≤ c.toNat then listed.setIfInBounds (c.toNat - 0x4e00) true else listed)
    (Array.replicate (0x9fa6 - 0x4e00) false)

/-- The ideographs that the standard chart has not, in the order of their numbers. -/
def unlistedIdeographs : Array Char :=
  ((ideographs.filter fun code => !listedIdeographs.getD (code - 0x4e00) false).map Char.ofNat).toArray

def trailNumber (trail : Nat) : Nat :=
  if trail < 0x7f then trail - 0x40 else trail - 0x41

def unlistedIdeograph? (lead trail : Nat) : Option Char :=
  if trail < 0x40 ∨ trail = 0x7f ∨ 0xfe < trail then none
  else if 0x81 ≤ lead ∧ lead ≤ 0xa0 then unlistedIdeographs[(lead - 0x81) * 190 + trailNumber trail]?
  else if 0xaa ≤ lead ∧ lead ≤ 0xfe ∧ trail ≤ 0xa0 then
    unlistedIdeographs[32 * 190 + (lead - 0xaa) * 96 + trailNumber trail]?
  else none

def extendedChinese? (lead trail : Nat) : Option Char :=
  chineseVendor.find? lead trail <|> chineseChart.findHigh? lead trail <|> unlistedIdeograph? lead trail

def rangedCharacter? (number : Nat) : Option Char :=
  (chineseRanges.find? fun (start, _, count) => start ≤ number && number < start + count).map
    fun (start, first, _) => Char.ofNat (first + (number - start))

/-- The character of four bytes, given by how far they are above the least ones. -/
def fourByteCharacter? (a b c d : Nat) : Option Char :=
  let number := ((a * 10 + b) * 126 + c) * 10 + d
  if a < 4 then rangedCharacter? number
  else if 15 ≤ a ∧ number - 15 * 12600 ≤ 0xfffff then some (Char.ofNat (0x10000 + (number - 15 * 12600)))
  else none

def fourBytes? (first second third fourth : Nat) : Option Char :=
  if 0x81 ≤ first ∧ first ≤ 0xfe ∧ 0x81 ≤ third ∧ third ≤ 0xfe ∧ 0x30 ≤ fourth ∧ fourth ≤ 0x39 then
    fourByteCharacter? (first - 0x81) (second - 0x30) (third - 0x81) (fourth - 0x30)
  else none

def fourByteStep (first second : UInt8) : List UInt8 → DecodeStep
  | third :: fourth :: _ =>
    .ofChar? 4 (fourBytes? first.toNat second.toNat third.toNat fourth.toNat)
  | rest => .unfinished (first :: second :: rest)

def fullChinese? (lead trail : Nat) : Option Char :=
  chineseRemainder.find? lead trail <|> extendedChinese? lead trail

def fullChineseStep (first : UInt8) (rest : List UInt8) : DecodeStep :=
  match rest with
  | second :: more =>
    if 0x80 ≤ first ∧ 0x30 ≤ second ∧ second ≤ 0x39 then fourByteStep first second more
    else asciiOrPairStep fullChinese? first rest
  | [] => asciiOrPairStep fullChinese? first rest

/-! ## Seven bits -/

/-- What a tilde and a byte do, outside and inside the chart: the characters that they are, and whether the
chart is announced afterwards. -/
def tildeEffect? (inside : Bool) (second : UInt8) : Option (List Char × Bool) :=
  if second = 0x7e ∧ !inside then some (['~'], false)
  else if second = 0x7b ∧ !inside then some ([], true)
  else if second = 0x0a ∧ !inside then some ([], false)
  else if second = 0x7d ∧ inside then some ([], false)
  else none

def tildeStep (inside : Bool) (first : UInt8) (rest : List UInt8) : Bool × DecodeStep :=
  if first = 0x7e then
    match rest with
    | [] => (inside, .unfinished [first])
    | second :: _ =>
      match tildeEffect? inside second with
      | some (cs, inside) => (inside, .characters cs 2)
      | none => (inside, .illegal 1)
  else if 0x80 ≤ first then (inside, .illegal 1)
  else if inside then
    (inside, pairStep (fun lead trail => (chineseChart.find? lead trail).map ([·])) first rest)
  else (inside, .ofCode first.toNat 1)

end LineScript.Encoding
