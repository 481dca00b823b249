import LineScript.Encoding.Double
import LineScript.Encoding.KoreanChart

/-!
# Korean encodings

The standard chart has 0x80 added to row and cell, and spells the syllables that it lacks by their letters. An
extension adds these syllables in the order of their numbers. A third encoding gives five bits to each of the
three letters of a syllable.
-/

namespace LineScript.Encoding

def initialLetters : List Nat :=
  [0x3131, 0x3132, 0x3134, 0x3137, 0x3138, 0x3139, 0x3141, 0x3142, 0x3143, 0x3145, 0x3146, 0x3147, 0x3148, 0x3149,
    0x314a, 0x314b, 0x314c, 0x314d, 0x314e]

def finalLetters : List Nat :=
  [0x3131, 0x3132, 0x3133, 0x3134, 0x3135, 0x3136, 0x3137, 0x3139, 0x313a, 0x313b, 0x313c, 0x313d, 0x313e, 0x313f,
    0x3140, 0x3141, 0x3142, 0x3144, 0x3145, 0x3146, 0x3147, 0x3148, 0x314a, 0x314b, 0x314c, 0x314d, 0x314e]

def firstVowel : Nat :=
  0x314f

/-- The syllable of an initial letter, a vowel and a final letter, each by its number among its like. The final
letter of number zero is none. -/
def syllable (initial vowel final : Nat) : Char :=
  Char.ofNat (0xac00 + (initial * 21 + vowel) * 28 + final)

/-! ## Spelt syllables -/

def letterOfTrail (trail : Nat) : Nat :=
  trail + 0x3131 - 0xa1

/-- The number of a final letter, given by its trail; the filler stands for none. -/
def finalOfTrail? (trail : Nat) : Option Nat :=
  if trail = 0xd4 then some 0
  else if 0xa1 ≤ trail then (finalLetters.idxOf? (letterOfTrail trail)).map (· + 1)
  else none

def speltSyllable? (initial vowel final : Nat) : Option Char := do
  let initial ← if 0xa1 ≤ initial then initialLetters.idxOf? (letterOfTrail initial) else none
  let vowel ← if 0xbf ≤ vowel ∧ vowel ≤ 0xd3 then some (vowel - 0xbf) else none
  return syllable initial vowel (← finalOfTrail? final)

def speltStep (first second : UInt8) : List UInt8 → DecodeStep
  | third :: initial :: fifth :: vowel :: seventh :: final :: _ =>
    if third = 0xa4 ∧ fifth = 0xa4 ∧ seventh = 0xa4 then
      .ofChar? 8 (speltSyllable? initial.toNat vowel.toNat final.toNat)
    else .illegal 1
  | rest => .unfinished (first :: second :: rest)

def koreanStep (first : UInt8) (rest : List UInt8) : DecodeStep :=
  match rest with
  | second :: more =>
    if first = 0xa4 ∧ second = 0xd4 then speltStep first second more
    else asciiOrPairStep koreanChart.findHigh? first rest
  | [] => asciiOrPairStep koreanChart.findHigh? first rest

/-! ## The extension -/

def syllables : List Nat :=
  (List.range (19 * 21 * 28)).map (0xac00 + ·)

def listedSyllables : Array Bool :=
  koreanChart.characters.foldl (fun listed c =>
    if 0xac00 ≤ c.toNat then listed.setIfInBounds (c.toNat - 0xac00) true else listed)
    (Array.replicate (19 * 21 * 28) false)

/-- The syllables that the standard chart has not, in the order of their numbers. -/
def unlistedSyllables : Array Char :=
  ((syllables.filter fun code => !listedSyllables.getD (code - 0xac00) false).map Char.ofNat).toArray

/-- The number of a trail of the extension: the letters of ASCII come before the bytes from 0x81 on. -/
def letterTrail? (trail : Nat) : Option Nat :=
  if 0x41 ≤ trail ∧ trail ≤ 0x5a then some (trail - 0x41)
  else if 0x61 ≤ trail ∧ trail ≤ 0x7a then some (trail - 0x61 + 26)
  else if 0x81 ≤ trail ∧ trail ≤ 0xfe then some (trail - 0x81 + 52)
  else none

def unlistedSyllable? (lead trail : Nat) : Option Char := do
  let number ← letterTrail? trail
  if 0x81 ≤ lead ∧ lead ≤ 0xa0 then unlistedSyllables[(lead - 0x81) * 178 + number]?
  else if 0xa1 ≤ lead ∧ lead ≤ 0xc6 ∧ number < 84 then unlistedSyllables[32 * 178 + (lead - 0xa1) * 84 + number]?
  else none

def extendedKorean? (lead trail : Nat) : Option Char :=
  koreanChart.findHigh? lead trail <|> unlistedSyllable? lead trail

/-! ## Five bits for a letter -/

/-- A part of a syllable: left out, or the number of a letter among its like. -/
inductive Part where
  | filler
  | letter (number : Nat)
  deriving Repr, DecidableEq

def initialPart? (bits : Nat) : Option Part :=
  if bits = 1 then some .filler
  else if 2 ≤ bits ∧ bits ≤ 20 then some (.letter (bits - 2))
  else none

def vowelPart? (bits : Nat) : Option Part :=
  if bits = 2 then some .filler
  else if bits % 8 < 2 ∨ bits < 2 ∨ 29 < bits then none
  else some (.letter (bits - 3 - 2 * (bits / 8)))

def finalPart? (bits : Nat) : Option Part :=
  if bits = 1 then some .filler
  else if 2 ≤ bits ∧ bits ≤ 17 then some (.letter (bits - 1))
  else if 19 ≤ bits ∧ bits ≤ 29 then some (.letter (bits - 2))
  else none

def ofParts? : Part → Part → Part → Option Char
  | .letter initial, .letter vowel, .letter final => some (syllable initial vowel final)
  | .letter initial, .letter vowel, .filler => some (syllable initial vowel 0)
  | .letter initial, .filler, .filler => initialLetters[initial]?.map Char.ofNat
  | .filler, .letter vowel, .filler => some (Char.ofNat (firstVowel + vowel))
  | .filler, .filler, .letter final => finalLetters[final - 1]?.map Char.ofNat
  | .filler, .filler, .filler => some '　'
  | _, _, _ => none

def composed? (lead trail : Nat) : Option Char := do
  let initial ← initialPart? (lead / 4 % 32)
  let vowel ← vowelPart? ((lead * 8 + trail / 32) % 32)
  ofParts? initial vowel (← finalPart? (trail % 32))

/-- The other character of two bytes: two rows of the standard chart stand under each lead. -/
def uncomposed? (lead trail : Nat) : Option Char :=
  if lead < 0xd9 ∨ lead = 0xdf ∨ 0xf9 < lead ∨ trail < 0x31 ∨ (0x80 ≤ trail ∧ trail < 0x91) ∨ trail % 128 = 0x7f
      ∨ (lead = 0xda ∧ 0xa1 ≤ trail ∧ trail ≤ 0xd3) then none
  else
    let row := if lead < 0xe0 then 2 * (lead - 0xd9) else 2 * lead - 0x197
    let cell := if trail < 0x91 then trail - 0x31 else trail - 0x43
    if cell < 94 then koreanChart.find? (row + 0x21) (cell + 0x21)
    else koreanChart.find? (row + 0x22) (cell - 94 + 0x21)

def johab? (lead trail : Nat) : Option Char :=
  if lead < 0xd8 then composed? lead trail else uncomposed? lead trail

end LineScript.Encoding
