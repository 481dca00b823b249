/-!
# Korean syllables

A Korean syllable is one character, and it is made of two or three letters: a lead, a vowel and perhaps a tail.
The syllables are numbered in the order of their letters.
-/

namespace LineScript.Text

def firstSyllable : Nat :=
  0xac00

def firstLead : Nat :=
  0x1100

def firstVowel : Nat :=
  0x1161

/-- The number before that of the first tail; it stands for no tail. -/
def noTail : Nat :=
  0x11a7

def leadCount : Nat :=
  19

def vowelCount : Nat :=
  21

def tailCount : Nat :=
  28

def syllableOf (lead vowel tail : Nat) : Char :=
  Char.ofNat (firstSyllable + (lead * vowelCount + vowel) * tailCount + tail)

def syllableLetters? (c : Char) : Option (List Char) :=
  let code := c.toNat
  if firstSyllable ≤ code ∧ code < firstSyllable + leadCount * vowelCount * tailCount then
    let index := code - firstSyllable
    let lead := Char.ofNat (firstLead + index / (vowelCount * tailCount))
    let vowel := Char.ofNat (firstVowel + index % (vowelCount * tailCount) / tailCount)
    let tail := index % tailCount
    some (if tail = 0 then [lead, vowel] else [lead, vowel, Char.ofNat (noTail + tail)])
  else none

def isLead (c : Char) : Bool :=
  firstLead ≤ c.toNat && c.toNat < firstLead + leadCount

def isVowel (c : Char) : Bool :=
  firstVowel ≤ c.toNat && c.toNat < firstVowel + vowelCount

def isTail (c : Char) : Bool :=
  noTail < c.toNat && c.toNat < noTail + tailCount

def splitSyllable? : List Char → Option (Char × List Char)
  | lead :: vowel :: rest =>
    if isLead lead && isVowel vowel then
      let syllable (tail : Nat) : Char := syllableOf (lead.toNat - firstLead) (vowel.toNat - firstVowel) tail
      match rest with
      | tail :: more => some (if isTail tail then (syllable (tail.toNat - noTail), more) else (syllable 0, rest))
      | [] => some (syllable 0, [])
    else none
  | _ => none

end LineScript.Text
