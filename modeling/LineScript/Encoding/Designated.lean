import LineScript.Encoding.Chinese
import LineScript.Encoding.Japanese
import LineScript.Encoding.Korean

/-!
# Encodings that designate their character sets

In seven bits, escape sequences designate sets of characters as the first, the second or the third one. The first set is
in use at the start; control characters shift to the second one and back, and one character at a time is taken from the
third.
-/

namespace LineScript.Encoding

inductive CharacterSet where
  | ascii
  | roman
  | halfWidth
  | latin
  | greek
  | japanese
  | supplementary
  | firstPlane (edition : Edition)
  | secondPlane (edition : Edition)
  | chinese
  | korean
  deriving Repr, DecidableEq

namespace CharacterSet

def isSingle : CharacterSet → Bool
  | .ascii | .roman | .halfWidth | .latin | .greek => true
  | _ => false

/-- The character of one byte. Sets of accented letters are for the third place only. -/
def single? (byte : Nat) : CharacterSet → Option Char
  | .ascii => some (Char.ofNat byte)
  | .roman => some (romanCharacter byte)
  | .halfWidth => halfWidth? (byte + 0x80)
  | _ => none

def pair? (row cell : Nat) : CharacterSet → Option (List Char)
  | .japanese => (japaneseChart.find? row cell).map ([·])
  | .supplementary => (japaneseSupplement.find? row cell).map ([·])
  | .firstPlane edition => firstPlane? edition row cell
  | .secondPlane edition => (secondPlane? edition row cell).map ([·])
  | .chinese => (chineseChart.find? row cell).map ([·])
  | .korean => (koreanChart.find? row cell).map ([·])
  | _ => none

/-- A Greek letter or sign, by its place in the upper half of its page. -/
def greekLetter? (byte : Nat) : Option Char :=
  if byte < 0x20 then some (Char.ofNat (byte + 0x80))
  else if byte = 0x21 then some '‘'
  else if byte = 0x22 then some '’'
  else if byte = 0x2f then some '―'
  else if byte ∈ [0x20, 0x23, 0x26, 0x27, 0x28, 0x29, 0x2b, 0x2c, 0x2d, 0x30, 0x31, 0x32, 0x33, 0x37, 0x3b, 0x3d] then
    some (Char.ofNat (byte + 0x80))
  else if byte ∈ [0x24, 0x25, 0x2a, 0x2e, 0x52, 0x7f] then none
  else some (Char.ofNat (byte + 0x350))

def isThird : CharacterSet → Bool
  | .ascii | .latin | .greek => true
  | _ => false

/-- The character of a byte that is taken from the third place. The lower half of the Greek page, which is that
of ASCII, has the bytes of the upper half. -/
def third? (byte : Nat) : CharacterSet → Option Char
  | .ascii => if byte < 0x80 then some (Char.ofNat byte) else none
  | .latin => if byte < 0x80 then some (Char.ofNat (byte + 0x80)) else none
  | .greek => if byte < 0x80 then greekLetter? byte else some (Char.ofNat (byte - 0x80))
  | _ => none

end CharacterSet

/-- A set that an encoding can designate: whether it has two bytes for a character, and the letter that stands
for it. -/
structure Designation where
  isPair : Bool
  letter : UInt8
  set : CharacterSet

/-- The rules of an encoding: its sets, and whether it shifts to the second place, takes characters from the third one, and
lets a revision stand before a designation. -/
structure Scheme where
  designations : List Designation
  shifts : Bool
  hasThird : Bool
  hasRevision : Bool

/-- The sets in their places, which of the first two is in use, and whether an escape is passed through. -/
structure Places where
  first : CharacterSet
  second : CharacterSet
  third : CharacterSet
  shifted : Bool
  passing : Bool

def Places.start : Places :=
  ⟨.ascii, .ascii, .ascii, false, false⟩

def Places.current (places : Places) : CharacterSet :=
  if places.shifted then places.second else places.first

inductive Place where
  | first
  | second
  | third
  deriving Repr, DecidableEq

def Places.put (places : Places) (set : CharacterSet) : Place → Places
  | .first => { places with first := set }
  | .second => { places with second := set }
  | .third => { places with third := set }

namespace Scheme

def set? (scheme : Scheme) (isPair : Bool) (letter : UInt8) : Option CharacterSet :=
  if !isPair && letter = 0x42 then some .ascii
  else
    (scheme.designations.find? fun designation =>
      designation.isPair == isPair && designation.letter == letter).map Designation.set

def endsEscape (byte : UInt8) : Bool :=
  0x40 ≤ byte && byte ≤ 0x5a

inductive EscapeSize where
  | ended (size : Nat)
  | endless
  | cutOff

/-- The size of an escape whose bytes from the position on are given. -/
def escapeSize (scheme : Scheme) : Nat → Nat → List UInt8 → EscapeSize
  | 0, _, _ => .endless
  | fuel + 1, position, bytes =>
    if 16 ≤ position then .endless
    else
      match bytes with
      | [] => .cutOff
      | byte :: rest =>
        if endsEscape byte then .ended (position + 1)
        else if scheme.hasRevision && byte = 0x26 && rest.head? = some 0x40 then
          escapeSize scheme fuel (position + 3) (rest.drop 2)
        else escapeSize scheme fuel (position + 1) rest

def place? (scheme : Scheme) (byte : UInt8) : Option Place :=
  if byte = 0x28 then some .first
  else if byte = 0x29 then some .second
  else if scheme.hasThird && byte = 0x2e then some .third
  else none

/-- What the bytes of an escape after its first one designate. Any two bytes count as a revision. -/
def designated? (scheme : Scheme) : List UInt8 → Option (Place × CharacterSet)
  | [0x24, letter] => (scheme.set? true letter).map (.first, ·)
  | [byte, letter] => do
    let place ← scheme.place? byte
    return (place, ← scheme.set? false letter)
  | [0x24, byte, letter] => do
    let place ← if byte = 0x2e then none else scheme.place? byte
    return (place, ← scheme.set? true letter)
  | [_, _, 0x1b, 0x24, 0x42] =>
    if scheme.hasRevision then (scheme.set? true 0x42).map (.first, ·) else none
  | _ => none

def escapeStep (scheme : Scheme) (places : Places) (first : UInt8) (rest : List UInt8) : Places × DecodeStep :=
  match scheme.escapeSize 16 1 rest with
  | .cutOff => (places, .unfinished (first :: rest))
  | .endless => (places, .illegal 1)
  | .ended size =>
    match scheme.designated? (rest.take (size - 1)) with
    | some (place, set) => (places.put set place, .characters [] size)
    | none => (places, .illegal size)

def thirdStep (places : Places) (first second : UInt8) : List UInt8 → DecodeStep
  | [] => .unfinished [first, second]
  | byte :: _ =>
    if places.third.isThird then
      match places.third.third? byte.toNat with
      | some c => .characters [c] 3
      | none => .illegal 3
    else .stopped .misplacedSet

def startsDesignation (byte : UInt8) : Bool :=
  byte = 0x28 || byte = 0x29 || byte = 0x24 || byte = 0x2e || byte = 0x26

def anyEscapeStep (scheme : Scheme) (places : Places) (first : UInt8) : List UInt8 → Places × DecodeStep
  | [] => (places, .unfinished [first])
  | second :: rest =>
    if startsDesignation second then scheme.escapeStep places first (second :: rest)
    else if scheme.hasThird && second = 0x4e then (places, thirdStep places first second rest)
    else ({ places with passing := true }, .ofCode first.toNat 1)

def characterStep (set : CharacterSet) (first : UInt8) (rest : List UInt8) : DecodeStep :=
  if set.isSingle then
    match set.single? first.toNat with
    | some c => .characters [c] 1
    | none => .illegal 1
  else
    match rest with
    | [] => .unfinished [first]
    | second :: _ =>
      match set.pair? first.toNat second.toNat with
      | some cs => .characters cs 2
      | none => .illegal 2

def step (scheme : Scheme) (places : Places) (first : UInt8) (rest : List UInt8) : Places × DecodeStep :=
  let alone := DecodeStep.ofCode first.toNat 1
  if places.passing then ({ places with passing := !endsEscape first }, alone)
  else if first = 0x1b then scheme.anyEscapeStep places first rest
  else if scheme.shifts && (first = 0x0e || first = 0x0f) then
    ({ places with shifted := first = 0x0e }, .characters [] 1)
  else if first = 0x0a then ({ places with shifted := false }, alone)
  else if first < 0x20 then (places, alone)
  else if 0x80 ≤ first then (places, .illegal 1)
  else (places, characterStep places.current first rest)

/-! ## The encodings -/

def japaneseSets : List Designation :=
  [⟨true, 0x42, .japanese⟩, ⟨true, 0x40, .japanese⟩, ⟨false, 0x4a, .roman⟩]

def japanese : Scheme :=
  ⟨japaneseSets, false, false, true⟩

def supplementedJapanese : Scheme :=
  ⟨⟨true, 0x44, .supplementary⟩ :: japaneseSets, false, false, true⟩

def mixedJapanese : Scheme :=
  ⟨[⟨true, 0x44, .supplementary⟩, ⟨true, 0x43, .korean⟩, ⟨true, 0x41, .chinese⟩, ⟨false, 0x41, .latin⟩,
    ⟨false, 0x46, .greek⟩] ++ japaneseSets, false, true, true⟩

def halfWidthJapanese : Scheme :=
  ⟨[⟨true, 0x44, .supplementary⟩, ⟨false, 0x49, .halfWidth⟩] ++ japaneseSets, false, false, true⟩

def planeLetter : Edition → UInt8
  | .first => 0x4f
  | .second => 0x51

def extendedJapanese (edition : Edition) : Scheme :=
  ⟨[⟨true, 0x42, .japanese⟩, ⟨true, planeLetter edition, .firstPlane edition⟩,
    ⟨true, 0x50, .secondPlane edition⟩], false, false, true⟩

def korean : Scheme :=
  ⟨[⟨true, 0x43, .korean⟩], true, false, false⟩

end Scheme

end LineScript.Encoding
