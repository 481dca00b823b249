/-!
# Packed texts

A large table is written as a packed text, which takes less room the better its characters can be foreseen. A character
is the number of a symbol, and its bits are foreseen one by one from what came before: the last few characters, where in
a line the next one stands, and the words before it. Each way to look at the text keeps how often a bit was one, and
the weights of those that were right rise.

The digits of a packed text are those of one number between zero and one. A one and a zero each have a part of the range
of numbers, as wide as the bit is likely, and the number lies in the part of the bit that follows.
-/

namespace LineScript.Text

/-! ## Digits -/

def digitBase : Nat :=
  102

/-- The letters that are several digits: where a span of them starts, and how many it has. -/
def letterSpans : List (Nat × Nat) :=
  [(0xc0, 576), (0x3a3, 223), (0x48a, 166), (0x3400, 27558), (0xac00, 11172)]

def letterPlace (code : Nat) : List (Nat × Nat) → Nat
  | [] => 0
  | (first, count) :: spans =>
    if first ≤ code && code < first + count then code - first else count + letterPlace code spans

/-- The digits that a character is. One digit are the ASCII characters from `#` to `z` but the dash and the backslash,
and then three marks; two digits are the letters of the first three spans, and three digits the others. -/
def packedDigits (c : Char) : List Nat :=
  let code := c.toNat
  if c = '\n' then [] else if c = '!' then [86] else if c = '|' then [87] else if c = '~' then [88]
  else if code < 0x2d then [code - 0x23] else if code < 0x5c then [code - 0x24] else if code < 0x80 then [code - 0x25]
  else
    let place := letterPlace code letterSpans
    let pair := if place < 965 then place else 965 + (place - 965) / digitBase
    [89 + pair / digitBase, pair % digitBase] ++ if place < 965 then [] else [(place - 965) % digitBase]

/-- A place in a range of numbers, and the digits that make it exact. -/
structure Coder where
  range : Nat
  place : Nat
  digits : List Nat

namespace Coder

def refill (range place : Nat) : List Nat → Coder
  | [] => ⟨range, place, []⟩
  | digit :: rest =>
    if range < digitBase ^ 5 then refill (digitBase * range) (digitBase * place + digit) rest
    else ⟨range, place, digit :: rest⟩

/-- The next bit, if so many parts of `2 ^ 16` are for a one. -/
def readBit (coder : Coder) (chance : Nat) : Bool × Coder :=
  let unit := coder.range / 0x10000
  if coder.place < unit * chance then (true, refill (unit * chance) coder.place coder.digits)
  else (false, refill (unit * (0x10000 - chance)) (coder.place - unit * chance) coder.digits)

end Coder

/-! ## Evidence -/

/-- The chances of a one, in parts of `2 ^ 16`, if the odds start with some parts of `2 ^ 32` and rise by one in 256
each time. -/
def chancesFrom (odds : Nat) : Nat → List Nat
  | 0 => []
  | count + 1 => 0x10000 * odds / (0x100000000 + odds) :: chancesFrom (odds + odds / 256) count

def chances : Array Nat :=
  let likely := chancesFrom 0x100000000 2048
  (((likely.drop 1).map (0x10000 - ·)).reverse ++ likely).toArray

def chanceOf (evidence : Int) : Nat :=
  chances.getD (evidence + 2047).toNat 0

def evidences : Array Int :=
  let start (place : Nat) := if place = 0 then 0 else ((chances[place]?).map fun chance => (chance + 7) / 16).getD 0x1000
  ((List.range chances.size).flatMap fun place =>
    List.replicate (start (place + 1) - start place) ((place : Int) - 2047)).toArray

/-! ## Memory -/

/-- What is kept: numbers in slots, and the weights of what speaks for a one, in parts of `2 ^ 14`. The number in a slot has
the last three bits, after a one; how often the slot was used, up to a limit; how likely a one is, in parts of `2 ^ 16`; and
a check of the context that the slot is for. -/
structure Memory where
  slots : Array Nat
  weights : Array Int

/-- What a slot says about a bit: the number in it, the evidence for a one, and the place of its weight in a row of
weights. -/
structure Voice where
  slot : Nat
  kept : Nat
  evidence : Int
  place : Nat

namespace Memory

/-- The number in a slot that was not used yet. -/
def unused : Nat :=
  0x400001

def voice (slot kept place : Nat) : Voice :=
  ⟨slot, kept, evidences.getD (kept / 0x800 % 0x2000) 0, place + kept / 16 % 8⟩

/-- What the numbers of contexts say about the bit at a node, with weights from a place on. Each context has a slot, and the
last bits in that slot have another, which is among the first ones. -/
def hear (slots : Array Nat) (node : Nat) : Nat → List Nat → List Voice
  | _, [] => []
  | place, context :: contexts =>
    let key := context * 0x2c1b3c6d + node
    let size := slots.size - 0x200
    let slot := 0x200 + key % size
    let check := key / size % 0x100
    let found := slots.getD slot 0
    let kept := if found / 0x1000000 = check then found else 0x1000000 * check + unused
    let past := place + kept % 16
    voice slot kept place :: voice past (slots.getD past 0) (place + 8) :: hear slots node (place + 16) contexts

def weigh (weights : Array Int) (row : Nat) (voices : List Voice) : Int :=
  let sum := voices.foldl (fun sum voice => sum + weights.getD (row + voice.place) 0 * voice.evidence) 0
  max (-2047) (min 2047 (sum / 0x4000))

/-- The weights of a row after a bit, which some evidence foresaw. They stay if it was nearly sure. -/
def adjust (bit : Bool) (row : Nat) (evidence : Int) (voices : List Voice) (weights : Array Int) : Array Int :=
  let fault : Int := (if bit then 0x4000 else 0) - (chanceOf evidence / 4 : Nat)
  if fault.natAbs < 0x200 then weights
  else voices.foldl (fun weights voice => weights.modify (row + voice.place) (· + voice.evidence * fault * 7 / 0x40000)) weights

def keep (bit : Bool) (slots : Array Nat) (voice : Voice) : Array Nat :=
  let last := 2 * (voice.kept % 16) + bit.toNat
  let count := voice.kept / 0x10 % 8
  let chance := voice.kept / 0x80 % 0x20000
  let limit := if voice.slot < 0x200 then 7 else 4
  let chance :=
    if bit then chance + (0x10000 - chance) * 2 / (2 * count + 3) else chance - chance * 2 / (2 * count + 3)
  slots.setIfInBounds voice.slot (0x1000000 * (voice.kept / 0x1000000) + 0x80 * chance +
    0x10 * min limit (count + 1) + if last < 16 then last else last % 8 + 8)

/-- So many bits more at a node, with the numbers of contexts and of the rows of weights beside that of the node. -/
def readBits (contexts rows : List Nat) : Nat → Nat → Memory → Coder → Nat × Memory × Coder
  | 0, node, memory, coder => (node, memory, coder)
  | count + 1, node, ⟨slots, weights⟩, coder =>
    let voices := hear slots node 0 contexts
    let size := 16 * contexts.length
    let sums := (node :: rows).map fun row => (row * size, weigh weights (row * size) voices)
    let (bit, coder) := coder.readBit (chanceOf ((sums.map Prod.snd).sum / sums.length))
    let weights := sums.foldl (fun weights sum => adjust bit sum.1 sum.2 voices weights) weights
    readBits contexts rows count (2 * node + bit.toNat) ⟨voices.foldl (keep bit) slots, weights⟩ coder

end Memory

/-! ## Contexts -/

/-- What was read: the last characters, the last one first; the mark that the line starts with and how long the line is; the
line, the last character first; and what the line before has from the next place on. Characters are numbered from one. -/
structure Passage where
  last : List Nat
  mark : Nat
  length : Nat
  line : List Nat
  above : List Nat

namespace Passage

def contextOf (kind : Nat) (numbers : List Nat) : Nat :=
  numbers.foldl (fun context number => (context * 0x2c1b3c6d + number) % 0x40000000) kind

/-- The contexts of the next character: the last characters; if there are marks, the place in the line; and what stands
above it, unless the lines are phrases. -/
def contexts (depth : Nat) (lines phrases : Bool) (passage : Passage) : List Nat :=
  let above := passage.above.headD 0
  (List.range (depth + 1)).map (fun count => contextOf (count + 1) (passage.last.take count)) ++
    (if lines then [contextOf (depth + 2) [passage.length, passage.mark]] else []) ++
    if lines && !phrases then
      [contextOf (depth + 3) [above, passage.last.headD 0, passage.mark], contextOf (depth + 4) [above]]
    else []

def add (depth : Nat) (isMark : Bool) (number : Nat) (passage : Passage) : Passage :=
  let last := (number :: passage.last).take depth
  if isMark then ⟨last, number, 1, [number], passage.line.reverse.drop 1⟩
  else ⟨last, passage.mark, passage.length + 1, number :: passage.line, passage.above.drop 1⟩

end Passage

/-- What was read of lines that are phrases: the words before the one that is read, the last one first; that word so far; and
the words of the phrase before. -/
structure Phrases where
  words : List (List Nat)
  word : List Nat
  before : List (List Nat)

namespace Phrases

/-- The word of the phrase before at the place of the word that is read. -/
def above (phrases : Phrases) : List Nat :=
  phrases.before.getD phrases.words.length []

/-- The character of the word above at the place of the next one, and whether the words are alike before it. -/
def guess (phrases : Phrases) : Nat × Nat :=
  let read := phrases.word.length
  ((phrases.above.drop read).headD 0, (phrases.above.take read == phrases.word).toNat)

/-- The contexts of the next character after another: words around it, the guess, and how much is left above. -/
def contexts (kind last : Nat) (phrases : Phrases) : List Nat :=
  let ⟨words, word, before⟩ := phrases
  let above := phrases.above
  let first := words.getLastD []
  let (next, alike) := phrases.guess
  let around := [words.headD [], words.getD 1 [], first, above, before.getLastD []].map (· ++ 0 :: word)
  let left := [above.length - word.length, before.length - words.length]
  (around ++ [[last], left, words.length :: first].map ([next, alike] ++ ·)).zipIdx.map fun entry =>
    Passage.contextOf (kind + entry.2) entry.1

def rows (phrases : Phrases) : List Nat :=
  let ⟨words, word, _⟩ := phrases
  let (next, alike) := phrases.guess
  [2 * min 15 words.length + min 1 word.length, 32 + 4 * min 7 word.length + 2 * alike + min 1 next]

/-- One character more. A mark that is a small letter tells how many words the phrases around it share. -/
def add (c : Char) (isMark : Bool) (number : Nat) (phrases : Phrases) : Phrases :=
  let ⟨words, word, before⟩ := phrases
  let all := if word.isEmpty then words else word :: words
  if c = ' ' || c = '-' then ⟨word :: words, [], before⟩
  else if !isMark then ⟨words, word ++ [number], before⟩
  else if c.isLower then ⟨all.drop (all.length - (c.toNat - 0x61)), [], all.reverse⟩
  else ⟨all, [number], before⟩

end Phrases

/-! ## Texts -/

/-- A packed text: the characters that occur in it, those that start lines, how many characters before another one are
looked at, how long the text is, and its digits, which may stand on several lines. -/
structure Packed where
  symbols : String
  marks : String
  depth : Nat
  length : Nat
  digits : String

namespace Packed

/-- So many characters more, after all characters so far, the last one first. If `a` is a mark, the lines are phrases. -/
def read (symbols : Array Char) (marks : List Char) (depth : Nat) :
    Nat → Passage → Phrases → Memory → Coder → List Char → List Char
  | 0, _, _, _, _, text => text.reverse
  | count + 1, passage, phrases, memory, coder, text =>
    let ofWords := marks.contains 'a'
    let last := passage.last.headD 0
    let contexts := passage.contexts depth (!marks.isEmpty) ofWords ++
      if ofWords then phrases.contexts (depth + 3) last else []
    let width := (symbols.size - 1).log2 + 1
    let rows := (if ofWords then phrases.rows else [last]).map ((1 <<< width) + ·)
    let (node, memory, coder) := memory.readBits contexts rows width 1 coder
    let number := node - (1 <<< width)
    let c := symbols.getD number ' '
    let isMark := marks.contains c
    let phrases := if ofWords then phrases.add c isMark (number + 1) else phrases
    read symbols marks depth count (passage.add depth isMark (number + 1)) phrases memory coder (c :: text)

def toList (packed : Packed) : List Char :=
  let symbols := packed.symbols.toList.toArray
  let width := (symbols.size - 1).log2 + 1
  let rows := (1 <<< width) + max 64 (symbols.size + 1)
  let memory : Memory :=
    ⟨.replicate (0x201 + 32 * packed.length) Memory.unused, .replicate (rows * (16 * (packed.depth + 10))) 1500⟩
  read symbols packed.marks.toList packed.depth packed.length ⟨[], 0, 0, [], []⟩ ⟨[], [], []⟩ memory
    (.refill 1 0 (packed.digits.toList.flatMap packedDigits)) []

end Packed

/-! ## Numbers and pieces in texts -/

def digits : String :=
  String.ofList ((List.range 64).map fun digit => Char.ofNat (0x30 + digit))

def digit (c : Char) : Nat :=
  c.toNat - 0x30

/-- The pieces between separators, after the start of a piece, which is held last character first. -/
def piecesFrom (separator : Char) (piece : List Char) : List Char → List (List Char)
  | [] => [piece.reverse]
  | c :: rest =>
    if c = separator then piece.reverse :: piecesFrom separator [] rest else piecesFrom separator (c :: piece) rest

def pieces (separator : Char) (text : List Char) : List (List Char) :=
  piecesFrom separator [] text

end LineScript.Text
