import LineScript.CharacterName.Names

/-!
# Steps between names

Each name follows from the one before. A word of a name goes up to a blank or a dash, which belongs to it. A name starts
with a small letter that tells how many words it shares with the name before, from `a` for none on; then come its other
words. After a plus sign comes how often the name before is counted up, once if there is no number. An equals sign
stands for the name before with small letters for capital ones, a dot for a number that no character has, and after the
sign `@` comes the number of the next character.
-/

namespace LineScript.CharacterName

abbrev Words := List (List Char)

def wordsFrom (word : List Char) : List Char → Words
  | [] => if word.isEmpty then [] else [word.reverse]
  | c :: rest =>
    if c = ' ' ∨ c = '-' then (c :: word).reverse :: wordsFrom [] rest else wordsFrom (c :: word) rest

def words (cs : List Char) : Words :=
  wordsFrom [] cs

/-! ## From one name to the next -/

inductive Step where
  | jump (code : Nat)
  | skip
  | count
  | lower
  | share (shared : Nat) (others : Words)

def decimalNumber (digits : List Char) : Nat :=
  digits.foldl (fun total c => 10 * total + (c.toNat - 0x30)) 0

def stepsOf (mark : Char) (rest : List Char) : List Step :=
  match mark with
  | '@' => [.jump (decimalNumber rest)]
  | '.' => [.skip]
  | '=' => [.lower]
  | '+' => if rest.isEmpty then [.count] else List.replicate (decimalNumber rest) .count
  | _ => [.share (mark.toNat - 0x61) (words rest)]

def isMark (c : Char) : Bool :=
  c.isLower || c = '.' || c = '=' || c = '+' || c = '@'

/-- The word that is one further than another, with its last character first. -/
def countUp : List Char → List Char
  | [] => []
  | '9' :: rest => '0' :: countUp rest
  | c :: rest => Char.ofNat (c.toNat + 1) :: rest

def Step.after (before : Words) : Step → Words
  | .jump _ | .skip => before
  | .count => before.dropLast ++ (before.getLast?.map fun word => (countUp word.reverse).reverse).toList
  | .lower => before.map fun word => if word = "CAPITAL ".toList then "SMALL ".toList else word
  | .share shared others => before.take shared ++ others

/-! ## Search -/

/-- The result of a search: the number that has the name, or the next number and the words of the last name. -/
inductive Search where
  | found (code : Nat)
  | passed (code : Nat) (before : Words)

/-- The number of the name among those that steps lead to, the first of which is for a number. -/
def findStep (name : Words) : Nat → Words → List Step → Search
  | code, before, [] => .passed code before
  | _, before, .jump code :: steps => findStep name code before steps
  | code, before, .skip :: steps => findStep name (code + 1) before steps
  | code, before, step :: steps =>
    let current := step.after before
    if current = name then .found code else findStep name (code + 1) current steps

/-- The number of the name in a text of steps, after a mark and the characters since then, the last one first. -/
def findIn? (name : Words) (mark : Char) (part : List Char) (code : Nat) (before : Words) : List Char → Option Nat
  | [] =>
    match findStep name code before (stepsOf mark part.reverse) with
    | .found code => some code
    | .passed _ _ => none
  | c :: rest =>
    if isMark c then
      match findStep name code before (stepsOf mark part.reverse) with
      | .found code => some code
      | .passed code before => findIn? name c [] code before rest
    else findIn? name mark (c :: part) code before rest

def findListed? (name : List Char) : Option Nat :=
  findIn? (words name) '@' [] 0 [] packedNames.toList

end LineScript.CharacterName
