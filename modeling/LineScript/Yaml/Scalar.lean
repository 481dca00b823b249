import LineScript.Number.Reading
import LineScript.Yaml.Cursor
import LineScript.Yaml.Fault

/-!
# Texts in documents

A text is plain or in quotes, and may go over several lines. One line break inside it counts as a space; of more line
breaks in a row all but the first stay.
-/

namespace LineScript.Yaml

/-! ## Gaps inside texts -/

/-- The line breaks and blanks after a line break: the breaks that stay, and the place after them; no breaks if a
separator of documents comes first. -/
def skipLines (isBlank : Char → Bool) : Nat → Cursor → Option (List Char) × Cursor
  | 0, cursor => (some [], cursor)
  | fuel + 1, cursor =>
    if atSeparator cursor.rest then (none, cursor)
    else
      let cursor := cursor.skipWhile isBlank
      match cursor.rest with
      | c :: _ =>
        if isBreak c then
          let (breaks, after) := skipLines isBlank fuel cursor.next
          (breaks.map ((if c = '\x85' then '\n' else c) :: ·), after)
        else (some [], cursor)
      | [] => (some [], cursor)

def foldBreaks (first : Char) (breaks : List Char) : List Char :=
  if first = '\u2028' ∨ first = '\u2029' then first :: breaks
  else if breaks.isEmpty then [' ']
  else breaks

/-! ## Plain texts -/

def isBracketMark (c : Char) : Bool :=
  c = ',' || c = '[' || c = ']' || c = '\x7b' || c = '\x7d'

def endsAtColon (flow : Bool) (rest : List Char) : Bool :=
  atGap rest || (flow && (rest.head?.map isBracketMark).getD false)

/-- The characters of a plain text up to a gap or a mark. Inside brackets more marks end it. -/
def plainRun (flow : Bool) : List Char → List Char
  | [] => []
  | c :: rest =>
    if isGap c || (c = ':' && endsAtColon flow rest) || (flow && (isBracketMark c || c = '?')) then []
    else c :: plainRun flow rest

structure PlainGap where
  text : List Char
  broken : Bool
  after : Cursor

def plainGap (cursor : Cursor) : PlainGap :=
  let blanks := cursor.rest.takeWhile (· = ' ')
  let cursor := cursor.skip blanks.length
  match cursor.rest with
  | c :: rest =>
    if isBreak c then
      match skipLines (· = ' ') (rest.length + 1) cursor.next with
      | (some breaks, after) => ⟨foldBreaks c breaks, true, after⟩
      | (none, after) => ⟨[], true, after⟩
    else ⟨blanks, false, cursor⟩
  | [] => ⟨blanks, false, cursor⟩

/-- A text with the place after it, and whether the place is the first in its line. -/
structure PlainText where
  text : List Char
  broken : Bool
  after : Cursor

/-- The plain text after a gap. It ends where nothing is left of it, at a comment, and in a line that is indented too
little. -/
def plainText (flow : Bool) (indent : Nat) : Nat → PlainGap → PlainText
  | 0, gap => ⟨[], gap.broken, gap.after⟩
  | fuel + 1, gap =>
    let run := plainRun flow gap.after.rest
    if run.isEmpty then ⟨[], gap.broken, gap.after⟩
    else
      let next := plainGap (gap.after.skip run.length)
      if next.text.isEmpty || next.after.head? == some '#' || (!flow && next.after.column < indent) then
        ⟨gap.text ++ run, next.broken, next.after⟩
      else
        let more := plainText flow indent fuel next
        { more with text := gap.text ++ run ++ more.text }

/-! ## Quoted texts -/

def escapes : List (Char × Char) :=
  [('0', '\x00'), ('a', '\x07'), ('b', '\x08'), ('t', '\t'), ('\t', '\t'), ('n', '\n'), ('v', '\x0b'),
    ('f', '\x0c'), ('r', '\r'), ('e', '\x1b'), (' ', ' '), ('\x22', '\x22'), ('\\', '\\'), ('/', '/'),
    ('N', '\x85'), ('_', '\xa0'), ('L', '\u2028'), ('P', '\u2029')]

/-- The number of hexadecimal digits after a letter that stands for a code point. -/
def codeLength? (c : Char) : Option Nat :=
  if c = 'x' then some 2 else if c = 'u' then some 4 else if c = 'U' then some 8 else none

def codeCharacter (count : Nat) (cs : List Char) : Except Fault Char :=
  let digits := cs.take count
  let code := Number.radixRun 16 digits
  if digits.length < count || !digits.all (Number.isRadixDigit 16) then .error .badEscape
  else if 0x80000000 ≤ code then .error .codeTooLarge
  else if 0x110000 ≤ code then .error .noCharacter
  else .ok (Char.ofNat code)

def quotedBreaks (cursor : Cursor) : Except Fault (List Char × Cursor) :=
  match skipLines (fun c => c = ' ' || c = '\t') (cursor.rest.length + 1) cursor with
  | (some breaks, after) => .ok (breaks, after)
  | (none, _) => .error .unclosedText

/-- What a backslash stands for with the text after it, and the place after that. -/
def escaped (cursor : Cursor) : Except Fault (List Char × Cursor) :=
  match cursor.rest with
  | [] => .error .badEscape
  | c :: rest =>
    match escapes.lookup c, codeLength? c with
    | some meant, _ => .ok ([meant], cursor.next)
    | none, some count => do
      let meant ← codeCharacter count rest
      return ([meant], cursor.skip (count + 1))
    | none, none => if isBreak c then quotedBreaks cursor.next else .error .badEscape

def quotedGap (cursor : Cursor) : Except Fault (List Char × Cursor) :=
  let blanks := cursor.rest.takeWhile fun c => c = ' ' || c = '\t'
  let cursor := cursor.skip blanks.length
  match cursor.rest with
  | [] => .error .unclosedText
  | c :: _ =>
    if isBreak c then do
      let (breaks, after) ← quotedBreaks cursor.next
      return (foldBreaks c breaks, after)
    else .ok (blanks, cursor)

/-- One piece of a text in quotes, nothing at the end of the text, and the place after it. In single
quotes a quote is written twice; in double quotes a backslash stands for other characters. -/
def quotedPiece (quote : Char) (cursor : Cursor) : Except Fault (Option (List Char) × Cursor) :=
  match cursor.rest with
  | [] => .error .unclosedText
  | c :: rest =>
    if c = quote then
      if quote = '\x27' && rest.head? == some quote then .ok (some [c], cursor.skip 2)
      else .ok (none, cursor.next)
    else if c = '\\' && quote = '\x22' then do
      let (meant, after) ← escaped cursor.next
      return (some meant, after)
    else if isGap c then do
      let (gap, after) ← quotedGap cursor
      return (some gap, after)
    else .ok (some [c], cursor.next)

def quotedText (quote : Char) : Nat → Cursor → Except Fault (List Char × Cursor)
  | 0, _ => .error .unclosedText
  | fuel + 1, cursor => do
    match ← quotedPiece quote cursor with
    | (none, after) => return ([], after)
    | (some piece, after) =>
      let (more, after) ← quotedText quote fuel after
      return (piece ++ more, after)

end LineScript.Yaml
