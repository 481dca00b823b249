import LineScript.Yaml.Directive

/-!
# Texts in blocks

A text in a block takes whole lines from the next one on, as far as they are indented. A bar keeps the line breaks
between them; an angle bracket makes single ones spaces, but not beside a line that starts with a blank. A sign behind
the mark tells whether the line breaks at the end all stay or all go, and a digit tells the indentation.
-/

namespace LineScript.Yaml

/-- What becomes of the line breaks at the end of a text in a block. -/
inductive Chomping where
  | clip
  | strip
  | keep
  deriving Repr, DecidableEq

structure BlockHead where
  chomping : Chomping
  indentation : Option Nat
  deriving Repr, DecidableEq

def chomping? (c : Char) : Option Chomping :=
  if c = '+' then some .keep else if c = '-' then some .strip else none

def takeChomping (cursor : Cursor) : Chomping × Cursor :=
  match cursor.head?.bind chomping? with
  | some chomping => (chomping, cursor.next)
  | none => (.clip, cursor)

/-- A digit at a place, which is not zero, and the place after it. -/
def takeIndentation (cursor : Cursor) : Except Fault (Option Nat × Cursor) :=
  match cursor.head? with
  | some c =>
    if c = '0' then .error .badBlock
    else if c.isDigit then .ok (some (c.toNat - 0x30), cursor.next)
    else .ok (none, cursor)
  | none => .ok (none, cursor)

/-- The head behind the mark: a sign and a digit in either order. -/
def takeBlockHead (cursor : Cursor) : Except Fault (BlockHead × Cursor) := do
  let (first, after) := takeChomping cursor
  let (indentation, after) ← takeIndentation after
  let (chomping, after) := if first = .clip ∧ indentation.isSome then takeChomping after else (first, after)
  if atSpace after.rest then return (⟨chomping, indentation⟩, after) else throw .badBlock

def keptBreak (c : Char) : Char :=
  if c = '\x85' then '\n' else c

/-- The blanks and line breaks before the first line: the line breaks, the greatest column that blanks reach, and the
place after them. -/
def leadingBlanks : Nat → Nat → Cursor → List Char × Nat × Cursor
  | 0, column, cursor => ([], column, cursor)
  | fuel + 1, column, cursor =>
    match cursor.rest with
    | [] => ([], column, cursor)
    | c :: _ =>
      if isBreak c then
        let (breaks, column, after) := leadingBlanks fuel column cursor.next
        (keptBreak c :: breaks, column, after)
      else if c = ' ' then leadingBlanks fuel (max column cursor.next.column) cursor.next
      else ([], column, cursor)

def skipIndentation (indent : Nat) : Nat → Cursor → Cursor
  | 0, cursor => cursor
  | fuel + 1, cursor =>
    if cursor.column < indent && cursor.head? = some ' ' then skipIndentation indent fuel cursor.next else cursor

def emptyLines (indent : Nat) : Nat → Cursor → List Char × Cursor
  | 0, cursor => ([], cursor)
  | fuel + 1, cursor =>
    let cursor := skipIndentation indent indent cursor
    match cursor.rest with
    | [] => ([], cursor)
    | c :: _ =>
      if isBreak c then
        let (breaks, after) := emptyLines indent fuel cursor.next
        (keptBreak c :: breaks, after)
      else ([], cursor)

/-- The lines of a text in a block: the text up to the end of the last line, the break of that line, the
breaks of the empty lines after it, and the place after all. -/
structure BlockLines where
  text : List Char
  lastBreak : List Char
  emptyBreaks : List Char
  after : Cursor

def atBlockLine (indent : Nat) (cursor : Cursor) : Bool :=
  cursor.column = indent && !cursor.rest.isEmpty

def atBlank (cursor : Cursor) : Bool :=
  cursor.head? = some ' ' || cursor.head? = some '\t'

/-- What stands between two lines, beside the breaks of the empty lines between them. -/
def lineGap (folded : Bool) (line next : Cursor) (lineBreak breaks : List Char) : List Char :=
  if folded && lineBreak = ['\n'] && !atBlank line && !atBlank next then if breaks.isEmpty then [' '] else []
  else lineBreak

/-- The lines from a place on, after the breaks of empty lines. -/
def blockLines (folded : Bool) (indent : Nat) : Nat → List Char → Cursor → BlockLines
  | 0, breaks, cursor => ⟨[], [], breaks, cursor⟩
  | fuel + 1, breaks, cursor =>
    if atBlockLine indent cursor then
      let line := cursor.rest.takeWhile fun c => !isBreak c
      let atBreak := cursor.skip line.length
      let lineBreak := (atBreak.head?.map keptBreak).toList
      let (next, after) := emptyLines indent (atBreak.rest.length + 1) atBreak.next
      if atBlockLine indent after then
        let more := blockLines folded indent fuel next after
        { more with text := breaks ++ line ++ lineGap folded cursor after lineBreak next ++ more.text }
      else ⟨breaks ++ line, lineBreak, next, after⟩
    else ⟨[], [], breaks, cursor⟩

def BlockLines.chomped (lines : BlockLines) : Chomping → List Char
  | .strip => lines.text
  | .clip => lines.text ++ lines.lastBreak
  | .keep => lines.text ++ lines.lastBreak ++ lines.emptyBreaks

/-- The text in a block at its mark, in a block of the least indentation, and the place after it. -/
def takeBlock (folded : Bool) (least : Nat) (cursor : Cursor) : Except Fault (List Char × Cursor) := do
  let (head, after) ← takeBlockHead cursor.next
  let start ← skipRestOfLine after
  let bound := start.rest.length + 1
  let (indent, breaks, first) :=
    match head.indentation with
    | some indentation =>
      let indent := least + indentation - 1
      let (breaks, first) := emptyLines indent bound start
      (indent, breaks, first)
    | none =>
      let (breaks, column, first) := leadingBlanks bound 0 start
      (max least column, breaks, first)
  let lines := blockLines folded indent bound breaks first
  return (lines.chomped head.chomping, lines.after)

end LineScript.Yaml
