/-!
# Places in a document

A document is read from its start to its end. A place in it is the text from there on, together with how many characters
stand before it, and in which line and column it is. Lines and columns count from zero.
-/

namespace LineScript.Yaml

/-! ## Characters -/

def isBreak (c : Char) : Bool :=
  c = '\n' || c = '\x85' || c = '\u2028' || c = '\u2029'

def isGap (c : Char) : Bool :=
  c = ' ' || c = '\t' || isBreak c

def atGap : List Char → Bool
  | [] => true
  | c :: _ => isGap c

def orderMark : Char :=
  '\ufeff'

def isAllowed (c : Char) : Bool :=
  c = '\t' || c = '\n' || c = '\r' || c = '\x85' || (0x20 ≤ c.toNat && c.toNat ≤ 0x7e) ||
    (0xa0 ≤ c.toNat && c.toNat ≤ 0xfffd) || 0x10000 ≤ c.toNat

/-- The text is at a mark that separates documents: three dashes or three dots, and a gap. -/
def atSeparator : List Char → Bool
  | '-' :: '-' :: '-' :: rest => atGap rest
  | '.' :: '.' :: '.' :: rest => atGap rest
  | _ => false

/-! ## Places -/

structure Cursor where
  rest : List Char
  index : Nat
  line : Nat
  column : Nat
  deriving Repr, DecidableEq

namespace Cursor

def start (document : List Char) : Cursor :=
  ⟨document, 0, 0, 0⟩

def next (cursor : Cursor) : Cursor :=
  match cursor.rest with
  | [] => cursor
  | c :: rest =>
    if isBreak c then ⟨rest, cursor.index + 1, cursor.line + 1, 0⟩
    else ⟨rest, cursor.index + 1, cursor.line, if c = orderMark then cursor.column else cursor.column + 1⟩

def skip : Nat → Cursor → Cursor
  | 0, cursor => cursor
  | count + 1, cursor => skip count cursor.next

def skipWhile (kind : Char → Bool) (cursor : Cursor) : Cursor :=
  cursor.skip (cursor.rest.takeWhile kind).length

def head? (cursor : Cursor) : Option Char :=
  cursor.rest.head?

end Cursor

end LineScript.Yaml
