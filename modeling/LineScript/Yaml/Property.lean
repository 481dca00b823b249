import LineScript.Encoding.Unicode
import LineScript.Number.Reading
import LineScript.Yaml.Cursor
import LineScript.Yaml.Fault

/-!
# Anchors and tags

A node may have a name, which an anchor gives it and by which an alias repeats it, and a tag. A tag is written with a
handle, which stands for the first part of its name, or between angle brackets in full.
-/

namespace LineScript.Yaml

def atSpace : List Char → Bool
  | [] => true
  | c :: _ => c = ' ' || isBreak c

/-- The character may stand in the name of an anchor, a handle or a directive. -/
def isNameCharacter (c : Char) : Bool :=
  c.isAlphanum || c = '-' || c = '_'

def takeName (cursor : Cursor) : List Char × Cursor :=
  let name := cursor.rest.takeWhile isNameCharacter
  (name, cursor.skip name.length)

def anchorName (cursor : Cursor) : Except Fault (List Char × Cursor) :=
  let (name, after) := takeName cursor
  if name.isEmpty then .error .badProperty
  else if atGap after.rest || (after.head?.map "?:,]\x7d%@`".toList.contains).getD false then .ok (name, after)
  else .error .badProperty

/-! ## Names of tags -/

def isTagCharacter (c : Char) : Bool :=
  c.isAlphanum || "-;/?:@&=+$,_.!~*'()[]".toList.contains c

def takeBytes : Nat → Cursor → Except Fault (List UInt8 × Cursor)
  | 0, _ => .error .badProperty
  | fuel + 1, cursor =>
    match cursor.rest with
    | '%' :: high :: low :: _ =>
      if Number.isRadixDigit 16 high && Number.isRadixDigit 16 low then do
        let (bytes, after) ← takeBytes fuel (cursor.skip 3)
        return (UInt8.ofNat (Number.radixRun 16 [high, low]) :: bytes, after)
      else .error .badProperty
    | '%' :: _ => .error .badProperty
    | _ => .ok ([], cursor)

def takeTagName : Nat → Cursor → Except Fault (List Char × Cursor)
  | 0, _ => .error .badProperty
  | fuel + 1, cursor =>
    let run := cursor.rest.takeWhile isTagCharacter
    let after := cursor.skip run.length
    if after.head? = some '%' then do
      let (bytes, after) ← takeBytes (after.rest.length + 1) after
      let cs ← (Encoding.decodeUtf8 bytes).mapError fun _ => .badProperty
      let (more, after) ← takeTagName fuel after
      return (run ++ cs ++ more, after)
    else .ok (run, after)

def tagName (cursor : Cursor) : Except Fault (List Char × Cursor) := do
  let (name, after) ← takeTagName (cursor.rest.length + 1) cursor
  if name.isEmpty then .error .badProperty else return (name, after)

/-- The handle at a place: an exclamation mark alone, or two with a name between them. -/
def takeHandle (cursor : Cursor) : Except Fault (List Char × Cursor) :=
  if cursor.head? ≠ some '!' then .error .badProperty
  else
    let (name, after) := takeName cursor.next
    if cursor.next.head? = some ' ' then .ok (['!'], cursor.next)
    else if after.head? = some '!' then .ok ('!' :: name ++ ['!'], after.next)
    else .error .badProperty

structure TagText where
  handle : Option (List Char)
  name : List Char
  deriving Repr, DecidableEq

def tagBeforeSpace (cursor : Cursor) : Except Fault (TagText × Cursor) := do
  let rest := cursor.next.rest
  if rest.head? = some '<' then
    let (name, after) ← tagName (cursor.skip 2)
    if after.head? = some '>' then return (⟨none, name⟩, after.next) else throw .badProperty
  else if atGap rest then return (⟨none, ['!']⟩, cursor.next)
  else
    let word := rest.takeWhile fun c => !(c = ' ' || isBreak c)
    let (handle, after) ← if word.contains '!' then takeHandle cursor else pure (['!'], cursor.next)
    let (name, after) ← tagName after
    return (⟨some handle, name⟩, after)

/-- The tag at its exclamation mark. A space or the end of the line follows it. -/
def takeTag (cursor : Cursor) : Except Fault (TagText × Cursor) := do
  let (tag, after) ← tagBeforeSpace cursor
  if atSpace after.rest then return (tag, after) else throw .badProperty

end LineScript.Yaml
