import LineScript.Text.Visible

/-!
# Quoted text

A text shown as data stands between quotes. Single quotes are preferred; double quotes are taken when the text holds a
single quote and no double quote.
-/

namespace LineScript.Text

def hexDigits (width code : Nat) : List Char :=
  let digits := Nat.toDigits 16 code
  List.replicate (width - digits.length) '0' ++ digits

/-- A character by its number, in the shortest of three widths. -/
def numberedEscape (c : Char) : List Char :=
  let code := c.toNat
  if code ≤ 0xff then '\\' :: 'x' :: hexDigits 2 code
  else if code ≤ 0xffff then '\\' :: 'u' :: hexDigits 4 code
  else '\\' :: 'U' :: hexDigits 8 code

/-- A character inside quotes, where `shown` tells which characters stand for themselves. -/
def quotedChar (shown : Char → Bool) (quote c : Char) : List Char :=
  if c = quote ∨ c = '\\' then ['\\', c]
  else if c = '\n' then ['\\', 'n']
  else if c = '\r' then ['\\', 'r']
  else if c = '\t' then ['\\', 't']
  else if shown c then [c]
  else numberedEscape c

def quoteFor (cs : List Char) : Char :=
  if cs.contains '\x27' && !cs.contains '\x22' then '\x22' else '\x27'

def quoteWith (shown : Char → Bool) (cs : List Char) : List Char :=
  let quote := quoteFor cs
  quote :: cs.flatMap (quotedChar shown quote) ++ [quote]

def quoted (text : String) : String :=
  String.ofList (quoteWith isVisible text.toList)

/-- The text between quotes, with every character beyond ASCII by its number. -/
def quotedAscii (text : String) : String :=
  String.ofList (quoteWith (fun c => c.toNat < 0x80 && isVisible c) text.toList)

end LineScript.Text
