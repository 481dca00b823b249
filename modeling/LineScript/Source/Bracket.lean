import LineScript.Source.ReadError
import LineScript.Text.Blank

/-!
# Text literals and bracket groups

`skipText` passes over the rest of a text literal, where a backslash hides the character after it. `skipGroup` passes
over a bracket group, and counts round and square brackets alike outside text literals. `splitTopLevel` cuts a text at
the separators outside brackets and literals. `decodeText` gives the text that a literal stands for.
-/

namespace LineScript.Source

open LineScript.Text

def isQuote (c : Char) : Bool :=
  c == '\x27' || c == '\x22'

def isOpening (c : Char) : Bool :=
  c == '(' || c == '['

def isClosing (c : Char) : Bool :=
  c == ')' || c == ']'

/-- The characters after the closing quote of a literal whose opening quote was passed. -/
def skipText (quote : Char) : List Char → Option (List Char)
  | [] => none
  | '\\' :: [] => none
  | '\\' :: _ :: rest => skipText quote rest
  | c :: rest => if c = quote then some rest else skipText quote rest

/-- The characters after the bracket that brings the depth back to zero, where `quote` is the quote of
the literal that the scan is in. -/
def skipGroupFrom (depth : Int) (quote : Option Char) : List Char → Except ReadCause (List Char)
  | [] =>
    match quote with
    | some _ => .error .unterminatedText
    | none => .error (.unbalancedBrackets "")
  | c :: rest =>
    match quote with
    | some q =>
      if c = '\\' then
        match rest with
        | [] => .error .unterminatedText
        | _ :: rest => skipGroupFrom depth (some q) rest
      else if c = q then skipGroupFrom depth none rest
      else skipGroupFrom depth (some q) rest
    | none =>
      if isQuote c then skipGroupFrom depth (some c) rest
      else if isOpening c then skipGroupFrom (depth + 1) none rest
      else if isClosing c then
        if depth = 1 then .ok rest else skipGroupFrom (depth - 1) none rest
      else skipGroupFrom depth none rest

def skipGroup (cs : List Char) : Except ReadCause (List Char) :=
  match skipGroupFrom 0 none cs with
  | .error (.unbalancedBrackets _) => .error (.unbalancedBrackets (String.ofList cs))
  | result => result

def consumed (cs rest : List Char) : List Char :=
  cs.take (cs.length - rest.length)

/-! ## Cutting at separators -/

/-- The segments between the separators outside brackets and literals, where `part` is the current
segment, last character first. Brackets are only counted, so the depth may fall below zero. -/
def segmentsFrom (separator : String) (depth : Int) (quote : Option Char) (part : List Char) :
    List Char → List (List Char)
  | [] => [part.reverse]
  | c :: rest =>
    match quote with
    | some q =>
      if c = '\\' then
        match rest with
        | [] => [(c :: part).reverse]
        | d :: rest => segmentsFrom separator depth (some q) (d :: c :: part) rest
      else if c = q then segmentsFrom separator depth none (c :: part) rest
      else segmentsFrom separator depth (some q) (c :: part) rest
    | none =>
      if isQuote c then segmentsFrom separator depth (some c) (c :: part) rest
      else if isOpening c then segmentsFrom separator (depth + 1) none (c :: part) rest
      else if isClosing c then segmentsFrom separator (depth - 1) none (c :: part) rest
      else if String.singleton c = separator ∧ depth = 0 then
        part.reverse :: segmentsFrom separator depth none [] rest
      else segmentsFrom separator depth none (c :: part) rest

/-- The trimmed segments between the separators outside brackets and literals. A blank text has none. -/
def splitTopLevelAt (separator : String) (cs : List Char) : List (List Char) :=
  match (segmentsFrom separator 0 none [] cs).map trim with
  | [[]] => []
  | segments => segments

def splitTopLevel (cs : List Char) : List (List Char) :=
  splitTopLevelAt "," cs

/-! ## Literals -/

def unescape? : Char → Option Char
  | 'n' => some '\n'
  | 'r' => some '\r'
  | 't' => some '\t'
  | '\\' => some '\\'
  | '\x27' => some '\x27'
  | '\x22' => some '\x22'
  | _ => none

def decodeBody : List Char → Except ReadCause (List Char)
  | [] => .ok []
  | '\\' :: [] => .error (.invalidEscape "")
  | '\\' :: c :: rest =>
    match unescape? c with
    | none => .error (.invalidEscape (String.singleton c))
    | some d => (decodeBody rest).map (d :: ·)
  | c :: rest => (decodeBody rest).map (c :: ·)

def decodeText (raw : List Char) : Except ReadCause (List Char) :=
  decodeBody (raw.drop 1).dropLast

/-! ## Scans from a position

A position below zero counts from the end, and a scan from there runs on through all the elements from
the first one.
-/

def tailAt {α : Type} (items : List α) (start : Int) : List α :=
  if 0 ≤ start then items.drop start.toNat else items.drop ((items.length : Int) + start).toNat

/-- The elements that a scan from a position meets; nothing if there is no such position. -/
def scanAt? {α : Type} (items : List α) (start : Int) : Option (List α) :=
  if 0 ≤ start then some (tailAt items start)
  else if -(items.length : Int) ≤ start then some (tailAt items start ++ items)
  else none

def elementAt? {α : Type} (items : List α) (position : Int) : Option α :=
  (scanAt? items position).bind List.head?

def scanEnd {α : Type} (start : Int) (met rest : List α) : Int :=
  start + ((met.length : Int) - rest.length)

/-- The position after the literal that starts at a position; nothing if there is no such position. -/
def scanText? (text : List Char) (start : Int) : Option (Except ReadCause Int) :=
  match scanAt? text start with
  | some (quote :: rest) =>
    match skipText quote rest with
    | some after => some (.ok (scanEnd start (quote :: rest) after))
    | none => some (.error .unterminatedText)
  | _ => none

/-- The position after the bracket group that starts at a position; nothing if there is no such
position. -/
def scanGroup? (text : List Char) (start : Int) : Option (Except ReadCause Int) :=
  (scanAt? text start).map fun met =>
    match skipGroupFrom 0 none met with
    | .ok after => .ok (scanEnd start met after)
    | .error (.unbalancedBrackets _) =>
      .error (.unbalancedBrackets (String.ofList (tailAt text start)))
    | .error cause => .error cause

end LineScript.Source
