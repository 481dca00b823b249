import LineScript.Text.Digit
import LineScript.Text.Letter

/-!
# Names

A name starts with an ASCII letter or an underscore and goes on with letters, digits and underscores of
any script.
-/

namespace LineScript.Source

open LineScript.Text

def splitName? : List Char → Option (List Char × List Char)
  | [] => none
  | c :: rest =>
    if isNameStart c then some (c :: rest.takeWhile isWord, rest.dropWhile isWord) else none

def isName : List Char → Bool
  | [] => false
  | c :: rest => isNameStart c && rest.all isWord

def splitDots (part : List Char) : List Char → List (List Char)
  | [] => [part.reverse]
  | c :: rest => if c = '.' then part.reverse :: splitDots [] rest else splitDots (c :: part) rest

def isPathChar (c : Char) : Bool :=
  c = '.' || isWord c

def splitPath? (cs : List Char) : Option (List (List Char) × List Char) :=
  let names := splitDots [] (cs.takeWhile isPathChar)
  if names.all isName then some (names, cs.dropWhile isPathChar) else none

def pathText (names : List (List Char)) : String :=
  String.ofList (List.intercalate ['.'] names)

end LineScript.Source
