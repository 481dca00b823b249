import LineScript.Calendar
import LineScript.Number.Limit
import LineScript.Text.Quoted

/-!
# Faults of documents

Why a text is no document that can be read.
-/

namespace LineScript.Yaml

inductive Fault where
  | forbiddenCharacter (c : Char)
  | unexpectedCharacter (c : Char)
  | unclosedText
  | badEscape
  | noCharacter
  /-- A number after a backslash that is beyond the numbers of 31 bits. -/
  | codeTooLarge
  | keyWithoutColon
  /-- An entry, a key or a value where none may start. -/
  | misplaced
  | unopenedBracket
  | badStructure
  | secondDocument
  | collectionKey
  | reservedWord
  | badMerge
  /-- An anchor, an alias or a tag that is not written like one. -/
  | badProperty
  /-- A directive that is not written like one, or that contradicts another one. -/
  | badDirective
  /-- Something behind a directive or the head of a text. -/
  | badLine
  | badBlock
  | unknownHandle
  | repeatedAnchor
  | unknownAlias
  | unknownTag
  | wrongKind
  | badBytes
  | emptyNumber
  | unknownBoolean
  | noMoment
  | badInteger (radix : Nat) (text : String)
  | badNumber (text : String)
  | tooManyDigits (count : Nat)
  /-- A number of so many parts of base sixty that the first of them counts more than any number can be. -/
  | tooManyParts
  | moment (reason : Calendar.Fault)
  deriving Repr, DecidableEq

def Fault.message? : Fault → Option String
  | .badInteger radix text =>
    some ("invalid literal for int() with base " ++ Number.digitsOf radix ++ ": " ++
      String.ofList ((Text.quoted text).toList.take 200))
  | .badNumber text => some ("could not convert string to float: " ++ Text.quoted text)
  | .tooManyDigits count => some (Number.tooManyDigitsText count)
  | .noCharacter => some "chr() arg not in range(0x110000)"
  | .moment reason => some reason.message
  | _ => none

end LineScript.Yaml
