import LineScript.Number.Written
import LineScript.Text.Quoted

/-!
# Faults of templates

Why a template cannot be filled, and what is said about it.
-/

namespace LineScript.Text

open LineScript.Number (digitsOf)

inductive TemplateFault where
  | singleClosing
  | singleOpening
  | openingInName
  | missingClosing
  | missingConversion
  | missingColon
  | unmatchedForm
  | unknownConversion (conversion : Char)
  | tooNested
  | fromManual
  | fromAutomatic
  | noArgument (index : Nat)
  | noName (name : String)
  | noKey (key : String)
  | tooManyDigits
  | emptyAttribute
  | missingBracket
  | afterBracket
  | indexOutOfRange
  | rowIndexOutOfRange
  | missingPrecision
  | bothSeparators
  | invalidForm (form kind : String)
  | separatorWith (separator type : Char)
  | unknownType (type : Char) (kind : String)
  | space
  | sign
  | zeroSign
  | alternate
  | equalsAlignment
  | integerPrecision
  | integerZeroSign
  | characterSign
  | characterAlternate
  | greatPrecision
  | noCharacter
  | attribute
  /-- A text or a row is indexed by a name, or something else is indexed. -/
  | indexType
  | formType
  deriving Repr, DecidableEq

/-- A character in a message: itself if its number is between 32 and a limit, and else its number. -/
def characterText (limit : Nat) (c : Char) : String :=
  if 32 < c.toNat ∧ c.toNat < limit then String.singleton c
  else "\\x" ++ String.ofList (hexDigits 1 c.toNat)

def conversionText : Char → String :=
  characterText 127

def typeText : Char → String :=
  characterText 128

namespace TemplateFault

def message : TemplateFault → String
  | .singleClosing => "Single '\x7d' encountered in format string"
  | .singleOpening => "Single '\x7b' encountered in format string"
  | .openingInName => "unexpected '\x7b' in field name"
  | .missingClosing => "expected '\x7d' before end of string"
  | .missingConversion => "end of string while looking for conversion specifier"
  | .missingColon => "expected ':' after conversion specifier"
  | .unmatchedForm => "unmatched '\x7b' in format spec"
  | .unknownConversion c => "Unknown conversion specifier " ++ conversionText c
  | .tooNested => "Max string recursion exceeded"
  | .fromManual => "cannot switch from manual field specification to automatic field numbering"
  | .fromAutomatic => "cannot switch from automatic field numbering to manual field specification"
  | .noArgument index =>
    "Replacement index " ++ digitsOf index ++ " out of range for positional args tuple"
  | .noName name => quoted name
  | .noKey key => key
  | .tooManyDigits => "Too many decimal digits in format string"
  | .emptyAttribute => "Empty attribute in format string"
  | .missingBracket => "Missing ']' in format string"
  | .afterBracket => "Only '.' or '[' may follow ']' in format field specifier"
  | .indexOutOfRange => "string index out of range"
  | .rowIndexOutOfRange => "tuple index out of range"
  | .missingPrecision => "Format specifier missing precision"
  | .bothSeparators => "Cannot specify both ',' and '_'."
  | .invalidForm form kind => "Invalid format specifier '" ++ form ++ "' for object of type '" ++ kind ++ "'"
  | .separatorWith separator type =>
    "Cannot specify '" ++ String.singleton separator ++ "' with '" ++ typeText type ++ "'."
  | .unknownType type kind => "Unknown format code '" ++ typeText type ++ "' for object of type '" ++ kind ++ "'"
  | .space => "Space not allowed in string format specifier"
  | .sign => "Sign not allowed in string format specifier"
  | .zeroSign => "Negative zero coercion (z) not allowed in string format specifier"
  | .alternate => "Alternate form (#) not allowed in string format specifier"
  | .equalsAlignment => "'=' alignment not allowed in string format specifier"
  | .integerPrecision => "Precision not allowed in integer format specifier"
  | .integerZeroSign => "Negative zero coercion (z) not allowed in integer format specifier"
  | .characterSign => "Sign not allowed with integer format specifier 'c'"
  | .characterAlternate => "Alternate form (#) not allowed with integer format specifier 'c'"
  | .greatPrecision => "precision too big"
  | .noCharacter => "%c arg not in range(0x110000)"
  | .attribute => "the value has no such attribute"
  | .indexType => "string indices must be integers, not 'str'"
  | .formType => "the value takes no form"

end TemplateFault

end LineScript.Text
