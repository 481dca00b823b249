import LineScript.Source.Diagnostic

/-!
# Errors of reading a program

The cause determines the code, the message and the hints. Causes with codes `E0xx` concern characters, those with codes
`E1xx` concern the structure. Two failures have no diagnostic: a character that looks like a letter or a digit but
starts no name and no number, and a line that was asked for and does not exist.
-/

namespace LineScript.Source

inductive ReadCause where
  | unexpectedCharacter (character : Char)
  | unterminatedText
  | unbalancedBrackets (text : String)
  | invalidEscape (escape : String)
  | noStatement (line : String)
  | missingEnd (line : String)
  | invalidExpression (text : String)
  | unexpectedLine (expected line : String)
  | mismatchedParenthesis (tokens : String)
  | breakOutsideLoop
  deriving Repr, DecidableEq

namespace ReadCause

def isLexical : ReadCause → Bool
  | .unexpectedCharacter _ | .unterminatedText | .unbalancedBrackets _ | .invalidEscape _ => true
  | _ => false

def code : ReadCause → String
  | .unexpectedCharacter _ => "E001"
  | .unterminatedText => "E002"
  | .unbalancedBrackets _ => "E003"
  | .invalidEscape _ => "E005"
  | .noStatement _ => "E101"
  | .missingEnd _ => "E102"
  | .invalidExpression _ => "E103"
  | .unexpectedLine _ _ => "E104"
  | .mismatchedParenthesis _ => "E105"
  | .breakOutsideLoop => "E106"

def message : ReadCause → String
  | .unexpectedCharacter character => "unexpected character '" ++ String.singleton character ++ "'"
  | .unterminatedText => "unterminated text literal"
  | .unbalancedBrackets text => "unbalanced brackets in '" ++ text ++ "'"
  | .invalidEscape escape => "invalid escape sequence '\\" ++ escape ++ "'"
  | .noStatement line => "syntax error: " ++ line
  | .missingEnd line => "missing 'end' for block: " ++ line
  | .invalidExpression text => "invalid expression '" ++ text ++ "'"
  | .unexpectedLine expected line => "expected " ++ expected ++ ", found: " ++ line
  | .mismatchedParenthesis tokens => "mismatched parenthesis in '" ++ tokens ++ "'"
  | .breakOutsideLoop => "'break' outside loop"

def hints : ReadCause → List String
  | .unterminatedText => ["text literals must be closed with matching quotes"]
  | .invalidEscape _ => ["valid escape sequences: \\n, \\r, \\t, \\\\, \\', \\\""]
  | _ => []

end ReadCause

inductive ReadError where
  | reported (cause : ReadCause) (site : Option Site)
  /-- A character of the class of letters or digits that starts no name and no number. -/
  | strayCharacter (character : Char)
  | noSuchLine
  deriving Repr, DecidableEq

def ReadError.diagnostic? : ReadError → Option Diagnostic
  | .reported cause site => some (.placed cause.code cause.message site cause.hints)
  | _ => none

end LineScript.Source
