import LineScript.Expression.Operator
import LineScript.Number.Reading
import LineScript.Source.Bracket
import LineScript.Source.Name

/-!
# Tokens of an expression

An expression is cut into parentheses, operators and operands, each token as long as it can be. An operand is kept
whole: a literal or a name goes on with every `.name` and every argument list that follows it directly. A minus sign is
a unary operator at the start, after an operator and after an opening parenthesis.
-/

namespace LineScript.Expression

open LineScript.Text LineScript.Source LineScript.Number

inductive Token where
  | operand (text : List Char)
  | binary (operator : BinaryOperator)
  | unary (operator : UnaryOperator)
  | opening
  | closing
  deriving Repr, DecidableEq

namespace Token

/-- The text of a token; unary minus is written as a word. -/
def text : Token → String
  | .operand text => String.ofList text
  | .binary operator => operator.symbol
  | .unary operator => operator.symbol
  | .opening => "("
  | .closing => ")"

def kindName : Token → String
  | .operand _ => "OPERAND"
  | .binary _ => "OPERATOR"
  | .unary _ => "UNARY"
  | .opening => "LPAREN"
  | .closing => "RPAREN"

def expectsOperand : Token → Bool
  | .binary _ | .unary _ | .opening => true
  | .operand _ | .closing => false

end Token

/-- Why a text has no tokens: a cause with a diagnostic, or a character that looks like a letter or a
digit and starts no name and no number. -/
inductive TokenError where
  | reported (cause : ReadCause)
  | stray (character : Char)
  deriving Repr, DecidableEq

def TokenError.at (site : Option Site) : TokenError → ReadError
  | .reported cause => .reported cause site
  | .stray character => .strayCharacter character

def afterGroup (cs : List Char) : Except TokenError (List Char) :=
  match skipGroup cs with
  | .ok rest => .ok rest
  | .error cause => .error (.reported cause)

/-- The text after the `.name` and argument lists at the start of a text. -/
def afterChain : Nat → List Char → Except TokenError (List Char)
  | 0, cs => .ok cs
  | _ + 1, [] => .ok []
  | fuel + 1, c :: rest =>
    if c = '(' then
      match afterGroup (c :: rest) with
      | .ok after => afterChain fuel after
      | .error error => .error error
    else if c = '.' then
      match rest with
      | d :: _ =>
        if isLetter d || d = '_' then
          match splitName? rest with
          | some (_, after) => afterChain fuel after
          | none => .error (.stray d)
        else .ok (c :: rest)
      | [] => .ok (c :: rest)
    else .ok (c :: rest)

/-- The operand whose first part ends before `rest`, with the text after it. -/
def chainedOperand (cs rest : List Char) : Except TokenError (Token × List Char) :=
  match afterChain rest.length rest with
  | .ok after => .ok (.operand (consumed cs after), after)
  | .error error => .error error

def splitOperator? : List Char → Option (Operator × List Char)
  | '=' :: '=' :: rest => some (.equal, rest)
  | '!' :: '=' :: rest => some (.notEqual, rest)
  | '<' :: '=' :: rest => some (.lessEqual, rest)
  | '>' :: '=' :: rest => some (.greaterEqual, rest)
  | '<' :: '<' :: rest => some (.shiftLeft, rest)
  | '>' :: '>' :: rest => some (.shiftRight, rest)
  | '+' :: rest => some (.add, rest)
  | '-' :: rest => some (.subtract, rest)
  | '*' :: rest => some (.multiply, rest)
  | '/' :: rest => some (.divide, rest)
  | '%' :: rest => some (.modulo, rest)
  | '&' :: rest => some (.bitAnd, rest)
  | '|' :: rest => some (.bitOr, rest)
  | '^' :: rest => some (.bitXor, rest)
  | '<' :: rest => some (.less, rest)
  | '>' :: rest => some (.greater, rest)
  | _ => none

/-- The token that a word starts: a word operator, or an operand. -/
def wordToken (cs name rest : List Char) : Except TokenError (Token × List Char) :=
  if name = "and".toList then .ok (.binary (.connect .conjunction), rest)
  else if name = "or".toList then .ok (.binary (.connect .disjunction), rest)
  else if name = "not".toList then .ok (.unary .complement, rest)
  else chainedOperand cs rest

def operandToken (c : Char) (rest : List Char) : Except TokenError (Token × List Char) :=
  if isQuote c then
    match skipText c rest with
    | some after => chainedOperand (c :: rest) after
    | none => .error (.reported .unterminatedText)
  else if isDigitLike c then
    if isDecimal c then
      let (numeral, after) := Numeral.split (c :: rest)
      .ok (.operand numeral.text, after)
    else .error (.stray c)
  else if c = '[' then
    match afterGroup (c :: rest) with
    | .ok after => chainedOperand (c :: rest) after
    | .error error => .error error
  else if isLetter c || c = '_' then
    match splitName? (c :: rest) with
    | some (name, after) => wordToken (c :: rest) name after
    | none => .error (.stray c)
  else .error (.reported (.unexpectedCharacter c))

/-- The token at the start of a text whose first character is `c` and not a blank, with the text after
it. -/
def nextToken (expectsOperand : Bool) (c : Char) (rest : List Char) : Except TokenError (Token × List Char) :=
  if c = '(' then .ok (.opening, rest)
  else if c = ')' then .ok (.closing, rest)
  else
    match splitOperator? (c :: rest) with
    | some (.subtract, after) =>
      .ok (if expectsOperand then .unary .negate else .binary (.apply .subtract), after)
    | some (operator, after) => .ok (.binary (.apply operator), after)
    | none => operandToken c rest

def tokensFrom : Nat → Bool → List Char → Except TokenError (List Token)
  | 0, _, _ => .ok []
  | _ + 1, _, [] => .ok []
  | fuel + 1, expectsOperand, c :: rest =>
    if isBlank c then tokensFrom fuel expectsOperand rest
    else
      match nextToken expectsOperand c rest with
      | .error error => .error error
      | .ok (token, after) => (tokensFrom fuel token.expectsOperand after).map (token :: ·)

def tokenize (cs : List Char) : Except TokenError (List Token) :=
  tokensFrom cs.length true cs

end LineScript.Expression
