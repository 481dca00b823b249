import LineScript.Expression.Token

/-!
# Postfix order

Tokens in infix order become a list in which each operator follows its operands. Operators wait on a
stack; a binary operator first releases the waiting operators of at least its own priority, down to the
nearest opening parenthesis, and a unary operator releases none.
-/

namespace LineScript.Expression

inductive PostfixItem where
  | operand (text : List Char)
  | binary (operator : BinaryOperator)
  | unary (operator : UnaryOperator)
  deriving Repr, DecidableEq

def PostfixItem.token : PostfixItem → Token
  | .operand text => .operand text
  | .binary operator => .binary operator
  | .unary operator => .unary operator

inductive Pending where
  | opening
  | binary (operator : BinaryOperator)
  | unary (operator : UnaryOperator)
  deriving Repr, DecidableEq

def Pending.operator? : Pending → Option (PostfixItem × Nat)
  | .opening => none
  | .binary operator => some (.binary operator, operator.priority)
  | .unary operator => some (.unary operator, operator.priority)

/-- The waiting operators of at least a priority above the nearest opening parenthesis, with the stack
below them. -/
def release (least : Nat) : List Pending → List PostfixItem × List Pending
  | [] => ([], [])
  | entry :: below =>
    match entry.operator? with
    | none => ([], entry :: below)
    | some (item, priority) =>
      if least ≤ priority then
        let (items, rest) := release least below
        (item :: items, rest)
      else ([], entry :: below)

/-- The postfix list of the tokens, above a stack; nothing if the parentheses do not match. -/
def shunt : List Pending → List Token → Option (List PostfixItem)
  | stack, [] =>
    match release 0 stack with
    | (items, []) => some items
    | _ => none
  | stack, .operand text :: tokens => (shunt stack tokens).map (.operand text :: ·)
  | stack, .opening :: tokens => shunt (.opening :: stack) tokens
  | stack, .unary operator :: tokens => shunt (.unary operator :: stack) tokens
  | stack, .binary operator :: tokens =>
    let (items, below) := release operator.priority stack
    (shunt (.binary operator :: below) tokens).map (items ++ ·)
  | stack, .closing :: tokens =>
    match release 0 stack with
    | (items, _ :: below) => (shunt below tokens).map (items ++ ·)
    | (_, []) => none

def toPostfix (tokens : List Token) : Except Source.ReadCause (List PostfixItem) :=
  match shunt [] tokens with
  | some items => .ok items
  | none => .error (.mismatchedParenthesis (" ".intercalate (tokens.map Token.text)))

end LineScript.Expression
