/-!
# Operators

The binary operators of the language fall into two kinds. An `Operator` is applied to two values. A
`Connective` looks at the truth of its operands and may leave the second one alone. Each has a symbol and
a priority, and an operator with a higher priority binds tighter.
-/

namespace LineScript

inductive Operator where
  | add
  | subtract
  | multiply
  | divide
  | modulo
  | bitAnd
  | bitOr
  | bitXor
  | shiftLeft
  | shiftRight
  | less
  | greater
  | lessEqual
  | greaterEqual
  | equal
  | notEqual
  deriving Repr, DecidableEq

namespace Operator

def all : List Operator :=
  [.add, .subtract, .multiply, .divide, .modulo, .bitAnd, .bitOr, .bitXor, .shiftLeft, .shiftRight,
    .less, .greater, .lessEqual, .greaterEqual, .equal, .notEqual]

def symbol : Operator → String
  | .add => "+"
  | .subtract => "-"
  | .multiply => "*"
  | .divide => "/"
  | .modulo => "%"
  | .bitAnd => "&"
  | .bitOr => "|"
  | .bitXor => "^"
  | .shiftLeft => "<<"
  | .shiftRight => ">>"
  | .less => "<"
  | .greater => ">"
  | .lessEqual => "<="
  | .greaterEqual => ">="
  | .equal => "=="
  | .notEqual => "!="

def priority : Operator → Nat
  | .equal | .notEqual | .less | .greater | .lessEqual | .greaterEqual => 4
  | .bitOr => 5
  | .bitXor => 6
  | .bitAnd => 7
  | .shiftLeft | .shiftRight => 8
  | .add | .subtract => 9
  | .multiply | .divide | .modulo => 10

def ofSymbol? (symbol : String) : Option Operator :=
  all.find? fun operator => operator.symbol == symbol

end Operator

inductive Connective where
  | conjunction
  | disjunction
  deriving Repr, DecidableEq

inductive BinaryOperator where
  | apply (operator : Operator)
  | connect (connective : Connective)
  deriving Repr, DecidableEq

namespace BinaryOperator

def symbol : BinaryOperator → String
  | .apply operator => operator.symbol
  | .connect .conjunction => "and"
  | .connect .disjunction => "or"

def priority : BinaryOperator → Nat
  | .apply operator => operator.priority
  | .connect .conjunction => 2
  | .connect .disjunction => 1

def ofSymbol? (symbol : String) : Option BinaryOperator :=
  if symbol = "and" then some (.connect .conjunction)
  else if symbol = "or" then some (.connect .disjunction)
  else (Operator.ofSymbol? symbol).map .apply

end BinaryOperator

inductive UnaryOperator where
  | negate
  | complement
  deriving Repr, DecidableEq

namespace UnaryOperator

def symbol : UnaryOperator → String
  | .negate => "neg"
  | .complement => "not"

def priority : UnaryOperator → Nat
  | .negate => 11
  | .complement => 3

def ofSymbol? (symbol : String) : Option UnaryOperator :=
  if symbol = "neg" then some .negate else if symbol = "not" then some .complement else none

end UnaryOperator

end LineScript
