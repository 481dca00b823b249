import LineScript.Eval.Basic
import LineScript.Number.Word

/-!
# Operators on values

Addition joins texts if one operand is a text; all other arithmetic is on numbers, where a boolean counts
as zero or one. The bit operators work on words of 32 bits. Comparison orders two texts by their
characters or two numbers.
-/

namespace LineScript

namespace Operator

def onNumbers : Operator → Float → Float → Value
  | .add, left, right => .number (left + right)
  | .subtract, left, right => .number (left - right)
  | .multiply, left, right => .number (left * right)
  | .divide, left, right => .number (left / right)
  | .modulo, left, right => .number (Number.modulo left right)
  | .bitAnd, left, right =>
    .number (Number.Word.toFloat (Number.Word.ofFloat left &&& Number.Word.ofFloat right))
  | .bitOr, left, right =>
    .number (Number.Word.toFloat (Number.Word.ofFloat left ||| Number.Word.ofFloat right))
  | .bitXor, left, right =>
    .number (Number.Word.toFloat (Number.Word.ofFloat left ^^^ Number.Word.ofFloat right))
  | .shiftLeft, left, right =>
    .number (Number.Word.toFloat
      (Number.Word.shiftLeft (Number.Word.ofFloat left) (Number.Word.ofFloat right)))
  | .shiftRight, left, right =>
    .number (Number.Word.toFloat
      (Number.Word.shiftRight (Number.Word.ofFloat left) (Number.Word.ofFloat right)))
  | .less, left, right => .boolean (left < right)
  | .greater, left, right => .boolean (right < left)
  | .lessEqual, left, right => .boolean (left ≤ right)
  | .greaterEqual, left, right => .boolean (right ≤ left)
  | .equal, left, right => .boolean (left == right)
  | .notEqual, left, right => .boolean (!(left == right))

def onTexts? : Operator → String → String → Option Value
  | .less, left, right => some (.boolean (left < right))
  | .greater, left, right => some (.boolean (right < left))
  | .lessEqual, left, right => some (.boolean (!(right < left)))
  | .greaterEqual, left, right => some (.boolean (!(left < right)))
  | _, _, _ => none

/-- An operator on values that are not joined as texts and not compared for equality; nothing if it does
not take them. -/
def onOperands? (operator : Operator) (left right : Value) : Option Value :=
  match left, right with
  | .text left, .text right => operator.onTexts? left right
  | _, _ =>
    match left.numeric?, right.numeric? with
    | some left, some right => some (operator.onNumbers left right)
    | _, _ => none

def isText : Value → Bool
  | .text _ => true
  | _ => false

def apply (operator : Operator) (left right : Value) : Eval Value :=
  match operator with
  | .equal => return .boolean (left.same right)
  | .notEqual => return .boolean (!left.same right)
  | _ =>
    if operator = .add && (isText left || isText right) then do
      let first ← Eval.textOf left
      let second ← Eval.textOf right
      return .text (first ++ second)
    else
      match operator.onOperands? left right with
      | some value => return value
      | none => do
        let first ← Eval.describe left
        let second ← Eval.describe right
        Eval.fail (.unsupportedOperands operator.symbol first second)

end Operator

def UnaryOperator.apply (operator : UnaryOperator) (operand : Value) : Eval Value :=
  match operator with
  | .complement => return .boolean (!operand.truthy)
  | .negate =>
    match operand.numeric? with
    | some value => return .number (-value)
    | none => do Eval.fail (.unsupportedOperand "-" (← Eval.describe operand))

end LineScript
