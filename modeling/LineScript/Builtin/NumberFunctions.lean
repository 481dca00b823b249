import LineScript.Builtin.GlobalFunctions
import LineScript.Number.Reading

/-!
# Functions of the number class

Reading numbers from the text of a value, and questions about numbers.
-/

namespace LineScript

def askNumber (question : Float → Bool) : Value → Value
  | .number value => .boolean (question value)
  | _ => .boolean false

def NumberFunction.run (scope : FrameId) (function : NumberFunction) : Eval Value := do
  let value ← Eval.argument scope "value"
  match function with
  | .parseFloat => return .number (Number.parseFloat (← Eval.textOf value).toList)
  | .parseInt =>
    let text ← Eval.textOf value
    let radix ← Eval.integerOr "Number.parseInt" 10 (← Eval.argument scope "radix")
    match Number.parseInt text.toList radix with
    | .ok result => return .number result
    | .error reason => Eval.fault (.ofInteger reason)
  | .isNaN => return askNumber Number.isNotANumber value
  | .isFinite => return askNumber Number.isFinite value
  | .isInteger => return askNumber Number.isInteger value

end LineScript
