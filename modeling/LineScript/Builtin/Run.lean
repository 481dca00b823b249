import LineScript.Builtin.ExceptionMethods
import LineScript.Builtin.ListMethods
import LineScript.Builtin.NumberFunctions
import LineScript.Builtin.TextMethods

/-!
# Running built-in functions
-/

namespace LineScript

def Native.run (engine : Engine) (scope : FrameId) : Native → Eval Value
  | .global function => function.run engine.run scope
  | .functionMethod method => method.run engine.run scope
  | .classMethod method => method.run scope
  | .textMethod method => method.run scope
  | .formatText => runFormatText engine.run scope
  | .listMethod method => method.run engine scope
  | .createList => runCreateList scope
  | .numberFunction function => function.run scope
  | .exceptionMethod method => method.run engine.run scope

end LineScript
