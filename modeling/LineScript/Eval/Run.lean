import LineScript.Builtin.Run
import LineScript.Eval.Tree

/-!
# Running code

Calls nest, and each nested call takes one level. With no level left, a call escapes instead of running.
This closes the recursion between the evaluation of trees and the built-in functions.
-/

namespace LineScript

def runCode (loopSteps : Nat) : Nat → Runner
  | 0 => fun _ _ => throw .tooDeep
  | levels + 1 => fun scope code =>
    let engine : Engine := ⟨runCode loopSteps levels, loopSteps⟩
    match code with
    | .block body => execBlock engine scope body
    | .native native => return .returned (← native.run engine scope)

/-- The number of levels that a recursion limit allows. A nested call counts four times against the limit;
a limit below a thousand counts as a thousand, and no limit allows more than five thousand levels. -/
def callLevels (limit : Int) : Nat :=
  min ((max 1000 limit).toNat / 4) 5000

def loopSteps : Nat :=
  1000000000000000

def engineFor (limit : Int) : Engine :=
  ⟨runCode loopSteps (callLevels limit), loopSteps⟩

end LineScript
