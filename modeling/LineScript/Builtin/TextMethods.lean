import LineScript.Builtin.GlobalFunctions
import LineScript.Text.Casing
import LineScript.Text.Search
import LineScript.Text.Template

/-!
# Methods of texts

Positions count characters from zero. A position outside a text is moved to its nearest end where a part
is taken, and gives the empty text where one character is.
-/

namespace LineScript

def clamp (length : Nat) (position : Int) : Nat :=
  min position.toNat length

def partBetween (cs : List Char) (first last : Int) : List Char :=
  let first := clamp cs.length first
  let last := clamp cs.length last
  Text.slice cs (min first last) (max first last)

def characterAt (cs : List Char) (position : Int) : String :=
  if 0 ≤ position then
    match cs[position.toNat]? with
    | some c => String.singleton c
    | none => ""
  else ""

def positionOf (cs part : List Char) (start : Int) : Float :=
  match Text.find? part cs start.toNat with
  | some position => Number.ofInteger position
  | none => -1.0

namespace TextMethod

def label (method : TextMethod) : String :=
  "String." ++ method.name

def run (scope : FrameId) (method : TextMethod) : Eval Value := do
  let this ← Eval.receiver scope
  match method with
  | .init =>
    let value ← Eval.argument scope "value"
    let content ← if isNull value then pure "" else Eval.textOf value
    match this with
    | .instance id => modify fun store => store.setPayload id (.text content)
    | _ => pure ()
    return .null
  | .length =>
    let content ← Eval.textReceiver method.label this
    return .number (Number.ofInteger content.length)
  | .toUpperCase =>
    let content ← Eval.textReceiver method.label this
    return .text (String.ofList (Text.toUpper content.toList))
  | .toLowerCase =>
    let content ← Eval.textReceiver method.label this
    return .text (String.ofList (Text.toLower content.toList))
  | .trim =>
    let content ← Eval.textReceiver method.label this
    return .text (String.ofList (Text.trim content.toList))
  | .charAt =>
    let content ← Eval.textReceiver method.label this
    let index ← Eval.integerOr method.label 0 (← Eval.argument scope "index")
    return .text (characterAt content.toList index)
  | .indexOf =>
    let content ← Eval.textReceiver method.label this
    let part ← Eval.textArgument method.label (← Eval.argument scope "sub")
    let start ← Eval.integerOr method.label 0 (← Eval.argument scope "start")
    return .number (positionOf content.toList part.toList start)
  | .substring =>
    let content ← Eval.textReceiver method.label this
    let start ← Eval.integerOr method.label 0 (← Eval.argument scope "start")
    let stop ← Eval.integerOr method.label content.length (← Eval.argument scope "end")
    return .text (String.ofList (partBetween content.toList start stop))
  | .startsWith =>
    let content ← Eval.textReceiver method.label this
    let part ← Eval.textArgument method.label (← Eval.argument scope "prefix")
    return .boolean (part.toList.isPrefixOf content.toList)
  | .endsWith =>
    let content ← Eval.textReceiver method.label this
    let part ← Eval.textArgument method.label (← Eval.argument scope "suffix")
    return .boolean (part.toList.isSuffixOf content.toList)
  | .includes =>
    let part ← Eval.textArgument method.label (← Eval.argument scope "sub")
    let content ← Eval.textReceiver method.label this
    return .boolean (Text.includes content.toList part.toList)
  | .split =>
    let content ← Eval.textReceiver method.label this
    let separator ← Eval.argument scope "separator"
    if isNull separator then Eval.newList scope #[.text content]
    else
      let separator ← Eval.textArgument method.label separator
      let parts := Text.split content.toList separator.toList
      Eval.newList scope (parts.map fun part => Value.text (String.ofList part)).toArray
  | .toString => return .text (← Eval.textReceiver method.label this)

end TextMethod

def filled (template : String) (arguments : List String) : Eval Value :=
  match Text.fillTemplate template arguments with
  | .ok value => return .text value
  | .error .attribute => Eval.fault .missingAttribute
  | .error .indexType | .error .formType => Eval.fault .indexType
  | .error .noCharacter => Eval.fault .characterRange
  | .error reason => Eval.refuse "String.format" (.template reason.message)

/-- What filling a template does in the frame of its call: every argument after the first is displayed. -/
def runFormatText (runner : Runner) (scope : FrameId) : Eval Value := do
  let template ← Eval.textArgument "String.format" (← Eval.argument scope "template")
  let cell ← Eval.listReceiver "String.format" (← Eval.argument scope "arguments")
  let items ← Eval.itemsAt cell
  let shown ← (items.toList.drop 1).mapM (Eval.display runner scope)
  filled template shown

end LineScript
