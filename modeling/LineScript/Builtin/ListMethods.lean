import LineScript.Builtin.GlobalFunctions
import LineScript.Sorting.Sort

/-!
# Methods of lists

Methods that call a function for each item work on the items as they were at the call; showing a list looks at the items
as they then are. While a list is being sorted it has no items; if some are there in the end, it was changed.

The first argument of a comparator is less than its second if the answer is below zero. After a comparator has thrown,
all further comparisons are equal, and the sorted list stays.
-/

namespace LineScript

/-- A position of a slice in a list of the given length; one below zero counts from the end. -/
def slicePosition (length : Nat) (position : Int) : Nat :=
  if position < 0 then (position + length).toNat else min position.toNat length

def sliceItems (items : Array Value) (first last : Int) : Array Value :=
  items.extract (slicePosition items.size first) (slicePosition items.size last)

def itemPosition (items : Array Value) (value : Value) : Int :=
  match items.findIdx? fun item => item.same value with
  | some position => position
  | none => -1

def swapItems (items : Array Value) (first second : Nat) : Array Value :=
  match items[first]?, items[second]? with
  | some left, some right => (items.setIfInBounds first right).setIfInBounds second left
  | _, _ => items

def displayItems (runner : Runner) (scope : FrameId) (cell : CellId) : Nat → Nat → List String → Eval (List String)
  | 0, _, _ => throw .outOfSteps
  | steps + 1, position, shown => do
    match (← Eval.itemsAt cell)[position]? with
    | none => return shown.reverse
    | some item =>
      let text ← Eval.display runner scope item
      displayItems runner scope cell steps (position + 1) (text :: shown)

/-! ## Functions on items -/

section

variable (call : Value → Eval Value)

def mapItems : List Value → Eval (List Value)
  | [] => return []
  | item :: items => do
    let answer ← call item
    return answer :: (← mapItems items)

def filterItems : List Value → Eval (List Value)
  | [] => return []
  | item :: items => do
    let answer ← call item
    let kept ← filterItems items
    return if answer.truthy then item :: kept else kept

def visitItems : List Value → Eval Unit
  | [] => return ()
  | item :: items => do
    let _ ← call item
    visitItems items

/-- The first item whose answer holds or does not hold, as `wanted` tells. -/
def findItem (wanted : Bool) : List Value → Eval (Option Value)
  | [] => return none
  | item :: items => do
    let answer ← call item
    if answer.truthy = wanted then return some item else findItem wanted items

end

/-! ## Sorting -/

/-- What an item without a comparator is ordered by. -/
inductive SortKey where
  | number (value : Float)
  | text (value : String)

def sortKey (item : Value) : Eval SortKey := do
  match item with
  | .number value => return .number value
  | .boolean value => return .number (if value then 1.0 else 0.0)
  | .text value => return .text value
  | _ => Eval.refuse "List.sort" (.unordered (← Eval.describe item))

def SortKey.less? : SortKey → SortKey → Option Bool
  | .number left, .number right => some (left < right)
  | .text left, .text right => some (left < right)
  | _, _ => none

def sortByKey (cell : CellId) : Eval Unit := do
  let items := (← Eval.itemsAt cell).toList
  let keys ← items.mapM sortKey
  let arrangement : Sorting.Arrangement (SortKey × Value) :=
    Id.run (Sorting.sort (fun left right => OptionT.mk (pure (left.1.less? right.1))) (keys.zip items))
  Eval.modifyItems cell fun _ => (arrangement.items.map Prod.snd).toArray
  if !arrangement.finished then Eval.refuse "List.sort" .mixedOrder

/-- How far a comparator was asked: it still is, or it has thrown an exception, after which all items are
equal, or another escape has ended the sorting. -/
inductive ComparatorState where
  | asking
  | thrown (exception : Thrown)
  | stopped (escape : Escape)

def tried {α : Type} (action : Eval α) : Eval (Except Escape α) :=
  tryCatch (do return .ok (← action)) fun escape => return .error escape

/-- What the result of a comparator means: whether an item is less than another, or that sorting ends. -/
def comparatorAnswer : Except Escape Value → Option Bool × ComparatorState
  | .ok (.number value) => (some (value < 0.0), .asking)
  | .ok _ => (none, .stopped (.ofCause (.badArgument "List.sort" .comparatorResult)))
  | .error (.thrown exception) => (some false, .thrown exception)
  | .error escape => (none, .stopped escape)

/-- The answer of a comparator for two items. It is not called any more after it has escaped. -/
def askComparator (call : Value → Value → Eval Value) (left right : Value) :
    OptionT (StateT ComparatorState Eval) Bool :=
  OptionT.mk fun state => do
    match state with
    | .asking => return comparatorAnswer (← tried (call left right))
    | .thrown _ => return (some false, state)
    | .stopped _ => return (none, state)

/-- The end of a sort: the list has its items again, and what came up meanwhile comes out. -/
def endSort (cell : CellId) (arrangement : Sorting.Arrangement Value) (state : ComparatorState) : Eval Unit := do
  let changed := !(← Eval.itemsAt cell).isEmpty
  Eval.modifyItems cell fun _ => arrangement.items.toArray
  match state with
  | .stopped escape => throw escape
  | .thrown exception => if changed then Eval.fault .listChanged else throw (.thrown exception)
  | .asking => if changed then Eval.fault .listChanged

def sortByComparator (call : Value → Value → Eval Value) (cell : CellId) : Eval Unit := do
  let items := (← Eval.itemsAt cell).toList
  Eval.modifyItems cell fun _ => #[]
  let (arrangement, state) ← (Sorting.sort (askComparator call) items).run .asking
  endSort cell arrangement state

/-! ## The methods -/

namespace ListMethod

def label (method : ListMethod) : String :=
  "List." ++ method.name

def run (engine : Engine) (scope : FrameId) (method : ListMethod) : Eval Value := do
  let this ← Eval.receiver scope
  let call (callee item : Value) : Eval Value := Eval.callValue engine.run scope callee [item] none
  match method with
  | .init =>
    let count ← Eval.integerOr "List" 0 (← Eval.argument scope "length")
    let items ← Eval.repeated count .null
    match this with
    | .instance id =>
      let cell ← modifyGet fun store => store.addCell items
      modify fun store => store.setPayload id (.list cell)
    | _ => pure ()
    return .null
  | .add =>
    let cell ← Eval.listReceiver method.label this
    let value ← Eval.argument scope "value"
    Eval.modifyItems cell fun items => items.push value
    return .null
  | .get =>
    let items ← Eval.itemsAt (← Eval.listReceiver method.label this)
    let index ← Eval.indexArgument method.label items.size (← Eval.argument scope "index")
    return (items[index]?).getD .null
  | .set =>
    let cell ← Eval.listReceiver method.label this
    let size := (← Eval.itemsAt cell).size
    let index ← Eval.indexArgument method.label size (← Eval.argument scope "index")
    let value ← Eval.argument scope "value"
    Eval.modifyItems cell fun items => items.setIfInBounds index value
    return .null
  | .length =>
    let items ← Eval.itemsAt (← Eval.listReceiver method.label this)
    return .number (Number.ofInteger items.size)
  | .isEmpty =>
    let items ← Eval.itemsAt (← Eval.listReceiver method.label this)
    return .boolean items.isEmpty
  | .includes =>
    let items ← Eval.itemsAt (← Eval.listReceiver "List.indexOf" this)
    return .boolean (0 ≤ itemPosition items (← Eval.argument scope "value"))
  | .indexOf =>
    let items ← Eval.itemsAt (← Eval.listReceiver method.label this)
    return .number (Number.ofInteger (itemPosition items (← Eval.argument scope "value")))
  | .join =>
    let separator ← Eval.argument scope "separator"
    let separator ← if isNull separator then pure "," else Eval.textArgument method.label separator
    let cell ← Eval.listReceiver method.label this
    let shown ← displayItems engine.run scope cell engine.loopSteps 0 []
    return .text (separator.intercalate shown)
  | .slice =>
    let items ← Eval.itemsAt (← Eval.listReceiver method.label this)
    let first ← Eval.integerOr method.label 0 (← Eval.argument scope "start")
    let last ← Eval.integerOr method.label items.size (← Eval.argument scope "end")
    Eval.newList scope (sliceItems items first last)
  | .reverse =>
    let cell ← Eval.listReceiver method.label this
    Eval.modifyItems cell fun items => items.reverse
    return this
  | .swap =>
    let cell ← Eval.listReceiver method.label this
    let size := (← Eval.itemsAt cell).size
    let first ← Eval.indexArgument method.label size (← Eval.argument scope "i")
    let second ← Eval.indexArgument method.label size (← Eval.argument scope "j")
    Eval.modifyItems cell fun items => swapItems items first second
    return .null
  | .map =>
    let items ← Eval.itemsAt (← Eval.listReceiver method.label this)
    let answers ← mapItems (call (← Eval.argument scope "fn")) items.toList
    Eval.newList scope answers.toArray
  | .filter =>
    let items ← Eval.itemsAt (← Eval.listReceiver method.label this)
    let kept ← filterItems (call (← Eval.argument scope "fn")) items.toList
    Eval.newList scope kept.toArray
  | .forEach =>
    let items ← Eval.itemsAt (← Eval.listReceiver method.label this)
    visitItems (call (← Eval.argument scope "fn")) items.toList
    return .null
  | .all =>
    let items ← Eval.itemsAt (← Eval.listReceiver method.label this)
    let found ← findItem (call (← Eval.argument scope "fn")) false items.toList
    return .boolean found.isNone
  | .any =>
    let items ← Eval.itemsAt (← Eval.listReceiver method.label this)
    let found ← findItem (call (← Eval.argument scope "fn")) true items.toList
    return .boolean found.isSome
  | .find =>
    let items ← Eval.itemsAt (← Eval.listReceiver method.label this)
    let found ← findItem (call (← Eval.argument scope "fn")) true items.toList
    return found.getD .null
  | .sort =>
    let cell ← Eval.listReceiver method.label this
    let comparator ← Eval.argument scope "comparator"
    if isNull comparator then sortByKey cell
    else
      sortByComparator (fun left right => Eval.callValue engine.run scope comparator [left, right] none)
        cell
    return this
  | .toString =>
    let cell ← Eval.listReceiver method.label this
    let shown ← displayItems engine.run scope cell engine.loopSteps 0 []
    return .text ("[" ++ ", ".intercalate shown ++ "]")

end ListMethod

def runCreateList (scope : FrameId) : Eval Value := do
  let count ← Eval.integerArgument "List.create" (← Eval.argument scope "length")
  Eval.newList scope (← Eval.repeated count (← Eval.argument scope "value"))

end LineScript
