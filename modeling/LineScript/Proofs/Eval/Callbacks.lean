import LineScript.Proofs.Eval.Programs

/-!
# Functions that lists call back

The methods of lists that call a function for items look at the items once, when they are called. They then call the
function for these items, from the first to the last, each with the item as its only argument, until a call escapes or
an answer settles the result (`Tour`). Whatever the function does to the list meanwhile, or to anything else, has no
influence on which items come next (`callbacks_see_snapshot`).
-/

set_option autoImplicit false

namespace LineScript

/-! ## Calls in order -/

/-- Calls for items in order, with the answers that they gave. They end after the last item, with an item whose answer
stops them, or with an escape. -/
inductive Tour (call : Value → Eval Value) (stops : Value → Bool) :
    List Value → Store → List (Value × Value) → Except Escape (Option Value) → Store → Prop where
  | passed (store : Store) : Tour call stops [] store [] (.ok none) store
  | escaped {item : Value} {items : List Value} {store after : Store} {escape : Escape}
      (here : call item store = .error escape after) : Tour call stops (item :: items) store [] (.error escape) after
  | stopped {item answer : Value} {items : List Value} {store after : Store} (here : call item store = .ok answer after)
      (stop : stops answer = true) : Tour call stops (item :: items) store [(item, answer)] (.ok (some item)) after
  | next {item answer : Value} {items : List Value} {store middle after : Store} {answers : List (Value × Value)}
      {ending : Except Escape (Option Value)} (here : call item store = .ok answer middle)
      (goes : stops answer = false) (later : Tour call stops items middle answers ending after) :
      Tour call stops (item :: items) store ((item, answer) :: answers) ending after

/-- How an evaluation ends that ends as a tour does, with a value for the item that the tour stopped at. -/
def tourResult {α : Type} (value : Option Value → α) (after : Store) :
    Except Escape (Option Value) → EStateM.Result Escape Store α
  | .ok found => .ok (value found) after
  | .error escape => .error escape after

theorem tourResult_bind {α β : Type} {action : Eval α} {next : α → Eval β} {store after : Store}
    {value : Option Value → α} {ending : Except Escape (Option Value)} {holds : Option Value → β → Store → Prop}
    (runs : action store = tourResult value after ending)
    (ends : ∀ found, ∃ result final, next (value found) after = .ok result final ∧ holds found result final) :
    (∀ escape, ending = .error escape → (action >>= next) store = .error escape after) ∧
    ∀ found, ending = .ok found → ∃ result final, (action >>= next) store = .ok result final ∧
      holds found result final := by
  rw [Eval.bind_apply, runs]
  constructor
  · rintro escape rfl
    rfl
  · rintro found rfl
    exact ends found

namespace Tour

section

variable {call : Value → Eval Value} {stops : Value → Bool} {items : List Value} {store after : Store}
  {answers : List (Value × Value)} {ending : Except Escape (Option Value)}

theorem exists_of_items (call : Value → Eval Value) (stops : Value → Bool) (items : List Value) (store : Store) :
    ∃ answers ending after, Tour call stops items store answers ending after := by
  induction items generalizing store with
  | nil => exact ⟨_, _, _, .passed store⟩
  | cons item items ih =>
    cases here : call item store with
    | error escape after => exact ⟨_, _, _, .escaped here⟩
    | ok answer middle =>
      cases stop : stops answer with
      | true => exact ⟨_, _, _, .stopped here stop⟩
      | false =>
        obtain ⟨answers, ending, after, later⟩ := ih middle
        exact ⟨_, _, _, .next here stop later⟩

theorem mapItems_eq (tour : Tour call stops items store answers ending after) (goes : ∀ answer, stops answer = false) :
    mapItems call items store = tourResult (fun _ => answers.map Prod.snd) after ending := by
  induction tour with
  | passed => rfl
  | escaped here => rw [mapItems, Eval.bind_apply, here, tourResult]
  | stopped _ stop => exact absurd stop (by simp [goes])
  | @next _ _ _ _ _ _ _ ending here _ _ ih =>
    rw [mapItems, Eval.bind_ok here, Eval.bind_apply, ih]
    cases ending <;> rfl

theorem filterItems_eq (tour : Tour call stops items store answers ending after)
    (goes : ∀ answer, stops answer = false) :
    filterItems call items store =
      tourResult (fun _ => (answers.filter fun entry => entry.2.truthy).map Prod.fst) after ending := by
  induction tour with
  | passed => rfl
  | escaped here => rw [filterItems, Eval.bind_apply, here, tourResult]
  | stopped _ stop => exact absurd stop (by simp [goes])
  | @next _ answer _ _ _ _ _ ending here _ _ ih =>
    rw [filterItems, Eval.bind_ok here, Eval.bind_apply, ih]
    cases ending with
    | error => rfl
    | ok => cases kept : answer.truthy <;> simp [tourResult, kept] <;> rfl

theorem visitItems_eq (tour : Tour call stops items store answers ending after)
    (goes : ∀ answer, stops answer = false) :
    visitItems call items store = tourResult (fun _ => ()) after ending := by
  induction tour with
  | passed => rfl
  | escaped here => rw [visitItems, Eval.bind_apply, here, tourResult]
  | stopped _ stop => exact absurd stop (by simp [goes])
  | next here _ _ ih => rw [visitItems, Eval.bind_ok here, ih]

theorem findItem_eq (wanted : Bool) (tour : Tour call stops items store answers ending after)
    (stop : ∀ answer, stops answer = (answer.truthy == wanted)) :
    findItem call wanted items store = tourResult id after ending := by
  induction tour with
  | passed => rfl
  | escaped here => rw [findItem, Eval.bind_apply, here, tourResult]
  | stopped here found =>
    rw [findItem, Eval.bind_ok here, if_pos (by simpa [stop] using found)]
    rfl
  | next here other _ ih => rw [findItem, Eval.bind_ok here, if_neg (by simpa [stop] using other), ih]

end

end Tour

/-! ## What calls keep -/

/-- The frames of a store are there in another one, with their origins, and so are the lists. -/
structure Store.Persists (store after : Store) : Prop where
  frames : store.Extends after
  cells : store.cells.size ≤ after.cells.size

theorem Store.Persists.refl (store : Store) : store.Persists store :=
  ⟨.refl store, Nat.le_refl _⟩

theorem Store.Persists.trans {first second third : Store} (before : first.Persists second) (after : second.Persists third) :
    first.Persists third :=
  ⟨before.frames.trans after.frames, Nat.le_trans before.cells after.cells⟩

theorem Change.cells {fits : Code → Prop} {manner : Manner} {scope : FrameId} {store after : Store}
    (change : Change fits manner scope store after) : store.cells.size ≤ after.cells.size := by
  cases change with
  | cell => simp [Store.addCell]
  | items => simp [Store.modifyCell]
  | object | metaclass | become | property | assign | assignNonlocal | delete | surroundings | modules =>
    exact Nat.le_refl _

/-- Code takes no frame and no list away. -/
def Protocol.persistent : Protocol (fun _ => True) .free where
  good _ := True
  step _ := Store.Persists
  kind _ := Store.fits_all _
  refl _ := .refl
  trans := .trans
  change _ change := ⟨trivial, change.extends, change.cells⟩
  opens _ := trivial
  frame _ _ := trivial
  inner _ _ _ _ _ later := ⟨(Store.Extends.addFrame _ _).trans later.frames, later.cells⟩

theorem callValue_persists (loopSteps levels : Nat) (caller : FrameId) (callee : Value) (arguments : List Value)
    (receiver : Option Value) (store : Store) :
    store.Persists ((Eval.callValue (runCode loopSteps levels) caller callee arguments receiver).leaves store) := by
  have acts : Does (fun _ => True) (RunsCode fun _ => True) .free caller fun runner =>
      Eval.callValue runner caller callee arguments receiver :=
    acts_callValue asksRuns_runsCode caller callee arguments receiver
  have followed : Followed .persistent caller store (fun _ => True)
      (Eval.callValue (runCode loopSteps levels) caller callee arguments receiver store) :=
    acts.follows (inherits_all.follows loopSteps .persistent levels).asks trivial
  exact followed.leaves.2

theorem Tour.persists {call : Value → Eval Value} {stops : Value → Bool} {items : List Value} {store after : Store}
    {answers : List (Value × Value)} {ending : Except Escape (Option Value)}
    (tour : Tour call stops items store answers ending after)
    (each : ∀ (item : Value) (store : Store), store.Persists ((call item).leaves store)) : store.Persists after := by
  induction tour with
  | passed store => exact .refl store
  | @escaped item _ store _ _ here | @stopped item _ _ store _ here =>
    have step := each item store
    rwa [Eval.leaves, here] at step
  | @next item _ _ store _ _ _ _ here _ _ ih =>
    have step := each item store
    rw [Eval.leaves, here] at step
    exact step.trans ih

/-- A built-in class is found for code in a frame as long as the frame is there. -/
theorem Store.Extends.builtinClass? {store after : Store} (later : store.Extends after) {scope : FrameId} {name : String}
    {cls : InstanceId} (found : store.builtinClass? scope name = some cls) :
    after.builtinClass? scope name = some cls := by
  have inside : scope.index < store.frames.size := by
    by_contra outside
    have missing : store.frames[scope.index]? = none := Array.getElem?_eq_none (by omega)
    rw [Store.builtinClass?, Store.frame, missing] at found
    cases found
  rwa [Store.builtinClass?, later.origin scope inside]

/-! ## The methods -/

/-- The answers at which a method stops that calls a function for items; nothing for the other methods. -/
def ListMethod.stops? : ListMethod → Option (Value → Bool)
  | .map | .filter | .forEach => some fun _ => false
  | .all => some fun answer => !answer.truthy
  | .any | .find => some fun answer => answer.truthy
  | _ => none

/-- The value is a new list with some items. -/
structure NewList (items : List Value) (store : Store) (value : Value) (after : Store) : Prop where
  value_eq : value = .instance ⟨store.instances.size⟩
  payload : (after.object ⟨store.instances.size⟩).payload = .list ⟨store.cells.size⟩
  items_eq : (after.cell ⟨store.cells.size⟩).toList = items
  frames : after.frames = store.frames

/-- What a method returns after its calls, with the item at which they stopped. -/
def ListMethod.Returns (answers : List (Value × Value)) (found : Option Value) (store : Store) (value : Value)
    (after : Store) : ListMethod → Prop
  | .map => NewList (answers.map Prod.snd) store value after
  | .filter => NewList ((answers.filter fun entry => entry.2.truthy).map Prod.fst) store value after
  | .all => value = .boolean found.isNone ∧ after = store
  | .any => value = .boolean found.isSome ∧ after = store
  | .find => value = found.getD .null ∧ after = store
  | _ => value = .null ∧ after = store

theorem newList_apply {store : Store} {scope : FrameId} {cls : InstanceId}
    (found : store.builtinClass? scope "List" = some cls) (items : List Value) :
    ∃ value after, Eval.newList scope items.toArray store = .ok value after ∧ NewList items store value after := by
  let filled := (store.addCell items.toArray).2
  refine ⟨.instance ⟨store.instances.size⟩, (filled.addInstance ⟨cls, [], .list ⟨store.cells.size⟩⟩).2, ?_, rfl, ?_, ?_, rfl⟩
  · rw [Eval.newList, Eval.builtinClass_bind_apply, found]
    rfl
  · simp [filled, Store.object, Store.addInstance, Store.addCell]
  · simp [filled, Store.cell, Store.addInstance, Store.addCell]

section

variable {scope : FrameId} {store : Store} {id : InstanceId} {cell : CellId}

theorem argument_apply {name : String} {value : Value} (bound : store.ownBinding? scope name = some value) :
    Eval.argument scope name store = .ok value store := by
  change EStateM.Result.ok ((store.ownBinding? scope name).getD .null) store = _
  rw [bound]
  rfl

theorem payloadOf?_apply {payload : Payload} (held : (store.object id).payload = payload) :
    Eval.payloadOf? (.instance id) store = .ok (some payload) store := by
  rw [Eval.payloadOf?, Eval.instanceAt, bind_assoc, Eval.get_bind_apply, pure_bind, held]
  rfl

theorem heldList_apply (list : (store.object id).payload = .list cell) (label : String) :
    Eval.listReceiver label (.instance id) store = .ok cell store := by
  rw [Eval.listReceiver, Eval.bind_ok (payloadOf?_apply list)]
  rfl

variable (this : store.ownBinding? scope "this" = some (.instance id)) (list : (store.object id).payload = .list cell)

include this list

/-- A method of lists begins with its list. -/
theorem listReceiver_apply {α : Type} (label : String) (next : Value → CellId → Eval α) :
    (Eval.receiver scope >>= fun value => Eval.listReceiver label value >>= next value) store =
      next (.instance id) cell store := by
  rw [Eval.receiver, Eval.bind_ok (argument_apply this), Eval.bind_ok (heldList_apply list label)]

/-- A method of lists that calls a function goes on with the items and the function. -/
theorem listCallback_apply {α : Type} (label : String) (next : Array Value → Value → Eval α) :
    (Eval.receiver scope >>= fun value => Eval.listReceiver label value >>= fun cell => Eval.itemsAt cell >>= fun items =>
      Eval.argument scope "fn" >>= next items) store =
      next (store.cell cell) ((store.ownBinding? scope "fn").getD .null) store :=
  listReceiver_apply this list label _

/-- **Callbacks see the list as it was.** A method that calls a function for items calls it for the items that the list
has at the start, in their order, up to the answer or the escape that ends the calls. An escape comes out of the method;
otherwise the method returns what the answers tell. -/
theorem callbacks_see_snapshot {method : ListMethod} {stops : Value → Bool} (stop : method.stops? = some stops)
    {cls : InstanceId} (found : store.builtinClass? scope "List" = some cls) (loopSteps levels : Nat) :
    let engine : Engine := ⟨runCode loopSteps levels, loopSteps⟩
    let fn := (store.ownBinding? scope "fn").getD .null
    ∃ answers ending after,
      Tour (fun item => Eval.callValue engine.run scope fn [item] none) stops (store.cell cell).toList store answers
        ending after ∧
      (∀ escape, ending = .error escape → method.run engine scope store = .error escape after) ∧
      ∀ stopped, ending = .ok stopped → ∃ value final, method.run engine scope store = .ok value final ∧
        method.Returns answers stopped after value final := by
  intro engine fn
  let call (item : Value) : Eval Value := Eval.callValue engine.run scope fn [item] none
  obtain ⟨answers, ending, after, tour⟩ := Tour.exists_of_items call stops (store.cell cell).toList store
  have still : after.builtinClass? scope "List" = some cls :=
    (tour.persists fun _ _ => callValue_persists _ _ _ _ _ _ _).frames.builtinClass? found
  have begins {α : Type} (label : String) (next : Array Value → Value → Eval α) := listCallback_apply this list label next
  refine ⟨answers, ending, after, tour, ?_⟩
  cases method <;> cases stop
  case map =>
    rw [show ListMethod.run engine scope .map store = _ from begins "List.map" _]
    exact tourResult_bind (tour.mapItems_eq fun _ => rfl) fun _ => newList_apply still _
  case filter =>
    rw [show ListMethod.run engine scope .filter store = _ from begins "List.filter" _]
    exact tourResult_bind (tour.filterItems_eq fun _ => rfl) fun _ => newList_apply still _
  case forEach =>
    rw [show ListMethod.run engine scope .forEach store = _ from begins "List.forEach" _]
    exact tourResult_bind (tour.visitItems_eq fun _ => rfl) fun _ => ⟨_, _, rfl, rfl, rfl⟩
  case all =>
    rw [show ListMethod.run engine scope .all store = _ from begins "List.all" _]
    exact tourResult_bind (tour.findItem_eq false (by simp)) fun _ => ⟨_, _, rfl, rfl, rfl⟩
  case any =>
    rw [show ListMethod.run engine scope .any store = _ from begins "List.any" _]
    exact tourResult_bind (tour.findItem_eq true (by simp)) fun _ => ⟨_, _, rfl, rfl, rfl⟩
  case find =>
    rw [show ListMethod.run engine scope .find store = _ from begins "List.find" _]
    exact tourResult_bind (tour.findItem_eq true (by simp)) fun _ => ⟨_, _, rfl, rfl, rfl⟩

end

/-- The store of a call `xs.map(f)`, where `xs` has the numbers one and two, and `f` adds its argument to `xs`. -/
def Store.mapping : Store :=
  let origin : Origin := ⟨"main.toy", [], [("List", ⟨0⟩), ("Function", ⟨3⟩)], true⟩
  let body : Block := [⟨1, .expression (.call (.property (.variable "xs") "add") [.variable "x"])⟩]
  { Store.initial .default ⟨[], []⟩ [] 0 with
    frames := #[⟨[], [("xs", .instance ⟨1⟩)], origin⟩, ⟨[⟨0⟩], [("this", .instance ⟨1⟩), ("fn", .instance ⟨2⟩)], origin⟩],
    instances := #[⟨⟨0⟩, [], .class (BuiltinClass.node .list)⟩, ⟨⟨0⟩, [], .list ⟨0⟩⟩,
      ⟨⟨3⟩, [], .function ⟨"f", ["x"], .block body, some ⟨0⟩⟩⟩, ⟨⟨0⟩, [], .class (BuiltinClass.node .function)⟩],
    cells := #[#[.number 1, .number 2]] }

/-- The function is called twice, although the list has four items in the end. -/
theorem callbacks_see_snapshot_of_growing_list :
    let engine : Engine := ⟨runCode 10 5, 10⟩
    let call (item : Value) : Eval Value := Eval.callValue engine.run ⟨1⟩ (.instance ⟨2⟩) [item] none
    Store.mapping.ownBinding? ⟨1⟩ "this" = some (.instance ⟨1⟩) ∧ (Store.mapping.object ⟨1⟩).payload = .list ⟨0⟩ ∧
    (ListMethod.stops? .map).isSome = true ∧ Store.mapping.builtinClass? ⟨1⟩ "List" = some ⟨0⟩ ∧
    (((ListMethod.run engine ⟨1⟩ .map).leaves Store.mapping).cell ⟨0⟩).size = 4 ∧
    ∃ answers ending after,
      Tour call (fun _ => false) [.number 1, .number 2] Store.mapping answers ending after ∧
      (∀ escape, ending = .error escape → ListMethod.run engine ⟨1⟩ .map Store.mapping = .error escape after) ∧
      ∀ stopped, ending = .ok stopped → ∃ value final, ListMethod.run engine ⟨1⟩ .map Store.mapping = .ok value final ∧
        ListMethod.Returns answers stopped after value final .map :=
  ⟨rfl, rfl, rfl, rfl, by decide +kernel, @callbacks_see_snapshot ⟨1⟩ Store.mapping ⟨1⟩ ⟨0⟩ rfl rfl .map _ rfl ⟨0⟩ rfl 10 5⟩

end LineScript
