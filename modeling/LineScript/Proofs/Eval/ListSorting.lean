import LineScript.Proofs.Eval.Callbacks
import LineScript.Proofs.Eval.Withdrawal
import LineScript.Proofs.Number.Doubles
import Mathlib

/-!
# The sorting of lists

A list that is sorted with a comparator has its items again in the end, in whatever order, no matter what the
comparator answers and how it ends (`list_sort_arranges`). The comparator is asked about two items at a time until
it escapes, and never after that (`Consulted`). If its answers are those of a total preorder, the list is in this
order, and items that are equal in it stand as they stood before. Without a comparator the same holds of numbers
and of texts.

While it is sorted a list has no items. If the comparator gives it some, this is a fault, even if the comparator
has thrown an exception, which is then lost (`list_sort_hides_thrown`).
-/

set_option autoImplicit false

namespace LineScript

open Sorting

/-! ## Comparators -/

/-- A comparator is asked about items from a store on, while it has not escaped. How the last question ended tells
how far it was asked. -/
inductive Consulted (compare : Value → Value → Eval Value) (items : List Value) (start : Store) :
    ComparatorState → Store → Prop where
  | start : Consulted compare items start .asking start
  | asked {left right : Value} {before after : Store} {result : Except Escape Value}
      (prior : Consulted compare items start .asking before) (first : left ∈ items) (second : right ∈ items)
      (ends : tried (compare left right) before = .ok result after) :
      Consulted compare items start (comparatorAnswer result).2 after

/-- A comparator answers by a total preorder whenever it is asked about items. -/
structure ComparesBy (compare : Value → Value → Eval Value) (le : Value → Value → Bool) (items : List Value)
    (start : Store) : Prop where
  preorders : Preorders le items
  answers : ∀ before, Consulted compare items start .asking before → ∀ left ∈ items, ∀ right ∈ items,
    ∃ number after, compare left right before = .ok (.number number) after ∧ decide (number < 0.0) = !le right left

/-- The rules for actions of a sort that never fail and keep an invariant. -/
def sortRules (invariant : ComparatorState → Store → Prop) : Rules Unit (StateT ComparatorState Eval) where
  yields post action := ∀ state store, invariant state store → ∃ value next after,
    (action ()).run state store = .ok (value, next) after ∧ invariant next after ∧ post value
  pure holds := fun state store kept => ⟨_, state, store, rfl, kept, holds⟩
  bind first rest := fun state store kept => by
    obtain ⟨value, next, after, run, kept, holds⟩ := first state store kept
    rw [ComparatorState.bind_apply, run]
    exact rest value holds next after kept
  mono inner weaker := fun state store kept => by
    obtain ⟨value, next, after, run, kept, holds⟩ := inner state store kept
    exact ⟨value, next, after, run, kept, weaker value holds⟩

section

variable (compare : Value → Value → Eval Value) (le : Value → Value → Bool) (items : List Value) (start : Store)

theorem sort_consulted : ∃ arrangement state after,
    (sort (askComparator compare) items).run .asking start = .ok (arrangement, state) after ∧
    Consulted compare items start state after ∧ arrangement.items.Perm items ∧
    (ComparesBy compare le items start → state = .asking ∧ Sorts le items arrangement.items) := by
  let invariant (state : ComparatorState) (store : Store) : Prop :=
    Consulted compare items start state store ∧ (ComparesBy compare le items start → state = .asking)
  have answers : ∀ left ∈ items, ∀ right ∈ items,
      ((sortRules invariant).optional ¬ComparesBy compare le items start).yields
        (fun answer => ComparesBy compare le items start → answer = !le right left)
        fun _ => askComparator compare left right := by
    rintro left first right second state store ⟨consulted, sound⟩
    cases state with
    | thrown exception => exact ⟨some false, _, store, rfl, ⟨consulted, sound⟩, fun sure => by cases sound sure⟩
    | stopped escape => exact ⟨none, _, store, rfl, ⟨consulted, sound⟩, fun sure => by cases sound sure⟩
    | asking =>
      obtain ⟨result, after, ends⟩ : ∃ result after, tried (compare left right) store = .ok result after := by
        rw [tried_apply]
        cases compare left right store <;> exact ⟨_, _, rfl⟩
      have run : (askComparator compare left right).run.run .asking store = .ok (comparatorAnswer result) after := by
        change (tried (compare left right) >>= fun result => Pure.pure (comparatorAnswer result)) store = _
        rw [Eval.bind_ok ends]
        rfl
      have agrees (sure : ComparesBy compare le items start) :
          comparatorAnswer result = (some (!le right left), .asking) := by
        obtain ⟨number, after, answered, agrees⟩ := sure.answers store consulted left first right second
        rw [tried_apply, answered] at ends
        cases ends
        rw [← agrees]
        rfl
      refine ⟨(comparatorAnswer result).1, (comparatorAnswer result).2, after, run,
        ⟨.asked consulted first second ends, fun sure => by rw [agrees sure]⟩, ?_⟩
      by_cases sure : ComparesBy compare le items start
      · rw [agrees sure]
        exact fun _ => rfl
      · cases (comparatorAnswer result).1 with
        | none => exact sure
        | some => exact fun holds => absurd holds sure
  obtain ⟨arrangement, state, after, run, ⟨consulted, sound⟩, perm, sorts⟩ :=
    yields_sort_of_preorders items ComparesBy.preorders answers .asking start ⟨.start, fun _ => rfl⟩
  exact ⟨arrangement, state, after, run, consulted, perm, fun sure => ⟨sound sure, (sorts sure).2⟩⟩

end

theorem Consulted.persists {compare : Value → Value → Eval Value} {items : List Value} {start after : Store}
    {state : ComparatorState} (consulted : Consulted compare items start state after)
    (each : ∀ left right (store : Store), store.Persists ((compare left right).leaves store)) : start.Persists after := by
  induction consulted with
  | start => exact .refl start
  | @asked left right before _ _ _ _ _ ends ih =>
    have step := each left right before
    rw [tried_apply] at ends
    rw [Eval.leaves] at step
    cases run : compare left right before <;> rw [run] at ends step <;> cases ends <;> exact ih.trans step

/-- How the sorting of a list ends in a store: with the list, or with what ended the questions, unless the list had
items meanwhile. -/
def sortEnd (this : Value) (empty : Bool) (after : Store) : ComparatorState → EStateM.Result Escape Store Value
  | .stopped escape => .error escape after
  | .thrown exception => .error (if empty then .thrown exception else .fault .listChanged) after
  | .asking => if empty then .ok this after else .error (.fault .listChanged) after

/-- A list has the items that are put into it. -/
theorem Store.cell_modifyCell {store after : Store} (grows : store.cells.size ≤ after.cells.size) {cell : CellId}
    {items : List Value} (perm : items.Perm (store.cell cell).toList) :
    ((after.modifyCell cell fun _ => items.toArray).cell cell).toList = items := by
  by_cases inside : cell.index < after.cells.size
  · simp [Store.cell, Store.modifyCell, inside, Array.getElem_modify]
  · have missing : store.cells[cell.index]? = none := Array.getElem?_eq_none (by omega)
    rw [Store.cell, missing] at perm
    rw [perm.eq_nil]
    simp [Store.cell, Store.modifyCell, inside]

/-! ## Numbers and texts -/

/-- The order of numbers, and of texts. -/
def Value.precedes : Value → Value → Bool
  | .number first, .number second => first < second
  | .text first, .text second => first < second
  | _, _ => false

/-- The value does not come after another. -/
def Value.atMost (first second : Value) : Bool :=
  !second.precedes first

/-- The items are numbers without NaN, or they are texts. -/
inductive Comparable : List Value → Prop
  | numbers (values : List Float) (defined : ∀ value ∈ values, Number.isNotANumber value = false) :
      Comparable (values.map .number)
  | texts (values : List String) : Comparable (values.map .text)

/-- The key of a number or of a text. -/
def Value.key : Value → SortKey
  | .number value => .number value
  | .text value => .text value
  | _ => .text ""

theorem Sorting.Preorders.of_rank {α β : Type} [LinearOrder β] {le : α → α → Bool} {source : List α} (rank : α → β)
    (agrees : ∀ first ∈ source, ∀ second ∈ source, le first second = true ↔ rank first ≤ rank second) :
    Preorders le source where
  total first inside second within := by
    rw [agrees first inside second within, agrees second within first inside]
    exact le_total _ _
  trans first inside second within third among forward onward := by
    rw [agrees first inside second within] at forward
    rw [agrees second within third among] at onward
    rw [agrees first inside third among]
    exact le_trans forward onward

theorem Comparable.preorders {items : List Value} (comparable : Comparable items) : Preorders Value.atMost items := by
  -- both orders are linear, that of numbers by their ranks
  cases comparable with
  | numbers values defined =>
    refine .map Value.number (.of_rank Number.rank fun first inside second within => ?_)
    simp [Value.atMost, Value.precedes, Number.lt_iff_rank (defined second within) (defined first inside)]
  | texts values =>
    refine .map Value.text (.of_rank id fun first _ second _ => ?_)
    rw [Value.atMost, Value.precedes, Bool.not_eq_true', decide_eq_false_iff_not]
    exact not_lt

theorem Comparable.less? {items : List Value} (comparable : Comparable items) {left right : Value}
    (first : left ∈ items) (second : right ∈ items) : left.key.less? right.key = some (left.precedes right) := by
  cases comparable <;>
    (obtain ⟨_, _, rfl⟩ := List.mem_map.mp first
     obtain ⟨_, _, rfl⟩ := List.mem_map.mp second
     rfl)

theorem Comparable.mapM_sortKey {items : List Value} (comparable : Comparable items) (store : Store) :
    items.mapM sortKey store = .ok (items.map Value.key) store := by
  have each : ∀ item ∈ items, sortKey item store = .ok item.key store := by
    cases comparable <;> exact List.forall_mem_map.mpr fun _ _ => rfl
  clear comparable
  induction items with
  | nil => rfl
  | cons item items ih =>
    obtain ⟨here, later⟩ := List.forall_mem_cons.mp each
    rw [List.mapM_cons, Eval.bind_ok here, Eval.bind_ok (ih later)]
    rfl

/-- The rules for actions without effects. -/
def plainRules : Rules Unit Id where
  yields post action := post (action ()).run
  pure holds := holds
  bind first rest := rest _ first
  mono inner weaker := weaker _ inner

theorem sortByKey_apply {store : Store} {cell : CellId} (comparable : Comparable (store.cell cell).toList) :
    ∃ sorted, sortByKey cell store = .ok () (store.modifyCell cell fun _ => sorted.toArray) ∧
      Sorts Value.atMost (store.cell cell).toList sorted := by
  let items := (store.cell cell).toList
  let keyed := (items.map Value.key).zip items
  have pairs : keyed = items.map fun item => (item.key, item) := List.map_prod_right_eq_zip.symm
  have ordered : Preorders (fun left right => left.2.atMost right.2) keyed := by
    rw [pairs]
    exact .map _ comparable.preorders
  let less (left right : SortKey × Value) : OptionT Id Bool := OptionT.mk (pure (left.1.less? right.1))
  have answers : ∀ left ∈ keyed, ∀ right ∈ keyed, (plainRules.optional ¬True).yields
      (fun answer => True → answer = !right.2.atMost left.2) fun _ => less left right := by
    rw [pairs, List.forall_mem_map]
    intro left inside
    rw [List.forall_mem_map]
    intro right within
    simp only [less, comparable.less? inside within]
    exact fun _ => (Bool.not_not _).symm
  obtain ⟨finished, sorts⟩ := (yields_sort_of_preorders keyed (fun _ => ordered) answers).2 trivial
  have run : sortByKey cell store = (do
      Eval.modifyItems cell fun _ => ((Id.run (sort less keyed)).items.map Prod.snd).toArray
      if !(Id.run (sort less keyed)).finished then Eval.refuse "List.sort" .mixedOrder : Eval Unit) store := by
    change (items.mapM sortKey >>= _) store = _
    rw [Eval.bind_ok (comparable.mapM_sortKey store)]
  refine ⟨(Id.run (sort less keyed)).items.map Prod.snd, run.trans ?_, ?_⟩
  · rw [show (Id.run (sort less keyed)).finished = true from finished]
    rfl
  · have whole := sorts.map Prod.snd
    rwa [List.map_snd_zip (by simp)] at whole

/-! ## The method -/

section

variable {scope : FrameId} {store : Store} {id : InstanceId} {cell : CellId}
  (this : store.ownBinding? scope "this" = some (.instance id)) (list : (store.object id).payload = .list cell)

include this list

theorem listSort_apply (engine : Engine) :
    let comparator := (store.ownBinding? scope "comparator").getD .null
    ListMethod.run engine scope .sort store = (do
      if isNull comparator then sortByKey cell
      else sortByComparator (fun left right => Eval.callValue engine.run scope comparator [left, right] none) cell
      return .instance id : Eval Value) store := by
  rw [ListMethod.run_sort]
  exact listReceiver_apply this list _ _

/-- **Sorting keeps the items, and it sorts.** A comparator is asked about the items of the list, which has none
meanwhile, until it escapes. Then the list has the items that it had, in some order, and nothing else is changed; how the
questions ended is how the method ends. A comparator that answers by a total preorder is never stopped, and it sorts the
list, which keeps the order of equal items. Without a comparator, numbers and texts are sorted. -/
theorem list_sort_arranges (loopSteps levels : Nat) (le : Value → Value → Bool) :
    let engine : Engine := ⟨runCode loopSteps levels, loopSteps⟩
    let comparator := (store.ownBinding? scope "comparator").getD .null
    let compare (left right : Value) : Eval Value := Eval.callValue engine.run scope comparator [left, right] none
    let items := (store.cell cell).toList
    let start := store.modifyCell cell fun _ => #[]
    (isNull comparator = false → ∃ state after sorted,
      let final := after.modifyCell cell fun _ => sorted.toArray
      Consulted compare items start state after ∧
      ListMethod.run engine scope .sort store = sortEnd (.instance id) (after.cell cell).isEmpty final state ∧
      (final.cell cell).toList = sorted ∧ sorted.Perm items ∧
      (ComparesBy compare le items start → state = .asking ∧ Sorts le items sorted)) ∧
    (isNull comparator = true → Comparable items → ∃ sorted,
      let final := store.modifyCell cell fun _ => sorted.toArray
      ListMethod.run engine scope .sort store = .ok (.instance id) final ∧
      (final.cell cell).toList = sorted ∧ Sorts Value.atMost items sorted) := by
  intro engine comparator compare items start
  have begins := listSort_apply this list engine
  constructor
  · intro given
    obtain ⟨arrangement, state, after, run, consulted, perm, sorts⟩ := sort_consulted compare le items start
    have persists : start.Persists after := consulted.persists fun _ _ _ => callValue_persists _ _ _ _ _ _ _
    have longer : store.cells.size ≤ after.cells.size := by simpa [start, Store.modifyCell] using persists.cells
    refine ⟨state, after, arrangement.items, consulted, ?_, Store.cell_modifyCell longer perm, perm, sorts⟩
    rw [begins, if_neg (by simpa using given), Eval.bind_apply, sortByComparator_apply, Eval.bind_ok run, endSort_apply]
    cases state with
    | stopped | thrown => rfl
    | asking => cases (after.cell cell).isEmpty <;> rfl
  · intro missing comparable
    obtain ⟨sorted, run, sorts⟩ := sortByKey_apply comparable
    refine ⟨sorted, ?_, Store.cell_modifyCell (Nat.le_refl _) sorts.perm, sorts⟩
    rw [begins, if_pos missing, Eval.bind_ok run]
    rfl

end

/-- The store of a call `xs.sort(f)`, where `xs` has two texts, and `f` has parameters `a` and `b`. -/
def Store.sorting (body : Block) : Store :=
  let origin : Origin := ⟨"main.toy", [], [("List", ⟨0⟩), ("Function", ⟨3⟩)], true⟩
  { Store.initial .default ⟨[], []⟩ [] 0 with
    frames := #[⟨[], [("xs", .instance ⟨1⟩)], origin⟩,
      ⟨[⟨0⟩], [("this", .instance ⟨1⟩), ("comparator", .instance ⟨2⟩)], origin⟩],
    instances := #[⟨⟨0⟩, [], .class (BuiltinClass.node .list)⟩, ⟨⟨0⟩, [], .list ⟨0⟩⟩,
      ⟨⟨3⟩, [], .function ⟨"f", ["a", "b"], .block body, some ⟨0⟩⟩⟩, ⟨⟨0⟩, [], .class (BuiltinClass.node .function)⟩],
    cells := #[#[.text "two", .text "one"]] }

/-- The comparator answers that its arguments are equal, whatever they are. -/
theorem list_sort_arranges_equal_texts :
    let engine : Engine := ⟨runCode 10 5, 10⟩
    let store := Store.sorting [⟨1, .return (some (.literal (.number 0.0)))⟩]
    let compare (left right : Value) : Eval Value := Eval.callValue engine.run ⟨1⟩ (.instance ⟨2⟩) [left, right] none
    let items : List Value := [.text "two", .text "one"]
    let start := store.modifyCell ⟨0⟩ fun _ => #[]
    store.ownBinding? ⟨1⟩ "this" = some (.instance ⟨1⟩) ∧ (store.object ⟨1⟩).payload = .list ⟨0⟩ ∧
    ComparesBy compare (fun _ _ => true) items start ∧ ∃ after sorted,
      let final := after.modifyCell ⟨0⟩ fun _ => sorted.toArray
      Consulted compare items start .asking after ∧
      ListMethod.run engine ⟨1⟩ .sort store = sortEnd (.instance ⟨1⟩) (after.cell ⟨0⟩).isEmpty final .asking ∧
      (final.cell ⟨0⟩).toList = sorted ∧ Sorts (fun _ _ => true) items sorted := by
  intro engine store compare items start
  have step (left right : Value) {before : Store} (scope : before.frames[1]? = some (start.frame ⟨1⟩))
      (function : before.instances[2]? = some (start.object ⟨2⟩)) : ∃ frame object items, compare left right before =
        .ok (.number 0.0) { before with
          frames := before.frames.push frame, instances := before.instances.push object, cells := before.cells.push items } := by
    have found : before.builtinClass? ⟨1⟩ "List" = some ⟨0⟩ := by
      rw [Store.builtinClass?, Store.frame, scope]
      rfl
    simp only [compare, Eval.callValue, Eval.instanceAt, bind_assoc, Eval.get_bind_apply, pure_bind, Store.object, function]
    change ∃ frame object items, Eval.callFunction _ _ _ _ _ _ = _
    rw [Eval.callFunction, Eval.newList, bind_assoc, Eval.builtinClass_bind_apply, found]
    exact ⟨_, _, _, rfl⟩
  have ready {state : ComparatorState} {before : Store} (consulted : Consulted compare items start state before) :
      before.frames[1]? = some (start.frame ⟨1⟩) ∧ before.instances[2]? = some (start.object ⟨2⟩) := by
    induction consulted with
    | start => exact ⟨rfl, rfl⟩
    | asked _ _ _ ends ih =>
      obtain ⟨_, _, _, run⟩ := step _ _ ih.1 ih.2
      rw [tried_apply, run] at ends
      cases ends
      clear_value start
      grind
  have compares : ComparesBy compare (fun _ _ => true) items start := by
    refine ⟨⟨by simp, by simp⟩, fun before consulted left _ right _ => ?_⟩
    obtain ⟨_, _, _, run⟩ := step left right (ready consulted).1 (ready consulted).2
    exact ⟨0.0, _, run, by decide +kernel⟩
  obtain ⟨state, after, sorted, consulted, run, final, _, arranges⟩ :=
    (@list_sort_arranges ⟨1⟩ store ⟨1⟩ ⟨0⟩ rfl rfl 10 5 fun _ _ => true).1 rfl
  obtain ⟨rfl, sorts⟩ := arranges compares
  exact ⟨rfl, rfl, compares, after, sorted, consulted, run, final, sorts⟩

/-- The comparator puts an item into the list and throws an exception, but none comes out. -/
theorem list_sort_hides_thrown :
    let engine : Engine := ⟨runCode 10 5, 10⟩
    let store := Store.sorting [⟨1, .expression (.call (.property (.variable "xs") "add") [.variable "a"])⟩,
      ⟨2, .throw (.literal (.text "boom"))⟩]
    let compare := Eval.callValue engine.run ⟨1⟩ (.instance ⟨2⟩) [.text "one", .text "two"] none
    compare.escapes (fun escape _ => escape.isException) (store.modifyCell ⟨0⟩ fun _ => #[]) = true ∧
      (ListMethod.run engine ⟨1⟩ .sort).escapes (fun escape _ => !escape.isException) store = true :=
  ⟨by decide +kernel, by decide +kernel⟩

end LineScript
