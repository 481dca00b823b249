import LineScript.Sorting.Sort
import Mathlib.Tactic.Common
import Mathlib.Data.List.Basic

/-!
# Rules for sorting, and its runs

What a sort comes to depends on the answers of its comparison, which may act. So it is said by a judgement on
actions and on the values they can end with, under rules by which it is kept when one action follows another
(`Rules`). The actions may depend on an environment, which all parts of a sort see alike. The rules are carried
through the layers in which the steps of a sort work: answers that may be refused, the patience of the merges,
and the end of a merge.

A comparison is `sound` if no answer is refused and all are those of an order by rank (`Compares`). A count of
leading items is then exact. The first run of some items is in order, and so is a run into which others are put;
items of one rank stand as they stood before (`Kept`). Whatever the answers are, every item is kept.
-/

set_option autoImplicit false

namespace LineScript.Sorting

variable {E : Type} {m : Type → Type} [Monad m] {α : Type}

/-! ## Rules -/

/-- The rules of a judgement on actions, as functions of an environment, and on their values. -/
structure Rules (E : Type) (m : Type → Type) [Monad m] where
  yields : {β : Type} → (β → Prop) → (E → m β) → Prop
  pure : ∀ {β : Type} {post : β → Prop} {value : β}, post value → yields post fun _ => Pure.pure value
  bind : ∀ {β γ : Type} {post : β → Prop} {final : γ → Prop} {action : E → m β} {next : β → E → m γ},
    yields post action → (∀ value, post value → yields final (next value)) →
      yields final fun env => action env >>= fun value => next value env
  mono : ∀ {β : Type} {post final : β → Prop} {action : E → m β},
    yields post action → (∀ value, post value → final value) → yields final action

/-- How an action that may end early ends. -/
inductive Ends {ε β : Type} (early : ε → Prop) (post : β → Prop) : Except ε β → Prop
  | early {error : ε} : early error → Ends early post (.error error)
  | value {value : β} : post value → Ends early post (.ok value)

namespace Rules

variable (rules : Rules E m)

/-- Actions that may be refused under a condition only. -/
def optional (refused : Prop) : Rules E (OptionT m) where
  yields post action := rules.yields (·.elim refused post) fun env => (action env).run
  pure holds := rules.pure holds
  bind first rest := rules.bind first fun found holds => by
    cases found with
    | none => exact rules.pure holds
    | some value => exact rest value holds
  mono inner weaker := rules.mono inner fun found holds => by
    cases found with
    | none => exact holds
    | some value => exact weaker value holds

/-- Actions with a state of which nothing is said. -/
def stateful : Rules E (StateT Nat m) where
  yields post action := ∀ state, rules.yields (fun result : _ × Nat => post result.1) fun env =>
    (action env).run state
  pure holds := fun _ => rules.pure holds
  bind first rest := fun state => rules.bind (first state) fun result holds => rest result.1 holds result.2
  mono inner weaker := fun state => rules.mono (inner state) fun result holds => weaker result.1 holds

/-- Actions that may end early, with a condition on these ends. -/
def excepting {ε : Type} (early : ε → Prop) : Rules E (ExceptT ε m) where
  yields post action := rules.yields (Ends early post) fun env => (action env).run
  pure holds := rules.pure (.value holds)
  bind first rest := rules.bind first fun result ends => by
    cases ends with
    | early holds => exact rules.pure (.early holds)
    | value holds => exact rest _ holds
  mono inner weaker := rules.mono inner fun _ ends => by
    cases ends with
    | early holds => exact .early holds
    | value holds => exact .value (weaker _ holds)

variable {rules}

theorem yields_lift {β : Type} {post : β → Prop} {action : E → m β} (inner : rules.yields post action) :
    rules.stateful.yields post fun env => StateT.lift (action env) :=
  fun _ => rules.bind inner fun _ holds => rules.pure holds

theorem yields_ite {β : Type} {post : β → Prop} {condition : Prop} [Decidable condition] {first second : E → m β}
    (yes : condition → rules.yields post first) (no : ¬condition → rules.yields post second) :
    rules.yields post fun env => if condition then first env else second env := by
  by_cases condition
  · simpa only [if_pos ‹condition›] using yes ‹_›
  · simpa only [if_neg ‹¬condition›] using no ‹_›

end Rules

variable {rules : Rules E m} {sound : Prop}

/-! ## Counting leading items -/

/-- The condition holds of so many items at the start and of no other. -/
def Splits (led : α → Bool) (items : List α) (count : Nat) : Prop :=
  (∀ item ∈ items.take count, led item = true) ∧ ∀ item ∈ items.drop count, led item = false

/-- The condition holds of leading items only. -/
abbrev Leads (led : α → Bool) (items : List α) : Prop :=
  items.Pairwise fun first second => led second = true → led first = true

section

variable {led : α → Bool} {items : List α}

theorem Leads.take_holds (leads : Leads led items) {place : Nat} {item : α} (found : items[place]? = some item)
    (holds : led item = true) : ∀ other ∈ items.take (place + 1), led other = true := by
  obtain ⟨within, rfl⟩ := List.getElem?_eq_some_iff.mp found
  rw [← List.take_append_drop place items, List.drop_eq_getElem_cons within] at leads
  intro other inside
  rw [List.take_add_one, found] at inside
  rcases List.mem_append.mp inside with inside | inside
  · exact (List.pairwise_append.mp leads).2.2 other inside _ List.mem_cons_self holds
  · simp_all

theorem Leads.drop_fails (leads : Leads led items) {place : Nat} {item : α} (found : items[place]? = some item)
    (fails : led item = false) : ∀ other ∈ items.drop place, led other = false := by
  obtain ⟨within, rfl⟩ := List.getElem?_eq_some_iff.mp found
  have after := List.Pairwise.drop (i := place) leads
  rw [List.drop_eq_getElem_cons within] at after ⊢
  intro other inside
  rcases List.mem_cons.mp inside with rfl | inside
  · exact fails
  · exact Bool.eq_false_iff.mpr fun holds => by simp [List.rel_of_pairwise_cons after inside holds] at fails

theorem Splits.of_take {count high : Nat} (within : count ≤ high) (inner : Splits led (items.take high) count)
    (after : ∀ item ∈ items.drop high, led item = false) : Splits led items count := by
  refine ⟨fun item inside => inner.1 item ?_, fun item inside => ?_⟩
  · rwa [List.take_take, Nat.min_eq_left within]
  · rw [← List.take_append_drop high items, List.drop_append] at inside
    rcases List.mem_append.mp inside with inside | inside
    · exact inner.2 item inside
    · exact after item (List.mem_of_mem_drop inside)

variable {leads : E → α → OptionT m Bool}
  (answers : ∀ item ∈ items, (rules.optional ¬sound).yields (fun answer => sound → answer = led item)
    fun env => leads env item)
  (ordered : sound → Leads led items)

include answers ordered

theorem yields_leadingBetween (direction : Direction) (fuel low high : Nat) (within : low ≤ high)
    (bound : high ≤ items.length) (enough : high - low ≤ fuel)
    (before : sound → ∀ item ∈ items.take low, led item = true)
    (after : sound → ∀ item ∈ items.drop high, led item = false) :
    (rules.optional ¬sound).yields (fun count => count ≤ items.length ∧ (sound → Splits led items count))
      fun env => leadingBetween (leads env) direction items.toArray fuel low high := by
  have met (low high : Nat) (bound : high ≤ items.length) (same : low = high)
      (before : sound → ∀ item ∈ items.take low, led item = true)
      (after : sound → ∀ item ∈ items.drop high, led item = false) :
      low ≤ items.length ∧ (sound → Splits led items low) :=
    ⟨by omega, fun holds => ⟨before holds, same ▸ after holds⟩⟩
  induction fuel generalizing low high with
  | zero => exact Rules.pure _ (met low high bound (by omega) before after)
  | succ fuel ih =>
    simp only [leadingBetween]
    refine Rules.yields_ite (fun wide => ?_) fun closed =>
      Rules.pure _ (met low high bound (by omega) before after)
    have middle : low ≤ direction.middle low high ∧ direction.middle low high < high := by
      cases direction <;> simp only [Direction.middle] <;> omega
    generalize direction.middle low high = place at middle
    have found : items[place]? = some items[place] := List.getElem?_eq_getElem (by omega)
    simp only [List.getElem?_toArray, found]
    refine Rules.bind _ (answers _ (List.getElem_mem _)) fun answer agrees => ?_
    refine Rules.yields_ite (fun yes => ?_) fun no => ?_
    · exact ih (place + 1) high (by omega) bound (by omega)
        (fun holds => (ordered holds).take_holds found (agrees holds ▸ yes)) after
    · exact ih low place (by omega) (by omega) (by omega) before
        fun holds => (ordered holds).drop_fails found (agrees holds ▸ Bool.eq_false_iff.mpr no)

theorem yields_stride (fuel known next : Nat) (within : known ≤ next) (bound : known ≤ items.length)
    (enough : items.length ≤ fuel + next) (before : sound → ∀ item ∈ items.take known, led item = true) :
    (rules.optional ¬sound).yields
      (fun range => range.1 ≤ range.2 ∧ range.2 ≤ items.length ∧ (sound →
        (∀ item ∈ items.take range.1, led item = true) ∧ ∀ item ∈ items.drop range.2, led item = false))
      fun env => stride (leads env) items fuel known next := by
  induction fuel generalizing known next with
  | zero =>
    refine Rules.pure _ ⟨by omega, by omega, fun holds => ⟨before holds, ?_⟩⟩
    simp [show min next items.length = items.length by omega]
  | succ fuel ih =>
    simp only [stride]
    cases found : items[next]? with
    | none =>
      exact Rules.pure _ ⟨bound, Nat.le_refl _, fun holds => ⟨before holds, by simp⟩⟩
    | some item =>
      have inside := List.getElem?_eq_some_iff.mp found
      refine Rules.bind _ (answers item (List.mem_of_getElem? found)) fun answer agrees => ?_
      refine Rules.yields_ite (fun yes => ?_) fun no => Rules.pure _ ?_
      · exact ih (next + 1) (2 * next + 1) (by omega) inside.1 (by omega)
          fun holds => (ordered holds).take_holds found (agrees holds ▸ yes)
      · exact ⟨within, Nat.le_of_lt inside.1, fun holds => ⟨before holds,
          (ordered holds).drop_fails found (agrees holds ▸ Bool.eq_false_iff.mpr no)⟩⟩

theorem yields_leading (direction : Direction) :
    (rules.optional ¬sound).yields (fun count => sound → Splits led items count)
      fun env => leading (leads env) direction items := by
  cases items with
  | nil => exact Rules.pure _ fun _ => ⟨by simp, by simp⟩
  | cons first rest =>
    refine Rules.bind _ (answers first (by simp)) fun answer agrees => ?_
    refine Rules.yields_ite (fun yes => ?_) fun no => Rules.pure _ fun holds => ⟨by simp, ?_⟩
    · have alone (holds : sound) := @Leads.take_holds _ _ _ (ordered holds) 0 _ rfl (agrees holds ▸ yes)
      refine Rules.bind _
        (yields_stride answers ordered rest.length 1 1 (Nat.le_refl _) (by simp) (by simp) alone) ?_
      rintro ⟨low, high⟩ ⟨within, bound, ends⟩
      have some : ∀ item ∈ (first :: rest).take high, item ∈ first :: rest := fun _ => List.mem_of_mem_take
      refine Rules.mono _ (yields_leadingBetween (fun item inside => answers item (some item inside))
        (fun holds => (ordered holds).sublist (List.take_sublist ..)) direction high low high within
        (by rw [List.length_take]; omega) (by omega)
        (fun holds => by rw [List.take_take, Nat.min_eq_left within]; exact (ends holds).1)
        fun _ => by simp) fun count counted holds => ?_
      rw [List.length_take] at counted
      exact (counted.2 holds).of_take (by omega) (ends holds).2
    · exact (ordered holds).drop_fails rfl (agrees holds ▸ Bool.eq_false_iff.mpr no)

end

/-! ## Order by rank -/

/-- The ranks never fall. -/
abbrev Ascends (rank : α → Int) (items : List α) : Prop :=
  items.Pairwise fun first second => rank first ≤ rank second

/-- The same items. Under a sound comparison those of each rank stand in the same order. -/
structure Kept (rank : α → Int) (sound : Prop) (items source : List α) : Prop where
  perm : items.Perm source
  same : sound → ∀ value, items.filter (rank · = value) = source.filter (rank · = value)

/-- What an arrangement makes of its source. -/
structure Arranged (rank : α → Int) (sound : Prop) (source : List α) (arrangement : Arrangement α) : Prop where
  kept : Kept rank sound arrangement.items source
  order : sound → arrangement.finished = true ∧ Ascends rank arrangement.items

variable {rank : α → Int}

namespace Kept

theorem refl (items : List α) : Kept rank sound items items :=
  ⟨.refl _, fun _ _ => rfl⟩

theorem trans {first second third : List α} (left : Kept rank sound first second)
    (right : Kept rank sound second third) : Kept rank sound first third :=
  ⟨left.perm.trans right.perm, fun sure value => (left.same sure value).trans (right.same sure value)⟩

theorem append {first second third fourth : List α} (left : Kept rank sound first second)
    (right : Kept rank sound third fourth) : Kept rank sound (first ++ third) (second ++ fourth) :=
  ⟨left.perm.append right.perm, fun sure value => by
    rw [List.filter_append, List.filter_append, left.same sure value, right.same sure value]⟩

theorem around {items source : List α} (kept : Kept rank sound items source) (before after : List α) :
    Kept rank sound (before ++ items ++ after) (before ++ source ++ after) :=
  ((refl before).append kept).append (refl after)

theorem swap {first second : List α} (apart : sound → ∀ left ∈ first, ∀ right ∈ second, rank left < rank right) :
    Kept rank sound (first ++ second) (second ++ first) := by
  refine ⟨List.perm_append_comm, fun sure value => ?_⟩
  rw [List.filter_append, List.filter_append]
  by_cases found : ∃ left ∈ first, rank left = value
  · obtain ⟨left, inside, rfl⟩ := found
    have none : second.filter (rank · = rank left) = [] := List.filter_eq_nil_iff.mpr fun right behind => by
      simpa using (Int.ne_of_lt (apart sure left inside right behind)).symm
    simp [none]
  · have none : first.filter (rank · = value) = [] :=
      List.filter_eq_nil_iff.mpr fun left inside => by simpa using fun same => found ⟨left, inside, same⟩
    simp [none]

theorem cons {first : α} {rest : List α} (below : sound → ∀ item ∈ rest, rank first < rank item) :
    Kept rank sound (first :: rest) (rest ++ [first]) :=
  @swap _ _ _ [first] rest fun sure _ alone right inside => List.mem_singleton.mp alone ▸ below sure right inside

theorem reverse {items : List α} (strict : sound → items.Pairwise fun first second => rank first < rank second) :
    Kept rank sound items items.reverse := by
  induction items with
  | nil => exact refl _
  | cons first rest ih =>
    rw [List.reverse_cons]
    exact (cons fun sure => (List.pairwise_cons.mp (strict sure)).1).trans
      ((ih fun sure => (List.pairwise_cons.mp (strict sure)).2).append (refl [first]))

end Kept

theorem Arranged.refused {source items : List α} (unsound : ¬sound) (perm : items.Perm source) :
    Arranged rank sound source ⟨items, false⟩ :=
  ⟨⟨perm, fun sure => absurd sure unsound⟩, fun sure => absurd sure unsound⟩

theorem Arranged.of_source {source other : List α} {arrangement : Arrangement α}
    (arranged : Arranged rank sound source arrangement) (kept : Kept rank sound source other) :
    Arranged rank sound other arrangement :=
  ⟨arranged.kept.trans kept, arranged.order⟩

/-- The comparison answers for some items by their ranks, if it is sound. -/
def Compares (rules : Rules E m) (sound : Prop) (rank : α → Int) (items : List α)
    (less : E → α → α → OptionT m Bool) : Prop :=
  ∀ left ∈ items, ∀ right ∈ items, (rules.optional ¬sound).yields
    (fun answer => sound → answer = decide (rank left < rank right)) fun env => less env left right

variable {less : E → α → α → OptionT m Bool}

theorem Compares.of_subset {items others : List α} (compares : Compares rules sound rank items less)
    (subset : others ⊆ items) : Compares rules sound rank others less :=
  fun left inside right within => compares left (subset inside) right (subset within)

theorem Compares.not {items : List α} (compares : Compares rules sound rank items less) {left right : α}
    (inside : left ∈ items) (within : right ∈ items) : (rules.optional ¬sound).yields
      (fun answer => sound → answer = decide (rank right ≤ rank left)) fun env => not <$> less env left right := by
  refine rules.bind (compares left inside right within) fun found holds => ?_
  cases found with
  | none => exact rules.pure holds
  | some answer =>
    refine rules.pure fun sure => ?_
    rw [holds sure, ← decide_not, decide_eq_decide, Int.not_lt]

/-! ## Runs -/

theorem yields_extendRun (descending : Bool) (run : List α) (last : α) (items : List α)
    (compares : Compares rules sound rank (last :: run ++ items) less)
    (chained : sound → (last :: run).Pairwise fun later earlier => decide (rank later < rank earlier) = descending) :
    (rules.optional ¬sound).yields
      (fun found => found.1 ≠ [] ∧ found.1.reverse ++ found.2 = (last :: run).reverse ++ items ∧
        (sound → found.1.Pairwise fun later earlier => decide (rank later < rank earlier) = descending))
      fun env => extendRun (less env) descending (last :: run) last items := by
  induction items generalizing run last with
  | nil => exact Rules.pure _ ⟨by simp, rfl, chained⟩
  | cons item rest ih =>
    refine Rules.bind _ (compares item (by simp) last (by simp)) fun answer agrees => ?_
    refine Rules.yields_ite (fun goes => ?_) fun _ => Rules.pure _ ⟨by simp, rfl, chained⟩
    refine Rules.mono _ (ih (last :: run) item (compares.of_subset (by grind)) fun holds => ?_) ?_
    · refine List.pairwise_cons.mpr ⟨fun other inside => ?_, chained holds⟩
      have next := (agrees holds).symm.trans goes
      rcases List.mem_cons.mp inside with rfl | inside
      · exact next
      · have before := List.rel_of_pairwise_cons (chained holds) inside
        cases descending <;> simp only [decide_eq_true_eq, decide_eq_false_iff_not] at * <;> omega
    · rintro found ⟨some, whole, chain⟩
      exact ⟨some, by simpa using whole, chain⟩

theorem yields_firstRun (items : List α) (compares : Compares rules sound rank items less) :
    (rules.optional ¬sound).yields
      (fun found => (items ≠ [] → found.1 ≠ []) ∧ Kept rank sound (found.1 ++ found.2) items ∧
        (sound → Ascends rank found.1))
      fun env => firstRun (less env) items := by
  match items with
  | [] => exact Rules.pure _ ⟨by simp, .refl _, fun _ => .nil⟩
  | [item] => exact Rules.pure _ ⟨by simp, .refl _, fun _ => by simp⟩
  | first :: second :: others =>
    refine Rules.bind _ (compares second (by simp) first (by simp)) fun descending agrees => ?_
    refine Rules.bind _ (yields_extendRun descending [first] second others
      (compares.of_subset (by grind)) fun holds => by simp [agrees holds]) ?_
    rintro ⟨run, rest⟩ ⟨some, whole, chain⟩
    have whole : run.reverse ++ rest = first :: second :: others := whole
    rw [← whole]
    cases descending with
    | true =>
      have strict (holds : sound) : run.Pairwise fun first second => rank first < rank second := by
        simpa using chain holds
      exact Rules.pure _ ⟨fun _ => some, (Kept.reverse strict).append (.refl rest),
        fun holds => (strict holds).imp Int.le_of_lt⟩
    | false =>
      exact Rules.pure _ ⟨fun _ => by simpa using some, .refl _,
        fun holds => List.pairwise_reverse.mpr (by simpa using chain holds)⟩

theorem yields_insertAll (run items : List α) (compares : Compares rules sound rank (run ++ items) less)
    (ordered : sound → Ascends rank run) :
    rules.yields (Arranged rank sound (run ++ items)) fun env => insertAll (less env) run.toArray items := by
  induction items generalizing run with
  | nil => exact Rules.pure _ ⟨by simpa using Kept.refl run, fun holds => ⟨rfl, ordered holds⟩⟩
  | cons item rest ih =>
    have place : (rules.optional ¬sound).yields (fun count => count ≤ run.length ∧
        (sound → Splits (fun other => decide (rank other ≤ rank item)) run count))
        fun env => place (less env) run.toArray item :=
      yields_leadingBetween (fun other inside => compares.not (by simp) (by simp [inside]))
        (fun holds => (ordered holds).imp fun first second => by grind)
        .forward run.length 0 run.length (by omega) (Nat.le_refl _) (by omega) (by simp) (by simp)
    refine rules.bind place fun found holds => ?_
    cases found with
    | none => exact Rules.pure _ (.refused holds (by simp))
    | some index =>
      obtain ⟨before, after, rfl, rfl, inserted⟩ := List.exists_of_modifyTailIdx (List.cons item) holds.1
      simp only [List.insertIdxIfInBounds_toArray, List.insertIdx, inserted]
      have sides (sure : sound) : (∀ other ∈ before, rank other ≤ rank item) ∧
        ∀ other ∈ after, rank item < rank other := by simpa [Splits] using holds.2 sure
      have kept : Kept rank sound (before ++ item :: after ++ rest) (before ++ after ++ item :: rest) := by
        simpa using (Kept.cons fun sure => (sides sure).2).around before rest
      refine Rules.mono _ (ih _ (compares.of_subset kept.perm.subset) fun sure => ?_) fun _ arranged =>
        arranged.of_source kept
      have := ordered sure
      simp only [Ascends, List.pairwise_append, List.pairwise_cons] at this ⊢
      grind

end LineScript.Sorting
