import LineScript.Proofs.Sorting.Runs

/-!
# Sorting arranges

Sorting keeps the items, whatever the answers of the comparison are. If they are those of an order by rank, the
items end up in this order, and those of one rank stand as they stood before (`yields_sort`).

During a merge the items placed come before all others, and those of one rank stand as in the two runs, if the
items left of the short run are put before those left of the long one (`Merge.Keeps`). An item of the long run
is placed only before greater items of the short run, and one of the short run before items of the long run that
are not less. The last item of the short run is greater than all of the long run, so it can be placed at the end.
A merge from the right to the left is one by the opposite ranks.
-/

set_option autoImplicit false

namespace LineScript.Sorting

variable {E : Type} {m : Type → Type} [Monad m] {α : Type} {rules : Rules E m} {sound : Prop} {rank : α → Int}
  {source : List α}

/-! ## Merging -/

/-- The runs of a merge under way are in order after the items placed, and the last item of the short run is
greater than all of the long one. -/
structure Merge.Ordered (rank : α → Int) (merge : Merge α) : Prop where
  short : Ascends rank (merge.placed.toList ++ merge.short)
  long : Ascends rank (merge.placed.toList ++ merge.long)
  last : ∀ item ∈ merge.long, ∀ last ∈ merge.short.getLast?, rank item < rank last

/-- What holds of a merge under way. -/
structure Merge.Keeps (rank : α → Int) (sound : Prop) (source : List α) (merge : Merge α) : Prop where
  kept : Kept rank sound merge.standing source
  order : sound → merge.Ordered rank

/-- A merge both of whose runs have items. -/
structure Merge.Goes (rank : α → Int) (sound : Prop) (source : List α) (merge : Merge α) : Prop extends
    merge.Keeps rank sound source where
  hasShort : merge.short ≠ []
  hasLong : merge.long ≠ []

/-- The number of items left in the two runs. -/
def Merge.size (merge : Merge α) : Nat :=
  merge.short.length + merge.long.length

/-- The rules for the steps of a merge, which ends with its source arranged. -/
abbrev Rules.merging (rules : Rules E m) (rank : α → Int) (sound : Prop) (source : List α) : Rules E (Merging m α) :=
  rules.stateful.excepting (Arranged rank sound source)

namespace Merge

variable {merge : Merge α}

theorem yields_settle (keeps : merge.Keeps rank sound source) :
    (rules.merging rank sound source).yields (fun after => after = merge ∧ after.Goes rank sound source)
      fun _ => merge.settle := by
  obtain ⟨placed, short, long⟩ := merge
  match long, short with
  | [], short =>
    exact rules.stateful.pure (.early ⟨keeps.kept, fun sure =>
      ⟨rfl, by simpa [standing] using (keeps.order sure).short⟩⟩)
  | _ :: _, [] =>
    exact rules.stateful.pure (.early ⟨keeps.kept, fun sure =>
      ⟨rfl, by simpa [standing] using (keeps.order sure).long⟩⟩)
  | first :: rest, [last] =>
    have greater (sure : sound) : ∀ item ∈ first :: rest, rank item < rank last := by
      simpa using (keeps.order sure).last
    have moved : Kept rank sound ((first :: rest) ++ [last]) ([last] ++ (first :: rest)) :=
      .swap fun sure item inside other alone => List.mem_singleton.mp alone ▸ greater sure item inside
    refine rules.stateful.pure (.early ⟨.trans ?_ keeps.kept, fun sure => ⟨rfl, ?_⟩⟩)
    · simpa [standing] using moved.around placed.toList []
    · have left := (keeps.order sure).short
      have right := (keeps.order sure).long
      have above := greater sure
      simp only [Ascends, List.pairwise_append] at left right ⊢
      grind
  | _ :: _, _ :: _ :: _ => exact Rules.pure _ ⟨rfl, keeps, by simp, by simp⟩

theorem yields_takeShort (keeps : merge.Keeps rank sound source) (count : Nat)
    (first : sound → ∀ item ∈ merge.short.take count, ∀ other ∈ merge.long, rank item ≤ rank other) :
    (rules.merging rank sound source).yields (fun after =>
        after.short = merge.short.drop count ∧ after.long = merge.long ∧ after.Goes rank sound source)
      fun _ => merge.takeShort count := by
  refine Rules.mono _ (yields_settle ⟨by simpa [standing] using keeps.kept, fun sure => ⟨?_, ?_, ?_⟩⟩) ?_
  · simpa using (keeps.order sure).short
  · have left := (keeps.order sure).short
    have right := (keeps.order sure).long
    rw [← List.take_append_drop count merge.short] at left
    simp only [Ascends, Array.toList_appendList, List.pairwise_append] at left right ⊢
    grind
  · intro item inside last ends
    rw [List.getLast?_drop] at ends
    exact (keeps.order sure).last item inside last (by grind)
  · rintro after ⟨rfl, goes⟩
    exact ⟨rfl, rfl, goes⟩

theorem yields_takeLong (keeps : merge.Keeps rank sound source) (count : Nat)
    (first : sound → ∀ item ∈ merge.long.take count, ∀ other ∈ merge.short, rank item < rank other) :
    (rules.merging rank sound source).yields (fun after =>
        after.short = merge.short ∧ after.long = merge.long.drop count ∧ after.Goes rank sound source)
      fun _ => merge.takeLong count := by
  refine Rules.mono _ (yields_settle ⟨.trans ?_ keeps.kept, fun sure => ⟨?_, ?_, ?_⟩⟩) ?_
  · simpa [standing] using (Kept.swap first).around merge.placed.toList (merge.long.drop count)
  · have left := (keeps.order sure).short
    have right := (keeps.order sure).long
    rw [← List.take_append_drop count merge.long] at right
    simp only [Ascends, Array.toList_appendList, List.pairwise_append] at left right ⊢
    grind
  · simpa using (keeps.order sure).long
  · exact fun item inside => (keeps.order sure).last item (List.mem_of_mem_drop inside)
  · rintro after ⟨rfl, goes⟩
    exact ⟨rfl, rfl, goes⟩

theorem yields_ask {β : Type} {post : β → Prop} {answer : E → OptionT m β} (keeps : merge.Keeps rank sound source)
    (answers : (rules.optional ¬sound).yields post answer) :
    (rules.merging rank sound source).yields post fun env => merge.ask (answer env) := by
  have found : (rules.merging rank sound source).yields (·.elim (¬sound) post)
      fun env => ExceptT.lift (StateT.lift (answer env).run) :=
    fun state => rules.bind (@Rules.yields_lift _ _ _ rules _ _ _ answers state) fun _ holds =>
      rules.pure (.value holds)
  refine Rules.bind _ found fun answer holds => ?_
  cases answer with
  | none => exact rules.stateful.pure (.early (.refused holds keeps.kept.perm))
  | some answer => exact Rules.pure _ holds

theorem Goes.mem_source (goes : merge.Goes rank sound source) {item : α}
    (inside : item ∈ merge.short ∨ item ∈ merge.long) : item ∈ source :=
  goes.kept.perm.subset (by simp [standing, inside])

end Merge

theorem yields_patience : (rules.merging rank sound source).yields (fun _ => True) fun _ => get :=
  fun _ => @Rules.bind _ _ _ rules _ _ (fun _ => True) _ _ _ (rules.pure trivial) fun _ _ =>
    rules.pure (.value trivial)

theorem yields_newPatience (change : Nat → Nat) :
    (rules.merging rank sound source).yields (fun _ => True) fun _ => modify change :=
  fun _ => @Rules.bind _ _ _ rules _ _ (fun _ => True) _ _ _ (rules.pure trivial) fun _ _ =>
    rules.pure (.value trivial)

theorem Ascends.head_le {placed rest : List α} {first : α} (ascends : Ascends rank (placed ++ first :: rest)) :
    ∀ item ∈ first :: rest, rank first ≤ rank item := by
  intro item inside
  rcases List.mem_cons.mp inside with rfl | inside
  · exact Int.le_refl _
  · exact List.rel_of_pairwise_cons (List.pairwise_append.mp ascends).2.1 inside

theorem Ascends.le_last {items : List α} {last : α} (ascends : Ascends rank items)
    (ends : items.getLast? = some last) : ∀ item ∈ items, rank item ≤ rank last := by
  obtain ⟨before, rfl⟩ := List.getLast?_eq_some_iff.mp ends
  intro item inside
  rcases List.mem_append.mp inside with inside | alone
  · exact (List.pairwise_append.mp ascends).2.2 item inside last (by simp)
  · obtain rfl := List.mem_singleton.mp alone
    exact Int.le_refl _

section

variable {longFirst : E → α → α → OptionT m Bool} (compares : Compares rules sound rank source longFirst)
  {merge : Merge α}

include compares

theorem yields_alternate (fuel : Nat) (fromLong : Bool) (streak : Nat) (goes : merge.Goes rank sound source) :
    (rules.merging rank sound source).yields
      (fun after => after.size + min fuel 1 ≤ merge.size ∧ after.Goes rank sound source)
      fun env => alternate (longFirst env) fuel fromLong streak merge := by
  induction fuel generalizing fromLong streak merge with
  | zero => exact Rules.pure _ ⟨by simp, goes⟩
  | succ fuel ih =>
    have next (takesLong : Bool) (streak : Nat) (after : Merge α) (less : after.size < merge.size)
        (goes : after.Goes rank sound source) : (rules.merging rank sound source).yields
          (fun last => last.size + min (fuel + 1) 1 ≤ merge.size ∧ last.Goes rank sound source)
          fun env => (do
            if (← get) ≤ streak then return after
            else alternate (longFirst env) fuel takesLong streak after : Merging m α (Merge α)) := by
      refine Rules.bind _ yields_patience fun _ _ => ?_
      refine Rules.yields_ite (fun _ => Rules.pure _ ⟨by omega, goes⟩) fun _ => ?_
      exact Rules.mono _ (ih takesLong streak goes) fun last holds => ⟨by omega, holds.2⟩
    obtain ⟨placed, short, long⟩ := merge
    match long, short, goes with
    | [], _, goes => exact absurd rfl goes.hasLong
    | _ :: _, [], goes => exact absurd rfl goes.hasShort
    | first :: rest, other :: others, goes =>
      have asks := compares first (goes.mem_source (by simp)) other (goes.mem_source (by simp))
      refine Rules.bind _ (Merge.yields_ask goes.toKeeps asks) fun takesLong agrees => ?_
      have shorts (sure : sound) := (goes.order sure).short.head_le
      have longs (sure : sound) := (goes.order sure).long.head_le
      refine Rules.yields_ite (fun yes => ?_) fun no => ?_
      · refine Rules.bind _ (Merge.yields_takeLong goes.toKeeps 1 (by grind)) ?_
        rintro after ⟨short, long, goes⟩
        exact next _ _ after (by simp [Merge.size, short, long]) goes
      · refine Rules.bind _ (Merge.yields_takeShort goes.toKeeps 1 (by grind)) ?_
        rintro after ⟨short, long, goes⟩
        exact next _ _ after (by simp [Merge.size, short, long]) goes

theorem yields_passShort (direction : Direction) (goes : merge.Goes rank sound source) :
    (rules.merging rank sound source).yields
      (fun passed => passed.2.size ≤ merge.size ∧ passed.2.Goes rank sound source)
      fun env => passShort (longFirst env) direction merge := by
  obtain ⟨placed, short, long⟩ := merge
  match long, goes with
  | [], goes => exact absurd rfl goes.hasLong
  | first :: rest, goes =>
    have asks (item : α) (inside : item ∈ short) :=
      compares.not (goes.mem_source (by simp) : first ∈ _) (goes.mem_source (.inl inside))
    have count := yields_leading asks
      (fun sure => (List.pairwise_append.mp (goes.order sure).short).2.1.imp (by grind)) direction
    refine Rules.bind _ (Merge.yields_ask goes.toKeeps count) fun count splits => ?_
    refine Rules.bind _ (Merge.yields_takeShort goes.toKeeps count fun sure => ?_) ?_
    · have := (goes.order sure).long.head_le
      have := (splits sure).1
      grind
    · rintro middle ⟨short, long, goes⟩
      refine Rules.bind _ (Merge.yields_takeLong goes.toKeeps 1 fun sure => ?_) ?_
      · have := (splits sure).2
        grind
      · rintro after ⟨fewer, shorter, goes⟩
        refine Rules.pure _ ⟨?_, goes⟩
        simp only [Merge.size, fewer, shorter, short, long, List.length_drop]
        omega

theorem yields_passLong (direction : Direction) (goes : merge.Goes rank sound source) :
    (rules.merging rank sound source).yields
      (fun passed => passed.2.size ≤ merge.size ∧ passed.2.Goes rank sound source)
      fun env => passLong (longFirst env) direction merge := by
  obtain ⟨placed, short, long⟩ := merge
  match short, goes with
  | [], goes => exact absurd rfl goes.hasShort
  | first :: rest, goes =>
    have asks (item : α) (inside : item ∈ long) :=
      compares item (goes.mem_source (.inr inside)) first (goes.mem_source (by simp))
    have count := yields_leading asks
      (fun sure => (List.pairwise_append.mp (goes.order sure).long).2.1.imp (by grind)) direction
    refine Rules.bind _ (Merge.yields_ask goes.toKeeps count) fun count splits => ?_
    refine Rules.bind _ (Merge.yields_takeLong goes.toKeeps count fun sure => ?_) ?_
    · have := (goes.order sure).short.head_le
      have := (splits sure).1
      grind
    · rintro middle ⟨short, long, goes⟩
      refine Rules.bind _ (Merge.yields_takeShort goes.toKeeps 1 fun sure => ?_) ?_
      · have := (splits sure).2
        grind
      · rintro after ⟨fewer, shorter, goes⟩
        refine Rules.pure _ ⟨?_, goes⟩
        simp only [Merge.size, fewer, shorter, short, long, List.length_drop]
        omega

theorem yields_passBoth (direction : Direction) (goes : merge.Goes rank sound source) :
    (rules.merging rank sound source).yields
      (fun passed => passed.2.size ≤ merge.size ∧ passed.2.Goes rank sound source)
      fun env => passBoth (longFirst env) direction merge := by
  cases direction with
  | forward =>
    refine Rules.bind _ (yields_passShort compares .forward goes) fun first short => ?_
    refine Rules.bind _ (yields_passLong compares .forward short.2) fun second long => ?_
    exact Rules.pure _ ⟨Nat.le_trans long.1 short.1, long.2⟩
  | backward =>
    refine Rules.bind _ (yields_passLong compares .backward goes) fun first long => ?_
    refine Rules.bind _ (yields_passShort compares .backward long.2) fun second short => ?_
    exact Rules.pure _ ⟨Nat.le_trans short.1 long.1, short.2⟩

theorem yields_gallop (direction : Direction) (fuel : Nat) (goes : merge.Goes rank sound source) :
    (rules.merging rank sound source).yields (fun after => after.size ≤ merge.size ∧ after.Goes rank sound source)
      fun env => gallop (longFirst env) direction fuel merge := by
  induction fuel generalizing merge with
  | zero => exact Rules.pure _ ⟨Nat.le_refl _, goes⟩
  | succ fuel ih =>
    refine Rules.bind _ (yields_passBoth compares direction goes) fun passed holds => ?_
    refine Rules.yields_ite (fun _ => ?_) fun _ => ?_
    · refine Rules.bind _ (yields_newPatience _) fun _ _ => ?_
      exact Rules.mono _ (ih holds.2) fun after less => ⟨Nat.le_trans less.1 holds.1, less.2⟩
    · exact Rules.bind _ (yields_newPatience _) fun _ _ => Rules.pure _ holds

/-- A merge that goes on ends early: the steps are enough. -/
theorem yields_mergeOn (direction : Direction) (fuel : Nat) (goes : merge.Goes rank sound source)
    (enough : merge.size ≤ fuel) : (rules.merging rank sound source).yields (fun _ => False)
      fun env => mergeOn (longFirst env) direction fuel merge := by
  have some (merge : Merge α) (goes : merge.Goes rank sound source) : 0 < merge.size :=
    Nat.add_pos_left (List.length_pos_iff.mpr goes.hasShort) _
  induction fuel generalizing merge with
  | zero => exact absurd (some merge goes) (by omega)
  | succ fuel ih =>
    refine Rules.bind _ (yields_alternate compares _ _ _ goes) fun middle first => ?_
    refine Rules.bind _ (yields_gallop compares direction _ first.2) fun after second => ?_
    have := some merge goes
    exact ih second.2 (by have := first.1; have := second.1; simp only [Merge.size] at *; omega)

omit compares

theorem yields_mergeWalk (direction : Direction) (short long : List α)
    (compares : Compares rules sound rank (short ++ long) longFirst)
    (ordered : sound → Ascends rank short ∧ Ascends rank long)
    (first : sound → ∀ item ∈ long.head?, ∀ other ∈ short, rank item < rank other)
    (last : sound → ∀ item ∈ long, ∀ other ∈ short.getLast?, rank item < rank other) :
    rules.stateful.yields (Arranged rank sound (short ++ long))
      fun env => mergeWalk (longFirst env) direction short long := by
  have keeps : Merge.Keeps rank sound (short ++ long) ⟨#[], short, long⟩ :=
    ⟨.refl _, fun sure => ⟨(ordered sure).1, (ordered sure).2, last sure⟩⟩
  have whole : (rules.merging rank sound (short ++ long)).yields (fun _ => False) fun env => (do
      let merge ← Merge.takeLong ⟨#[], short, long⟩ 1
      mergeOn (longFirst env) direction (short.length + long.length) merge) := by
    refine Rules.bind _ (Merge.yields_takeLong keeps 1 (by cases long <;> simp_all)) ?_
    rintro merge ⟨fewer, shorter, goes⟩
    exact yields_mergeOn compares direction _ goes (by simp [Merge.size, fewer, shorter])
  refine Rules.bind _ whole fun result ends => ?_
  cases ends with
  | early arranged => exact Rules.pure _ arranged
  | value impossible => exact impossible.elim

end

theorem Arranged.around {before left right after : List α} {core : Arrangement α}
    (arranged : Arranged rank sound (left ++ right) core)
    (ascends : sound → Ascends rank (before ++ left) ∧ Ascends rank (right ++ after))
    (front : sound → ∀ item ∈ before, ∀ other ∈ right ++ after, rank item ≤ rank other)
    (back : sound → ∀ item ∈ after, ∀ other ∈ left, rank other ≤ rank item) :
    Arranged rank sound (before ++ left ++ (right ++ after)) ⟨before ++ core.items ++ after, core.finished⟩ := by
  refine ⟨by simpa using arranged.kept.around before after, fun sure => ⟨(arranged.order sure).1, ?_⟩⟩
  have items (item : α) := arranged.kept.perm.mem_iff (a := item)
  have ordered := ascends sure
  have middle := (arranged.order sure).2
  simp only [Ascends, List.pairwise_append, List.mem_append] at ordered middle items front ⊢
  grind

section

variable {less : E → α → α → OptionT m Bool} {left right : List α}
  (compares : Compares rules sound rank (left ++ right) less)
  (ascends : sound → Ascends rank left ∧ Ascends rank right)

include compares ascends

theorem yields_mergeCore (first : sound → ∀ item ∈ right.head?, ∀ other ∈ left, rank item < rank other)
    (last : sound → ∀ item ∈ right, ∀ other ∈ left.getLast?, rank item < rank other) :
    rules.stateful.yields (Arranged rank sound (left ++ right)) fun env => mergeCore (less env) left right := by
  simp only [mergeCore]
  refine Rules.yields_ite (fun _ => yields_mergeWalk .forward left right compares ascends first last) fun _ => ?_
  have walk : rules.stateful.yields (Arranged (fun item => -rank item) sound (right.reverse ++ left.reverse))
      fun env => mergeWalk (fun long short => less env short long) .backward right.reverse left.reverse := by
    refine yields_mergeWalk .backward _ _ (fun long inside short within => ?_) (fun sure => ?_) ?_ ?_
    · simpa only [Int.neg_lt_neg_iff] using compares short (by grind) long (by grind)
    · simpa only [Ascends, List.pairwise_reverse, Int.neg_le_neg_iff] using (ascends sure).symm
    · simpa only [Int.neg_lt_neg_iff, List.head?_reverse, List.mem_reverse] using
        fun sure item ends other inside => last sure other inside item ends
    · simpa only [Int.neg_lt_neg_iff, List.getLast?_reverse, List.mem_reverse] using
        fun sure item inside other ends => first sure other ends item inside
  rw [← List.reverse_append] at walk
  refine Rules.bind _ walk fun arrangement arranged => Rules.pure _ ⟨⟨?_, fun sure value => ?_⟩, fun sure => ?_⟩
  · exact (List.reverse_perm _).trans (arranged.kept.perm.trans (List.reverse_perm _))
  · have same := arranged.kept.same sure (-value)
    simp only [Int.neg_inj, List.filter_reverse] at same ⊢
    rw [same, List.reverse_reverse]
  · have ordered := arranged.order sure
    exact ⟨ordered.1, List.pairwise_reverse.mpr (ordered.2.imp Int.neg_le_neg_iff.mp)⟩

theorem yields_settledFront : (rules.optional ¬sound).yields
    (fun front => sound → (∀ item ∈ left.take front, ∀ other ∈ right, rank item ≤ rank other) ∧
      ∀ item ∈ left.drop front, ∀ other ∈ right.head?, rank other < rank item)
    fun env => settledFront (less env) left right := by
  cases right with
  | nil => exact Rules.pure _ fun _ => by simp
  | cons first rest =>
    have asks (item : α) (inside : item ∈ left) :=
      compares.not (by simp : first ∈ _) (by simp [inside] : item ∈ _)
    refine Rules.mono _ (yields_leading asks (fun sure => (ascends sure).1.imp (by grind)) .forward) ?_
    intro front splits sure
    have lowest := @Ascends.head_le _ rank [] _ _ (ascends sure).2
    have := splits sure
    simp only [Splits, decide_eq_true_eq, decide_eq_false_iff_not] at this
    grind

theorem yields_settledBack : (rules.optional ¬sound).yields
    (fun back => sound → (∀ item ∈ right.drop (right.length - back), ∀ other ∈ left, rank other ≤ rank item) ∧
      ∀ item ∈ right.take (right.length - back), ∀ other ∈ left.getLast?, rank item < rank other)
    fun env => settledBack (less env) left right := by
  simp only [settledBack]
  cases ends : left.getLast? with
  | none =>
    rw [List.getLast?_eq_none_iff.mp ends]
    exact Rules.pure _ fun _ => by simp
  | some last =>
    have asks (item : α) (within : item ∈ right.reverse) :=
      compares.not (by simp_all : item ∈ _) (by simp [List.mem_of_getLast? ends] : last ∈ _)
    refine Rules.mono _ (yields_leading asks (fun sure => ?_) .backward) fun back splits sure => ?_
    · exact List.pairwise_reverse.mpr ((ascends sure).2.imp (by grind))
    · have := splits sure
      simp only [Splits, List.take_reverse, List.drop_reverse, List.mem_reverse, decide_eq_true_eq,
        decide_eq_false_iff_not] at this
      have := (ascends sure).1.le_last ends
      grind

theorem yields_mergeRuns :
    rules.stateful.yields (Arranged rank sound (left ++ right)) fun env => mergeRuns (less env) left right := by
  have stays (before : sound → ∀ item ∈ left, ∀ other ∈ right, rank item ≤ rank other) :
      Arranged rank sound (left ++ right) ⟨left ++ right, true⟩ :=
    ⟨.refl _, fun sure => ⟨rfl, List.pairwise_append.mpr ⟨(ascends sure).1, (ascends sure).2, before sure⟩⟩⟩
  refine Rules.bind _ (Rules.yields_lift (yields_settledFront compares ascends)) fun found front => ?_
  cases found with
  | none => exact Rules.pure _ (.refused front (.refl _))
  | some count =>
    refine Rules.yields_ite (fun whole => Rules.pure _ (stays fun sure => ?_)) fun _ => ?_
    · rw [← List.take_of_length_le whole]
      exact (front sure).1
    have subset : left.drop count ++ right ⊆ left ++ right :=
      (List.Sublist.append_right (List.drop_sublist ..) right).subset
    refine Rules.bind _ (Rules.yields_lift (yields_settledBack (compares.of_subset subset) fun sure =>
      ⟨(ascends sure).1.sublist (List.drop_sublist ..), (ascends sure).2⟩)) fun found back => ?_
    cases found with
    | none => exact Rules.pure _ (.refused back (.refl _))
    | some rest =>
      refine Rules.yields_ite (fun whole => Rules.pure _ (stays fun sure => ?_)) fun _ => ?_
      · have behind := (back sure).1
        rw [Nat.sub_eq_zero_of_le whole, List.drop_zero] at behind
        rw [← List.take_append_drop count left]
        exact fun item inside other within => (List.mem_append.mp inside).elim
          (fun inside => (front sure).1 item inside other within) fun inside => behind other within item inside
      · have subset : left.drop count ++ right.take (right.length - rest) ⊆ left ++ right :=
          ((List.drop_sublist ..).append (List.take_sublist ..)).subset
        refine Rules.bind _ (yields_mergeCore (compares.of_subset subset) (fun sure => ?_) (fun sure => ?_)
          fun sure => (back sure).2) fun core arranged => Rules.pure _ ?_
        · exact ⟨(ascends sure).1.sublist (List.drop_sublist ..), (ascends sure).2.sublist (List.take_sublist ..)⟩
        · intro item first other inside
          rw [List.head?_take] at first
          exact (front sure).2 other inside item (by grind)
        · have whole : Arranged rank sound (left.take count ++ left.drop count ++
              (right.take (right.length - rest) ++ right.drop (right.length - rest))) _ :=
            arranged.around (by simpa only [List.take_append_drop] using ascends)
              (fun sure => by simpa only [List.take_append_drop] using (front sure).1) fun sure => (back sure).1
          simpa only [List.take_append_drop] using whole

end

/-! ## Sorting -/

/-- What the merging of waiting runs makes of their items. -/
structure Waits (rank : α → Int) (sound : Prop) (source : List α) (merged : Bool) (pending : List (Pending α)) :
    Prop where
  kept : Kept rank sound (pendingItems pending) source
  order : sound → merged = true ∧ ∀ run ∈ pending, Ascends rank run.items

@[simp]
theorem pendingItems_cons (run : Pending α) (pending : List (Pending α)) :
    pendingItems (run :: pending) = pendingItems pending ++ run.items := by
  simp [pendingItems]

section

variable {less : E → α → α → OptionT m Bool}

theorem yields_mergeBelow (power : Nat) (last : List α) (pending : List (Pending α))
    (compares : Compares rules sound rank (pendingItems pending ++ last) less)
    (ascends : sound → Ascends rank last ∧ ∀ run ∈ pending, Ascends rank run.items) :
    rules.stateful.yields (fun result => Waits rank sound (pendingItems pending ++ last) result.1 result.2)
      fun env => mergeBelow (less env) power last pending := by
  induction pending generalizing last with
  | nil => exact Rules.pure _ ⟨by simpa using Kept.refl _, fun sure => ⟨rfl, by simpa using ascends sure⟩⟩
  | cons before pending ih =>
    refine Rules.yields_ite (fun _ => ?_) fun _ => Rules.pure _
      ⟨by simpa using Kept.refl _, fun sure => ⟨rfl, by simpa using ascends sure⟩⟩
    simp only [pendingItems_cons, List.append_assoc, List.forall_mem_cons] at compares ascends ⊢
    refine Rules.bind _ (yields_mergeRuns (compares.of_subset (List.subset_append_right ..)) fun sure =>
      ⟨(ascends sure).2.1, (ascends sure).1⟩) fun arrangement arranged => ?_
    have kept := (Kept.refl (pendingItems pending)).append arranged.kept
    refine Rules.yields_ite (fun _ => ?_) fun refused => Rules.pure _ ⟨by simpa using kept, fun sure =>
      absurd (arranged.order sure).1 refused⟩
    exact Rules.mono _ (ih _ (compares.of_subset kept.perm.subset) fun sure =>
      ⟨(arranged.order sure).2, (ascends sure).2.2⟩) fun result waits => ⟨waits.kept.trans kept, waits.order⟩

theorem yields_makeRoom (total size : Nat) (pending : List (Pending α))
    (compares : Compares rules sound rank (pendingItems pending) less)
    (ascends : sound → ∀ run ∈ pending, Ascends rank run.items) :
    rules.stateful.yields (fun result => Waits rank sound (pendingItems pending) result.1 result.2)
      fun env => makeRoom (less env) total size pending := by
  cases pending with
  | nil => exact Rules.pure _ ⟨.refl _, fun sure => ⟨rfl, ascends sure⟩⟩
  | cons last pending =>
    rw [pendingItems_cons] at compares ⊢
    exact yields_mergeBelow _ _ _ compares (by simpa using ascends)

theorem yields_mergeAll (fuel : Nat) (runs : List (List α)) (enough : runs.length ≤ fuel)
    (compares : Compares rules sound rank runs.reverse.flatten less)
    (ascends : sound → ∀ run ∈ runs, Ascends rank run) :
    rules.stateful.yields (Arranged rank sound runs.reverse.flatten) fun env => mergeAll (less env) fuel runs := by
  induction fuel generalizing runs with
  | zero =>
    rw [List.length_eq_zero_iff.mp (by omega : runs.length = 0)]
    exact Rules.pure _ ⟨.refl _, fun _ => ⟨rfl, .nil⟩⟩
  | succ fuel ih =>
    match runs with
    | [] => exact Rules.pure _ ⟨.refl _, fun _ => ⟨rfl, .nil⟩⟩
    | [_] => exact Rules.pure _ ⟨.refl _, fun sure => ⟨rfl, by simpa using ascends sure⟩⟩
    | [last, first] =>
      have whole : [last, first].reverse.flatten = first ++ last := by simp
      rw [whole] at compares ⊢
      exact yields_mergeRuns compares fun sure => ⟨ascends sure _ (by simp), ascends sure _ (by simp)⟩
    | last :: middle :: first :: runs =>
      -- two neighbours become one run, and the runs before and after them stay
      have step (before after left right : List α) (others : List α → List (List α))
          (length : ∀ run, (others run).length ≤ fuel)
          (whole : (last :: middle :: first :: runs).reverse.flatten = before ++ (left ++ right) ++ after)
          (remade : ∀ run, (others run).reverse.flatten = before ++ run ++ after)
          (ordered : sound → Ascends rank left ∧ Ascends rank right)
          (still : sound → ∀ run, Ascends rank run → ∀ other ∈ others run, Ascends rank other) :
          rules.stateful.yields (Arranged rank sound (last :: middle :: first :: runs).reverse.flatten)
            fun env => (do
              let arrangement ← mergeRuns (less env) left right
              if arrangement.finished then mergeAll (less env) fuel (others arrangement.items)
              else return ⟨(others arrangement.items).reverse.flatten, false⟩) := by
        rw [whole] at compares ⊢
        refine Rules.bind _ (yields_mergeRuns (compares.of_subset (by grind)) ordered) fun part arranged => ?_
        have kept := arranged.kept.around before after
        rw [← remade] at kept
        refine Rules.yields_ite (fun _ => ?_) fun refused => Rules.pure _ ⟨kept, fun sure =>
          absurd (arranged.order sure).1 refused⟩
        exact Rules.mono _ (ih _ (length _) (compares.of_subset kept.perm.subset) fun sure =>
          still sure _ (arranged.order sure).2) fun final arranged => arranged.of_source kept
      simp only [List.length_cons, List.forall_mem_cons] at enough ascends
      refine Rules.yields_ite (fun _ => ?_) fun _ => ?_
      · exact step runs.reverse.flatten last first middle (fun run => last :: run :: runs)
          (by simp; omega) (by simp) (by simp) (by grind) (by grind)
      · exact step (runs.reverse.flatten ++ first) [] middle last (fun run => run :: first :: runs)
          (by simp; omega) (by simp) (by simp) (by grind) (by grind)

theorem yields_nextRun (least : Nat) (items : List α) (some : items ≠ [])
    (compares : Compares rules sound rank items less) :
    rules.yields (fun next => ∃ part, Arranged rank sound part next.1 ∧ Kept rank sound (part ++ next.2) items ∧
        (next.1.finished = true → part ≠ []))
      fun env => nextRun (less env) least items := by
  refine rules.bind (yields_firstRun items compares) fun found holds => ?_
  cases found with
  | none =>
    exact rules.pure ⟨[], .refused holds (.refl _), .refl _, by simp⟩
  | some runs =>
    obtain ⟨run, rest⟩ := runs
    obtain ⟨first, kept, ordered⟩ := holds
    rw [← List.take_append_drop (least - run.length) rest, ← List.append_assoc] at kept
    refine rules.bind (yields_insertAll run (rest.take (least - run.length)) (compares.of_subset ?_) ordered)
      fun arrangement arranged => rules.pure ⟨_, arranged, kept, fun _ => by simp [first some]⟩
    exact List.Subset.trans (List.subset_append_left ..) kept.perm.subset

theorem yields_sortFrom (total least fuel : Nat) (pending : List (Pending α)) (items : List α)
    (enough : items.length < fuel) (compares : Compares rules sound rank (pendingItems pending ++ items) less)
    (ascends : sound → ∀ run ∈ pending, Ascends rank run.items) :
    rules.stateful.yields (Arranged rank sound (pendingItems pending ++ items))
      fun env => sortFrom (less env) total least fuel pending items := by
  induction fuel generalizing pending items with
  | zero => omega
  | succ fuel ih =>
    cases items with
    | nil =>
      have whole : pendingItems pending ++ [] = (pending.map Pending.items).reverse.flatten := by
        simp [pendingItems, List.flatMap]
      rw [whole] at compares ⊢
      exact yields_mergeAll _ _ (by simp) compares (by simpa using ascends)
    | cons item items =>
      refine Rules.bind _ (Rules.yields_lift (yields_nextRun least _ (by simp)
        (compares.of_subset (List.subset_append_right ..)))) ?_
      rintro ⟨run, rest⟩ ⟨part, arranged, kept, some⟩
      have kept' := (arranged.kept.append (.refl rest)).trans kept
      refine Rules.yields_ite (fun finished => ?_) fun refused => Rules.pure _
        ⟨by simpa using (Kept.refl (pendingItems pending)).append kept', fun sure =>
          absurd (arranged.order sure).1 refused⟩
      refine Rules.bind _ (yields_makeRoom total _ pending
        (compares.of_subset (List.subset_append_left ..)) ascends) ?_
      rintro ⟨merged, waiting⟩ waits
      have whole := waits.kept.append kept'
      rw [← List.append_assoc] at whole
      refine Rules.yields_ite (fun _ => ?_) fun refused => Rules.pure _
        ⟨whole, fun sure => absurd (waits.order sure).1 refused⟩
      rw [← pendingItems_cons ⟨run.items, 0⟩] at whole
      refine Rules.mono _ (ih _ rest ?_ (compares.of_subset whole.perm.subset) fun sure => ?_)
        fun final holds => holds.of_source whole
      · have := kept.perm.length_eq
        have := List.length_pos_iff.mpr (some finished)
        simp only [List.length_append, List.length_cons] at *
        omega
      · exact List.forall_mem_cons.mpr ⟨(arranged.order sure).2, (waits.order sure).2⟩

/-- Sorting keeps the items, and a sound comparison puts them in the order of their ranks. -/
theorem yields_sort [LawfulMonad m] (items : List α) (compares : Compares rules sound rank items less) :
    rules.yields (Arranged rank sound items) fun env => sort (less env) items := by
  simp only [sort, StateT.run', map_eq_pure_bind]
  refine rules.bind (yields_sortFrom _ _ _ [] items (Nat.lt_succ_self _) compares (by simp) leastGallop) ?_
  exact fun result arranged => rules.pure arranged

end

/-! ## Total preorders -/

/-- The relation is total and transitive among some items. -/
structure Preorders (le : α → α → Bool) (items : List α) : Prop where
  total : ∀ first ∈ items, ∀ second ∈ items, le first second = true ∨ le second first = true
  trans : ∀ first ∈ items, ∀ second ∈ items, ∀ third ∈ items,
    le first second = true → le second third = true → le first third = true

/-- The items are those of a source, in order. Items that are equal in the order stand as in the source. -/
structure Sorts (le : α → α → Bool) (source items : List α) : Prop where
  perm : items.Perm source
  ordered : items.Pairwise fun first second => le first second = true
  stable : ∀ item ∈ source, items.filter (fun other => le item other && le other item) =
    source.filter fun other => le item other && le other item

/-- The number of items that come before an item. -/
def rankIn (le : α → α → Bool) (items : List α) (item : α) : Int :=
  items.countP fun other => !le item other

section

variable {le : α → α → Bool}

theorem Preorders.map {β : Type} {le : β → β → Bool} (value : α → β)
    (preorders : Preorders (fun first second => le (value first) (value second)) source) :
    Preorders le (source.map value) where
  total := by simpa only [List.forall_mem_map] using preorders.total
  trans := by simpa only [List.forall_mem_map] using preorders.trans

theorem Sorts.map {β : Type} {le : β → β → Bool} {source items : List α} (value : α → β)
    (sorts : Sorts (fun first second => le (value first) (value second)) source items) :
    Sorts le (source.map value) (items.map value) where
  perm := sorts.perm.map value
  ordered := List.pairwise_map.mpr sorts.ordered
  stable item inside := by
    obtain ⟨origin, within, rfl⟩ := List.mem_map.mp inside
    rw [List.filter_map, List.filter_map]
    exact congrArg _ (sorts.stable origin within)

theorem Preorders.rankIn_le_iff (preorders : Preorders le source) {first second : α} (inside : first ∈ source)
    (within : second ∈ source) : rankIn le source first ≤ rankIn le source second ↔ le first second = true := by
  have mono {first second : α} (inside : first ∈ source) (within : second ∈ source) (holds : le first second = true) :
      ∀ other ∈ source, (!le first other) = true → (!le second other) = true := by
    have := preorders.trans first inside second within
    grind
  constructor
  · intro below
    by_contra fails
    have above := (preorders.total first inside second within).resolve_left fails
    -- the second item comes before the first one, but not before itself
    have split := @List.countP_eq_countP_filter_add _ source (fun other => !le first other) fun other => !le second other
    have some : 0 < (source.filter fun other => !!le second other).countP fun other => !le first other :=
      List.countP_pos_iff.mpr ⟨second, by simpa [within] using preorders.total second within second within,
        by simpa using fails⟩
    have all : (source.filter fun other => !le second other).countP (fun other => !le first other) =
        source.countP fun other => !le second other := by
      rw [List.countP_filter]
      refine List.countP_congr fun other member => ?_
      have := mono within inside above other member
      grind
    simp only [rankIn] at below
    omega
  · exact fun holds => Int.ofNat_le.mpr (List.countP_mono_left (mono inside within holds))

theorem Arranged.sorts (preorders : Preorders le source) {arrangement : Arrangement α}
    (arranged : Arranged (rankIn le source) sound source arrangement) (sure : sound) :
    Sorts le source arrangement.items := by
  have items {item : α} := arranged.kept.perm.mem_iff (a := item)
  refine ⟨arranged.kept.perm, ?_, fun item inside => ?_⟩
  · exact (arranged.order sure).2.imp_of_mem fun first second below =>
      (preorders.rankIn_le_iff (items.mp first) (items.mp second)).mp below
  · have equal (others : List α) (all : ∀ other ∈ others, other ∈ source) :
        others.filter (fun other => le item other && le other item) =
          others.filter (rankIn le source · = rankIn le source item) := List.filter_congr fun other member => by
      have := preorders.rankIn_le_iff inside (all other member)
      have := preorders.rankIn_le_iff (all other member) inside
      grind
    rw [equal _ fun _ => items.mp, equal _ fun _ => id, arranged.kept.same sure]

/-- A comparison by a total preorder sorts. -/
theorem yields_sort_of_preorders [LawfulMonad m] {less : E → α → α → OptionT m Bool} (items : List α)
    (preorders : sound → Preorders le items) (answers : ∀ left ∈ items, ∀ right ∈ items,
      (rules.optional ¬sound).yields (fun answer => sound → answer = !le right left) fun env => less env left right) :
    rules.yields (fun arrangement => arrangement.items.Perm items ∧
        (sound → arrangement.finished = true ∧ Sorts le items arrangement.items))
      fun env => sort (less env) items := by
  have compares : Compares rules sound (rankIn le items) items less := fun left inside right within =>
    Rules.mono _ (answers left inside right within) fun answer agrees sure => by
      have := (preorders sure).rankIn_le_iff within inside
      have := agrees sure
      grind
  exact rules.mono (yields_sort items compares) fun arrangement arranged =>
    ⟨arranged.kept.perm, fun sure => ⟨(arranged.order sure).1, arranged.sorts (preorders sure) sure⟩⟩

end

end LineScript.Sorting
