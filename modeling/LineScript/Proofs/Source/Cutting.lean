import LineScript.Proofs.Source.Passage

/-!
# Cutting inside brackets

The scanner of bracket groups jumps over literals, and cutting at commas goes through them with a flag and an escape of
its own. They stay in step. `Cut` is what cutting keeps in mind on its way (`segmentsFrom_after`). What lies between the
brackets of a group is closed, and over a closed text cutting never stands lower than at its start (`Closed.cut`). So the
text in a group is cut at the commas outside all groups and literals in it, and at no others.
-/

set_option autoImplicit false

namespace LineScript.Source

open LineScript.Text

/-! ## The loop of cutting -/

/-- Where cutting stands: the number of open brackets, the quote of the literal that it is in, and whether a
backslash hides the next character. -/
structure Cut where
  depth : Int
  quote : Option Char
  hidden : Bool

namespace Cut

def start : Cut :=
  ⟨0, none, false⟩

def next (cut : Cut) (c : Char) : Cut :=
  match cut.quote with
  | some quote =>
    if cut.hidden then { cut with hidden := false }
    else if c = '\\' then { cut with hidden := true }
    else if c = quote then { cut with quote := none }
    else cut
  | none =>
    if isQuote c then { cut with quote := some c }
    else if isOpening c then { cut with depth := cut.depth + 1 }
    else if isClosing c then { cut with depth := cut.depth - 1 }
    else cut

/-- Where cutting stands after some characters. -/
def after (cut : Cut) (cs : List Char) : Cut :=
  cs.foldl next cut

/-- The depth does not fall below a number while the characters are passed. -/
def Above (least : Int) (cut : Cut) (cs : List Char) : Prop :=
  ∀ front, front <+: cs → least ≤ (cut.after front).depth

variable {least : Int} {cut : Cut} {c : Char} {cs : List Char}

theorem above_nil : Above least cut [] ↔ least ≤ cut.depth := by
  simp [Above, after]

theorem above_cons : Above least cut (c :: cs) ↔ least ≤ cut.depth ∧ Above least (cut.next c) cs := by
  constructor
  · intro above
    exact ⟨above [] List.nil_prefix, fun front starts => above (c :: front) (List.cons_prefix_cons.mpr ⟨rfl, starts⟩)⟩
  · rintro ⟨here, later⟩ (_ | ⟨d, front⟩) starts
    · exact here
    · obtain ⟨rfl, inside⟩ := List.cons_prefix_cons.mp starts
      exact later front inside

theorem above_append {first second : List Char} :
    Above least cut (first ++ second) ↔ Above least cut first ∧ Above least (cut.after first) second := by
  induction first generalizing cut with
  | nil =>
    simp only [List.nil_append, above_nil, after, List.foldl_nil, iff_and_self]
    exact fun above => above [] List.nil_prefix
  | cons c first ih => simp [above_cons, ih, and_assoc, after]

end Cut

/-- After the characters in front, cutting goes on with the depth and the quote that it stands at. -/
theorem segmentsFrom_after {depth : Int} {quote : Option Char} {front : List Char}
    (apart : (Cut.after ⟨depth, quote, false⟩ front).hidden = false) (part rest : List Char) :
    ∃ done part', segmentsFrom "," depth quote part (front ++ rest) =
      done ++ segmentsFrom "," (Cut.after ⟨depth, quote, false⟩ front).depth
        (Cut.after ⟨depth, quote, false⟩ front).quote part' rest := by
  induction size : front.length using Nat.strong_induction_on generalizing depth quote front part with
  | _ length ih =>
    rcases front with _ | ⟨c, front⟩
    · exact ⟨[], part, rfl⟩
    · rw [List.length_cons] at size
      simp only [List.cons_append, segmentsFrom.eq_def _ _ _ _ (c :: _), Cut.after, List.foldl_cons, Cut.next] at apart ⊢
      cases quote with
      | some quote =>
        simp only [Bool.false_eq_true, if_false] at apart ⊢
        split_ifs at apart ⊢
        · -- the hidden character is passed together with the backslash
          rcases front with _ | ⟨d, front⟩
          · cases apart
          · exact ih _ (by simp at size; omega) apart _ rfl
        all_goals exact ih _ (by omega) apart _ rfl
      | none =>
        simp only at apart ⊢
        split_ifs at apart ⊢
        pick_goal 4
        · -- a comma ends a part
          obtain ⟨done, part', same⟩ := ih _ (by omega) apart [] rfl
          exact ⟨part.reverse :: done, part', by rw [same]; rfl⟩
        all_goals exact ih _ (by omega) apart _ rfl

/-! ## Closed texts -/

/-- Inside a literal the depth stays as it is. -/
theorem Raw.cut {quote : Char} {body : List Char} (raw : Raw quote body) (depth : Int) :
    Cut.after ⟨depth, some quote, false⟩ body = ⟨depth, some quote, false⟩ ∧
      Cut.Above depth ⟨depth, some quote, false⟩ body := by
  induction raw with
  | nil => simp [Cut.after, Cut.above_nil]
  | plain noEscape noQuote _ ih => simpa [Cut.after, Cut.above_cons, Cut.next, noEscape, noQuote] using ih
  | hidden c _ ih => simpa [Cut.after, Cut.above_cons, Cut.next] using ih

variable {cs : List Char}

/-- A closed text leaves cutting where it stands, and on the way the depth does not fall below. -/
theorem Closed.cut {listed : Bool} (closed : Closed listed cs) (depth : Int) :
    Cut.after ⟨depth, none, false⟩ cs = ⟨depth, none, false⟩ ∧ Cut.Above depth ⟨depth, none, false⟩ cs := by
  induction closed generalizing depth with
  | nil => simp [Cut.after, Cut.above_nil]
  | plain plain _ _ ih =>
    obtain ⟨noQuote, noOpening, noClosing⟩ := isPlain_iff.mp plain
    simpa [Cut.after, Cut.above_cons, Cut.next, noQuote, noOpening, noClosing] using ih depth
  | literal opens raw _ ih =>
    have noEscape := ne_backslash_of_isQuote opens
    have literal := raw.cut depth
    have later := ih depth
    simp_all [Cut.after, Cut.above_cons, Cut.above_append, Cut.next]
  | @group _ _ _ inner _ opens closes _ _ ihInner ih =>
    have noQuote := isOpening_not_isQuote opens
    have noQuote' := isClosing_not_isQuote closes
    have noOpening := isClosing_not_isOpening closes
    have within := ihInner (depth + 1)
    have later := ih depth
    have above : Cut.Above depth ⟨depth + 1, none, false⟩ inner := fun front starts =>
      Int.le_trans (Int.le_add_one (Int.le_refl depth)) (within.2 front starts)
    simp_all [Cut.after, Cut.above_cons, Cut.above_append, Cut.next, Int.le_add_one (Int.le_refl depth)]

/-- A closed text is a list of closed items with commas between them, and the items have no commas outside brackets and
literals. -/
theorem Closed.exists_items (closed : Closed true cs) :
    ∃ item items, cs = [','].intercalate (item :: items) ∧ ∀ part ∈ item :: items, Closed false part := by
  generalize flag : true = listed at closed
  have grows {front rest : List Char} (first : Closed false front)
      (others : ∃ item items, rest = [','].intercalate (item :: items) ∧ ∀ part ∈ item :: items, Closed false part) :
      ∃ item items, front ++ rest = [','].intercalate (item :: items) ∧ ∀ part ∈ item :: items, Closed false part := by
    obtain ⟨item, items, rfl, each⟩ := others
    obtain ⟨here, later⟩ := List.forall_mem_cons.mp each
    refine ⟨front ++ item, items, ?_, List.forall_mem_cons.mpr ⟨first.append here, later⟩⟩
    cases items <;> simp [List.intercalate_cons_cons]
  induction closed with
  | nil => exact ⟨[], [], rfl, by simpa using Closed.nil⟩
  | @plain _ c cs plain _ _ ih =>
    by_cases comma : c = ','
    · obtain ⟨item, items, rfl, each⟩ := ih flag
      exact ⟨[], item :: items, by rw [comma]; rfl, List.forall_mem_cons.mpr ⟨.nil, each⟩⟩
    · exact grows (.plain plain (fun equal => absurd equal comma) .nil) (ih flag)
  | literal opens raw _ ih => simpa using grows (.literal opens raw .nil) (ih flag)
  | group opens closes inner _ _ ih => simpa using grows (.group opens closes inner .nil) (ih flag)

/-! ## Groups -/

/-- What a scan from an opening bracket passes is a closed text between the bracket and the last character. -/
theorem exists_inner_of_scanGroup? {text : List Char} {start : Nat} {opening : Char} {stop : Int}
    (here : text[start]? = some opening) (opens : isOpening opening = true)
    (scanned : scanGroup? text start = some (.ok stop)) :
    ∃ inner, Closed true inner ∧ inner = (text.take (stop - 1).toNat).drop (start + 1) := by
  obtain ⟨inside, rfl⟩ := List.getElem?_eq_some_iff.mp here
  have met : scanAt? text start = some (text[start] :: text.drop (start + 1)) := by
    simp [scanAt?, tailAt]
  rw [scanGroup?, met, Option.map_some, Option.some.injEq] at scanned
  split at scanned
  · rename_i after passes
    rw [skipGroupFrom_opening opens] at passes
    obtain ⟨inner, closing, _, closed, closes, split, rfl⟩ := exists_closed_of_skipGroupFrom passes (Int.le_refl 1)
    have reached : stop = start + inner.length + 2 := by
      rw [← Except.ok.inj scanned, scanEnd, split]
      simp only [List.length_cons, List.length_append]
      omega
    refine ⟨inner, closed, ?_⟩
    rw [List.drop_take, split, show (stop - 1).toNat - (start + 1) = inner.length by omega, List.take_left]
  · cases scanned
  · cases scanned

/-- Cutting agrees with the scan of brackets. In the text inside a bracket group, cutting stands at a depth of at
least zero all the way and at depth zero outside literals in the end, and it gives the trimmed items between the commas
outside all groups and literals, or nothing if the text is blank. Trimmed texts without such commas, in which brackets and
quotes are closed, are given back from the text in which commas join them. -/
theorem cutting_agrees_with_brackets :
    (∀ (text : List Char) (start : Nat) (opening : Char) (stop : Int), text[start]? = some opening →
      isOpening opening = true → scanGroup? text start = some (.ok stop) →
      ∃ inner segments, inner = (text.take (stop - 1).toNat).drop (start + 1) ∧
        (∀ front rest, inner = front ++ rest → 0 ≤ (Cut.start.after front).depth ∧
          ((Cut.start.after front).hidden = false → ∃ done part, segmentsFrom "," 0 none [] inner =
            done ++ segmentsFrom "," (Cut.start.after front).depth (Cut.start.after front).quote part rest)) ∧
        Cut.start.after inner = ⟨0, none, false⟩ ∧
        inner = [','].intercalate segments ∧ (∀ segment ∈ segments, Closed false segment) ∧
        splitTopLevel inner = if Margin inner then [] else segments.map trim) ∧
    ∀ items : List (List Char), items ≠ [] → items ≠ [[]] → (∀ item ∈ items, trim item = item ∧ Closed false item) →
      splitTopLevel ([','].intercalate items) = items := by
  constructor
  · intro text start opening stop here opens scanned
    obtain ⟨inner, closed, slice⟩ := exists_inner_of_scanGroup? here opens scanned
    obtain ⟨item, items, whole, each⟩ := closed.exists_items
    obtain ⟨ends, above⟩ := closed.cut 0
    refine ⟨inner, item :: items, slice, ?_, ends, whole, each, ?_⟩
    · rintro front rest rfl
      exact ⟨above front (List.prefix_append ..), fun apart => segmentsFrom_after apart [] rest⟩
    · split
      · exact splitTopLevel_margin ‹_›
      · rename_i filled
        rw [whole, splitTopLevel_intercalate each]
        -- a single blank item would be a blank text
        intro blank
        obtain ⟨nothing, rfl⟩ : trim item = [] ∧ items = [] := by simpa using blank
        rw [whole, List.intercalate_singleton] at filled
        exact filled (margin_of_trim_eq_nil nothing)
  · intro items some_left present each
    have trimmed : items.map trim = items :=
      (List.map_congr_left fun item member => (each item member).1).trans (List.map_id _)
    obtain ⟨item, items, rfl⟩ := List.exists_cons_of_ne_nil some_left
    rw [splitTopLevel_intercalate (fun item member => (each item member).2) (by rwa [trimmed]), trimmed]

/-- The arguments of a call, one of them with a comma in a literal in a list. -/
theorem cutting_agrees_with_brackets_of_call :
    let text := "f(a, [b,'),'])".toList
    let items := [['a'], ['[', 'b', ',', '\'', ')', ',', '\'', ']']]
    (text[1]? = some '(' ∧ scanGroup? text 1 = some (.ok 14)) ∧
    (∃ inner segments, inner = (text.take 13).drop 2 ∧ inner = [','].intercalate segments ∧
      (∀ segment ∈ segments, Closed false segment) ∧
      splitTopLevel inner = if Margin inner then [] else segments.map trim) ∧
    (∀ item ∈ items, trim item = item ∧ Closed false item) ∧ splitTopLevel ([','].intercalate items) = items := by
  intro text items
  have scanned : text[1]? = some '(' ∧ scanGroup? text 1 = some (.ok 14) := by decide +kernel
  have literal : Closed true ['\'', ')', ',', '\''] := @Closed.literal _ '\'' [')', ','] [] rfl
    (.plain (by decide) (by decide) (.plain (by decide) (by decide) .nil)) .nil
  have group : Closed false ['[', 'b', ',', '\'', ')', ',', '\'', ']'] :=
    @Closed.group _ '[' ']' ['b', ',', '\'', ')', ',', '\''] [] rfl rfl
      (.plain rfl (fun _ => rfl) (.plain rfl (fun _ => rfl) literal)) .nil
  have each : ∀ item ∈ items, trim item = item ∧ Closed false item := by
    simp only [items, List.forall_mem_cons, List.not_mem_nil, false_implies, implies_true, and_true]
    exact ⟨⟨by decide +kernel, .plain rfl (by decide) .nil⟩, by decide +kernel, group⟩
  obtain ⟨inner, segments, slice, -, -, whole, closed, parts⟩ :=
    cutting_agrees_with_brackets.1 text 1 '(' 14 scanned.1 rfl scanned.2
  exact ⟨scanned, ⟨inner, segments, slice, whole, closed, parts⟩, each,
    cutting_agrees_with_brackets.2 items (by decide) (by decide) each⟩

end LineScript.Source
