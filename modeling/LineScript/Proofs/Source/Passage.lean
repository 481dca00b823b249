import LineScript.Proofs.Source.Enclosure

/-!
# What a scanner has passed

A scanner that succeeds says something about the text it was given. After `skipText` a whole literal lies
behind (`exists_raw_of_skipText`), and after `skipGroup` a closed text with a closing bracket, of
whichever kind (`exists_group_of_skipGroup`). Cutting at commas loses nothing: the segments with commas
between them are the text again (`intercalate_segmentsFrom`), and trimming takes white space off and
nothing else (`exists_margins`).
-/

set_option autoImplicit false

namespace LineScript.Source

open LineScript.Text

/-- A text is what is left of it after trimming, with white space around it. -/
theorem exists_margins (cs : List Char) :
    ∃ before after, Margin before ∧ Margin after ∧ cs = before ++ trim cs ++ after := by
  refine ⟨cs.takeWhile isBlank, ((trimStart cs).reverse.takeWhile isBlank).reverse, ?_, ?_, ?_⟩
  · intro c member
    exact List.mem_takeWhile_imp member
  · intro c member
    exact List.mem_takeWhile_imp (List.mem_reverse.mp member)
  · rw [trim, trimEnd, List.append_assoc, ← List.reverse_append, List.takeWhile_append_dropWhile,
      List.reverse_reverse, trimStart, List.takeWhile_append_dropWhile]

theorem trim_subset (cs : List Char) : trim cs ⊆ cs := by
  obtain ⟨before, after, _, _, split⟩ := exists_margins cs
  intro c member
  rw [split]
  exact List.mem_append_left _ (List.mem_append_right _ member)

/-- Behind the scanner of literals lies the body of a literal with its closing quote. -/
theorem exists_raw_of_skipText {quote : Char} {cs after : List Char}
    (passes : skipText quote cs = some after) : ∃ body, Raw quote body ∧ cs = body ++ quote :: after := by
  fun_induction skipText quote cs with
  | case1 => cases passes
  | case2 => cases passes
  | case3 c rest ih =>
    obtain ⟨body, raw, rfl⟩ := ih passes
    exact ⟨'\\' :: c :: body, .hidden c raw, rfl⟩
  | case4 rest =>
    cases passes
    exact ⟨[], .nil, rfl⟩
  | case5 c rest single hidden other ih =>
    obtain ⟨body, raw, rfl⟩ := ih passes
    have noEscape : c ≠ '\\' := by
      rintro rfl
      rcases more : body ++ quote :: after with _ | ⟨d, tail⟩
      · exact single rfl more
      · exact hidden d tail rfl more
    exact ⟨c :: body, .plain noEscape other raw, rfl⟩

/-- Inside a group, the scanner passes a closed text up to a closing bracket, and goes on behind it unless it was the
last one. -/
theorem exists_closed_of_skipGroupFrom {depth : Int} {cs after : List Char}
    (passes : skipGroupFrom depth none cs = .ok after) (inside : 1 ≤ depth) :
    ∃ inner closing rest, Closed true inner ∧ isClosing closing = true ∧ cs = inner ++ closing :: rest ∧
      if depth = 1 then rest = after else skipGroupFrom (depth - 1) none rest = .ok after := by
  induction size : cs.length using Nat.strong_induction_on generalizing depth cs with
  | _ length ih =>
    rcases cs with _ | ⟨c, tail⟩
    · cases passes
    · rw [List.length_cons] at size
      by_cases quotes : isQuote c = true
      · rw [skipGroupFrom_quote quotes, skipGroupFrom_literal] at passes
        cases skipped : skipText c tail with
        | none =>
          rw [skipped] at passes
          cases passes
        | some more =>
          rw [skipped] at passes
          obtain ⟨body, raw, rfl⟩ := exists_raw_of_skipText skipped
          obtain ⟨inner, closing, rest, closed, closes, rfl, goes⟩ := ih _ (by simp at size; omega) passes inside rfl
          exact ⟨_, closing, rest, .literal quotes raw closed, closes, by simp, goes⟩
      · by_cases opens : isOpening c = true
        · -- the inner group comes first, and what follows it at the depth of this one
          rw [skipGroupFrom_opening opens] at passes
          obtain ⟨inner, closing, more, closed, closes, rfl, goes⟩ := ih _ (by omega) passes (by omega) rfl
          rw [if_neg (by omega), Int.add_sub_cancel] at goes
          obtain ⟨others, last, rest, closed', closes', rfl, goes'⟩ := ih _ (by simp at size; omega) goes inside rfl
          exact ⟨_, last, rest, .group opens closes closed closed', closes', by simp, goes'⟩
        · by_cases closes : isClosing c = true
          · rw [skipGroupFrom_closing closes] at passes
            refine ⟨[], c, tail, .nil, closes, rfl, ?_⟩
            split_ifs at passes ⊢
            · cases passes
              rfl
            · exact passes
          · have plain : isPlain c = true := by simp [isPlain, quotes, opens, closes]
            rw [skipGroupFrom_plain plain] at passes
            obtain ⟨inner, closing, rest, closed, closes, rfl, goes⟩ := ih _ (by omega) passes inside rfl
            exact ⟨_, closing, rest, .plain plain (fun _ => rfl) closed, closes, rfl, goes⟩

/-- A group that is skipped is a closed text between its opening bracket and a closing one. -/
theorem exists_group_of_skipGroup {c : Char} {rest after : List Char} (opens : isOpening c = true)
    (passes : skipGroup (c :: rest) = .ok after) :
    ∃ inner closing, Closed true inner ∧ isClosing closing = true ∧ rest = inner ++ closing :: after := by
  rw [skipGroup, skipGroupFrom_opening opens] at passes
  split at passes
  · cases passes
  · obtain ⟨inner, closing, _, closed, closes, rfl, rfl⟩ := exists_closed_of_skipGroupFrom passes (Int.le_refl 1)
    exact ⟨inner, closing, closed, closes, rfl⟩

/-- Cutting at commas takes the whole text into the part, or one or two characters of it, or ends the part at a
comma. -/
theorem segmentsFrom_step (depth : Int) (quote : Option Char) (part cs : List Char) :
    segmentsFrom "," depth quote part cs = [part.reverse ++ cs] ∨
      (∃ c front rest depth' quote', cs = c :: front ++ rest ∧ segmentsFrom "," depth quote part cs =
        segmentsFrom "," depth' quote' ((c :: front).reverse ++ part) rest) ∨
      ∃ rest, cs = ',' :: rest ∧
        segmentsFrom "," depth quote part cs = part.reverse :: segmentsFrom "," depth none [] rest := by
  rcases cs with _ | ⟨c, rest⟩
  · rw [segmentsFrom, List.append_nil]
    exact .inl rfl
  · rw [segmentsFrom.eq_def]
    cases quote with
    | some quote =>
      dsimp only
      split
      · rcases rest with _ | ⟨d, rest⟩
        · exact .inl (by rw [List.reverse_cons])
        · exact .inr (.inl ⟨c, [d], rest, depth, some quote, rfl, rfl⟩)
      · split <;> exact .inr (.inl ⟨c, [], rest, _, _, rfl, rfl⟩)
    | none =>
      by_cases separator : String.singleton c = "," ∧ depth = 0
      · have comma : c = ',' := by
          have chars := congrArg String.toList separator.1
          simpa using chars
        subst comma
        exact .inr (.inr ⟨rest, rfl, by simp [isQuote, isOpening, isClosing, separator.2]⟩)
      · simp only [if_neg separator]
        refine .inr (.inl ⟨c, [], rest, ?_⟩)
        repeat' split
        all_goals exact ⟨_, _, rfl, rfl⟩

/-- There is a segment, and the segments with commas between them are the text. -/
theorem intercalate_segmentsFrom (depth : Int) (quote : Option Char) (part cs : List Char) :
    segmentsFrom "," depth quote part cs ≠ [] ∧
      List.intercalate [','] (segmentsFrom "," depth quote part cs) = part.reverse ++ cs := by
  induction size : cs.length using Nat.strong_induction_on generalizing depth quote part cs with
  | _ length ih =>
    rcases segmentsFrom_step depth quote part cs with
      all | ⟨c, front, rest, depth', quote', rfl, goes⟩ | ⟨rest, rfl, cut⟩
    · rw [all]
      exact ⟨List.cons_ne_nil _ _, List.intercalate_singleton⟩
    · have shorter : rest.length < length := by
        rw [← size, List.length_append, List.length_cons]
        omega
      obtain ⟨some_left, whole⟩ := ih _ shorter depth' quote' ((c :: front).reverse ++ part) rest rfl
      rw [goes, whole]
      exact ⟨some_left, by simp⟩
    · have shorter : rest.length < length := by
        rw [← size, List.length_cons]
        omega
      obtain ⟨some_left, whole⟩ := ih _ shorter depth none [] rest rfl
      obtain ⟨first, others, more⟩ := List.exists_cons_of_ne_nil some_left
      rw [more] at whole
      rw [cut, more, List.intercalate_cons_cons, whole]
      exact ⟨List.cons_ne_nil _ _, by simp⟩

theorem mem_intercalate_of_mem {c : Char} {item : List Char} {items : List (List Char)} (inItem : c ∈ item)
    (member : item ∈ items) : c ∈ List.intercalate [','] items := by
  induction items with
  | nil => cases member
  | cons first items ih =>
    rcases items with _ | ⟨next, items⟩
    · rw [List.mem_singleton.mp member] at inItem
      rwa [List.intercalate_singleton]
    · rw [List.intercalate_cons_cons]
      rcases List.mem_cons.mp member with rfl | later
      · exact List.mem_append_left _ (List.mem_append_left _ inItem)
      · exact List.mem_append_right _ (ih later)

/-- The segments of a text hold no characters but those of the text. -/
theorem subset_of_mem_splitTopLevel {cs item : List Char} (member : item ∈ splitTopLevel cs) : item ⊆ cs := by
  have among : item ∈ (segmentsFrom "," 0 none [] cs).map trim := by
    rw [splitTopLevel, splitTopLevelAt] at member
    split at member
    · cases member
    · exact member
  obtain ⟨segment, here, rfl⟩ := List.mem_map.mp among
  have whole := (intercalate_segmentsFrom 0 none [] cs).2
  rw [List.reverse_nil, List.nil_append] at whole
  intro c inItem
  rw [← whole]
  exact mem_intercalate_of_mem (trim_subset segment inItem) here

end LineScript.Source
