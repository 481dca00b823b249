import LineScript.Proofs.Text.CharacterClass
import Mathlib.Data.List.TakeWhile

/-!
# Enclosed text

Three scanners pass over raw characters: `skipText` over a literal, `skipGroup` over a bracket group, and
`splitTopLevel` over a list of items. Each has its own loop, and reading relies on their agreement: what
one of them takes for a whole, another must not cut. The common ground is `Closed`, the texts whose
literals end and whose brackets nest. All three scanners pass a closed text unchanged
(`skipGroupFrom_closed`, `segmentsFrom_closed`).

A group around a closed text is skipped as a whole (`skipGroup_group`), and closed items with commas
between them are cut exactly there (`splitTopLevel_intercalate`).
-/

set_option autoImplicit false

namespace LineScript.Source

open LineScript.Text

variable {cs : List Char} {c quote : Char} {depth : Int}

/-! ## Margins -/

/-- White space, perhaps none. -/
def Margin (cs : List Char) : Prop :=
  ∀ c ∈ cs, isBlank c = true

/-- White space, at least one character of it. -/
def Gap (cs : List Char) : Prop :=
  cs ≠ [] ∧ Margin cs

instance (cs : List Char) : Decidable (Margin cs) :=
  decidable_of_iff (cs.all isBlank = true) List.all_eq_true

instance (cs : List Char) : Decidable (Gap cs) :=
  inferInstanceAs (Decidable (cs ≠ [] ∧ Margin cs))

/-- The text has a first and a last character, and neither is white space. -/
def Solid (cs : List Char) : Prop :=
  (∃ c ∈ cs.head?, isBlank c = false) ∧ ∃ c ∈ cs.getLast?, isBlank c = false

instance (cs : List Char) : Decidable (Solid cs) :=
  decidable_of_iff (cs.head?.any (!isBlank ·) = true ∧ cs.getLast?.any (!isBlank ·) = true) <| by
    simp only [Solid, Option.any_eq_true, Option.mem_def, Bool.not_eq_true']

theorem Margin.nil : Margin [] := by
  intro c member
  cases member

theorem Solid.ne_nil (solid : Solid cs) : cs ≠ [] := by
  rintro rfl
  obtain ⟨⟨c, member, _⟩, _⟩ := solid
  cases member

theorem Solid.head?_append (solid : Solid cs) (rest : List Char) : (cs ++ rest).head? = cs.head? := by
  obtain ⟨c, tail, rfl⟩ := List.exists_cons_of_ne_nil solid.ne_nil
  rfl

theorem Solid.of_all (some : cs ≠ []) (solid : ∀ c ∈ cs, isBlank c = false) : Solid cs := by
  refine ⟨⟨cs.head some, List.head?_eq_some_head some, ?_⟩, ⟨cs.getLast some, ?_, ?_⟩⟩
  · exact solid _ (List.head_mem some)
  · exact List.getLast?_eq_some_getLast some
  · exact solid _ (List.getLast_mem some)

/-- A solid text in front of any text that ends solid is solid. -/
theorem Solid.append {ds : List Char} (first : Solid cs) (second : Solid ds) (middle : List Char) :
    Solid (cs ++ middle ++ ds) := by
  obtain ⟨⟨c, start, startSolid⟩, _⟩ := first
  obtain ⟨_, ⟨d, stop, stopSolid⟩⟩ := second
  refine ⟨⟨c, ?_, startSolid⟩, ⟨d, ?_, stopSolid⟩⟩
  · rw [List.append_assoc, List.head?_append, Option.mem_def.mp start]
    exact Option.mem_some_self c
  · rw [List.getLast?_append, Option.mem_def.mp stop]
    exact Option.mem_some_self d

theorem trimStart_margin {before : List Char} (blank : Margin before) : trimStart (before ++ cs) = trimStart cs :=
  List.dropWhile_append_of_pos blank

theorem trimEnd_margin {after : List Char} (blank : Margin after) : trimEnd (cs ++ after) = trimEnd cs := by
  rw [trimEnd, trimEnd, List.reverse_append, List.dropWhile_append_of_pos]
  intro c member
  exact blank c (List.mem_reverse.mp member)

theorem trimStart_of_head (solid : isBlank c = false) : trimStart (c :: cs) = c :: cs := by
  rw [trimStart, List.dropWhile_cons_of_neg]
  rw [solid]
  exact Bool.false_ne_true

theorem Solid.trimStart_append (solid : Solid cs) (rest : List Char) : trimStart (cs ++ rest) = cs ++ rest := by
  obtain ⟨⟨c, start, startSolid⟩, _⟩ := solid
  obtain ⟨tail, rfl⟩ := List.head?_eq_some_iff.mp start
  exact trimStart_of_head startSolid

theorem Solid.trimEnd_eq (solid : Solid cs) : trimEnd cs = cs := by
  obtain ⟨_, ⟨c, stop, stopSolid⟩⟩ := solid
  obtain ⟨front, rfl⟩ := List.getLast?_eq_some_iff.mp stop
  rw [trimEnd, List.reverse_append, List.reverse_singleton, List.singleton_append,
    List.dropWhile_cons_of_neg (by rw [stopSolid]; exact Bool.false_ne_true), List.reverse_cons,
    List.reverse_reverse]

/-- Trimming takes the margins off a solid text and no more. -/
theorem trim_margins {before core after : List Char} (blankBefore : Margin before) (solid : Solid core)
    (blankAfter : Margin after) : trim (before ++ core ++ after) = core := by
  rw [trim, List.append_assoc, trimStart_margin blankBefore, solid.trimStart_append,
    trimEnd_margin blankAfter, solid.trimEnd_eq]

theorem trimEnd_append {front cs : List Char} (some : trimEnd cs ≠ []) :
    trimEnd (front ++ cs) = front ++ trimEnd cs := by
  have kept : (cs.reverse.dropWhile isBlank).isEmpty = false := by
    rw [List.isEmpty_eq_false_iff]
    exact fun nothing => some (by rw [trimEnd, nothing]; rfl)
  rw [trimEnd, List.reverse_append, List.dropWhile_append, kept]
  simp only [Bool.false_eq_true, if_false, List.reverse_append, List.reverse_reverse, trimEnd]

theorem trimEnd_prefix (cs : List Char) : trimEnd cs <+: cs := by
  refine ⟨(cs.reverse.takeWhile isBlank).reverse, ?_⟩
  rw [trimEnd, ← List.reverse_append, List.takeWhile_append_dropWhile, List.reverse_reverse]

theorem Solid.trim_append {text : List Char} (solid : Solid text) (tail : List Char) :
    trim (text ++ tail) = text ++ trimEnd tail := by
  rw [trim, solid.trimStart_append]
  by_cases none : trimEnd tail = []
  · have blank : Margin tail := by
      intro c member
      exact List.dropWhile_eq_nil_iff.mp (List.reverse_eq_nil_iff.mp none) c (List.mem_reverse.mpr member)
    rw [trimEnd_margin blank, solid.trimEnd_eq, none, List.append_nil]
  · exact trimEnd_append none

theorem trim_margin {blank : List Char} (margin : Margin blank) : trim blank = [] := by
  have none_left : trimStart blank = [] := List.dropWhile_eq_nil_iff.mpr margin
  rw [trim, none_left]
  rfl

theorem margin_of_trim_eq_nil (nothing : trim cs = []) : Margin cs := by
  have blank : ∀ c ∈ (trimStart cs).reverse, isBlank c = true :=
    List.dropWhile_eq_nil_iff.mp (List.reverse_eq_nil_iff.mp nothing)
  intro c member
  rw [← List.takeWhile_append_dropWhile (p := isBlank) (l := cs)] at member
  rcases List.mem_append.mp member with member | member
  · exact List.mem_takeWhile_imp member
  · exact blank c (List.mem_reverse.mpr member)

theorem takeWhile_append_of_head {kind : Char → Bool} {rest : List Char} (all : ∀ c ∈ cs, kind c = true)
    (ends : ∀ c ∈ rest.head?, kind c = false) :
    (cs ++ rest).takeWhile kind = cs ∧ (cs ++ rest).dropWhile kind = rest := by
  rw [List.takeWhile_append_of_pos all, List.dropWhile_append_of_pos all]
  cases rest with
  | nil => exact ⟨List.append_nil cs, rfl⟩
  | cons c rest =>
    have stops : ¬kind c = true := by
      rw [ends c rfl]
      exact Bool.false_ne_true
    rw [List.takeWhile_cons_of_neg stops, List.dropWhile_cons_of_neg stops, List.append_nil]
    exact ⟨rfl, rfl⟩

theorem head_dropWhile {kind : Char → Bool} {c : Char} (head : c ∈ (cs.dropWhile kind).head?) : kind c = false := by
  have stops := List.head?_dropWhile_not kind cs
  rw [Option.mem_def.mp head] at stops
  simpa using stops

theorem solid_trim (cs : List Char) : trim cs = [] ∨ Solid (trim cs) := by
  by_cases none : trim cs = []
  · exact .inl none
  · obtain ⟨c, tail, starts⟩ := List.exists_cons_of_ne_nil none
    obtain ⟨last, ends⟩ : ∃ last, (trim cs).getLast? = some last := ⟨_, List.getLast?_eq_some_getLast none⟩
    refine .inr ⟨⟨c, by rw [starts]; rfl, head_dropWhile (?_ : c ∈ (trimStart cs).head?)⟩, last, ends, ?_⟩
    · obtain ⟨more, split⟩ := trimEnd_prefix (trimStart cs)
      rw [← split, show trimEnd (trimStart cs) = c :: tail from starts]
      rfl
    · rw [trim, trimEnd, List.getLast?_reverse] at ends
      exact head_dropWhile ends

/-- What was consumed before a rest is the text in front of it. -/
theorem consumed_append (cs rest : List Char) : consumed (cs ++ rest) rest = cs := by
  rw [consumed, List.length_append, Nat.add_sub_cancel, List.take_left]

/-! ## Literals -/

/-- The body of a literal: a backslash hides the character after it, and no other quote of the kind that
opened the literal stands in it. -/
inductive Raw (quote : Char) : List Char → Prop where
  | nil : Raw quote []
  | plain {c : Char} {body : List Char} (noEscape : c ≠ '\\') (noQuote : c ≠ quote) :
      Raw quote body → Raw quote (c :: body)
  | hidden (c : Char) {body : List Char} : Raw quote body → Raw quote ('\\' :: c :: body)

/-- The quotes of literals are no backslash. -/
theorem ne_backslash_of_isQuote (opens : isQuote quote = true) : quote ≠ '\\' :=
  ne_of_class opens (by decide)

theorem skipText_raw {body : List Char} (opens : isQuote quote = true) (raw : Raw quote body)
    (rest : List Char) : skipText quote (body ++ quote :: rest) = some rest := by
  have noEscape := ne_backslash_of_isQuote opens
  induction raw with
  | nil => rw [List.nil_append, skipText.eq_4 _ _ _ (by simp [noEscape]) (by simp [noEscape]), if_pos rfl]
  | plain noEscape' noQuote _ ih =>
    rw [List.cons_append, skipText.eq_4 _ _ _ (by simp [noEscape']) (by simp [noEscape']), if_neg noQuote]
    exact ih
  | hidden c _ ih => exact ih

theorem skipGroupFrom_text {rest : List Char} (noEscape : c ≠ '\\') :
    skipGroupFrom depth (some quote) (c :: rest) =
      if c = quote then skipGroupFrom depth none rest else skipGroupFrom depth (some quote) rest := by
  rw [skipGroupFrom.eq_def]
  exact if_neg noEscape

/-- Inside a literal, the scanner of groups does what the scanner of literals does. -/
theorem skipGroupFrom_literal (depth : Int) (quote : Char) (cs : List Char) :
    skipGroupFrom depth (some quote) cs =
      (skipText quote cs).elim (.error .unterminatedText) (skipGroupFrom depth none) := by
  have noEscape {c : Char} {rest : List Char} (single : c = '\\' → rest = [] → False)
      (hidden : ∀ d tail, c = '\\' → rest = d :: tail → False) : c ≠ '\\' := by
    rintro rfl
    rcases rest with _ | ⟨d, tail⟩
    · exact single rfl rfl
    · exact hidden d tail rfl rfl
  fun_induction skipText quote cs with
  | case1 | case2 => rfl
  | case3 c rest ih => exact ih
  | case4 rest single hidden =>
    rw [skipGroupFrom_text (noEscape single hidden), if_pos rfl]
    rfl
  | case5 c rest single hidden other ih => rw [skipGroupFrom_text (noEscape single hidden), if_neg other, ih]

theorem segmentsFrom_text {part rest : List Char} (noEscape : c ≠ '\\') :
    segmentsFrom "," depth (some quote) part (c :: rest) =
      if c = quote then segmentsFrom "," depth none (c :: part) rest
      else segmentsFrom "," depth (some quote) (c :: part) rest := by
  rw [segmentsFrom.eq_def]
  exact if_neg noEscape

theorem segmentsFrom_raw {body : List Char} (opens : isQuote quote = true) (raw : Raw quote body) (depth : Int)
    (part rest : List Char) :
    segmentsFrom "," depth (some quote) part (body ++ quote :: rest) =
      segmentsFrom "," depth none (quote :: (body.reverse ++ part)) rest := by
  have noEscape := ne_backslash_of_isQuote opens
  induction raw generalizing part with
  | nil => rw [List.nil_append, segmentsFrom_text noEscape, if_pos rfl, List.reverse_nil, List.nil_append]
  | plain noEscape' noQuote _ ih =>
    rw [List.cons_append, segmentsFrom_text noEscape', if_neg noQuote, ih, List.reverse_cons,
      List.append_assoc, List.singleton_append]
  | hidden c _ ih =>
    simp only [List.reverse_cons, List.append_assoc, List.singleton_append]
    exact ih _

/-! ## Closed texts -/

/-- The character is no quote and no bracket. -/
def isPlain (c : Char) : Bool :=
  !isQuote c && !isOpening c && !isClosing c

/-- A text whose literals end and whose brackets nest. The flag allows separators outside all brackets and
literals; inside a bracket group they are always allowed. -/
inductive Closed : Bool → List Char → Prop where
  | nil {listed : Bool} : Closed listed []
  | plain {listed : Bool} {c : Char} {cs : List Char} (plain : isPlain c = true)
      (separates : c = ',' → listed = true) : Closed listed cs → Closed listed (c :: cs)
  | literal {listed : Bool} {quote : Char} {body cs : List Char} (opens : isQuote quote = true)
      (raw : Raw quote body) : Closed listed cs → Closed listed (quote :: (body ++ quote :: cs))
  | group {listed : Bool} {opening closing : Char} {inner cs : List Char} (opens : isOpening opening = true)
      (closes : isClosing closing = true) : Closed true inner → Closed listed cs →
      Closed listed (opening :: (inner ++ closing :: cs))

theorem Closed.append {listed : Bool} {ds : List Char} (first : Closed listed cs)
    (second : Closed listed ds) : Closed listed (cs ++ ds) := by
  induction first with
  | nil => exact second
  | plain plain separates _ ih => exact .plain plain separates (ih second)
  | literal opens raw _ ih =>
    rw [List.cons_append, List.append_assoc, List.cons_append]
    exact .literal opens raw (ih second)
  | group opens closes inner _ _ ih =>
    rw [List.cons_append, List.append_assoc, List.cons_append]
    exact .group opens closes inner (ih second)

/-- A text that is closed without separators is closed with them. -/
theorem Closed.listed {listed : Bool} (closed : Closed listed cs) : Closed true cs := by
  induction closed with
  | nil => exact .nil
  | plain plain _ _ ih => exact .plain plain (fun _ => rfl) ih
  | literal opens raw _ ih => exact .literal opens raw ih
  | group opens closes inner _ _ ih => exact .group opens closes inner ih

/-- Plain characters other than the separator make a closed text. -/
theorem Closed.of_plain {listed : Bool} (plain : ∀ c ∈ cs, isPlain c = true ∧ c ≠ ',') : Closed listed cs := by
  induction cs with
  | nil => exact .nil
  | cons c cs ih =>
    have here := plain c (.head _)
    refine .plain here.1 (fun equal => absurd equal here.2) (ih fun d member => ?_)
    exact plain d (List.mem_cons_of_mem c member)

/-- A class that holds none of the quotes, brackets and separators has plain characters only. -/
theorem plain_of_class {kind : Char → Bool} (inside : kind c = true)
    (outside : ['\x27', '\x22', '(', ')', '[', ']', ','].all (fun d => !kind d) = true) :
    isPlain c = true ∧ c ≠ ',' := by
  have differs := not_mem_of_class inside outside
  simp only [List.mem_cons, List.not_mem_nil, or_false, not_or] at differs
  simp only [isPlain, isQuote, isOpening, isClosing, Bool.and_eq_true, Bool.not_eq_true',
    Bool.or_eq_false_iff, beq_eq_false_iff_ne]
  tauto

theorem plain_of_blank (blank : isBlank c = true) : isPlain c = true ∧ c ≠ ',' :=
  plain_of_class blank (by decide)

theorem plain_of_word (word : isWord c = true) : isPlain c = true ∧ c ≠ ',' :=
  plain_of_class word (by decide)

theorem isOpening_not_isQuote (opens : isOpening c = true) : isQuote c = false := by
  simp only [isOpening, Bool.or_eq_true, beq_iff_eq] at opens
  rcases opens with rfl | rfl <;> decide

theorem isClosing_not_isQuote (closes : isClosing c = true) : isQuote c = false := by
  simp only [isClosing, Bool.or_eq_true, beq_iff_eq] at closes
  rcases closes with rfl | rfl <;> decide

theorem isClosing_not_isOpening (closes : isClosing c = true) : isOpening c = false := by
  simp only [isClosing, Bool.or_eq_true, beq_iff_eq] at closes
  rcases closes with rfl | rfl <;> decide

section Scans

variable {depth : Int} {c : Char} {part rest : List Char}

theorem isPlain_iff : isPlain c = true ↔ isQuote c = false ∧ isOpening c = false ∧ isClosing c = false := by
  simp only [isPlain, Bool.and_eq_true, Bool.not_eq_true', and_assoc]

theorem skipGroupFrom_plain (plain : isPlain c = true) :
    skipGroupFrom depth none (c :: rest) = skipGroupFrom depth none rest := by
  obtain ⟨noQuote, noOpening, noClosing⟩ := isPlain_iff.mp plain
  rw [skipGroupFrom.eq_def]
  simp only [noQuote, noOpening, noClosing, Bool.false_eq_true, if_false]

theorem skipGroupFrom_quote (opens : isQuote c = true) :
    skipGroupFrom depth none (c :: rest) = skipGroupFrom depth (some c) rest := by
  rw [skipGroupFrom.eq_def]
  exact if_pos opens

theorem skipGroupFrom_opening (opens : isOpening c = true) :
    skipGroupFrom depth none (c :: rest) = skipGroupFrom (depth + 1) none rest := by
  rw [skipGroupFrom.eq_def]
  simp only [isOpening_not_isQuote opens, opens, Bool.false_eq_true, if_false, if_true]

theorem skipGroupFrom_closing (closes : isClosing c = true) :
    skipGroupFrom depth none (c :: rest) = if depth = 1 then .ok rest else skipGroupFrom (depth - 1) none rest := by
  rw [skipGroupFrom.eq_def]
  simp only [isClosing_not_isQuote closes, isClosing_not_isOpening closes, closes, Bool.false_eq_true,
    if_false, if_true]

theorem segmentsFrom_plain (plain : isPlain c = true) (separates : c = ',' → depth ≠ 0) :
    segmentsFrom "," depth none part (c :: rest) = segmentsFrom "," depth none (c :: part) rest := by
  obtain ⟨noQuote, noOpening, noClosing⟩ := isPlain_iff.mp plain
  have kept : ¬(String.singleton c = "," ∧ depth = 0) := by
    rintro ⟨equal, zero⟩
    refine separates ?_ zero
    have chars := congrArg String.toList equal
    simpa using chars
  rw [segmentsFrom.eq_def]
  simp only [noQuote, noOpening, noClosing, Bool.false_eq_true, if_false, if_neg kept]

theorem segmentsFrom_separator :
    segmentsFrom "," 0 none part (',' :: rest) = part.reverse :: segmentsFrom "," 0 none [] rest := by
  rw [segmentsFrom.eq_def]
  rfl

theorem segmentsFrom_quote (opens : isQuote c = true) :
    segmentsFrom "," depth none part (c :: rest) = segmentsFrom "," depth (some c) (c :: part) rest := by
  rw [segmentsFrom.eq_def]
  exact if_pos opens

theorem segmentsFrom_opening (opens : isOpening c = true) :
    segmentsFrom "," depth none part (c :: rest) = segmentsFrom "," (depth + 1) none (c :: part) rest := by
  rw [segmentsFrom.eq_def]
  simp only [isOpening_not_isQuote opens, opens, Bool.false_eq_true, if_false, if_true]

theorem segmentsFrom_closing (closes : isClosing c = true) :
    segmentsFrom "," depth none part (c :: rest) = segmentsFrom "," (depth - 1) none (c :: part) rest := by
  rw [segmentsFrom.eq_def]
  simp only [isClosing_not_isQuote closes, isClosing_not_isOpening closes, closes, Bool.false_eq_true,
    if_false, if_true]

end Scans

/-- Inside a group, the search for its end passes a closed text at the same depth. -/
theorem skipGroupFrom_closed {listed : Bool} (closed : Closed listed cs) (inside : 1 ≤ depth) (rest : List Char) :
    skipGroupFrom depth none (cs ++ rest) = skipGroupFrom depth none rest := by
  induction closed generalizing depth rest with
  | nil => rfl
  | plain plain _ _ ih => rw [List.cons_append, skipGroupFrom_plain plain, ih inside]
  | literal opens raw _ ih =>
    rw [List.cons_append, List.append_assoc, List.cons_append, skipGroupFrom_quote opens,
      skipGroupFrom_literal, skipText_raw opens raw, Option.elim_some, ih inside]
  | group opens closes _ _ ihInner ih =>
    rw [List.cons_append, List.append_assoc, List.cons_append, skipGroupFrom_opening opens,
      ihInner (by omega), skipGroupFrom_closing closes, if_neg (by omega), Int.add_sub_cancel, ih inside]

/-- A bracket group around a closed text is skipped as a whole. -/
theorem skipGroup_group {opening closing : Char} {inner : List Char} (opens : isOpening opening = true)
    (closes : isClosing closing = true) (closed : Closed true inner) (rest : List Char) :
    skipGroup (opening :: (inner ++ closing :: rest)) = .ok rest := by
  have whole : skipGroupFrom 0 none (opening :: (inner ++ closing :: rest)) = .ok rest := by
    rw [skipGroupFrom_opening opens, skipGroupFrom_closed closed (by omega), skipGroupFrom_closing closes]
    rfl
  rw [skipGroup, whole]

/-- Cutting at separators passes a closed text that has none at the depth of the cut. -/
theorem segmentsFrom_closed {listed : Bool} (closed : Closed listed cs) (inside : 0 ≤ depth)
    (deeper : listed = true → 1 ≤ depth) (part rest : List Char) :
    segmentsFrom "," depth none part (cs ++ rest) =
      segmentsFrom "," depth none (cs.reverse ++ part) rest := by
  induction closed generalizing depth part rest with
  | nil => rfl
  | plain plain separates _ ih =>
    have kept : _ = ',' → depth ≠ 0 := fun equal => by
      have := deeper (separates equal)
      omega
    rw [List.cons_append, segmentsFrom_plain plain kept, ih inside deeper, List.reverse_cons,
      List.append_assoc, List.singleton_append]
  | literal opens raw _ ih =>
    rw [List.cons_append, List.append_assoc, List.cons_append, segmentsFrom_quote opens,
      segmentsFrom_raw opens raw, ih inside deeper]
    simp only [List.reverse_cons, List.reverse_append, List.append_assoc, List.cons_append,
      List.nil_append]
  | group opens closes _ _ ihInner ih =>
    rw [List.cons_append, List.append_assoc, List.cons_append, segmentsFrom_opening opens,
      ihInner (by omega) (by omega), segmentsFrom_closing closes, Int.add_sub_cancel, ih inside deeper]
    simp only [List.reverse_cons, List.reverse_append, List.append_assoc, List.cons_append,
      List.nil_append]

/-! ## Items -/

/-- What holds of the items and of what stands between them holds of the whole, if it is kept by putting texts together. -/
theorem intercalate_of_append (holds : List Char → Prop) {separator : List Char} {items : List (List Char)}
    (nil : holds []) (append : ∀ {first second}, holds first → holds second → holds (first ++ second))
    (between : holds separator) (each : ∀ item ∈ items, holds item) : holds (separator.intercalate items) := by
  induction items with
  | nil => exact nil
  | cons item items ih =>
    obtain ⟨here, later⟩ := List.forall_mem_cons.mp each
    cases items with
    | nil => rwa [List.intercalate_singleton]
    | cons next items =>
      rw [List.intercalate_cons_cons]
      exact append (append here between) (ih later)

/-- Closed items with commas between them are cut exactly there. -/
theorem segmentsFrom_intercalate {item : List Char} {items : List (List Char)}
    (closed : ∀ cs ∈ item :: items, Closed false cs) :
    segmentsFrom "," 0 none [] (List.intercalate [','] (item :: items)) = item :: items := by
  induction items generalizing item with
  | nil =>
    have passed := segmentsFrom_closed (closed item (.head _)) (Int.le_refl 0)
      (by simp) [] []
    rw [List.append_nil, List.append_nil] at passed
    rw [List.intercalate_singleton, passed, segmentsFrom, List.reverse_reverse]
  | cons next items ih =>
    have rest := ih fun cs member => closed cs (List.mem_cons_of_mem item member)
    rw [List.intercalate_cons_cons, List.append_assoc, List.singleton_append,
      segmentsFrom_closed (closed item (.head _)) (by omega) (by simp), List.append_nil,
      segmentsFrom_separator, List.reverse_reverse, rest]

/-- The items of a list literal or an argument list, each with white space around it. -/
theorem splitTopLevel_intercalate {item : List Char} {items : List (List Char)}
    (closed : ∀ cs ∈ item :: items, Closed false cs) (present : (item :: items).map trim ≠ [[]]) :
    splitTopLevel (List.intercalate [','] (item :: items)) = (item :: items).map trim := by
  rw [splitTopLevel, splitTopLevelAt, segmentsFrom_intercalate closed]
  split
  · exact absurd ‹_› present
  · rfl

/-- White space holds no items. -/
theorem splitTopLevel_margin {blank : List Char} (margin : Margin blank) : splitTopLevel blank = [] := by
  have closed : Closed false blank := Closed.of_plain fun c member => plain_of_blank (margin c member)
  have all : ∀ cs ∈ [blank], Closed false cs := by
    intro cs member
    rw [List.mem_singleton.mp member]
    exact closed
  have cut := segmentsFrom_intercalate all
  rw [List.intercalate_singleton] at cut
  rw [splitTopLevel, splitTopLevelAt, cut, List.map_singleton, trim_margin margin]

end LineScript.Source
