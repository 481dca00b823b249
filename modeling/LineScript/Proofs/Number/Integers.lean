import LineScript.Proofs.Source.Passage
import LineScript.Number.Reading
import Mathlib.Data.List.Basic
import Mathlib.Data.Nat.Digits.Defs

/-!
# Integers at the start of a text

The integer at the start of a text is that of the longest run of digits there, after white space, a sign and the mark
of hexadecimal numbers are removed (`Remains`). The digits of a radix up to 36 are the first of `digitSymbols`, in
either letter case, and the value of a run is that of `Nat.ofDigits`. So an integer that is rendered in a radix is read
again, whatever follows it that is no digit.
-/

set_option autoImplicit false

namespace LineScript.Number

open LineScript.Text LineScript.Source

variable {cs : List Char} {radix : Nat} {c : Char}

/-! ## What remains of a text -/

/-- A text is a sign and a body, or it is a body that starts with no sign. -/
inductive Signed : (negative : Bool) → (body text : List Char) → Prop where
  | plus (body : List Char) : Signed false body ('+' :: body)
  | minus (body : List Char) : Signed true body ('-' :: body)
  | bare {body : List Char} (free : ∀ c ∈ body.head?, c ≠ '+' ∧ c ≠ '-') : Signed false body body

/-- A text is the mark of hexadecimal numbers and a body, or it is a body that starts with no mark of the radix. -/
inductive Marked (radix : Nat) : (body text : List Char) → Prop where
  | hexadecimal (sixteen : radix = 16) {mark : Char} (named : mark = 'x' ∨ mark = 'X') (body : List Char) :
      Marked radix body ('0' :: mark :: body)
  | bare {body : List Char}
      (free : radix = 16 → ∀ mark tail, body = '0' :: mark :: tail → mark ≠ 'x' ∧ mark ≠ 'X') : Marked radix body body

/-- What remains of a text without white space around it, a sign and the mark of the radix. -/
def Remains (radix : Nat) (cs : List Char) (negative : Bool) (body : List Char) : Prop :=
  ∃ before core after unsigned, cs = before ++ core ++ after ∧ Margin before ∧ Margin after ∧ (core = [] ∨ Solid core) ∧
    Signed negative unsigned core ∧ Marked radix body unsigned

theorem signed_iff {negative : Bool} {body : List Char} :
    Signed negative body cs ↔ splitSign cs = (negative, body) := by
  unfold splitSign
  constructor
  · rintro (_ | _ | free)
    · rfl
    · rfl
    · split
      · exact absurd rfl (free _ rfl).1
      · exact absurd rfl (free _ rfl).2
      · rfl
  · split <;> rintro ⟨⟩
    · exact .plus _
    · exact .minus _
    · rename_i noPlus noMinus
      refine .bare fun c head => ?_
      obtain ⟨tail, rfl⟩ := List.head?_eq_some_iff.mp head
      exact ⟨fun plus => noPlus tail (by rw [plus]), fun minus => noMinus tail (by rw [minus])⟩

theorem marked_iff {body : List Char} : Marked radix body cs ↔ skipRadixMark radix cs = body := by
  unfold skipRadixMark
  constructor
  · rintro (⟨sixteen, named⟩ | free)
    · simp only [if_pos (And.intro sixteen named)]
    · split
      · rw [if_neg fun both => not_or.mpr (free both.1 _ _ rfl) both.2]
      · rfl
  · split
    · split <;> rintro rfl
      · rename_i both
        exact .hexadecimal both.1 both.2 _
      · rename_i other
        refine .bare fun sixteen mark tail same => ?_
        cases same
        exact not_or.mp fun named => other ⟨sixteen, named⟩
    · rintro rfl
      rename_i other
      exact .bare fun _ mark tail same => absurd same (other mark tail)

/-! ## Digits -/

/-- The digits, the first of which is zero. -/
def digitSymbols : List Char :=
  "0123456789abcdefghijklmnopqrstuvwxyz".toList

/-- The value of a digit in either letter case; a character that is none has a value that no digit has. -/
def digitValue (c : Char) : Nat :=
  digitSymbols.idxOf c.toLower

/-- The value of a run of digits. -/
def runValue (radix : Nat) (digits : List Char) : Nat :=
  Nat.ofDigits radix (digits.map digitValue).reverse

theorem toLower_of_wide (wide : 128 ≤ c.toNat) : c.toLower = c := by
  refine dif_neg ?_
  rintro ⟨-, below⟩
  exact absurd (UInt32.le_iff_toNat_le.mp below) (Nat.not_le.mpr (Nat.lt_of_lt_of_le (by decide) wide))

theorem digitValue_of_wide (wide : 128 ≤ c.toNat) : digitValue c = 36 := by
  have narrow : (digitSymbols.all fun d => d.toNat < 128) = true := by decide
  have outside : c ∉ digitSymbols := fun member =>
    absurd (of_decide_eq_true (List.all_eq_true.mp narrow c member)) (by omega)
  rw [digitValue, toLower_of_wide wide, List.idxOf_eq_length outside]
  rfl

/-- ASCII digits are as the table of symbols says, and none of them is white space. -/
theorem ascii_digits : ∀ code < 128, let c := Char.ofNat code
    radixDigit? c = (if digitValue c < 36 then some (digitValue c) else none) ∧
      (digitValue c < 36 → isBlank c = false) := by
  decide +kernel

theorem radixDigit?_eq (c : Char) : radixDigit? c = if digitValue c < 36 then some (digitValue c) else none := by
  by_cases wide : 128 ≤ c.toNat
  · have code : c.val.toNat = c.toNat := rfl
    rw [digitValue_of_wide wide]
    unfold radixDigit? Char.isDigit Char.isLower Char.isUpper
    simp only [ge_iff_le, UInt32.le_iff_toNat_le, code]
    rw [if_neg (by simp; omega), if_neg (by simp; omega), if_neg (by simp; omega)]
    rfl
  · simpa using (ascii_digits c.toNat (by omega)).1

theorem not_blank_of_digit (digit : digitValue c < 36) : isBlank c = false := by
  by_cases wide : 128 ≤ c.toNat
  · rw [digitValue_of_wide wide] at digit
    omega
  · have blank := (ascii_digits c.toNat (by omega)).2
    rw [Char.ofNat_toNat] at blank
    exact blank digit

section

variable (bound : radix ≤ 36)

include bound

theorem isRadixDigit_iff : isRadixDigit radix c = true ↔ digitValue c < radix := by
  rw [isRadixDigit, radixDigit?_eq]
  by_cases digit : digitValue c < 36
  · simp [digit]
  · simp only [if_neg digit, Bool.false_eq_true, false_iff]
    omega

theorem not_isRadixDigit_iff : isRadixDigit radix c = false ↔ radix ≤ digitValue c := by
  rw [← Bool.not_eq_true, isRadixDigit_iff bound, Nat.not_lt]

theorem radixRun_eq {digits : List Char} (all : ∀ c ∈ digits, digitValue c < radix) :
    radixRun radix digits = runValue radix digits := by
  rw [runValue, Nat.ofDigits_eq_foldr, List.foldr_reverse, List.foldl_map, radixRun]
  refine List.foldl_ext _ _ _ fun total c inside => ?_
  have digit := all c inside
  rw [radixDigit?_eq, if_pos (by omega)]
  simp [Nat.add_comm]

/-- The digits that are read are the longest run at the start of what remains. -/
theorem exists_integerPrefix (cs : List Char) : ∃ negative digits tail, Remains radix cs negative (digits ++ tail) ∧
    (∀ c ∈ digits, digitValue c < radix) ∧ (∀ c ∈ tail.head?, radix ≤ digitValue c) ∧
    integerPrefix radix cs = (negative, digits) := by
  obtain ⟨before, after, blankBefore, blankAfter, split⟩ := exists_margins cs
  obtain ⟨negative, unsigned, sign⟩ : ∃ negative unsigned, splitSign (trim cs) = (negative, unsigned) := ⟨_, _, rfl⟩
  let body := skipRadixMark radix unsigned
  refine ⟨negative, body.takeWhile (isRadixDigit radix), body.dropWhile (isRadixDigit radix), ?_, ?_, ?_, ?_⟩
  · rw [List.takeWhile_append_dropWhile]
    exact ⟨before, trim cs, after, unsigned, split, blankBefore, blankAfter, solid_trim cs, signed_iff.mpr sign,
      marked_iff.mpr rfl⟩
  · exact fun c member => (isRadixDigit_iff bound).mp (List.mem_takeWhile_imp member)
  · exact fun c head => (not_isRadixDigit_iff bound).mp (head_dropWhile head)
  · rw [integerPrefix, sign]

end

/-! ## Rendered integers -/

/-- A text is the digits of an integer, the most significant one first and each in either letter case, after a minus
sign if the integer is negative. -/
def Renders (radix : Nat) (n : Int) (text : List Char) : Prop :=
  ∃ numeral, text = (if n < 0 then ['-'] else []) ++ numeral ∧
    numeral.map digitValue = (if n = 0 then [0] else Nat.digits radix n.natAbs).reverse

/-- What was rendered is a run of digits with the magnitude of the integer as its value. -/
theorem Renders.exists_run (least : 2 ≤ radix) {n : Int} {text : List Char} (renders : Renders radix n text) :
    ∃ numeral, text = (if n < 0 then ['-'] else []) ++ numeral ∧ numeral ≠ [] ∧ (∀ c ∈ numeral, digitValue c < radix) ∧
      runValue radix numeral = n.natAbs := by
  obtain ⟨numeral, rfl, values⟩ := renders
  refine ⟨numeral, rfl, ?_⟩
  have small (c : Char) (member : c ∈ numeral) : digitValue c ∈ if n = 0 then [0] else Nat.digits radix n.natAbs :=
    List.mem_reverse.mp (values ▸ List.mem_map_of_mem member)
  rw [Ne, ← List.map_eq_nil_iff, runValue, values, List.reverse_reverse, List.reverse_eq_nil_iff]
  split at small <;> rename_i zero
  · rw [if_pos zero, zero]
    exact ⟨by simp, fun c member => by rw [List.mem_singleton.mp (small c member)]; omega, by simp⟩
  · rw [if_neg zero]
    exact ⟨Nat.digits_ne_nil_iff_ne_zero.mpr (by omega), fun c member => Nat.digits_lt_base (by omega) (small c member),
      Nat.ofDigits_digits radix n.natAbs⟩

section

variable (greatest : radix ≤ 36) {n : Int} {numeral : List Char} (some : numeral ≠ [])
  (digits : ∀ c ∈ numeral, digitValue c < radix)

include greatest some digits

theorem solid_signed : Solid ((if n < 0 then ['-'] else []) ++ numeral) := by
  refine Solid.of_all (by simp [some]) fun c member => ?_
  rcases List.mem_append.mp member with sign | digit
  · split at sign <;> simp at sign
    rw [sign]
    decide
  · exact not_blank_of_digit (Nat.lt_of_lt_of_le (digits c digit) greatest)

theorem splitSign_signed (rest : List Char) : splitSign ((if n < 0 then ['-'] else []) ++ numeral ++ rest) =
    (decide (n < 0), numeral ++ rest) := by
  by_cases negative : n < 0
  · simp only [negative, if_true, decide_true]
    rfl
  · simp only [negative, if_false, decide_false, List.nil_append]
    refine signed_iff.mp (.bare fun c head => ?_)
    have digit : digitValue c < 36 := by
      rw [List.head?_append, List.head?_eq_some_head some] at head
      cases head
      exact Nat.lt_of_lt_of_le (digits _ (List.head_mem some)) greatest
    constructor <;> rintro rfl <;> exact absurd digit (by decide)

omit greatest

theorem skipRadixMark_numeral {rest : List Char}
    (unmarked : radix = 16 → runValue radix numeral = 0 → ∀ c ∈ rest.head?, c ≠ 'x' ∧ c ≠ 'X') :
    skipRadixMark radix (numeral ++ rest) = numeral ++ rest := by
  refine marked_iff.mp (.bare fun sixteen mark more same => ?_)
  rcases numeral with _ | ⟨first, _ | ⟨second, others⟩⟩
  · exact absurd rfl some
  · cases same
    exact unmarked sixteen (by simp [runValue, show digitValue '0' = 0 from rfl]) mark rfl
  · cases same
    have digit := digits mark (by simp)
    rw [sixteen] at digit
    constructor <;> rintro rfl <;> exact absurd digit (by decide)

end

/-- Behind a rendered integer only the mark of hexadecimal numbers matters. -/
theorem Renders.integerPrefix_eq (least : 2 ≤ radix) (greatest : radix ≤ 36) {n : Int} {text tail : List Char}
    (renders : Renders radix n text) (ends : ∀ c ∈ tail.head?, radix ≤ digitValue c)
    (unmarked : radix = 16 → n = 0 → ∀ c ∈ tail.head?, c ≠ 'x' ∧ c ≠ 'X') :
    ∃ numeral, integerPrefix radix (text ++ tail) = (decide (n < 0), numeral) ∧ numeral ≠ [] ∧
      (∀ c ∈ numeral, digitValue c < radix) ∧ runValue radix numeral = n.natAbs := by
  obtain ⟨numeral, rfl, some, digits, value⟩ := renders.exists_run least
  have front : ∀ c ∈ (trimEnd tail).head?, c ∈ tail.head? := by
    intro c head
    obtain ⟨more, split⟩ := trimEnd_prefix tail
    rw [← split, List.head?_append, Option.mem_def.mp head]
    rfl
  have mark : skipRadixMark radix (numeral ++ trimEnd tail) = numeral ++ trimEnd tail :=
    skipRadixMark_numeral some digits fun sixteen zero c head => unmarked sixteen (by omega) c (front c head)
  have run := (takeWhile_append_of_head (fun c member => (isRadixDigit_iff greatest).mpr (digits c member))
    fun c head => (not_isRadixDigit_iff greatest).mpr (ends c (front c head))).1
  refine ⟨numeral, ?_, some, digits, value⟩
  rw [integerPrefix, (solid_signed greatest some digits).trim_append, splitSign_signed greatest some digits]
  simp only [mark, run]

/-! ## Conversion -/

/-- The integer is read, and it is converted to a double unless it has too many digits or is too large. -/
def ReadsInteger (radix : Nat) (cs : List Char) (n : Int) : Prop :=
  integerPrefix? radix cs = some n ∧ ((integerPrefix radix cs).2.length ≤ digitLimit → isFinite (ofInteger n) = true →
    parseInt cs radix = .ok (ofInteger n))

section

variable (least : 2 ≤ radix) (greatest : radix ≤ 36)

include least greatest

theorem parseInt_eq (cs : List Char) : parseInt cs radix =
    if digitLimit < (integerPrefix radix cs).2.length && !isBinaryRadix radix then
      .error (.tooManyDigits (integerPrefix radix cs).2.length)
    else (integerPrefix? radix cs).elim (.ok notANumber) fun n =>
      if isFinite (ofInteger n) then .ok (ofInteger n) else .error .tooLarge := by
  rw [parseInt, if_neg (by omega)]
  simp only [Int.toNat_natCast]
  cases integerPrefix? radix cs <;> rfl

theorem readsInteger {negative : Bool} {digits : List Char} (found : integerPrefix radix cs = (negative, digits))
    (some : digits ≠ []) (all : ∀ c ∈ digits, digitValue c < radix) :
    ReadsInteger radix cs (if negative then -(runValue radix digits : Int) else runValue radix digits) := by
  have read : integerPrefix? radix cs =
      .some (if negative then -(runValue radix digits : Int) else runValue radix digits) := by
    simp [integerPrefix?, found, some, radixRun_eq greatest all]
  refine ⟨read, fun short finite => ?_⟩
  rw [parseInt_eq least greatest, read]
  simp only [Nat.not_lt.mpr short, decide_false, Bool.false_and, Bool.false_eq_true, if_false, Option.elim_some,
    finite, if_true]

theorem undefined_iff {negative : Bool} {digits : List Char} (found : integerPrefix radix cs = (negative, digits)) :
    (∃ x, parseInt cs radix = .ok x ∧ isNotANumber x = true) ↔ digits = [] := by
  have nothing : integerPrefix? radix cs = none ↔ digits = [] := by simp [integerPrefix?, found]
  rw [parseInt_eq least greatest, found]
  constructor
  · rintro ⟨x, converted, undefined⟩
    split at converted
    · cases converted
    · refine nothing.mp (Option.eq_none_iff_forall_ne_some.mpr fun n read => ?_)
      rw [read, Option.elim_some] at converted
      split at converted <;> cases converted
      rename_i finite
      rw [isFinite] at finite
      rw [isNotANumber] at undefined
      split at finite <;> simp_all
  · rintro rfl
    rw [nothing.mpr rfl]
    exact ⟨notANumber, rfl, by decide +kernel⟩

/-- The integer at the start of a text is read as the longest run of digits of the radix, and there is none if what
remains of the text starts with no digit. An integer that is rendered in the radix is read again, also in front of a
text that starts with no digit. -/
theorem parseInt_reads_longest_run :
    (∀ cs, ∃ negative digits tail, Remains radix cs negative (digits ++ tail) ∧
      (∀ c ∈ digits, digitValue c < radix) ∧ (∀ c ∈ tail.head?, radix ≤ digitValue c) ∧
      ((∃ x, parseInt cs radix = .ok x ∧ isNotANumber x = true) ↔ ∀ c ∈ (digits ++ tail).head?, radix ≤ digitValue c) ∧
      (digits ≠ [] →
        ReadsInteger radix cs (if negative then -(runValue radix digits : Int) else runValue radix digits))) ∧
    ∀ n text tail, Renders radix n text → (∀ c ∈ tail.head?, radix ≤ digitValue c) →
      (radix = 16 → n = 0 → ∀ c ∈ tail.head?, c ≠ 'x' ∧ c ≠ 'X') → ReadsInteger radix (text ++ tail) n := by
  constructor
  · intro cs
    obtain ⟨negative, digits, tail, remains, all, ends, found⟩ := exists_integerPrefix greatest cs
    refine ⟨negative, digits, tail, remains, all, ends, ?_, fun some => readsInteger least greatest found some all⟩
    rw [undefined_iff least greatest found]
    cases digits with
    | nil => exact iff_of_true rfl ends
    | cons c digits =>
      refine iff_of_false (List.cons_ne_nil _ _) fun none => ?_
      exact absurd (none c rfl) (Nat.not_le.mpr (all c (.head _)))
  · intro n text tail renders ends unmarked
    obtain ⟨numeral, found, some, digits, value⟩ := renders.integerPrefix_eq least greatest ends unmarked
    have reads := readsInteger least greatest found some digits
    have signed : (if decide (n < 0) = true then -(n.natAbs : Int) else n.natAbs) = n := by
      simp only [decide_eq_true_eq]
      split <;> omega
    rwa [value, signed] at reads

end

theorem parseInt_reads_longest_run_of_hexadecimal : ReadsInteger 16 "-fF zoo".toList (-255) :=
  (parseInt_reads_longest_run (by decide) (by decide)).2 (-255) "-fF".toList " zoo".toList
    ⟨"fF".toList, rfl, by decide⟩ (by rintro c ⟨⟩; decide) (by simp)

end LineScript.Number
