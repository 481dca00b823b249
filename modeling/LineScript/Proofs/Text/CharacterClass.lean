import LineScript.Source.Bracket
import LineScript.Source.Name
import Mathlib.Tactic.Common

/-!
# Classes of characters

Reading decides by the class of a character: white space, the start of a name, a character that goes on
with a name, a decimal digit. The statements here say how the classes lie to each other. The start of a
name and every decimal digit are word characters, and no word character is white space. Beyond ASCII that
is a fact about the tables, and it is checked span by span: no span of a table meets a span of white space
(`tables_avoid_blanks`).

A character of a class differs from every character outside it (`ne_of_class`). This is how the scanners
are told that names and numerals hold no bracket, no quote and no separator.
-/

set_option autoImplicit false

namespace LineScript.Text

/-- Characters that a class tells apart are different. -/
theorem ne_of_class {kind : Char → Bool} {c d : Char} (inside : kind c = true) (outside : kind d = false) : c ≠ d := by
  rintro rfl
  rw [inside] at outside
  cases outside

theorem not_mem_of_class {kind : Char → Bool} {c : Char} {others : List Char} (inside : kind c = true)
    (outside : others.all (fun d => !kind d) = true) : c ∉ others := by
  intro member
  have excluded := List.all_eq_true.mp outside c member
  rw [inside] at excluded
  cases excluded

/-! ## Spans -/

/-- The spans of white space beyond ASCII. -/
def wideBlanks : List Span :=
  [⟨0x85, 0x85⟩, ⟨0xa0, 0xa0⟩, ⟨0x1680, 0x1680⟩, ⟨0x2000, 0x200a⟩, ⟨0x2028, 0x2029⟩, ⟨0x202f, 0x202f⟩,
    ⟨0x205f, 0x205f⟩, ⟨0x3000, 0x3000⟩]

/-- Two spans have no code point in common. -/
def Span.apart (span other : Span) : Bool :=
  Nat.blt span.last other.first || Nat.blt other.last span.first

/-- White space beyond ASCII lies in one of its spans. -/
theorem exists_wideBlank {c : Char} (blank : isBlank c = true) (wide : 0x80 ≤ c.toNat) :
    ∃ span ∈ wideBlanks, span.first ≤ c.toNat ∧ c.toNat ≤ span.last := by
  simp only [isBlank, Bool.or_eq_true, Bool.and_eq_true, decide_eq_true_eq, beq_iff_eq] at blank
  simp only [wideBlanks, List.mem_cons, List.not_mem_nil, or_false, exists_eq_or_imp, exists_eq_left]
  omega

/-- A code point in one of two spans that lie apart is not in the other. -/
theorem Span.not_contains_of_apart {span other : Span} {code : Nat} (apart : span.apart other = true)
    (first : other.first ≤ code) (last : code ≤ other.last) : span.contains code = false := by
  simp only [Span.apart, Bool.or_eq_true, Nat.blt_eq] at apart
  simp only [Span.contains, Bool.and_eq_false_iff, decide_eq_false_iff_not]
  omega

/-- A table whose spans lie apart from white space covers none of it. -/
theorem not_covers_of_blank {table : Array Span} {c : Char}
    (apart : table.toList.all (fun span => wideBlanks.all span.apart) = true)
    (blank : isBlank c = true) (wide : 0x80 ≤ c.toNat) : Span.covers table c.toNat = false := by
  obtain ⟨other, member, first, last⟩ := exists_wideBlank blank wide
  rw [Span.covers, ← Array.any_toList, List.any_eq_false]
  intro span here
  have both := List.all_eq_true.mp (List.all_eq_true.mp apart span here) other member
  rw [Span.not_contains_of_apart both first last]
  exact Bool.false_ne_true

/-- The tables of letters, digits and numeric characters avoid white space. -/
theorem tables_avoid_blanks :
    letterTable.toList.all (fun span => wideBlanks.all span.apart) = true ∧
      digitTable.toList.all (fun span => wideBlanks.all span.apart) = true ∧
      numericTable.toList.all (fun span => wideBlanks.all span.apart) = true ∧
      decimalZeros.all (fun base => wideBlanks.all (Span.apart ⟨base, base + 9⟩)) = true := by
  decide +kernel

/-! ## Decimal digits -/

/-- A decimal digit is an ASCII digit or lies in one of the runs of ten. -/
theorem isDecimal_cases {c : Char} (decimal : isDecimal c = true) :
    c.isDigit = true ∨ 0x80 ≤ c.toNat ∧ ∃ base ∈ decimalZeros, base ≤ c.toNat ∧ c.toNat ≤ base + 9 := by
  rw [isDecimal, decimalValue?] at decimal
  split at decimal
  · exact .inl ‹_›
  · split at decimal
    · simp at decimal
    · rw [Option.isSome_map, List.find?_isSome] at decimal
      obtain ⟨base, member, bounds⟩ := decimal
      simp only [Bool.and_eq_true, decide_eq_true_eq] at bounds
      exact .inr ⟨by omega, base, member, by omega, by omega⟩

theorem not_blank_of_isDigit {c : Char} (digit : c.isDigit = true) : isBlank c = false := by
  rw [Char.isDigit_iff_toNat] at digit
  simp only [isBlank, Bool.or_eq_false_iff, Bool.and_eq_false_iff, decide_eq_false_iff_not,
    beq_eq_false_iff_ne]
  simp only [Char.reduceToNat] at digit
  omega

/-- No decimal digit is white space. -/
theorem not_blank_of_isDecimal {c : Char} (decimal : isDecimal c = true) : isBlank c = false := by
  rcases isDecimal_cases decimal with digit | ⟨wide, base, member, first, last⟩
  · exact not_blank_of_isDigit digit
  · by_contra blank
    obtain ⟨other, found, low, high⟩ := exists_wideBlank (by simpa using blank) wide
    have apart := List.all_eq_true.mp (List.all_eq_true.mp tables_avoid_blanks.2.2.2 base member) other found
    have missed := Span.not_contains_of_apart apart low high
    simp only [Span.contains, Bool.and_eq_false_iff, decide_eq_false_iff_not] at missed
    omega

/-! ## Names -/

/-- The letters of ASCII make up two stretches. -/
theorem toNat_of_isAlpha {c : Char} (alpha : c.isAlpha = true) :
    0x41 ≤ c.toNat ∧ c.toNat ≤ 0x5a ∨ 0x61 ≤ c.toNat ∧ c.toNat ≤ 0x7a := by
  have bounds : (decide (c.val ≥ 'A'.val ∧ c.val ≤ 'Z'.val) ||
      decide (c.val ≥ 'a'.val) && decide (c.val ≤ 'z'.val)) = true := alpha
  simp only [Bool.or_eq_true, Bool.and_eq_true, decide_eq_true_eq, ge_iff_le,
    UInt32.le_iff_toNat_le] at bounds
  exact bounds

/-- The start of a name is an ASCII character. -/
theorem toNat_lt_of_isNameStart {c : Char} (start : isNameStart c = true) : c.toNat < 0x80 := by
  simp only [isNameStart, Bool.or_eq_true, beq_iff_eq] at start
  rcases start with alpha | rfl
  · rcases toNat_of_isAlpha alpha with upper | lower <;> omega
  · decide

/-- The start of a name is a word character. -/
theorem isWord_of_isNameStart {c : Char} (start : isNameStart c = true) : isWord c = true := by
  have ascii := toNat_lt_of_isNameStart start
  simp only [isNameStart, Bool.or_eq_true] at start
  simp only [isWord, isAlphanumeric, if_pos ascii, Char.isAlphanum, Bool.or_eq_true]
  tauto

/-- A decimal digit is a word character. -/
theorem isWord_of_isDecimal {c : Char} (decimal : isDecimal c = true) : isWord c = true := by
  simp only [isWord, isAlphanumeric, Bool.or_eq_true]
  by_cases ascii : c.toNat < 0x80
  · rcases isDecimal_cases decimal with digit | ⟨wide, _⟩
    · simp only [if_pos ascii, Char.isAlphanum, digit, Bool.or_true, true_or]
    · omega
  · simp only [if_neg ascii, isDigitLike, decimal, Bool.true_or, Bool.or_true, true_or]

/-- The start of a name is no digit of any kind. -/
theorem not_digitLike_of_isNameStart {c : Char} (start : isNameStart c = true) : isDigitLike c = false := by
  have ascii := toNat_lt_of_isNameStart start
  have noDecimal : isDecimal c = false := by
    by_contra decimal
    rcases isDecimal_cases (by simpa using decimal) with digit | ⟨wide, _⟩
    · rw [Char.isDigit_iff_toNat] at digit
      simp only [isNameStart, Bool.or_eq_true, beq_iff_eq] at start
      have below : c.toNat ≤ 0x39 := digit.2
      rcases start with alpha | rfl
      · rcases toNat_of_isAlpha alpha with upper | lower <;> omega
      · exact absurd below (by decide)
    · omega
  have narrow : ¬0x80 ≤ c.toNat := by omega
  simp only [isDigitLike, noDecimal, narrow, decide_false, Bool.false_and, Bool.or_false]

/-- The start of a name counts as a letter or is the underscore. -/
theorem isLetter_of_isNameStart {c : Char} (start : isNameStart c = true) :
    (isLetter c || decide (c = '_')) = true := by
  have ascii := toNat_lt_of_isNameStart start
  simp only [isNameStart, Bool.or_eq_true, beq_iff_eq] at start
  simp only [isLetter, if_pos ascii, Bool.or_eq_true, decide_eq_true_eq]
  exact start

/-- No word character is white space. -/
theorem not_blank_of_isWord {c : Char} (word : isWord c = true) : isBlank c = false := by
  simp only [isWord, isAlphanumeric, Bool.or_eq_true, beq_iff_eq] at word
  rcases word with alphanumeric | rfl
  · by_cases ascii : c.toNat < 0x80
    · simp only [if_pos ascii, Char.isAlphanum, Bool.or_eq_true] at alphanumeric
      rcases alphanumeric with alpha | digit
      · have low : 0x41 ≤ c.toNat := by
          rcases toNat_of_isAlpha alpha with upper | lower <;> omega
        simp only [isBlank, Bool.or_eq_false_iff, Bool.and_eq_false_iff, decide_eq_false_iff_not,
          beq_eq_false_iff_ne]
        omega
      · exact not_blank_of_isDigit digit
    · by_contra blank
      have blank : isBlank c = true := by simpa using blank
      have wide : 0x80 ≤ c.toNat := by omega
      have letters := not_covers_of_blank tables_avoid_blanks.1 blank wide
      have digits := not_covers_of_blank tables_avoid_blanks.2.1 blank wide
      have numbers := not_covers_of_blank tables_avoid_blanks.2.2.1 blank wide
      simp only [if_neg ascii, isLetter, isDigitLike, letters, digits, numbers, Bool.and_false,
        Bool.or_false, Bool.false_or] at alphanumeric
      rw [not_blank_of_isDecimal alphanumeric] at blank
      cases blank
  · decide

theorem not_word_of_isBlank {c : Char} (blank : isBlank c = true) : isWord c = false := by
  by_contra word
  rw [not_blank_of_isWord (by simpa using word)] at blank
  cases blank

end LineScript.Text
