import LineScript.Proofs.Number.Integers
import LineScript.Proofs.Number.Doubles

/-!
# Decimal numbers at the start of a text

A decimal number has a sign or none, and then the word for infinity or a mantissa, perhaps with an exponent
(`Denotes`). What is read at the start of a text is the value of the longest decimal number there, and it is undefined
exactly if there is none (`parseFloat_reads_longest_number`).
-/

set_option autoImplicit false

namespace LineScript.Number

open LineScript.Text LineScript.Source

/-! ## The language of numbers -/

/-- Decimal digits, at least one. -/
def Digits (run : List Char) : Prop :=
  run ≠ [] ∧ ∀ c ∈ run, isDecimal c = true

/-- A text is a mantissa with these digits, some of them after the point. -/
inductive Mantissa : (text digits : List Char) → (scale : Nat) → Prop where
  | whole {run : List Char} (digits : Digits run) : Mantissa run run 0
  | pointed {run fraction : List Char} (digits : Digits (run ++ fraction)) :
      Mantissa (run ++ '.' :: fraction) (run ++ fraction) fraction.length

/-- A text is an exponent, or it is empty. -/
inductive Exponent : (text : List Char) → (power : Int) → Prop where
  | absent : Exponent [] 0
  | present {mark : Char} {negative : Bool} {run text : List Char} (marked : mark = 'e' ∨ mark = 'E')
      (signed : Signed negative run text) (digits : Digits run) :
      Exponent (mark :: text) (if negative then -(decimalRun run : Int) else decimalRun run)

inductive Unsigned : (text : List Char) → Magnitude → Prop where
  | infinite : Unsigned infinityWord .infinite
  | decimal {text digits tail : List Char} {scale : Nat} {power : Int} (mantissa : Mantissa text digits scale)
      (exponent : Exponent tail power) : Unsigned (text ++ tail) (.decimal (decimalRun digits) (power - scale))

/-- A text is a decimal number with this value. -/
inductive Denotes : (text : List Char) → Float → Prop where
  | signed {negative : Bool} {body text : List Char} {magnitude : Magnitude} (sign : Signed negative body text)
      (unsigned : Unsigned body magnitude) : Denotes text (if negative then -magnitude.value else magnitude.value)

variable {text digits run rest cs : List Char} {scale : Nat} {negative : Bool} {magnitude : Magnitude}

theorem Mantissa.exists_head (mantissa : Mantissa text digits scale) :
    ∃ c tail, text = c :: tail ∧ (isDecimal c = true ∨ c = '.') := by
  cases mantissa with
  | whole digits =>
    obtain ⟨c, tail, rfl⟩ := List.exists_cons_of_ne_nil digits.1
    exact ⟨c, tail, rfl, .inl (digits.2 c (.head _))⟩
  | @pointed run fraction digits =>
    cases run with
    | nil => exact ⟨'.', fraction, rfl, .inr rfl⟩
    | cons c run => exact ⟨c, _, rfl, .inl (digits.2 c (.head _))⟩

theorem Unsigned.ne_nil (unsigned : Unsigned text magnitude) : text ≠ [] := by
  cases unsigned with
  | infinite => exact List.cons_ne_nil _ _
  | decimal mantissa =>
    obtain ⟨c, tail, rfl, -⟩ := mantissa.exists_head
    exact List.cons_ne_nil _ _

theorem Signed.append (signed : Signed negative run text) (some : run ≠ []) (rest : List Char) :
    Signed negative (run ++ rest) (text ++ rest) := by
  cases signed with
  | plus => exact .plus _
  | minus => exact .minus _
  | bare free => exact .bare (by rwa [List.head?_append_of_ne_nil _ some])

theorem Signed.of_append (signed : Signed negative (run ++ rest) cs) (some : run ≠ []) :
    ∃ text, Signed negative run text ∧ cs = text ++ rest := by
  cases signed with
  | plus => exact ⟨'+' :: run, .plus _, rfl⟩
  | minus => exact ⟨'-' :: run, .minus _, rfl⟩
  | bare free =>
    rw [List.head?_append_of_ne_nil _ some] at free
    exact ⟨run, .bare free, rfl⟩

/-! ## Runs of digits -/

/-- The text does not go on with a digit. -/
def Stops (rest : List Char) : Prop :=
  ∀ c ∈ rest.head?, isDecimal c = false

theorem stops_dropWhile (cs : List Char) : Stops (cs.dropWhile isDecimal) :=
  fun _ head => head_dropWhile head

theorem Digits.takeWhile (some : cs.takeWhile isDecimal ≠ []) : Digits (cs.takeWhile isDecimal) :=
  ⟨some, fun _ member => List.mem_takeWhile_imp member⟩

theorem Digits.append_takeWhile (digits : Digits run) (cs : List Char) : Digits (run ++ cs.takeWhile isDecimal) :=
  ⟨by simp [digits.1], List.forall_mem_append.mpr ⟨digits.2, fun _ member => List.mem_takeWhile_imp member⟩⟩

/-! ## Exponents -/

theorem splitExponent_append {mark : Char} (marked : mark = 'e' ∨ mark = 'E') (signed : Signed negative run text)
    (digits : Digits run) (stops : Stops rest) : splitExponent (mark :: text ++ rest) =
      (if negative then -(decimalRun run : Int) else decimalRun run, rest) := by
  obtain ⟨taken, dropped⟩ := takeWhile_append_of_head digits.2 stops
  rw [List.cons_append, splitExponent, if_pos marked, signed_iff.mp (signed.append digits.1 rest)]
  simp only [taken, dropped, List.isEmpty_iff, digits.1, if_false]

/-- What is read as an exponent is one. -/
theorem exists_exponent (cs : List Char) : ∃ text, Exponent text (splitExponent cs).1 ∧
    cs = text ++ (splitExponent cs).2 := by
  by_cases none : splitExponent cs = (0, cs)
  · rw [none]
    exact ⟨[], .absent, rfl⟩
  · cases cs with
    | nil => exact absurd rfl none
    | cons mark cs =>
      obtain ⟨negative, body, split⟩ : ∃ negative body, splitSign cs = (negative, body) := ⟨_, _, rfl⟩
      simp only [splitExponent, split] at none
      have marked : mark = 'e' ∨ mark = 'E' := by
        by_contra other
        exact none (if_neg other)
      have digits : Digits (body.takeWhile isDecimal) := by
        refine .takeWhile fun empty => ?_
        simp [marked, empty] at none
      have whole := signed_iff.mpr split
      rw [← List.takeWhile_append_dropWhile (p := isDecimal) (l := body)] at whole
      obtain ⟨text, signed, rfl⟩ := whole.of_append digits.1
      rw [← List.cons_append, splitExponent_append marked signed digits (stops_dropWhile body)]
      exact ⟨mark :: text, .present marked signed digits, rfl⟩

/-! ## Mantissas -/

theorem Mantissa.not_infinite (mantissa : Mantissa text digits scale) (rest : List Char) :
    ¬infinityWord.isPrefixOf (text ++ rest) = true := by
  obtain ⟨c, tail, rfl, start⟩ := mantissa.exists_head
  rw [List.isPrefixOf_iff_prefix]
  intro starts
  obtain rfl := (List.cons_prefix_cons.mp starts).1
  exact absurd start (by decide)

theorem Mantissa.splitMagnitude?_eq (mantissa : Mantissa text digits scale) (stops : Stops rest)
    (onePoint : '.' ∈ rest.head? → '.' ∈ text) :
    splitMagnitude? (text ++ rest) =
      some (.decimal (decimalRun digits) ((splitExponent rest).1 - scale), (splitExponent rest).2) := by
  rw [splitMagnitude?, if_neg (mantissa.not_infinite rest)]
  cases mantissa with
  | whole digits =>
    obtain ⟨taken, dropped⟩ := takeWhile_append_of_head digits.2 stops
    simp only [taken, dropped, List.isEmpty_iff, digits.1, if_false]
    split
    · exact absurd (digits.2 '.' (onePoint rfl)) (by decide)
    · simp
  | @pointed run fraction digits =>
    obtain ⟨all, more⟩ := List.forall_mem_append.mp digits.2
    have point : Stops ('.' :: (fraction ++ rest)) := by
      rintro c ⟨⟩
      decide
    obtain ⟨taken, dropped⟩ := takeWhile_append_of_head all point
    obtain ⟨fractionTaken, fractionDropped⟩ := takeWhile_append_of_head more stops
    simp only [List.append_assoc, List.cons_append, taken, dropped, fractionTaken, fractionDropped]
    by_cases empty : run = []
    · have some : fraction ≠ [] := by simpa [empty] using digits.1
      simp [empty, some]
    · simp [empty]

/-- A mantissa and a text after it start with a mantissa that goes as far as digits and a point do. -/
theorem Mantissa.exists_longest (mantissa : Mantissa text digits scale) (cs : List Char) :
    ∃ more rest digits scale, cs = more ++ rest ∧ (∀ c ∈ more, isDecimal c = true ∨ c = '.') ∧
      Mantissa (text ++ more) digits scale ∧ Stops rest ∧ ('.' ∈ rest.head? → '.' ∈ text ++ more) := by
  have plain (cs : List Char) : ∀ c ∈ cs.takeWhile isDecimal, isDecimal c = true ∨ c = '.' :=
    fun c member => .inl (List.mem_takeWhile_imp member)
  have whole := (List.takeWhile_append_dropWhile (p := isDecimal) (l := cs)).symm
  cases mantissa with
  | whole digits =>
    by_cases point : '.' ∈ (cs.dropWhile isDecimal).head?
    · obtain ⟨tail, after⟩ := List.head?_eq_some_iff.mp point
      have longest := Mantissa.pointed ((digits.append_takeWhile cs).append_takeWhile tail)
      rw [List.append_assoc] at longest
      refine ⟨_, _, _, _, ?_, ?_, longest, stops_dropWhile tail, fun _ => by simp⟩
      · rw [List.append_assoc, List.cons_append, List.takeWhile_append_dropWhile, ← after, ← whole]
      · simp only [List.forall_mem_append, List.forall_mem_cons]
        exact ⟨plain cs, .inr trivial, plain tail⟩
    · exact ⟨_, _, _, _, whole, plain cs, .whole (digits.append_takeWhile cs), stops_dropWhile cs,
        fun head => absurd head point⟩
  | pointed digits =>
    have longer := digits.append_takeWhile cs
    rw [List.append_assoc] at longer
    have longest := Mantissa.pointed longer
    rw [← List.cons_append, ← List.append_assoc] at longest
    exact ⟨_, _, _, _, whole, plain cs, longest, stops_dropWhile cs, fun _ => by simp⟩

theorem exists_mantissa (read : (splitMagnitude? cs).isSome = true) :
    infinityWord <+: cs ∨ ∃ text digits scale, Mantissa text digits scale ∧ text <+: cs := by
  rw [splitMagnitude?] at read
  split at read
  · exact .inl (List.isPrefixOf_iff_prefix.mp ‹_›)
  · refine .inr ?_
    simp only [List.isEmpty_iff] at read
    split at read
    · rename_i empty
      split at read
      · rename_i tail after
        split at read
        · cases read
        · rename_i some
          have digits : Digits ([] ++ tail.takeWhile isDecimal) := .takeWhile some
          refine ⟨_, _, _, .pointed digits, ?_⟩
          rw [← List.takeWhile_append_dropWhile (p := isDecimal) (l := cs), empty, after]
          exact List.cons_prefix_cons.mpr ⟨rfl, List.takeWhile_prefix _⟩
      · cases read
    · rename_i some
      exact ⟨_, _, _, .whole (.takeWhile some), List.takeWhile_prefix _⟩

/-! ## Magnitudes -/

theorem splitMagnitude?_infinite (rest : List Char) :
    splitMagnitude? (infinityWord ++ rest) = some (.infinite, rest) := by
  rw [splitMagnitude?, if_pos (List.isPrefixOf_iff_prefix.mpr (List.prefix_append ..)), List.drop_left]

/-- In front of any text a magnitude is read, or a longer one. -/
theorem Unsigned.splitMagnitude?_append (unsigned : Unsigned text magnitude) (rest : List Char) :
    ∃ magnitude after, splitMagnitude? (text ++ rest) = some (magnitude, after) ∧ after.length ≤ rest.length := by
  cases unsigned with
  | infinite => exact ⟨_, _, splitMagnitude?_infinite rest, Nat.le_refl _⟩
  | @decimal text _ tail _ _ mantissa exponent =>
    obtain ⟨more, after, digits, scale, split, plain, longest, stops, onePoint⟩ := mantissa.exists_longest (tail ++ rest)
    have whole : text ++ tail ++ rest = text ++ more ++ after := by
      rw [List.append_assoc, split, List.append_assoc]
    refine ⟨_, _, (congrArg splitMagnitude? whole).trans (longest.splitMagnitude?_eq stops onePoint), ?_⟩
    cases exponent with
    | absent =>
      obtain ⟨word, -, consumed⟩ := exists_exponent after
      have first := congrArg List.length split
      have second := congrArg List.length consumed
      simp only [List.nil_append, List.length_append] at first second
      omega
    | @present mark _ run text marked signed digits =>
      cases more with
      | nil =>
        have longer := signed.append digits.1 (rest.takeWhile isDecimal)
        have read := splitExponent_append marked longer (digits.append_takeWhile rest) (stops_dropWhile rest)
        rw [← List.cons_append, List.append_assoc, List.takeWhile_append_dropWhile] at read
        rw [← List.nil_append after, ← split, read]
        exact List.length_dropWhile_le ..
      | cons c more =>
        obtain ⟨rfl, -⟩ := List.cons.inj split
        rcases marked with rfl | rfl <;> exact absurd (plain _ (.head _)) (by decide)

/-- What is read as a magnitude is one. -/
theorem exists_unsigned (read : splitMagnitude? cs = some (magnitude, rest)) :
    ∃ text, Unsigned text magnitude ∧ cs = text ++ rest := by
  rcases exists_mantissa (by rw [read]; rfl) with ⟨tail, rfl⟩ | ⟨text, _, _, mantissa, tail, rfl⟩
  · cases (splitMagnitude?_infinite tail).symm.trans read
    exact ⟨infinityWord, .infinite, rfl⟩
  · obtain ⟨more, after, digits, scale, rfl, -, longest, stops, onePoint⟩ := mantissa.exists_longest tail
    obtain ⟨word, exponent, split⟩ := exists_exponent after
    rw [← List.append_assoc, longest.splitMagnitude?_eq stops onePoint] at read
    cases read
    refine ⟨_, .decimal longest exponent, ?_⟩
    rw [List.append_assoc _ word, ← split, List.append_assoc]

theorem Denotes.splitMagnitude?_of_prefix {value : Float} (denotes : Denotes text value) (starts : text <+: cs) :
    ∃ magnitude after, splitMagnitude? (splitSign cs).2 = some (magnitude, after) ∧
      text.length + after.length ≤ cs.length := by
  obtain ⟨sign, unsigned⟩ := denotes
  obtain ⟨rest, rfl⟩ := starts
  obtain ⟨magnitude, after, read, shorter⟩ := unsigned.splitMagnitude?_append rest
  refine ⟨magnitude, after, by rwa [signed_iff.mp (sign.append unsigned.ne_nil rest)], ?_⟩
  rw [List.length_append]
  omega

/-! ## Values -/

theorem isNotANumber_neg (x : Float) : isNotANumber (-x) = isNotANumber x := by
  rw [isNotANumber, isNotANumber, Reading.ofFloat_neg]
  cases Reading.ofFloat x <;> rfl

theorem isPlain_packed (bits : Nat) :
    (Reading.ofFloat (if 2047 * twoTo 52 ≤ bits then infinity false else .ofBits (UInt64.ofNat bits))).isPlain := by
  split
  · decide +kernel
  · rename_i small
    rw [twoTo_eq] at small
    rw [Reading.ofFloat_ofBits, Reading.ofFields, UInt64.toNat_ofNat', if_neg (by omega)]
    split_ifs <;> simp [Reading.isPlain] <;> omega

theorem isPlain_ofDecimal (digits : Nat) (power : Int) : (Reading.ofFloat (ofDecimal digits power)).isPlain := by
  rw [ofDecimal, nearest]
  split_ifs
  · decide +kernel
  · decide +kernel
  · decide +kernel
  · decide +kernel
  · exact isPlain_packed _

theorem isNotANumber_value (magnitude : Magnitude) : isNotANumber magnitude.value = false := by
  cases magnitude with
  | infinite => decide +kernel
  | decimal digits power => exact isNotANumber_of_isPlain (isPlain_ofDecimal digits power)

/-- The number at the start of a text, after white space, is undefined exactly if no decimal number stands there.
Otherwise it is the value of the longest decimal number there. -/
theorem parseFloat_reads_longest_number (cs : List Char) :
    (isNotANumber (parseFloat cs) = true ↔ ∀ text value, Denotes text value → ¬text <+: trimStart cs) ∧
    (isNotANumber (parseFloat cs) = true ∨ ∃ text, Denotes text (parseFloat cs) ∧ text <+: trimStart cs ∧
      ∀ other value, Denotes other value → other <+: trimStart cs → other.length ≤ text.length) := by
  obtain ⟨negative, body, split⟩ : ∃ negative body, splitSign (trimStart cs) = (negative, body) := ⟨_, _, rfl⟩
  cases read : splitMagnitude? body with
  | none =>
    have undefined : isNotANumber (parseFloat cs) = true := by
      rw [parseFloat, split]
      simp only [read]
      decide +kernel
    refine ⟨iff_of_true undefined fun text value denotes starts => ?_, .inl undefined⟩
    obtain ⟨_, _, found, _⟩ := denotes.splitMagnitude?_of_prefix starts
    rw [split] at found
    cases read.symm.trans found
  | some found =>
    obtain ⟨magnitude, rest⟩ := found
    have value : parseFloat cs = if negative then -magnitude.value else magnitude.value := by
      rw [parseFloat, split]
      simp only [read]
    obtain ⟨word, unsigned, rfl⟩ := exists_unsigned read
    obtain ⟨text, signed, whole⟩ := (signed_iff.mpr split).of_append unsigned.ne_nil
    have denotes : Denotes text (parseFloat cs) := value ▸ .signed signed unsigned
    have starts : text <+: trimStart cs := ⟨rest, whole.symm⟩
    have defined : isNotANumber (parseFloat cs) = false := by
      rw [value]
      split_ifs <;> simp only [isNotANumber_neg, isNotANumber_value]
    refine ⟨iff_of_false (by simp [defined]) fun none => none _ _ denotes starts, .inr ⟨text, denotes, starts, ?_⟩⟩
    intro other value denotes begins
    obtain ⟨_, _, found, shorter⟩ := denotes.splitMagnitude?_of_prefix begins
    rw [split] at found
    cases read.symm.trans found
    rw [whole, List.length_append] at shorter
    omega

end LineScript.Number
