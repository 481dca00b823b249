import LineScript.Eval.Operation
import LineScript.Proofs.Number.Doubles
import Mathlib

/-!
# The bit operators

A bit operator takes each operand for an integer: a number for what stands before its point, with an
infinite or undefined number as zero, and a boolean for zero or one. Its result is the signed reading of
an operation on vectors of 32 bits. The same number comes out of the operation on integers of any size
when both operands and the result are wrapped into the range from `-2 ^ 31` up to `2 ^ 31`.
-/

set_option autoImplicit false

namespace LineScript

/-- The integer that a bit operator takes an operand for; nothing if it does not take the operand. -/
def Value.wholeNumber? : Value → Option Int
  | .number x => some (((Number.value? x).map Number.wholePart).getD 0)
  | .boolean holds => some (if holds then 1 else 0)
  | _ => none

/-- What a bit operator does to vectors of 32 bits, and to integers of any size. -/
structure BitOperation where
  onWords : BitVec 32 → BitVec 32 → BitVec 32
  onIntegers : Int → Int → Int

/-- The operation of a bit operator. A shift goes as far as the low five bits of its right operand say,
and a shift to the right keeps the sign. -/
def Operator.bitOperation? : Operator → Option BitOperation
  | .bitAnd => some ⟨fun left right => left &&& right, Int.land⟩
  | .bitOr => some ⟨fun left right => left ||| right, Int.lor⟩
  | .bitXor => some ⟨fun left right => left ^^^ right, Int.xor⟩
  | .shiftLeft =>
    some ⟨fun left right => left <<< (right &&& 31#32), fun left right => left * 2 ^ (right % 32).toNat⟩
  | .shiftRight =>
    some ⟨fun left right => left.sshiftRight' (right &&& 31#32), fun left right => left / 2 ^ (right % 32).toNat⟩
  | _ => none

/-! ## Wrapped integers -/

namespace Number

theorem getLsbD_ofInt (width : Nat) (n : Int) (i : Nat) :
    (BitVec.ofInt width n).getLsbD i = (decide (i < width) && n.testBit i) := by
  cases n with
  | ofNat n => simp [BitVec.ofInt_natCast, BitVec.getLsbD_ofNat, Int.testBit]
  | negSucc n =>
    by_cases inside : i < width
    · rw [BitVec.ofInt_negSucc_eq_not_ofNat, BitVec.getLsbD_not, BitVec.getLsbD_ofNat]
      simp [Int.testBit, inside]
    · simp [inside]

theorem ofInt_bmod (n : Int) : BitVec.ofInt 32 (n.bmod (2 ^ 32)) = BitVec.ofInt 32 n := by
  rw [← BitVec.toInt_ofInt, BitVec.ofInt_toInt]

theorem toNat_low_bits (n : Int) : (BitVec.ofInt 32 n &&& 31#32).toNat = (n % 32).toNat := by
  have low : (BitVec.ofInt 32 n &&& 31#32).toNat = (n % 2 ^ 32).toNat % 2 ^ 5 := by
    rw [BitVec.toNat_and, BitVec.toNat_ofInt]
    exact Nat.and_two_pow_sub_one_eq_mod _ 5
  rw [low]
  omega

theorem shiftLeft_ofInt (left right : Int) :
    BitVec.ofInt 32 left <<< (BitVec.ofInt 32 right &&& 31#32) = .ofInt 32 (left * 2 ^ (right % 32).toNat) := by
  have power (n : Nat) : BitVec.ofInt 32 (2 ^ n) = BitVec.twoPow 32 n := by
    apply BitVec.eq_of_toNat_eq
    rw [BitVec.toNat_twoPow, ← BitVec.toNat_ofNat, ← BitVec.ofInt_natCast]
    norm_cast
  rw [BitVec.shiftLeft_eq', toNat_low_bits, BitVec.shiftLeft_eq_mul_twoPow, BitVec.ofInt_mul, power]

theorem sshiftRight_ofInt (left right : Int) :
    (BitVec.ofInt 32 left).sshiftRight' (BitVec.ofInt 32 right &&& 31#32) =
      .ofInt 32 (left.bmod (2 ^ 32) / 2 ^ (right % 32).toNat) := by
  rw [BitVec.sshiftRight_eq', toNat_low_bits, BitVec.sshiftRight, BitVec.toInt_ofInt, Int.shiftRight_eq_div_pow]
  norm_cast

theorem Word.shiftAmount_eq (word : Word) : word.shiftAmount = (word &&& 31#32).toNat := by
  rw [Word.shiftAmount, BitVec.toNat_and]
  exact (Nat.and_two_pow_sub_one_eq_mod _ 5).symm

/-- The signed reading of a word is a double, exactly. -/
theorem Word.value?_toFloat (word : Word) : value? word.toFloat = some (word.toInt : ℚ) := by
  have low := BitVec.le_toInt word
  have high := BitVec.toInt_lt (x := word)
  exact value?_ofInteger (by omega)

end Number

open Number

/-- The operation on words agrees with the one on integers: words wrap around. -/
theorem BitOperation.onWords_ofInt {operator : Operator} {operation : BitOperation}
    (bits : operator.bitOperation? = some operation) (left right : Int) :
    operation.onWords (.ofInt 32 left) (.ofInt 32 right) =
      .ofInt 32 (operation.onIntegers (left.bmod (2 ^ 32)) (right.bmod (2 ^ 32))) := by
  rw [← ofInt_bmod left, ← ofInt_bmod right]
  cases operator <;> cases bits
  case bitAnd | bitOr | bitXor =>
    ext i inside
    simp [← BitVec.getLsbD_eq_getElem, getLsbD_ofInt, inside]
  case shiftLeft => exact shiftLeft_ofInt _ _
  case shiftRight =>
    have shifted := sshiftRight_ofInt (left.bmod (2 ^ 32)) (right.bmod (2 ^ 32))
    rwa [Int.bmod_bmod] at shifted

theorem Value.numeric?_of_wholeNumber? {value : Value} {n : Int} (whole : value.wholeNumber? = some n) :
    ∃ x, value.numeric? = some x ∧ Word.ofFloat x = .ofInt 32 n := by
  cases value with
  | number x =>
    cases whole
    exact ⟨x, rfl, by rw [Word.ofFloat, truncate?_eq]⟩
  | boolean holds =>
    cases holds <;> cases whole
    · exact ⟨0, rfl, by decide +kernel⟩
    · exact ⟨1, rfl, by decide +kernel⟩
  | _ => cases whole

theorem Operator.onNumbers_bits {operator : Operator} {operation : BitOperation}
    (bits : operator.bitOperation? = some operation) (x y : Float) :
    operator.onNumbers x y = .number (Word.toFloat (operation.onWords (Word.ofFloat x) (Word.ofFloat y))) := by
  cases operator <;> cases bits
  case bitAnd | bitOr | bitXor => rfl
  case shiftLeft =>
    rw [Operator.onNumbers, Word.shiftLeft, Word.shiftAmount_eq]
    rfl
  case shiftRight =>
    rw [Operator.onNumbers, Word.shiftRight, Word.shiftAmount_eq]
    rfl

theorem Operator.apply_numbers {operator : Operator} {operation : BitOperation} {left right : Value} {x y : Float}
    (bits : operator.bitOperation? = some operation) (first : left.numeric? = some x) (second : right.numeric? = some y)
    (store : Store) : operator.apply left right store = .ok (operator.onNumbers x y) store := by
  have taken : operator.onOperands? left right = some (operator.onNumbers x y) := by
    cases left with
    | number | boolean => simp only [Operator.onOperands?, first, second]
    | _ => cases first
  have returned : operator.apply left right = pure (operator.onNumbers x y) := by
    cases operator <;> cases bits <;> simp [Operator.apply, taken]
  rw [returned]
  rfl

/-- **Bit operators work on 32 bits in two's complement.** A bit operator on two numbers or booleans
never fails and changes nothing. -/
theorem Operator.apply_eq_signed_word {operator : Operator} {operation : BitOperation} {left right : Value} {a b : Int}
    (bits : operator.bitOperation? = some operation) (first : left.wholeNumber? = some a)
    (second : right.wholeNumber? = some b) (store : Store) :
    ∃ result, operator.apply left right store = .ok (.number result) store ∧
      value? result = some ((operation.onWords (.ofInt 32 a) (.ofInt 32 b)).toInt : ℚ) ∧
      (operation.onWords (.ofInt 32 a) (.ofInt 32 b)).toInt ∈ Set.Ico (-2 ^ 31) (2 ^ 31) ∧
      (operation.onWords (.ofInt 32 a) (.ofInt 32 b)).toInt =
        (operation.onIntegers (a.bmod (2 ^ 32)) (b.bmod (2 ^ 32))).bmod (2 ^ 32) := by
  obtain ⟨x, leftNumber, leftWord⟩ := Value.numeric?_of_wholeNumber? first
  obtain ⟨y, rightNumber, rightWord⟩ := Value.numeric?_of_wholeNumber? second
  refine ⟨Word.toFloat (operation.onWords (.ofInt 32 a) (.ofInt 32 b)), ?_, Word.value?_toFloat _,
    ⟨BitVec.le_toInt _, BitVec.toInt_lt⟩, ?_⟩
  · rw [apply_numbers bits leftNumber rightNumber, onNumbers_bits bits, leftWord, rightWord]
  · rw [BitOperation.onWords_ofInt bits, BitVec.toInt_ofInt]

/-- A number beyond 32 bits wraps to `-1`, which a shift to the right keeps. -/
theorem Operator.wide_shiftRight_true :
    let store := Store.initial .default ⟨[], []⟩ [] 0
    ∃ operation, Operator.shiftRight.bitOperation? = some operation ∧
    (Value.number (-4294967297.5)).wholeNumber? = some (-4294967297) ∧
    (Value.boolean true).wholeNumber? = some 1 ∧
    ∃ result, Operator.shiftRight.apply (.number (-4294967297.5)) (.boolean true) store = .ok (.number result) store ∧
      value? result = some ((-1 : Int) : ℚ) := by
  intro store
  have wide : (Value.number (-4294967297.5)).wholeNumber? = some (-4294967297) := by
    rw [Value.wholeNumber?, ← truncate?_eq]
    decide +kernel
  have signed : ((BitVec.ofInt 32 (-4294967297)).sshiftRight' (.ofInt 32 1 &&& 31#32)).toInt = -1 := by decide
  obtain ⟨result, returned, value, -⟩ :=
    @Operator.apply_eq_signed_word .shiftRight _ _ (.boolean true) _ _ rfl wide rfl store
  exact ⟨_, rfl, wide, rfl, result, returned, value.trans (congrArg (fun n : Int => some (n : ℚ)) signed)⟩

end LineScript
