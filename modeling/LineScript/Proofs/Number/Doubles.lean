import LineScript.Number.Dyadic
import Mathlib

/-!
# Doubles

A double is packed into 64 bits: a sign, an exponent field and a fraction. Packing and unpacking lose nothing, so what
a double stands for can be read off its parts (`Reading.ofFloat_eq`), also for a double that was made of bits or by
negation.

A finite double stands for a rational number (`value?`). Integers of up to 53 digits stand for themselves
(`value?_ofInteger`), and truncation takes the integer part (`truncate?_eq`).
-/

set_option autoImplicit false

namespace LineScript.Number

open Float.Model.UnpackedFloat
open Float.Model (UnpackedFloat Format)

/-! ## Parts of a double -/

/-- The double with a sign, an exponent field and a fraction. -/
def unpackedOf (sign : Sign) (field : BitVec 11) (fraction : BitVec 52) : UnpackedFloat :=
  if field = -1#11 then
    if fraction = 0#52 then .infinity sign else .notANumber
  else if field = 0#11 then
    if zero : fraction = 0#52 then .zero sign
    else .finite sign fraction.toNat (-1074) (by simpa [BitVec.toNat_pos, BitVec.pos_iff_ne_zero])
  else .finite sign (2 ^ 52 + fraction.toNat) ((field.toNat : Int) - 1075) (by omega)

theorem toNat_fraction (fraction : BitVec 52) : (1#1 ++ fraction).toNat = 2 ^ 52 + fraction.toNat := by
  rw [BitVec.toNat_append, ← Nat.shiftLeft_add_eq_or_of_lt fraction.isLt]
  rfl

theorem unpack_eq (bits : BitVec 64) :
    unpack .binary64 bits =
      unpackedOf (Sign.ofBitVec (@unpackSign .binary64 bits)) (@unpackExponent .binary64 bits)
        (@unpackMantissa .binary64 bits) := by
  by_cases infinite : @unpackExponent .binary64 bits = -1#11
  · simp only [UnpackedFloat.unpack, unpackedOf, if_pos infinite]
  · by_cases least : @unpackExponent .binary64 bits = 0#11
    · simp only [UnpackedFloat.unpack, unpackedOf, least]
      rfl
    · simp only [UnpackedFloat.unpack, unpackedOf, if_neg infinite, if_neg least, toNat_fraction]
      rfl

theorem unpackSign_packComponents (sign : Sign) (field : BitVec 11) (fraction : BitVec 52) :
    unpackSign (packComponents .binary64 sign field fraction) = sign.toBitVec := by
  ext i inside
  simp [unpackSign, packComponents]
  grind

theorem unpack_packComponents (sign : Sign) (field : BitVec 11) (fraction : BitVec 52) :
    unpack .binary64 (packComponents .binary64 sign field fraction) = unpackedOf sign field fraction := by
  rw [unpack_eq, unpackSign_packComponents, unpackExponent_packComponents, unpackMantissa_packComponents]
  cases sign <;> rfl

theorem unpack_pack_unpackedOf (sign : Sign) (field : BitVec 11) (fraction : BitVec 52) :
    unpack .binary64 (pack .binary64 (unpackedOf sign field fraction)) = unpackedOf sign field fraction := by
  have small := fraction.isLt
  have narrow := field.isLt
  by_cases infinite : field = -1#11
  · by_cases zero : fraction = 0#52
    · simp only [unpackedOf, if_pos infinite, if_pos zero]
      cases sign <;> rfl
    · simp only [unpackedOf, if_pos infinite, if_neg zero]
      rfl
  have packed : pack .binary64 (unpackedOf sign field fraction) = packComponents .binary64 sign field fraction := by
    by_cases least : field = 0#11
    · by_cases zero : fraction = 0#52
      · subst least zero
        rfl
      · have positive : fraction.toNat ≠ 0 := fun none => zero (BitVec.eq_of_toNat_eq none)
        have short : fraction.toNat.log2 < 52 := (Nat.log2_lt positive).mpr small
        simp only [unpackedOf, if_neg infinite, if_pos least, dif_neg zero, UnpackedFloat.pack]
        rw [if_neg (by decide), if_neg (by simp [Format.mantissaBits]; omega), least]
        simp
    · have full : (2 ^ 52 + fraction.toNat).log2 = 52 := by
        rw [Nat.log2_eq_iff (by omega)]
        omega
      have above : field.toNat ≠ 0 := fun none => least (BitVec.eq_of_toNat_eq none)
      have below : field.toNat ≠ 2047 := fun all => infinite (BitVec.eq_of_toNat_eq all)
      simp only [unpackedOf, if_neg infinite, if_neg least, UnpackedFloat.pack, full]
      have bias : ((field.toNat : Int) - 1075 + (Format.exponentBias .binary64 : Int) + (52 : Nat)).toNat = field.toNat := by
        rw [show (Format.exponentBias .binary64 : Int) = 1023 from rfl]
        omega
      rw [bias, if_neg (by omega), if_pos (by simp [Format.mantissaBits])]
      congr 1
      · simp
      · apply BitVec.eq_of_toNat_eq
        simpa using small
  rw [packed, unpack_packComponents]

/-! ## What a double stands for -/

/-- What an unpacked double stands for. -/
def Reading.ofUnpacked : UnpackedFloat → Reading
  | .notANumber => .notANumber
  | .infinity sign => .infinite (sign == .negative)
  | .zero sign => .finite ⟨sign == .negative, 0, -1074⟩
  | .finite sign mantissa exponent _ => .finite ⟨sign == .negative, mantissa, exponent⟩

/-- What a double with these fields stands for. -/
def Reading.ofFields (negative : Bool) (field fraction : Nat) : Reading :=
  if field = 2047 then
    if fraction = 0 then .infinite negative else .notANumber
  else if field = 0 then .finite ⟨negative, fraction, -1074⟩
  else .finite ⟨negative, 2 ^ 52 + fraction, (field : Int) - 1075⟩

theorem Reading.ofUnpacked_unpackedOf (sign : Sign) (field : BitVec 11) (fraction : BitVec 52) :
    ofUnpacked (unpackedOf sign field fraction) = ofFields (sign == .negative) field.toNat fraction.toNat := by
  have top : field = -1#11 ↔ field.toNat = 2047 := by rw [← BitVec.toNat_inj]; rfl
  have least : field = 0#11 ↔ field.toNat = 0 := by rw [← BitVec.toNat_inj]; rfl
  have zero : fraction = 0#52 ↔ fraction.toNat = 0 := by rw [← BitVec.toNat_inj]; rfl
  simp only [unpackedOf, ofFields, top, least, zero]
  split
  · split <;> rfl
  · split
    · split
      · rename_i none
        simp [ofUnpacked, none]
      · rfl
    · rfl

theorem Reading.ofFields_unpack (bits : BitVec 64) :
    ofUnpacked (unpack .binary64 bits) =
      ofFields (bits.toNat / 2 ^ 63 == 1) (bits.toNat / 2 ^ 52 % 2 ^ 11) (bits.toNat % 2 ^ 52) := by
  have bound := bits.isLt
  have sign : (Sign.ofBitVec (@unpackSign .binary64 bits) == .negative) = (bits.toNat / 2 ^ 63 == 1) := by
    have value : (@unpackSign .binary64 bits).toNat = bits.toNat / 2 ^ 63 := by
      simp [unpackSign, Nat.shiftRight_eq_div_pow]
      omega
    have two : bits.toNat / 2 ^ 63 = 0 ∨ bits.toNat / 2 ^ 63 = 1 := by omega
    rcases two with zero | one
    · rw [zero] at value ⊢
      rw [BitVec.eq_of_toNat_eq (y := 0#1) value]
      rfl
    · rw [one] at value ⊢
      rw [BitVec.eq_of_toNat_eq (y := 1#1) value]
      rfl
  have field : (@unpackExponent .binary64 bits).toNat = bits.toNat / 2 ^ 52 % 2 ^ 11 := by
    simp [unpackExponent, Nat.shiftRight_eq_div_pow]
  have fraction : (@unpackMantissa .binary64 bits).toNat = bits.toNat % 2 ^ 52 := by
    simp [unpackMantissa]
  rw [unpack_eq, ofUnpacked_unpackedOf, sign, field, fraction]

theorem Reading.ofFloat_eq (x : Float) : ofFloat x = ofUnpacked x.toModel.unpack :=
  (ofFields_unpack x.toBits.toBitVec).symm

theorem unpack_ofBits (bits : UInt64) : (Float.ofBits bits).toModel.unpack = unpack .binary64 bits.toBitVec := by
  change unpack .binary64 (pack .binary64 (unpack .binary64 bits.toBitVec)) = _
  rw [unpack_eq bits.toBitVec, unpack_pack_unpackedOf]

theorem Reading.ofFloat_ofBits (bits : UInt64) :
    ofFloat (Float.ofBits bits) =
      ofFields (bits.toNat / 2 ^ 63 == 1) (bits.toNat / 2 ^ 52 % 2 ^ 11) (bits.toNat % 2 ^ 52) := by
  rw [ofFloat_eq, unpack_ofBits, ofFields_unpack, UInt64.toNat_toBitVec]

/-- The reading of the opposite number. -/
def Reading.opposite : Reading → Reading
  | .notANumber => .notANumber
  | .infinite negative => .infinite !negative
  | .finite number => .finite { number with negative := !number.negative }

theorem neg_unpackedOf (sign : Sign) (field : BitVec 11) (fraction : BitVec 52) :
    (unpackedOf sign field fraction).neg = unpackedOf (-sign) field fraction := by
  unfold unpackedOf
  split
  · split <;> rfl
  · split
    · split <;> rfl
    · rfl

theorem unpack_neg (x : Float) : (-x).toModel.unpack = x.toModel.unpack.neg := by
  change unpack .binary64 (pack .binary64 x.toModel.unpack.neg) = _
  have parts := unpack_eq x.toModel.toBits.toBitVec
  change x.toModel.unpack = _ at parts
  rw [parts, neg_unpackedOf, unpack_pack_unpackedOf]

theorem Reading.ofFloat_neg (x : Float) : ofFloat (-x) = (ofFloat x).opposite := by
  rw [ofFloat_eq, ofFloat_eq, unpack_neg]
  cases x.toModel.unpack with
  | notANumber => rfl
  | infinity sign | zero sign | finite sign _ _ _ => cases sign <;> rfl

/-! ## Values -/

/-- The number itself. -/
def Dyadic.toRat (d : Dyadic) : ℚ :=
  (if d.negative then -1 else 1) * (d.mantissa * 2 ^ d.exponent)

/-- The number that a double stands for; nothing if it is infinite or undefined. -/
def value? (x : Float) : Option ℚ :=
  match Reading.ofFloat x with
  | .finite number => some number.toRat
  | .infinite _ | .notANumber => none

theorem twoTo_eq (k : Nat) : twoTo k = 2 ^ k := rfl

theorem nearest_whole {n : Nat} (positive : n ≠ 0) (small : n < 2 ^ 53) :
    Reading.ofFloat (nearest n 1) = .finite ⟨false, n * 2 ^ (52 - n.log2), (n.log2 : Int) - 52⟩ := by
  obtain ⟨low, high⟩ := (Nat.log2_eq_iff positive).mp rfl
  have short : n.log2 < 53 := (Nat.log2_lt positive).mpr small
  have up : (2 : Nat) ^ n.log2 * 2 ^ (52 - n.log2) = 2 ^ 52 := by rw [← Nat.pow_add]; congr 1; omega
  have above : 2 ^ 52 ≤ n * 2 ^ (52 - n.log2) := up ▸ Nat.mul_le_mul_right _ low
  have below : n * 2 ^ (52 - n.log2) < 2 ^ 53 := by
    have := Nat.mul_lt_mul_of_pos_right high (Nat.two_pow_pos (52 - n.log2))
    rw [Nat.pow_succ, Nat.mul_right_comm, up] at this
    exact this
  -- the exponent is that of the highest digit, so that nothing has to be rounded
  have one : Nat.log2 1 = 0 := by decide
  have estimate : ((n.log2 : Int) - (0 : Nat) - 52 + 52).toNat = n.log2 := by omega
  have down : (-((n.log2 : Int) - (0 : Nat) - 52 + 52)).toNat = 0 := by omega
  have exponent : max ((n.log2 : Int) - (0 : Nat) - 52) (-1074) = (n.log2 : Int) - 52 := by omega
  have scale : (-((n.log2 : Int) - 52)).toNat = 52 - n.log2 := by omega
  have unit : ((n.log2 : Int) - 52).toNat = 0 := by omega
  have bias : ((n.log2 : Int) - 52 + 1074).toNat = n.log2 + 1022 := by omega
  unfold nearest
  rw [if_neg positive]
  simp only [one, twoTo_eq, estimate, down, Nat.pow_zero, Nat.mul_one, Nat.one_mul, if_pos low, exponent, scale, unit,
    bias, Nat.div_one, Nat.mod_one, Nat.mul_zero, Nat.not_lt_zero, zero_ne_one, false_and, or_self, if_false]
  generalize n * 2 ^ (52 - n.log2) = mantissa at above below
  have fits : (n.log2 + 1022) * 2 ^ 52 + mantissa < UInt64.size := by
    rw [UInt64.size]
    omega
  rw [if_neg (by omega), Reading.ofFloat_ofBits, UInt64.toNat_ofNat_of_lt' fits]
  have sign : ((n.log2 + 1022) * 2 ^ 52 + mantissa) / 2 ^ 63 = 0 := by omega
  have field : ((n.log2 + 1022) * 2 ^ 52 + mantissa) / 2 ^ 52 % 2 ^ 11 = n.log2 + 1023 := by omega
  have fraction : ((n.log2 + 1022) * 2 ^ 52 + mantissa) % 2 ^ 52 = mantissa - 2 ^ 52 := by omega
  have whole : 2 ^ 52 + (mantissa - 2 ^ 52) = mantissa := by omega
  have power : ((n.log2 + 1023 : Nat) : Int) - 1075 = (n.log2 : Int) - 52 := by omega
  rw [sign, field, fraction, Reading.ofFields, if_neg (by omega), if_neg (by omega), whole, power]
  rfl

theorem value?_nearest {n : Nat} (small : n < 2 ^ 53) : value? (nearest n 1) = some (n : ℚ) := by
  by_cases zero : n = 0
  · have reading : Reading.ofFloat (nearest 0 1) = .finite ⟨false, 0, -1074⟩ := by decide +kernel
    rw [zero, value?, reading]
    simp [Dyadic.toRat]
  · rw [value?, nearest_whole zero small]
    have short : n.log2 < 53 := (Nat.log2_lt zero).mpr small
    simp only [Dyadic.toRat, Bool.false_eq_true, if_false, one_mul, Option.some.injEq]
    have exponent : (n.log2 : Int) - 52 = -((52 - n.log2 : Nat) : Int) := by omega
    rw [exponent, zpow_neg, zpow_natCast]
    push_cast
    field_simp

theorem value?_neg (x : Float) : value? (-x) = (value? x).map (- ·) := by
  rw [value?, value?, Reading.ofFloat_neg]
  cases Reading.ofFloat x with
  | notANumber | infinite => rfl
  | finite number => 
    simp [Reading.opposite, Dyadic.toRat]
    cases number.negative <;> simp

theorem value?_ofInteger {n : Int} (small : n.natAbs < 2 ^ 53) : value? (ofInteger n) = some (n : ℚ) := by
  rw [ofInteger]
  split
  · rename_i negative
    rw [value?_neg, value?_nearest small, Option.map_some, Nat.cast_natAbs, abs_of_neg negative]
    simp
  · rename_i other
    rw [value?_nearest small, Nat.cast_natAbs, abs_of_nonneg (by omega)]

/-- The integer part of a number. -/
def wholePart (q : ℚ) : Int :=
  if 0 ≤ q then ⌊q⌋ else ⌈q⌉

theorem wholePart_neg (q : ℚ) : wholePart (-q) = -wholePart q := by
  rcases lt_trichotomy q 0 with less | rfl | more
  · simp [wholePart, less.le, not_le.mpr less, Int.floor_neg]
  · simp [wholePart]
  · simp [wholePart, more.le, not_le.mpr more, Int.ceil_neg]

theorem Dyadic.truncatedMagnitude_eq (d : Dyadic) : (d.truncatedMagnitude : Int) = ⌊(d.mantissa * 2 ^ d.exponent : ℚ)⌋ := by
  rw [truncatedMagnitude]
  split
  · rename_i whole
    obtain ⟨k, exponent⟩ := Int.eq_ofNat_of_zero_le whole
    rw [exponent, twoTo_eq]
    simp only [Int.toNat_natCast, zpow_natCast]
    exact_mod_cast (Int.floor_intCast (R := ℚ) _).symm
  · rename_i fraction
    obtain ⟨k, exponent⟩ := Int.eq_ofNat_of_zero_le (by omega : 0 ≤ -d.exponent)
    rw [exponent, twoTo_eq, ← neg_neg d.exponent, exponent, zpow_neg, zpow_natCast, ← div_eq_mul_inv]
    simp only [Int.toNat_natCast]
    exact_mod_cast (Rat.floor_natCast_div_natCast d.mantissa (2 ^ k)).symm

theorem Dyadic.truncate_eq (d : Dyadic) : d.truncate = wholePart d.toRat := by
  have magnitude : (0 : ℚ) ≤ d.mantissa * 2 ^ d.exponent := by positivity
  have whole : wholePart (d.mantissa * 2 ^ d.exponent) = d.truncatedMagnitude := by
    rw [wholePart, if_pos magnitude, truncatedMagnitude_eq]
  rw [truncate, toRat]
  cases d.negative with
  | false => simp [whole]
  | true => simp [wholePart_neg, whole]

theorem truncate?_eq (x : Float) : truncate? x = (value? x).map wholePart := by
  rw [truncate?, value?]
  cases Reading.ofFloat x with
  | notANumber | infinite => rfl
  | finite number => simp [Dyadic.truncate_eq]

/-! ## Order -/

/-- Where an unpacked double stands among all others: by its sign, its exponent and its mantissa. -/
def rankOf : UnpackedFloat → ℤ ×ₗ ℤ ×ₗ ℤ
  | .infinity .negative => toLex (-2, toLex (0, 0))
  | .finite .negative mantissa exponent _ => toLex (-1, toLex (-exponent, -(mantissa : ℤ)))
  | .notANumber | .zero _ => toLex (0, toLex (0, 0))
  | .finite .positive mantissa exponent _ => toLex (1, toLex (exponent, (mantissa : ℤ)))
  | .infinity .positive => toLex (2, toLex (0, 0))

theorem compare_signs : compare Sign.negative .negative = .eq ∧ compare Sign.negative .positive = .lt ∧
    compare Sign.positive .negative = .gt ∧ compare Sign.positive .positive = .eq :=
  ⟨rfl, rfl, rfl, rfl⟩

theorem lt_iff_rankOf {x y : UnpackedFloat} (left : x ≠ .notANumber) (right : y ≠ .notANumber) :
    x.lt y = true ↔ rankOf x < rankOf y := by
  cases x with
  | notANumber => exact absurd rfl left
  | infinity sign | zero sign | finite sign =>
    cases y with
    | notANumber => exact absurd rfl right
    | infinity other | zero other | finite other =>
      cases sign <;> cases other <;>
        simp [UnpackedFloat.lt, UnpackedFloat.compare, rankOf, Prod.Lex.toLex_lt_toLex, compare_signs,
          Ordering.swap_eq_iff_eq_swap, Ordering.then_eq_lt, Ordering.then_eq_gt, Int.compare_eq_lt, Int.compare_eq_gt,
          Nat.compare_eq_lt, Nat.compare_eq_gt]

theorem ne_of_isNotANumber {x : Float} (defined : isNotANumber x = false) : x.toModel.unpack ≠ .notANumber := by
  intro undefined
  rw [isNotANumber, Reading.ofFloat_eq, undefined] at defined
  cases defined

/-- Where a double stands among all others. -/
def rank (x : Float) : ℤ ×ₗ ℤ ×ₗ ℤ :=
  rankOf x.toModel.unpack

theorem lt_iff_rank {x y : Float} (left : isNotANumber x = false) (right : isNotANumber y = false) :
    x < y ↔ rank x < rank y := by
  rw [rank, rank, ← lt_iff_rankOf (ne_of_isNotANumber left) (ne_of_isNotANumber right)]
  exact decide_eq_true_iff

/-! ## Equality -/

/-- It is a number without a sign. -/
def Reading.isPlain : Reading → Bool
  | .notANumber => false
  | .infinite negative => !negative
  | .finite number => !number.negative

theorem isNotANumber_of_isPlain {x : Float} (plain : (Reading.ofFloat x).isPlain = true) : isNotANumber x = false := by
  rw [isNotANumber]
  cases reading : Reading.ofFloat x <;> simp_all [Reading.isPlain]

end LineScript.Number
