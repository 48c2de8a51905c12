import Cosmac.Proofs.Number.Magnitude
import Mathlib

/-!
# Positive whole numbers as doubles

A positive whole number that is not too large for a double can be divided, with a double as the
quotient: its double is not zero (`Binary64.beq_zero_of_ofInt?`), and quotients of it are no larger
than itself (`Binary64.nearest?_isSome_of_one`).
-/

set_option autoImplicit false

namespace Cosmac.Binary64

open Float.Model Float.Model.UnpackedFloat

/-! ### Bits -/

/-- A double that is no subnormal one is none when its bits have been normalized, either. -/
theorem unpackExponent_pack_unpack {bits : BitVec 64}
    (hbits : @unpackExponent .binary64 bits ≠ 0#11) :
    @unpackExponent .binary64
      (UnpackedFloat.pack .binary64 (UnpackedFloat.unpack .binary64 bits)) ≠ 0#11 := by
  rw [@pack_unpack .binary64 bits (by decide)]
  split_ifs
  · rw [packedNaN, unpackExponent_packComponents]
    decide
  · exact hbits

theorem compare_zero {bits : BitVec 64} (hbits : @unpackExponent .binary64 bits ≠ 0#11)
    (sign : Sign) :
    ((UnpackedFloat.unpack .binary64 bits).compare (.zero sign) == some .eq) = false := by
  unfold UnpackedFloat.unpack
  dsimp only
  split_ifs
  · cases Sign.ofBitVec (@unpackSign .binary64 bits) <;> rfl
  · rfl
  · cases Sign.ofBitVec (@unpackSign .binary64 bits) <;> rfl

theorem beq_zero_ofBits {bits : UInt64} (hbits : bits.toNat / 2 ^ 52 % 2 ^ 11 ≠ 0) :
    (Float.ofBits bits == 0.0) = false := by
  have hexponent : @unpackExponent .binary64 bits.toBitVec ≠ 0#11 := by
    intro hzero
    have hnat := congrArg BitVec.toNat hzero
    simp only [unpackExponent, BitVec.toNat_cast, BitVec.extractLsb_toNat,
      Nat.shiftRight_eq_div_pow] at hnat
    exact hbits hnat
  exact compare_zero (unpackExponent_pack_unpack hexponent) .positive

theorem floorLog2_one {num : Nat} (hnum : num ≠ 0) : floorLog2 num 1 = num.log2 := by
  have hlog : 1 * Nat.pow 2 num.log2 ≤ num * Nat.pow 2 0 := by
    rw [Nat.pow_eq, Nat.pow_eq, one_mul, pow_zero, mul_one]
    exact Nat.log2_self_le hnum
  have hone : ((num.log2 : Int) - (Nat.log2 1 : Nat)) = num.log2 := by
    rw [show Nat.log2 1 = 0 from rfl]
    omega
  have hpositive : (-(num.log2 : Int)).toNat = 0 := by omega
  unfold floorLog2
  simp only [hone, Int.toNat_natCast, hpositive, if_pos hlog]

theorem roundHalfEven_cases (num den : Nat) :
    roundHalfEven num den = num / den ∨ roundHalfEven num den = num / den + 1 := by
  unfold roundHalfEven
  simp only
  split_ifs
  · exact .inl rfl
  · exact .inr rfl

/-- The double nearest to a positive natural number is no subnormal one. -/
theorem normal_of_nearest? {num : Nat} {v : Exact} (hnum : num ≠ 0) (hv : nearest? num 1 = some v) :
    2 ^ 52 ≤ v.mantissa ∧ v.mantissa < 2 ^ 53 ∧ -52 ≤ v.exponent ∧ v.exponent ≤ 971 := by
  have hunit : unitExponent num 1 = num.log2 - 52 := by
    unfold unitExponent leastExponent
    rw [floorLog2_one hnum]
    omega
  unfold nearest? at hv
  simp only [if_neg hnum, hunit] at hv
  generalize he : (num.log2 : Int) - 52 = e at hv
  have hwidth : 52 + e.toNat = num.log2 + (-e).toNat := by omega
  have hfloor : 2 ^ 52 ≤ num * 2 ^ (-e).toNat / (1 * 2 ^ e.toNat) := by
    rw [one_mul, Nat.le_div_iff_mul_le (Nat.two_pow_pos _), ← pow_add, hwidth, pow_add]
    exact Nat.mul_le_mul_right _ (Nat.log2_self_le hnum)
  have hceil : num * 2 ^ (-e).toNat / (1 * 2 ^ e.toNat) < 2 ^ 53 := by
    rw [one_mul, Nat.div_lt_iff_lt_mul (Nat.two_pow_pos _), ← pow_add,
      show 53 + e.toNat = num.log2 + 1 + (-e).toNat by omega, pow_add]
    exact Nat.mul_lt_mul_of_pos_right Nat.lt_log2_self (Nat.two_pow_pos _)
  have hround := roundHalfEven_cases (num * 2 ^ (-e).toNat) (1 * 2 ^ e.toNat)
  simp only [Nat.pow_eq] at hv
  generalize roundHalfEven _ _ = m at hv hround
  split_ifs at hv with hcarry <;> cases hv <;> simp only at * <;> omega

/-- The double nearest to a positive integer is above zero. -/
theorem beq_zero_of_ofInt? {n : Int} {v : Exact} (hn : 0 < n) (hv : ofInt? n = some v) :
    (v.toFloat == 0.0) = false := by
  obtain ⟨magnitude, hmagnitude, rfl⟩ := Option.map_eq_some_iff.mp hv
  obtain ⟨hnormal, hsize, hleast, hgreatest⟩ := normal_of_nearest? (by omega) hmagnitude
  have hsign : decide (n < 0) = false := decide_eq_false (by omega)
  rw [Exact.toFloat, hsign]
  simp only [Nat.pow_eq, if_neg (Nat.not_lt.mpr hnormal), Bool.false_eq_true, if_false]
  have hfits :
      (magnitude.exponent + 1075).toNat * 2 ^ 52 + (magnitude.mantissa - 2 ^ 52) < 2 ^ 64 := by
    omega
  apply beq_zero_ofBits
  rw [UInt64.toNat_ofNat_of_lt' hfits]
  omega

/-! ### Quotients -/

theorem log2_le_of_nearest? {num : Nat} (hnum : (nearest? num 1).isSome = true) :
    num.log2 ≤ 1023 := by
  by_cases hzero : num = 0
  · rw [hzero]
    decide
  · obtain ⟨v, hv⟩ := Option.isSome_iff_exists.mp hnum
    have hunit : unitExponent num 1 = max leastExponent (num.log2 - 52) := by
      rw [unitExponent, floorLog2_one hzero]
    unfold nearest? at hv
    simp only [if_neg hzero, hunit, leastExponent] at hv
    split_ifs at hv <;> simp only at * <;> omega

/-- If a numerator is not too large for a double, then no quotient of it is. -/
theorem nearest?_isSome_of_one {num den : Nat} (hden : 0 < den)
    (hnum : (nearest? num 1).isSome = true) : (nearest? num den).isSome = true := by
  by_cases hone : den = 1
  · rw [hone]
    exact hnum
  · have hlog : 1 ≤ den.log2 := (Nat.le_log2 (by omega)).mpr (by omega)
    have hwidth := log2_le_of_nearest? hnum
    have hfloor := floorLog2_le num den
    apply nearest?_isSome_of_unit
    unfold unitExponent leastExponent
    omega

end Cosmac.Binary64

namespace Cosmac.Quantity

variable {m n : Int}

/-! ### Whole numbers with doubles -/

theorem exists_ofInt?_eq (hm : (whole m).HasDouble) :
    ∃ v, Binary64.ofInt? m = some v ∧ (whole m).toFloat = .ok v.toFloat := by
  obtain ⟨x, hx⟩ := hm
  simp only [toFloat, integer?] at hx ⊢
  cases hv : Binary64.ofInt? m with
  | some v => exact ⟨v, rfl, rfl⟩
  | none =>
    rw [hv] at hx
    cases hx

/-- Where a positive number has a double, that double is not zero. -/
theorem exists_toFloat_eq (hm : (whole m).HasDouble) (hpositive : 0 < m) :
    ∃ x : Float, (whole m).toFloat = .ok x ∧ (x == 0.0) = false := by
  obtain ⟨v, hv, hx⟩ := exists_ofInt?_eq hm
  exact ⟨v.toFloat, hx, Binary64.beq_zero_of_ofInt? hpositive hv⟩

/-- A whole number with a double can be divided by a positive one. -/
theorem exists_roundedQuotient_eq (hm : (whole m).HasDouble) (hn : 0 < n) :
    ∃ q : Int, roundedQuotient (whole m) (whole n) = .ok q := by
  obtain ⟨v, hv, -⟩ := exists_ofInt?_eq hm
  have hnum : (Binary64.nearest? m.natAbs 1).isSome = true := by
    obtain ⟨w, hw, -⟩ := Option.map_eq_some_iff.mp hv
    rw [hw, Option.isSome_some]
  have hden : 0 < n.natAbs := Int.natAbs_pos.mpr (by omega)
  obtain ⟨q, hq⟩ := Option.isSome_iff_exists.mp (Binary64.nearest?_isSome_of_one hden hnum)
  exact ⟨q.round, by simp only [roundedQuotient, integer?, hq]⟩

end Cosmac.Quantity
