import Cosmac.Proofs.Failure
import Cosmac.Proofs.Number.Positive

/-!
# Signs of quotients

A double that is not less than a positive one is no negative number, and neither is their quotient.
`Binary64.sign` follows the sign bit through a division (`Binary64.sign_div_of_not_less`), and the
sign bit decides the sign of the integer part. So a quotient of quantities whose divisor is positive
and not greater than the dividend has no negative integer part (`Quantity.nonneg_of_truncate`).
-/

set_option autoImplicit false

namespace Cosmac.Binary64

open Float.Model Float.Model.UnpackedFloat

/-! ### Sign bits -/

/-- The sign with which a number is packed. What is no number is packed as if it were positive. -/
def sign : UnpackedFloat → Sign
  | .infinity sign | .zero sign | .finite sign _ _ _ => sign
  | .notANumber => .positive

/-- Whether a double carries no minus sign. -/
def HasNoMinus (x : Float) : Prop :=
  sign x.toModel.unpack = .positive

theorem unpackSign_packComponents {spec : Format} (s : Sign) (exponent : BitVec spec.exponentBits)
    (mantissa : BitVec spec.mantissaBitsWithoutImplicit) :
    unpackSign (packComponents spec s exponent mantissa) = s.toBitVec := by
  ext i hi
  obtain rfl : i = 0 := by omega
  simp [unpackSign, packComponents, BitVec.getLsbD_append, BitVec.getElem_append]

theorem unpackSign_pack (spec : Format) (u : UnpackedFloat) :
    unpackSign (UnpackedFloat.pack spec u) = (sign u).toBitVec := by
  unfold UnpackedFloat.pack
  cases u with
  | infinity | zero | notANumber => exact unpackSign_packComponents _ _ _
  | finite =>
    dsimp only
    split_ifs <;> exact unpackSign_packComponents _ _ _

theorem unpackSign_eq_zero_iff {bits : BitVec 64} :
    @unpackSign .binary64 bits = 0#1 ↔ bits.toNat < 2 ^ 63 := by
  rw [← BitVec.toNat_inj]
  simp only [unpackSign, BitVec.toNat_cast, BitVec.extractLsb_toNat, Nat.shiftRight_eq_div_pow,
    BitVec.toNat_zero]
  omega

theorem sign_unpack {bits : BitVec 64} (hbits : bits.toNat < 2 ^ 63) :
    sign (UnpackedFloat.unpack .binary64 bits) = .positive := by
  unfold UnpackedFloat.unpack
  dsimp only
  rw [unpackSign_eq_zero_iff.mpr hbits]
  split_ifs <;> rfl

/-- A double that is packed from a number without a minus sign has none. -/
theorem hasNoMinus_ofModel {u : UnpackedFloat} (hsign : sign u = .positive) :
    HasNoMinus (.ofModel (.pack u)) := by
  have hbit : @unpackSign .binary64 (UnpackedFloat.pack .binary64 u) = 0#1 := by
    rw [unpackSign_pack .binary64, hsign]
    rfl
  exact sign_unpack (unpackSign_eq_zero_iff.mp hbit)

theorem hasNoMinus_ofBits {bits : UInt64} (hbits : bits.toNat < 2 ^ 63) :
    HasNoMinus (Float.ofBits bits) :=
  hasNoMinus_ofModel (sign_unpack hbits)

/-- What is above zero has no minus sign. -/
theorem hasNoMinus_of_not_le {x : Float} (hx : ¬ x ≤ Float.ofInt 0) : HasNoMinus x := by
  have hle : x.toModel.unpack.le (.zero .positive) = false :=
    Bool.eq_false_iff.mpr fun h ↦ hx (decide_eq_true h)
  unfold HasNoMinus
  generalize x.toModel.unpack = u at hle
  cases u with
  | notANumber => rfl
  | zero => cases hle
  | infinity s | finite s =>
    cases s with
    | positive => rfl
    | negative => cases hle

/-- A finite double without a minus sign has an exact value without one. -/
theorem negative_of_finite? {x : Float} {v : Exact} (hx : HasNoMinus x) (hv : finite? x = some v) :
    v.negative = false := by
  have hexponent : @unpackExponent .binary64 x.toModel.toBits.toBitVec ≠ -1#11 := by
    intro hspecial
    have hbiased : x.toBits.toNat / Nat.pow 2 52 % 2048 = 2047 := by
      have hnat := congrArg BitVec.toNat hspecial
      simp only [unpackExponent, BitVec.toNat_cast, BitVec.extractLsb_toNat,
        Nat.shiftRight_eq_div_pow] at hnat
      exact hnat
    rw [finite?, if_pos hbiased] at hv
    cases hv
  have hsign : Sign.ofBitVec (@unpackSign .binary64 x.toModel.toBits.toBitVec) = .positive := by
    unfold HasNoMinus Float.Model.unpack UnpackedFloat.unpack at hx
    dsimp only at hx
    rw [if_neg hexponent] at hx
    split_ifs at hx <;> exact hx
  have hbit : (x.toBits.toNat / Nat.pow 2 63 == 1) = false := by
    unfold Sign.ofBitVec at hsign
    split_ifs at hsign with hclear
    have hbits : x.toBits.toNat < 2 ^ 63 := unpackSign_eq_zero_iff.mp hclear
    rw [Nat.pow_eq, Nat.div_eq_of_lt hbits]
    rfl
  unfold finite? at hv
  dsimp only at hv
  split_ifs at hv <;> cases hv <;> exact hbit

/-- The sign of a double decides that of its integer part. -/
theorem nonneg_of_truncate? {x : Float} {n : Int} (hx : HasNoMinus x) (hn : truncate? x = some n) :
    0 ≤ n := by
  obtain ⟨v, hv, rfl⟩ := Option.map_eq_some_iff.mp hn
  rw [Exact.truncate, negative_of_finite? hx hv]
  exact Int.natCast_nonneg _

/-! ### Division -/

theorem sign_roundWithAccuracy (spec : Format) (s : Sign) (mantissa : Nat) (exponent : Int)
    (accuracy : Accuracy) : sign (roundWithAccuracy spec s mantissa exponent accuracy) = s := by
  unfold roundWithAccuracy
  dsimp only
  split_ifs <;> rfl

theorem sign_div {spec : Format} {a b : UnpackedFloat} (ha : sign a = .positive)
    (hb : sign b = .positive) : sign (UnpackedFloat.div spec a b) = .positive := by
  cases a <;> cases b <;> cases ha <;> cases hb <;>
    first | rfl | exact sign_roundWithAccuracy _ _ _ _ _

/-- A number that is not less than a positive one has no minus sign, and what is no number has no
quotient that has one. -/
theorem sign_div_of_not_less {spec : Format} {a b : UnpackedFloat} (hb : sign b = .positive)
    (hzero : b.beq (.zero .positive) = false) (hless : a.lt b = false) :
    sign (UnpackedFloat.div spec a b) = .positive := by
  cases b with
  | notANumber => cases a <;> rfl
  | zero => cases hzero
  | infinity | finite =>
    cases hb
    cases ha : sign a with
    | positive => exact sign_div ha rfl
    | negative => cases a <;> cases ha <;> cases hless

variable {x y z : Float}

theorem hasNoMinus_div (hx : HasNoMinus x) (hy : HasNoMinus y) (hz : divide x y = .ok z) :
    HasNoMinus z := by
  unfold divide at hz
  split_ifs at hz
  cases hz
  exact hasNoMinus_ofModel (sign_div hx hy)

theorem hasNoMinus_div_of_not_less (hy : HasNoMinus y) (hless : ¬ x < y)
    (hz : divide x y = .ok z) : HasNoMinus z := by
  unfold divide at hz
  split_ifs at hz with hzero
  cases hz
  refine hasNoMinus_ofModel (sign_div_of_not_less hy ?_ ?_)
  · exact Bool.eq_false_iff.mpr hzero
  · exact Bool.eq_false_iff.mpr fun h ↦ hless (decide_eq_true h)

/-! ### Whole numbers -/

/-- The double nearest to a natural number has no minus sign. -/
theorem hasNoMinus_of_ofInt? {n : Int} {v : Exact} (hn : 0 ≤ n) (hv : ofInt? n = some v) :
    HasNoMinus v.toFloat := by
  obtain ⟨magnitude, hmagnitude, rfl⟩ := Option.map_eq_some_iff.mp hv
  rw [show decide (n < 0) = false from decide_eq_false (by omega)]
  by_cases hzero : n.natAbs = 0
  · rw [hzero] at hmagnitude
    cases hmagnitude
    exact hasNoMinus_ofBits (by decide)
  · obtain ⟨hnormal, hsize, -, hgreatest⟩ := normal_of_nearest? hzero hmagnitude
    have hfits :
        (magnitude.exponent + 1075).toNat * 2 ^ 52 + (magnitude.mantissa - 2 ^ 52) < 2 ^ 63 := by
      omega
    rw [Exact.toFloat]
    simp only [Nat.pow_eq, if_neg (Nat.not_lt.mpr hnormal), Bool.false_eq_true, if_false]
    apply hasNoMinus_ofBits
    rwa [UInt64.toNat_ofNat_of_lt' (Nat.lt_trans hfits (by decide))]

/-- A whole number that is not less than a positive double is a natural number, unless the double is
no number. -/
theorem nonneg_of_not_wholeLess {n : Int} {y : Float} (hy : HasNoMinus y)
    (hzero : ¬ (y == 0.0) = true) (hless : Quantity.wholeLess n y = false) :
    0 ≤ n ∨ y.toModel.unpack = .notANumber := by
  unfold Quantity.wholeLess at hless
  cases hv : finite? y with
  | some v =>
    rw [hv] at hless
    have hnumerator : v.numerator = v.ratio.1 := by
      rw [Exact.numerator, negative_of_finite? hy hv]
      rfl
    have hbound : (v.ratio.1 : Int) ≤ n * v.ratio.2 := by
      rw [← hnumerator]
      exact Int.not_lt.mp (of_decide_eq_false hless)
    have hden : (0 : Int) < v.ratio.2 := by
      exact_mod_cast Nat.two_pow_pos (-v.exponent).toNat
    exact .inl (nonneg_of_mul_nonneg_left (Int.le_trans (Int.natCast_nonneg _) hbound) hden)
  | none =>
    rw [hv] at hless
    have hlt : (UnpackedFloat.zero .positive).lt y.toModel.unpack = false :=
      Bool.eq_false_iff.mpr fun h ↦ of_decide_eq_false hless (decide_eq_true h)
    have hbeq : y.toModel.unpack.beq (.zero .positive) = false := Bool.eq_false_iff.mpr hzero
    unfold HasNoMinus at hy
    generalize y.toModel.unpack = u at hy hlt hbeq
    cases u with
    | notANumber => exact .inr rfl
    | zero => cases hbeq
    | infinity | finite =>
      cases hy
      cases hlt

end Cosmac.Binary64

namespace Cosmac.Quantity

open Binary64

variable {a q : Quantity} {x y : Float} {n : Int}

/-! ### Quotients -/

theorem exists_of_divide_real (hq : divide a (real y) = .ok q) :
    ∃ x z : Float, a.toFloat = .ok x ∧ Binary64.divide x y = .ok z ∧ q = real z := by
  have hreal : (do return real (← Binary64.divide (← a.toFloat) y)) = Except.ok q := by
    rw [← hq]
    cases a <;> rfl
  obtain ⟨x, hx, hrest⟩ := exists_of_bind_eq_ok hreal
  obtain ⟨z, hz, hreturn⟩ := exists_of_bind_eq_ok hrest
  cases hreturn
  exact ⟨x, z, hx, hz, rfl⟩

/-- A whole number that is not negative has a double without a minus sign. -/
theorem hasNoMinus_of_integer (hinteger : a.integer? = some n) (hn : 0 ≤ n)
    (hx : a.toFloat = .ok x) : HasNoMinus x := by
  simp only [toFloat, hinteger] at hx
  split at hx
  · cases hx
    exact hasNoMinus_of_ofInt? hn ‹_›
  · cases hx

/-- What is above zero has a double without a minus sign. -/
theorem hasNoMinus_of_not_atMost (hpositive : a.atMost 0 = false) (hx : a.toFloat = .ok x) :
    HasNoMinus x := by
  cases hinteger : a.integer? with
  | some n =>
    simp only [atMost, hinteger, decide_eq_false_iff_not] at hpositive
    exact hasNoMinus_of_integer hinteger (by omega) hx
  | none =>
    obtain ⟨r, rfl⟩ := exists_eq_real hinteger
    cases hx
    exact hasNoMinus_of_not_le (of_decide_eq_false hpositive)

/-- A quotient has no minus sign if the divisor has none and is not greater than the dividend. -/
theorem hasNoMinus_of_not_less {z : Float} (hy : HasNoMinus y) (hless : a.less (real y) = false)
    (hx : a.toFloat = .ok x) (hz : Binary64.divide x y = .ok z) : HasNoMinus z := by
  cases hinteger : a.integer? with
  | none =>
    obtain ⟨r, rfl⟩ := exists_eq_real hinteger
    cases hx
    exact hasNoMinus_div_of_not_less hy (of_decide_eq_false hless) hz
  | some m =>
    have hwhole : wholeLess m y = false := by
      cases a <;> cases hinteger <;> exact hless
    by_cases hm : 0 ≤ m
    · exact hasNoMinus_div (hasNoMinus_of_integer hinteger hm hx) hy hz
    -- A number below zero can only be not less than a divisor that is no number.
    · unfold Binary64.divide at hz
      split_ifs at hz with hzero
      cases hz
      have hnan := (nonneg_of_not_wholeLess hy hzero hwhole).resolve_left hm
      refine hasNoMinus_ofModel ?_
      rw [hnan]
      cases x.toModel.unpack <;> rfl

theorem nonneg_of_truncate (hy : HasNoMinus y) (hless : a.less (real y) = false)
    (hq : divide a (real y) = .ok q) (hn : q.truncate = .ok n) : 0 ≤ n := by
  obtain ⟨x, z, hx, hz, rfl⟩ := exists_of_divide_real hq
  have hinteger : truncate? z = some n := by
    change Binary64.truncate z = _ at hn
    unfold Binary64.truncate at hn
    split at hn
    · cases hn
      assumption
    · cases hn
  exact nonneg_of_truncate? (hasNoMinus_of_not_less hy hless hx hz) hinteger

end Cosmac.Quantity
