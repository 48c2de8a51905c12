import Cosmac.Proofs.Number.Magnitude
import Mathlib.Algebra.Order.Round
import Mathlib.Data.Rat.Floor
import Mathlib.Tactic.FieldSimp
import Mathlib.Tactic.Linarith

/-!
# Rounding twice

A quotient is rounded to the nearest integer, a half to the even neighbour (`IsNearestEven`). If it
is rounded to a double first, the result may differ, because the double can lie half way between two
integers where the quotient does not. That needs a quotient so close to the middle that the double
cannot tell: with a numerator below `2 ^ 52` there is none (`Binary64.exists_nearest?_eq`).
-/

set_option autoImplicit false

namespace Cosmac

/-! ### The nearest integer -/

/-- Whether an integer is the nearest one to a number, and the even one if there are two. -/
structure IsNearestEven (q : ℚ) (n : ℤ) : Prop where
  nearest : ∀ k : ℤ, |q - n| ≤ |q - k|
  even : ∀ k : ℤ, k ≠ n → |q - k| = |q - n| → Even n

namespace IsNearestEven

variable {q : ℚ} {n k : ℤ}

theorem abs_sub_le_half (hn : IsNearestEven q n) : |q - n| ≤ 1 / 2 :=
  (hn.nearest (round q)).trans (abs_sub_round q)

/-- Other integers are at least half a unit away. -/
theorem one_le_add (hne : k ≠ n) : 1 ≤ |q - n| + |q - k| := by
  have hgap : (1 : ℚ) ≤ |(k : ℚ) - n| := by
    exact_mod_cast Int.one_le_abs (sub_ne_zero.mpr hne)
  calc (1 : ℚ)
    _ ≤ |(k : ℚ) - n| := hgap
    _ = |(q - n) - (q - k)| := by rw [sub_sub_sub_cancel_left]
    _ ≤ |q - n| + |q - k| := abs_sub _ _

theorem of_abs_sub_le (hn : |q - n| ≤ 1 / 2) (heven : |q - n| = 1 / 2 → Even n) :
    IsNearestEven q n where
  nearest k := by
    by_cases hne : k = n
    · rw [hne]
    · have := one_le_add (q := q) hne
      linarith
  even k hne hequal := heven (by
    have := one_le_add (q := q) hne
    linarith)

/-- Half way between two integers the nearest one is the even one. -/
theorem even_of_abs_sub_eq (hn : IsNearestEven q n) (hmiddle : |q - n| = 1 / 2) : Even n := by
  have hother {k : ℤ} (hne : k ≠ n) (hk : |q - k| = 1 / 2) : Even n :=
    hn.even k hne (hk.trans hmiddle.symm)
  obtain habove | hbelow := (abs_eq (by norm_num)).mp hmiddle
  · refine hother (show n + 1 ≠ n by omega) ?_
    rw [show q - (n + 1 : ℤ) = -(1 / 2) by push_cast; linarith, abs_neg, abs_of_pos (by norm_num)]
  · refine hother (show n - 1 ≠ n by omega) ?_
    rw [show q - (n - 1 : ℤ) = 1 / 2 by push_cast; linarith, abs_of_pos (by norm_num)]

theorem unique (hn : IsNearestEven q n) (hk : IsNearestEven q k) : k = n := by
  by_contra hne
  have hequal : |q - k| = |q - n| := le_antisymm (hk.nearest n) (hn.nearest k)
  have hnear : |(k : ℚ) - n| ≤ 1 := by
    calc |(k : ℚ) - n|
      _ = |(q - n) - (q - k)| := by rw [sub_sub_sub_cancel_left]
      _ ≤ |q - n| + |q - k| := abs_sub _ _
      _ ≤ 1 := by linarith [hn.abs_sub_le_half]
  have hgap : |k - n| ≤ 1 := by exact_mod_cast hnear
  obtain ⟨half, hhalf⟩ := hn.even k hne hequal
  obtain ⟨half', hhalf'⟩ := hk.even n (Ne.symm hne) hequal.symm
  rw [abs_le] at hgap
  omega

/-! ### Quotients -/

section Quotients

variable {num den p : ℕ} {m : ℤ}

/-- How far an integer is from a quotient. -/
theorem abs_div_sub (hden : 0 < den) (num : ℕ) (n : ℤ) :
    |(num : ℚ) / den - n| = (|(num : ℤ) - n * den| : ℤ) / den := by
  have hpositive : (0 : ℚ) < den := Nat.cast_pos.mpr hden
  push_cast
  rw [div_sub' hpositive.ne', abs_div, abs_of_pos hpositive, mul_comm]

theorem abs_div_sub_le_iff (hden : 0 < den) :
    |(num : ℚ) / den - n| ≤ 1 / 2 ↔ 2 * |(num : ℤ) - n * den| ≤ den := by
  rw [abs_div_sub hden, div_le_div_iff₀ (Nat.cast_pos.mpr hden) two_pos, one_mul, mul_comm]
  norm_cast

theorem abs_div_sub_eq_iff (hden : 0 < den) :
    |(num : ℚ) / den - n| = 1 / 2 ↔ 2 * |(num : ℤ) - n * den| = den := by
  have hpositive : (0 : ℚ) < den := Nat.cast_pos.mpr hden
  rw [abs_div_sub hden, div_eq_div_iff hpositive.ne' two_ne_zero, one_mul, mul_comm]
  norm_cast

theorem of_rest (hden : 0 < den) (hnear : 2 * |(num : ℤ) - n * den| ≤ den)
    (heven : 2 * |(num : ℤ) - n * den| = den → Even n) : IsNearestEven (num / den : ℚ) n :=
  of_abs_sub_le ((abs_div_sub_le_iff hden).mpr hnear) fun hmiddle ↦
    heven ((abs_div_sub_eq_iff hden).mp hmiddle)

theorem zero_of_lt (hsmall : 2 * num < den) : IsNearestEven (num / den : ℚ) (0 : ℕ) := by
  apply of_rest (by omega)
  all_goals
    rw [Nat.cast_zero, zero_mul, sub_zero, Nat.abs_cast]
    omega

/-- Rounding to parts of a unit moves a quotient by half a part at most. -/
theorem abs_div_sub_div_le (hp : 0 < p) (hm : IsNearestEven ((num * p : ℕ) / den : ℚ) m) :
    |(num : ℚ) / den - m / p| ≤ 1 / 2 / p := by
  have hpositive : (0 : ℚ) < p := Nat.cast_pos.mpr hp
  have hscaled : (num : ℚ) / den - m / p = ((num * p : ℕ) / den - m) / p := by
    push_cast
    field_simp
  rw [hscaled, abs_div, abs_of_pos hpositive]
  exact div_le_div_of_nonneg_right hm.abs_sub_le_half hpositive.le

/-- A quotient half way between two integers is a whole number of parts of which a unit has an even
number. -/
theorem exists_parts_eq (heven : Even p) (hmiddle : |(num : ℚ) / den - n| = 1 / 2) :
    ∃ k : ℤ, ((num * p : ℕ) / den : ℚ) = k := by
  obtain ⟨half, rfl⟩ := heven
  have hscaled : ((num * (half + half) : ℕ) / den : ℚ) = num / den * (2 * half) := by
    push_cast
    ring
  rw [hscaled]
  obtain habove | hbelow := (abs_eq (by norm_num)).mp hmiddle
  · refine ⟨2 * n * half + half, ?_⟩
    rw [sub_eq_iff_eq_add.mp habove]
    push_cast
    ring
  · refine ⟨2 * n * half - half, ?_⟩
    rw [sub_eq_iff_eq_add.mp hbelow]
    push_cast
    ring

/-- Rounding twice is rounding once if there is an even number of parts to a unit at first, and more
of them than the divisor of the quotient. The quotient has only a multiple of half its divisor's
share between itself and a middle, which is more than the first rounding moves it. -/
theorem of_rounded (hden : 0 < den) (hparts : den < p) (heven : Even p)
    (hm : IsNearestEven ((num * p : ℕ) / den : ℚ) m) (hn : IsNearestEven (m / p : ℚ) n) :
    IsNearestEven (num / den : ℚ) n := by
  have hpositive : (0 : ℚ) < den := Nat.cast_pos.mpr hden
  have hparts' : (den : ℚ) < p := Nat.cast_lt.mpr hparts
  have hp : (0 : ℚ) < p := hpositive.trans hparts'
  refine of_abs_sub_le ?_ fun hmiddle ↦ ?_
  · have hnear : |(num : ℚ) / den - n| ≤ 1 / 2 / p + 1 / 2 :=
      (abs_sub_le _ _ _).trans
        (add_le_add (abs_div_sub_div_le (hden.trans hparts) hm) hn.abs_sub_le_half)
    rw [abs_div_sub_le_iff hden]
    rw [abs_div_sub hden, div_le_iff₀ hpositive] at hnear
    have hshare : (1 / 2 / p + 1 / 2) * den < (den + 1) / (2 : ℚ) := by
      have hless : den / p < (1 : ℚ) := (div_lt_one hp).mpr hparts'
      calc (1 / 2 / p + 1 / 2) * (den : ℚ)
        _ = (den + den / p) / 2 := by ring
        _ < (den + 1) / 2 := by linarith
    have hwhole : 2 * |(num : ℤ) - n * den| < den + 1 := by
      have hbound : (2 : ℚ) * (|(num : ℤ) - n * den| : ℤ) < den + 1 := by linarith
      exact_mod_cast hbound
    omega
  -- A quotient half way between two integers is not moved by the first rounding.
  · obtain ⟨k, hk⟩ := exists_parts_eq heven hmiddle
    have hexact := hm.nearest k
    rw [hk, sub_self, abs_zero, abs_nonpos_iff, sub_eq_zero] at hexact
    have hunmoved : (num : ℚ) / den = m / p := by
      rw [eq_div_iff hp.ne', ← hexact, ← hk]
      push_cast
      ring
    rw [hunmoved] at hmiddle
    exact hn.even_of_abs_sub_eq hmiddle

/-- With no more parts to a unit than the divisor of a quotient, there are no more parts to the
quotient than its numerator. -/
theorem le_of_le {m : ℕ} (hden : 0 < den) (hparts : p ≤ den)
    (hm : IsNearestEven ((num * p : ℕ) / den : ℚ) m) : m ≤ num := by
  have hnear := (abs_div_sub_le_iff hden).mp hm.abs_sub_le_half
  have hbelow : 2 * ((m : ℤ) * den - num * p) ≤ den := by
    have habs := neg_abs_le ((num * p : ℕ) - (m : ℤ) * den)
    push_cast at habs hnear
    linarith
  have hscaled : num * p ≤ num * den := Nat.mul_le_mul_left num hparts
  by_contra hmore
  have hnext : (num + 1) * den ≤ m * den := Nat.mul_le_mul_right den (by omega)
  rw [Nat.succ_mul] at hnext
  zify at hscaled hnext
  linarith

end Quotients

end IsNearestEven

/-! ### The double of a quotient -/

namespace Binary64

variable {num den : ℕ}

theorem isNearestEven_roundHalfEven (num : ℕ) (hden : 0 < den) :
    IsNearestEven (num / den : ℚ) (roundHalfEven num den : ℕ) := by
  have hdivide : ((num / den : ℕ) : ℤ) * den + (num % den : ℕ) = num := by
    exact_mod_cast Nat.div_add_mod' num den
  have hrest : num % den < den := Nat.mod_lt num hden
  rw [roundHalfEven]
  generalize num / den = floor at hdivide
  generalize num % den = rest at hdivide hrest
  split_ifs with hdown
  · have hdistance : |(num : ℤ) - (floor : ℕ) * den| = rest := by
      rw [← hdivide, add_sub_cancel_left, abs_of_nonneg (Int.natCast_nonneg rest)]
    apply IsNearestEven.of_rest hden
    all_goals rw [hdistance]
    · omega
    · intro hmiddle
      exact (Int.even_coe_nat floor).mpr (Nat.even_iff.mpr (by omega))
  · have hdistance : |(num : ℤ) - (floor + 1 : ℕ) * den| = den - rest := by
      rw [← hdivide, abs_of_nonpos (by push_cast; linarith)]
      push_cast
      ring
    apply IsNearestEven.of_rest hden
    all_goals rw [hdistance]
    · omega
    · intro hmiddle
      exact (Int.even_coe_nat (floor + 1)).mpr (Nat.even_iff.mpr (by omega))

/-- A quotient that is rounded is not reduced. -/
theorem roundHalfEven_mul {scale : ℕ} (num : ℕ) (hden : 0 < den) (hscale : 0 < scale) :
    roundHalfEven (num * scale) (den * scale) = roundHalfEven num den := by
  have hscaled := isNearestEven_roundHalfEven (num * scale) (Nat.mul_pos hden hscale)
  push_cast at hscaled
  rw [mul_div_mul_right _ _ (Nat.cast_ne_zero.mpr hscale.ne')] at hscaled
  exact_mod_cast (isNearestEven_roundHalfEven num hden).unique hscaled

/-- The power of two of the leading bit of a quotient is no larger than the quotient. -/
theorem two_pow_floorLog2_le (hnum : num ≠ 0) (den : ℕ) :
    den * 2 ^ (floorLog2 num den).toNat ≤ num * 2 ^ (-floorLog2 num den).toNat := by
  unfold floorLog2
  simp only [Nat.pow_eq]
  split_ifs with hfits
  · exact hfits
  · generalize hk : (num.log2 : ℤ) - den.log2 - 1 = k
    calc den * 2 ^ k.toNat
      _ ≤ 2 ^ (den.log2 + 1) * 2 ^ k.toNat := Nat.mul_le_mul_right _ Nat.lt_log2_self.le
      _ = 2 ^ num.log2 * 2 ^ (-k).toNat := by
        rw [← pow_add, ← pow_add]
        congr 1
        omega
      _ ≤ num * 2 ^ (-k).toNat := Nat.mul_le_mul_right _ (Nat.log2_self_le hnum)

/-- A quotient whose numerator lies below `2 ^ 52` has a double that is a fraction with a power of
two as its denominator. Either that power is the greatest one, or the numerator of the fraction has
fifty-three bits. -/
theorem exists_unitExponent_eq (hnum : num ≠ 0) (hsize : num < 2 ^ 52) (den : ℕ) :
    ∃ shift : ℕ, unitExponent num den = -shift ∧ 1 ≤ shift ∧
      (shift = 1074 ∨ den * 2 ^ 52 ≤ num * 2 ^ shift) := by
  have hlog : num.log2 < 52 := (Nat.log2_lt hnum).mpr hsize
  have hfloor := floorLog2_le num den
  have hleading := two_pow_floorLog2_le hnum den
  unfold unitExponent leastExponent
  generalize floorLog2 num den = k at hfloor hleading
  by_cases hsmall : k - 52 < -1074
  · exact ⟨1074, by omega, by omega, .inl rfl⟩
  · refine ⟨(52 - k).toNat, by omega, by omega, .inr ?_⟩
    have hsplit : 52 = k.toNat + (52 - k.toNat) := by omega
    have hshift : (52 - k).toNat = (-k).toNat + (52 - k.toNat) := by omega
    calc den * 2 ^ 52
      _ = den * 2 ^ k.toNat * 2 ^ (52 - k.toNat) := by rw [mul_assoc, ← pow_add, ← hsplit]
      _ ≤ num * 2 ^ (-k).toNat * 2 ^ (52 - k.toNat) := Nat.mul_le_mul_right _ hleading
      _ = num * 2 ^ (52 - k).toNat := by rw [mul_assoc, ← pow_add, ← hshift]

/-- The double nearest to a quotient is a fraction that is rounded to one of so many parts. -/
theorem exists_nearest?_eq_of_unit {shift : ℕ} (hnum : num ≠ 0) (hshift : 1 ≤ shift)
    (hunit : unitExponent num den = -shift) :
    ∃ v : Exact, nearest? num den = some v ∧
      v.round = (roundHalfEven (roundHalfEven (num * 2 ^ shift) den) (2 ^ shift) : ℕ) := by
  have hdown : (-(shift : ℤ)).toNat = 0 := by omega
  have hup : (- -(shift : ℤ)).toNat = shift := by omega
  have hnearest : nearest? num den =
      let m := roundHalfEven (num * 2 ^ shift) den
      let v : Exact := if m = 2 ^ 53 then ⟨false, 2 ^ 52, -shift + 1⟩ else ⟨false, m, -shift⟩
      if v.exponent ≤ 971 then some v else none := by
    unfold nearest?
    simp only [hunit, hdown, hup, if_neg hnum, Nat.pow_eq, pow_zero, mul_one]
  rw [hnearest]
  generalize roundHalfEven (num * 2 ^ shift) den = m
  simp only
  split_ifs with hcarry hfits hfits
  · have hdown' : (-(shift : ℤ) + 1).toNat = 0 := by omega
    have hup' : (-(-(shift : ℤ) + 1)).toNat = shift - 1 := by omega
    have hhalved : 2 ^ shift = 2 ^ (shift - 1) * 2 := by rw [← pow_succ, Nat.sub_add_cancel hshift]
    refine ⟨_, rfl, ?_⟩
    rw [Exact.round, Exact.ratio]
    simp only [hdown', hup', Nat.pow_eq, pow_zero, mul_one, Bool.false_eq_true, if_false]
    rw [hcarry, hhalved, show 2 ^ 53 = 2 ^ 52 * 2 from rfl,
      roundHalfEven_mul _ (Nat.two_pow_pos _) two_pos]
  · simp only at hfits
    omega
  · refine ⟨_, rfl, ?_⟩
    rw [Exact.round, Exact.ratio]
    simp only [hdown, hup, Nat.pow_eq, pow_zero, mul_one, Bool.false_eq_true, if_false]
  · simp only at hfits
    omega

/-- A quotient whose numerator lies below `2 ^ 52` is rounded to the nearest integer also if it is
rounded to a double before. -/
theorem exists_nearest?_eq (hnum : num ≠ 0) (hsize : num < 2 ^ 52) (hden : 0 < den) :
    ∃ v : Exact, nearest? num den = some v ∧ IsNearestEven (num / den : ℚ) v.round := by
  obtain ⟨shift, hunit, hshift, hwidth⟩ := exists_unitExponent_eq hnum hsize den
  obtain ⟨v, hv, hround⟩ := exists_nearest?_eq_of_unit hnum hshift hunit
  refine ⟨v, hv, ?_⟩
  rw [hround]
  have hfirst := isNearestEven_roundHalfEven (num * 2 ^ shift) hden
  generalize roundHalfEven (num * 2 ^ shift) den = m at hfirst
  have hsecond := isNearestEven_roundHalfEven m (Nat.two_pow_pos shift)
  by_cases hparts : den < 2 ^ shift
  · refine .of_rounded hden hparts ?_ hfirst hsecond
    exact (Nat.even_pow' (by omega)).mpr even_two
  -- The divisor is so large that both the quotient and its double are next to nothing.
  · have hpower : 2 ^ shift ≤ den := Nat.not_lt.mp hparts
    have hleast : shift = 1074 := by
      refine hwidth.resolve_right fun hleading ↦ ?_
      have hless : num * 2 ^ shift < 2 ^ 52 * den :=
        Nat.mul_lt_mul_of_lt_of_le hsize hpower hden
      rw [mul_comm den] at hleading
      exact absurd hleading (Nat.not_le.mpr hless)
    have hlarge : 2 ^ 53 ≤ 2 ^ shift := Nat.pow_le_pow_right two_pos (by omega)
    have hm : m ≤ num := IsNearestEven.le_of_le hden hpower hfirst
    have hzero := hsecond.unique (IsNearestEven.zero_of_lt (by omega))
    rw [← hzero]
    exact IsNearestEven.zero_of_lt (by omega)

end Binary64

end Cosmac
