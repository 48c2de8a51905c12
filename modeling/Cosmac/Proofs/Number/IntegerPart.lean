import Cosmac.Number.Binary64
import Mathlib.Algebra.Order.Floor.Semifield
import Mathlib.Data.Rat.Floor
import Mathlib.Tactic.Positivity

/-!
# Integer parts

A finite double is worth a rational number (`Binary64.Exact.value`), and what is left of it without
its fraction is the integer part of that number (`Binary64.Exact.truncate_eq`). The integer part
lies towards zero, so that all numbers between minus one and one have zero: above minus one it is
the floor in the natural numbers (`integerPart_eq_natCast_iff`).
-/

set_option autoImplicit false

namespace Cosmac

/-- The integer part of a number, towards zero. -/
def integerPart (q : ℚ) : ℤ :=
  if 0 ≤ q then ⌊q⌋ else ⌈q⌉

theorem integerPart_of_nonneg {q : ℚ} (hq : 0 ≤ q) : integerPart q = ⌊q⌋₊ :=
  (if_pos hq).trans (Int.natCast_floor_eq_floor hq).symm

@[simp]
theorem integerPart_intCast (n : ℤ) : integerPart n = n := by
  rw [integerPart, Int.floor_intCast, Int.ceil_intCast, ite_self]

theorem integerPart_neg (q : ℚ) : integerPart (-q) = -integerPart q := by
  rcases lt_trichotomy q 0 with hneg | rfl | hpos
  · rw [integerPart, if_pos (by linarith), integerPart, if_neg hneg.not_ge, Int.floor_neg]
  · simp [integerPart]
  · rw [integerPart, if_neg (by linarith), integerPart, if_pos hpos.le, Int.ceil_neg]

/-- Which numbers have a natural number as their integer part. -/
theorem integerPart_eq_natCast_iff {q : ℚ} {n : ℕ} :
    integerPart q = n ↔ -1 < q ∧ ⌊q⌋₊ = n := by
  by_cases hq : 0 ≤ q
  · rw [integerPart_of_nonneg hq, Nat.cast_inj]
    exact (and_iff_right (by linarith)).symm
  -- Below zero both sides say that the number is above minus one and that `n` is zero.
  · have hneg : q < 0 := not_le.mp hq
    rw [integerPart, if_neg hq, Int.ceil_eq_iff, Nat.floor_of_nonpos hneg.le, Int.cast_natCast]
    constructor
    · rintro ⟨hbelow, -⟩
      have hn : n = 0 := by
        have hsmall : (n : ℚ) < 1 := by linarith
        exact Nat.lt_one_iff.mp (by exact_mod_cast hsmall)
      subst hn
      exact ⟨by simpa using hbelow, rfl⟩
    · rintro ⟨habove, rfl⟩
      exact ⟨by simpa using habove, by simpa using hneg.le⟩

namespace Binary64.Exact

/-- The number that an exact value is. -/
def value (v : Exact) : ℚ :=
  (if v.negative then -1 else 1) * (v.mantissa * 2 ^ v.exponent)

theorem ratio_eq (v : Exact) : (v.ratio.1 / v.ratio.2 : ℚ) = v.mantissa * 2 ^ v.exponent := by
  have hpower : (2 : ℚ) ^ v.exponent = 2 ^ v.exponent.toNat / 2 ^ (-v.exponent).toNat := by
    rw [← zpow_natCast, ← zpow_natCast, ← zpow_sub₀ two_ne_zero, Int.toNat_sub_toNat_neg]
  rw [hpower, ratio]
  push_cast [Nat.pow_eq]
  exact mul_div_assoc _ _ _

theorem truncate_eq (v : Exact) : v.truncate = integerPart v.value := by
  have hmagnitude : ((v.ratio.1 / v.ratio.2 : ℕ) : ℤ) =
      integerPart (v.mantissa * 2 ^ v.exponent) := by
    rw [← ratio_eq, integerPart_of_nonneg (by positivity), Nat.floor_div_eq_div]
  rw [truncate, value]
  split_ifs with hnegative
  · rw [neg_one_mul, integerPart_neg, ← hmagnitude]
    rfl
  · rw [one_mul, ← hmagnitude]
    rfl

end Binary64.Exact

end Cosmac
