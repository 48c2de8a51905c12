import Cosmac.Config.Basic
import Cosmac.Proofs.Number.Rounding

/-!
# Steps between ticks

A configuration divides its rates in doubles and rounds the quotient. For rates below `2 ^ 52` this
is the exact quotient rounded once (`Config.steps_per_tick_nearest`), so that a host misses the rate
of instructions by at most half an instruction per tick.
-/

set_option autoImplicit false

namespace Cosmac

namespace Config

variable {c : Config} {a b : ℤ}

theorem exists_stepsPerTick_eq (hrate : c.instructionsPerSecond.integer? = some a)
    (htimer : c.timerRate.integer? = some b) (ha : 0 < a) (hsize : a < 2 ^ 52) (hb : 0 < b) :
    ∃ nearest : ℤ, IsNearestEven (a / b : ℚ) nearest ∧ c.stepsPerTick = .ok (max 1 nearest) := by
  lift a to ℕ using ha.le
  lift b to ℕ using hb.le
  have hnum : a ≠ 0 := by omega
  have hden : 0 < b := by omega
  obtain ⟨v, hv, hnearest⟩ := Binary64.exists_nearest?_eq hnum (by exact_mod_cast hsize) hden
  refine ⟨v.round, hnearest, ?_⟩
  have hquotient :
      Quantity.roundedQuotient c.instructionsPerSecond c.timerRate = .ok v.round := by
    simp only [Quantity.roundedQuotient, hrate, htimer, Int.natAbs_natCast, hv]
  rw [stepsPerTick, hquotient]
  rfl

/-- The nearest integer to a quotient that is not below one is positive. -/
theorem one_le_of_isNearestEven {q : ℚ} {n : ℤ} (hn : IsNearestEven q n) (hq : 1 ≤ q) : 1 ≤ n := by
  by_contra hsmall
  have hzero : (n : ℚ) ≤ 0 := by exact_mod_cast Int.lt_add_one_iff.mp (not_le.mp hsmall)
  have hnear := (abs_le.mp hn.abs_sub_le_half).2
  linarith

/-- The number of instructions between two ticks. It is the one integer that is nearest to the exact
quotient of the rates, a half going to the even neighbour, but at least one, although the quotient
is rounded to a double on the way. So many instructions per tick come within half an instruction per
tick of the rate, where there is at least one instruction for each tick. -/
theorem steps_per_tick_nearest (c : Config) {a b : ℤ}
    (hrate : c.instructionsPerSecond.integer? = some a)
    (htimer : c.timerRate.integer? = some b) (ha : 0 < a) (hsize : a < 2 ^ 52) (hb : 0 < b) :
    ∃ nearest steps : ℤ, (∀ k : ℤ, IsNearestEven (a / b : ℚ) k ↔ k = nearest) ∧
      steps = max 1 nearest ∧ c.stepsPerTick = .ok steps ∧
      (b ≤ a → |(steps : ℚ) * b - a| ≤ b / 2) := by
  obtain ⟨nearest, hnearest, hsteps⟩ := exists_stepsPerTick_eq hrate htimer ha hsize hb
  refine ⟨nearest, max 1 nearest, fun k ↦ ⟨hnearest.unique, fun hk ↦ hk ▸ hnearest⟩, rfl, hsteps,
    fun hle ↦ ?_⟩
  have hpositive : (0 : ℚ) < b := Int.cast_pos.mpr hb
  have hleast : 1 ≤ nearest := by
    refine one_le_of_isNearestEven hnearest ((one_le_div hpositive).mpr ?_)
    exact_mod_cast hle
  have hmissed : (nearest : ℚ) * b - a = -((a / b - nearest) * b) := by
    field_simp
    ring
  rw [max_eq_right hleast, hmissed, abs_neg, abs_mul, abs_of_pos hpositive]
  calc |(a / b - nearest : ℚ)| * b
    _ ≤ 1 / 2 * b := mul_le_mul_of_nonneg_right hnearest.abs_sub_le_half hpositive.le
    _ = b / 2 := by ring

/-- Nine hundred and ninety instructions to sixty ticks are sixteen and a half for each. Half of
them goes to the even neighbour. -/
theorem steps_per_tick_nearest_of_half :
    let c := preset "half" 990
    c.instructionsPerSecond.integer? = some 990 ∧ c.timerRate.integer? = some 60 ∧
      c.stepsPerTick = .ok 16 := by
  obtain ⟨nearest, steps, hnearest, rfl, hsteps, -⟩ := (preset "half" 990).steps_per_tick_nearest
    (a := 990) (b := 60) rfl rfl (by norm_num) (by norm_num) (by norm_num)
  have hhalf : IsNearestEven ((990 : ℤ) / (60 : ℤ) : ℚ) 16 := by
    refine .of_abs_sub_le ?_ fun _ ↦ by decide
    norm_num
  rw [← (hnearest 16).mp hhalf] at hsteps
  exact ⟨rfl, rfl, hsteps⟩

end Config

end Cosmac
