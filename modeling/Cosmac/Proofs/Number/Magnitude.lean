import Cosmac.Timers.Clock
import Mathlib.Algebra.Group.Nat.Defs
import Mathlib.Tactic.SplitIfs

/-!
# Quantities with doubles

Arithmetic that mixes whole numbers with doubles fails where a whole number is too large for a
double. Numbers below `2 ^ 1023` are not (`Quantity.hasDouble_whole`), and what is combined of two
quantities with doubles, one of them a double itself, is a double again. A reading of a clock is a
double, or a whole number so small that differences of readings have doubles too
(`Quantity.IsTime.exists_subtract_eq`).
-/

set_option autoImplicit false

namespace Cosmac

/-! ### The size of quotients -/

namespace Binary64

variable {num : Nat}

theorem floorLog2_le (num den : Nat) : floorLog2 num den ≤ num.log2 - den.log2 := by
  unfold floorLog2
  simp only
  split_ifs <;> omega

/-- The exponent of the double nearest to a quotient is that of the unit, or one more where the
mantissa is rounded up. -/
theorem nearest?_isSome_of_unit {den : Nat} (hunit : unitExponent num den ≤ 970) :
    (nearest? num den).isSome = true := by
  unfold nearest?
  simp only
  split_ifs <;> first | rfl | (simp only at *; omega)

/-- A quotient is not too large for a double if its numerator has at most 1023 bits. -/
theorem nearest?_isSome {width : Nat} (hwidth : width ≤ 1023) (hnum : num < 2 ^ width) (den : Nat) :
    (nearest? num den).isSome = true := by
  by_cases hzero : num = 0
  · rw [nearest?, if_pos hzero]
    rfl
  · have hlog : num.log2 < width := (Nat.log2_lt hzero).mpr hnum
    have hfloor := floorLog2_le num den
    apply nearest?_isSome_of_unit
    unfold unitExponent leastExponent
    omega

/-- What is above zero does not equal it, so that it can be divided by. -/
theorem le_zero_of_beq_zero {x : Float} (hzero : (x == 0.0) = true) : x ≤ Float.ofInt 0 := by
  rw [show Float.ofInt 0 = 0.0 from rfl]
  change (x.toModel.unpack.compare (Float.toModel 0.0).unpack == some .eq) = true at hzero
  change decide ((x.toModel.unpack.compare (Float.toModel 0.0).unpack).any (·.isLE) = true) = true
  rw [eq_of_beq hzero]
  rfl

/-- The integer part of a finite double has at most 1024 bits. -/
theorem natAbs_truncate_lt {x : Float} {n : Int} (hn : truncate? x = some n) :
    n.natAbs < 2 ^ 1024 := by
  obtain ⟨v, hv, rfl⟩ := Option.map_eq_some_iff.mp hn
  have hsize : v.mantissa < 2 ^ 53 ∧ v.exponent ≤ 971 := by
    unfold finite? leastExponent at hv
    simp only [Nat.pow_eq] at hv
    split_ifs at hv with hspecial hsmall <;> cases hv <;> simp only <;> omega
  have hscaled {width shift : Nat} (hmantissa : v.mantissa < 2 ^ width)
      (hexponent : v.exponent.toNat ≤ shift) : v.ratio.1 < 2 ^ (width + shift) := by
    rw [pow_add]
    exact Nat.mul_lt_mul_of_lt_of_le hmantissa (Nat.pow_le_pow_right (by decide) hexponent)
      (Nat.two_pow_pos shift)
  have hratio : v.ratio.1 < 2 ^ (53 + 971) := hscaled hsize.1 (Int.toNat_le.mpr hsize.2)
  rw [show 53 + 971 = 1024 from rfl] at hratio
  have hquotient : v.ratio.1 / v.ratio.2 < 2 ^ 1024 :=
    Nat.lt_of_le_of_lt (Nat.div_le_self _ _) hratio
  have hmagnitude : v.truncate.natAbs = v.ratio.1 / v.ratio.2 := by
    unfold Exact.truncate
    simp only
    split_ifs
    · rw [Int.natAbs_neg]
      rfl
    · rfl
  rw [hmagnitude]
  exact hquotient

end Binary64

namespace Quantity

variable {a b : Quantity}

/-! ### Quantities with doubles -/

theorem exists_eq_real (hinteger : a.integer? = none) : ∃ x : Float, a = real x := by
  cases a with
  | real x => exact ⟨x, rfl⟩
  | whole | flag => cases hinteger

/-- Whether there is a double nearest to a quantity. -/
def HasDouble (q : Quantity) : Prop :=
  ∃ x : Float, q.toFloat = .ok x

theorem hasDouble_real (x : Float) : (real x).HasDouble :=
  ⟨x, rfl⟩

theorem hasDouble_of_integer {n : Int} (hinteger : a.integer? = some n)
    (hn : n.natAbs < 2 ^ 1023) : a.HasDouble := by
  obtain ⟨v, hv⟩ := Option.isSome_iff_exists.mp (Binary64.nearest?_isSome (Nat.le_refl 1023) hn 1)
  refine ⟨{ v with negative := n < 0 }.toFloat, ?_⟩
  simp only [toFloat, hinteger, Binary64.ofInt?, hv, Option.map_some]

theorem hasDouble_whole {n : Nat} (hn : n < 2 ^ 1023) : (whole n).HasDouble :=
  hasDouble_of_integer rfl (by rwa [Int.natAbs_natCast])

section Combine

variable (onWhole : Int → Int → Int) (onReal : Float → Float → Float)

theorem exists_combine_real (ha : a.HasDouble) (y : Float) :
    ∃ z : Float, combine onWhole onReal a (real y) = .ok (real z) := by
  obtain ⟨x, hx⟩ := ha
  refine ⟨onReal x y, ?_⟩
  cases a <;> (rw [combine, hx]; rfl)

theorem exists_real_combine (x : Float) (hb : b.HasDouble) :
    ∃ z : Float, combine onWhole onReal (real x) b = .ok (real z) := by
  obtain ⟨y, hy⟩ := hb
  refine ⟨onReal x y, ?_⟩
  cases b <;> (rw [combine, hy]; rfl)

end Combine

/-- A whole number below `2 ^ 1023` can be divided by a double that is not zero. -/
theorem exists_divide_real {n : Nat} (hn : n < 2 ^ 1023) {y : Float} (hy : (y == 0.0) = false) :
    ∃ z : Float, divide (whole n) (real y) = .ok (real z) := by
  obtain ⟨x, hx⟩ := hasDouble_whole hn
  refine ⟨x / y, ?_⟩
  have hquotient : Binary64.divide x y = .ok (x / y) := by
    rw [Binary64.divide, hy]
    rfl
  rw [divide, hx]
  change (do return real (← Binary64.divide x y)) = _
  rw [hquotient]
  rfl

/-- A whole number below `2 ^ 1023` can be divided by what is above zero. -/
theorem exists_divide_eq {n : Nat} (hn : n < 2 ^ 1023) (hb : b.HasDouble)
    (hpositive : b.atMost 0 = false) : ∃ z : Float, divide (whole n) b = .ok (real z) := by
  cases hinteger : b.integer? with
  | some d =>
    have hd : d ≠ 0 := by
      simp only [atMost, hinteger, decide_eq_false_iff_not] at hpositive
      omega
    obtain ⟨v, hv⟩ := Option.isSome_iff_exists.mp
      (Binary64.nearest?_isSome (Nat.le_refl 1023) hn d.natAbs)
    refine ⟨{ v with negative := ((n : Int) < 0) != (d < 0) }.toFloat, ?_⟩
    rw [divide, hinteger]
    simp only [integer?, Int.natAbs_natCast, hv, if_neg hd]
    rfl
  | none =>
    obtain ⟨y, rfl⟩ := exists_eq_real hinteger
    exact exists_divide_real hn (Bool.eq_false_iff.mpr fun hzero ↦
      of_decide_eq_false hpositive (Binary64.le_zero_of_beq_zero hzero))

/-! ### Times -/

/-- Whether a clock may show a quantity: it is a double, or a whole number so small that the
difference of two such numbers has a double. -/
def IsTime (q : Quantity) : Prop :=
  ∀ n : Int, q.integer? = some n → n.natAbs < 2 ^ 1022

theorem isTime_real (x : Float) : (real x).IsTime :=
  fun _ hinteger ↦ nomatch hinteger

namespace IsTime

theorem hasDouble (ha : a.IsTime) : a.HasDouble := by
  cases hinteger : a.integer? with
  | some n =>
    have hn := ha n hinteger
    exact hasDouble_of_integer hinteger (by omega)
  | none =>
    obtain ⟨x, rfl⟩ := exists_eq_real hinteger
    exact hasDouble_real x

/-- The difference of two times has a double. -/
theorem exists_subtract_eq (ha : a.IsTime) (hb : b.IsTime) :
    ∃ q : Quantity, ClockNumber.subtract a b = .ok q ∧ q.HasDouble := by
  change ∃ q, combine (· - ·) (· - ·) a b = .ok q ∧ q.HasDouble
  cases ha' : a.integer? with
  | none =>
    obtain ⟨x, rfl⟩ := exists_eq_real ha'
    obtain ⟨z, hz⟩ := exists_real_combine (· - ·) (· - ·) x hb.hasDouble
    exact ⟨real z, hz, hasDouble_real z⟩
  | some m =>
    cases hb' : b.integer? with
    | none =>
      obtain ⟨y, rfl⟩ := exists_eq_real hb'
      obtain ⟨z, hz⟩ := exists_combine_real (· - ·) (· - ·) ha.hasDouble y
      exact ⟨real z, hz, hasDouble_real z⟩
    | some n =>
      have hm := ha m ha'
      have hn := hb n hb'
      refine ⟨whole (m - n), ?_, hasDouble_of_integer rfl (by omega)⟩
      simp only [combine, ha', hb']

end IsTime

end Quantity

end Cosmac
