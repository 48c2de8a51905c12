import Cosmac.Proofs.Framebuffer.Collision
import Mathlib.Algebra.BigOperators.Group.List.Basic

/-!
# The number of lit pixels

A flip changes the number of lit pixels by one (`Framebuffer.litCount_flip`). So while pixels are
flipped, every place adds one lit pixel unless it collides, and takes one away if it does
(`Framebuffer.exists_litCount_flipAll`).
-/

set_option autoImplicit false

namespace Cosmac

namespace Framebuffer

/-- The lit pixels are counted row by row. -/
theorem litCount_eq (f : Framebuffer) :
    f.litCount = (f.rows.toList.map fun line ↦ line.count true).sum := by
  rw [litCount, snapshot, List.map_map, List.sum_eq_foldr]
  simp only [Function.comp_def, Vector.count_toList]

/-- The lit pixels of a row after one pixel is set. -/
theorem count_set_line {columns : Nat} (pixels : Vector Bool columns) (column : Fin columns)
    (lit : Bool) :
    (pixels.set column lit column.isLt).count true + (pixels.get column).toNat =
      pixels.count true + lit.toNat := by
  have hold : pixels[column.val] = pixels.get column := rfl
  have hcounted : pixels.get column = true → 0 < pixels.count true := by
    intro hlit
    exact Vector.count_pos_iff.mpr (hlit ▸ Vector.getElem_mem column.isLt)
  rw [Vector.count_set, hold]
  cases hlit : pixels.get column with
  | false => cases lit <;> simp
  | true =>
    have := hcounted hlit
    cases lit <;> simp <;> omega

/-- Where a number of a list is replaced, the sum changes by the difference. -/
theorem sum_set_add_getElem (counts : List Nat) (place count : Nat)
    (hplace : place < counts.length) :
    (counts.set place count).sum + counts[place] = counts.sum + count := by
  rw [List.sum_set, if_pos hplace, ← List.sum_take_add_sum_drop counts place,
    List.drop_eq_getElem_cons hplace, List.sum_cons]
  omega

theorem litCount_setPixel (f : Framebuffer) (x y : Int) (lit : Bool) :
    (f.setPixel x y lit).litCount + (f.pixel x y).toNat = f.litCount + lit.toNat := by
  let line := f.rows.get (f.row y)
  let changed := line.set (f.column x) lit (f.column x).isLt
  let counts := f.rows.toList.map fun line ↦ line.count true
  have hrow : (f.row y).val < counts.length := by
    simp [counts]
  have hbefore : counts[(f.row y).val] = line.count true := by
    rw [List.getElem_map]
    rfl
  have hafter : (f.setPixel x y lit).litCount =
      (counts.set (f.row y) (changed.count true)).sum := by
    rw [litCount_eq, setPixel, Vector.toList_set, List.map_set]
  have hsum := sum_set_add_getElem counts (f.row y) (changed.count true) hrow
  have hline : changed.count true + (f.pixel x y).toNat = line.count true + lit.toNat :=
    count_set_line line (f.column x) lit
  rw [hbefore, ← hafter, ← litCount_eq] at hsum
  omega

/-- A flip lights a dark pixel or darkens a lit one. -/
theorem litCount_flip (f : Framebuffer) (x y : Int) :
    (f.flip x y).litCount + 2 * (f.pixel x y).toNat = f.litCount + 1 := by
  have hset : (f.flip x y).litCount + (f.pixel x y).toNat = f.litCount + (!f.pixel x y).toNat :=
    f.litCount_setPixel x y (!f.pixel x y)
  have hbits : (!f.pixel x y).toNat + (f.pixel x y).toNat = 1 := by
    cases f.pixel x y <;> rfl
  omega

/-- Every place adds a lit pixel or takes one away, and something collides exactly if some place
takes one away. -/
theorem exists_litCount_flipAll (f : Framebuffer) (x y : Int) (points : List (Nat × Nat)) :
    ∃ darkened : Nat,
      (f.flipAll x y points).1.litCount + 2 * darkened = f.litCount + points.length ∧
        ((f.flipAll x y points).2 = false ↔ darkened = 0) := by
  induction points generalizing f with
  | nil => exact ⟨0, rfl, iff_of_true rfl rfl⟩
  | cons point rest ih =>
    let left := x + point.1
    let top := y + point.2
    obtain ⟨darkened, hcount, hhit⟩ := ih (f.flip left top)
    have hflip := f.litCount_flip left top
    refine ⟨darkened + (f.pixel left top).toNat, ?_, ?_⟩
    · show ((f.flip left top).flipAll x y rest).1.litCount + _ = _
      rw [List.length_cons]
      omega
    · show (f.pixel left top || ((f.flip left top).flipAll x y rest).2) = false ↔ _
      rw [Bool.or_eq_false_iff, hhit, Nat.add_eq_zero_iff, Bool.toNat_eq_zero, and_comm]

end Framebuffer

end Cosmac
