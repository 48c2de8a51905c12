import Cosmac.Proofs.Framebuffer.Collision
import Cosmac.Proofs.Microcode.Simulation
import Mathlib.Algebra.BigOperators.Group.List.Basic
import Mathlib.Data.Finset.Prod

/-!
# Bits that hit a pixel

A host may give the rows of a sprite as any integers, of which the low eight bits are drawn
(`Sprite.isSet_ofIntegers`). `Framebuffer.bitHits` counts the bits of such rows that lie over a
pixel, and these are the hits of the places that drawing flips (`Framebuffer.bitHits_eq`).
-/

set_option autoImplicit false

namespace Cosmac

/-! ### Rows as integers -/

namespace Sprite

variable {rows : List Int} {column row : Nat}

/-- The bits of a byte of an integer are the low bits of the integer. -/
theorem testBit_ofInt (number : Int) {place : Nat} (hplace : place < 8) :
    (UInt8.ofInt number).toNat.testBit place = number.testBit place := by
  cases number with
  | ofNat magnitude =>
    have hbyte : (magnitude : Int) % 256 = ((UInt8.ofInt (Int.ofNat magnitude)).toNat : Int) :=
      Microcode.emod_eq_ofInt magnitude
    have hlow : (UInt8.ofInt (Int.ofNat magnitude)).toNat = magnitude % 2 ^ 8 := by omega
    rw [hlow, Nat.testBit_mod_two_pow, decide_eq_true hplace, Bool.true_and]
    rfl
  | negSucc magnitude =>
    have hbyte := Microcode.emod_eq_ofInt (Int.negSucc magnitude)
    have hlow : (UInt8.ofInt (Int.negSucc magnitude)).toNat = 2 ^ 8 - (magnitude % 2 ^ 8 + 1) := by
      omega
    rw [hlow, Nat.testBit_two_pow_sub_succ (Nat.mod_lt _ (by decide)), Nat.testBit_mod_two_pow,
      decide_eq_true hplace, Bool.true_and, Bool.true_and]
    rfl

/-- The set bits of a sprite are the low bits of its rows, the highest on the left. -/
theorem isSet_ofIntegers :
    (ofIntegers rows).isSet column row = true ↔
      row < rows.length ∧ column < 8 ∧ (rows.getD row 0).testBit (7 - column) = true := by
  have hrow : (ofIntegers rows).getD row 0 = UInt8.ofInt (rows.getD row 0) :=
    List.getD_map rows 0 UInt8.ofInt
  rw [isSet, hrow, testBit_ofInt _ (by omega), Bool.and_eq_true, decide_eq_true_iff]
  constructor
  · rintro ⟨hcolumn, hbit⟩
    refine ⟨Nat.lt_of_not_le fun hbelow ↦ ?_, hcolumn, hbit⟩
    rw [List.getD_eq_default _ _ hbelow] at hbit
    simp [Int.testBit] at hbit
  · rintro ⟨-, hset⟩
    exact hset

/-- The number of set bits in the low byte of an integer. -/
def setBits (row : Int) : Nat :=
  (List.range 8).countP row.testBit

@[simp]
theorem length_ofIntegers (rows : List Int) : (ofIntegers rows).length = rows.length :=
  List.length_map UInt8.ofInt

theorem ofIntegers_append (rows others : List Int) :
    ofIntegers (rows ++ others) = ofIntegers rows ++ ofIntegers others :=
  List.map_append

theorem length_setColumns (row : Int) :
    (setColumns (UInt8.ofInt row)).length = setBits row := by
  have hreversed : (List.range 8).map (7 - ·) = (List.range 8).reverse := by decide
  calc (setColumns (UInt8.ofInt row)).length
    _ = (List.range 8).countP fun column ↦ (UInt8.ofInt row).toNat.testBit (7 - column) :=
        List.countP_eq_length_filter.symm
    _ = ((List.range 8).map (7 - ·)).countP (UInt8.ofInt row).toNat.testBit :=
        List.countP_map.symm
    _ = (List.range 8).countP (UInt8.ofInt row).toNat.testBit := by
        rw [hreversed, List.countP_reverse]
    _ = setBits row :=
        List.countP_congr fun place hplace ↦ by rw [testBit_ofInt row (List.mem_range.mp hplace)]

/-- A sprite has as many places as its rows have set bits. -/
theorem length_pointsFrom (rows : List Int) (first : Nat) :
    (pointsFrom first (ofIntegers rows)).length = (rows.map setBits).sum := by
  induction rows generalizing first with
  | nil => rfl
  | cons row rest ih =>
    show ((setColumns (UInt8.ofInt row)).map (·, first) ++
      pointsFrom (first + 1) (ofIntegers rest)).length = _
    rw [List.length_append, List.length_map, length_setColumns, ih, List.map_cons, List.sum_cons]

/-- A sprite has places exactly if some low bit of a row is set. -/
theorem points_ne_nil_iff :
    (ofIntegers rows).points ≠ [] ↔ ∃ row ∈ rows, ∃ place < 8, row.testBit place = true := by
  have hrow (row : Int) : 0 < setBits row ↔ ∃ place < 8, row.testBit place = true := by
    simp only [setBits, List.countP_pos_iff, List.mem_range]
  rw [← List.length_pos_iff, points, length_pointsFrom, List.sum_pos_iff_exists_pos_nat]
  simp only [List.mem_map, exists_exists_and_eq_and, hrow]

/-- The lower rows of a sprite are drawn below the upper ones. -/
theorem pointsFrom_append (upper lower : Sprite) (first : Nat) :
    pointsFrom first (upper ++ lower) =
      pointsFrom first upper ++ pointsFrom (first + upper.length) lower := by
  induction upper generalizing first with
  | nil => rfl
  | cons bits rest ih =>
    rw [List.cons_append, pointsFrom, ih, pointsFrom, List.append_assoc, List.length_cons,
      Nat.add_right_comm, Nat.add_assoc]

/-- Rows that are counted from a later number have their places further down. -/
theorem pointsFrom_add (sprite : Sprite) (first offset : Nat) :
    pointsFrom (first + offset) sprite =
      (pointsFrom first sprite).map fun point ↦ (point.1, point.2 + offset) := by
  induction sprite generalizing first with
  | nil => rfl
  | cons bits rest ih =>
    rw [pointsFrom, pointsFrom, List.map_append, List.map_map, Nat.add_right_comm, ih]
    rfl

end Sprite

namespace Framebuffer

/-! ### Bits that hit a pixel -/

/-- How often the rows of a sprite hit a pixel: the number of columns and rows of the sprite in
which a bit is set and which lie over the pixel. A row counts with its low eight bits, the highest
on the left, and places wrap around the edges of the screen. -/
def bitHits (f : Framebuffer) (x y : Int) (rows : List Int) (column : Fin f.width)
    (row : Fin f.height) : Nat :=
  ((Finset.range 8 ×ˢ Finset.range rows.length).filter fun place ↦
    (rows.getD place.2 0).testBit (7 - place.1) = true ∧
      (x + place.1) % f.width = column.val ∧ (y + place.2) % f.height = row.val).card

theorem names_val {f : Framebuffer} {x y : Int} {column : Fin f.width} {row : Fin f.height} :
    f.names x y column.val row.val = true ↔
      x % f.width = column.val ∧ y % f.height = row.val := by
  rw [names_iff, column_val, row_val, Microcode.emod_eq_column, Microcode.emod_eq_row,
    Int.natCast_inj, Int.natCast_inj, Fin.ext_iff, Fin.ext_iff]

/-- The bits that hit a pixel are the places of the sprite that are the pixel. -/
theorem bitHits_eq (f : Framebuffer) (x y : Int) (rows : List Int) (column : Fin f.width)
    (row : Fin f.height) :
    f.bitHits x y rows column row =
      f.hits x y (Sprite.ofIntegers rows).points column.val row.val := by
  let points := (Sprite.ofIntegers rows).points
  let covers (point : Nat × Nat) : Bool :=
    f.names (x + point.1) (y + point.2) column.val row.val
  have hnodup : (points.filter covers).Nodup := (Sprite.nodup_points _).filter _
  rw [hits, List.countP_eq_length_filter, ← List.toFinset_card_of_nodup hnodup, bitHits]
  congr 1
  ext place
  obtain ⟨left, top⟩ := place
  rw [Finset.mem_filter, Finset.mem_product, Finset.mem_range, Finset.mem_range, List.mem_toFinset,
    List.mem_filter, Sprite.mem_points, Sprite.isSet_ofIntegers, names_val]
  tauto

end Framebuffer

end Cosmac
