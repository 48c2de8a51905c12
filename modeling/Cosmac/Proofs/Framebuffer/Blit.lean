import Cosmac.Proofs.Microcode.Devices

/-!
# Pixels under a sprite

Drawing a sprite flips pixels one after the other. `Framebuffer.pixel_flipAll` says what is left in
the end: a pixel has changed if an odd number of the places that were flipped name it. The places of
a sprite are its set bits, each of them once (`Sprite.mem_points`, `Sprite.nodup_points`), so on a
screen that is large enough and dark a sprite in the upper left corner shows exactly itself
(`Framebuffer.pixel_draw_of_dark`).
-/

set_option autoImplicit false

namespace Cosmac

/-! ### Sprites -/

namespace Sprite

/-- Whether a sprite has a bit set in a column and a row. -/
def isSet (sprite : Sprite) (column row : Nat) : Bool :=
  decide (column < 8) && (sprite.getD row 0).toNat.testBit (7 - column)

theorem mem_setColumns {bits : UInt8} {column : Nat} :
    column ∈ setColumns bits ↔ column < 8 ∧ bits.toNat.testBit (7 - column) = true := by
  rw [setColumns, List.mem_filter, List.mem_range]

theorem mem_pointsFrom {sprite : Sprite} {first column row : Nat} :
    (column, row) ∈ pointsFrom first sprite ↔
      first ≤ row ∧ sprite.isSet column (row - first) = true := by
  induction sprite generalizing first with
  | nil => simp [pointsFrom, isSet]
  | cons bits rest ih =>
    have hfirst : (column, row) ∈ (setColumns bits).map (·, first) ↔
        row = first ∧ isSet (bits :: rest) column 0 = true := by
      rw [List.mem_map]
      constructor
      · rintro ⟨place, hplace, hsame⟩
        cases hsame
        obtain ⟨hcolumn, hbit⟩ := mem_setColumns.mp hplace
        exact ⟨rfl, Bool.and_eq_true_iff.mpr ⟨decide_eq_true hcolumn, hbit⟩⟩
      · rintro ⟨rfl, hset⟩
        obtain ⟨hcolumn, hbit⟩ := Bool.and_eq_true_iff.mp hset
        exact ⟨column, mem_setColumns.mpr ⟨of_decide_eq_true hcolumn, hbit⟩, rfl⟩
    rw [pointsFrom, List.mem_append, ih, hfirst]
    obtain hbefore | rfl | hafter := Nat.lt_trichotomy row first
    · simp [Nat.not_le.mpr hbefore, hbefore.ne, Nat.not_le.mpr (Nat.lt_succ_of_lt hbefore)]
    · simp
    · have hnext : row - first = (row - (first + 1)) + 1 := by omega
      simp [hafter.ne', hafter.le, Nat.succ_le_of_lt hafter, hnext, isSet]

/-- The places of a sprite are its set bits. -/
theorem mem_points {sprite : Sprite} {column row : Nat} :
    (column, row) ∈ sprite.points ↔ sprite.isSet column row = true := by
  rw [points, mem_pointsFrom, Nat.sub_zero]
  exact and_iff_right (Nat.zero_le row)

theorem bounds_of_mem_points {sprite : Sprite} {point : Nat × Nat}
    (hpoint : point ∈ sprite.points) : point.1 < 8 ∧ point.2 < sprite.length := by
  obtain ⟨hcolumn, hbit⟩ := Bool.and_eq_true_iff.mp (mem_points.mp hpoint)
  refine ⟨of_decide_eq_true hcolumn, Nat.lt_of_not_le fun hbelow ↦ ?_⟩
  rw [List.getD_eq_default _ _ hbelow] at hbit
  exact absurd hbit (by simp)

theorem nodup_pointsFrom (sprite : Sprite) (first : Nat) : (pointsFrom first sprite).Nodup := by
  induction sprite generalizing first with
  | nil => exact List.nodup_nil
  | cons bits rest ih =>
    have hcolumns : (setColumns bits).Nodup := List.nodup_range.filter _
    refine List.nodup_append'.mpr ⟨hcolumns.map fun _ _ ↦ congrArg Prod.fst, ih _, ?_⟩
    rintro ⟨column, row⟩ hhere hlater
    obtain ⟨place, -, hsame⟩ := List.mem_map.mp hhere
    cases hsame
    exact absurd (mem_pointsFrom.mp hlater).1 (Nat.not_succ_le_self first)

/-- No place of a sprite is flipped twice. -/
theorem nodup_points (sprite : Sprite) : sprite.points.Nodup :=
  nodup_pointsFrom sprite 0

end Sprite

namespace Framebuffer

variable {f : Framebuffer} {x y u v : Int}

/-! ### Single pixels -/

/-- Whether two places are the same pixel. -/
def names (f : Framebuffer) (x y u v : Int) : Bool :=
  x % f.width = u % f.width ∧ y % f.height = v % f.height

theorem names_iff : f.names x y u v = true ↔ f.column x = f.column u ∧ f.row y = f.row v := by
  rw [names, decide_eq_true_iff, Microcode.emod_eq_column, Microcode.emod_eq_column,
    Microcode.emod_eq_row, Microcode.emod_eq_row, Fin.ext_iff, Fin.ext_iff]
  omega

theorem pixel_setPixel (f : Framebuffer) (x y u v : Int) (lit : Bool) :
    (f.setPixel x y lit).pixel u v = if f.names x y u v then lit else f.pixel u v := by
  let line := (f.rows.get (f.row y)).set (f.column x) lit (f.column x).isLt
  have hline : (f.rows.set (f.row y) line (f.row y).isLt).get (f.row v) =
      if (f.row y).val = (f.row v).val then line else f.rows.get (f.row v) :=
    Vector.getElem_set (f.row y).isLt (f.row v).isLt
  have hpixel : line.get (f.column u) =
      if (f.column x).val = (f.column u).val then lit
      else (f.rows.get (f.row y)).get (f.column u) :=
    Vector.getElem_set (f.column x).isLt (f.column u).isLt
  show ((f.rows.set (f.row y) line (f.row y).isLt).get (f.row v)).get (f.column u) = _
  rw [hline]
  simp only [names_iff, Fin.ext_iff, pixel]
  by_cases hrow : (f.row y).val = (f.row v).val
  · rw [if_pos hrow, hpixel, Fin.ext hrow]
    simp only [and_true]
  · rw [if_neg hrow, if_neg fun hsame ↦ hrow hsame.2]

/-- Every pixel of a screen that is cleared is dark. -/
theorem pixel_clear (f : Framebuffer) (u v : Int) : f.clear.pixel u v = false := by
  have hline : f.clear.rows.get (f.row v) = Vector.replicate f.width false :=
    Vector.getElem_replicate (f.row v).isLt
  show (f.clear.rows.get (f.row v)).get (f.column u) = false
  rw [hline]
  exact Vector.getElem_replicate (f.column u).isLt

theorem pixel_flip (f : Framebuffer) (x y u v : Int) :
    (f.flip x y).pixel u v = (f.pixel u v ^^ f.names x y u v) := by
  rw [flip, pixel_setPixel]
  cases hnames : f.names x y u v with
  | false => simp
  | true =>
    obtain ⟨hcolumn, hrow⟩ := names_iff.mp hnames
    have hsame : f.pixel x y = f.pixel u v := by rw [pixel, pixel, hcolumn, hrow]
    simp [hsame]

/-! ### Sprites on the screen -/

/-- How many of the given places, relative to a corner, are a pixel. -/
def hits (f : Framebuffer) (x y : Int) (points : List (Nat × Nat)) (u v : Int) : Nat :=
  points.countP fun point ↦ f.names (x + point.1) (y + point.2) u v

theorem hits_cons (f : Framebuffer) (x y : Int) (point : Nat × Nat) (rest : List (Nat × Nat))
    (u v : Int) :
    f.hits x y (point :: rest) u v =
      f.hits x y rest u v + (f.names (x + point.1) (y + point.2) u v).toNat := by
  rw [hits, List.countP_cons, Bool.toNat, Bool.cond_eq_ite]
  rfl

theorem size_flipAll (f : Framebuffer) (x y : Int) (points : List (Nat × Nat)) :
    (f.flipAll x y points).1.width = f.width ∧ (f.flipAll x y points).1.height = f.height := by
  induction points generalizing f with
  | nil => exact ⟨rfl, rfl⟩
  | cons point rest ih => exact ih (f.flip (x + point.1) (y + point.2))

/-- Drawing keeps the size of the screen. -/
theorem size_draw (f : Framebuffer) (x y : Int) (sprite : Sprite) :
    (f.draw x y sprite).1.width = f.width ∧ (f.draw x y sprite).1.height = f.height :=
  f.size_flipAll x y sprite.points

/-- A pixel changes if it is flipped an odd number of times. -/
theorem pixel_flipAll (f : Framebuffer) (x y : Int) (points : List (Nat × Nat)) (u v : Int) :
    (f.flipAll x y points).1.pixel u v =
      (f.pixel u v ^^ decide (f.hits x y points u v % 2 = 1)) := by
  induction points generalizing f with
  | nil => simp [flipAll, hits]
  | cons point rest ih =>
    have hrest : (f.flip (x + point.1) (y + point.2)).hits x y rest u v = f.hits x y rest u v := rfl
    rw [flipAll]
    show ((f.flip (x + point.1) (y + point.2)).flipAll x y rest).1.pixel u v = _
    rw [ih, pixel_flip, hrest, hits_cons]
    cases f.names (x + point.1) (y + point.2) u v with
    | false => simp
    | true =>
      have hodd : decide ((f.hits x y rest u v + 1) % 2 = 1) =
          !decide (f.hits x y rest u v % 2 = 1) := by
        rw [← decide_not, decide_eq_decide]
        omega
      simp [hodd]

/-- A sprite in the upper left corner of a dark screen that is large enough shows exactly itself. -/
theorem pixel_draw_of_dark {sprite : Sprite} (hdark : ∀ u v, f.pixel u v = false)
    (hwidth : 8 ≤ f.width) (hheight : sprite.length ≤ f.height) {column row : Nat}
    (hcolumn : column < f.width) (hrow : row < f.height) :
    (f.draw 0 0 sprite).1.pixel column row = sprite.isSet column row := by
  have hnames (point : Nat × Nat) (hpoint : point ∈ sprite.points) :
      f.names (0 + point.1) (0 + point.2) column row = true ↔ (point == (column, row)) = true := by
    obtain ⟨hleft, htop⟩ := Sprite.bounds_of_mem_points hpoint
    rw [beq_iff_eq, Prod.ext_iff, names, decide_eq_true_iff, zero_add, zero_add,
      ← Int.natCast_mod, ← Int.natCast_mod, ← Int.natCast_mod, ← Int.natCast_mod,
      Nat.mod_eq_of_lt (hleft.trans_le hwidth), Nat.mod_eq_of_lt hcolumn,
      Nat.mod_eq_of_lt (htop.trans_le hheight), Nat.mod_eq_of_lt hrow, Int.natCast_inj,
      Int.natCast_inj]
  have hhits : f.hits 0 0 sprite.points column row = sprite.points.count (column, row) :=
    List.countP_congr hnames
  rw [draw, pixel_flipAll, hdark, Bool.false_xor, hhits]
  cases hset : sprite.isSet column row with
  | true =>
    rw [List.count_eq_one_of_mem sprite.nodup_points (Sprite.mem_points.mpr hset)]
    rfl
  | false =>
    rw [List.count_eq_zero_of_not_mem fun hmem ↦ ?_]
    · rfl
    · rw [Sprite.mem_points, hset] at hmem
      cases hmem

end Framebuffer

end Cosmac
