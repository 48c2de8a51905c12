import Cosmac.Proofs.Framebuffer.Blit

/-!
# Hits and collisions

What drawing does to a screen depends only on how often each pixel is hit. A pixel changes if it is
hit an odd number of times (`Framebuffer.pixel_flipAll`), and a collision is told of unless every
pixel is dark and hit at most once, or lit and not hit at all
(`Framebuffer.flipAll_snd_eq_false_iff`). So two ways of drawing that hit the pixels equally often
have the same result (`Framebuffer.flipAll_eq_of_hits`).
-/

set_option autoImplicit false

namespace Cosmac

namespace Framebuffer

variable {f g : Framebuffer} {x y x' y' : Int} {points points' : List (Nat × Nat)}

/-! ### Columns and rows -/

@[simp]
theorem column_val (f : Framebuffer) (column : Fin f.width) : f.column column.val = column := by
  have := Microcode.emod_eq_column f column.val
  have := Int.emod_eq_of_lt (a := column.val) (b := f.width) (by omega) (by omega)
  exact Fin.ext (by omega)

@[simp]
theorem row_val (f : Framebuffer) (row : Fin f.height) : f.row row.val = row := by
  have := Microcode.emod_eq_row f row.val
  have := Int.emod_eq_of_lt (a := row.val) (b := f.height) (by omega) (by omega)
  exact Fin.ext (by omega)

/-- Screens of the same size with the same pixels are equal. -/
theorem eq_of_pixel (hwidth : f.width = g.width) (hheight : f.height = g.height)
    (hpixel : ∀ u v, f.pixel u v = g.pixel u v) : f = g := by
  have hcells (f : Framebuffer) (column : Fin f.width) (row : Fin f.height) :
      f.pixel column.val row.val = (f.rows.get row).get column := by
    rw [pixel, column_val, row_val]
  obtain ⟨width, height, hcolumns, hlines, rows⟩ := f
  obtain ⟨_, _, _, _, others⟩ := g
  cases hwidth
  cases hheight
  have hrows : rows = others := by
    apply Vector.ext
    intro row hrow
    apply Vector.ext
    intro column hcolumn
    have hsame := hpixel column row
    rwa [hcells ⟨width, height, hcolumns, hlines, rows⟩ ⟨column, hcolumn⟩ ⟨row, hrow⟩,
      hcells ⟨width, height, hcolumns, hlines, others⟩ ⟨column, hcolumn⟩ ⟨row, hrow⟩] at hsame
  rw [hrows]

/-! ### Hits -/

/-- A place is hit as often as the pixel in its column and its row. -/
theorem hits_column_row (f : Framebuffer) (x y : Int) (points : List (Nat × Nat)) (u v : Int) :
    f.hits x y points (f.column u).val (f.row v).val = f.hits x y points u v := by
  refine List.countP_congr fun point _ ↦ ?_
  rw [names_iff, names_iff, column_val, row_val]

/-- Hits are counted alike on screens of the same size. -/
theorem hits_congr (hwidth : g.width = f.width) (hheight : g.height = f.height) (x y : Int)
    (points : List (Nat × Nat)) (u v : Int) : g.hits x y points u v = f.hits x y points u v := by
  simp only [hits, names, hwidth, hheight]

theorem hits_append (f : Framebuffer) (x y : Int) (first second : List (Nat × Nat)) (u v : Int) :
    f.hits x y (first ++ second) u v = f.hits x y first u v + f.hits x y second u v :=
  List.countP_append

/-- Nothing is hit exactly if there are no places. -/
theorem hits_eq_zero_iff : (∀ u v, f.hits x y points u v = 0) ↔ points = [] := by
  constructor
  · intro hnone
    refine List.eq_nil_iff_forall_not_mem.mpr fun point hpoint ↦ ?_
    have hmissed := List.countP_eq_zero.mp (hnone (x + point.1) (y + point.2)) point hpoint
    exact hmissed (names_iff.mpr ⟨rfl, rfl⟩)
  · rintro rfl u v
    rfl

/-! ### Collisions -/

/-- Flipping a dark pixel lights it and leaves the others as they are. -/
theorem toNat_pixel_flip_of_dark (hdark : f.pixel x y = false) (u v : Int) :
    ((f.flip x y).pixel u v).toNat = (f.pixel u v).toNat + (f.names x y u v).toNat := by
  rw [pixel_flip]
  cases hnames : f.names x y u v with
  | false => rw [Bool.xor_false, Bool.toNat_false, Nat.add_zero]
  | true =>
    obtain ⟨hcolumn, hrow⟩ := names_iff.mp hnames
    have hsame : f.pixel u v = false := by rw [← hdark, pixel, pixel, hcolumn, hrow]
    rw [hsame]
    rfl

/-- Nothing collides exactly if every pixel is dark and hit at most once, or lit and not hit at
all. -/
theorem flipAll_snd_eq_false_iff :
    (f.flipAll x y points).2 = false ↔
      ∀ u v, (f.pixel u v).toNat + f.hits x y points u v ≤ 1 := by
  induction points generalizing f with
  | nil => exact iff_of_true rfl fun u v ↦ Bool.toNat_le (f.pixel u v)
  | cons point rest ih =>
    obtain ⟨column, row⟩ := point
    have hflip : (f.flipAll x y ((column, row) :: rest)).2 =
        (f.pixel (x + column) (y + row) ||
          ((f.flip (x + column) (y + row)).flipAll x y rest).2) := rfl
    -- What a flip of a dark pixel adds to the screen, it takes from the hits that are to come.
    have hmoved (hdark : f.pixel (x + column) (y + row) = false) (u v : Int) :
        ((f.flip (x + column) (y + row)).pixel u v).toNat +
            (f.flip (x + column) (y + row)).hits x y rest u v =
          (f.pixel u v).toNat + f.hits x y ((column, row) :: rest) u v := by
      have hrest : (f.flip (x + column) (y + row)).hits x y rest u v = f.hits x y rest u v := rfl
      rw [toNat_pixel_flip_of_dark hdark, hits_cons, hrest, Nat.add_assoc,
        Nat.add_comm (f.hits x y rest u v)]
    rw [hflip, Bool.or_eq_false_iff, ih]
    constructor
    · rintro ⟨hdark, hfree⟩ u v
      rw [← hmoved hdark]
      exact hfree u v
    · intro hfree
      have hdark : f.pixel (x + column) (y + row) = false := by
        have hplace := hfree (x + column) (y + row)
        rw [hits_cons, names_iff.mpr ⟨rfl, rfl⟩, Bool.toNat_true] at hplace
        exact Bool.toNat_eq_zero.mp (by omega)
      refine ⟨hdark, fun u v ↦ ?_⟩
      rw [hmoved hdark]
      exact hfree u v

/-- Something collides exactly if some pixel counts more than once, as lit and by its hits. -/
theorem flipAll_snd_eq_true_iff :
    (f.flipAll x y points).2 = true ↔
      ∃ (column : Fin f.width) (row : Fin f.height),
        1 < (f.pixel column.val row.val).toNat + f.hits x y points column.val row.val := by
  rw [← Bool.not_eq_false, flipAll_snd_eq_false_iff]
  push Not
  constructor
  · rintro ⟨u, v, hplace⟩
    refine ⟨f.column u, f.row v, ?_⟩
    rwa [hits_column_row, pixel, column_val, row_val]
  · rintro ⟨column, row, hplace⟩
    exact ⟨column.val, row.val, hplace⟩

/-- Two ways of flipping that hit the pixels equally often have the same result. -/
theorem flipAll_eq_of_hits
    (hhits : ∀ u v, f.hits x y points u v = f.hits x' y' points' u v) :
    f.flipAll x y points = f.flipAll x' y' points' := by
  obtain ⟨hwidth, hheight⟩ := f.size_flipAll x y points
  obtain ⟨hwidth', hheight'⟩ := f.size_flipAll x' y' points'
  refine Prod.ext ?_ ?_
  · refine eq_of_pixel (hwidth.trans hwidth'.symm) (hheight.trans hheight'.symm) fun u v ↦ ?_
    rw [pixel_flipAll, pixel_flipAll, hhits]
  · rw [← Bool.not_inj_iff, Bool.eq_iff_iff, Bool.not_eq_true', Bool.not_eq_true',
      flipAll_snd_eq_false_iff, flipAll_snd_eq_false_iff]
    simp only [hhits]

end Framebuffer

end Cosmac
