import Cosmac.Bench.Picture
import Cosmac.Proofs.Framebuffer.Bits
import Cosmac.Proofs.Framebuffer.Snapshot

/-!
# Pictures of a framebuffer

A picture in two colours shows each cell of a grid as a square of so many pixels each way
(`Framebuffer.cell?_picture`). It is made whenever there is room for it
(`Framebuffer.scaled_of_hasRoom`), and if the colours differ the grid can be told from it
(`Framebuffer.eq_of_picture`).
-/

set_option autoImplicit false

namespace Cosmac

namespace Image

variable {factor : Nat}

/-! ### Enlarged pictures -/

theorem length_stretch {α : Type} (factor : Nat) (xs : List α) :
    (stretch factor xs).length = xs.length * factor := by
  simp only [stretch, List.length_flatMap, List.length_replicate, List.map_const',
    List.sum_replicate_nat]

/-- Each element of a list fills a block of places. -/
theorem getElem?_stretch {α : Type} (hfactor : 0 < factor) (xs : List α) (place : Nat) :
    (stretch factor xs)[place]? = xs[place / factor]? := by
  induction xs generalizing place with
  | nil => simp [stretch]
  | cons x rest ih =>
    change (List.replicate factor x ++ stretch factor rest)[place]? = _
    by_cases hfirst : place < factor
    · rw [List.getElem?_append_left (by simpa using hfirst), List.getElem?_replicate_of_lt hfirst,
        Nat.div_eq_of_lt hfirst]
      rfl
    · rw [List.getElem?_append_right (by simpa using hfirst), List.length_replicate, ih,
        Nat.div_eq_sub_div hfactor (not_lt.mp hfirst)]
      rfl

theorem height_enlarged (image : Image) (factor : Nat) :
    (image.enlarged factor).height = image.height * factor := by
  rw [height, enlarged, length_stretch, List.length_map, height]

theorem cell?_enlarged (hfactor : 0 < factor) (image : Image) (column row : Nat) :
    cell? (image.enlarged factor).rows column row =
      cell? image.rows (column / factor) (row / factor) := by
  rw [cell?, cell?, enlarged, getElem?_stretch hfactor, List.getElem?_map]
  cases image.rows[row / factor]? with
  | none => rfl
  | some line => exact getElem?_stretch hfactor line column

/-! ### Room -/

/-- Whether there is room for a picture of a size. -/
structure HasRoom (width height : Nat) : Prop where
  width_le : width ≤ maxSide
  height_le : height ≤ maxSide
  columns_le : width ≤ maxColumns
  pixels_le : width * height ≤ maxPixels

/-- A picture with an area is enlarged by a whole factor exactly if there is room for it. -/
theorem scaled_eq (image : Image) {zoom : Quantity} {z : Int} (hzoom : zoom.integer? = some z)
    (hz : 1 ≤ z) (hwidth : image.width ≠ 0) (hheight : image.height ≠ 0) :
    (HasRoom (image.width * z.toNat) (image.height * z.toNat) →
      image.scaled zoom = .ok (image.enlarged z.toNat)) ∧
    (¬ HasRoom (image.width * z.toNat) (image.height * z.toNat) →
      ∃ cause, image.scaled zoom = .error cause) := by
  have hfactor : wholeFactor zoom = .ok z.toNat := by
    have hless : zoom.lessThan 1 = false := by
      simp only [Quantity.lessThan, hzoom, decide_eq_false_iff_not]
      omega
    simp only [wholeFactor, checkZoom, hless, hzoom]
    rfl
  have hscaled : image.scaled zoom =
      (checkSize image.width image.height z.toNat).map fun _ ↦ image.enlarged z.toNat := by
    rw [scaled, hfactor]
    rfl
  rw [hscaled, checkSize]
  constructor
  · intro hroom
    have := hroom.width_le
    have := hroom.height_le
    have := hroom.columns_le
    have := hroom.pixels_le
    rw [if_neg (by omega), if_neg (by omega), if_neg (by omega)]
    rfl
  · intro hroom
    split_ifs with hside harea hpixels
    · exact ⟨_, rfl⟩
    · exact ⟨_, rfl⟩
    · exact ⟨_, rfl⟩
    · exact absurd ⟨by omega, by omega, by omega, by omega⟩ hroom

end Image

/-! ### Colours -/

namespace Framebuffer

variable {f g : Framebuffer} {lit dark : Color} {factor : Nat}

theorem width_ofGrid (f : Framebuffer) (lit dark : Color) :
    (Image.ofGrid f.snapshot lit dark).width = f.width := by
  obtain ⟨first, rest, hrows⟩ : ∃ first rest, f.snapshot = first :: rest := by
    refine List.exists_cons_of_ne_nil (List.ne_nil_of_length_pos ?_)
    rw [f.length_snapshot]
    exact f.height_pos
  have hfirst : first.length = f.width :=
    length_of_mem_snapshot (hrows ▸ List.mem_cons_self)
  rw [Image.ofGrid, Image.ofRows, hrows, List.map_cons, List.headD_cons, List.length_map, hfirst]

theorem height_ofGrid (f : Framebuffer) (lit dark : Color) :
    (Image.ofGrid f.snapshot lit dark).height = f.height := by
  rw [Image.ofGrid, Image.ofRows, Image.height, List.length_map, f.length_snapshot]

/-- The pixels of an enlarged picture are the cells that they lie in. -/
theorem cell?_picture (hfactor : 0 < factor) (f : Framebuffer) (lit dark : Color)
    (column row : Nat) :
    cell? ((Image.ofGrid f.snapshot lit dark).enlarged factor).rows column row =
      (cell? f.snapshot (column / factor) (row / factor)).map fun bit ↦
        if bit then lit else dark := by
  rw [Image.cell?_enlarged hfactor]
  exact cell?_map _ f.snapshot _ _

theorem eq_of_colors {a b : Bool} (hcolors : lit ≠ dark)
    (hsame : (if a then lit else dark) = if b then lit else dark) : a = b := by
  cases a with
  | false =>
    cases b with
    | false => rfl
    | true => exact absurd hsame.symm hcolors
  | true =>
    cases b with
    | false => exact absurd hsame hcolors
    | true => rfl

/-- A picture in two different colours tells the framebuffer. -/
theorem eq_of_picture (hfactor : 0 < factor) (hcolors : lit ≠ dark)
    (hsame : (Image.ofGrid f.snapshot lit dark).enlarged factor =
      (Image.ofGrid g.snapshot lit dark).enlarged factor) : f = g := by
  have hwidth : f.width * factor = g.width * factor := by
    rw [← f.width_ofGrid lit dark, ← g.width_ofGrid lit dark]
    exact congrArg Image.width hsame
  have hheight : f.height * factor = g.height * factor := by
    have hrows := congrArg Image.height hsame
    rwa [Image.height_enlarged, Image.height_enlarged, height_ofGrid, height_ofGrid] at hrows
  have hwidth := Nat.eq_of_mul_eq_mul_right hfactor hwidth
  have hheight := Nat.eq_of_mul_eq_mul_right hfactor hheight
  refine eq_of_pixel hwidth hheight fun u v ↦ ?_
  have hcell (f : Framebuffer) :
      cell? ((Image.ofGrid f.snapshot lit dark).enlarged factor).rows
        ((u % f.width).toNat * factor) ((v % f.height).toNat * factor) =
          some (if f.pixel u v then lit else dark) := by
    rw [cell?_picture hfactor, Nat.mul_div_cancel _ hfactor, Nat.mul_div_cancel _ hfactor,
      cell?_snapshot]
    rfl
  have hcolor := hcell f
  rw [hsame, hwidth, hheight, hcell g] at hcolor
  exact (eq_of_colors hcolors (Option.some.inj hcolor)).symm

end Framebuffer

/-! ### Colours of documents -/

namespace Bench

theorem colorPart_toNat (part : UInt8) : colorPart (.int part.toNat) = .ok part := by
  have hpart : colorPart (.int part.toNat) =
      if (part.toNat : Int) < 0 ∨ 256 ≤ (part.toNat : Int)
      then .error (.arithmetic .overflow) else .ok (UInt8.ofInt part.toNat) := rfl
  have hsize := part.toNat_lt
  rw [hpart, if_neg (by omega)]
  refine congrArg Except.ok (UInt8.toNat_inj.mp ?_)
  have hbyte := Microcode.emod_eq_ofInt part.toNat
  omega

/-- The parts of one colour as a grid. -/
def partsGrid (color : Color) : Grid UInt8 :=
  ⟨[3], #[color.red, color.green, color.blue]⟩

theorem colorGrid_colorDocument {limit : Nat} (hlimit : 0 < limit) (color : Color) :
    colorGrid limit (colorDocument color) = .ok (partsGrid color) := by
  have hsides : Grid.sidesOf limit (colorDocument color) = .ok [3] := by
    unfold Grid.sidesOf colorDocument
    simp [Grid.surveyOf, Grid.surveyOfItems, Grid.Survey.meetList, Grid.Survey.meetItem,
      Nat.not_le.mpr hlimit]
  let documents : Array Json :=
    #[.int color.red.toNat, .int color.green.toNat, .int color.blue.toNat]
  have hparts : documents.mapM colorPart = .ok (partsGrid color).items := by
    simp only [documents, List.mapM_toArray, List.mapM_cons, List.mapM_nil, colorPart_toNat]
    rfl
  rw [colorGrid, Grid.ofJson, hsides]
  change (do return (⟨[3], ← documents.mapM colorPart⟩ : Grid UInt8)) = _
  rw [hparts]
  rfl

theorem colorAt_partsGrid (color : Color) (outer : List Nat) :
    colorAt (partsGrid color) outer = color := by
  have hindex (part : Nat) : (partsGrid color).indexAt (outer ++ [part]) = part := by
    simp [partsGrid, Grid.indexAt]
  simp only [colorAt, Grid.at?, hindex]
  rfl

theorem fills_partsGrid (color : Color) (outer : List Nat) :
    (partsGrid color).fills (outer ++ [3]) = true := by
  simp [partsGrid, Grid.fills]

/-- A loop that puts one item in front of its result at each turn gives the items in turn. -/
theorem fst_foldl {α β σ : Type} {turn : List α × σ → β → List α × σ} {item : β → α}
    (hturn : ∀ state x, (turn state x).1 = item x :: state.1) (xs : List β)
    (state : List α × σ) :
    (xs.foldl turn state).1 = (xs.map item).reverse ++ state.1 := by
  induction xs generalizing state with
  | nil => rfl
  | cons x rest ih =>
    rw [List.foldl_cons, ih, hturn, List.map_cons, List.reverse_cons, List.append_assoc]
    rfl

theorem paintRow_const (dark lit : Color) (number : Nat) (bits : List Bool) :
    paintRow (fun _ ↦ dark) (fun _ ↦ lit) number bits =
      bits.map fun bit ↦ if bit then lit else dark := by
  rw [paintRow, fst_foldl, List.append_nil, List.reverse_reverse]
  intro state bit
  cases bit <;> rfl

theorem paintRows_const (dark lit : Color) (pixels : List (List Bool)) :
    paintRows (fun _ _ ↦ dark) (fun _ ↦ lit) pixels =
      pixels.map fun bits ↦ bits.map fun bit ↦ if bit then lit else dark := by
  rw [paintRows, fst_foldl, List.append_nil, List.reverse_reverse]
  exact fun state bits ↦ congrArg (· :: state.1) (paintRow_const dark lit state.2.2 bits)

/-- The picture that a document asks for in two colours is that of the grid. -/
theorem painted_colorDocument (pixels : List (List Bool)) (lit dark : Color) :
    painted pixels (colorDocument dark) (colorDocument lit) =
      .ok (Image.ofGrid pixels lit dark) := by
  have hdark : colorGrid 3 (colorDocument dark) = _ := colorGrid_colorDocument (by decide) dark
  have hlit : colorGrid maxDimensions (colorDocument lit) = _ :=
    colorGrid_colorDocument (by decide) lit
  have hrows : (!(partsGrid dark).fills [pixels.length, (pixels.headD []).length, 3]) = false :=
    congrArg not (fills_partsGrid dark [pixels.length, (pixels.headD []).length])
  have hcount : (!(partsGrid lit).fills [pixels.flatten.count true, 3]) = false :=
    congrArg not (fills_partsGrid lit [pixels.flatten.count true])
  simp only [painted, hdark, hlit, bind, Except.bind, hrows, hcount, Bool.false_eq_true, if_false,
    colorAt_partsGrid, paintRows_const]
  rfl

end Bench

end Cosmac
