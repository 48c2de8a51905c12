import Cosmac.Proofs.Framebuffer.Picture

/-!
# Readers of the screen

However a framebuffer has been drawn on, all that reads it tells of the same grid: its pixels, its
snapshot, the number of lit pixels, its text and its pictures at any scale
(`Framebuffer.readers_agree`).
-/

set_option autoImplicit false

namespace Cosmac

/-- What changes the pixels of a framebuffer. -/
inductive ScreenAction where
  /-- Draws a sprite, given by integers, with its upper left corner at a place. -/
  | draw (x y : Int) (rows : List Int)
  /-- Lights or darkens a pixel. -/
  | set (x y : Int) (lit : Bool)
  /-- Turns every pixel off. -/
  | clear

/-- Whether a picture shows a framebuffer in two colours, each pixel as a square of so many pixels
each way. -/
structure Image.IsPictureOf (picture : Image) (f : Framebuffer) (lit dark : Color)
    (factor : Nat) : Prop where
  width_eq : picture.width = f.width * factor
  height_eq : picture.height = f.height * factor
  cell_eq : ∀ column row : Nat, cell? picture.rows column row =
    (cell? f.snapshot (column / factor) (row / factor)).map fun bit ↦ if bit then lit else dark
  cell_eq_lit_iff : lit ≠ dark → ∀ column row : Nat,
    cell? picture.rows column row = some lit ↔
      cell? f.snapshot (column / factor) (row / factor) = some true

namespace Framebuffer

/-! ### Several actions -/

/-- A framebuffer after an action. -/
def perform (f : Framebuffer) : ScreenAction → Framebuffer
  | .draw x y rows => (f.draw x y (.ofIntegers rows)).1
  | .set x y lit => f.setPixel x y lit
  | .clear => f.clear

/-- A framebuffer after actions one after the other. -/
def performAll (f : Framebuffer) (actions : List ScreenAction) : Framebuffer :=
  actions.foldl perform f

theorem size_perform (f : Framebuffer) (action : ScreenAction) :
    (f.perform action).width = f.width ∧ (f.perform action).height = f.height := by
  cases action with
  | draw x y rows => exact f.size_draw x y (.ofIntegers rows)
  | set | clear => exact ⟨rfl, rfl⟩

/-- Nothing changes the size of a framebuffer. -/
theorem size_performAll (f : Framebuffer) (actions : List ScreenAction) :
    (f.performAll actions).width = f.width ∧ (f.performAll actions).height = f.height := by
  induction actions generalizing f with
  | nil => exact ⟨rfl, rfl⟩
  | cons action rest ih =>
    obtain ⟨hwidth, hheight⟩ := ih (f.perform action)
    exact ⟨hwidth.trans (f.size_perform action).1, hheight.trans (f.size_perform action).2⟩

/-! ### Texts and pictures -/

/-- The grid is read back from the lines of its text by comparing with the symbol of lit pixels. -/
theorem symbolRows_read (f : Framebuffer) {on off : Text.Symbol} (hne : on ≠ off) :
    (f.symbolRows on off).map (fun line ↦ line.map fun symbol ↦ decide (symbol = on)) =
      f.snapshot := by
  have hpixel (bit : Bool) : decide ((if bit then on else off) = on) = bit := by
    cases bit with
    | false => exact decide_eq_false (Ne.symm hne)
    | true => exact decide_eq_true rfl
  rw [symbolRows, List.map_map]
  simp only [Function.comp_def, List.map_map, hpixel, List.map_id']

theorem isPictureOf_enlarged (f : Framebuffer) (lit dark : Color) {factor : Nat}
    (hfactor : 0 < factor) :
    ((Image.ofGrid f.snapshot lit dark).enlarged factor).IsPictureOf f lit dark factor where
  width_eq := congrArg (· * factor) (f.width_ofGrid lit dark)
  height_eq := by
    rw [Image.height_enlarged, f.height_ofGrid]
  cell_eq := cell?_picture hfactor f lit dark
  cell_eq_lit_iff hcolors column row := by
    rw [cell?_picture hfactor]
    cases cell? f.snapshot (column / factor) (row / factor) with
    | none => exact iff_of_false nofun nofun
    | some bit =>
      have hbit : (if bit then lit else dark) = lit ↔ bit = true :=
        ⟨fun hsame ↦ eq_of_colors hcolors hsame, fun hlit ↦ if_pos hlit⟩
      simpa only [Option.map_some, Option.some.injEq] using hbit

/-- All readers of a framebuffer agree, whatever its size and however it was drawn on. A pixel is
the cell of the snapshot in its column and its row after wrapping around the edges, and as many
pixels are lit as cells are. The text in two different symbols that break no line has a line for
each row with a symbol for each column, from which the snapshot is read back. A picture in two
colours, enlarged by a whole factor, shows each cell as a square in its colour. It is made if there
is room for a picture of that size, and in different colours it is the picture of no other
framebuffer. Documents that ask for a picture in these colours get the same one. -/
theorem readers_agree (f : Framebuffer) (actions : List ScreenAction) :
    let g := f.performAll actions
    (g.width = f.width ∧ g.height = f.height) ∧
    (g.snapshot.length = g.height ∧ ∀ line ∈ g.snapshot, line.length = g.width) ∧
    (∀ x y : Int,
      cell? g.snapshot (x % g.width).toNat (y % g.height).toNat = some (g.pixel x y)) ∧
    g.litCount = g.snapshot.flatten.count true ∧
    (∀ on off : Text.Symbol, on.IsProper → off.IsProper → on ≠ off → on ≠ .char '\n' →
      off ≠ .char '\n' →
      let text := g.text (.ofList (Text.spelled [on])) (.ofList (Text.spelled [off]))
      let lines := (Text.symbols text.toList).splitOn (.char '\n')
      (lines.length = g.height ∧ ∀ line ∈ lines, line.length = g.width) ∧
        (lines.map fun line ↦ line.map fun symbol ↦ decide (symbol = on)) = g.snapshot) ∧
    ∀ (zoom : Quantity) (z : Int) (lit dark : Color), zoom.integer? = some z → 1 ≤ z →
      let plain := Image.ofGrid g.snapshot lit dark
      let picture := plain.enlarged z.toNat
      Bench.painted g.snapshot (Bench.colorDocument dark) (Bench.colorDocument lit) = .ok plain ∧
      (Image.HasRoom picture.width picture.height → plain.scaled zoom = .ok picture) ∧
      (¬ Image.HasRoom picture.width picture.height → ∃ cause, plain.scaled zoom = .error cause) ∧
      picture.IsPictureOf g lit dark z.toNat ∧
      (lit ≠ dark → ∀ other : Framebuffer,
        (Image.ofGrid other.snapshot lit dark).enlarged z.toNat = picture → other = g) := by
  intro g
  refine ⟨f.size_performAll actions, ⟨g.length_snapshot, fun _ ↦ length_of_mem_snapshot⟩,
    g.cell?_snapshot, g.litCount_eq_count, ?_, ?_⟩
  · intro on off hon hoff hne hon' hoff' text lines
    have hlines : lines = g.symbolRows on off := g.lines_text hon hoff hon' hoff'
    rw [hlines]
    exact ⟨⟨g.length_symbolRows on off, fun _ ↦ length_of_mem_symbolRows⟩, g.symbolRows_read hne⟩
  · intro zoom z lit dark hzoom hz plain picture
    have hfactor : 0 < z.toNat := by omega
    have hsize : picture.width = plain.width * z.toNat ∧ picture.height = plain.height * z.toNat :=
      ⟨rfl, plain.height_enlarged z.toNat⟩
    have hwidth : plain.width ≠ 0 := (g.width_ofGrid lit dark).trans_ne g.width_pos.ne'
    have hheight : plain.height ≠ 0 := (g.height_ofGrid lit dark).trans_ne g.height_pos.ne'
    obtain ⟨hroom, hnoRoom⟩ := plain.scaled_eq hzoom hz hwidth hheight
    rw [hsize.1, hsize.2]
    exact ⟨Bench.painted_colorDocument g.snapshot lit dark, hroom, hnoRoom,
      g.isPictureOf_enlarged lit dark hfactor, fun hcolors _ ↦ eq_of_picture hfactor hcolors⟩

/-- A framebuffer of three columns and two rows with a sprite over its right edge and a pixel that
is named from beyond its upper edge. -/
theorem readers_agree_of_edges :
    let g := (blank 3 2 (by decide) (by decide)).performAll
      [.set 0 0 true, .clear, .draw 2 1 [0xC0], .set 1 (-2) true]
    let text := g.text (.ofList (Text.spelled [.char '#'])) (.ofList (Text.spelled [.char '.']))
    let plain := Image.ofGrid g.snapshot .white .black
    g.snapshot = [[false, true, false], [true, false, true]] ∧
      cell? g.snapshot 2 1 = some (g.pixel (-4) 5) ∧ g.litCount = 3 ∧
      ((Text.symbols text.toList).splitOn (.char '\n')).map
        (fun line ↦ line.map fun symbol ↦ decide (symbol = .char '#')) = g.snapshot ∧
      plain.scaled (.whole 4) = .ok (plain.enlarged 4) ∧
      (plain.enlarged 4).IsPictureOf g .white .black 4 := by
  intro g text plain
  obtain ⟨⟨hwidth, hheight⟩, -, hpixels, hlit, htext, hpicture⟩ :=
    (blank 3 2 (by decide) (by decide)).readers_agree
      [.set 0 0 true, .clear, .draw 2 1 [0xC0], .set 1 (-2) true]
  obtain ⟨-, hlines⟩ := htext (.char '#') (.char '.') trivial trivial (by decide) (by decide)
    (by decide)
  obtain ⟨-, hmade, -, hshown, -⟩ := hpicture (.whole 4) 4 .white .black rfl (by decide)
  have hsnapshot : g.snapshot = [[false, true, false], [true, false, true]] := by decide
  have hroom : Image.HasRoom (plain.enlarged 4).width (plain.enlarged 4).height :=
    ⟨by decide, by decide, by decide, by decide⟩
  have hpixel := hpixels (-4) 5
  rw [hwidth, hheight] at hpixel
  refine ⟨hsnapshot, hpixel, ?_, hlines, hmade hroom, hshown⟩
  rw [hlit, hsnapshot]
  rfl

end Framebuffer

end Cosmac
