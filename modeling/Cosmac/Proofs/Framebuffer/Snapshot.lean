import Cosmac.Framebuffer.Sprite
import Cosmac.Proofs.Framebuffer.LitCount
import Cosmac.Proofs.Text.Symbols

/-!
# The grid of a framebuffer

What can be read of a framebuffer is in the rows of its snapshot: its pixels
(`Framebuffer.cell?_snapshot`), the number of those that are lit
(`Framebuffer.litCount_eq_count`) and its text, which has a line of symbols for each row
(`Framebuffer.lines_text`). Equal snapshots are of equal framebuffers
(`Framebuffer.eq_of_snapshot`).
-/

set_option autoImplicit false

namespace Cosmac

/-! ### Cells -/

/-- What stands in a column of a row of rows, if anything does. -/
def cell? {α : Type} (rows : List (List α)) (column row : Nat) : Option α :=
  rows[row]?.bind fun cells ↦ cells[column]?

theorem cell?_map {α β : Type} (change : α → β) (rows : List (List α)) (column row : Nat) :
    cell? (rows.map fun line ↦ line.map change) column row =
      (cell? rows column row).map change := by
  rw [cell?, cell?, List.getElem?_map]
  cases rows[row]? with
  | none => rfl
  | some line => exact List.getElem?_map

namespace Framebuffer

variable {f g : Framebuffer}

/-! ### Snapshots -/

theorem length_snapshot (f : Framebuffer) : f.snapshot.length = f.height := by
  rw [snapshot, List.length_map, Vector.length_toList]

theorem length_of_mem_snapshot {line : List Bool} (hline : line ∈ f.snapshot) :
    line.length = f.width := by
  obtain ⟨pixels, -, rfl⟩ := List.mem_map.mp hline
  exact Vector.length_toList

/-- A pixel stands where its coordinates lead after wrapping around the edges. -/
theorem cell?_snapshot (f : Framebuffer) (x y : Int) :
    cell? f.snapshot (x % f.width).toNat (y % f.height).toNat = some (f.pixel x y) := by
  have hrow : f.snapshot[(f.row y).val]? = some (f.rows.get (f.row y)).toList := by
    rw [snapshot, List.getElem?_map, Vector.getElem?_toList,
      Vector.getElem?_eq_getElem (f.row y).isLt]
    rfl
  have hcolumn : (f.rows.get (f.row y)).toList[(f.column x).val]? = some (f.pixel x y) := by
    rw [Vector.getElem?_toList, Vector.getElem?_eq_getElem (f.column x).isLt]
    rfl
  change f.snapshot[(f.row y).val]?.bind (fun cells ↦ cells[(f.column x).val]?) = _
  rw [hrow]
  exact hcolumn

theorem litCount_eq_count (f : Framebuffer) : f.litCount = f.snapshot.flatten.count true := by
  rw [litCount, List.count_flatten, List.sum_eq_foldr]

/-- A snapshot tells the framebuffer. -/
theorem eq_of_snapshot (hsame : f.snapshot = g.snapshot) : f = g := by
  have hheight : f.height = g.height := by
    rw [← f.length_snapshot, hsame, g.length_snapshot]
  have hwidth : f.width = g.width := by
    have hfirst : 0 < f.snapshot.length := by
      rw [f.length_snapshot]
      exact f.height_pos
    have hline : f.snapshot[0] ∈ f.snapshot := List.getElem_mem hfirst
    have hother : f.snapshot[0] ∈ g.snapshot := by
      rw [← hsame]
      exact hline
    rw [← length_of_mem_snapshot hline, length_of_mem_snapshot hother]
  refine eq_of_pixel hwidth hheight fun u v ↦ Option.some.inj ?_
  rw [← f.cell?_snapshot, ← g.cell?_snapshot, hsame, hwidth, hheight]

/-! ### Texts -/

open Text

/-- The rows of a framebuffer in symbols for lit and dark pixels. -/
def symbolRows (f : Framebuffer) (on off : Symbol) : List (List Symbol) :=
  f.snapshot.map fun line ↦ line.map fun bit ↦ if bit then on else off

/-- The text of a framebuffer is spelled symbol by symbol, with a line break between two rows. -/
theorem toList_text (f : Framebuffer) (on off : Symbol) :
    (f.text (.ofList (spelled [on])) (.ofList (spelled [off]))).toList =
      spelled ([.char '\n'].intercalate (f.symbolRows on off)) := by
  have hpixel (bit : Bool) : (if bit then String.ofList (spelled [on])
      else .ofList (spelled [off])).toList = spelled [if bit then on else off] := by
    cases bit <;> exact String.toList_ofList
  have hline (line : List Bool) :
      ("".intercalate (line.map fun bit ↦
        if bit then String.ofList (spelled [on]) else .ofList (spelled [off]))).toList =
        spelled (line.map fun bit ↦ if bit then on else off) := by
    rw [String.toList_intercalate, List.map_map]
    simp only [Function.comp_def, hpixel]
    change [].intercalate _ = _
    rw [nil_intercalate, spelled, List.flatMap_map, List.flatMap_def]
    simp only [spelled, List.flatMap_singleton]
  rw [text, String.toList_intercalate, spelled_intercalate, symbolRows, List.map_map, List.map_map]
  simp only [Function.comp_def, hline]
  rfl

theorem mem_symbolRows {on off x : Symbol} {line : List Symbol} (hline : line ∈ f.symbolRows on off)
    (hx : x ∈ line) : x = on ∨ x = off := by
  obtain ⟨bits, -, rfl⟩ := List.mem_map.mp hline
  obtain ⟨bit, -, rfl⟩ := List.mem_map.mp hx
  cases bit with
  | false => exact .inr rfl
  | true => exact .inl rfl

theorem length_symbolRows (f : Framebuffer) (on off : Symbol) :
    (f.symbolRows on off).length = f.height := by
  rw [symbolRows, List.length_map, f.length_snapshot]

theorem length_of_mem_symbolRows {on off : Symbol} {line : List Symbol}
    (hline : line ∈ f.symbolRows on off) : line.length = f.width := by
  obtain ⟨bits, hbits, rfl⟩ := List.mem_map.mp hline
  rw [List.length_map, length_of_mem_snapshot hbits]

/-- The lines of the text of a framebuffer are its rows. -/
theorem lines_text (f : Framebuffer) {on off : Symbol} (hon : on.IsProper) (hoff : off.IsProper)
    (hon' : on ≠ .char '\n') (hoff' : off ≠ .char '\n') :
    (symbols (f.text (.ofList (spelled [on])) (.ofList (spelled [off]))).toList).splitOn
      (.char '\n') = f.symbolRows on off := by
  have hproper : ∀ x ∈ [Symbol.char '\n'].intercalate (f.symbolRows on off), x.IsProper := by
    refine forall_mem_intercalate (List.forall_mem_singleton.mpr trivial) fun line hline x hx ↦ ?_
    obtain rfl | rfl := mem_symbolRows hline hx
    · exact hon
    · exact hoff
  have hrows : f.symbolRows on off ≠ [] := by
    apply List.ne_nil_of_length_pos
    rw [f.length_symbolRows]
    exact f.height_pos
  rw [toList_text, symbols_spelled hproper]
  refine List.splitOn_intercalate _ (fun line hline hbreak ↦ ?_) hrows
  obtain heq | heq := mem_symbolRows hline hbreak
  · exact hon' heq.symm
  · exact hoff' heq.symm

end Framebuffer

end Cosmac
