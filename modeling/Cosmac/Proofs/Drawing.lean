import Cosmac.Proofs.Framebuffer.Bits
import Cosmac.Proofs.Framebuffer.LitCount

/-!
# What drawing a sprite does

The screen after a drawing is computed from the bits of the sprite alone: a pixel changes if the
bits that hit it are odd in number (`draw_flips_odd_hits`). So drawings can be exchanged, undone,
moved around the edges and put together (`drawings_combine`), and the number of lit pixels tells
whether something collided (`lit_pixels_tell_collision`).
-/

set_option autoImplicit false

namespace Cosmac

namespace Framebuffer

/-- What a drawing does. A pixel changes if an odd number of bits of the sprite hit it, and a
collision is told of exactly if some pixel is hit that was lit before, or is hit twice. Rows and
corners are any integers, and the screen may be of any size. -/
theorem draw_flips_odd_hits (f : Framebuffer) (x y : Int) (rows : List Int) :
    let result := f.draw x y (.ofIntegers rows)
    result.1.width = f.width ∧ result.1.height = f.height ∧
      (∀ (column : Fin f.width) (row : Fin f.height), result.1.pixel column.val row.val =
        (f.pixel column.val row.val ^^ decide (f.bitHits x y rows column row % 2 = 1))) ∧
      (result.2 = true ↔ ∃ (column : Fin f.width) (row : Fin f.height),
        (1 ≤ f.bitHits x y rows column row ∧ f.pixel column.val row.val = true) ∨
          2 ≤ f.bitHits x y rows column row) := by
  intro result
  obtain ⟨hwidth, hheight⟩ := f.size_draw x y (.ofIntegers rows)
  refine ⟨hwidth, hheight, fun column row ↦ ?_, ?_⟩
  · rw [bitHits_eq]
    exact f.pixel_flipAll x y _ _ _
  · have hcollision : result.2 = true ↔ ∃ (column : Fin f.width) (row : Fin f.height),
        1 < (f.pixel column.val row.val).toNat +
          f.hits x y (Sprite.ofIntegers rows).points column.val row.val :=
      flipAll_snd_eq_true_iff
    rw [hcollision]
    refine exists₂_congr fun column row ↦ ?_
    rw [bitHits_eq]
    cases f.pixel column.val row.val with
    | false =>
      rw [Bool.toNat_false]
      simp only [Bool.false_eq_true, and_false, false_or]
      omega
    | true =>
      rw [Bool.toNat_true]
      simp only [and_true]
      omega

/-- Both bits of a row hit the only pixel of a screen. It stays dark, and a collision is told of. -/
example :
    let result := (blank 1 1 (by decide) (by decide)).draw 0 0 (.ofIntegers [0xC0])
    result.1.pixel 0 0 = false ∧ result.2 = true := by
  decide

/-! ### Two drawings -/

section Combinations

variable (f : Framebuffer) (x y x' y' : Int) (s t : Sprite)

theorem pixel_draw (u v : Int) :
    (f.draw x y s).1.pixel u v = (f.pixel u v ^^ decide (f.hits x y s.points u v % 2 = 1)) :=
  f.pixel_flipAll x y s.points u v

/-- A drawing does not change what is hit later. -/
theorem hits_draw (points : List (Nat × Nat)) (u v : Int) :
    (f.draw x y s).1.hits x' y' points u v = f.hits x' y' points u v :=
  hits_congr (f.size_draw x y s).1 (f.size_draw x y s).2 x' y' points u v

/-- Two drawings leave the same screen in either order. -/
theorem draw_comm :
    ((f.draw x y s).1.draw x' y' t).1 = ((f.draw x' y' t).1.draw x y s).1 := by
  have hsize (f : Framebuffer) (x y : Int) (s : Sprite) := f.size_draw x y s
  refine eq_of_pixel ?_ ?_ fun u v ↦ ?_
  · rw [(hsize _ x' y' t).1, (hsize f x y s).1, (hsize _ x y s).1, (hsize f x' y' t).1]
  · rw [(hsize _ x' y' t).2, (hsize f x y s).2, (hsize _ x y s).2, (hsize f x' y' t).2]
  · rw [pixel_draw, pixel_draw, hits_draw, pixel_draw, pixel_draw, hits_draw, Bool.xor_right_comm]

/-- Drawing a sprite a second time at its place removes it. -/
theorem draw_draw : ((f.draw x y s).1.draw x y s).1 = f := by
  have hsize (f : Framebuffer) := f.size_draw x y s
  refine eq_of_pixel ?_ ?_ fun u v ↦ ?_
  · rw [(hsize _).1, (hsize f).1]
  · rw [(hsize _).2, (hsize f).2]
  · rw [pixel_draw, pixel_draw, hits_draw, Bool.xor_assoc, Bool.xor_self, Bool.xor_false]

/-- A sprite that is drawn twice at the same place collides unless it is empty. -/
theorem draw_draw_collides_iff :
    ((f.draw x y s).2 || ((f.draw x y s).1.draw x y s).2) = true ↔ s.points ≠ [] := by
  have htwice : (f.flipAll x y (s.points ++ s.points)).2 =
      ((f.draw x y s).2 || ((f.draw x y s).1.draw x y s).2) :=
    congrArg Prod.snd (f.flipAll_append x y s.points s.points)
  rw [← htwice, ← Bool.not_eq_false, flipAll_snd_eq_false_iff, ne_eq,
    ← hits_eq_zero_iff (f := f) (x := x) (y := y)]
  refine not_congr (forall₂_congr fun u v ↦ ?_)
  rw [hits_append]
  have := Bool.toNat_le (f.pixel u v)
  omega

/-- Corners that differ by whole widths and heights are the same. -/
theorem draw_add_mul (columns rows : Int) :
    f.draw (x + columns * f.width) (y + rows * f.height) s = f.draw x y s := by
  refine flipAll_eq_of_hits fun u v ↦ List.countP_congr fun point _ ↦ ?_
  rw [names, names, add_right_comm, Int.add_mul_emod_self_right, add_right_comm y,
    Int.add_mul_emod_self_right]

/-- Rows that are counted from a later number are drawn from a lower corner. -/
theorem hits_pointsFrom (first : Nat) (u v : Int) :
    f.hits x y (Sprite.pointsFrom first s) u v = f.hits x (y + first) s.points u v := by
  have hlater := s.pointsFrom_add 0 first
  rw [Nat.zero_add] at hlater
  rw [hlater, hits, List.countP_map, hits, Sprite.points]
  refine List.countP_congr fun point _ ↦ ?_
  have hrow : y + (point.2 + first : Nat) = y + first + point.2 := by omega
  rw [Function.comp_apply, hrow]

/-- A sprite can be drawn in two portions. -/
theorem draw_append :
    f.draw x y (s ++ t) =
      (((f.draw x y s).1.draw x (y + s.length) t).1,
        (f.draw x y s).2 || ((f.draw x y s).1.draw x (y + s.length) t).2) := by
  have hlower (f : Framebuffer) :
      f.flipAll x y (Sprite.pointsFrom s.length t) = f.draw x (y + s.length) t :=
    flipAll_eq_of_hits fun u v ↦ f.hits_pointsFrom x y t s.length u v
  rw [draw, Sprite.points, Sprite.pointsFrom_append, flipAll_append, Nat.zero_add, hlower]
  rfl

end Combinations

/-- Laws of drawing. Two drawings leave the same screen in either order. Drawing the same sprite
twice at the same place restores the screen, and one of the two drawings tells of a collision
exactly if some bit of the sprite is set. Moving the corner by whole widths and heights of the
screen makes no difference. A sprite can be drawn in two portions, the lower below the upper, and it
collides if one of them does. -/
theorem drawings_combine (f : Framebuffer) (x y x' y' : Int) (s t : List Int) :
    let first := f.draw x y (.ofIntegers s)
    (first.1.draw x' y' (.ofIntegers t)).1 =
        ((f.draw x' y' (.ofIntegers t)).1.draw x y (.ofIntegers s)).1 ∧
      (first.1.draw x y (.ofIntegers s)).1 = f ∧
      ((first.2 || (first.1.draw x y (.ofIntegers s)).2) = true ↔
        ∃ row ∈ s, ∃ place < 8, row.testBit place = true) ∧
      (∀ columns rows : Int,
        f.draw (x + columns * f.width) (y + rows * f.height) (.ofIntegers s) = first) ∧
      f.draw x y (.ofIntegers (s ++ t)) =
        let second := first.1.draw x (y + s.length) (.ofIntegers t)
        (second.1, first.2 || second.2) := by
  intro first
  refine ⟨f.draw_comm x y x' y' _ _, f.draw_draw x y _, ?_, f.draw_add_mul x y _, ?_⟩
  · rw [draw_draw_collides_iff, Sprite.points_ne_nil_iff]
  · rw [Sprite.ofIntegers_append, draw_append, Sprite.length_ofIntegers]

/-- The number of lit pixels after a drawing is at most the number before it and the number of set
bits in the sprite. It falls short of their sum by an even number, and the drawing tells of no
collision exactly if it falls short by nothing. -/
theorem lit_pixels_tell_collision (f : Framebuffer) (x y : Int) (rows : List Int) :
    let result := f.draw x y (.ofIntegers rows)
    let most := f.litCount + (rows.map Sprite.setBits).sum
    result.1.litCount ≤ most ∧ Even (most - result.1.litCount) ∧
      (result.2 = false ↔ result.1.litCount = most) := by
  intro result most
  obtain ⟨darkened, hcount, hhit⟩ :=
    f.exists_litCount_flipAll x y (Sprite.ofIntegers rows).points
  rw [Sprite.points, Sprite.length_pointsFrom] at hcount
  have hmost : result.1.litCount + 2 * darkened = most := hcount
  have hfree : result.2 = false ↔ darkened = 0 := hhit
  refine ⟨by omega, ⟨darkened, by omega⟩, ?_⟩
  rw [hfree]
  omega

end Framebuffer

end Cosmac
