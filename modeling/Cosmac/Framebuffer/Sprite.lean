import Cosmac.Framebuffer.Basic

/-!
# Sprites

A sprite is a list of bytes, one per row, eight pixels wide with the highest bit on the left.
Drawing one flips the pixel under each of its set bits, in order, and tells whether some pixel went
dark.
-/

set_option autoImplicit false

namespace Cosmac

/-- The rows of a sprite. -/
abbrev Sprite := List UInt8

namespace Sprite

/-- The sprite whose rows are the low bytes of integers. -/
def ofIntegers (rows : List Int) : Sprite :=
  rows.map UInt8.ofInt

/-- The columns of the set bits of a row, from left to right. -/
def setColumns (bits : UInt8) : List Nat :=
  (List.range 8).filter fun column ↦ bits.toNat.testBit (7 - column)

/-- The places of the set bits below a row number, each as column and row. -/
def pointsFrom (row : Nat) : Sprite → List (Nat × Nat)
  | [] => []
  | bits :: rest => (setColumns bits).map (·, row) ++ pointsFrom (row + 1) rest

/-- The places of the set bits of a sprite, relative to its upper left corner. -/
def points (sprite : Sprite) : List (Nat × Nat) :=
  pointsFrom 0 sprite

end Sprite

namespace Framebuffer

/-- Flips the pixel at a place. -/
def flip (f : Framebuffer) (x y : Int) : Framebuffer :=
  f.setPixel x y (!f.pixel x y)

/-- Flips the pixels at the given places relative to a corner, and tells whether one was lit. -/
def flipAll (f : Framebuffer) (x y : Int) : List (Nat × Nat) → Framebuffer × Bool
  | [] => (f, false)
  | (column, row) :: rest =>
    let hit := f.pixel (x + column) (y + row)
    let (after, hits) := flipAll (f.flip (x + column) (y + row)) x y rest
    (after, hit || hits)

/-- Draws a sprite with its upper left corner at a place. The answer tells whether some pixel went
from lit to dark. -/
def draw (f : Framebuffer) (x y : Int) (sprite : Sprite) : Framebuffer × Bool :=
  f.flipAll x y sprite.points

end Framebuffer

end Cosmac
