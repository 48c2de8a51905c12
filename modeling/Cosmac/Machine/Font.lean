import Cosmac.Framebuffer.Sprite
import Cosmac.Word

/-!
# The built-in font

Glyphs for the sixteen hexadecimal digits, each a sprite of five rows, lie at the bottom of memory.
-/

set_option autoImplicit false

namespace Cosmac.Font

/-- The number of rows of a glyph. -/
def height : Nat := 5

/-- The rows of all glyphs, one digit after the other. -/
def bytes : Array UInt8 :=
  #[0xF0, 0x90, 0x90, 0x90, 0xF0,
    0x20, 0x60, 0x20, 0x20, 0x70,
    0xF0, 0x10, 0xF0, 0x80, 0xF0,
    0xF0, 0x10, 0xF0, 0x10, 0xF0,
    0x90, 0x90, 0xF0, 0x10, 0x10,
    0xF0, 0x80, 0xF0, 0x10, 0xF0,
    0xF0, 0x80, 0xF0, 0x90, 0xF0,
    0xF0, 0x10, 0x20, 0x40, 0x40,
    0xF0, 0x90, 0xF0, 0x90, 0xF0,
    0xF0, 0x90, 0xF0, 0x10, 0xF0,
    0xF0, 0x90, 0xF0, 0x90, 0x90,
    0xE0, 0x90, 0xE0, 0x90, 0xE0,
    0xF0, 0x80, 0x80, 0x80, 0xF0,
    0xE0, 0x90, 0x90, 0x90, 0xE0,
    0xF0, 0x80, 0xF0, 0x80, 0xF0,
    0xF0, 0x80, 0xF0, 0x80, 0x80]

/-- The sprite of a digit. -/
def glyph (digit : Nibble) : Sprite :=
  (bytes.toList.drop (height * digit)).take height

/-- The address of the sprite of a digit. -/
def addressOf (digit : Nibble) : Int :=
  height * digit

end Cosmac.Font
