import Cosmac.Text.CodePointSet

/-!
# White space

The characters that count as white space at either end of a text, and the text without them.
-/

set_option autoImplicit false

namespace Cosmac.Text

/-- White space: the Unicode white-space characters and the four ASCII information separators. -/
def blanks : CodePointSet :=
  #[(0x09, 0x0D), (0x1C, 0x20), (0x85, 0x85), (0xA0, 0xA0), (0x1680, 0x1680), (0x2000, 0x200A),
    (0x2028, 0x2029), (0x202F, 0x202F), (0x205F, 0x205F), (0x3000, 0x3000)]

/-- Whether a character is white space. -/
def isBlank (c : Char) : Bool :=
  blanks.contains c

/-- The characters between the first and the last one that does not satisfy `drop`. -/
def trimWhile (drop : Char → Bool) (cs : List Char) : List Char :=
  ((cs.dropWhile drop).reverse.dropWhile drop).reverse

/-- The text without the white space at its ends. -/
def trim (text : String) : String :=
  String.ofList (trimWhile isBlank text.toList)

end Cosmac.Text
