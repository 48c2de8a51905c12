import Cosmac.Framebuffer.Basic
import Cosmac.Number.Quantity

/-!
# Images

A grid of pixels becomes a picture in two colours, enlarged by a whole factor.
-/

set_option autoImplicit false

namespace Cosmac

/-- A colour by its red, green and blue parts. -/
structure Color where
  red : UInt8
  green : UInt8
  blue : UInt8
  deriving DecidableEq, Repr

/-- The colour of lit pixels unless another is asked for. -/
def Color.white : Color := ⟨255, 255, 255⟩

/-- The colour of dark pixels unless another is asked for. -/
def Color.black : Color := ⟨0, 0, 0⟩

/-- A picture as a list of rows of colours. -/
structure Image where
  /-- The number of columns. -/
  width : Nat
  /-- The rows from top to bottom. -/
  rows : List (List Color)
  deriving DecidableEq, Repr

/-! ### Errors -/

/-- Why a picture cannot be made or written. -/
inductive ImageError where
  /-- The factor is less than one. -/
  | tooSmall (zoom : Quantity)
  /-- The factor is not whole. -/
  | fractional
  /-- A side would be longer than any picture's. -/
  | tooLarge
  /-- The picture would fill more memory than there is. -/
  | outOfMemory
  /-- There is nothing to enlarge. -/
  | noArea
  /-- There is nothing to write. -/
  | empty

/-- The wording of an error. -/
def ImageError.message : ImageError → String
  | tooSmall zoom => "Invalid zoom: " ++ zoom.display
  | fractional => "a picture is enlarged by a whole factor only"
  | tooLarge => "the picture is too large"
  | outOfMemory => "the picture does not fit into memory"
  | noArea => "height and width must be > 0"
  | empty => "cannot write empty image"

namespace Image

/-! ### Scale factors -/

/-- The greatest number of rows or columns. -/
def maxSide : Nat := Nat.pow 2 31 - 1

/-- The greatest number of columns of which a row fits into memory. -/
def maxColumns : Nat := Nat.pow 2 29 - 2

/-- The greatest number of pixels that fit into memory. -/
def maxPixels : Nat := Nat.pow 2 32

/-- Refuses factors below one. -/
def checkZoom (zoom : Quantity) : Except ImageError Unit :=
  if zoom.lessThan 1 then .error (.tooSmall zoom) else .ok ()

/-- The whole factor that a scale factor is. One that is not above one leaves pictures as they
are. -/
def wholeFactor (zoom : Quantity) : Except ImageError Nat := do
  checkZoom zoom
  match zoom.integer? with
  | some factor => return factor.toNat
  | none => if Quantity.less (.whole 1) zoom then throw .fractional else return 1

/-- Refuses the sizes that no picture has. One that is enlarged has an area. -/
def checkSize (width height factor : Nat) : Except ImageError Unit :=
  if maxSide < width * factor ∨ maxSide < height * factor then .error .tooLarge
  else if 1 < factor ∧ (width = 0 ∨ height = 0) then .error .noArea
  else if maxColumns < width * factor ∨ maxPixels < width * factor * (height * factor) then
    .error .outOfMemory
  else .ok ()

/-! ### Pictures -/

/-- The number of rows. -/
def height (image : Image) : Nat :=
  image.rows.length

/-- The picture with the given rows. -/
def ofRows (rows : List (List Color)) : Image :=
  ⟨(rows.headD []).length, rows⟩

/-- The picture of a grid in two colours. -/
def ofGrid (pixels : List (List Bool)) (lit dark : Color) : Image :=
  ofRows (pixels.map fun bits ↦ bits.map fun bit ↦ if bit then lit else dark)

/-- Repeats every element of a list. -/
def stretch {α : Type} (factor : Nat) (xs : List α) : List α :=
  xs.flatMap fun x ↦ List.replicate factor x

/-- A picture with every pixel repeated both ways. -/
def enlarged (image : Image) (factor : Nat) : Image :=
  ⟨image.width * factor, stretch factor (image.rows.map (stretch factor))⟩

/-- A picture at a scale factor, which must be at least one. -/
def scaled (image : Image) (zoom : Quantity) : Except ImageError Image := do
  let factor ← wholeFactor zoom
  checkSize image.width image.height factor
  return image.enlarged factor

/-- A picture as it is written, if there is anything in it. -/
def written (image : Image) : Except ImageError Image :=
  if image.width = 0 ∨ image.height = 0 then .error .empty else .ok image

end Image

namespace Framebuffer

/-- The picture of a framebuffer pixel by pixel, white on black. -/
def plainImage (f : Framebuffer) : Image :=
  Image.ofGrid f.snapshot .white .black

/-- The picture of a framebuffer at a scale factor, white on black. -/
def image (f : Framebuffer) (zoom : Quantity) : Except ImageError Image :=
  f.plainImage.scaled zoom

end Framebuffer

end Cosmac
