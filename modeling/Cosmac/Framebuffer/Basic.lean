import Cosmac.Number.ByteCount
import Cosmac.Number.Numeral

/-!
# The framebuffer

A grid of pixels, each lit or dark. Every coordinate wraps around the edges, so any two integers
name a pixel. The view of a framebuffer is `pixel`; `setPixel` and `clear` change it.
-/

set_option autoImplicit false

namespace Cosmac

/-- A grid of pixels with at least one row and one column. -/
structure Framebuffer where
  /-- The number of columns. -/
  width : Nat
  /-- The number of rows. -/
  height : Nat
  /-- There is a column. -/
  width_pos : 0 < width
  /-- There is a row. -/
  height_pos : 0 < height
  /-- The pixels, row by row. -/
  rows : Vector (Vector Bool width) height

namespace Framebuffer

/-! ### Making one -/

/-- Why a framebuffer cannot have a size. -/
inductive SizeError where
  /-- A side is zero or negative. -/
  | notPositive (width height : Int)
  /-- A side is longer than can be counted. -/
  | sideTooLong
  /-- There are more pixels than can be counted. -/
  | tooManyPixels
  /-- There is not enough memory for the pixels. -/
  | outOfMemory (width height : Nat)
  deriving DecidableEq, Repr

/-- The wording of a refused size. -/
def SizeError.message : SizeError → String
  | notPositive width height =>
    "Invalid framebuffer size: " ++ Numeral.decimal width ++ "x" ++ Numeral.decimal height
  | sideTooLong => "Maximum allowed dimension exceeded"
  | tooManyPixels =>
    "array is too big; `arr.size * arr.dtype.itemsize` is larger than the maximum possible size."
  | outOfMemory width height =>
    "Unable to allocate " ++ ByteCount.text (width * height) ++ " for an array with shape ("
      ++ Numeral.decimal height ++ ", " ++ Numeral.decimal width ++ ") and data type bool"

/-- The least number that cannot be counted. -/
def countLimit : Nat := Nat.pow 2 63

/-- The least number of pixels for which there is not enough memory. -/
def memoryLimit : Nat := Nat.pow 2 40

/-- A framebuffer of a positive size with every pixel dark. -/
def blank (width height : Nat) (width_pos : 0 < width) (height_pos : 0 < height) : Framebuffer where
  width := width
  height := height
  width_pos := width_pos
  height_pos := height_pos
  rows := Vector.replicate height (Vector.replicate width false)

/-- A dark framebuffer of the requested size, refused unless both numbers are positive and the
pixels fit into memory. -/
def ofSize (width height : Int) : Except SizeError Framebuffer :=
  if h : 0 < width ∧ 0 < height then
    if countLimit ≤ height.toNat ∨ countLimit ≤ width.toNat then .error .sideTooLong
    else if countLimit ≤ width.toNat * height.toNat then .error .tooManyPixels
    else if memoryLimit ≤ width.toNat * height.toNat then
      .error (.outOfMemory width.toNat height.toNat)
    else .ok (blank width.toNat height.toNat (by omega) (by omega))
  else .error (.notPositive width height)

/-- The screen of the machine: sixty-four columns and thirty-two rows. -/
def screen : Framebuffer :=
  blank 64 32 (by decide) (by decide)

/-! ### Pixels -/

/-- The column that a coordinate names. -/
def column (f : Framebuffer) (x : Int) : Fin f.width :=
  ⟨(x % f.width).toNat, by
    have := f.width_pos
    have := Int.emod_nonneg x (b := f.width) (by omega)
    have := Int.emod_lt_of_pos x (b := f.width) (by omega)
    omega⟩

/-- The row that a coordinate names. -/
def row (f : Framebuffer) (y : Int) : Fin f.height :=
  ⟨(y % f.height).toNat, by
    have := f.height_pos
    have := Int.emod_nonneg y (b := f.height) (by omega)
    have := Int.emod_lt_of_pos y (b := f.height) (by omega)
    omega⟩

/-- Whether the pixel at a place is lit. -/
def pixel (f : Framebuffer) (x y : Int) : Bool :=
  (f.rows.get (f.row y)).get (f.column x)

/-- Lights or darkens the pixel at a place. -/
def setPixel (f : Framebuffer) (x y : Int) (lit : Bool) : Framebuffer :=
  { f with
    rows := f.rows.set (f.row y) ((f.rows.get (f.row y)).set (f.column x) lit (f.column x).isLt)
      (f.row y).isLt }

/-- Turns every pixel off. -/
def clear (f : Framebuffer) : Framebuffer :=
  blank f.width f.height f.width_pos f.height_pos

/-! ### Reading the grid -/

/-- The grid as a list of rows, each a list of pixels. -/
def snapshot (f : Framebuffer) : List (List Bool) :=
  f.rows.toList.map Vector.toList

/-- The number of lit pixels. -/
def litCount (f : Framebuffer) : Nat :=
  (f.snapshot.map fun row ↦ row.count true).foldr (· + ·) 0

/-- The grid as text, one line per row, with the given texts for lit and dark pixels. -/
def text (f : Framebuffer) (lit dark : String) : String :=
  "\n".intercalate (f.snapshot.map fun row ↦
    "".intercalate (row.map fun pixel ↦ if pixel then lit else dark))

end Framebuffer

end Cosmac
