import Cosmac.Bench.Screen

/-!
# Pictures on the bench

Pictures of grids that documents give pixel by pixel or by what is drawn, in colours of their own.
-/

set_option autoImplicit false

namespace Cosmac.Bench

/-! ### Pixels -/

/-- What a picture is made of. -/
inductive PixelSource where
  /-- The pixels of a framebuffer. -/
  | screen (f : Framebuffer)
  /-- A grid of pixels. -/
  | value (pixels : Json)

/-- What a document wants a picture of: pixels, or what is left of some operations on a
framebuffer. -/
def PixelSource.ofDocument (document : Json) : Except BenchError PixelSource := do
  match document.field? "pixels" with
  | some pixels => return .value pixels
  | none =>
    let operations := ((document.field "ops").items?).getD []
    .screen <$> operations.foldlM (fun f operation ↦ do
      let (answer, f) := performScreen f operation
      let _ ← answer
      return f) (← framebufferOf document)

/-- The most dimensions that a grid has. -/
def maxDimensions : Nat := 64

/-- The rows of pixels, of which there must be a grid of two dimensions. A pixel is lit if it counts
as true. -/
def PixelSource.rows : PixelSource → Except BenchError (List (List Bool))
  | screen f => .ok f.snapshot
  | value pixels => do
    let sides ← Grid.sidesOf maxDimensions pixels
    if sides.length ≠ 2 then throw (.wrongDimensions sides.length)
    return (pixels.items?.getD []).map fun row ↦ (row.items?.getD []).map Json.isTruthy

/-! ### Colours -/

/-- The part of a colour that a value stands for. Fractions are dropped. -/
def colorPart (value : Json) : Except BenchError UInt8 := do
  let number ← match value with
    | .float x => (Binary64.truncate x : Except ArithmeticError Int)
    | .text numeral => (Numeral.read 10 numeral).mapError (.badNumeral numeral)
    | _ => value.whole
  if number < 0 ∨ 256 ≤ number then throw (.arithmetic .overflow)
  return UInt8.ofInt number

/-- The parts of colours that a value has, in at most so many dimensions. -/
def colorGrid (limit : Nat) (value : Json) : Except BenchError (Grid UInt8) := do
  (← Grid.ofJson limit value).mapM colorPart

/-- The colour at a place of a grid of parts. -/
def colorAt (grid : Grid UInt8) (place : List Nat) : Color :=
  let part (number : Nat) : UInt8 := (grid.at? (place ++ [number])).getD 0
  ⟨part 0, part 1, part 2⟩

/-- A colour as a document gives it. -/
def colorDocument (color : Color) : Json :=
  .list ([color.red, color.green, color.blue].map fun part ↦ .int part.toNat)

/-- A row of pixels in colours. Dark pixels have the colours of their columns, and lit ones those of
their numbers, of which the first is given. -/
def paintRow (dark lit : Nat → Color) (number : Nat) (bits : List Bool) : List Color :=
  (bits.foldl (fun (painted, column, number) isLit ↦
    if isLit then (lit number :: painted, column + 1, number + 1)
    else (dark column :: painted, column + 1, number)) ([], 0, number)).1.reverse

/-- Rows of pixels in colours. The lit pixels are numbered row by row. -/
def paintRows (dark : Nat → Nat → Color) (lit : Nat → Color) (pixels : List (List Bool)) :
    List (List Color) :=
  (pixels.foldl (fun (painted, row, number) bits ↦
    (paintRow (dark row) lit number bits :: painted, row + 1, number + bits.count true))
    ([], 0, 0)).1.reverse

/-- The picture of rows of pixels in the colours that two values give, the dark ones first. -/
def painted (pixels : List (List Bool)) (dark lit : Json) : Except BenchError Image := do
  let height := pixels.length
  let width := (pixels.headD []).length
  let count := pixels.flatten.count true
  let dark ← colorGrid 3 dark
  if !dark.fills [height, width, 3] then throw (.badDarkColor dark.sides height width)
  let lit ← colorGrid maxDimensions lit
  if !lit.fills [count, 3] then throw (.badLitColor lit.sides count)
  return .ofRows (paintRows (fun row column ↦ colorAt dark [row, column])
    (fun number ↦ colorAt lit [number]) pixels)

/-! ### Pictures -/

/-- What is to be done with a picture. -/
inductive PictureUse where
  /-- It is shown. -/
  | image
  /-- It is written down. -/
  | encode
  /-- It is written into a file. -/
  | save
  deriving DecidableEq, Repr

/-- The use of a name. -/
def PictureUse.ofName (name : String) : PictureUse :=
  if name = "encode" then encode else if name = "save" then save else image

/-- The usual scale factor of a use. -/
def PictureUse.zoom : PictureUse → Int
  | encode => 1
  | image | save => 8

/-- The picture that a document asks for. Colours are for pictures that are shown. -/
def pictureOf (use : PictureUse) (document : Json) : Except BenchError Image := do
  let source ← PixelSource.ofDocument document
  let isColored := (document.field? "on_color").isSome || (document.field? "off_color").isSome
  if use ≠ .image && isColored then throw .surplus
  let zoom ← (document.fieldOr "zoom" (.int use.zoom)).quantity
  Image.checkZoom zoom
  let plain ← painted (← source.rows) (document.fieldOr "off_color" (colorDocument .black))
    (document.fieldOr "on_color" (colorDocument .white))
  let image ← plain.scaled zoom
  if use = .image then return image else image.written

end Cosmac.Bench
