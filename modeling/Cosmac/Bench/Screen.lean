import Cosmac.Bench.Answer
import Cosmac.Framebuffer.Sprite
import Cosmac.Machine.Document

/-!
# Framebuffers on the bench

Framebuffers of any size that a document gives, and operations on them. Places may be given in
numbers that are not whole, and for single pixels as texts; they are refused when the pixel is
looked for.
-/

set_option autoImplicit false

namespace Cosmac.Bench

/-! ### Sizes -/

/-- The framebuffer of a width and a height. Numbers that are not whole are refused after those that
are not positive. -/
def framebufferOfSides (width height : Json) : Except BenchError Framebuffer := do
  for side in [width, height] do
    if (← side.quantity).atMost 0 then throw (.notPositive width.plain height.plain)
  match width, height with
  | .int width, .int height => Framebuffer.ofSize width height
  | width, .int height =>
    if Framebuffer.countLimit ≤ height.toNat then throw (.size .sideTooLong)
    throw (.argument (.wrongKind width))
  | _, height => throw (.argument (.wrongKind height))

/-- The framebuffer of the size in a document, which may leave out the height or both sides. -/
def framebufferOf (document : Json) : Except BenchError Framebuffer := do
  match document.field? "size" with
  | none => return .screen
  | some size =>
    match ← members size with
    | [] => return .screen
    | [width] => framebufferOfSides width (.int Framebuffer.screen.height)
    | [width, height] => framebufferOfSides width height
    | _ => throw .surplus

/-! ### Operations -/

/-- The place that two numbers name, which must be whole. -/
def placeOf (x y : Json) : Except BenchError (Int × Int) := do
  let row ← y.quantity
  let column ← x.quantity
  match column.integer?, row.integer? with
  | some x, some y => return (x, y)
  | _, _ => throw .fractionalPlace

/-- The number of a row or a column among as many as a side is long, if a value names one. A text
names none, but it is filled with the length of the side before it is refused. -/
def numberAlong (side : Nat) (value : Json) : Except BenchError (Option Int) := do
  match value with
  | .text template =>
    Text.Template.check template side
    return none
  | _ => return (← value.quantity).integer?

/-- The pixel of a framebuffer that two values name. The row is looked for first. -/
def pixelOf (f : Framebuffer) (x y : Json) : Except BenchError (Int × Int) := do
  let row ← numberAlong f.height y
  let column ← numberAlong f.width x
  match column, row with
  | some x, some y => return (x, y)
  | _, _ => throw .fractionalPlace

/-- Whether a row of a sprite can be drawn at a place. Where no bit is set the column does not
matter. -/
def checkRow (x y row : Json) : Except BenchError Unit := do
  let _ ← y.quantity
  if (← byteOf row) ≠ 0 then
    let _ ← placeOf x y

/-- Draws the rows of a sprite as far as they can be drawn. -/
def drawRows (f : Framebuffer) (x y : Json) (rows : List Json) : Answer × Framebuffer :=
  let number (value : Json) : Int := value.whole.toOption.getD 0
  let checks := rows.map (checkRow x y)
  let sound := (checks.takeWhile fun check ↦ check.toOption.isSome).length
  let (f, hit) := f.draw (number x) (number y) (.ofIntegers ((rows.take sound).map number))
  match checks[sound]? with
  | some (.error e) => (.error e, f)
  | _ => (.ok (.bool hit), f)

/-- The grid as text, with whatever is given for lit and dark pixels. It must be text where it is
needed. -/
def gridText (f : Framebuffer) (lit dark : Json) : Answer :=
  let pixels := f.snapshot.flatten
  let content (value : Json) : String := value.text?.getD ""
  if lit.text?.isNone && pixels.contains true then .error (.argument (.wrongKind lit))
  else if dark.text?.isNone && pixels.contains false then .error (.argument (.wrongKind dark))
  else .ok (.text (f.text (content lit) (content dark)))

/-- An operation on a framebuffer with the arguments in a document. -/
def operateScreen (f : Framebuffer) (name : String) (operation : Json) : Answer × Framebuffer :=
  settle f do
    let argument (name : String) : Except BenchError Json := operation.required name
    match name with
    | "draw" =>
      let x ← argument "x"
      let y ← argument "y"
      return drawRows f x y (← members (← argument "sprite"))
    | "set" =>
      let x ← argument "x"
      let y ← argument "y"
      let value ← argument "value"
      let (x, y) ← pixelOf f x y
      return (.ok .null, f.setPixel x y value.isTruthy)
    | "get" =>
      let x ← argument "x"
      let (x, y) ← pixelOf f x (← argument "y")
      return (.ok (.bool (f.pixel x y)), f)
    | "clear" => return (.ok .null, f.clear)
    | "text" =>
      return (gridText f (operation.fieldOr "on" (.text "#")) (operation.fieldOr "off" (.text ".")),
        f)
    | "size" => return (.ok (.list [.int f.width, .int f.height]), f)
    | "snapshot" => return (.ok (.ofGrid f.snapshot), f)
    | _ => throw .unknownOperation

/-- The operation on a framebuffer that a document asks for. -/
def performScreen (f : Framebuffer) (operation : Json) : Answer × Framebuffer :=
  operateScreen f (nameOf operation) operation

end Cosmac.Bench
