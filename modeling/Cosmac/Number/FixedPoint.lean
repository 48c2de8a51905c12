import Cosmac.Number.Binary64
import Cosmac.Number.Numeral

/-!
# Fixed-point notation of doubles

`fixedPoint` writes a double with a fixed number of decimal places, rounding its exact value to the
nearest, a half to the even neighbour. `groupThousands` puts commas into the digits before the
point.
-/

set_option autoImplicit false

namespace Cosmac.Binary64

/-- Puts a comma before every third digit, counted from the end. -/
def groupThousands (ds : List Char) : List Char :=
  let rec groups : List Char → List Char
    | a :: b :: c :: d :: rest => a :: b :: c :: ',' :: groups (d :: rest)
    | few => few
  (groups ds.reverse).reverse

/-- A magnitude with a fixed number of decimal places, its digits before the point passed through
`layout`. -/
def fixedMagnitude (layout : List Char → List Char) (places : Nat) (v : Exact) : List Char :=
  let unit := Nat.pow 10 places
  let scaled := roundHalfEven (v.ratio.1 * unit) v.ratio.2
  let whole := layout (Numeral.decimalDigits (scaled / unit))
  if places = 0 then whole
  else whole ++ '.' :: Numeral.padStart places '0' (Numeral.decimalDigits (scaled % unit))

/-- A double with a fixed number of decimal places; a zero keeps its sign. -/
def fixedPointWith (layout : List Char → List Char) (places : Nat) (x : Float) : String :=
  match finite? x with
  | some v =>
    let magnitude := fixedMagnitude layout places v
    String.ofList (if v.negative then '-' :: magnitude else magnitude)
  | none => if x.isNaN then "nan" else if x < 0.0 then "-inf" else "inf"

/-- A double with a fixed number of decimal places. -/
def fixedPoint (places : Nat) (x : Float) : String :=
  fixedPointWith id places x

/-- A double with a fixed number of decimal places and commas between thousands. -/
def groupedFixedPoint (places : Nat) (x : Float) : String :=
  fixedPointWith groupThousands places x

end Cosmac.Binary64
