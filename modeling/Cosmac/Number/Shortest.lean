import Cosmac.Number.Binary64
import Cosmac.Number.Numeral

/-!
# Shortest decimal notation of doubles

`shortest` finds the decimal with the fewest digits that reads back as a given double, and among
those the one nearest to it. `display` writes it positionally for moderate magnitudes and with an
exponent elsewhere.
-/

set_option autoImplicit false

namespace Cosmac.Binary64

/-! ### The decimal -/

/-- The value `digits * 10 ^ exponent`. -/
structure Decimal where
  /-- The integer formed by the significant digits. -/
  digits : Nat
  /-- The power of ten that scales it. -/
  exponent : Int
  deriving DecidableEq, Repr

/-- The value as a quotient of natural numbers. -/
def Decimal.ratio (d : Decimal) : Nat × Nat :=
  (d.digits * Nat.pow 10 d.exponent.toNat, Nat.pow 10 (-d.exponent).toNat)

/-- Whether a positive value `num / den` is at least `10 ^ k`. -/
def reachesPowerOfTen (num den : Nat) (k : Int) : Bool :=
  den * Nat.pow 10 k.toNat ≤ num * Nat.pow 10 (-k).toNat

/-- The number of digits before the decimal point of a positive value; zero or negative for values
below one tenth. It is found next to an estimate from the binary logarithm. -/
def decimalPoint (num den : Nat) : Int :=
  let estimate : Int := Int.fdiv (floorLog2 num den * 30103) 100000
  if reachesPowerOfTen num den (estimate + 1) then estimate + 2
  else if reachesPowerOfTen num den estimate then estimate + 1
  else estimate

/-- The decimal of the given precision that reads back as `v`, if there is one: the nearer of the
two neighbours of `v` on the grid of that precision, the even one in the middle. -/
def readingBack? (v : Exact) (precision : Nat) : Option Decimal :=
  let (num, den) := v.ratio
  let exponent := decimalPoint num den - precision
  let scaledNum := num * Nat.pow 10 (-exponent).toNat
  let scaledDen := den * Nat.pow 10 exponent.toNat
  let below : Decimal := ⟨scaledNum / scaledDen, exponent⟩
  let above : Decimal := ⟨scaledNum / scaledDen + 1, exponent⟩
  let nearer := if roundHalfEven scaledNum scaledDen = below.digits then below else above
  let farther := if nearer = below then above else below
  let readsBack : Decimal → Bool := fun d ↦
    nearest? d.ratio.1 d.ratio.2 = some { v with negative := false }
  [nearer, farther].find? readsBack

/-- Moves the zeros at the end of the digits into the exponent. -/
def Decimal.stripZeros : Nat → Decimal → Decimal
  | 0, d => d
  | fuel + 1, d =>
    if d.digits ≠ 0 ∧ d.digits % 10 = 0 then stripZeros fuel ⟨d.digits / 10, d.exponent + 1⟩ else d

/-- The shortest decimal that reads back as a positive exact value. Seventeen digits always do. -/
def shortest (v : Exact) : Decimal :=
  ((List.range 17).findSome? fun k ↦ readingBack? v (k + 1)).elim ⟨0, 0⟩ (Decimal.stripZeros 20)

/-! ### Notation -/

/-- A decimal in positional notation with at least one digit on either side of the point. -/
def positional (ds : List Char) (point : Int) : List Char :=
  if point ≤ 0 then '0' :: '.' :: List.replicate (-point).toNat '0' ++ ds
  else if ds.length ≤ point.toNat then
    ds ++ List.replicate (point.toNat - ds.length) '0' ++ ['.', '0']
  else ds.take point.toNat ++ '.' :: ds.drop point.toNat

/-- A decimal with one digit before the point and a signed exponent of at least two digits. -/
def scientific (ds : List Char) (point : Int) : List Char :=
  let exponent := point - 1
  let fraction := if ds.length ≤ 1 then ds else ds.take 1 ++ '.' :: ds.drop 1
  let sign := if exponent < 0 then '-' else '+'
  fraction ++ 'e' :: sign :: Numeral.padStart 2 '0' (Numeral.decimalDigits exponent.natAbs)

/-- The text of a magnitude: positional from `0.0001` up to, but not including, `1e16`. -/
def displayMagnitude (v : Exact) : List Char :=
  if v.mantissa = 0 then ['0', '.', '0']
  else
    let d := shortest v
    let ds := Numeral.decimalDigits d.digits
    let point : Int := ds.length + d.exponent
    if -4 < point ∧ point ≤ 16 then positional ds point else scientific ds point

/-- The text of a double. -/
def display (x : Float) : String :=
  match finite? x with
  | some v => String.ofList (if v.negative then '-' :: displayMagnitude v else displayMagnitude v)
  | none => if x.isNaN then "nan" else if x < 0.0 then "-inf" else "inf"

end Cosmac.Binary64
