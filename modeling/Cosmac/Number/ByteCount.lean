import Cosmac.Number.FixedPoint
import Cosmac.Number.Quantity

/-!
# Amounts of memory

Amounts of memory as people read them: in the largest unit of which there is at least one, each unit
being 1024 of the one before, and with three digits.
-/

set_option autoImplicit false

namespace Cosmac.ByteCount

/-- The units in ascending order. -/
def units : List String :=
  ["bytes", "KiB", "MiB", "GiB", "TiB", "PiB", "EiB"]

/-- The number of the largest unit of which there is at least one. -/
def unitOf (bytes : Nat) : Nat :=
  bytes.log2 / 10

/-- A number below 1024 with three digits, or all of its digits if it has more. -/
def threeDigits (x : Float) : String :=
  let hundredths := Binary64.fixedPoint 2 x
  let tenths := Binary64.fixedPoint 1 x
  if hundredths.length ≤ 4 then hundredths
  else if tenths.length ≤ 4 then tenths
  else Binary64.fixedPoint 0 x ++ "."

/-- An amount of more than a thousand bytes. -/
def text (bytes : Nat) : String :=
  let amount (unit : Nat) : Float :=
    match (Quantity.divide (.whole bytes) (.whole (Nat.pow 2 (10 * unit) : Nat))).bind
        Quantity.toFloat with
    | .ok x => x
    | .error _ => 0.0
  let unit := unitOf bytes
  let isNext := (Binary64.fixedPoint 0 (amount unit)) = "1024"
  let unit := if isNext then unit + 1 else unit
  threeDigits (amount unit) ++ " " ++ units.getD unit ""

end Cosmac.ByteCount
