import Cosmac.Json.Basic
import Cosmac.Number.Shortest

/-!
# Quantities

Numbers as documents give them: whole numbers, doubles, and truth values, which count as one and
zero. A quantity is kept as it was given. Whole numbers are added, subtracted, multiplied and
compared exactly; where a double takes part the result is one. `Quantity.roundedQuotient` divides
with a single rounding to a double.
-/

set_option autoImplicit false

namespace Cosmac

/-- A number as a document gives it. -/
inductive Quantity where
  | whole (value : Int)
  | real (value : Float)
  | flag (value : Bool)

namespace Quantity

/-- The quantity that a value is, if it is a number. -/
def ofJson? : Json → Option Quantity
  | .int value => some (whole value)
  | .float value => some (real value)
  | .bool value => some (flag value)
  | .null | .text _ | .list _ | .object _ => none

/-- The quantity as a value. -/
def toJson : Quantity → Json
  | whole value => .int value
  | real value => .float value
  | flag value => .bool value

/-- The text of a quantity. -/
def display : Quantity → String
  | whole value => Numeral.decimal value
  | real value => Binary64.display value
  | flag value => if value then "True" else "False"

/-- The whole number that a quantity is, unless it was given as a double. -/
def integer? : Quantity → Option Int
  | whole value => some value
  | flag value => some (if value then 1 else 0)
  | real _ => none

/-- Whether a quantity is at most a whole number. -/
def atMost (q : Quantity) (bound : Int) : Bool :=
  match q.integer?, q with
  | some value, _ => value ≤ bound
  | none, real value => value ≤ Float.ofInt bound
  | none, _ => false

/-- Whether a quantity is less than a whole number. -/
def lessThan (q : Quantity) (bound : Int) : Bool :=
  match q.integer?, q with
  | some value, _ => value < bound
  | none, real value => value < Float.ofInt bound
  | none, _ => false

/-- The double nearest to a quantity. -/
def toFloat (q : Quantity) : Except ArithmeticError Float :=
  match q.integer?, q with
  | some value, _ =>
    match Binary64.ofInt? value with
    | some v => .ok v.toFloat
    | none => .error .overflow
  | none, real value => .ok value
  | none, _ => .error .undefined

/-! ### Arithmetic -/

/-- Whether a whole number is less than a double, compared exactly. -/
def wholeLess (n : Int) (x : Float) : Bool :=
  match Binary64.finite? x with
  | some v => n * v.ratio.2 < v.numerator
  | none => 0.0 < x

/-- Whether a double is less than a whole number, compared exactly. -/
def lessWhole (x : Float) (n : Int) : Bool :=
  match Binary64.finite? x with
  | some v => v.numerator < n * v.ratio.2
  | none => x < 0.0

/-- Whether a quantity is less than another. -/
def less (a b : Quantity) : Bool :=
  match a.integer?, b.integer?, a, b with
  | some m, some n, _, _ => m < n
  | some m, none, _, real y => wholeLess m y
  | none, some n, real x, _ => lessWhole x n
  | none, none, real x, real y => x < y
  | _, _, _, _ => false

/-- Combines two quantities: whole numbers as such, and otherwise as doubles. -/
def combine (onWhole : Int → Int → Int) (onReal : Float → Float → Float) (a b : Quantity) :
    Except ArithmeticError Quantity :=
  match a.integer?, b.integer? with
  | some m, some n => .ok (whole (onWhole m n))
  | _, _ => do return real (onReal (← a.toFloat) (← b.toFloat))

/-- The quotient of two quantities as a double. -/
def divide (a b : Quantity) : Except ArithmeticError Quantity := do
  match a.integer?, b.integer? with
  | some m, some n =>
    if n = 0 then throw .divisionByZero
    match Binary64.nearest? m.natAbs n.natAbs with
    | some v => return real { v with negative := (m < 0) != (n < 0) }.toFloat
    | none => throw .overflow
  | _, _ => return real (← Binary64.divide (← a.toFloat) (← b.toFloat))

/-- The integer part of a quantity, towards zero. -/
def truncate : Quantity → Except ArithmeticError Int
  | whole value => .ok value
  | flag value => .ok (if value then 1 else 0)
  | real value => Binary64.truncate value

/-- The integer nearest to a double, a half going to the even neighbour. -/
def nearestInt (x : Float) : Except ArithmeticError Int :=
  match Binary64.finite? x with
  | some v => .ok v.round
  | none => .error (if x.isNaN then .undefined else .overflow)

/-- The quotient of two positive quantities, rounded to a double and then to the nearest integer.
Whole numbers of any size are divided exactly before the first rounding. -/
def roundedQuotient (a b : Quantity) : Except ArithmeticError Int :=
  match a.integer?, b.integer? with
  | some numerator, some denominator =>
    match Binary64.nearest? numerator.natAbs denominator.natAbs with
    | some v => .ok v.round
    | none => .error .overflow
  | _, _ => do nearestInt ((← a.toFloat) / (← b.toFloat))

end Quantity

end Cosmac
