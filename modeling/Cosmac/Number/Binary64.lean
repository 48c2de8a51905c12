/-!
# Exact values of double-precision numbers

A finite double is a signed integer multiple of a power of two. `finite?` decodes one, `nearest?`
rounds a quotient of natural numbers to the nearest double in exact arithmetic, and
`Exact.toFloat` encodes the result. All rounding goes to the nearest value, a half to the even
neighbour.
-/

set_option autoImplicit false

namespace Cosmac

/-- Why an operation on numbers has no result. -/
inductive ArithmeticError where
  /-- The result is too large. -/
  | overflow
  /-- The result is undefined. -/
  | undefined
  /-- The divisor is zero. -/
  | divisionByZero
  /-- There is something else where a number is needed. -/
  | notANumber
  deriving DecidableEq, Repr

/-- The wording of an error. -/
def ArithmeticError.message : ArithmeticError → String
  | overflow => "the result is too large"
  | undefined => "cannot convert float NaN to integer"
  | divisionByZero => "float division by zero"
  | notANumber => "a number is needed"

namespace Binary64

/-! ### Rounding to integers -/

/-- The natural number nearest to `num / den`; a half goes to the even neighbour. -/
def roundHalfEven (num den : Nat) : Nat :=
  let floor := num / den
  let twiceRest := 2 * (num % den)
  if twiceRest < den ∨ (twiceRest = den ∧ floor % 2 = 0) then floor else floor + 1

/-! ### Exact values -/

/-- The value `mantissa * 2 ^ exponent`, negated when `negative` holds. -/
structure Exact where
  /-- Whether the sign bit is set; it distinguishes the two zeros. -/
  negative : Bool
  /-- The integer significand. -/
  mantissa : Nat
  /-- The power of two that scales it. -/
  exponent : Int
  deriving DecidableEq, Repr

/-- The exponent of the smallest positive doubles. -/
def leastExponent : Int := -1074

/-- The exact value of a finite double, and none for an infinity or an undefined result. -/
def finite? (x : Float) : Option Exact :=
  let bits : Nat := x.toBits.toNat
  let negative := bits / Nat.pow 2 63 == 1
  let biased : Nat := bits / Nat.pow 2 52 % 2048
  let fraction : Nat := bits % Nat.pow 2 52
  if biased = 2047 then none
  else if biased = 0 then some ⟨negative, fraction, leastExponent⟩
  else some ⟨negative, fraction + Nat.pow 2 52, (biased : Int) - 1075⟩

/-- The double with a given exact value in the form that `nearest?` produces. -/
def Exact.toFloat (v : Exact) : Float :=
  let magnitude : Nat :=
    if v.mantissa < Nat.pow 2 52 then v.mantissa
    else (v.exponent + 1075).toNat * Nat.pow 2 52 + (v.mantissa - Nat.pow 2 52)
  Float.ofBits (UInt64.ofNat (if v.negative then Nat.pow 2 63 + magnitude else magnitude))

/-- The magnitude as a quotient of natural numbers. -/
def Exact.ratio (v : Exact) : Nat × Nat :=
  (v.mantissa * Nat.pow 2 v.exponent.toNat, Nat.pow 2 (-v.exponent).toNat)

/-- The numerator of the value, with its sign. -/
def Exact.numerator (v : Exact) : Int :=
  if v.negative then -(v.ratio.1 : Int) else v.ratio.1

/-- The integer part, towards zero. -/
def Exact.truncate (v : Exact) : Int :=
  let magnitude : Int := v.ratio.1 / v.ratio.2
  if v.negative then -magnitude else magnitude

/-- The nearest integer; a half goes to the even neighbour. -/
def Exact.round (v : Exact) : Int :=
  let magnitude : Int := roundHalfEven v.ratio.1 v.ratio.2
  if v.negative then -magnitude else magnitude

/-! ### Rounding to doubles -/

/-- The greatest `k` with `2 ^ k ≤ num / den`, for positive arguments. -/
def floorLog2 (num den : Nat) : Int :=
  let k : Int := (num.log2 : Int) - den.log2
  if den * Nat.pow 2 k.toNat ≤ num * Nat.pow 2 (-k).toNat then k else k - 1

/-- The exponent of the doubles next to `num / den`: it leaves fifty-three significant bits, but
never falls below that of the smallest doubles. -/
def unitExponent (num den : Nat) : Int :=
  max leastExponent (floorLog2 num den - 52)

/-- The double nearest to `num / den` for positive `den`, or none if it is too large to be finite.
The mantissa lies below `2 ^ 53`, and from `2 ^ 52` on unless the exponent is the least. -/
def nearest? (num den : Nat) : Option Exact :=
  if num = 0 then some ⟨false, 0, leastExponent⟩
  else
    let e := unitExponent num den
    let m := roundHalfEven (num * Nat.pow 2 (-e).toNat) (den * Nat.pow 2 e.toNat)
    let v : Exact := if m = Nat.pow 2 53 then ⟨false, Nat.pow 2 52, e + 1⟩ else ⟨false, m, e⟩
    if v.exponent ≤ 971 then some v else none

/-- The double nearest to an integer, or none if it is too large. -/
def ofInt? (n : Int) : Option Exact :=
  (nearest? n.natAbs 1).map fun v ↦ { v with negative := n < 0 }

/-- The integer part of a finite double, towards zero. -/
def truncate? (x : Float) : Option Int :=
  (finite? x).map Exact.truncate

/-- The integer part of a double, towards zero. -/
def truncate (x : Float) : Except ArithmeticError Int :=
  match truncate? x with
  | some n => .ok n
  | none => .error (if x.isNaN then .undefined else .overflow)

/-- The quotient of two doubles, the second not zero. -/
def divide (x y : Float) : Except ArithmeticError Float :=
  if y == 0.0 then .error .divisionByZero else .ok (x / y)

/-- The double nearest to `digits * 10 ^ exponent`, infinite when it is too large. Exponents far
outside the range of doubles are decided without being computed. -/
def ofDecimal (negative : Bool) (digits : Nat) (exponent : Int) : Float :=
  let width : Int := (digits.log2 + 1 : Nat)
  let zero : Exact := ⟨negative, 0, leastExponent⟩
  let infinity : Float := if negative then -1.0 / 0.0 else 1.0 / 0.0
  if digits = 0 ∨ exponent + width < -400 then zero.toFloat
  else if 400 < exponent then infinity
  else
    match nearest? (digits * Nat.pow 10 exponent.toNat) (Nat.pow 10 (-exponent).toNat) with
    | some v => Exact.toFloat { v with negative := negative }
    | none => infinity

end Binary64

end Cosmac
