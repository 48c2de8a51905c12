import Cosmac.Number.Quantity

/-!
# The tick clock

`TickClock` turns readings of a host's clock into whole timer ticks; fractions carry over from one
reading to the next. It works over any numbers with the operations of `ClockNumber`: hosts read
quantities, a `Reading` may also be no time, and rational numbers give the exact behaviour.
-/

set_option autoImplicit false

namespace Cosmac

/-- What a clock needs of its numbers. -/
class ClockNumber (α : Type) where
  /-- Whether the first number is less than the second. -/
  less : α → α → Bool
  add : α → α → Except ArithmeticError α
  subtract : α → α → Except ArithmeticError α
  multiply : α → α → Except ArithmeticError α
  divide : α → α → Except ArithmeticError α
  /-- The number that represents an integer. -/
  ofInt : Int → α
  /-- The integer part, towards zero. -/
  truncate : α → Except ArithmeticError Int

instance : ClockNumber Quantity where
  less := Quantity.less
  add := Quantity.combine (· + ·) (· + ·)
  subtract := Quantity.combine (· - ·) (· - ·)
  multiply := Quantity.combine (· * ·) (· * ·)
  divide := Quantity.divide
  ofInt := .whole
  truncate := Quantity.truncate

instance : ClockNumber Rat where
  less a b := a < b
  add a b := .ok (a + b)
  subtract a b := .ok (a - b)
  multiply a b := .ok (a * b)
  divide a b := if b = 0 then .error .divisionByZero else .ok (a / b)
  ofInt n := n
  truncate q := .ok (if q < 0 then q.ceil else q.floor)

/-! ### Readings -/

/-- What a host's clock shows. -/
inductive Reading where
  /-- Nothing at all. -/
  | nothing
  /-- Something that is no time. -/
  | noTime
  /-- A time. -/
  | time (value : Quantity)

namespace Reading

/-- What a value shows. -/
def ofJson : Json → Reading
  | .null => nothing
  | value => ((Quantity.ofJson? value).map time).getD noTime

/-- The time that a reading shows, as a value. -/
def toJson : Reading → Json
  | time value => value.toJson
  | nothing | noTime => .null

/-- The time that a reading shows. -/
def quantity : Reading → Except ArithmeticError Quantity
  | time value => .ok value
  | nothing | noTime => .error .notANumber

/-- Combines the times of two readings. -/
def combine (operation : Quantity → Quantity → Except ArithmeticError Quantity) (a b : Reading) :
    Except ArithmeticError Reading := do
  return time (← operation (← a.quantity) (← b.quantity))

end Reading

instance : ClockNumber Reading where
  less
    | .time a, .time b => Quantity.less a b
    | _, _ => false
  add := Reading.combine ClockNumber.add
  subtract := Reading.combine ClockNumber.subtract
  multiply := Reading.combine ClockNumber.multiply
  divide := Reading.combine ClockNumber.divide
  ofInt n := .time (.whole n)
  truncate a := do (← a.quantity).truncate

/-! ### The clock -/

/-- A clock that ticks at a fixed rate. -/
structure TickClock (α : Type) where
  /-- Ticks per unit of time. -/
  rate : α
  /-- The time between two ticks. -/
  period : α
  /-- The time up to which ticks have been counted, once there is one. -/
  last : Option α

namespace TickClock

variable {α : Type} [ClockNumber α]

/-- A clock of a given rate, which is not zero, that has not been read. -/
def ofRate (rate : α) : Except ArithmeticError (TickClock α) := do
  return ⟨rate, ← ClockNumber.divide (ClockNumber.ofInt 1) rate, none⟩

/-- Starts counting at a time, or at the next reading. -/
def reset (clock : TickClock α) (now : Option α) : TickClock α :=
  { clock with last := now }

/-- The ticks that have fallen due since the previous reading. The first reading only starts the
count, and a reading less than a period later gives none. -/
def advance (clock : TickClock α) (now : α) : Except ArithmeticError (Int × TickClock α) :=
  match clock.last with
  | none => .ok (0, { clock with last := some now })
  | some last => do
    let elapsed ← ClockNumber.subtract now last
    if ClockNumber.less elapsed clock.period then return (0, clock)
    let ticks ← ClockNumber.truncate (← ClockNumber.divide elapsed clock.period)
    let counted ← ClockNumber.multiply (ClockNumber.ofInt ticks) clock.period
    return (ticks, { clock with last := some (← ClockNumber.add last counted) })

/-- Starts counting at what a reading shows; nothing is no start. -/
def resetTo (clock : TickClock Reading) : Reading → TickClock Reading
  | .nothing => clock.reset none
  | shown => clock.reset (some shown)

/-- The ticks that have fallen due at a reading. One that shows nothing does not start the count. -/
def advanceTo (clock : TickClock Reading) (shown : Reading) :
    Except ArithmeticError (Int × TickClock Reading) :=
  match clock.last, shown with
  | none, .nothing => .ok (0, clock)
  | _, _ => clock.advance shown

end TickClock

end Cosmac
