import Cosmac.Run.Basic
import Cosmac.Timers.Clock

/-!
# Paced runs

A paced run follows a clock: after each step it applies the timer ticks that have fallen due and
sleeps until the next step is due. The clock belongs to the host and is read through
`Timekeeper`; `SimulatedClock` is one that moves by a fixed amount with every reading.
-/

set_option autoImplicit false

namespace Cosmac

/-- A host's clock. -/
structure Timekeeper (m : Type → Type) where
  /-- Reads the clock, in seconds. -/
  now : m Quantity
  /-- Lets a number of seconds pass. -/
  sleep : Quantity → m Unit

/-- How fast a run is paced. -/
structure Pace where
  /-- The clock of the timer ticks. -/
  tickClock : TickClock Quantity
  /-- The time when the run started. -/
  start : Quantity
  /-- The time that a step takes. -/
  stepPeriod : Quantity

/-- The time at which a number of steps should have been taken. -/
def Pace.target (pace : Pace) (steps : Nat) : Except ArithmeticError Quantity := do
  ClockNumber.add pace.start (← ClockNumber.multiply (.whole steps) pace.stepPeriod)

/-- Takes up to the given number of steps at a pace. -/
def Run.paced {m : Type → Type} [Monad m] (time : Timekeeper m) (pace : Pace) (r : Run) :
    Nat → m (Except ArithmeticError Run)
  | 0 => pure (.ok r)
  | count + 1 =>
    match r.step with
    | (false, after) => pure (.ok after)
    | (true, after) => do
      match pace.tickClock.advance (← time.now) with
      | .error error => return .error error
      | .ok (due, tickClock) =>
        let ticked := after.ticks due.toNat
        let now ← time.now
        match do ClockNumber.subtract (← pace.target ticked.steps) now with
        | .error error => return .error error
        | .ok delay =>
          if ClockNumber.less (.whole 0) delay then time.sleep delay
          ticked.paced time { pace with tickClock := tickClock } count

/-! ### Simulated time -/

/-- A clock that moves by itself only when it is read. It cannot be read unless it moves between
times. -/
structure SimulatedClock where
  /-- The time that the next reading gives. -/
  time : Reading
  /-- How far a reading moves the clock. -/
  tickLength : Reading
  /-- The number of readings so far. -/
  readings : Nat
  /-- The number of sleeps so far. -/
  sleeps : Nat

namespace SimulatedClock

/-- A clock that has not been read. -/
def start (time tickLength : Reading) : SimulatedClock :=
  ⟨time, tickLength, 0, 0⟩

/-- Reads the clock. -/
def read (clock : SimulatedClock) : Except ArithmeticError (Quantity × SimulatedClock) := do
  let later ← ClockNumber.add clock.time clock.tickLength
  return (← clock.time.quantity, { clock with time := later, readings := clock.readings + 1 })

/-- Lets time pass. -/
def sleep (clock : SimulatedClock) (duration : Quantity) :
    Except ArithmeticError (Unit × SimulatedClock) := do
  let later ← ClockNumber.add clock.time (.time duration)
  return ((), { clock with time := later, sleeps := clock.sleeps + 1 })

/-- The simulated clock as the clock of a host. -/
def timekeeper : Timekeeper (StateT SimulatedClock (Except ArithmeticError)) where
  now := read
  sleep duration := (sleep · duration)

end SimulatedClock

end Cosmac
