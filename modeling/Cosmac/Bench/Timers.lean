import Cosmac.Bench.Answer
import Cosmac.Timers.Clock

/-!
# Timers on the bench

Operations on a pair of timers and on a tick clock.
-/

set_option autoImplicit false

namespace Cosmac.Bench

/-- The operation on timers that a document asks for. -/
def performTimers (t : Timers) (operation : Json) : Answer × Timers := settle t do
  match nameOf operation, operation.field? "value" with
  | "set_delay", some value => return (.ok .null, { t with delay := ← byteOf value })
  | "set_sound", some value => return (.ok .null, { t with sound := ← byteOf value })
  | "tick", none => let (t, tone) := t.tick; return (.ok (.bool tone), t)
  | "reset", none => return (.ok .null, .stopped)
  | _, _ => throw .surplus

/-- The operation on a tick clock that a document asks for. -/
def performClock (clock : TickClock Reading) (operation : Json) : Answer × TickClock Reading :=
  settle clock do
    let now := Reading.ofJson (operation.field "now")
    match nameOf operation with
    | "reset" => return (.ok .null, clock.resetTo now)
    | "advance" =>
      let (ticks, clock) ← clock.advanceTo now
      return (.ok (.int ticks), clock)
    | _ => throw .unknownOperation

/-- The tick clock of a rate, which must be positive. -/
def clockOfRate (rate : Json) : Except BenchError (TickClock Reading) := do
  let rate ← rate.quantity
  if rate.atMost 0 then throw (.badRate rate)
  TickClock.ofRate (Reading.time (.real (← rate.toFloat)))

end Cosmac.Bench
