import Cosmac.Service.Basic
import Cosmac.Timers.Clock

/-!
# The runner

The runner executes the machine of a service in batches, one per timer tick. `Runner.pass` is what
it does between two waits for the request to run, and `Runner.follow` is a whole run of it, in which
the users of the service act at the waits.
-/

set_option autoImplicit false

namespace Cosmac

namespace Service

/-- Takes a number of steps and stops after one that executes no word. The answer tells whether all
were taken. -/
def batch (s : Service) : Nat → Bool × Service
  | 0 => (true, s)
  | count + 1 =>
    match s.machine with
    | none => (false, s)
    | some machine =>
      match s.advance machine with
      | (.executed _ _, after) => after.batch count
      | (_, after) => (false, after)

/-- Counts the timers down several times. -/
def ticks (s : Service) : Nat → Service
  | 0 => s
  | count + 1 =>
    match s.machine with
    | none => s
    | some machine => (s.tickMachine machine).2.ticks count

end Service

/-- What the runner keeps for itself. -/
structure Runner where
  /-- The clock of the timer ticks. -/
  clock : TickClock Reading
  /-- The number of steps in a batch. -/
  batchSize : Nat

/-- What the runner did between two waits. -/
inductive Pass where
  /-- Nobody asked it to run, so it forgot the time. -/
  | idle
  /-- There was no machine, and the runner ended. -/
  | vacant
  /-- A step executed no word, and the service stopped running. -/
  | halted
  /-- It executed a batch and as many ticks as had fallen due, and slept. -/
  | completed (ticks : Int)
  deriving DecidableEq, Repr

namespace Runner

/-- The runner of a configuration. -/
def ofConfig (config : Config) : Except ArithmeticError Runner := do
  let clock ← TickClock.ofRate (.time (.real (← config.timerRate.toFloat)))
  return ⟨clock, (← config.stepsPerTick).toNat⟩

/-- What the runner does between two waits. `now` is what its clock shows after the batch; it is
read only if the batch is completed. -/
def pass (runner : Runner) (s : Service) (now : Reading) :
    Except ArithmeticError Pass × Runner × Service :=
  if !s.runRequested then (.ok .idle, { runner with clock := runner.clock.reset none }, s)
  else if s.machine.isNone then (.ok .vacant, runner, s)
  else
    match s.batch runner.batchSize with
    | (false, s) => (.ok .halted, runner, s.pause)
    | (true, s) =>
      match runner.clock.advanceTo now with
      | .error cause => (.error cause, runner, s)
      | .ok (ticks, clock) =>
        (.ok (.completed ticks), { runner with clock := clock },
          { s with toneActive := false }.ticks ticks.toNat)

/-! ### Whole runs -/

/-- What has happened in a run of the runner. -/
structure Record (α : Type) where
  /-- The number of waits. -/
  waits : Nat
  /-- The number of clock readings. -/
  readings : Nat
  /-- The sleeps, in order. -/
  sleeps : List Reading
  /-- What the users received. -/
  answers : List α

/-- The record of a run that has not started. -/
def Record.start {α : Type} : Record α :=
  ⟨0, 0, [], []⟩

/-- Runs the runner until there is no machine or no wait is left. At each wait the users act on the
service first. `clock` gives the readings of the clock by their number. -/
def follow {α : Type} (runner : Runner) (s : Service) (clock : Nat → Reading)
    (record : Record α) :
    List (Service → List α × Service) → Except ArithmeticError (Record α) × Service
  | [] => (.ok { record with waits := record.waits + 1 }, s)
  | act :: rest =>
    let (answers, s) := act s
    let record := { record with
      waits := record.waits + 1
      answers := record.answers ++ answers }
    match runner.pass s (clock record.readings) with
    | (.error cause, _, s) => (.error cause, s)
    | (.ok .vacant, _, s) => (.ok record, s)
    | (.ok (.completed _), runner, s) =>
      runner.follow s clock { record with
        readings := record.readings + 1
        sleeps := record.sleeps ++ [runner.clock.period] } rest
    | (.ok _, runner, s) => runner.follow s clock record rest

end Runner

end Cosmac
