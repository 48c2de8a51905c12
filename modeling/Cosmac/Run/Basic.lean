import Cosmac.Machine.Start
import Cosmac.Machine.Step
import Cosmac.Run.Journal

/-!
# Headless runs

`Run` is a machine together with the counts that a host keeps while it runs. `Run.step` and
`Run.tick` advance it, and `Run.fast` runs it with one timer tick after every so many steps.
-/

set_option autoImplicit false

namespace Cosmac

/-- A running machine and what has been counted. -/
structure Run where
  /-- The machine. -/
  machine : Machine
  /-- The steps that executed a word. -/
  steps : Nat
  /-- The timer ticks. -/
  timerTicks : Nat
  /-- The timer ticks during which the tone sounded. -/
  toneTicks : Nat
  /-- The words that were no instruction. -/
  unknownWords : Nat
  /-- The fault that ended the run. -/
  fault : Option Fault
  /-- What has been written down. -/
  journal : Journal

namespace Run

/-- A run that has not started. -/
def ofMachine (machine : Machine) (journal : Journal) : Run :=
  ⟨machine, 0, 0, 0, 0, none, journal⟩

/-- Writes down an entry. -/
def record (r : Run) (level : LogLevel) (source : LogSource) (text : String) : Run :=
  { r with journal := r.journal.record level source text }

/-- Takes a step. The answer tells whether the run goes on. -/
def step (r : Run) : Bool × Run :=
  match r.machine.step with
  | (.executed _ none, machine) => (true, { r with machine := machine, steps := r.steps + 1 })
  | (.executed word (some event), machine) =>
    (true, { r with
      machine := machine
      steps := r.steps + 1
      unknownWords := r.unknownWords + 1
    }.record .warning .machine (event.message ++ " (" ++ word.mnemonic ++ ")"))
  | (.faulted fault, machine) =>
    (false, { r with
      machine := machine
      fault := some fault
    }.record .error .machine ("Machine halted: " ++ fault.message))
  | (.refused fault, machine) => (false, { r with machine := machine, fault := some fault })

/-- Counts the timers down. -/
def tick (r : Run) : Run :=
  let (tone, machine) := r.machine.tick
  let ticked := { r with machine := machine, timerTicks := r.timerTicks + 1 }
  if tone then
    { ticked with toneTicks := r.toneTicks + 1 }.record .debug .runner
      ("Tone on (sound timer " ++ Numeral.decimal machine.timers.sound.toNat ++ ")")
  else ticked

/-- Counts the timers down several times. -/
def ticks (r : Run) : Nat → Run
  | 0 => r
  | count + 1 => r.tick.ticks count

/-- Takes up to the given number of steps, with a timer tick after each step whose number is a
multiple of `period`. -/
def fast (period : Nat) (r : Run) : Nat → Run
  | 0 => r
  | count + 1 =>
    match r.step with
    | (true, after) =>
      fast period (if after.steps % period = 0 then after.tick else after) count
    | (false, after) => after

/-- Writes down the end of a run that a fault has stopped. -/
def conclude (r : Run) : Run :=
  match r.fault with
  | some fault =>
    r.record .error .runner
      ("Execution stopped after " ++ Numeral.decimal r.steps ++ " steps: " ++ fault.message)
  | none => r

end Run

end Cosmac
