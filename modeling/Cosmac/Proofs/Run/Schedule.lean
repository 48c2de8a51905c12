import Cosmac.Proofs.Instruction.Pattern
import Cosmac.Proofs.KeyWait
import Cosmac.Proofs.Machine.Devices
import Cosmac.Run.Basic

/-!
# Schedules of timer ticks

A schedule says how many timer ticks follow each step of a run (`Run.scheduled`); a fast run follows
one (`Run.fast_eq_scheduled`). Timers reach the rest of a machine through one instruction alone, the
one that reads the delay timer. So runs of which one does not execute it compute the same, whatever
their schedules (`Run.SameComputation.scheduled`).
-/

set_option autoImplicit false

namespace Cosmac

/-! ### Timers and steps -/

/-- A step with other timers leaves other timers. -/
theorem Devices.exists_stepped_withTimers (d : Devices) (m : Machine) (timers : Timers) :
    ∃ later : Timers,
      { d with timers := timers }.stepped m = { d.stepped m with timers := later } := by
  unfold stepped
  split
  · exact ⟨timers, rfl⟩
  · cases Instruction.decode? m.fetch with
    | none => exact ⟨timers, rfl⟩
    | some instruction => cases instruction <;> exact ⟨_, rfl⟩

/-- The timers are no matter to a step that does not execute the word that reads one. -/
theorem Machine.exists_step_withTimers {m : Machine}
    (hword : m.executes = true → m.fetch.isPeripheral 0x07 = false) (timers : Timers) :
    ∃ later : Timers,
      { m with timers := timers }.step = (m.step.1, { m.step.2 with timers := later }) := by
  obtain hfault | ⟨fault, hfault⟩ := m.fault.eq_none_or_eq_some
  · have hsuit (instruction : Instruction)
        (hdecode : Instruction.decode? m.fetch = some instruction) :
        { m.devices with timers := timers }.SuitFor m instruction := by
      refine ⟨fun hreads ↦ ?_, fun _ ↦ rfl, fun _ ↦ rfl⟩
      cases instruction
      case readDelay x =>
        have hexecutes : m.executes = true := by
          rw [executes, step_of_execute hfault hdecode rfl]
          rfl
        have hreader : m.fetch.isPeripheral 0x07 = true :=
          (Instruction.fits_of_decode? hdecode).1
        rw [hword hexecutes] at hreader
        cases hreader
      all_goals cases hreads
    obtain ⟨later, hlater⟩ := m.devices.exists_stepped_withTimers m timers
    refine ⟨later, (step_withDevices hsuit).trans ?_⟩
    rw [hlater, ← devices_step]
    rfl
  · have hhalted : { m with timers := timers }.fault = some fault := hfault
    rw [step_of_halted hhalted, step_of_halted hfault]
    exact ⟨timers, rfl⟩

namespace Run

/-! ### Schedules -/

/-- Takes up to the given number of steps. As many ticks follow each step as the schedule says for
the number of steps so far. -/
def scheduled (schedule : Nat → Nat) (r : Run) : Nat → Run
  | 0 => r
  | count + 1 =>
    match r.step with
    | (true, after) => scheduled schedule (after.ticks (schedule after.steps)) count
    | (false, after) => after

/-- The words that a scheduled run executes, in order. -/
def words (schedule : Nat → Nat) (r : Run) : Nat → List Word
  | 0 => []
  | count + 1 =>
    match r.step with
    | (true, after) =>
      r.machine.fetch :: words schedule (after.ticks (schedule after.steps)) count
    | (false, _) => []

/-- The schedule with a tick after each step whose number is a multiple of `period`. -/
def evenly (period steps : Nat) : Nat :=
  if steps % period = 0 then 1 else 0

theorem fast_eq_scheduled (period count : Nat) (r : Run) :
    r.fast period count = r.scheduled (evenly period) count := by
  induction count generalizing r with
  | zero => rfl
  | succ count ih =>
    rw [fast, scheduled]
    cases r.step with
    | mk goesOn after =>
      cases goesOn with
      | false => rfl
      | true =>
        have htick : after.ticks (evenly period after.steps) =
            if after.steps % period = 0 then after.tick else after := by
          unfold evenly
          split_ifs <;> rfl
        simp only [ih, htick]

/-! ### Steps and ticks -/

variable {r q : Run}

/-- A run goes on after a step that executes a word. -/
theorem step_fst (r : Run) : r.step.1 = r.machine.executes := by
  rw [step, Machine.executes]
  generalize r.machine.step = result
  obtain ⟨outcome, after⟩ := result
  cases outcome with
  | executed word diagnostic => cases diagnostic <;> rfl
  | faulted | refused => rfl

/-- A tick changes the timers of the machine and what has been counted and written down about
ticks. -/
theorem exists_tick_eq (r : Run) :
    ∃ journal : Journal, r.tick = { r with
      machine := { r.machine with timers := r.machine.timers.tick.1 }
      timerTicks := r.timerTicks + 1
      toneTicks := r.toneTicks + if r.machine.timers.sound != 0 then 1 else 0
      journal := journal } := by
  rw [tick, Machine.tick]
  obtain hsound | hsound := Bool.eq_false_or_eq_true (r.machine.timers.sound != 0)
  · simp only [Timers.tick, hsound, if_true]
    exact ⟨_, rfl⟩
  · simp only [Timers.tick, hsound, Bool.false_eq_true, if_false]
    exact ⟨_, rfl⟩

theorem steps_ticks (r : Run) (count : Nat) : (r.ticks count).steps = r.steps := by
  induction count generalizing r with
  | zero => rfl
  | succ count ih =>
    obtain ⟨journal, htick⟩ := r.exists_tick_eq
    rw [ticks, ih, htick]

theorem steps_step (r : Run) : r.step.2.steps = if r.step.1 then r.steps + 1 else r.steps := by
  rw [step]
  generalize r.machine.step = result
  obtain ⟨outcome, after⟩ := result
  cases outcome with
  | executed word diagnostic => cases diagnostic <;> rfl
  | faulted | refused => rfl

/-- A scheduled run counts a step for each word that it executes. -/
theorem steps_scheduled (schedule : Nat → Nat) (count : Nat) (r : Run) :
    (r.scheduled schedule count).steps = r.steps + (r.words schedule count).length := by
  induction count generalizing r with
  | zero => rfl
  | succ count ih =>
    have hsteps := r.steps_step
    rw [scheduled, words]
    generalize r.step = result at hsteps
    obtain ⟨goesOn, after⟩ := result
    cases goesOn with
    | false => exact hsteps
    | true =>
      have hafter : after.steps = r.steps + 1 := hsteps
      simp only [ih, steps_ticks, List.length_cons]
      omega

theorem words_of_step {after : Machine} {word : Word} (schedule : Nat → Nat) (count : Nat)
    (hstep : r.machine.step = (.executed word none, after)) :
    r.words schedule (count + 1) = r.machine.fetch ::
      ({ r with machine := after, steps := r.steps + 1 }.ticks
        (schedule (r.steps + 1))).words schedule count := by
  rw [words, step, hstep]

/-! ### Equal computations -/

/-- Two runs have computed the same: their machines are the same but for the timers, and they have
taken as many steps, met as many unknown words and been stopped by the same fault, if by any. -/
structure SameComputation (r q : Run) : Prop where
  machine : ∃ timers : Timers, q.machine = { r.machine with timers := timers }
  steps : q.steps = r.steps
  unknownWords : q.unknownWords = r.unknownWords
  fault : q.fault = r.fault

namespace SameComputation

theorem refl (r : Run) : r.SameComputation r :=
  ⟨⟨r.machine.timers, rfl⟩, rfl, rfl, rfl⟩

/-- What is written down is no part of what has been computed. -/
theorem withJournals (hsame : r.SameComputation q) (journal other : Journal) :
    { r with journal := journal }.SameComputation { q with journal := other } :=
  ⟨hsame.machine, hsame.steps, hsame.unknownWords, hsame.fault⟩

theorem screen (hsame : r.SameComputation q) : q.machine.screen = r.machine.screen := by
  obtain ⟨timers, hmachine⟩ := hsame.machine
  rw [hmachine]

theorem tick_left (hsame : r.SameComputation q) : r.tick.SameComputation q := by
  obtain ⟨timers, hmachine⟩ := hsame.machine
  obtain ⟨journal, htick⟩ := r.exists_tick_eq
  rw [htick]
  exact ⟨⟨timers, hmachine⟩, hsame.steps, hsame.unknownWords, hsame.fault⟩

theorem tick_right (hsame : r.SameComputation q) : r.SameComputation q.tick := by
  obtain ⟨timers, hmachine⟩ := hsame.machine
  obtain ⟨journal, htick⟩ := q.exists_tick_eq
  rw [htick]
  refine ⟨⟨q.machine.timers.tick.1, ?_⟩, hsame.steps, hsame.unknownWords, hsame.fault⟩
  simp only [hmachine]

/-- Ticks change nothing of what has been computed. -/
theorem ticks (hsame : r.SameComputation q) (count other : Nat) :
    (r.ticks count).SameComputation (q.ticks other) := by
  induction count generalizing r with
  | succ count ih => exact ih hsame.tick_left
  | zero =>
    induction other generalizing q with
    | zero => exact hsame
    | succ other ih => exact ih hsame.tick_right

/-- Runs that have computed the same do so in a step that does not read a timer. -/
theorem step (hsame : r.SameComputation q)
    (hword : r.step.1 = true → r.machine.fetch.isPeripheral 0x07 = false) :
    q.step.1 = r.step.1 ∧ r.step.2.SameComputation q.step.2 := by
  obtain ⟨timers, hmachine⟩ := hsame.machine
  rw [step_fst] at hword
  obtain ⟨later, hstep⟩ := Machine.exists_step_withTimers hword timers
  rw [← hmachine] at hstep
  rw [Run.step, Run.step, hstep]
  generalize r.machine.step = result
  obtain ⟨outcome, after⟩ := result
  cases outcome with
  | executed word diagnostic =>
    cases diagnostic with
    | none =>
      exact ⟨rfl, ⟨later, rfl⟩, congrArg (· + 1) hsame.steps, hsame.unknownWords, hsame.fault⟩
    | some event =>
      exact ⟨rfl, ⟨later, rfl⟩, congrArg (· + 1) hsame.steps,
        congrArg (· + 1) hsame.unknownWords, hsame.fault⟩
  | faulted fault => exact ⟨rfl, ⟨later, rfl⟩, hsame.steps, hsame.unknownWords, rfl⟩
  | refused fault => exact ⟨rfl, ⟨later, rfl⟩, hsame.steps, hsame.unknownWords, rfl⟩

/-- Runs that have computed the same go on to do so, whatever their schedules, if one of them does
not execute a word that reads a timer. -/
theorem scheduled (schedule other : Nat → Nat) (count : Nat) (hsame : r.SameComputation q)
    (hwords : ∀ word ∈ r.words schedule count, word.isPeripheral 0x07 = false) :
    (r.scheduled schedule count).SameComputation (q.scheduled other count) := by
  induction count generalizing r q with
  | zero => exact hsame
  | succ count ih =>
    rw [words] at hwords
    have hword : r.step.1 = true → r.machine.fetch.isPeripheral 0x07 = false := by
      intro hgoesOn
      apply hwords
      rw [show r.step = (true, r.step.2) from Prod.ext hgoesOn rfl]
      exact List.mem_cons_self
    obtain ⟨hgoesOn, hafter⟩ := hsame.step hword
    rw [Run.scheduled, Run.scheduled]
    generalize r.step = first, q.step = second at hgoesOn hafter hwords
    obtain ⟨goesOn, after⟩ := first
    obtain ⟨otherGoesOn, later⟩ := second
    obtain rfl : otherGoesOn = goesOn := hgoesOn
    cases otherGoesOn with
    | false => exact hafter
    | true =>
      exact ih (hafter.ticks _ _) fun word hmem ↦ hwords word (List.mem_cons_of_mem _ hmem)

end SameComputation

end Run

end Cosmac
