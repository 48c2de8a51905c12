import Cosmac.Proofs.Number.Magnitude
import Cosmac.Proofs.Run.Schedule
import Cosmac.Run.Paced

/-!
# Moments of a paced run

A paced run follows a clock. A `Moment` is what it knows of the clock between two steps, and
`Moment.after` leads from one to the next. Unless arithmetic on the readings fails, the paced run is
a scheduled one (`Run.paced_eq_scheduled`): its schedule is what the clock makes due between the
steps (`Moment.due`). On a clock that shows times, arithmetic fails only where the clock of the
timer ticks does (`Moment.exists_after_eq`).
-/

set_option autoImplicit false

namespace Cosmac

/-! ### Moments -/

/-- The pace of a run between two of its steps, and the state that its host is in. -/
structure Moment (σ : Type) where
  /-- The pace. -/
  pace : Pace
  /-- The state of the host. -/
  host : σ

namespace Moment

variable {σ : Type} (time : Timekeeper (StateM σ))

/-- What the clock of the timer ticks makes of the next reading. -/
def advance (moment : Moment σ) : Except ArithmeticError (Int × TickClock Quantity) :=
  moment.pace.tickClock.advance (time.now moment.host).1

/-- The moment after one more step, the last of the given number. The clock is read twice, for the
ticks and for the time until the next step is due, which the host then lets pass. -/
def next (moment : Moment σ) (steps : Nat) : Except ArithmeticError (Moment σ) := do
  let (_, tickClock) ← moment.advance time
  let (now, host) := time.now (time.now moment.host).2
  let delay ← ClockNumber.subtract (← moment.pace.target steps) now
  return ⟨{ moment.pace with tickClock := tickClock },
    if ClockNumber.less (.whole 0) delay then (time.sleep delay host).2 else host⟩

/-- The moment after a number of steps. -/
def after (start : Moment σ) : Nat → Except ArithmeticError (Moment σ)
  | 0 => .ok start
  | taken + 1 => do (← start.after taken).next time (taken + 1)

/-- The number of ticks that follow a step, given how many steps it completes. -/
def due (start : Moment σ) : Nat → Nat
  | 0 => 0
  | taken + 1 =>
    match do (← start.after time taken).advance time with
    | .ok (ticks, _) => ticks.toNat
    | .error _ => 0

/-- The moment at which a run starts that follows a clock. -/
def first (host : σ) (tickClock : TickClock Quantity) (stepPeriod : Quantity) : Moment σ :=
  let (start, later) := time.now host
  ⟨⟨tickClock.reset (some start), start, stepPeriod⟩, later⟩

/-- Whether the clock of the timer ticks has an answer to the readings after each of a number of
steps. -/
def ClockAnswers (start : Moment σ) (count : Nat) : Prop :=
  ∀ taken < count, ∀ moment : Moment σ, start.after time taken = .ok moment →
    ∃ answer, moment.advance time = .ok answer

end Moment

/-- Whether a clock shows nothing but times. -/
def Timekeeper.ShowsTimes {σ : Type} (time : Timekeeper (StateM σ)) : Prop :=
  ∀ host : σ, (time.now host).1.IsTime

theorem Pace.exists_target_eq {pace : Pace} {steps : Nat} {period : Float}
    (hstart : pace.start.HasDouble) (hperiod : pace.stepPeriod = .real period)
    (hsteps : steps < 2 ^ 1023) : ∃ x : Float, pace.target steps = .ok (.real x) := by
  have hwhole : (Quantity.whole steps).HasDouble := Quantity.hasDouble_whole hsteps
  obtain ⟨y, hy⟩ : ∃ y : Float,
      ClockNumber.multiply (.whole steps) pace.stepPeriod = .ok (.real y) :=
    hperiod ▸ Quantity.exists_combine_real _ _ hwhole period
  obtain ⟨x, hx⟩ : ∃ x : Float, ClockNumber.add pace.start (.real y) = .ok (.real x) :=
    Quantity.exists_combine_real _ _ hstart y
  refine ⟨x, ?_⟩
  rw [target, hy]
  exact hx

namespace Moment

variable {σ : Type} {time : Timekeeper (StateM σ)}

/-- A clock that shows times leads from a moment to the next if the clock of the timer ticks has an
answer to its reading. -/
theorem exists_next_eq {moment : Moment σ} {steps : Nat} {period : Float}
    (htime : time.ShowsTimes) (hstart : moment.pace.start.HasDouble)
    (hperiod : moment.pace.stepPeriod = .real period) (hsteps : steps < 2 ^ 1023)
    {answer : Int × TickClock Quantity} (hanswer : moment.advance time = .ok answer) :
    ∃ host : σ, moment.next time steps =
      .ok ⟨{ moment.pace with tickClock := answer.2 }, host⟩ := by
  obtain ⟨target, htarget⟩ := Pace.exists_target_eq hstart hperiod hsteps
  have hnow := (htime (time.now moment.host).2).hasDouble
  rw [next, hanswer]
  generalize time.now (time.now moment.host).2 = second at hnow
  obtain ⟨now, later⟩ := second
  obtain ⟨delay, hdelay⟩ : ∃ delay : Float,
      ClockNumber.subtract (.real target) now = .ok (.real delay) :=
    Quantity.exists_real_combine _ _ target hnow
  simp only [bind, Except.bind, htarget, hdelay]
  exact ⟨_, rfl⟩

theorem clockAnswers_of_isOk {start : Moment σ} {count : Nat}
    (hanswers : ∀ taken < count, (do (← start.after time taken).advance time).isOk = true) :
    start.ClockAnswers time count := by
  intro taken htaken moment hmoment
  have hanswer := hanswers taken htaken
  rw [hmoment] at hanswer
  change (moment.advance time).isOk = true at hanswer
  cases hadvance : moment.advance time with
  | ok answer => exact ⟨answer, rfl⟩
  | error error =>
    rw [hadvance] at hanswer
    cases hanswer

/-- While the clock of the timer ticks has answers, a clock that shows times leads on from moment to
moment. -/
theorem exists_after_eq {start : Moment σ} {count : Nat} {period : Float}
    (htime : time.ShowsTimes) (hstart : start.pace.start.HasDouble)
    (hperiod : start.pace.stepPeriod = .real period) (hcount : count < 2 ^ 1023)
    (hclock : start.ClockAnswers time count) :
    ∀ taken ≤ count, ∃ moment : Moment σ, start.after time taken = .ok moment ∧
      moment.pace.start = start.pace.start ∧ moment.pace.stepPeriod = start.pace.stepPeriod := by
  intro taken htaken
  induction taken with
  | zero => exact ⟨start, rfl, rfl, rfl⟩
  | succ taken ih =>
    obtain ⟨moment, hmoment, hkept, hpaced⟩ := ih (by omega)
    obtain ⟨answer, hanswer⟩ := hclock taken (by omega) moment hmoment
    have hbelow : taken + 1 < 2 ^ 1023 := by omega
    obtain ⟨host, hnext⟩ := exists_next_eq htime (hkept ▸ hstart) (hpaced.trans hperiod) hbelow
      hanswer
    refine ⟨⟨{ moment.pace with tickClock := answer.2 }, host⟩, ?_, hkept, hpaced⟩
    rw [after, hmoment]
    exact hnext

end Moment

namespace Run

variable {σ : Type} (time : Timekeeper (StateM σ))

/-! ### Paced runs -/

theorem paced_succ (moment : Moment σ) (r : Run) (count : Nat) :
    r.paced time moment.pace (count + 1) moment.host =
      match r.step with
      | (false, after) => (.ok after, moment.host)
      | (true, after) =>
        match moment.advance time, moment.next time after.steps with
        | .ok (due, _), .ok later =>
          (after.ticks due.toNat).paced time later.pace count later.host
        | .error error, _ => (.error error, (time.now moment.host).2)
        | .ok _, .error error => (.error error, (time.now (time.now moment.host).2).2) := by
  rw [paced]
  generalize r.step = result
  obtain ⟨goesOn, after⟩ := result
  cases goesOn with
  | false => rfl
  | true =>
    simp only [Moment.next, Moment.advance, bind, StateT.bind, pure, steps_ticks]
    generalize time.now moment.host = first
    obtain ⟨reading, host⟩ := first
    dsimp only
    cases moment.pace.tickClock.advance reading with
    | error => rfl
    | ok answer =>
      simp only [Except.bind, Except.pure, StateT.bind, bind]
      generalize time.now host = second
      obtain ⟨now, later⟩ := second
      dsimp only
      cases moment.pace.target after.steps with
      | error => rfl
      | ok target =>
        dsimp only
        cases ClockNumber.subtract target now with
        | error => rfl
        | ok delay =>
          dsimp only
          split_ifs <;> rfl

/-- A paced run is the run with the schedule of its clock, unless arithmetic fails before the end of
that run. -/
theorem paced_eq_scheduled (start : Moment σ) {moment : Moment σ} {r : Run} (count : Nat)
    (hmoment : start.after time r.steps = .ok moment) :
    ∃ later : σ,
      r.paced time moment.pace count moment.host =
          (.ok (r.scheduled (start.due time) count), later) ∨
        ∃ (taken : Nat) (error : ArithmeticError),
          taken ≤ (r.scheduled (start.due time) count).steps ∧
            start.after time taken = .error error ∧
              r.paced time moment.pace count moment.host = (.error error, later) := by
  induction count generalizing r moment with
  | zero => exact ⟨moment.host, .inl rfl⟩
  | succ count ih =>
    have hsteps := r.steps_step
    rw [paced_succ, scheduled]
    generalize r.step = result at hsteps
    obtain ⟨goesOn, after⟩ := result
    cases goesOn with
    | false => exact ⟨moment.host, .inl rfl⟩
    | true =>
      obtain hsteps : after.steps = r.steps + 1 := hsteps
      have hnext : start.after time after.steps = moment.next time after.steps := by
        rw [hsteps, Moment.after, hmoment]
        rfl
      have hdue : start.due time after.steps =
          match moment.advance time with
          | .ok (ticks, _) => ticks.toNat
          | .error _ => 0 := by
        rw [hsteps, Moment.due, hmoment]
        rfl
      have hbound : after.steps ≤
          ((after.ticks (start.due time after.steps)).scheduled (start.due time) count).steps := by
        rw [steps_scheduled, steps_ticks]
        exact Nat.le_add_right _ _
      dsimp only
      cases hadvance : moment.advance time with
      | error error =>
        have hfailed : moment.next time after.steps = .error error := by
          rw [Moment.next, hadvance]
          rfl
        exact ⟨_, .inr ⟨after.steps, error, hbound, hnext.trans hfailed, rfl⟩⟩
      | ok answer =>
        cases hlater : moment.next time after.steps with
        | error error => exact ⟨_, .inr ⟨after.steps, error, hbound, hnext.trans hlater, rfl⟩⟩
        | ok later =>
          have hticks : start.due time after.steps = answer.1.toNat := by rw [hdue, hadvance]
          rw [hticks]
          exact ih (by rw [steps_ticks, hnext, hlater])

/-- A paced run computes what a fast one does that executes no word that reads a timer, unless
arithmetic fails after one of the steps of the fast run. -/
theorem paced_cases {start moment : Moment σ} {r : Run} (period count : Nat)
    (hmoment : start.after time r.steps = .ok moment)
    (hwords : ∀ word ∈ r.words (evenly period) count, word.isPeripheral 0x07 = false) :
    ∃ later : σ,
      (∃ run : Run, r.paced time moment.pace count moment.host = (.ok run, later) ∧
        (r.fast period count).SameComputation run) ∨
      ∃ (taken : Nat) (error : ArithmeticError),
        taken ≤ (r.fast period count).steps ∧ start.after time taken = .error error ∧
          r.paced time moment.pace count moment.host = (.error error, later) := by
  have hsame := (SameComputation.refl r).scheduled (evenly period) (start.due time) count hwords
  rw [← fast_eq_scheduled] at hsame
  obtain ⟨later, hpaced | ⟨taken, error, htaken, herror, hpaced⟩⟩ :=
    paced_eq_scheduled time start count hmoment
  · exact ⟨later, .inl ⟨_, hpaced, hsame⟩⟩
  · rw [hsame.steps] at htaken
    exact ⟨later, .inr ⟨taken, error, htaken, herror, hpaced⟩⟩

end Run

end Cosmac
