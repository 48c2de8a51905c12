import Cosmac.Proofs.Run.Answer
import Mathlib

/-!
# Sessions at a pace

A session at a pace applies the timer ticks that a clock makes due, a session as fast as possible
applies one after every so many steps. If the fast one does not read the delay timer, both compute
the same (`pacing_keeps_computation`): both runs are scheduled ones, and schedules are no matter to
such runs (`Run.paced_cases`).
-/

set_option autoImplicit false

namespace Cosmac

namespace Session

variable {files : Files} {request : SessionRequest} {journal : Journal}

/-! ### Beginnings -/

theorem steps_of_begin {fresh : Run} (hbegin : begin files request journal = .ok fresh) :
    fresh.steps = 0 := by
  unfold begin at hbegin
  split at hbegin
  · cases hbegin
  · split at hbegin
    · cases hbegin
    · cases hbegin
      rfl

/-- The time that a step takes is a double. -/
theorem exists_real_of_rates {config : Config} {tickClock : TickClock Quantity}
    {stepPeriod : Quantity} {stepsPerTick : Nat}
    (hrates : rates config = .ok (tickClock, stepPeriod, stepsPerTick)) :
    ∃ period : Float, stepPeriod = .real period := by
  obtain ⟨timerRate, -, hclock⟩ := exists_of_bind_eq_ok hrates
  obtain ⟨clock, -, hstep⟩ := exists_of_bind_eq_ok hclock
  obtain ⟨stepRate, -, htick⟩ := exists_of_bind_eq_ok hstep
  obtain ⟨tick, -, hends⟩ := exists_of_bind_eq_ok htick
  cases hends
  exact ⟨1.0 / stepRate, rfl⟩

/-! ### Fast and paced sessions -/

/-- A session fails before its first step, whatever its clock and whether it is fast, or it
begins. -/
theorem fails_or_begins (files : Files) (request : SessionRequest) (journal : Journal) :
    (∃ cause : SessionError, ∀ {σ : Type} (time : Timekeeper (StateM σ)) (host : σ) (fast : Bool),
      (run files time { request with fast := fast } journal host).1 = .error cause) ∨
    ∃ (fresh : Run) (tickClock : TickClock Quantity) (stepPeriod : Quantity) (stepsPerTick : Nat)
        (steps : Int),
      begin files request journal = .ok fresh ∧
        rates request.config = .ok (tickClock, stepPeriod, stepsPerTick) ∧
          request.steps = .value steps := by
  simp only [run_eq]
  cases begin files request journal with
  | error cause => exact .inl ⟨cause, fun _ _ _ ↦ rfl⟩
  | ok fresh =>
    cases rates request.config with
    | error cause => exact .inl ⟨.arithmetic cause, fun _ _ _ ↦ rfl⟩
    | ok rated =>
      cases request.steps with
      | misfit => exact .inl ⟨.misfit, fun _ _ _ ↦ rfl⟩
      | value steps => exact .inr ⟨fresh, _, _, _, steps, rfl, rfl, rfl⟩

section Begun

variable {fresh : Run} {tickClock : TickClock Quantity} {stepPeriod : Quantity}
  {stepsPerTick : Nat} {steps : Int} (hbegin : begin files request journal = .ok fresh)
  (hrates : rates request.config = .ok (tickClock, stepPeriod, stepsPerTick))
  (hgiven : request.steps = .value steps)

include hbegin hrates hgiven

theorem words_eq :
    words files request journal = fresh.words (Run.evenly stepsPerTick) steps.toNat := by
  rw [words, hbegin, hrates, hgiven]

/-- As fast as possible, a session takes a step for each of its words. -/
theorem steps_fast :
    (fresh.fast stepsPerTick steps.toNat).steps = (words files request journal).length := by
  rw [Run.fast_eq_scheduled, Run.steps_scheduled, steps_of_begin hbegin, Nat.zero_add,
    words_eq hbegin hrates hgiven]

variable {σ τ : Type} {fastTime : Timekeeper (StateM σ)} {time : Timekeeper (StateM τ)}
  {fastHost : σ} {host : τ}

theorem fast_eq :
    (run files fastTime { request with fast := true } journal fastHost).1 =
      answer files request (fastTime.now fastHost).1 (fastTime.now (fastTime.now fastHost).2).1
        (.ok (fresh.fast stepsPerTick steps.toNat)) := by
  rw [run_eq, hbegin, hrates, hgiven]
  rfl

/-- At a pace, the run of a session has computed the same as the fast run, or arithmetic has failed
on the way. -/
theorem paced_cases
    (hwords : ∀ word ∈ words files request journal, word.isPeripheral 0x07 = false) :
    (∃ (q : Run) (later : τ), (fresh.fast stepsPerTick steps.toNat).SameComputation q ∧
      (run files time { request with fast := false } journal host).1 =
        answer files request (time.now host).1 (time.now later).1 (.ok q)) ∨
    ∃ (taken : Nat) (error : ArithmeticError), taken ≤ (words files request journal).length ∧
      (Moment.first time host tickClock stepPeriod).after time taken = .error error ∧
      (run files time { request with fast := false } journal host).1 =
        .error (.arithmetic error) := by
  have hmoment : (Moment.first time host tickClock stepPeriod).after time fresh.steps =
      .ok (.first time host tickClock stepPeriod) := by
    rw [steps_of_begin hbegin]
    rfl
  rw [words_eq hbegin hrates hgiven] at hwords
  rw [run_eq, hbegin, hrates, hgiven]
  simp only [Bool.false_eq_true, ↓reduceIte]
  obtain ⟨later, ⟨q, hpaced, hsame⟩ | ⟨taken, error, htaken, herror, hpaced⟩⟩ :=
    Run.paced_cases time stepsPerTick steps.toNat hmoment hwords
  · rw [hpaced]
    exact .inl ⟨q, later, hsame, rfl⟩
  · rw [steps_fast hbegin hrates hgiven] at htaken
    rw [hpaced]
    exact .inr ⟨taken, error, htaken, herror, rfl⟩

theorem sameComputation_of_results
    (hwords : ∀ word ∈ words files request journal, word.isPeripheral 0x07 = false)
    {fastResult result : SessionResult}
    (hfast : (run files fastTime { request with fast := true } journal fastHost).1 =
      .ok fastResult)
    (hresult : (run files time { request with fast := false } journal host).1 = .ok result) :
    fastResult.run.SameComputation result.run := by
  rw [fast_eq hbegin hrates hgiven] at hfast
  obtain ⟨q, later, hsame, hpaced⟩ | ⟨taken, error, -, -, hpaced⟩ :=
    paced_cases hbegin hrates hgiven hwords
  · rw [hpaced] at hresult
    obtain ⟨fastJournal, hfastRun⟩ := exists_run_eq_of_answer hfast
    obtain ⟨journal, hrun⟩ := exists_run_eq_of_answer hresult
    rw [hfastRun, hrun]
    exact hsame.withJournals fastJournal journal
  · rw [hpaced] at hresult
    cases hresult

theorem agree_of_clockAnswers
    (hwords : ∀ word ∈ words files request journal, word.isPeripheral 0x07 = false)
    (hcount : (words files request journal).length < 2 ^ 1023) (hfastTime : fastTime.ShowsTimes)
    (htime : time.ShowsTimes)
    (hclock : (Moment.first time host tickClock stepPeriod).ClockAnswers time
      (words files request journal).length) :
    Agree (run files fastTime { request with fast := true } journal fastHost).1
      (run files time { request with fast := false } journal host).1 := by
  rw [fast_eq hbegin hrates hgiven]
  obtain ⟨q, later, hsame, hpaced⟩ | ⟨taken, error, htaken, herror, -⟩ :=
    paced_cases hbegin hrates hgiven hwords
  · rw [hpaced]
    rw [← steps_fast hbegin hrates hgiven] at hcount
    exact agree_answer hsame hcount (hfastTime _) (hfastTime _) (htime _) (htime _)
  · obtain ⟨period, hperiod⟩ := exists_real_of_rates hrates
    obtain ⟨moment, hreached, -⟩ :=
      Moment.exists_after_eq htime (htime host).hasDouble hperiod hcount hclock taken htaken
    rw [hreached] at herror
    cases herror

end Begun

end Session

/-- A session at a pace computes what the same session computes as fast as possible, unless the fast
one executes a word that reads the delay timer: whatever the two clocks show and however they let
time pass, results of the two sessions are on runs that have computed the same. If the clocks show
times, the clock of the timer ticks has an answer to each reading, and fewer than `2 ^ 1023` words
are executed, then both sessions have a result, or both fail with the same error. -/
theorem pacing_keeps_computation {σ τ : Type} (files : Files) (request : SessionRequest)
    (journal : Journal) (fastTime : Timekeeper (StateM σ)) (time : Timekeeper (StateM τ))
    (fastHost : σ) (host : τ)
    (hwords : ∀ word ∈ Session.words files request journal, word.isPeripheral 0x07 = false) :
    let fastAnswer := (Session.run files fastTime { request with fast := true } journal fastHost).1
    let answer := (Session.run files time { request with fast := false } journal host).1
    let count := (Session.words files request journal).length
    (∀ fastResult result : SessionResult, fastAnswer = .ok fastResult → answer = .ok result →
      fastResult.run.SameComputation result.run) ∧
    (fastTime.ShowsTimes → time.ShowsTimes →
      (∀ (tickClock : TickClock Quantity) (stepPeriod : Quantity) (stepsPerTick : Nat),
        Session.rates request.config = .ok (tickClock, stepPeriod, stepsPerTick) →
          (Moment.first time host tickClock stepPeriod).ClockAnswers time count) →
      count < 2 ^ 1023 → Session.Agree fastAnswer answer) := by
  intro fastAnswer answer count
  obtain ⟨cause, hfailed⟩ | ⟨fresh, tickClock, stepPeriod, stepsPerTick, steps, hbegin, hrates,
    hgiven⟩ := Session.fails_or_begins files request journal
  · have hfast : fastAnswer = .error cause := hfailed fastTime fastHost true
    have hpaced : answer = .error cause := hfailed time host false
    rw [hfast, hpaced]
    exact ⟨fun _ _ hresult ↦ (nomatch hresult), fun _ _ _ _ ↦ .error cause⟩
  · refine ⟨fun fastResult result hfast hresult ↦ ?_, fun hfastTime htime hclock hcount ↦ ?_⟩
    · exact Session.sameComputation_of_results hbegin hrates hgiven hwords hfast hresult
    · exact Session.agree_of_clockAnswers hbegin hrates hgiven hwords hcount hfastTime htime
        (hclock tickClock stepPeriod stepsPerTick hrates)

/-- A program that sets the delay timer does not read it. The clock moves half a second with every
reading, so that thirty and sixty ticks are due after its two steps. -/
theorem pacing_keeps_computation_of_delay :
    let program : Program := ⟨#[0x60, 0x05, 0xF0, 0x15], by decide⟩
    let files : Files := ⟨[], [(["p"], .file program.bytes)]⟩
    let config : Config := { Config.standard with seed := .int 7 }
    let request : SessionRequest :=
      ⟨⟨.here, ["p"]⟩, .value 2, config, true, none, none, true, true⟩
    let journal := Journal.start .error
    let time : Timekeeper (StateM Float) :=
      ⟨fun now ↦ (.real now, now + 0.5), fun duration now ↦
        ((), match duration with
          | .real seconds => now + seconds
          | .whole _ | .flag _ => now)⟩
    let tickClock : TickClock Quantity := ⟨.real 60.0, .real (1.0 / 60.0), none⟩
    let first := Moment.first time 100.0 tickClock (.real (1.0 / 700.0))
    Session.words files request journal = [0x6005, 0xF015] ∧
      first.due time 1 = 30 ∧ first.due time 2 = 60 ∧
      Session.Agree (Session.run files time { request with fast := true } journal 0.0).1
        (Session.run files time { request with fast := false } journal 100.0).1 := by
  intro program files config request journal time tickClock first
  let m : Machine := .powerOn program .screen .idle (.generator (.ofSeed 7))
  let after : Machine := (m.setRegister 0 5).complete 0x202
  have hbytes : Program.fileBytes ⟨[], [(["p"], .file #[0x60, 0x05, 0xF0, 0x15])]⟩ ⟨.here, ["p"]⟩ =
      .ok #[0x60, 0x05, 0xF0, 0x15] := by cbv
  have hbegin : Session.begin files request journal = .ok (.ofMachine m journal) := by
    rw [Session.begin, Session.loadProgram, hbytes]
    rfl
  have hrates : Session.rates config =
      .ok (tickClock, .real (1.0 / 700.0), 12) := rfl
  have hmemory : m.memory = Machine.initialMemory program := rfl
  have hfetch : m.fetch = 0x6005 := by
    have hpc : m.pc = (programStart + 0 : Nat) := rfl
    rw [Machine.fetch_initialMemory hmemory hpc (by decide)]
    decide
  have hstep : m.step = (.executed m.fetch none, after) :=
    Machine.step_of_execute rfl (by rw [hfetch]; rfl) rfl
  have hkept : after.memory = Machine.initialMemory program := rfl
  have hfetch' : after.fetch = 0xF015 := by
    have hpc : after.pc = (programStart + 2 : Nat) := rfl
    rw [Machine.fetch_initialMemory hkept hpc (by decide)]
    decide
  have hstep' : after.step =
      (.executed after.fetch none, { after with timers := ⟨5, 0⟩ }.complete 0x204) :=
    Machine.step_of_execute rfl (by rw [hfetch']; rfl) rfl
  have hwords : Session.words files request journal = [0x6005, 0xF015] := by
    rw [Session.words_eq hbegin hrates rfl]
    change (Run.ofMachine m journal).words (Run.evenly 12) 2 = _
    rw [Run.words_of_step (r := .ofMachine m journal) _ 1 hstep]
    change m.fetch :: { Run.ofMachine after journal with steps := 1 }.words (Run.evenly 12) 1 = _
    rw [Run.words_of_step (r := { Run.ofMachine after journal with steps := 1 }) _ 0 hstep', hfetch]
    change [0x6005, after.fetch] = _
    rw [hfetch']
  have hcount : (Session.words files request journal).length = 2 := congrArg List.length hwords
  have htime : time.ShowsTimes := fun now ↦ Quantity.isTime_real now
  refine ⟨hwords, by decide +kernel, by decide +kernel, ?_⟩
  have hsilent : ∀ word ∈ Session.words files request journal, word.isPeripheral 0x07 = false := by
    rw [hwords, List.forall_mem_cons, List.forall_mem_singleton]
    exact ⟨rfl, rfl⟩
  obtain ⟨-, hagree⟩ := pacing_keeps_computation files request journal time time 0.0 100.0 hsilent
  rw [hcount] at hagree
  refine hagree htime htime ?_ (by omega)
  intro otherClock stepPeriod stepsPerTick hother
  obtain ⟨rfl, rfl, rfl⟩ : _ ∧ _ ∧ _ := by simpa using hrates.symm.trans hother
  apply Moment.clockAnswers_of_isOk
  decide +kernel

end Cosmac
