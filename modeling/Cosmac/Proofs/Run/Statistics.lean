import Cosmac.Proofs.Number.Positive
import Cosmac.Proofs.Pacing

/-!
# The statistics of a session

As fast as possible, a session takes its steps with one tick of the timers after each step whose
number is a multiple of the period (`Machine.beats`). What its run has counted can be read off these
machines (`Run.Counts`): every step of the run preserves that (`Run.OnBeat.next`), and so it holds
when the run has ended (`Run.exists_ended_fast`). The result of a session, which it has at all whole
rates that are not too large, is about such a run (`Session.statistics_of_fast`).
-/

set_option autoImplicit false

namespace Cosmac

/-! ### Beats -/

namespace Machine

/-- The machine after a number of steps, with a tick after each step whose number is a multiple of
`period`. -/
def beats (period : Nat) (m : Machine) : Nat → Machine
  | 0 => m
  | taken + 1 =>
    let after := (m.beats period taken).step.2
    if (taken + 1) % period = 0 then after.tick.2 else after

/-- Whether a tick follows the step after the given number of steps and finds the sound timer
running. -/
def soundsAfter (period : Nat) (m : Machine) (taken : Nat) : Bool :=
  (taken + 1) % period = 0 && (m.beats period taken).step.2.timers.sound != 0

/-- Whether the word that comes after the given number of steps is not recognized. -/
def isLostAfter (period : Nat) (m : Machine) (taken : Nat) : Bool :=
  !(m.beats period taken).fetch.isRecognized

/-- How far a machine comes in a number of steps: it executes words until there are no more steps to
take or until it meets a fault. -/
structure ComesTo (m : Machine) (period limit taken : Nat) : Prop where
  /-- It takes no more steps than it may. -/
  within : taken ≤ limit
  /-- Each of them executes a word. -/
  executes : ∀ k < taken, (m.beats period k).executes = true
  /-- If it could take more, the next one faults. -/
  faults : taken < limit → ∃ fault, (m.beats period taken).step.1 = .faulted fault

/-- The machine where it has come to: after its last step and the tick that may follow it, or after
the step that faulted. -/
def final (m : Machine) (period limit taken : Nat) : Machine :=
  if taken < limit then (m.beats period taken).step.2 else m.beats period taken

variable {m : Machine}

theorem beats_zero (m : Machine) (period : Nat) : m.beats period 0 = m :=
  rfl

theorem beats_of_due {period taken : Nat} (hdue : (taken + 1) % period = 0) :
    m.beats period (taken + 1) = (m.beats period taken).step.2.tick.2 := by
  rw [beats, if_pos hdue]

theorem beats_of_not_due {period taken : Nat} (hdue : (taken + 1) % period ≠ 0) :
    m.beats period (taken + 1) = (m.beats period taken).step.2 := by
  rw [beats, if_neg hdue]

/-- A step that executes a word leaves the machine running. -/
theorem fault_of_executes (hexecutes : m.executes = true) : m.step.2.fault = none := by
  rw [executes] at hexecutes
  generalize hresult : m.step = result at hexecutes
  cases step_cases hresult with
  | refused | faulted => cases hexecutes
  | reported hrunning hdecode => exact hrunning
  | completed hrunning hdecode hexecute =>
    obtain ⟨-, -, -, hfault, -⟩ := records_of_execute hexecute
    exact hfault.trans hrunning

end Machine

namespace Run

variable {r : Run}

/-! ### Steps -/

/-- A run after a step that executes a word, with what has been written down. -/
def stepped (r : Run) (journal : Journal) : Run :=
  { r with
    machine := r.machine.step.2
    steps := r.steps + 1
    unknownWords := r.unknownWords + if r.machine.fetch.isRecognized then 0 else 1
    journal := journal }

/-- A step of a run whose machine is not halted executes a word or meets a fault. -/
theorem step_of_running (hrunning : r.machine.fault = none) :
    (r.machine.executes = true ∧ ∃ journal : Journal, r.step = (true, r.stepped journal)) ∨
    ∃ (fault : Fault) (journal : Journal), r.machine.step.1 = .faulted fault ∧
      r.step = (false, { r with
        machine := { r.machine with fault := some fault }
        fault := some fault
        journal := journal }) := by
  simp only [step, stepped, Machine.executes]
  generalize hresult : r.machine.step = result
  cases Machine.step_cases hresult with
  | refused hhalted =>
    rw [hrunning] at hhalted
    cases hhalted
  | reported hrunning hdecode =>
    rw [Word.isRecognized, hdecode]
    exact .inl ⟨rfl, _, rfl⟩
  | completed hrunning hdecode hexecute =>
    rw [Word.isRecognized, hdecode]
    exact .inl ⟨rfl, r.journal, rfl⟩
  | faulted => exact .inr ⟨_, _, rfl, rfl⟩

/-! ### Counts -/

/-- What a run has counted after a number of steps that execute words. -/
structure Counts (start : Machine) (period taken : Nat) (r : Run) : Prop where
  /-- The machine has counted the steps. -/
  cycleCount : r.machine.cycleCount = taken
  /-- So has the run. -/
  steps : r.steps = taken
  /-- There was a tick after every so many steps. -/
  timerTicks : r.timerTicks = taken / period
  /-- Some of them found the sound timer running. -/
  toneTicks : r.toneTicks = (List.range taken).countP (start.soundsAfter period)
  /-- Some words were not recognized. -/
  unknownWords : r.unknownWords = (List.range taken).countP (start.isLostAfter period)

/-- A run before one of its steps. -/
structure OnBeat (start : Machine) (period taken : Nat) (r : Run) : Prop
    extends r.Counts start period taken where
  /-- Its machine has kept the beat. -/
  machine : r.machine = start.beats period taken
  /-- The machine is not halted. -/
  running : r.machine.fault = none
  /-- Nor has anything else stopped the run. -/
  fault : r.fault = none

variable {start : Machine} {period taken : Nat}

theorem countP_range_succ (p : Nat → Bool) (taken : Nat) :
    (List.range (taken + 1)).countP p = (List.range taken).countP p + if p taken then 1 else 0 := by
  rw [List.range_succ, List.countP_append, List.countP_singleton]

/-- A step that executes a word is counted, and so are the word, if it is not recognized, and the
tick that may follow. -/
theorem Counts.of_step (hcounts : r.Counts start period taken)
    (hmachine : r.machine = start.beats period taken) (hexecutes : r.machine.executes = true)
    (journal : Journal) :
    ((taken + 1) % period ≠ 0 → (r.stepped journal).Counts start period (taken + 1)) ∧
      ((taken + 1) % period = 0 → (r.stepped journal).tick.Counts start period (taken + 1)) := by
  have hcycles : r.machine.step.2.cycleCount = taken + 1 := by
    rw [(Machine.counts_step hexecutes).1, hcounts.cycleCount]
  have hsteps : r.steps + 1 = taken + 1 := congrArg (· + 1) hcounts.steps
  have hunknown : (r.stepped journal).unknownWords =
      (List.range (taken + 1)).countP (start.isLostAfter period) := by
    rw [countP_range_succ, ← hcounts.unknownWords, Machine.isLostAfter, ← hmachine, stepped]
    cases r.machine.fetch.isRecognized <;> rfl
  have hdiv : (taken + 1) / period =
      taken / period + if (taken + 1) % period = 0 then 1 else 0 := by
    rw [Nat.succ_div]
    simp only [Nat.dvd_iff_mod_eq_zero]
  have hsounds : start.soundsAfter period taken =
      ((taken + 1) % period = 0 && r.machine.step.2.timers.sound != 0) := by
    rw [Machine.soundsAfter, ← hmachine]
  constructor
  · intro hdue
    refine ⟨hcycles, hsteps, ?_, ?_, hunknown⟩
    · rw [hdiv, if_neg hdue]
      exact hcounts.timerTicks
    · rw [countP_range_succ, hsounds, decide_eq_false hdue]
      exact hcounts.toneTicks
  · intro hdue
    obtain ⟨later, htick⟩ := (r.stepped journal).exists_tick_eq
    rw [htick]
    refine ⟨hcycles, hsteps, ?_, ?_, hunknown⟩
    · rw [hdiv, if_pos hdue, ← hcounts.timerTicks]
      rfl
    · rw [countP_range_succ, hsounds, decide_eq_true hdue, ← hcounts.toneTicks]
      rfl

/-- The run after one step more, and the tick that may follow it. -/
theorem OnBeat.next (hbeat : r.OnBeat start period taken) (hexecutes : r.machine.executes = true)
    (journal : Journal) :
    (if (taken + 1) % period = 0 then (r.stepped journal).tick
      else r.stepped journal).OnBeat start period (taken + 1) := by
  have hrunning := Machine.fault_of_executes hexecutes
  obtain ⟨hstepped, hticked⟩ := hbeat.toCounts.of_step hbeat.machine hexecutes journal
  split_ifs with hdue
  · obtain ⟨later, htick⟩ := (r.stepped journal).exists_tick_eq
    refine ⟨hticked hdue, ?_, ?_, ?_⟩
    · rw [htick, Machine.beats_of_due hdue, ← hbeat.machine]
      rfl
    · rw [htick]
      exact hrunning
    · rw [htick]
      exact hbeat.fault
  · refine ⟨hstepped hdue, ?_, hrunning, hbeat.fault⟩
    rw [Machine.beats_of_not_due hdue, ← hbeat.machine]
    rfl

/-! ### Whole runs -/

/-- How a run of up to `limit` steps has ended, of which `taken` have executed words. -/
inductive Ended (start : Machine) (period limit taken : Nat) (r : Run) : Prop
  /-- There were no more steps to take. -/
  | completed (hbeat : r.OnBeat start period taken) (htaken : taken = limit)
  /-- A fault has stopped it before. -/
  | stopped {fault : Fault} (htaken : taken < limit) (hcounts : r.Counts start period taken)
      (hfaulted : (start.beats period taken).step.1 = .faulted fault)
      (hmachine : r.machine = (start.beats period taken).step.2)
      (hstored : r.machine.fault = some fault) (hfault : r.fault = some fault)

/-- A run as fast as possible goes on to its last step or to a fault. -/
theorem exists_ended_fast (count : Nat) (hbeat : r.OnBeat start period taken) :
    ∃ last, taken ≤ last ∧
      (∀ k, taken ≤ k → k < last → (start.beats period k).executes = true) ∧
      (r.fast period count).Ended start period (taken + count) last := by
  induction count generalizing r taken with
  | zero =>
    exact ⟨taken, Nat.le_refl _, fun k hle hlt ↦ absurd hle (Nat.not_le.mpr hlt),
      .completed hbeat rfl⟩
  | succ count ih =>
    obtain ⟨hexecutes, journal, hstep⟩ | ⟨fault, journal, hfaulted, hstep⟩ :=
      step_of_running hbeat.running
    · have hsteps : (r.stepped journal).steps = taken + 1 := congrArg (· + 1) hbeat.steps
      obtain ⟨last, hle, hbefore, hended⟩ := ih (hbeat.next hexecutes journal)
      rw [fast, hstep]
      simp only [hsteps]
      refine ⟨last, by omega, fun k hk hlast ↦ ?_, ?_⟩
      · obtain rfl | hlater := Nat.eq_or_lt_of_le hk
        · rw [← hbeat.machine]
          exact hexecutes
        · exact hbefore k hlater hlast
      · rwa [show taken + 1 + count = taken + (count + 1) by omega] at hended
    · have hmachine : r.machine.step.2 = { r.machine with fault := some fault } :=
        congrArg Prod.snd (Machine.step_of_faulted hfaulted).1
      refine ⟨taken, Nat.le_refl _, fun k hle hlt ↦ absurd hle (Nat.not_le.mpr hlt), ?_⟩
      rw [fast, hstep]
      refine .stopped (by omega) ⟨hbeat.cycleCount, hbeat.steps, hbeat.timerTicks, hbeat.toneTicks,
        hbeat.unknownWords⟩ ?_ ?_ rfl rfl
      · rw [← hbeat.machine]
        exact hfaulted
      · rw [← hbeat.machine, hmachine]

/-- What a run that has ended leaves behind. -/
structure Leaves (start : Machine) (period limit taken : Nat) (r : Run) : Prop
    extends r.Counts start period taken where
  /-- Its machine has kept the beat to the end. -/
  machine : r.machine = start.final period limit taken
  /-- Its fault is the one that the machine has stored. -/
  fault : r.fault = r.machine.fault
  /-- There is one if steps are left. -/
  halts : r.machine.fault.isSome = true ↔ taken < limit

variable {limit : Nat}

theorem Ended.leaves (hended : r.Ended start period limit taken) :
    r.Leaves start period limit taken := by
  cases hended with
  | completed hbeat htaken =>
    have hover : ¬ taken < limit := by omega
    refine ⟨hbeat.toCounts, ?_, hbeat.fault.trans hbeat.running.symm, ?_⟩
    · rw [Machine.final, if_neg hover]
      exact hbeat.machine
    · rw [hbeat.running]
      exact iff_of_false Bool.false_ne_true hover
  | stopped htaken hcounts hfaulted hmachine hstored hfault =>
    refine ⟨hcounts, ?_, hfault.trans hstored.symm, ?_⟩
    · rw [Machine.final, if_pos htaken]
      exact hmachine
    · rw [hstored]
      exact iff_of_true rfl htaken

theorem Ended.comesTo (hended : r.Ended start period limit taken)
    (hexecutes : ∀ k < taken, (start.beats period k).executes = true) :
    start.ComesTo period limit taken := by
  cases hended with
  | completed hbeat htaken =>
    exact ⟨htaken.le, hexecutes, fun hless ↦ absurd htaken hless.ne⟩
  | stopped htaken hcounts hfaulted hmachine hstored hfault =>
    exact ⟨htaken.le, hexecutes, fun _ ↦ ⟨_, hfaulted⟩⟩

/-- What is written down later is no part of what a run leaves behind. -/
theorem Leaves.withJournal (hleaves : r.Leaves start period limit taken) (journal : Journal) :
    { r with journal := journal }.Leaves start period limit taken :=
  ⟨⟨hleaves.cycleCount, hleaves.steps, hleaves.timerTicks, hleaves.toneTicks,
    hleaves.unknownWords⟩, hleaves.machine, hleaves.fault, hleaves.halts⟩

/-- A run begins on the beat. -/
theorem onBeat_ofMachine (hcycles : start.cycleCount = 0) (hrunning : start.fault = none)
    (period : Nat) (journal : Journal) : (ofMachine start journal).OnBeat start period 0 :=
  ⟨⟨hcycles, rfl, (Nat.zero_div period).symm, rfl, rfl⟩, rfl, hrunning, rfl⟩

end Run

/-! ### Rates -/

namespace Session

variable {files : Files} {request : SessionRequest} {journal : Journal}

/-- Whole rates that are not too large for doubles can be used if that of the ticks is positive. -/
theorem exists_rates_eq {config : Config} {ips hz : Int}
    (hips : config.instructionsPerSecond = .whole ips) (hhz : config.timerRate = .whole hz)
    (hhzPositive : 0 < hz) (hipsDouble : (Quantity.whole ips).HasDouble)
    (hhzDouble : (Quantity.whole hz).HasDouble) :
    ∃ (tickClock : TickClock Quantity) (stepPeriod : Quantity) (period : Nat),
      rates config = .ok (tickClock, stepPeriod, period) ∧
        config.stepsPerTick = .ok (period : Int) ∧ 0 < period := by
  obtain ⟨rate, hrate, hnonzero⟩ := Quantity.exists_toFloat_eq hhzDouble hhzPositive
  obtain ⟨quotient, hquotient⟩ := Quantity.exists_roundedQuotient_eq hipsDouble hhzPositive
  obtain ⟨speed, hspeed⟩ := hipsDouble
  obtain ⟨tick, htick⟩ := Quantity.exists_divide_real (n := 1) (by omega) hnonzero
  have hclock : TickClock.ofRate (Quantity.real rate) = .ok ⟨.real rate, .real tick, none⟩ := by
    have hdivide : ClockNumber.divide (ClockNumber.ofInt 1) (Quantity.real rate) =
        .ok (.real tick) := htick
    rw [TickClock.ofRate, hdivide]
    rfl
  have hperiod : config.stepsPerTick = .ok (max 1 quotient) := by
    rw [Config.stepsPerTick, hips, hhz, hquotient]
    rfl
  refine ⟨⟨.real rate, .real tick, none⟩, .real (1.0 / speed), (max 1 quotient).toNat, ?_, ?_, ?_⟩
  · rw [rates, hips, hhz, hrate, hspeed, hperiod]
    simp only [bind, Except.bind, hclock]
    rfl
  · rw [hperiod, Int.toNat_of_nonneg (by omega)]
  · omega

/-! ### Sessions -/

/-- A session begins with the machine that its program and its configuration give. -/
theorem exists_begin_eq {bytes : Array UInt8} {start : Machine}
    (hprogram : Program.fileBytes files request.program = .ok bytes)
    (hstart : Machine.ofConfig bytes request.config = .ok start) (journal : Journal) :
    ∃ later : Journal, begin files request journal = .ok (.ofMachine start later) := by
  unfold begin loadProgram
  simp only [hprogram, bind, Except.bind, pure, Except.pure, hstart]
  exact ⟨_, rfl⟩

end Session

/-- As fast as possible, a session of a program that can be loaded takes its steps from the machine
that has just been switched on, with one tick of the timers after each step whose number is a
multiple of the period, up to the number of steps that is asked for or to the first fault. It counts
the steps that execute words, as the machine does, the ticks, those at which the sound timer runs,
and the words that are not recognized, and it tells the fault that the machine has stored, if there
is one: there is if not all the steps have executed words, and only then. The session has a result
if its clock shows times and the image, if one is asked for, can be saved; to print the speed, the
number of steps must not be too large for a double. -/
theorem Session.statistics_of_fast {σ : Type} (files : Files) (time : Timekeeper (StateM σ))
    (host : σ) (request : SessionRequest) (journal : Journal) {bytes : Array UInt8}
    {start : Machine} {ips hz steps : Int}
    (hprogram : Program.fileBytes files request.program = .ok bytes)
    (hstart : Machine.ofConfig bytes request.config = .ok start)
    (hips : request.config.instructionsPerSecond = .whole ips)
    (hhz : request.config.timerRate = .whole hz) (hpositive : 0 < hz)
    (hipsDouble : (Quantity.whole ips).HasDouble) (hhzDouble : (Quantity.whole hz).HasDouble)
    (hsteps : request.steps = .value steps) :
    ∃ period taken : Nat, request.config.stepsPerTick = .ok (period : Int) ∧ 0 < period ∧
      start.ComesTo period steps.toNat taken ∧
      let answer := (run files time { request with fast := true } journal host).1
      (∀ result : SessionResult, answer = .ok result →
        result.run.Leaves start period steps.toNat taken) ∧
      (time.ShowsTimes → (request.printStatistics = true → taken < 2 ^ 1023) → ∀ saved,
        savedImage files request (start.final period steps.toNat taken).screen = .ok saved →
          ∃ result : SessionResult, answer = .ok result) := by
  obtain ⟨tickClock, stepPeriod, period, hrates, hperiod, hpos⟩ :=
    exists_rates_eq hips hhz hpositive hipsDouble hhzDouble
  obtain ⟨later, hbegin⟩ := exists_begin_eq hprogram hstart journal
  obtain ⟨program, source, hpower⟩ := Machine.eq_powerOn_of_ofConfig hstart
  have hcycles : start.cycleCount = 0 := by
    rw [hpower]
    rfl
  have hrunning : start.fault = none := by
    rw [hpower]
    rfl
  obtain ⟨taken, -, hexecutes, hended⟩ :=
    Run.exists_ended_fast steps.toNat (Run.onBeat_ofMachine hcycles hrunning period later)
  rw [Nat.zero_add] at hended
  have hleaves := hended.leaves
  refine ⟨period, taken, hperiod, hpos,
    hended.comesTo fun k hk ↦ hexecutes k (Nat.zero_le k) hk, ?_⟩
  intro answer
  have hanswer : answer = Session.answer files request (time.now host).1
      (time.now (time.now host).2).1 (.ok ((Run.ofMachine start later).fast period steps.toNat)) :=
    fast_eq hbegin hrates hsteps
  rw [hanswer]
  refine ⟨fun result hresult ↦ ?_, fun htime hcount saved hsaved ↦ ?_⟩
  · obtain ⟨journal, hrun⟩ := exists_run_eq_of_answer hresult
    rw [hrun]
    exact hleaves.withJournal journal
  · rw [← hleaves.steps] at hcount
    rw [← hleaves.machine] at hsaved
    exact exists_answer_eq hcount (htime _) (htime _) hsaved

/-- The second of five steps returns from no call. -/
theorem Session.statistics_of_fast_of_return :
    let files : Files := ⟨[], [(["p"], .file #[0x60, 0x05, 0x00, 0xEE])]⟩
    let config : Config := { Config.standard with seed := .int 7 }
    let request : SessionRequest :=
      ⟨⟨.here, ["p"]⟩, .value 5, config, true, none, none, true, true⟩
    let time : Timekeeper (StateM Float) :=
      ⟨fun now ↦ (.real now, now + 0.5), fun _ now ↦ ((), now)⟩
    ∃ result : SessionResult,
      (run files time { request with fast := true } (Journal.start .error) 0.0).1 = .ok result ∧
        result.run.steps = 1 ∧ result.run.machine.cycleCount = 1 ∧ result.run.timerTicks = 0 ∧
          result.run.fault.isSome = true := by
  intro files config request time
  let program : Program := ⟨#[0x60, 0x05, 0x00, 0xEE], by decide⟩
  let m : Machine := .powerOn program .screen .idle (.generator (.ofSeed 7))
  let after : Machine := (m.setRegister 0 5).complete 0x202
  have hbytes : Program.fileBytes files ⟨.here, ["p"]⟩ = .ok #[0x60, 0x05, 0x00, 0xEE] := by cbv
  have hmemory : m.memory = Machine.initialMemory program := rfl
  have hfetch : m.fetch = 0x6005 := by
    have hpc : m.pc = (programStart + 0 : Nat) := rfl
    rw [Machine.fetch_initialMemory hmemory hpc (by decide)]
    decide
  have hstep : m.step = (.executed m.fetch none, after) :=
    Machine.step_of_execute rfl (by rw [hfetch]; rfl) rfl
  rw [hfetch] at hstep
  have hkept : after.memory = Machine.initialMemory program := rfl
  have hfetch' : after.fetch = 0x00EE := by
    have hpc : after.pc = (programStart + 2 : Nat) := rfl
    rw [Machine.fetch_initialMemory hkept hpc (by decide)]
    decide
  have hstep' : after.step.1 = .faulted ⟨.empty, after.pc, after.fetch⟩ := by
    rw [Machine.step_of_execute_error rfl (by rw [hfetch']; rfl) rfl]
  have hspeed : (Quantity.whole 700).HasDouble := Quantity.hasDouble_whole (n := 700) (by omega)
  have hrate : (Quantity.whole 60).HasDouble := Quantity.hasDouble_whole (n := 60) (by omega)
  obtain ⟨period, taken, hperiod, -, hcomes, hresults, hanswers⟩ :=
    statistics_of_fast files time 0.0 request (Journal.start .error) hbytes
      (show Machine.ofConfig _ _ = .ok m from rfl) rfl rfl (by decide) hspeed hrate rfl
  obtain rfl : period = 12 := by
    have htwelve : config.stepsPerTick = .ok 12 := rfl
    have hsame : (period : Int) = 12 := Except.ok.inj (hperiod.symm.trans htwelve)
    omega
  have hfirst : m.beats 12 1 = after := by
    rw [Machine.beats_of_not_due (by decide), Machine.beats_zero, hstep]
  obtain rfl : taken = 1 := by
    obtain hnone | rfl | hmore := Nat.lt_trichotomy taken 1
    · obtain rfl : taken = 0 := by omega
      obtain ⟨fault, hfaulted⟩ := hcomes.faults (by decide)
      rw [Machine.beats_zero, hstep] at hfaulted
      cases hfaulted
    · rfl
    · have hexecutes := hcomes.executes 1 hmore
      rw [hfirst, Machine.executes, hstep'] at hexecutes
      cases hexecutes
  have htime : time.ShowsTimes := fun now ↦ Quantity.isTime_real now
  obtain ⟨result, hresult⟩ := hanswers htime (fun _ ↦ by omega) none rfl
  have hleaves := hresults result hresult
  refine ⟨result, hresult, hleaves.steps, hleaves.cycleCount, hleaves.timerTicks, ?_⟩
  rw [hleaves.fault]
  exact hleaves.halts.mpr (by decide)

end Cosmac
