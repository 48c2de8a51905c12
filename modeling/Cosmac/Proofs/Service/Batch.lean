import Cosmac.Proofs.Number.Sign
import Cosmac.Proofs.Run.Statistics
import Cosmac.Proofs.Service.Action

/-!
# Batches of the runner

A machine that is run executes words until it has taken its steps or meets a fault
(`Machine.executes_or_faults`, `Machine.run_add`). A pass of the runner is such a run
(`Runner.pass_takes_batch`). Where all words are executed, a single reading of the clock gives the
timer ticks, and they decide about the tone; there is never a negative number of them
(`Runner.Serves.nonneg_of_advanceTo`). Where a step faults, the clock is not read and the service
stops running.
-/

set_option autoImplicit false

namespace Cosmac

/-! ### Runs -/

namespace Machine

variable {m : Machine}

/-- The outcomes of the first steps of a machine. -/
def outcomes (m : Machine) (count : Nat) : List Outcome :=
  (List.range count).map fun taken ↦ (m.afterSteps taken).step.1

theorem outcomes_succ (m : Machine) (count : Nat) :
    m.outcomes (count + 1) = m.step.1 :: m.step.2.outcomes count := by
  rw [outcomes, List.range_succ_eq_map, List.map_cons, List.map_map]
  rfl

theorem exists_word_of_executes (hexecutes : m.executes = true) :
    ∃ word diagnostic, m.step.1 = .executed word diagnostic := by
  unfold executes at hexecutes
  cases houtcome : m.step.1 with
  | executed word diagnostic => exact ⟨word, diagnostic, rfl⟩
  | faulted | refused =>
    rw [houtcome] at hexecutes
    cases hexecutes

/-- A machine that is not halted executes a word or meets a fault. -/
theorem exists_fault_of_not_executes (hrunning : m.fault = none) (hexecutes : m.executes = false) :
    ∃ fault, m.step.1 = .faulted fault := by
  unfold executes at hexecutes
  generalize hresult : m.step = result at hexecutes
  cases step_cases hresult with
  | refused hhalted =>
    rw [hrunning] at hhalted
    cases hhalted
  | reported | completed => cases hexecutes
  | faulted => exact ⟨_, rfl⟩

/-- Of the first steps of a machine that is not halted, either all execute a word or all before one
that faults do. -/
theorem executes_or_faults (hrunning : m.fault = none) (count : Nat) :
    (∀ k < count, (m.afterSteps k).executes = true) ∨
      ∃ taken < count, ∃ fault, (∀ k < taken, (m.afterSteps k).executes = true) ∧
        (m.afterSteps taken).step.1 = .faulted fault := by
  -- The first step decides, or the rest of the run does, from the machine that the step leaves.
  induction count generalizing m with
  | zero => exact .inl nofun
  | succ count ih =>
    cases hexecutes : m.executes with
    | false =>
      obtain ⟨fault, hfault⟩ := exists_fault_of_not_executes hrunning hexecutes
      exact .inr ⟨0, Nat.succ_pos count, fault, nofun, hfault⟩
    | true =>
      have hsteps {taken : Nat} (hlater : ∀ k < taken, (m.step.2.afterSteps k).executes = true) :
          ∀ k < taken + 1, (m.afterSteps k).executes = true
        | 0, _ => hexecutes
        | k + 1, hk => hlater k (Nat.lt_of_succ_lt_succ hk)
      obtain hall | ⟨taken, htaken, fault, hbefore, hfault⟩ := ih (fault_of_executes hexecutes)
      · exact .inl (hsteps hall)
      · exact .inr ⟨taken + 1, Nat.succ_lt_succ htaken, fault, hsteps hbefore, hfault⟩

/-- A run goes on after steps that execute words. -/
theorem run_add {taken : Nat} (hexecutes : ∀ k < taken, (m.afterSteps k).executes = true)
    (count : Nat) :
    m.run (taken + count) = (m.outcomes taken ++ ((m.afterSteps taken).run count).1,
      ((m.afterSteps taken).run count).2) := by
  induction taken generalizing m with
  | zero => rw [Nat.zero_add]; rfl
  | succ taken ih =>
    have hfirst : m.executes = true := hexecutes 0 (Nat.succ_pos taken)
    obtain ⟨word, diagnostic, hword⟩ := exists_word_of_executes hfirst
    have hstep : m.step = (.executed word diagnostic, m.step.2) := Prod.ext hword rfl
    have hlater : m.step.2.run (taken + count) = _ :=
      ih fun k hk ↦ hexecutes (k + 1) (Nat.succ_lt_succ hk)
    rw [Nat.add_right_comm, run, hstep, outcomes_succ, hword, afterSteps_succ]
    simp only [hlater, List.cons_append]

theorem run_of_executes {count : Nat} (hexecutes : ∀ k < count, (m.afterSteps k).executes = true) :
    m.run count = (m.outcomes count, m.afterSteps count) := by
  have hrun := run_add hexecutes 0
  rwa [Nat.add_zero, run, List.append_nil] at hrun

theorem run_of_faults {taken count : Nat} {fault : Fault} (htaken : taken < count)
    (hexecutes : ∀ k < taken, (m.afterSteps k).executes = true)
    (hfault : (m.afterSteps taken).step.1 = .faulted fault) :
    m.run count = (m.outcomes taken ++ [.faulted fault],
      { m.afterSteps taken with fault := some fault }) := by
  obtain ⟨rest, rfl⟩ := Nat.exists_eq_add_of_lt htaken
  rw [Nat.add_assoc, run_add hexecutes, run, (step_of_faulted hfault).1]

theorem all_outcomes {count : Nat} (hexecutes : ∀ k < count, (m.afterSteps k).executes = true) :
    (m.outcomes count).all Outcome.isExecuted = true := by
  rw [outcomes, List.all_map, List.all_eq_true]
  exact fun k hk ↦ hexecutes k (List.mem_range.mp hk)

end Machine

/-! ### Due ticks -/

/-- A reading changes at most the time up to which a clock has counted, and ticks are due only if
what has elapsed is no less than a period. -/
theorem TickClock.advanceTo_cases {clock after : TickClock Reading} {now : Reading} {ticks : Int}
    (hclock : clock.advanceTo now = .ok (ticks, after)) :
    (∃ last, after = clock.reset last) ∧
      (ticks = 0 ∨ ∃ elapsed quotient, ClockNumber.less elapsed clock.period = false ∧
        ClockNumber.divide elapsed clock.period = .ok quotient ∧
          ClockNumber.truncate quotient = .ok ticks) := by
  unfold advanceTo at hclock
  split at hclock
  · cases hclock
    exact ⟨⟨clock.last, rfl⟩, .inl rfl⟩
  · unfold advance at hclock
    split at hclock
    · cases hclock
      exact ⟨⟨_, rfl⟩, .inl rfl⟩
    · obtain ⟨elapsed, -, hrest⟩ := exists_of_bind_eq_ok hclock
      split at hrest
      · cases hrest
        exact ⟨⟨clock.last, rfl⟩, .inl rfl⟩
      · obtain ⟨quotient, hquotient, hrest⟩ := exists_of_bind_eq_ok hrest
        obtain ⟨due, hdue, hrest⟩ := exists_of_bind_eq_ok hrest
        obtain ⟨counted, -, hrest⟩ := exists_of_bind_eq_ok hrest
        obtain ⟨last, -, hreturn⟩ := exists_of_bind_eq_ok hrest
        cases hreturn
        exact ⟨⟨_, rfl⟩, .inr ⟨elapsed, quotient, Bool.eq_false_iff.mpr ‹_›, hquotient, hdue⟩⟩

namespace Runner

open Quantity

variable {runner : Runner} {config : Config}

/-- The runner when its clock has forgotten the time. -/
def forget (runner : Runner) : Runner :=
  { runner with clock := runner.clock.reset none }

/-- Whether a runner is one of a configuration, whenever its clock was last read. -/
def Serves (runner : Runner) (config : Config) : Prop :=
  ofConfig config = .ok runner.forget

theorem eq_time_of_quantity {a : Reading} {q : Quantity} (hq : a.quantity = .ok q) :
    a = .time q := by
  cases a with
  | time => exact congrArg Reading.time (Except.ok.inj hq)
  | nothing | noTime => cases hq

theorem exists_of_combine {operation : Quantity → Quantity → Except ArithmeticError Quantity}
    {a b shown : Reading} (hshown : Reading.combine operation a b = .ok shown) :
    ∃ p q r, a = .time p ∧ b = .time q ∧ operation p q = .ok r ∧ shown = .time r := by
  obtain ⟨p, hp, hrest⟩ := exists_of_bind_eq_ok hshown
  obtain ⟨q, hq, hrest⟩ := exists_of_bind_eq_ok hrest
  obtain ⟨r, hr, hreturn⟩ := exists_of_bind_eq_ok hrest
  exact ⟨p, q, r, eq_time_of_quantity hp, eq_time_of_quantity hq, hr, (Except.ok.inj hreturn).symm⟩

/-- What a configuration says about its runners. -/
theorem Serves.exists_rate (hserves : runner.Serves config) :
    ∃ (rate period : Float) (size : Int), config.timerRate.toFloat = .ok rate ∧
      divide (.whole 1) (.real rate) = .ok (.real period) ∧ config.stepsPerTick = .ok size ∧
        runner.clock.period = .time (.real period) ∧ runner.batchSize = size.toNat := by
  obtain ⟨rate, hrate, hrest⟩ := exists_of_bind_eq_ok hserves
  obtain ⟨clock, hclock, hrest⟩ := exists_of_bind_eq_ok hrest
  obtain ⟨size, hsize, hreturn⟩ := exists_of_bind_eq_ok hrest
  obtain ⟨shown, hshown, hmade⟩ := exists_of_bind_eq_ok hclock
  obtain ⟨_, _, period, hone, hother, hperiod, rfl⟩ := exists_of_combine hshown
  cases hone
  cases hother
  obtain ⟨_, period, -, -, rfl⟩ := exists_of_divide_real hperiod
  have hrunner : Runner.mk clock size.toNat = runner.forget := Except.ok.inj hreturn
  have hclock : runner.clock.period = clock.period :=
    (congrArg (fun other ↦ other.clock.period) hrunner).symm
  refine ⟨rate, period, size, hrate, hperiod, hsize, ?_, ?_⟩
  · rw [hclock, ← Except.ok.inj hmade]
  · exact (congrArg Runner.batchSize hrunner).symm

theorem Serves.exists_period (hserves : runner.Serves config)
    (hpositive : config.timerRate.atMost 0 = false) :
    ∃ period : Float, runner.clock.period = .time (.real period) ∧
      Binary64.HasNoMinus period := by
  obtain ⟨rate, period, -, hrate, hquotient, -, hperiod, -⟩ := hserves.exists_rate
  refine ⟨period, hperiod, ?_⟩
  obtain ⟨one, z, hone, hz, hsame⟩ := exists_of_divide_real hquotient
  cases hsame
  exact Binary64.hasNoMinus_div (hasNoMinus_of_integer rfl (by decide) hone)
    (hasNoMinus_of_not_atMost hpositive hrate) hz

/-- The runner of a configuration takes at least one step in a batch. -/
theorem Serves.stepsPerTick_eq (hserves : runner.Serves config) :
    config.stepsPerTick = .ok (runner.batchSize : Int) ∧ 1 ≤ runner.batchSize := by
  obtain ⟨-, -, size, -, -, hsize, -, hbatch⟩ := hserves.exists_rate
  have hpositive : 1 ≤ size := by
    unfold Config.stepsPerTick at hsize
    cases hquotient : roundedQuotient config.instructionsPerSecond config.timerRate with
    | error cause =>
      rw [hquotient] at hsize
      cases hsize
    | ok quotient =>
      rw [hquotient] at hsize
      cases hsize
      exact Int.le_max_left 1 quotient
  rw [hbatch, Int.toNat_of_nonneg (by omega)]
  exact ⟨hsize, by omega⟩

/-- A clock with a positive rate never owes a negative number of ticks, not even if it is set
back. -/
theorem Serves.nonneg_of_advanceTo (hserves : runner.Serves config)
    (hpositive : config.timerRate.atMost 0 = false) {now : Reading} {ticks : Int}
    {clock : TickClock Reading} (hclock : runner.clock.advanceTo now = .ok (ticks, clock)) :
    0 ≤ ticks := by
  obtain ⟨-, hnone | ⟨elapsed, quotient, hless, hquotient, hticks⟩⟩ :=
    TickClock.advanceTo_cases hclock
  · exact Int.le_of_eq hnone.symm
  · obtain ⟨period, hperiod, hsign⟩ := hserves.exists_period hpositive
    rw [hperiod] at hless hquotient
    obtain ⟨e, _, q, rfl, hother, hq, rfl⟩ := exists_of_combine hquotient
    cases hother
    exact nonneg_of_truncate hsign hless hq hticks

/-- A pass leaves a runner one of its configuration. -/
theorem Serves.pass (hserves : runner.Serves config) (s : Service) (now : Reading) :
    (runner.pass s now).2.1.Serves config := by
  unfold Runner.pass
  split
  · exact hserves
  · split
    · exact hserves
    · split
      · exact hserves
      · cases hclock : runner.clock.advanceTo now with
        | error cause => exact hserves
        | ok due =>
          obtain ⟨⟨last, hlast⟩, -⟩ := TickClock.advanceTo_cases hclock
          dsimp only
          rw [hlast]
          exact hserves

end Runner

/-! ### Passes -/

namespace Service

/-- The service when its machine has taken a number of steps. -/
def afterSteps (s : Service) (machine : Machine) (taken : Nat) : Service :=
  { s with
    machine := some (machine.afterSteps taken)
    diagnostics := remember s.diagnostics (machine.outcomes taken) }

/-- A step that faults is no unknown word. -/
theorem remember_append_faulted (log : List Diagnostic) (outcomes : List Outcome) (fault : Fault) :
    remember log (outcomes ++ [.faulted fault]) = remember log outcomes := by
  rw [remember, List.foldl_append]
  rfl

theorem remember_refused (log : List Diagnostic) (fault : Fault) :
    remember log [.refused fault] = log :=
  rfl

section Pass

variable {s : Service} {machine : Machine} {runner : Runner}
  (hrequest : s.runRequested = true) (hmachine : s.machine = some machine)

include hrequest hmachine

/-- A batch whose words are all executed is followed by one reading of the clock. -/
theorem pass_of_executes
    (hexecutes : ∀ k < runner.batchSize, (machine.afterSteps k).executes = true) (now : Reading) :
    runner.pass s now =
      match runner.clock.advanceTo now with
      | .error cause => (.error cause, runner, s.afterSteps machine runner.batchSize)
      | .ok (ticks, clock) =>
        (.ok (.completed ticks), { runner with clock := clock },
          { s.afterSteps machine runner.batchSize with
            machine := some ((machine.afterSteps runner.batchSize).afterTicks ticks.toNat)
            toneActive := decide (0 < ticks.toNat) &&
              (machine.afterSteps runner.batchSize).timers.sound != 0 }) := by
  rw [pass_of_requested runner now hrequest hmachine, afterBatch,
    Machine.run_of_executes hexecutes, if_pos (Machine.all_outcomes hexecutes)]
  rfl

/-- A batch that meets a fault ends with it, whatever the clock shows. -/
theorem pass_of_faults {taken : Nat} {fault : Fault} (htaken : taken < runner.batchSize)
    (hexecutes : ∀ k < taken, (machine.afterSteps k).executes = true)
    (hfault : (machine.afterSteps taken).step.1 = .faulted fault) (now : Reading) :
    runner.pass s now = (.ok .halted, runner, { s.afterSteps machine taken with
      machine := some { machine.afterSteps taken with fault := some fault }
      isRunning := false
      runRequested := false }) := by
  have hall :
      (machine.outcomes taken ++ [Outcome.faulted fault]).all Outcome.isExecuted = false := by
    rw [List.all_append]
    exact Bool.and_false _
  rw [pass_of_requested runner now hrequest hmachine, afterBatch,
    Machine.run_of_faults htaken hexecutes hfault, hall, remember_append_faulted]
  rfl

theorem pass_of_halted {fault : Fault} (hhalted : machine.fault = some fault)
    (hsize : 1 ≤ runner.batchSize) (now : Reading) :
    runner.pass s now =
      (.ok .halted, runner, { s with isRunning := false, runRequested := false }) := by
  obtain ⟨size, hsize⟩ := Nat.exists_eq_add_of_le' hsize
  rw [pass_of_requested runner now hrequest hmachine, afterBatch, hsize,
    Machine.run_of_halted hhalted, remember_refused, ← hmachine]
  rfl

end Pass

end Service

/-- Assumes a runner of a configuration with a positive rate, a service that has been asked to run
and a machine. If the machine is not halted, either every step of the batch executes a word, and
the ticks that one reading of the clock makes due follow, if it makes any number of them due: then
the tone sounds if there is at least one of them and the sound timer was running before the first.
Or one of the steps faults: the machine is that of the steps before it with the fault stored, and
whatever the clock shows, there is no tick, the clock of the runner and the tone are left as they
were and the service stops running. If the machine is halted, the service stops running and nothing
else changes. -/
theorem Runner.pass_takes_batch {runner : Runner} {s : Service} {machine : Machine}
    (hserves : runner.Serves s.config) (hpositive : s.config.timerRate.atMost 0 = false)
    (hrequest : s.runRequested = true) (hmachine : s.machine = some machine) :
    let size := runner.batchSize
    s.config.stepsPerTick = .ok (size : Int) ∧
    (machine.fault = none →
      ((∀ k < size, (machine.afterSteps k).executes = true) ∧
        ∀ now, match runner.clock.advanceTo now with
          | .ok (ticks, clock) => ∃ due : Nat, ticks = due ∧
            runner.pass s now = (.ok (.completed ticks), { runner with clock := clock },
              { s.afterSteps machine size with
                machine := some ((machine.afterSteps size).afterTicks due)
                toneActive := decide (1 ≤ due) && (machine.afterSteps size).timers.sound != 0 })
          | .error cause =>
            runner.pass s now = (.error cause, runner, s.afterSteps machine size)) ∨
      ∃ m fault, 1 ≤ m ∧ m ≤ size ∧
        (∀ k < m - 1, (machine.afterSteps k).executes = true) ∧
        (machine.afterSteps (m - 1)).step.1 = .faulted fault ∧
        ∀ now, runner.pass s now = (.ok .halted, runner, { s.afterSteps machine (m - 1) with
          machine := some { machine.afterSteps (m - 1) with fault := some fault }
          isRunning := false
          runRequested := false })) ∧
    (machine.fault ≠ none → ∀ now, runner.pass s now =
      (.ok .halted, runner, { s with isRunning := false, runRequested := false })) := by
  intro size
  obtain ⟨hsteps, hsize⟩ := hserves.stepsPerTick_eq
  refine ⟨hsteps, fun hrunning ↦ ?_, fun hhalted now ↦ ?_⟩
  · obtain hexecutes | ⟨taken, htaken, fault, hexecutes, hfault⟩ :=
      Machine.executes_or_faults hrunning size
    · refine .inl ⟨hexecutes, fun now ↦ ?_⟩
      rw [Service.pass_of_executes hrequest hmachine hexecutes]
      cases hclock : runner.clock.advanceTo now with
      | error cause => rfl
      | ok result =>
        obtain ⟨ticks, clock⟩ := result
        have hdue : ticks = ticks.toNat :=
          (Int.toNat_of_nonneg (hserves.nonneg_of_advanceTo hpositive hclock)).symm
        exact ⟨ticks.toNat, hdue, rfl⟩
    · exact .inr ⟨taken + 1, fault, Nat.le_add_left 1 taken, htaken, hexecutes, hfault,
        Service.pass_of_faults hrequest hmachine htaken hexecutes hfault⟩
  · obtain ⟨fault, hfault⟩ := Option.ne_none_iff_exists'.mp hhalted
    exact Service.pass_of_halted hrequest hmachine hfault hsize now

/-! ### A batch with a fault -/

namespace StrayReturn

/-- A program whose second word returns without a call. -/
def program : Program :=
  ⟨#[0x00, 0xE0, 0x00, 0xEE], by decide⟩

/-- A configuration with two steps in a batch. -/
def config : Config :=
  { Config.standard with instructionsPerSecond := .whole 120 }

/-- The runner of the configuration. -/
def runner : Runner :=
  ⟨⟨.time (.real 60.0), .time (.real (1.0 / 60.0)), none⟩, 2⟩

/-- A machine with the program. -/
def machine : Machine :=
  .powerOn program .screen .idle .silent

/-- The machine after the word that does not fault. -/
def ready : Machine :=
  { machine with screen := machine.screen.clear }.complete 0x202

/-- The fault of the second word. -/
def fault : Fault :=
  ⟨.empty, 0x202, 0x00EE⟩

/-- A service that has been asked to run the machine. -/
def service : Service :=
  { Service.ofConfig config ⟨[], []⟩ none with
    machine := some machine
    isRunning := true
    runRequested := true }

theorem fetch_machine : machine.fetch = 0x00E0 := by
  rw [machine, Machine.fetch_powerOn]
  decide

theorem step_machine : machine.step = (.executed 0x00E0 none, ready) := by
  rw [← fetch_machine]
  exact Machine.step_of_execute rfl (by rw [fetch_machine]; rfl) rfl

theorem step_ready : ready.step.1 = .faulted fault := by
  have hmemory : ready.memory = Machine.initialMemory program := rfl
  have hpc : ready.pc = (programStart + 2 : Nat) := rfl
  have hfetch : ready.fetch = 0x00EE := by
    rw [Machine.fetch_initialMemory hmemory hpc (by decide)]
    decide
  have hdecode : Instruction.decode? ready.fetch = some .ret := by rw [hfetch]; rfl
  have hexecute : ready.execute .ret = .error .empty :=
    Machine.execute_error_iff.mpr (.inl ⟨rfl, rfl, rfl⟩)
  rw [Machine.step_of_execute_error rfl hdecode hexecute, hfetch]
  rfl

end StrayReturn

open StrayReturn in
/-- The second of the two steps in a batch faults, whatever the clock shows. -/
theorem Runner.pass_takes_batch_of_return :
    runner.Serves config ∧ config.timerRate.atMost 0 = false ∧ service.runRequested = true ∧
      service.machine = some machine ∧
      ∀ now, runner.pass service now = (.ok .halted, runner, { service.afterSteps machine 1 with
        machine := some { ready with fault := some fault }
        isRunning := false
        runRequested := false }) := by
  have hserves : runner.Serves config := rfl
  have hpositive : config.timerRate.atMost 0 = false := rfl
  have hready : machine.afterSteps 1 = ready := by
    rw [Machine.afterSteps_succ, step_machine, Machine.afterSteps_zero]
  refine ⟨hserves, hpositive, rfl, rfl, ?_⟩
  obtain ⟨-, hrunning, -⟩ := pass_takes_batch (s := service) hserves hpositive rfl rfl
  obtain ⟨hexecutes, -⟩ | ⟨m, cause, hleast, hmost, -, hfault, hpass⟩ := hrunning rfl
  · have hlast := hexecutes 1 (by decide)
    rw [Machine.executes, hready, step_ready] at hlast
    cases hlast
  · have hm : m = 2 := by
      have hsize : m ≤ 2 := hmost
      by_contra hother
      obtain rfl : m = 1 := by omega
      rw [Nat.sub_self, Machine.afterSteps_zero, step_machine] at hfault
      cases hfault
    subst hm
    rw [Nat.add_one_sub_one, hready, step_ready] at hfault
    cases hfault
    rw [Nat.add_one_sub_one, hready] at hpass
    exact hpass

end Cosmac
