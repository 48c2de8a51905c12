import Cosmac.Proofs.Halting
import Cosmac.Service.Runner
import Cosmac.Service.View
import Mathlib.Tactic.Common

/-!
# What happens to a service

`ServiceAction` is what can be asked of a service, and what its runner does between two waits;
`Service.perform` is what becomes of the service. An action works with a machine by steps and timer
ticks alone, which `Service.workOf` lists: a batch is a run of the machine (`Service.batch_eq`), and
ticks let the tone sound if the sound timer was running before the first (`Service.ticks_eq`).
`Service.PerformCase` says what an action can do to a service and with what work;
`Service.perform_cases` says that these are all the cases there are.
-/

set_option autoImplicit false

namespace Cosmac

/-! ### Actions -/

/-- What can happen to a service. -/
inductive ServiceAction where
  /-- The runner is asked to run. -/
  | run
  /-- The runner is asked to stop. -/
  | pause
  /-- A single step is taken. -/
  | step
  /-- The machine is reset. -/
  | reset
  /-- The program is replaced. -/
  | load (bytes : Array UInt8)
  /-- The program is replaced with that of a file. -/
  | loadFile (path : String)
  /-- A key is pressed. -/
  | press (key : Json)
  /-- A key is released. -/
  | release (key : Json)
  /-- The service is shown. -/
  | view
  /-- The machine is given up. -/
  | shutDown
  /-- The runner, with whatever it keeps for itself, does what it does between two waits. -/
  | pass (runner : Runner) (now : Reading)

/-- What an action does with the machine of a service. -/
structure Work where
  /-- Whether a machine is started first: made, reset or given another program. -/
  starts : Bool
  /-- The outcomes of the steps. -/
  outcomes : List Outcome
  /-- Whether a batch of the runner is completed. -/
  completes : Bool
  /-- The number of timer ticks. -/
  ticks : Nat

/-- No steps and no ticks. -/
def Work.idle (starts : Bool) : Work :=
  ⟨starts, [], false, 0⟩

namespace Service

/-- The service after an action. -/
def perform (s : Service) : ServiceAction → Service
  | .run => s.run.2
  | .pause => s.pause
  | .step => s.step.2
  | .reset => s.reset.2
  | .load bytes => (s.load bytes).2
  | .loadFile path => (s.loadFile path).2
  | .press key => (s.pressKey key).2
  | .release key => (s.releaseKey key).2
  | .view => s.view.2
  | .shutDown => s.shutDown
  | .pass runner now => (runner.pass s now).2.2

theorem perform_pass (s : Service) (runner : Runner) (now : Reading) :
    s.perform (.pass runner now) = (runner.pass s now).2.2 :=
  rfl

/-- The machine that a service works with: the one that it has, or else a new one. -/
def available? (s : Service) : Option Machine :=
  match s.ensureMachine with
  | .ok (machine, _) => some machine
  | .error _ => none

/-- Whether an action starts the machine of a service anew, if there is one. -/
def restarts (s : Service) : ServiceAction → Bool
  | .reset => true
  | .load bytes => bytes.size ≤ maxProgramSize
  | .loadFile path =>
    match Program.fileBytes s.files (.ofString path) with
    | .ok bytes => bytes.size ≤ maxProgramSize
    | .error _ => false
  | _ => false

/-- The outcomes of the steps that an action takes. -/
def outcomesOf (s : Service) : ServiceAction → List Outcome
  | .step =>
    match s.available? with
    | some machine => if machine.halted then [] else [machine.step.1]
    | none => []
  | .pass runner _ =>
    match s.machine with
    | some machine => if s.runRequested then (machine.run runner.batchSize).1 else []
    | none => []
  | _ => []

/-- The timer ticks that follow a batch of the runner, if an action completes one. -/
def ticksOf? (s : Service) : ServiceAction → Option Nat
  | .pass runner now =>
    match (runner.pass s now).1 with
    | .ok (.completed ticks) => some ticks.toNat
    | _ => none
  | _ => none

/-- What an action does with the machine. -/
def workOf (s : Service) (action : ServiceAction) : Work where
  starts := if s.machine.isSome then s.restarts action else (s.perform action).machine.isSome
  outcomes := s.outcomesOf action
  completes := (s.ticksOf? action).isSome
  ticks := (s.ticksOf? action).getD 0

/-! ### Machines -/

/-- The service with a machine. -/
def holding (s : Service) (machine : Machine) : Service :=
  { s with machine := some machine }

variable {s : Service} {machine : Machine}

theorem holding_eq (hmachine : s.machine = some machine) : s.holding machine = s := by
  rw [holding, ← hmachine]

theorem available?_eq (hmachine : s.machine = some machine) : s.available? = some machine := by
  rw [available?, ensureMachine, hmachine]

/-- The machine that is made is the one that the service holds from then on. -/
theorem eq_holding_of_ensureMachine {after : Service}
    (hmade : s.ensureMachine = .ok (machine, after)) : after = s.holding machine := by
  unfold ensureMachine at hmade
  cases hmachine : s.machine with
  | some held =>
    rw [hmachine] at hmade
    cases hmade
    exact (holding_eq hmachine).symm
  | none =>
    rw [hmachine] at hmade
    cases hnew : s.newMachine with
    | ok fresh =>
      rw [hnew] at hmade
      cases hmade
      rfl
    | error cause =>
      rw [hnew] at hmade
      cases hmade

theorem onMachine_of_available {α : Type} (hmachine : s.available? = some machine)
    (act : Machine → Service → Except ServiceError α × Service) :
    s.onMachine act = act machine (s.holding machine) := by
  unfold available? at hmachine
  unfold onMachine
  cases hmade : s.ensureMachine with
  | ok result =>
    rw [hmade] at hmachine
    cases hmachine
    rw [← eq_holding_of_ensureMachine hmade]
  | error cause =>
    rw [hmade] at hmachine
    cases hmachine

theorem onMachine_of_unavailable {α : Type} (hmachine : s.available? = none)
    (act : Machine → Service → Except ServiceError α × Service) :
    ∃ cause : StartError, s.onMachine act = (.error (.start cause), s) := by
  unfold available? at hmachine
  unfold onMachine
  cases hmade : s.ensureMachine with
  | ok result =>
    rw [hmade] at hmachine
    cases hmachine
  | error cause => exact ⟨cause, rfl⟩

theorem view_of_available (hmachine : s.available? = some machine) :
    s.view = (.ok ⟨s.isRunning, s.toneActive, s.diagnostics, machine⟩, s.holding machine) := by
  rw [view, onMachine_of_available hmachine]
  rfl

theorem view_of_unavailable (hmachine : s.available? = none) :
    ∃ cause : StartError, s.view = (.error (.start cause), s) :=
  onMachine_of_unavailable hmachine _

theorem step_of_available (hmachine : s.available? = some machine) :
    s.step = if machine.halted then (.ok false, s.holding machine)
      else (.ok true, ((s.holding machine).advance machine).2) := by
  rw [step, onMachine_of_available hmachine]

theorem step_of_unavailable (hmachine : s.available? = none) :
    ∃ cause : StartError, s.step = (.error (.start cause), s) :=
  onMachine_of_unavailable hmachine _

/-! ### Steps -/

/-- The unknown words that a service remembers after steps. -/
def remember (log : List Diagnostic) (outcomes : List Outcome) : List Diagnostic :=
  outcomes.foldl (fun log outcome ↦ match outcome with
    | .executed _ (some event) => keepLast diagnosticLimit (log ++ [event])
    | _ => log) log

theorem advance_eq (s : Service) (machine : Machine) :
    s.advance machine = (machine.step.1, { s with
      machine := some machine.step.2
      diagnostics := remember s.diagnostics [machine.step.1] }) := by
  unfold advance
  rcases machine.step with ⟨outcome, after⟩
  rcases outcome with ⟨word, _ | event⟩ | fault | fault <;> rfl

/-- A machine that no fault has halted takes a step. -/
theorem perform_step_of_running (hmachine : s.available? = some machine)
    (hrunning : machine.fault = none) :
    s.perform .step = { s with
      machine := some machine.step.2
      diagnostics := remember s.diagnostics [machine.step.1] } := by
  have hstep := congrArg Prod.snd (step_of_available hmachine)
  simp only [Machine.halted, hrunning, Option.isSome_none, Bool.false_eq_true, if_false,
    advance_eq] at hstep
  exact hstep

/-- A batch is a run of the machine, and all its steps are taken if each executes a word. -/
theorem batch_eq (hmachine : s.machine = some machine) (count : Nat) :
    s.batch count = ((machine.run count).1.all Outcome.isExecuted, { s with
      machine := some (machine.run count).2
      diagnostics := remember s.diagnostics (machine.run count).1 }) := by
  induction count generalizing s machine with
  | zero =>
    rw [batch, Machine.run, ← hmachine]
    rfl
  | succ count ih =>
    rw [batch, hmachine, Machine.run]
    simp only [advance_eq]
    rcases machine.step with ⟨outcome, after⟩
    rcases outcome with ⟨word, diagnostic⟩ | fault | fault
    · exact ih rfl
    · rfl
    · rfl

end Service

/-! ### Ticks -/

namespace Machine

/-- The machine after a number of ticks. -/
def afterTicks (m : Machine) (count : Nat) : Machine :=
  m.after (List.replicate count .tick)

theorem afterTicks_succ (m : Machine) (count : Nat) :
    m.afterTicks (count + 1) = m.tick.2.afterTicks count :=
  rfl

/-- Ticks change nothing but the timers. -/
theorem afterTicks_eq (m : Machine) (count : Nat) :
    m.afterTicks count = { m with timers := (m.afterTicks count).timers } := by
  induction count generalizing m with
  | zero => rfl
  | succ count ih => exact ih m.tick.2

/-- A tick that lets no tone sound is followed by no other that does. -/
theorem tick_of_silent (m : Machine) (hsilent : m.tick.1 = false) : m.tick.2.tick.1 = false := by
  have hsound : m.timers.sound = 0 := bne_eq_false_iff_eq.mp hsilent
  show (Timers.countDown m.timers.sound != 0) = false
  rw [hsound]
  rfl

end Machine

namespace Service

variable {s : Service} {machine : Machine}

theorem tickMachine_eq (s : Service) (machine : Machine) :
    (s.tickMachine machine).2 = { s with
      machine := some machine.tick.2
      toneActive := s.toneActive || machine.tick.1 } := by
  unfold tickMachine
  rcases machine.tick with ⟨_ | _, after⟩
  · rw [Bool.or_false]
  · rw [Bool.or_true]

/-- Ticks let the tone sound if the first of them does. -/
theorem ticks_eq (hmachine : s.machine = some machine) (count : Nat) :
    s.ticks count = { s with
      machine := some (machine.afterTicks count)
      toneActive := s.toneActive || (decide (0 < count) && machine.tick.1) } := by
  induction count generalizing s machine with
  | zero =>
    rw [ticks, show machine.afterTicks 0 = machine from rfl, ← hmachine,
      decide_eq_false (by decide), Bool.false_and, Bool.or_false]
  | succ count ih =>
    have htone : (s.toneActive || machine.tick.1 ||
        (decide (0 < count) && machine.tick.2.tick.1)) = (s.toneActive || machine.tick.1) := by
      cases hfirst : machine.tick.1 with
      | true => rw [Bool.or_true, Bool.true_or]
      | false => rw [machine.tick_of_silent hfirst, Bool.and_false, Bool.or_false]
    rw [ticks, hmachine]
    dsimp only
    rw [tickMachine_eq, ih rfl, htone, Machine.afterTicks_succ,
      decide_eq_true (Nat.succ_pos count), Bool.true_and]

/-! ### Passes of the runner -/

section Pass

variable (runner : Runner) (now : Reading)

theorem pass_of_idle (hrequest : s.runRequested = false) :
    (runner.pass s now).1 = .ok .idle ∧ (runner.pass s now).2.2 = s := by
  rw [Runner.pass, hrequest]
  exact ⟨rfl, rfl⟩

theorem pass_of_vacant (hrequest : s.runRequested = true) (hmachine : s.machine = none) :
    (runner.pass s now).1 = .ok .vacant ∧ (runner.pass s now).2.2 = s := by
  rw [Runner.pass, hrequest, hmachine]
  exact ⟨rfl, rfl⟩

/-- The service after the batch of a pass. -/
def afterBatch (s : Service) (machine : Machine) (size : Nat) : Service :=
  { s with
    machine := some (machine.run size).2
    diagnostics := remember s.diagnostics (machine.run size).1 }

/-- A pass that is asked for takes a batch of steps. If a step executes no word, the service stops
running. Otherwise the clock tells how many ticks are due, unless it fails. -/
theorem pass_of_requested (hrequest : s.runRequested = true) (hmachine : s.machine = some machine) :
    runner.pass s now =
      if (machine.run runner.batchSize).1.all Outcome.isExecuted then
        match runner.clock.advanceTo now with
        | .error cause => (.error cause, runner, s.afterBatch machine runner.batchSize)
        | .ok (ticks, clock) =>
          (.ok (.completed ticks), { runner with clock := clock },
            { s.afterBatch machine runner.batchSize with
              machine := some ((machine.run runner.batchSize).2.afterTicks ticks.toNat)
              toneActive := decide (0 < ticks.toNat) && (machine.run runner.batchSize).2.tick.1 })
      else (.ok .halted, runner, (s.afterBatch machine runner.batchSize).pause) := by
  rw [Runner.pass, hrequest, hmachine, batch_eq hmachine]
  cases (machine.run runner.batchSize).1.all Outcome.isExecuted with
  | false => rfl
  | true =>
    simp only [Bool.not_true, Option.isNone_some, Bool.false_eq_true, if_true, if_false]
    cases runner.clock.advanceTo now with
    | error cause => rfl
    | ok due =>
      obtain ⟨ticks, clock⟩ := due
      dsimp only
      rw [ticks_eq rfl, Bool.false_or]
      rfl

theorem pass_of_completed {outcomes : List Outcome} {after : Machine} {ticks : Int}
    {clock : TickClock Reading} (hrequest : s.runRequested = true)
    (hmachine : s.machine = some machine)
    (hrun : machine.run runner.batchSize = (outcomes, after))
    (hsteps : outcomes.all Outcome.isExecuted = true)
    (hclock : runner.clock.advanceTo now = .ok (ticks, clock)) :
    runner.pass s now = (.ok (.completed ticks), { runner with clock := clock }, { s with
      machine := some (after.afterTicks ticks.toNat)
      diagnostics := remember s.diagnostics outcomes
      toneActive := decide (0 < ticks.toNat) && after.tick.1 }) := by
  rw [pass_of_requested runner now hrequest hmachine, afterBatch, hrun, if_pos hsteps, hclock]

end Pass

/-! ### All there is to an action -/

/-- What an action can do to a service, and with what work. -/
inductive PerformCase (s : Service) : ServiceAction → Work → Service → Prop
  /-- Nothing happens. -/
  | kept {action : ServiceAction} : PerformCase s action (.idle false) s
  /-- At most the keypad changes, of a machine that is made first if there is none. -/
  | keyed {action : ServiceAction} {machine : Machine} {keypad : Keypad}
      (hmachine : s.available? = some machine) (hrestarts : s.restarts action = false) :
      PerformCase s action (.idle s.machine.isNone)
        (s.holding { machine with keypad := keypad })
  /-- The runner is asked to run. -/
  | ran {machine : Machine} (hmachine : s.available? = some machine)
      (hrunning : machine.fault = none) :
      PerformCase s .run (.idle s.machine.isNone)
        { s.holding machine with isRunning := true, runRequested := true }
  /-- The runner is asked to stop. -/
  | paused : PerformCase s .pause (.idle false) s.pause
  /-- A step is taken. -/
  | stepped {machine : Machine} (hmachine : s.available? = some machine)
      (hrunning : machine.fault = none) :
      PerformCase s .step ⟨s.machine.isNone, [machine.step.1], false, 0⟩
        { s with
          machine := some machine.step.2
          diagnostics := remember s.diagnostics [machine.step.1] }
  /-- The machine is reset. -/
  | reset {machine : Machine} (hmachine : s.available? = some machine) :
      PerformCase s .reset (.idle true)
        { s with
          machine := some { machine.reset with keypad := .idle }
          diagnostics := []
          toneActive := false }
  /-- The machine is given a program. -/
  | loaded {action : ServiceAction} {machine : Machine} {program : Program}
      (hmachine : s.available? = some machine) (hrestarts : s.restarts action = true)
      (hreset : action ≠ .reset) :
      PerformCase s action (.idle true)
        { s with
          machine := some (.powerOn program machine.screen machine.keypad machine.source)
          diagnostics := [] }
  /-- The machine is given up. -/
  | shutDown : PerformCase s .shutDown (.idle false) s.shutDown
  /-- A step in a batch executes no word, and the service stops running. -/
  | halted {runner : Runner} {now : Reading} {machine : Machine}
      (hrequest : s.runRequested = true) (hmachine : s.machine = some machine)
      (hsteps : (machine.run runner.batchSize).1.all Outcome.isExecuted = false) :
      PerformCase s (.pass runner now) ⟨false, (machine.run runner.batchSize).1, false, 0⟩
        (s.afterBatch machine runner.batchSize).pause
  /-- A batch is taken, but the clock does not tell how many ticks are due. -/
  | stalled {runner : Runner} {now : Reading} {machine : Machine}
      (hrequest : s.runRequested = true) (hmachine : s.machine = some machine)
      (hsteps : (machine.run runner.batchSize).1.all Outcome.isExecuted = true) :
      PerformCase s (.pass runner now) ⟨false, (machine.run runner.batchSize).1, false, 0⟩
        (s.afterBatch machine runner.batchSize)
  /-- A batch and the ticks that are due are taken. -/
  | completed {runner : Runner} {now : Reading} {machine : Machine} {ticks : Nat}
      (hrequest : s.runRequested = true) (hmachine : s.machine = some machine)
      (hsteps : (machine.run runner.batchSize).1.all Outcome.isExecuted = true) :
      PerformCase s (.pass runner now) ⟨false, (machine.run runner.batchSize).1, true, ticks⟩
        { s.afterBatch machine runner.batchSize with
          machine := some ((machine.run runner.batchSize).2.afterTicks ticks)
          toneActive := decide (0 < ticks) && (machine.run runner.batchSize).2.tick.1 }

section Cases

variable {action : ServiceAction}

theorem machine_of_unavailable (hmachine : s.available? = none) : s.machine = none := by
  obtain hnone | ⟨machine, hsome⟩ := s.machine.eq_none_or_eq_some
  · exact hnone
  · rw [available?_eq hsome] at hmachine
    cases hmachine

theorem starts_eq_false (hrestarts : s.machine ≠ none → s.restarts action = false)
    (hnone : s.machine = none → (s.perform action).machine = none) :
    (s.workOf action).starts = false := by
  unfold workOf
  by_cases hmachine : s.machine = none
  · rw [hnone hmachine, hmachine]
    rfl
  · rw [hrestarts hmachine]
    simp [Option.isSome_iff_ne_none.mpr hmachine]

theorem workOf_pass_of_idle (runner : Runner) (now : Reading) (hrequest : s.runRequested = false) :
    s.workOf (.pass runner now) = .idle false := by
  obtain ⟨hpass, hafter⟩ := pass_of_idle runner now hrequest
  have hstarts : (s.workOf (.pass runner now)).starts = false :=
    starts_eq_false (fun _ ↦ rfl) fun hnone ↦ (congrArg Service.machine hafter).trans hnone
  have hsteps : s.outcomesOf (.pass runner now) = [] := by
    rw [outcomesOf, hrequest]
    cases s.machine <;> rfl
  have hticks : s.ticksOf? (.pass runner now) = none := by rw [ticksOf?, hpass]
  show Work.mk (s.workOf (.pass runner now)).starts (s.outcomesOf (.pass runner now))
    (s.ticksOf? (.pass runner now)).isSome ((s.ticksOf? (.pass runner now)).getD 0) = .idle false
  rw [hstarts, hsteps, hticks]
  rfl

theorem starts_eq (hmachine : (s.perform action).machine = some machine) :
    (s.workOf action).starts = (s.machine.isNone || s.restarts action) := by
  unfold workOf
  rw [hmachine]
  cases s.machine <;> rfl

/-- Assumes an action that takes no steps and no ticks. -/
theorem case_of_quiet {after : Service} {starts : Bool}
    (hcase : PerformCase s action (.idle starts) after)
    (hquiet : s.workOf action = .idle (s.workOf action).starts)
    (hstarts : (s.workOf action).starts = starts) (hperform : s.perform action = after) :
    PerformCase s action (s.workOf action) (s.perform action) := by
  rw [hquiet, hstarts, hperform]
  exact hcase

theorem case_of_kept (hquiet : s.workOf action = .idle (s.workOf action).starts)
    (hrestarts : s.machine ≠ none → s.restarts action = false) (hperform : s.perform action = s) :
    PerformCase s action (s.workOf action) (s.perform action) :=
  case_of_quiet .kept hquiet (starts_eq_false hrestarts fun h ↦ by rw [hperform, h]) hperform

theorem case_of_keyed {keypad : Keypad} (hmachine : s.available? = some machine)
    (hquiet : s.workOf action = .idle (s.workOf action).starts)
    (hrestarts : s.restarts action = false)
    (hperform : s.perform action = s.holding { machine with keypad := keypad }) :
    PerformCase s action (s.workOf action) (s.perform action) := by
  refine case_of_quiet (.keyed hmachine hrestarts) hquiet ?_ hperform
  rw [starts_eq (congrArg Service.machine hperform), hrestarts, Bool.or_false]

/-- Assumes an action that works with a machine and takes no steps and no ticks. Where there is none
and none can be made, nothing happens. -/
theorem case_of_onMachine {α : Type} {act : Machine → Service → Except ServiceError α × Service}
    (hquiet : s.workOf action = .idle (s.workOf action).starts)
    (hperform : s.perform action = (s.onMachine act).2)
    (hact : ∀ machine : Machine, s.available? = some machine →
      s.perform action = (act machine (s.holding machine)).2 →
        PerformCase s action (s.workOf action) (s.perform action)) :
    PerformCase s action (s.workOf action) (s.perform action) := by
  cases hmachine : s.available? with
  | none =>
    obtain ⟨cause, hfailed⟩ := onMachine_of_unavailable hmachine act
    rw [hfailed] at hperform
    exact case_of_kept hquiet (fun h ↦ absurd (machine_of_unavailable hmachine) h) hperform
  | some machine =>
    rw [onMachine_of_available hmachine act] at hperform
    exact hact machine hmachine hperform

theorem case_of_onKey {key : Json} {change : Keypad → Key → Keypad}
    (hquiet : s.workOf action = .idle (s.workOf action).starts)
    (hrestarts : s.restarts action = false)
    (hperform : s.perform action = (s.onKey key change).2) :
    PerformCase s action (s.workOf action) (s.perform action) := by
  unfold onKey at hperform
  split at hperform
  · exact case_of_kept hquiet (fun _ ↦ hrestarts) hperform
  · exact case_of_onMachine hquiet hperform fun machine hmachine hchanged ↦
      case_of_keyed hmachine hquiet hrestarts hchanged

theorem case_of_load {bytes : Array UInt8}
    (hquiet : s.workOf action = .idle (s.workOf action).starts)
    (hrestarts : s.restarts action = decide (bytes.size ≤ maxProgramSize))
    (hreset : action ≠ .reset) (hperform : s.perform action = (s.load bytes).2) :
    PerformCase s action (s.workOf action) (s.perform action) := by
  refine case_of_onMachine hquiet hperform fun machine hmachine hloaded ↦ ?_
  by_cases hfits : bytes.size ≤ maxProgramSize
  · rw [decide_eq_true hfits] at hrestarts
    rw [Machine.load, Program.ofBytes, dif_pos hfits] at hloaded
    refine case_of_quiet (.loaded hmachine hrestarts hreset) hquiet ?_ hloaded
    rw [starts_eq (congrArg Service.machine hloaded), hrestarts, Bool.or_true]
  · rw [decide_eq_false hfits] at hrestarts
    rw [Machine.load, Program.ofBytes, dif_neg hfits] at hloaded
    exact case_of_keyed hmachine hquiet hrestarts hloaded

theorem case_of_step (s : Service) : PerformCase s .step (s.workOf .step) (s.perform .step) := by
  have hquiet (hsteps : s.outcomesOf .step = []) :
      s.workOf .step = .idle (s.workOf .step).starts := by
    rw [workOf, hsteps]
    rfl
  cases hmachine : s.available? with
  | none =>
    obtain ⟨cause, hfailed⟩ := step_of_unavailable hmachine
    refine case_of_kept (hquiet ?_) (fun _ ↦ rfl) (congrArg Prod.snd hfailed)
    rw [outcomesOf, hmachine]
  | some machine =>
    cases hfault : machine.fault with
    | none =>
      have hsteps : s.outcomesOf .step = [machine.step.1] := by
        simp [outcomesOf, hmachine, Machine.halted, hfault]
      have hperform := perform_step_of_running hmachine hfault
      have hstarts : (s.workOf .step).starts = s.machine.isNone :=
        (starts_eq (congrArg Service.machine hperform)).trans (Bool.or_false _)
      have hwork : s.workOf .step = ⟨s.machine.isNone, [machine.step.1], false, 0⟩ := by
        rw [← hstarts, ← hsteps]
        rfl
      rw [hwork, hperform]
      exact .stepped hmachine hfault
    | some fault =>
      have hsteps : s.outcomesOf .step = [] := by
        simp [outcomesOf, hmachine, Machine.halted, hfault]
      have hperform := congrArg Prod.snd (step_of_available hmachine)
      simp only [Machine.halted, hfault, Option.isSome_some, if_true] at hperform
      exact case_of_keyed hmachine (hquiet hsteps) rfl hperform

theorem case_of_pass (s : Service) (runner : Runner) (now : Reading) :
    PerformCase s (.pass runner now) (s.workOf (.pass runner now))
      (s.perform (.pass runner now)) := by
  have hticks {ticks : Option Nat} (hpass : s.ticksOf? (.pass runner now) = ticks) :
      s.workOf (.pass runner now) =
        ⟨(s.workOf (.pass runner now)).starts, s.outcomesOf (.pass runner now), ticks.isSome,
          ticks.getD 0⟩ := by
    rw [← hpass]
    rfl
  cases hrequest : s.runRequested with
  | false =>
    refine case_of_kept ?_ (fun _ ↦ rfl) (pass_of_idle runner now hrequest).2
    rw [workOf_pass_of_idle runner now hrequest]
    rfl
  | true =>
    cases hmachine : s.machine with
    | none =>
      obtain ⟨hpass, hafter⟩ := pass_of_vacant runner now hrequest hmachine
      refine case_of_kept ?_ (fun _ ↦ rfl) hafter
      rw [hticks (by rw [ticksOf?, hpass]), outcomesOf, hmachine]
      rfl
    | some machine =>
      have hpass := pass_of_requested runner now hrequest hmachine
      have hsteps : s.outcomesOf (.pass runner now) = (machine.run runner.batchSize).1 := by
        simp [outcomesOf, hmachine, hrequest]
      have hstarts : (s.workOf (.pass runner now)).starts = false :=
        starts_eq_false (fun _ ↦ rfl) fun hnone ↦ absurd (hnone.symm.trans hmachine) nofun
      have hwork {ticks : Option Nat} (hdue : s.ticksOf? (.pass runner now) = ticks) :
          s.workOf (.pass runner now) =
            ⟨false, (machine.run runner.batchSize).1, ticks.isSome, ticks.getD 0⟩ := by
        rw [hticks hdue, hstarts, hsteps]
      cases hall : (machine.run runner.batchSize).1.all Outcome.isExecuted with
      | false =>
        rw [hall] at hpass
        rw [hwork (by rw [ticksOf?, hpass]), perform_pass, hpass]
        exact .halted hrequest hmachine hall
      | true =>
        rw [hall, if_pos rfl] at hpass
        split at hpass
        · rw [hwork (by rw [ticksOf?, hpass]), perform_pass, hpass]
          exact .stalled hrequest hmachine hall
        · rw [hwork (by rw [ticksOf?, hpass]), perform_pass, hpass]
          exact .completed hrequest hmachine hall

theorem perform_cases (s : Service) (action : ServiceAction) :
    PerformCase s action (s.workOf action) (s.perform action) := by
  cases action with
  | run =>
    refine case_of_onMachine rfl rfl fun machine hmachine hasked ↦ ?_
    cases hfault : machine.fault with
    | none =>
      simp only [Machine.halted, hfault, Option.isSome_none, Bool.false_eq_true, if_false] at hasked
      refine case_of_quiet (.ran hmachine hfault) rfl ?_ hasked
      rw [starts_eq (congrArg Service.machine hasked)]
      exact Bool.or_false _
    | some fault =>
      simp only [Machine.halted, hfault, Option.isSome_some, if_true] at hasked
      exact case_of_keyed hmachine rfl rfl hasked
  | pause => exact case_of_quiet .paused rfl (starts_eq_false (fun _ ↦ rfl) fun h ↦ h) rfl
  | step => exact case_of_step s
  | reset =>
    refine case_of_onMachine rfl rfl fun machine hmachine hreset ↦ ?_
    refine case_of_quiet (.reset hmachine) rfl ?_ hreset
    rw [starts_eq (congrArg Service.machine hreset)]
    exact Bool.or_true _
  | load bytes => exact case_of_load rfl rfl nofun rfl
  | loadFile path =>
    cases hbytes : Program.fileBytes s.files (.ofString path) with
    | error cause =>
      refine case_of_kept rfl (fun _ ↦ ?_) ?_
      · unfold restarts
        dsimp only
        rw [hbytes]
      · show (s.loadFile path).2 = _
        unfold loadFile
        rw [hbytes]
    | ok bytes =>
      refine case_of_load rfl (?_ : _ = decide (bytes.size ≤ maxProgramSize)) nofun ?_
      · unfold restarts
        dsimp only
        rw [hbytes]
      · show (s.loadFile path).2 = _
        unfold loadFile
        rw [hbytes]
  | press key => exact case_of_onKey rfl rfl rfl
  | release key => exact case_of_onKey rfl rfl rfl
  | view =>
    exact case_of_onMachine rfl rfl fun machine hmachine hshown ↦
      case_of_keyed hmachine rfl rfl hshown
  | shutDown => exact case_of_quiet .shutDown rfl (starts_eq_false (fun _ ↦ rfl) fun _ ↦ rfl) rfl
  | pass runner now => exact case_of_pass s runner now

end Cases

end Service

end Cosmac
