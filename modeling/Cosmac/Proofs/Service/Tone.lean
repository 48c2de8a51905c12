import Cosmac.Proofs.Service.Action

/-!
# The tone before the first tick

A service lets the tone sound at a tick, and it shows whether it does. A machine may have been
started since: `ToneHistory` counts the ticks since the last start. If there has been none, the tone
that is shown is one that the machine has inherited: a reset silences the tone, but a new program
and a new machine do not, and it goes on until a batch of the runner is completed
(`ToneHistory.tone_inherited_before_tick`). A program that is replaced while the tone sounds leaves
it to the next (`ToneHistory.tone_outlives_program`).
-/

set_option autoImplicit false

namespace Cosmac

/-- Whether an action is a reset. -/
def ServiceAction.isReset : ServiceAction → Bool
  | .reset => true
  | _ => false

/-- Whether an action replaces the machine or its program without a reset. -/
def ServiceAction.isReplacement : ServiceAction → Bool
  | .load _ | .loadFile _ | .shutDown => true
  | _ => false

theorem Service.isReset_eq_false {s : Service} {action : ServiceAction}
    (hrestarts : s.restarts action = false) : action.isReset = false := by
  cases action with
  | reset => cases hrestarts
  | _ => rfl

theorem Service.view_of_ok {s : Service} {view : ServiceView} (hview : s.view.1 = .ok view) :
    view.toneActive = s.toneActive ∧ (s.perform .view).toneActive = s.toneActive := by
  revert hview
  unfold Service.perform
  cases hmachine : s.available? with
  | none =>
    obtain ⟨cause, hfailed⟩ := view_of_unavailable hmachine
    rw [hfailed]
    exact nofun
  | some machine =>
    rw [view_of_available hmachine]
    intro hview
    cases hview
    exact ⟨rfl, rfl⟩

/-- A service, and what has happened to its tone since its machine was last started. -/
structure ToneHistory where
  /-- The service. -/
  service : Service
  /-- The number of timer ticks since the machine was last made, reset or given a program. -/
  ticks : Nat
  /-- Whether the tone sounded when the machine was last started, other than by a reset, and no
  batch of the runner has been completed since. -/
  inherited : Bool

namespace ToneHistory

/-- Nothing has happened to a service yet. -/
def start (s : Service) : ToneHistory :=
  ⟨s, 0, false⟩

/-- The history after an action that does some work and leaves a service behind. -/
def next (past : ToneHistory) (action : ServiceAction) (work : Work) (after : Service) :
    ToneHistory where
  service := after
  ticks := (if work.starts then 0 else past.ticks) + work.ticks
  inherited :=
    if work.starts then !action.isReset && past.service.toneActive
    else !work.completes && past.inherited

/-- The history after an action. -/
def perform (past : ToneHistory) (action : ServiceAction) : ToneHistory :=
  past.next action (past.service.workOf action) (past.service.perform action)

/-- The history after actions one after the other. -/
def performAll (past : ToneHistory) (actions : List ServiceAction) : ToneHistory :=
  actions.foldl perform past

theorem service_pass (past : ToneHistory) (runner : Runner) (now : Reading) :
    (past.perform (.pass runner now)).service = (runner.pass past.service now).2.2 :=
  rfl

/-- Whether the tone, before the first tick, is what the machine has inherited. -/
def IsFaithful (past : ToneHistory) : Prop :=
  past.ticks = 0 → past.service.toneActive = past.inherited

variable {past : ToneHistory} {action : ServiceAction}

/-- Assumes an action that completes no batch and keeps the tone. -/
theorem IsFaithful.next_of_kept (hpast : past.IsFaithful) {work : Work} {after : Service}
    (hstarts : work.starts = true → action.isReset = false) (hticks : work.ticks = 0)
    (hcompletes : work.completes = false) (htone : after.toneActive = past.service.toneActive) :
    (past.next action work after).IsFaithful := by
  intro hnone
  show after.toneActive = if work.starts then !action.isReset && past.service.toneActive
    else !work.completes && past.inherited
  rw [htone, hcompletes]
  by_cases hfresh : work.starts = true
  · rw [if_pos hfresh, hstarts hfresh]
    rfl
  · rw [if_neg hfresh]
    refine hpast ?_
    have hsum : (if work.starts then 0 else past.ticks) + work.ticks = 0 := hnone
    rwa [if_neg hfresh, hticks] at hsum

theorem IsFaithful.perform (hpast : past.IsFaithful) (action : ServiceAction) :
    (past.perform action).IsFaithful := by
  have hcase := Service.perform_cases past.service action
  unfold ToneHistory.perform
  generalize past.service.workOf action = work, past.service.perform action = after at hcase ⊢
  cases hcase with
  | kept | paused | shutDown | halted | stalled => exact hpast.next_of_kept nofun rfl rfl rfl
  | keyed _ hrestarts =>
    exact hpast.next_of_kept (fun _ ↦ Service.isReset_eq_false hrestarts) rfl rfl rfl
  | ran | stepped => exact hpast.next_of_kept (fun _ ↦ rfl) rfl rfl rfl
  | reset => exact fun _ ↦ rfl
  | loaded _ _ hreset =>
    refine hpast.next_of_kept (fun _ ↦ ?_) rfl rfl rfl
    cases action with
    | reset => exact absurd rfl hreset
    | _ => rfl
  | completed =>
    rename_i ticks _ _ _
    -- Without ticks a batch that is completed silences the tone.
    intro hnone
    have hzero : ticks = 0 := (Nat.add_eq_zero_iff.mp hnone).2
    subst hzero
    rfl

theorem IsFaithful.performAll (hpast : past.IsFaithful) (actions : List ServiceAction) :
    (past.performAll actions).IsFaithful := by
  induction actions generalizing past with
  | nil => exact hpast
  | cons action rest ih => exact ih (hpast.perform action)

/-! ### Without replacements -/

/-- Whether no machine has inherited a tone, and none that is yet to be made will. -/
def IsUninherited (past : ToneHistory) : Prop :=
  past.inherited = false ∧ (past.service.machine = none → past.service.toneActive = false)

/-- Assumes an action that starts a machine only where there is none. -/
theorem IsUninherited.next_of_kept (hpast : past.IsUninherited) {work : Work} {after : Service}
    (hstarts : work.starts = true → past.service.machine = none)
    (hafter : after.machine = none → after.toneActive = false) :
    (past.next action work after).IsUninherited := by
  refine ⟨?_, hafter⟩
  show (if work.starts then !action.isReset && past.service.toneActive
    else !work.completes && past.inherited) = false
  by_cases hfresh : work.starts = true
  · rw [if_pos hfresh, hpast.2 (hstarts hfresh), Bool.and_false]
  · rw [if_neg hfresh, hpast.1, Bool.and_false]

theorem IsUninherited.perform (hpast : past.IsUninherited) (hkeeps : action.isReplacement = false) :
    (past.perform action).IsUninherited := by
  have hcase := Service.perform_cases past.service action
  unfold ToneHistory.perform
  generalize past.service.workOf action = work, past.service.perform action = after at hcase ⊢
  cases hcase with
  | kept | paused => exact hpast.next_of_kept nofun hpast.2
  | keyed | ran | stepped => exact hpast.next_of_kept Option.isNone_iff_eq_none.mp nofun
  | reset => exact ⟨rfl, nofun⟩
  | loaded _ hrestarts hreset =>
    cases action with
    | reset => exact absurd rfl hreset
    | load | loadFile => cases hkeeps
    | _ => cases hrestarts
  | shutDown => cases hkeeps
  | halted | stalled | completed => exact hpast.next_of_kept nofun nofun

theorem IsUninherited.performAll (hpast : past.IsUninherited) {actions : List ServiceAction}
    (hkeeps : ∀ action ∈ actions, action.isReplacement = false) :
    (past.performAll actions).IsUninherited := by
  induction actions generalizing past with
  | nil => exact hpast
  | cons action rest ih =>
    refine ih (hpast.perform (hkeeps action List.mem_cons_self)) fun later hlater ↦ ?_
    exact hkeeps later (List.mem_cons_of_mem action hlater)

/-- Assumes a new service, any actions, and that the service can then be shown, which makes a
machine if there is none. If the timers have not ticked since the machine was made, reset or given a
program, the tone that is shown is what the machine has inherited: it sounded when the machine was
made or given a program, and no batch of the runner has been completed since. If no action has
replaced the machine or its program, the tone is silent. -/
theorem tone_inherited_before_tick (config : Config) (files : Files) (programFile : Option String)
    (actions : List ServiceAction) {view : ServiceView} :
    let history := (start (.ofConfig config files programFile)).performAll actions
    let shown := history.perform .view
    history.service.view.1 = .ok view → shown.ticks = 0 →
      view.toneActive = shown.inherited ∧
        ((∀ action ∈ actions, action.isReplacement = false) → view.toneActive = false) := by
  intro history shown hview hticks
  have hfaithful : history.IsFaithful := by
    have hstart : (start (.ofConfig config files programFile)).IsFaithful := fun _ ↦ rfl
    exact hstart.performAll actions
  obtain ⟨hsame, hkept⟩ := Service.view_of_ok hview
  have htone : view.toneActive = shown.inherited :=
    hsame.trans (hkept.symm.trans (hfaithful.perform .view hticks))
  refine ⟨htone, fun hkeeps ↦ htone.trans ?_⟩
  have huninherited : history.IsUninherited := by
    have hstart : (start (.ofConfig config files programFile)).IsUninherited := ⟨rfl, fun _ ↦ rfl⟩
    exact hstart.performAll hkeeps
  exact (huninherited.perform rfl).1

theorem tone_inherited_before_tick_of_reset :
    let history := (start (.ofConfig .standard ⟨[], []⟩ none)).performAll [.run, .reset]
    ∃ view, history.service.view.1 = .ok view ∧ view.toneActive = false := by
  intro history
  have hview : ∃ view, history.service.view.1 = .ok view := ⟨_, rfl⟩
  obtain ⟨view, hview⟩ := hview
  refine ⟨view, hview, ?_⟩
  have htone := tone_inherited_before_tick .standard ⟨[], []⟩ none [.run, .reset] hview rfl
  exact htone.2 (by decide)

/-! ### A tone that is handed on -/

/-- A program that is replaced leaves its tone to the next. -/
theorem tone_of_load (past : ToneHistory) {machine : Machine} {bytes : Array UInt8}
    (hmachine : past.service.machine = some machine) (hfits : bytes.size ≤ maxProgramSize) :
    ((past.perform (.load bytes)).perform .view).ticks = 0 ∧
      ∃ view, (past.perform (.load bytes)).service.view.1 = .ok view ∧
        view.toneActive = past.service.toneActive := by
  have hstarts : (past.service.workOf (.load bytes)).starts = true := by
    unfold Service.workOf
    rw [hmachine]
    exact decide_eq_true hfits
  have hload : (past.perform (.load bytes)).service = { past.service with
      machine := some (.powerOn ⟨bytes, hfits⟩ machine.screen machine.keypad machine.source)
      diagnostics := [] } := by
    show (past.service.load bytes).2 = _
    rw [Service.load, Service.onMachine_of_available (Service.available?_eq hmachine),
      Machine.load, Program.ofBytes, dif_pos hfits]
    rfl
  constructor
  · have hnone : (past.perform (.load bytes)).ticks = 0 := by
      show (if (past.service.workOf (.load bytes)).starts then 0 else past.ticks) + 0 = 0
      rw [if_pos hstarts]
    show (if ((past.perform (.load bytes)).service.workOf .view).starts then 0
      else (past.perform (.load bytes)).ticks) + 0 = 0
    rw [hnone, ite_self]
  · rw [hload]
    exact ⟨_, rfl, rfl⟩

/-- A program that sets the sound timer and then idles. -/
def beep : Program :=
  ⟨#[0x60, 0xFF, 0xF0, 0x18, 0x12, 0x04], by decide⟩

/-- A configuration with one step in a batch. -/
def unhurried : Config :=
  { Config.standard with instructionsPerSecond := .whole 60 }

/-- The runner of the configuration. -/
def beepRunner : Runner :=
  ⟨⟨.time (.real 60.0), .time (.real (1.0 / 60.0)), none⟩, 1⟩

/-- The runner after a batch at the time zero. -/
def countingRunner : Runner :=
  ⟨⟨.time (.real 60.0), .time (.real (1.0 / 60.0)), some (.time (.real 0.0))⟩, 1⟩

/-- A machine with the program. -/
def beepMachine : Machine :=
  .powerOn beep .screen .idle .silent

/-- The machine after its first step. -/
def readyMachine : Machine :=
  (beepMachine.setRegister ⟨0, by decide⟩ 0xFF).complete 0x202

/-- The machine after the step that sets the sound timer. -/
def beepingMachine : Machine :=
  { readyMachine with timers := ⟨0, 0xFF⟩ }.complete 0x204

theorem run_beepMachine : beepMachine.run 1 = ([.executed 0x60FF none], readyMachine) := by
  have hmemory : beepMachine.memory = Machine.initialMemory beep := rfl
  have hpc : beepMachine.pc = (programStart + 0 : Nat) := rfl
  have hfetch : beepMachine.fetch = 0x60FF := by
    rw [Machine.fetch_initialMemory hmemory hpc (by decide)]
    decide
  have hstep : beepMachine.step = (.executed beepMachine.fetch none, readyMachine) :=
    Machine.step_of_execute rfl (by rw [hfetch]; rfl) rfl
  rw [Machine.run, hstep, hfetch]
  rfl

theorem run_readyMachine : readyMachine.run 1 = ([.executed 0xF018 none], beepingMachine) := by
  have hmemory : readyMachine.memory = Machine.initialMemory beep := rfl
  have hpc : readyMachine.pc = (programStart + 2 : Nat) := rfl
  have hfetch : readyMachine.fetch = 0xF018 := by
    rw [Machine.fetch_initialMemory hmemory hpc (by decide)]
    decide
  have hstep : readyMachine.step = (.executed readyMachine.fetch none, beepingMachine) :=
    Machine.step_of_execute rfl (by rw [hfetch]; rfl) rfl
  rw [Machine.run, hstep, hfetch]
  rfl

/-- A new service is given the program and asked to run it. -/
def started : ToneHistory :=
  (start (.ofConfig unhurried ⟨[], []⟩ none)).performAll [.load beep.bytes, .run]

/-- Then its runner takes the first step. -/
def counting : ToneHistory :=
  started.perform (.pass beepRunner (.time (.real 0.0)))

/-- Then it takes the second step, and ticks are due. -/
def beeping : ToneHistory :=
  counting.perform (.pass countingRunner (.time (.real 1.0)))

theorem service_started :
    started.service = { Service.ofConfig unhurried ⟨[], []⟩ none with
      machine := some beepMachine
      isRunning := true
      runRequested := true } := by
  rfl

theorem pass_beepRunner :
    beepRunner.pass started.service (.time (.real 0.0)) =
      (.ok (.completed 0), countingRunner, { started.service with
        machine := some readyMachine
        toneActive := false }) := by
  have hrequest : started.service.runRequested = true := by rw [service_started]
  have hmachine : started.service.machine = some beepMachine := by rw [service_started]
  have hclock : beepRunner.clock.advanceTo (.time (.real 0.0)) = .ok (0, countingRunner.clock) :=
    rfl
  exact Service.pass_of_completed beepRunner _ hrequest hmachine run_beepMachine rfl hclock

theorem service_counting :
    counting.service = { started.service with
      machine := some readyMachine
      toneActive := false } := by
  rw [counting, service_pass, pass_beepRunner]

theorem service_beeping :
    beeping.service.machine = some (beepingMachine.afterTicks 60) ∧
      beeping.service.toneActive = true := by
  have hrequest : counting.service.runRequested = true := by rw [service_counting, service_started]
  have hmachine : counting.service.machine = some readyMachine := by rw [service_counting]
  have hclock : countingRunner.clock.advanceTo (.time (.real 1.0)) = .ok (60,
      ⟨.time (.real 60.0), .time (.real (1.0 / 60.0)), some (.time (.real 1.0))⟩) := rfl
  rw [beeping, service_pass,
    Service.pass_of_completed countingRunner _ hrequest hmachine run_readyMachine rfl hclock]
  exact ⟨rfl, rfl⟩

/-- A service runs the program with its own runner, whose clock makes ticks due after the second
batch, so that the tone sounds. Then the program is replaced. The tone is still shown, although the
timers have not ticked since. -/
theorem tone_outlives_program :
    let replaced := beeping.perform (.load #[0x12, 0x00])
    Runner.ofConfig unhurried = .ok beepRunner ∧
      (beepRunner.pass started.service (.time (.real 0.0))).2.1 = countingRunner ∧
      (replaced.perform .view).ticks = 0 ∧
      ∃ view, replaced.service.view.1 = .ok view ∧ view.toneActive = true := by
  intro replaced
  obtain ⟨hmachine, hsounds⟩ := service_beeping
  have hfits : (#[0x12, 0x00] : Array UInt8).size ≤ maxProgramSize := by decide
  obtain ⟨hticks, view, hview, htone⟩ := beeping.tone_of_load hmachine hfits
  refine ⟨rfl, by rw [pass_beepRunner], hticks, view, hview, ?_⟩
  rw [htone, hsounds]

end ToneHistory

end Cosmac
