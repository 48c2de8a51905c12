import Cosmac.Proofs.Service.Action

/-!
# Whether a service runs

A service that says that it is running is one whose runner has been asked to run, and then it has a
machine that no fault has halted (`Service.Coherent`). Every action preserves this but a step that
is taken while the runner runs (`Service.Coherent.perform`). So a machine that a fault has halted
rests: until it is started anew no action takes a step with it or counts its timers down
(`Service.HoldsHalted.perform`), and the runner stays idle until it is asked to run again
(`Service.runRequested_perform`).
-/

set_option autoImplicit false

namespace Cosmac

namespace Machine

/-- A run that executes all its words does not halt the machine. -/
theorem fault_run {m : Machine} (hrunning : m.fault = none) {count : Nat}
    (hsteps : (m.run count).1.all Outcome.isExecuted = true) : (m.run count).2.fault = none := by
  induction count generalizing m with
  | zero => exact hrunning
  | succ count ih =>
    revert hsteps
    rw [run]
    generalize hresult : m.step = result
    cases step_cases hresult with
    | refused | faulted =>
      intro hsteps
      cases hsteps
    | reported => exact fun hsteps ↦ ih hrunning (Bool.and_eq_true_iff.mp hsteps).2
    | completed _ _ hexecute =>
      obtain ⟨-, -, -, hfault, -⟩ := records_of_execute hexecute
      exact fun hsteps ↦ ih (hfault.trans hrunning) (Bool.and_eq_true_iff.mp hsteps).2

theorem fault_afterTicks (m : Machine) (count : Nat) : (m.afterTicks count).fault = m.fault := by
  rw [afterTicks_eq]

end Machine

namespace Service

variable {s : Service} {machine : Machine} {action : ServiceAction}

/-! ### Coherence -/

/-- Whether a service runs exactly while its runner has been asked to, and not with a machine that a
fault has halted. -/
structure Coherent (s : Service) : Prop where
  /-- The service says that it is running if the runner has been asked to run. -/
  agrees : s.isRunning = s.runRequested
  /-- A service that is running has a machine that no fault has halted. -/
  sound : s.isRunning = true → ∃ machine, s.machine = some machine ∧ machine.fault = none

theorem Coherent.of_stopped (hrunning : s.isRunning = false) (hrequest : s.runRequested = false) :
    s.Coherent :=
  ⟨hrunning.trans hrequest.symm, fun h ↦ nomatch hrunning.symm.trans h⟩

theorem Coherent.fault_of_requested (hs : s.Coherent) (hrequest : s.runRequested = true)
    (hmachine : s.machine = some machine) : machine.fault = none := by
  obtain ⟨running, hrunning, hfault⟩ := hs.sound (hs.agrees.trans hrequest)
  cases hmachine.symm.trans hrunning
  exact hfault

/-- The machine that a service would work with is halted by no fault if the service is running. -/
theorem Coherent.fault_of_available (hs : s.Coherent) (hrunning : s.isRunning = true)
    (hmachine : s.available? = some machine) : machine.fault = none := by
  obtain ⟨running, hheld, hfault⟩ := hs.sound hrunning
  cases hmachine.symm.trans (available?_eq hheld)
  exact hfault

/-- A service is coherent after each action, except perhaps a step that is taken while the runner
runs. -/
theorem Coherent.perform (hs : s.Coherent) (hstep : action = .step → s.isRunning = false) :
    (s.perform action).Coherent := by
  have hcase := perform_cases s action
  generalize s.workOf action = work, s.perform action = after at hcase ⊢
  cases hcase with
  | kept => exact hs
  | keyed hmachine =>
    refine ⟨hs.agrees, fun hrunning ↦ ?_⟩
    have hfault := hs.fault_of_available hrunning hmachine
    exact ⟨_, rfl, hfault⟩
  | ran hmachine hfault => exact ⟨rfl, fun _ ↦ ⟨_, rfl, hfault⟩⟩
  | paused | shutDown | halted => exact .of_stopped rfl rfl
  | stepped =>
    have hstopped := hstep rfl
    exact .of_stopped hstopped (hs.agrees.symm.trans hstopped)
  | reset | loaded => exact ⟨hs.agrees, fun _ ↦ ⟨_, rfl, rfl⟩⟩
  | stalled hrequest hmachine hsteps =>
    have hfault := hs.fault_of_requested hrequest hmachine
    exact ⟨hs.agrees, fun _ ↦ ⟨_, rfl, Machine.fault_run hfault hsteps⟩⟩
  | completed hrequest hmachine hsteps =>
    have hfault := hs.fault_of_requested hrequest hmachine
    exact ⟨hs.agrees, fun _ ↦
      ⟨_, rfl, (Machine.fault_afterTicks _ _).trans (Machine.fault_run hfault hsteps)⟩⟩

/-! ### Halted machines -/

/-- Whether a service holds a machine that a fault has halted, with any keys pressed. -/
def HoldsHalted (s : Service) (machine : Machine) : Prop :=
  machine.halted = true ∧ ∃ keypad, s.machine = some { machine with keypad := keypad }

theorem HoldsHalted.fault_ne_none {held : Machine} (hhalted : s.HoldsHalted machine)
    (hmachine : s.available? = some held) : held.fault ≠ none := by
  obtain ⟨hfault, keypad, hheld⟩ := hhalted
  cases hmachine.symm.trans (available?_eq hheld)
  exact Option.isSome_iff_ne_none.mp hfault

theorem HoldsHalted.runRequested (hhalted : s.HoldsHalted machine) (hs : s.Coherent) :
    s.runRequested = false := by
  obtain ⟨keypad, hheld⟩ := hhalted.2
  refine Bool.eq_false_iff.mpr fun hrequest ↦ ?_
  exact hhalted.fault_ne_none (available?_eq hheld) (hs.fault_of_requested hrequest hheld)

/-- With a machine that a fault has halted, an action that neither starts it anew nor gives it up
takes no steps and counts no timers down. At most the keypad changes. -/
theorem HoldsHalted.perform (hhalted : s.HoldsHalted machine) (hs : s.Coherent)
    (hrestarts : s.restarts action = false) (hkeeps : action ≠ .shutDown) :
    s.workOf action = .idle false ∧ (s.perform action).HoldsHalted machine := by
  have hrequest := hhalted.runRequested hs
  have hcase := perform_cases s action
  generalize s.workOf action = work, s.perform action = after at hcase ⊢
  cases hcase with
  | kept | paused => exact ⟨rfl, hhalted⟩
  | keyed hmachine =>
    obtain ⟨hfault, keypad, hheld⟩ := hhalted
    cases hmachine.symm.trans (available?_eq hheld)
    rw [hheld]
    exact ⟨rfl, hfault, _, rfl⟩
  | ran hmachine hfault | stepped hmachine hfault =>
    exact absurd hfault (hhalted.fault_ne_none hmachine)
  | reset => cases hrestarts
  | loaded _ hloads => cases hrestarts.symm.trans hloads
  | shutDown => exact absurd rfl hkeeps
  | halted hrequested | stalled hrequested | completed hrequested =>
    cases hrequest.symm.trans hrequested

/-- The runner is asked to run by nothing but a request to run. -/
theorem runRequested_perform (hrequest : s.runRequested = false) (hasks : action ≠ .run) :
    (s.perform action).runRequested = false := by
  have hcase := perform_cases s action
  generalize s.workOf action = work, s.perform action = after at hcase ⊢
  cases hcase with
  | kept | keyed | stepped | reset | loaded => exact hrequest
  | ran => exact absurd rfl hasks
  | paused | shutDown | halted => rfl
  | stalled hrequested | completed hrequested => cases hrequest.symm.trans hrequested

end Service

end Cosmac
