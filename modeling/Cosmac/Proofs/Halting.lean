import Cosmac.Proofs.Microcode.Simulation

/-!
# Faults are atomic and final

A step that faults stores the fault and changes nothing else. From then on the machine is halted by
that fault (`Machine.HaltedBy`): steps and runs are refused and change nothing, ticks and keys
change only the timers and the keypad (`perform_of_halted`), and the fault still names the word at
the program counter (`HaltedBy.after`). Starting a program clears it. A run that meets a fault ends
in the machine after the steps before it, halted (`run_of_faulted`). `fault_atomic_and_final` says
all of this together, of the machine and of microcode, which has no means to take back what a
handler has done.
-/

set_option autoImplicit false

namespace Cosmac

/-- Whether an action takes steps, counts the timers down or operates the keys. -/
def HostAction.isPassive : HostAction → Bool
  | step | run _ | tick | press _ | release _ | releaseAll => true
  | reset | load _ | write _ _ | setRegister _ _ => false

/-- Whether a step executed a word. -/
def Outcome.isExecuted : Outcome → Bool
  | executed _ _ => true
  | faulted _ | refused _ => false

namespace Machine

variable {m : Machine} {fault : Fault}

/-- The machine after a number of steps. -/
def afterSteps (m : Machine) (count : Nat) : Machine :=
  m.after (List.replicate count .step)

theorem afterSteps_zero (m : Machine) : m.afterSteps 0 = m :=
  rfl

theorem afterSteps_succ (m : Machine) (count : Nat) :
    m.afterSteps (count + 1) = m.step.2.afterSteps count :=
  rfl

/-- A fault has halted a machine, and it names the word at the program counter. -/
structure HaltedBy (m : Machine) (fault : Fault) : Prop where
  /-- The fault is stored. -/
  stored : m.fault = some fault
  /-- It names the program counter. -/
  pc : fault.pc = m.pc
  /-- It names the word there. -/
  word : fault.word = m.fetch

/-! ### Halting -/

/-- A step that faults stores the fault and changes nothing else. -/
theorem step_of_faulted (hfault : m.step.1 = .faulted fault) :
    m.step = (.faulted fault, { m with fault := some fault }) ∧ fault.pc = m.pc ∧
      fault.word = m.fetch := by
  generalize hresult : m.step = result at hfault
  cases step_cases hresult with
  | refused | reported | completed => cases hfault
  | faulted =>
    cases hfault
    exact ⟨rfl, rfl, rfl⟩

theorem run_of_halted (hhalted : m.fault = some fault) (count : Nat) :
    m.run (count + 1) = ([.refused fault], m) := by
  rw [run, step_of_halted hhalted]

theorem afterSteps_of_halted (hhalted : m.fault = some fault) (count : Nat) :
    m.afterSteps count = m := by
  induction count with
  | zero => rfl
  | succ count ih => rw [afterSteps_succ, step_of_halted hhalted, ih]

/-! ### Runs -/

/-- A step before one that faults executes its word. -/
theorem step_of_afterSteps_faulted {taken : Nat}
    (hfault : (m.step.2.afterSteps taken).step.1 = .faulted fault) :
    ∃ word diagnostic, m.step.1 = .executed word diagnostic := by
  -- A machine that is halted after its first step would refuse the later one.
  have hrunning (cause : Fault) : m.step.2.fault ≠ some cause := by
    intro hhalted
    rw [afterSteps_of_halted hhalted, step_of_halted hhalted] at hfault
    cases hfault
  generalize hresult : m.step = result at hrunning
  cases step_cases hresult with
  | refused hhalted => exact absurd hhalted (hrunning _)
  | reported | completed => exact ⟨_, _, rfl⟩
  | faulted => exact absurd rfl (hrunning _)

/-- A run that meets a fault executes the words before it and ends in the machine after these steps,
with the fault stored. -/
theorem run_of_faulted {taken count : Nat} (hcount : taken < count)
    (hfault : (m.afterSteps taken).step.1 = .faulted fault) :
    ∃ outcomes : List Outcome, (∀ outcome ∈ outcomes, outcome.isExecuted = true) ∧
      outcomes.length = taken ∧
      m.run count = (outcomes ++ [.faulted fault],
        { m.afterSteps taken with fault := some fault }) := by
  induction taken generalizing m count with
  | zero =>
    obtain ⟨count, rfl⟩ := Nat.exists_eq_succ_of_ne_zero hcount.ne'
    have hstep : m.step = (.faulted fault, { m with fault := some fault }) :=
      (step_of_faulted hfault).1
    refine ⟨[], ?_, rfl, ?_⟩
    · intro outcome hmem
      cases hmem
    · rw [run, hstep]
      rfl
  | succ taken ih =>
    obtain ⟨count, rfl⟩ := Nat.exists_eq_succ_of_ne_zero (Nat.ne_of_gt (Nat.zero_lt_of_lt hcount))
    rw [afterSteps_succ] at hfault ⊢
    obtain ⟨word, diagnostic, hword⟩ := step_of_afterSteps_faulted hfault
    obtain ⟨outcomes, hexecuted, hlength, hrun⟩ := ih (Nat.lt_of_succ_lt_succ hcount) hfault
    refine ⟨.executed word diagnostic :: outcomes, ?_, ?_, ?_⟩
    · intro outcome hmem
      rcases List.mem_cons.mp hmem with hfirst | hlater
      · rw [hfirst]
        rfl
      · exact hexecuted outcome hlater
    · rw [List.length_cons, hlength]
    · have hstep : m.step = (.executed word diagnostic, m.step.2) := Prod.ext hword rfl
      rw [run, hstep]
      simp only [hrun, List.cons_append]

/-! ### Halted machines -/

/-- An operation on a key changes nothing but the keypad. -/
theorem onKey_eq (m : Machine) (operate : Keypad → Key → Keypad) (number : Int) :
    m.onKey operate number = { m with keypad := (m.onKey operate number).keypad } := by
  unfold onKey
  split <;> rfl

/-- Of a halted machine, a passive action changes at most the timers and the keypad. -/
theorem perform_of_halted (hhalted : m.fault = some fault) {action : HostAction}
    (hpassive : action.isPassive = true) :
    (m.perform action).2 = { m with
      timers := (m.perform action).2.timers
      keypad := (m.perform action).2.keypad } := by
  cases action with
  | step =>
    rw [perform, step_of_halted hhalted]
  | run count =>
    rw [perform]
    cases count.toNat with
    | zero => rfl
    | succ count => rw [run_of_halted hhalted]
  | tick | releaseAll => rfl
  | press number | release number =>
    simp only [perform]
    rw [onKey_eq]
  | reset | load | write | setRegister => cases hpassive

theorem HaltedBy.perform (hhalted : m.HaltedBy fault) {action : HostAction}
    (hpassive : action.isPassive = true) : (m.perform action).2.HaltedBy fault := by
  rw [perform_of_halted hhalted.stored hpassive]
  exact ⟨hhalted.stored, hhalted.pc, hhalted.word⟩

/-- A machine stays halted by its fault through any passive actions. -/
theorem HaltedBy.after (actions : List HostAction) :
    ∀ m : Machine, m.HaltedBy fault → (∀ action ∈ actions, action.isPassive = true) →
      (m.after actions).HaltedBy fault := by
  induction actions with
  | nil => intro m hhalted _; exact hhalted
  | cons action rest ih =>
    intro m hhalted hpassive
    apply ih _ (hhalted.perform (hpassive action List.mem_cons_self))
    intro other hother
    exact hpassive other (List.mem_cons_of_mem action hother)

/-! ### Starting a program -/

/-- A program that is loaded clears the fault. -/
theorem fault_of_load {after : Machine} {bytes : Array UInt8} (hload : m.load bytes = .ok after) :
    after.fault = none := by
  unfold load at hload
  split at hload
  · rw [Except.ok.injEq] at hload
    rw [← hload]
    rfl
  · cases hload

end Machine

/-- A step that faults, after any number of steps, stores a fault that names its word and changes
nothing else, and a run that meets it ends there. Whatever steps, runs, ticks and keys follow, every
step is refused and changes nothing and the fault names the word at the program counter, until a
program is started. -/
theorem fault_atomic_and_final {m : Machine} {fault : Fault} {taken : Nat}
    (hfault : (m.afterSteps taken).step.1 = .faulted fault) (heard : List Diagnostic) :
    let before := m.afterSteps taken
    let halted : Machine := { before with fault := some fault }
    (before.step = (.faulted fault, halted) ∧
      Microcode.exec Microcode.step (before.cells heard) =
        (.error (.fault fault), { before.cells heard with fault := some fault })) ∧
    (∀ count, taken < count → ∃ outcomes : List Outcome,
      (∀ outcome ∈ outcomes, outcome.isExecuted = true) ∧ outcomes.length = taken ∧
        m.run count = (outcomes ++ [.faulted fault], halted)) ∧
    ∀ actions : List HostAction, (∀ action ∈ actions, action.isPassive = true) →
      let later := halted.after actions
      (later.fault = some fault ∧ fault.pc = later.pc ∧ fault.word = later.fetch) ∧
      (later.step = (.refused fault, later) ∧
        Microcode.exec Microcode.step (later.cells heard) =
          (.error (.halted fault), later.cells heard) ∧
        ∀ count, later.run (count + 1) = ([.refused fault], later)) ∧
      later.reset.fault = none ∧
      ∀ bytes, match later.load bytes with
        | .ok after => after.fault = none
        | .error _ => (later.perform (.load bytes)).2 = later := by
  intro before halted
  obtain ⟨hstep, hpc, hword⟩ := Machine.step_of_faulted hfault
  refine ⟨⟨hstep, ?_⟩, ?_, ?_⟩
  · rw [Microcode.exec_step, hstep]
    simp only [Outcome.result, Outcome.diagnostics, List.append_nil]
    rfl
  · intro count hcount
    exact Machine.run_of_faulted hcount hfault
  · intro actions hpassive later
    have hhalted : halted.HaltedBy fault := ⟨rfl, hpc, hword⟩
    have hlater : later.HaltedBy fault := hhalted.after actions _ hpassive
    have hrefused := Machine.step_of_halted hlater.stored
    refine ⟨⟨hlater.stored, hlater.pc, hlater.word⟩, ⟨hrefused, ?_, ?_⟩, rfl, ?_⟩
    · rw [Microcode.exec_step, hrefused]
      simp only [Outcome.result, Outcome.diagnostics, List.append_nil]
    · exact Machine.run_of_halted hlater.stored
    · intro bytes
      cases hload : later.load bytes with
      | ok after => exact Machine.fault_of_load hload
      | error => simp only [Machine.perform, hload]

/-- A program that begins with a return faults at once, and the fault outlives a tick, a key and a
run. -/
theorem fault_atomic_and_final_of_return :
    let m := (Machine.powerOn ⟨#[0x00, 0xEE], by decide⟩ .screen .idle .silent).afterSteps 0
    let fault : Fault := ⟨.empty, 0x200, 0x00EE⟩
    let halted : Machine := { m with fault := some fault }
    m.step.1 = .faulted fault ∧ (halted.after [.tick, .press 5, .run 3]).fault = some fault := by
  intro m fault halted
  have hstart : m = .powerOn ⟨#[0x00, 0xEE], by decide⟩ .screen .idle .silent :=
    Machine.afterSteps_zero _
  have hfetch : m.fetch = 0x00EE := by
    rw [hstart, Machine.fetch, Machine.read_powerOn, Machine.read_powerOn]
    decide
  have hrunning : m.fault = none := by rw [hstart]; rfl
  have hpc : m.pc = 0x200 := by rw [hstart]; rfl
  have hdecode : Instruction.decode? m.fetch = some .ret := by rw [hfetch]; rfl
  have hexecute : m.execute .ret = .error .empty := by
    rw [Machine.execute_error_iff, hstart]
    exact .inl ⟨rfl, rfl, rfl⟩
  have hfault : m.step.1 = .faulted fault := by
    rw [Machine.step_of_execute_error hrunning hdecode hexecute, hfetch, hpc]
  exact ⟨hfault, ((fault_atomic_and_final hfault []).2.2 [.tick, .press 5, .run 3] (by decide)).1.1⟩

end Cosmac
