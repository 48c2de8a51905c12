import Cosmac.Proofs.Instruction.Pattern
import Cosmac.Proofs.Machine.Devices
import Cosmac.Proofs.Machine.Monitoring
import Cosmac.Proofs.Machine.Trail

/-!
# Events between steps

Between the steps of a machine its host counts the timers down and works with the keypad. Such an
event commutes with a step whose word has nothing to do with what the event changes
(`Machine.operate_step`), and so with a run of such steps (`Machine.operate_run`), whatever comes of
them; ticks and keys commute with one another in any case. So it does not matter when exactly an
event arrives (`unrelated_events_commute`).
-/

set_option autoImplicit false

namespace Cosmac

/-! ### Words -/

namespace Word

/-- Whether a word reads or sets a timer. -/
def usesTimers (w : Word) : Bool :=
  w.isPeripheral 0x07 || w.isPeripheral 0x15 || w.isPeripheral 0x18

/-- Whether a word looks at the keys. -/
def usesKeypad (w : Word) : Bool :=
  (w.family.val = 0xE && (w.byte.toNat = 0x9E || w.byte.toNat = 0xA1)) || w.isPeripheral 0x0A

end Word

namespace Instruction

variable {w : Word} {instruction : Instruction}

theorem timers_of_fits (hfits : instruction.Fits w) (hword : w.usesTimers = false) :
    instruction.readsTimers = false ∧ instruction.setsTimers = false := by
  cases instruction
  case readDelay | setDelay | setSound =>
    simp only [Word.usesTimers, hfits.1, Bool.true_or, Bool.or_true, Bool.true_eq_false] at hword
  all_goals exact ⟨rfl, rfl⟩

theorem readsKeypad_of_fits (hfits : instruction.Fits w) (hword : w.usesKeypad = false) :
    instruction.readsKeypad = false := by
  cases instruction
  case skipIfPressed | skipUnlessPressed =>
    obtain ⟨hfamily, hbyte, -⟩ := hfits
    simp only [Word.usesKeypad, hfamily, hbyte] at hword
    cases hword
  case waitForKey =>
    rw [Word.usesKeypad, hfits.1, Bool.or_true] at hword
    cases hword
  all_goals rfl

end Instruction

/-! ### Events -/

namespace Operation

/-- Whether an operation works with the keypad. -/
def worksKeypad : Operation → Bool
  | ask (.press _) | ask (.release _) | ask .releaseAll | resetKeypad => true
  | ask _ | moveTo _ => false

/-- Whether a word has to do with what an operation changes. Of an operation that is no event, every
word has. -/
def concerns (operation : Operation) (w : Word) : Bool :=
  match operation with
  | ask .tick => w.usesTimers
  | _ => if operation.worksKeypad then w.usesKeypad else true

/-- What a word has nothing to do with is a tick or an operation on the keypad. -/
theorem cases_of_concerns {operation : Operation} {w : Word}
    (hunrelated : operation.concerns w = false) :
    (operation = .ask .tick ∧ w.usesTimers = false) ∨
      (operation.worksKeypad = true ∧ w.usesKeypad = false) := by
  unfold concerns at hunrelated
  split at hunrelated
  · exact .inl ⟨rfl, hunrelated⟩
  · split_ifs at hunrelated with hkeys
    exact .inr ⟨hkeys, hunrelated⟩

end Operation

/-! ### Devices -/

namespace Devices

variable {d : Devices} {m : Machine}

/-- A step leaves the keypad alone, whichever it is. -/
theorem stepped_withKeypad (d : Devices) (m : Machine) (keypad : Keypad) :
    { d with keypad := keypad }.stepped m = { d.stepped m with keypad := keypad } := by
  unfold stepped
  split
  · rfl
  · cases Instruction.decode? m.fetch with
    | none => rfl
    | some instruction => cases instruction <;> rfl

/-- Most steps leave the timers alone, too. -/
theorem stepped_withTimers (d : Devices) (hword : m.fetch.usesTimers = false) (timers : Timers) :
    { d with timers := timers }.stepped m = { d.stepped m with timers := timers } := by
  unfold stepped
  split
  · rfl
  · cases hdecode : Instruction.decode? m.fetch with
    | none => rfl
    | some instruction =>
      have hsets := (Instruction.timers_of_fits (Instruction.fits_of_decode? hdecode) hword).2
      cases instruction
      case setDelay | setSound => cases hsets
      all_goals rfl

end Devices

namespace Machine

variable {m : Machine}

/-! ### Steps -/

theorem keypad_step (m : Machine) : m.step.2.keypad = m.keypad := by
  have hkeypad := Devices.stepped_withKeypad m.devices m m.keypad
  have hdevices : m.step.2.devices = m.devices.stepped m := devices_step m
  exact (congrArg Devices.keypad hdevices).trans (congrArg Devices.keypad hkeypad)

theorem timers_step (hword : m.fetch.usesTimers = false) : m.step.2.timers = m.timers := by
  have htimers := Devices.stepped_withTimers m.devices hword m.timers
  have hdevices : m.step.2.devices = m.devices.stepped m := devices_step m
  exact (congrArg Devices.timers hdevices).trans (congrArg Devices.timers htimers)

/-- A step with other keys is the same, unless its word looks at them. -/
theorem step_withKeypad (hword : m.fetch.usesKeypad = false) (keypad : Keypad) :
    { m with keypad := keypad }.step = (m.step.1, { m.step.2 with keypad := keypad }) := by
  have hsuit (instruction : Instruction)
      (hdecode : Instruction.decode? m.fetch = some instruction) :
      { m.devices with keypad := keypad }.SuitFor m instruction := by
    have hreads :=
      Instruction.readsKeypad_of_fits (Instruction.fits_of_decode? hdecode) hword
    exact ⟨fun _ ↦ rfl, fun hkeys ↦ absurd (hreads.symm.trans hkeys) Bool.false_ne_true,
      fun _ ↦ rfl⟩
  refine (step_withDevices hsuit).trans ?_
  rw [Devices.stepped_withKeypad, ← devices_step]
  rfl

/-- A step with other timers is the same, unless its word reads or sets one. -/
theorem step_withTimers (hword : m.fetch.usesTimers = false) (timers : Timers) :
    { m with timers := timers }.step = (m.step.1, { m.step.2 with timers := timers }) := by
  have hsuit (instruction : Instruction)
      (hdecode : Instruction.decode? m.fetch = some instruction) :
      { m.devices with timers := timers }.SuitFor m instruction := by
    have hreads := (Instruction.timers_of_fits (Instruction.fits_of_decode? hdecode) hword).1
    exact ⟨fun htimers ↦ absurd (hreads.symm.trans htimers) Bool.false_ne_true, fun _ ↦ rfl,
      fun _ ↦ rfl⟩
  refine (step_withDevices hsuit).trans ?_
  rw [Devices.stepped_withTimers _ hword, ← devices_step]
  rfl

/-! ### Events -/

theorem exists_change_onKey (operate : Keypad → Key → Keypad) (number : Int) :
    ∃ change : Keypad → Keypad,
      ∀ m : Machine, m.onKey operate number = { m with keypad := change m.keypad } := by
  cases hkey : Key.ofInt number with
  | ok key => exact ⟨(operate · key), fun m ↦ by rw [onKey, hkey]⟩
  | error cause => exact ⟨id, fun m ↦ by rw [onKey, hkey]; rfl⟩

/-- What an operation on the keypad does depends on the keypad alone, and it shows nothing. -/
theorem operate_of_worksKeypad {event : Operation} (hkeys : event.worksKeypad = true) :
    ∃ change : Keypad → Keypad, ∀ m : Machine,
      m.operate event = { m with keypad := change m.keypad } ∧ m.reaction event = ⟨[], none⟩ := by
  cases event with
  | moveTo => cases hkeys
  | resetKeypad => exact ⟨fun _ ↦ .idle, fun _ ↦ ⟨rfl, rfl⟩⟩
  | ask action =>
    cases action with
    | press number =>
      obtain ⟨change, hchange⟩ := exists_change_onKey .press number
      exact ⟨change, fun m ↦ ⟨hchange m, rfl⟩⟩
    | release number =>
      obtain ⟨change, hchange⟩ := exists_change_onKey .release number
      exact ⟨change, fun m ↦ ⟨hchange m, rfl⟩⟩
    | releaseAll => exact ⟨Keypad.releaseAll, fun _ ↦ ⟨rfl, rfl⟩⟩
    | step | run | tick | reset | load | write | setRegister => cases hkeys

/-- An event commutes with a step that has nothing to do with it, and it shows the same before and
after. -/
theorem operate_step {event : Operation} (hunrelated : event.concerns m.fetch = false) :
    (m.operate event).step = (m.step.1, m.step.2.operate event) ∧
      m.step.2.reaction event = m.reaction event := by
  obtain ⟨rfl, hword⟩ | ⟨hkeys, hword⟩ := Operation.cases_of_concerns hunrelated
  · have htimers : m.step.2.timers = m.timers := timers_step hword
    have htick : m.step.2.operate (.ask .tick) = { m.step.2 with timers := m.timers.tick.1 } := by
      rw [← htimers]
      rfl
    rw [htick]
    refine ⟨step_withTimers hword m.timers.tick.1, ?_⟩
    simp only [reaction, tick, htimers]
  · obtain ⟨change, hchange⟩ := operate_of_worksKeypad hkeys
    rw [(hchange m).1, (hchange m).2, (hchange m.step.2).1, (hchange m.step.2).2, keypad_step]
    exact ⟨step_withKeypad hword (change m.keypad), rfl⟩

/-- Ticks and operations on the keypad commute. -/
theorem tick_operate {event : Operation} (hkeys : event.worksKeypad = true) (m : Machine) :
    (m.operate event).tick = (m.tick.1, m.tick.2.operate event) := by
  obtain ⟨change, hchange⟩ := operate_of_worksKeypad hkeys
  rw [(hchange m).1, (hchange m.tick.2).1]
  rfl

/-! ### Runs -/

/-- A run of some steps stops before its first one. -/
theorem mem_stops_self (m : Machine) (count : Nat) : m ∈ m.stops (count + 1) := by
  rw [stops]
  split
  · exact List.mem_cons_self
  · exact List.mem_singleton_self m

/-- An event commutes with a run of steps that have nothing to do with it. -/
theorem operate_run {event : Operation} (count : Nat) (m : Machine)
    (hunrelated : ∀ stop ∈ m.stops count, event.concerns stop.fetch = false) :
    (m.operate event).run count = ((m.run count).1, (m.run count).2.operate event) ∧
      (m.run count).2.reaction event = m.reaction event := by
  induction count generalizing m with
  | zero => exact ⟨rfl, rfl⟩
  | succ count ih =>
    obtain ⟨hfirst, hshown⟩ := operate_step (hunrelated m (mem_stops_self m count))
    rw [run, run, hfirst]
    rw [stops] at hunrelated
    generalize m.step = result at hunrelated hfirst hshown
    obtain ⟨outcome, after⟩ := result
    cases outcome with
    | executed word diagnostic =>
      obtain ⟨hlater, hshownLater⟩ :=
        ih after fun stop hstop ↦ hunrelated stop (List.mem_cons_of_mem m hstop)
      simp only [hlater, true_and]
      exact hshownLater.trans hshown
    | faulted | refused => exact ⟨rfl, hshown⟩

end Machine

/-! ### Listeners -/

namespace Monitored

variable {m : Monitored}

/-- Observers are told the same by a step before and after an event that has nothing to do with
it. -/
theorem step_operate {event : Operation}
    (hobserve : ∀ listener ∈ m.forDiagnostics, listener.observes = true)
    (hunrelated : event.concerns m.machine.fetch = false) :
    (m.withMachine (m.machine.operate event)).step =
      (m.step.1, m.step.2.1, m.step.2.2.withMachine (m.step.2.2.machine.operate event)) := by
  have hcommute := (Machine.operate_step hunrelated).1
  have hlater := step_of_observes (m := m.withMachine (m.machine.operate event)) hobserve
  have hmachine : (m.withMachine (m.machine.operate event)).machine = m.machine.operate event := rfl
  rw [hlater, step_of_observes hobserve, hmachine, hcommute]
  rfl

/-- Observers are told the same by a tick before and after a step that has nothing to do with it. -/
theorem tick_step (hobserve : ∀ listener ∈ m.forTones, listener.observes = true)
    (hword : m.machine.fetch.usesTimers = false) :
    (m.withMachine m.machine.step.2).tick =
      (m.tick.1, m.tick.2.1, m.withMachine m.machine.step.2.tick.2) := by
  have htimers : m.machine.step.2.timers = m.machine.timers := Machine.timers_step hword
  have hlater := tick_of_observes (m := m.withMachine m.machine.step.2) hobserve
  have htone : (m.withMachine m.machine.step.2).machine.tick.1 = m.machine.tick.1 := by
    show m.machine.step.2.timers.tick.2 = m.machine.timers.tick.2
    rw [htimers]
  rw [hlater, tick_of_observes hobserve, htone]
  rfl

end Monitored

/-- Events and steps that have nothing to do with one another commute. A tick may come before or
after any step whose word neither reads nor sets a timer, and a key before or after any step whose
word does not look at the keys: the step has the same outcome, be it a fault, a refusal or a report,
the tone sounds or not as before, observers are told the same, and the machine is the same in the
end. So it is with a run of such steps. Ticks and keys commute in any case. -/
theorem unrelated_events_commute (m : Machine) (event : Operation) :
    (event.concerns m.fetch = false →
      (m.operate event).step = (m.step.1, m.step.2.operate event) ∧
      m.step.2.reaction event = m.reaction event) ∧
    (∀ count : Nat, (∀ stop ∈ m.stops count, event.concerns stop.fetch = false) →
      (m.operate event).run count = ((m.run count).1, (m.run count).2.operate event) ∧
      (m.run count).2.reaction event = m.reaction event) ∧
    (event.worksKeypad = true → (m.operate event).tick = (m.tick.1, m.tick.2.operate event)) ∧
    ∀ forDiagnostics forTones : List Listener,
      (∀ listener ∈ forDiagnostics ++ forTones, listener.observes = true) →
      let early := Monitored.mk (m.operate event) forDiagnostics forTones
      let late := Monitored.mk m forDiagnostics forTones
      (event.concerns m.fetch = false →
        early.step =
          (late.step.1, late.step.2.1, ⟨m.step.2.operate event, forDiagnostics, forTones⟩)) ∧
      (m.fetch.usesTimers = false →
        (late.withMachine m.step.2).tick =
          (late.tick.1, late.tick.2.1, ⟨m.step.2.tick.2, forDiagnostics, forTones⟩)) := by
  refine ⟨Machine.operate_step, fun count ↦ Machine.operate_run count m,
    fun hkeys ↦ Machine.tick_operate hkeys m, ?_⟩
  intro forDiagnostics forTones hobserve early late
  have hdiagnostics : ∀ listener ∈ late.forDiagnostics, listener.observes = true :=
    fun listener hlistener ↦ hobserve listener (List.mem_append_left _ hlistener)
  have htones : ∀ listener ∈ late.forTones, listener.observes = true :=
    fun listener hlistener ↦ hobserve listener (List.mem_append_right _ hlistener)
  constructor
  · intro hunrelated
    have hstep : early.step = _ := Monitored.step_operate hdiagnostics hunrelated
    rw [hstep, Monitored.step_of_observes hdiagnostics]
    rfl
  · intro hword
    exact Monitored.tick_step (m := late) htones hword

/-- A register is stored while both timers run. A tick and a key may come before or after. -/
theorem unrelated_events_commute_of_store :
    let m : Machine := { Machine.powerOn ⟨#[0xF0, 0x55], by decide⟩ .screen .idle .silent with
      timers := ⟨5, 1⟩ }
    let key : Operation := .ask (.press 5)
    (m.operate (.ask .tick)).step = (m.step.1, m.step.2.operate (.ask .tick)) ∧
      m.step.2.tick.1 = true ∧
      (m.operate key).step = (m.step.1, m.step.2.operate key) ∧
      (m.operate key).tick = (true, m.tick.2.operate key) := by
  intro m key
  have hfetch : m.fetch = 0xF055 :=
    (Machine.fetch_powerOn ⟨#[0xF0, 0x55], by decide⟩ .screen .idle .silent).trans (by decide)
  obtain ⟨htick, -, -, -⟩ := unrelated_events_commute m (.ask .tick)
  obtain ⟨hkey, -, hboth, -⟩ := unrelated_events_commute m key
  obtain ⟨hstep, htone⟩ := htick (by rw [hfetch]; decide)
  have hlater : some m.step.2.tick.1 = some m.tick.1 := congrArg Reaction.tone htone
  refine ⟨hstep, Option.some_inj.mp hlater, ?_, hboth rfl⟩
  exact (hkey (by rw [hfetch]; decide)).1

end Cosmac
