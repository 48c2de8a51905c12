import Cosmac.Proofs.Machine.Execution

/-!
# Exchanging the devices of a machine

The devices of a machine are its timers, its keypad and its source of random bytes. A host may put
others in their place (`Machine.withDevices`). An instruction does the same with the new devices if
they show it what it looks at (`Devices.SuitFor`): its outcome is the same, and the machine
afterwards differs in the devices alone (`execute_withDevices`, `step_withDevices`).
-/

set_option autoImplicit false

namespace Cosmac

/-! ### Instructions -/

namespace Instruction

/-- Whether an instruction reads the timers. -/
def readsTimers : Instruction → Bool
  | readDelay _ => true
  | _ => false

/-- Whether an instruction sets one of the timers. -/
def setsTimers : Instruction → Bool
  | setDelay _ | setSound _ => true
  | _ => false

/-- Whether an instruction looks at the keys. -/
def readsKeypad : Instruction → Bool
  | skipIfPressed _ | skipUnlessPressed _ | waitForKey _ => true
  | _ => false

/-- Whether an instruction draws a random byte. -/
def drawsByte : Instruction → Bool
  | random _ _ => true
  | _ => false

end Instruction

/-! ### Devices -/

/-- The devices of a machine. -/
structure Devices where
  /-- The countdown timers. -/
  timers : Timers
  /-- The keys. -/
  keypad : Keypad
  /-- Where random bytes come from. -/
  source : ByteSource

namespace Machine

/-- The devices of a machine. -/
def devices (m : Machine) : Devices :=
  ⟨m.timers, m.keypad, m.source⟩

/-- The machine with other devices. -/
def withDevices (m : Machine) (d : Devices) : Machine :=
  { m with timers := d.timers, keypad := d.keypad, source := d.source }

@[simp]
theorem withDevices_devices (m : Machine) : m.withDevices m.devices = m :=
  rfl

@[simp]
theorem devices_withDevices (m : Machine) (d : Devices) : (m.withDevices d).devices = d :=
  rfl

end Machine

namespace Devices

/-- The devices show an instruction what it would see on a machine. -/
structure SuitFor (d : Devices) (m : Machine) (instruction : Instruction) : Prop where
  /-- The timers are the same if it reads them. -/
  timers : instruction.readsTimers = true → d.timers = m.timers
  /-- The keys are the same if it looks at them. -/
  keypad : instruction.readsKeypad = true → d.keypad = m.keypad
  /-- The next byte is the same if it draws one. -/
  source : instruction.drawsByte = true → d.source.draw.1 = m.source.draw.1

/-- The devices after an instruction that a machine executes. -/
def executed (d : Devices) (m : Machine) : Instruction → Devices
  | .setDelay x => { d with timers := { d.timers with delay := m.register x } }
  | .setSound x => { d with timers := { d.timers with sound := m.register x } }
  | .random _ _ => { d with source := d.source.draw.2 }
  | _ => d

/-- The devices after the next step of a machine. -/
def stepped (d : Devices) (m : Machine) : Devices :=
  if m.halted then d
  else
    match Instruction.decode? m.fetch with
    | some instruction => d.executed m instruction
    | none => d

variable {d : Devices} {m : Machine}

theorem stepped_of_halted {fault : Fault} (hhalted : m.fault = some fault) : d.stepped m = d := by
  rw [stepped, Machine.halted, hhalted, Option.isSome_some, if_pos rfl]

theorem stepped_of_unknown (hdecode : Instruction.decode? m.fetch = none) : d.stepped m = d := by
  simp only [stepped, hdecode, ite_self]

theorem stepped_of_decode {instruction : Instruction} (hrunning : m.fault = none)
    (hdecode : Instruction.decode? m.fetch = some instruction) :
    d.stepped m = d.executed m instruction := by
  simp only [stepped, Machine.halted, hrunning, hdecode, Option.isSome_none, Bool.false_eq_true,
    if_false]

end Devices

namespace Machine

variable {m : Machine} {d : Devices} {instruction : Instruction}

/-! ### Accesses -/

theorem readBlock_withDevices (m : Machine) (d : Devices) (address : Int) (count : Nat) :
    (m.withDevices d).readBlock address count = m.readBlock address count := by
  induction count generalizing address with
  | zero => rfl
  | succ count ih => exact congrArg (m.read address :: ·) (ih (address + 1))

theorem writeBlock_withDevices (m : Machine) (d : Devices) (address : Int) (bytes : List UInt8) :
    (m.withDevices d).writeBlock address bytes = (m.writeBlock address bytes).withDevices d := by
  induction bytes generalizing m address with
  | nil => rfl
  | cons byte rest ih => exact ih (m.write address byte) (address + 1)

theorem combine_withDevices (m : Machine) (d : Devices) (operation : Combination) (x y : Register) :
    (m.withDevices d).combine operation x y = (m.combine operation x y).withDevices d := by
  simp only [combine, show (m.withDevices d).register = m.register from rfl]
  split <;> rfl

theorem drawSprite_withDevices (m : Machine) (d : Devices) (x y : Register) (rows : Nibble) :
    (m.withDevices d).drawSprite x y rows = (m.drawSprite x y rows).withDevices d := by
  simp only [drawSprite, readBlock_withDevices]
  rfl

/-! ### Instructions -/

/-- An instruction does the same with other devices that suit it. -/
theorem execute_withDevices (hsuit : d.SuitFor m instruction) :
    (m.withDevices d).execute instruction =
      (m.execute instruction).map fun result ↦
        (result.1.withDevices (d.executed m instruction), result.2) := by
  cases instruction
  case ret =>
    simp only [execute, show (m.withDevices d).stack = m.stack from rfl]
    cases m.stack.pop? <;> rfl
  case call =>
    simp only [execute, show (m.withDevices d).stack = m.stack from rfl,
      show (m.withDevices d).pc = m.pc from rfl]
    cases m.stack.push? (Word.ofInt (m.pc + 2)) <;> rfl
  case combine operation x y =>
    simp only [execute, combine_withDevices]
    rfl
  case draw x y rows =>
    simp only [execute, drawSprite_withDevices]
    rfl
  case storeDecimal x =>
    simp only [execute, writeBlock_withDevices]
    rfl
  case storeRegisters x =>
    simp only [execute, writeBlock_withDevices]
    rfl
  case readDelay x =>
    have htimers : (m.withDevices d).timers = m.timers := hsuit.timers rfl
    simp only [execute, htimers]
    rfl
  case skipIfPressed | skipUnlessPressed =>
    have hkeypad : (m.withDevices d).keypad = m.keypad := hsuit.keypad rfl
    simp only [execute, hkeypad]
    rfl
  case waitForKey x =>
    have hdelivered : (m.withDevices d).keypad.delivered? = m.keypad.delivered? :=
      congrArg Keypad.delivered? (hsuit.keypad rfl)
    simp only [execute, hdelivered]
    cases m.keypad.delivered? <;> rfl
  case random x mask =>
    have hbyte : (m.withDevices d).source.draw.1 = m.source.draw.1 := hsuit.source rfl
    simp only [execute, hbyte]
    rfl
  all_goals rfl

/-- An instruction that faults leaves the devices alone. -/
theorem executed_of_error {error : StackError} (hexecute : m.execute instruction = .error error) :
    d.executed m instruction = d := by
  rcases execute_error_iff.mp hexecute with ⟨rfl, -⟩ | ⟨⟨target, rfl⟩, -⟩ <;> rfl

/-! ### Steps -/

/-- A step does the same with other devices that suit the next instruction. -/
theorem step_withDevices
    (hsuit : ∀ instruction, Instruction.decode? m.fetch = some instruction →
      d.SuitFor m instruction) :
    (m.withDevices d).step = (m.step.1, m.step.2.withDevices (d.stepped m)) := by
  have hfetch : (m.withDevices d).fetch = m.fetch := rfl
  generalize hresult : m.step = result
  cases step_cases hresult with
  | @refused fault hhalted =>
    have hhalted' : (m.withDevices d).fault = some fault := hhalted
    rw [step_of_halted hhalted', Devices.stepped_of_halted hhalted]
  | reported hrunning hdecode =>
    have hrunning' : (m.withDevices d).fault = none := hrunning
    rw [step_of_unknown hrunning' (hfetch ▸ hdecode), Devices.stepped_of_unknown hdecode]
    rfl
  | @completed instruction after next hrunning hdecode hexecute =>
    have hrunning' : (m.withDevices d).fault = none := hrunning
    have hsame := execute_withDevices (hsuit instruction hdecode)
    rw [hexecute] at hsame
    rw [step_of_execute hrunning' (hfetch ▸ hdecode) hsame,
      Devices.stepped_of_decode hrunning hdecode]
    rfl
  | @faulted instruction error hrunning hdecode hexecute =>
    have hrunning' : (m.withDevices d).fault = none := hrunning
    have hsame := execute_withDevices (hsuit instruction hdecode)
    rw [hexecute] at hsame
    rw [step_of_execute_error hrunning' (hfetch ▸ hdecode) hsame,
      Devices.stepped_of_decode hrunning hdecode, executed_of_error hexecute]
    rfl

/-- The devices after a step. -/
theorem devices_step (m : Machine) : m.step.2.devices = m.devices.stepped m := by
  have hsame := step_withDevices (m := m) (d := m.devices)
    fun _ _ ↦ ⟨fun _ ↦ rfl, fun _ ↦ rfl, fun _ ↦ rfl⟩
  rw [withDevices_devices] at hsame
  have hafter : m.step.2 = m.step.2.withDevices (m.devices.stepped m) := congrArg Prod.snd hsame
  rw [hafter, devices_withDevices]

end Machine

end Cosmac
