import Cosmac.Machine.Step
import Cosmac.Proofs.Instruction.Decoding

/-!
# What instructions and steps change

`Machine.ExecuteCase` lists what an instruction can do to a machine and `Machine.StepCase` what a
step can do; `execute_cases` and `step_cases` say that these are all the cases there are, so that a
property of runs is proved case by case. `execute_error_iff` tells when an instruction faults.
-/

set_option autoImplicit false

namespace Cosmac

/-! ### The call stack -/

namespace CallStack

variable {s after : CallStack} {address : UInt16}

theorem push?_eq_none_iff : s.push? address = none ↔ s.depth.val = 16 := by
  have := s.depth.isLt
  unfold push?
  split_ifs with hroom
  · simp only [false_iff]
    omega
  · simp only [true_iff]
    omega

theorem pop?_eq_none_iff : s.pop? = none ↔ s.depth.val = 0 := by
  unfold pop?
  split_ifs with hused
  · simp only [false_iff]
    omega
  · simp only [true_iff]
    omega

theorem depth_of_push? (hpush : s.push? address = some after) :
    after.depth.val = s.depth.val + 1 := by
  unfold push? at hpush
  split_ifs at hpush with hroom
  cases hpush
  rfl

theorem depth_of_pop? (hpop : s.pop? = some (address, after)) :
    s.depth.val = after.depth.val + 1 := by
  unfold pop? at hpop
  split_ifs at hpop with hused
  cases hpop
  exact (Nat.sub_add_cancel hused).symm

/-- A push writes the first free slot and no other. -/
theorem slot_of_push? (hpush : s.push? address = some after) (place : Fin 16) :
    after.slots.get place = if place.val = s.depth.val then address else s.slots.get place := by
  unfold push? at hpush
  split_ifs at hpush with hroom
  cases hpush
  have hslot : (s.slots.set s.depth.val address hroom).get place =
      if s.depth.val = place.val then address else s.slots.get place :=
    Vector.getElem_set hroom place.isLt
  show (s.slots.set s.depth.val address hroom).get place = _
  rw [hslot]
  simp only [eq_comm]

theorem slots_of_pop? (hpop : s.pop? = some (address, after)) : after.slots = s.slots := by
  unfold pop? at hpop
  split_ifs at hpop with hused
  cases hpop
  rfl

/-- A pop gives the address in the slot that it frees. -/
theorem address_of_pop? (hpop : s.pop? = some (address, after)) {place : Fin 16}
    (hplace : place.val = after.depth.val) : address = s.slots.get place := by
  unfold pop? at hpop
  split_ifs at hpop with hused
  cases hpop
  apply congrArg s.slots.get
  ext
  exact hplace.symm

end CallStack

namespace Machine

variable {m after : Machine} {instruction : Instruction} {next : Int}

/-! ### Power on -/

/-- What a machine reads right after it is switched on. -/
theorem read_powerOn (program : Program) (screen : Framebuffer) (keypad : Keypad)
    (source : ByteSource) (address : Int) :
    (powerOn program screen keypad source).read address =
      if (cell address).val < programStart then Font.bytes.getD (cell address).val 0
      else program.bytes.getD ((cell address).val - programStart) 0 :=
  Vector.getElem_ofFn _

/-- A program is read from where programs start. -/
theorem read_powerOn_program (program : Program) (screen : Framebuffer) (keypad : Keypad)
    (source : ByteSource) (offset : Nat) (hoffset : offset < maxProgramSize) :
    (powerOn program screen keypad source).read (programStart + offset : Nat) =
      program.bytes.getD offset 0 := by
  have hcell : (cell (programStart + offset : Nat)).val = programStart + offset := by
    simp only [cell, programStart, maxProgramSize, memorySize] at hoffset ⊢
    omega
  rw [read_powerOn, hcell, if_neg (Nat.not_lt.mpr (Nat.le_add_right _ _)), Nat.add_sub_cancel_left]

/-- While nothing has been written, the program counter leads to a word of the program. -/
theorem fetch_initialMemory {program : Program} {offset : Nat}
    (hmemory : m.memory = initialMemory program) (hpc : m.pc = (programStart + offset : Nat))
    (hoffset : offset + 1 < maxProgramSize) :
    m.fetch = .ofBytes (program.bytes.getD offset 0) (program.bytes.getD (offset + 1) 0) := by
  have hread (place : Nat) (hplace : place < maxProgramSize) :
      m.read (programStart + place : Nat) = program.bytes.getD place 0 := by
    rw [← read_powerOn_program program .screen .idle .silent place hplace, read, hmemory]
    rfl
  have hnext : m.pc + 1 = (programStart + (offset + 1) : Nat) := by omega
  rw [fetch, hnext, hpc, hread offset (by omega), hread (offset + 1) hoffset]

/-- A machine that is switched on begins with the first word of its program. -/
theorem fetch_powerOn (program : Program) (screen : Framebuffer) (keypad : Keypad)
    (source : ByteSource) :
    (powerOn program screen keypad source).fetch =
      .ofBytes (program.bytes.getD 0 0) (program.bytes.getD 1 0) := by
  have hmemory : (powerOn program screen keypad source).memory = initialMemory program := rfl
  have hpc : (powerOn program screen keypad source).pc = (programStart + 0 : Nat) := rfl
  exact fetch_initialMemory hmemory hpc (by decide)

/-! ### Parts of instructions -/

/-- Combining two registers changes nothing but the registers. -/
theorem combine_eq (m : Machine) (operation : Combination) (x y : Register) :
    m.combine operation x y = { m with registers := (m.combine operation x y).registers } := by
  unfold combine
  split <;> rfl

theorem register_setRegister (m : Machine) (x r : Register) (value : UInt8) :
    (m.setRegister x value).register r = if r = x then value else m.register r := by
  have hset : (m.setRegister x value).register r =
      if x.val = r.val then value else m.register r :=
    Vector.getElem_set x.isLt r.isLt
  rw [hset]
  simp only [Fin.ext_iff, eq_comm]

theorem read_write (m : Machine) (address other : Int) (value : UInt8) :
    (m.write address value).read other =
      if cell other = cell address then value else m.read other := by
  have hset : (m.write address value).read other =
      if (cell address).val = (cell other).val then value else m.read other :=
    Vector.getElem_set (cell address).isLt (cell other).isLt
  rw [hset]
  simp only [Fin.ext_iff, eq_comm]

/-- Storing bytes changes nothing but the memory. -/
theorem writeBlock_eq (m : Machine) (address : Int) (bytes : List UInt8) :
    m.writeBlock address bytes = { m with memory := (m.writeBlock address bytes).memory } := by
  induction bytes generalizing m address with
  | nil => rfl
  | cons byte rest ih => exact ih (m.write address byte) (address + 1)

/-! ### Instructions -/

/-- What an instruction that does not fault can do to a machine. -/
inductive ExecuteCase (m : Machine) : Instruction → Machine × Int → Prop
  /-- It is a call and saves an address. -/
  | called {target : Address} {stack : CallStack}
      (hpush : m.stack.push? (Word.ofInt (m.pc + 2)) = some stack) :
      ExecuteCase m (.call target) ({ m with stack := stack }, target.val)
  /-- It is a return and takes an address back. -/
  | returned {address : UInt16} {stack : CallStack}
      (hpop : m.stack.pop? = some (address, stack)) :
      ExecuteCase m .ret ({ m with stack := stack }, address.toNat)
  /-- It sets the index. -/
  | pointed {instruction : Instruction} {index next : Int}
      (hcall : ∀ target, instruction ≠ .call target) (hret : instruction ≠ .ret)
      (hindex : 0 ≤ index ∧ index ≤ 0xFFFF) :
      ExecuteCase m instruction ({ m with index := index }, next)
  /-- It works with the memory, the registers and the devices. -/
  | worked {instruction : Instruction} {memory : Vector UInt8 4096}
      {registers : Vector UInt8 16} {timers : Timers} {screen : Framebuffer} {source : ByteSource}
      {waitingForKey : Bool} {next : Int}
      (hcall : ∀ target, instruction ≠ .call target) (hret : instruction ≠ .ret) :
      ExecuteCase m instruction
        ({ m with
          memory := memory
          registers := registers
          timers := timers
          screen := screen
          source := source
          waitingForKey := waitingForKey }, next)

theorem execute_cases {result : Machine × Int} (hexecute : m.execute instruction = .ok result) :
    ExecuteCase m instruction result := by
  cases instruction
  case call =>
    simp only [execute] at hexecute
    split at hexecute <;> cases hexecute
    rename_i hpush
    exact .called hpush
  case ret =>
    simp only [execute] at hexecute
    split at hexecute <;> cases hexecute
    rename_i hpop
    exact .returned hpop
  case setIndex target =>
    simp only [execute] at hexecute
    cases hexecute
    have := target.isLt
    exact .pointed nofun nofun (by omega)
  case addIndex =>
    simp only [execute] at hexecute
    cases hexecute
    exact .pointed nofun nofun (by omega)
  case pointToGlyph x =>
    simp only [execute] at hexecute
    cases hexecute
    have := (m.namedKey x).isLt
    exact .pointed nofun nofun (by simp only [Font.addressOf, Font.height]; omega)
  case waitForKey =>
    simp only [execute] at hexecute
    split at hexecute <;> cases hexecute <;> exact .worked nofun nofun
  case combine =>
    simp only [execute] at hexecute
    cases hexecute
    rw [combine_eq]
    exact .worked nofun nofun
  case storeDecimal | storeRegisters =>
    simp only [execute] at hexecute
    cases hexecute
    rw [writeBlock_eq]
    exact .worked nofun nofun
  all_goals
    simp only [execute] at hexecute
    cases hexecute
    exact .worked nofun nofun

/-- An instruction does not move the program counter by itself. -/
theorem execute_pc (hexecute : m.execute instruction = .ok (after, next)) : after.pc = m.pc := by
  cases execute_cases hexecute <;> rfl

/-- An instruction neither counts nor remembers anything, and it leaves the program alone. -/
theorem records_of_execute (hexecute : m.execute instruction = .ok (after, next)) :
    after.cycleCount = m.cycleCount ∧ after.instructionCount = m.instructionCount ∧
      after.program = m.program ∧ after.fault = m.fault ∧ after.diagnostics = m.diagnostics := by
  cases execute_cases hexecute <;> exact ⟨rfl, rfl, rfl, rfl, rfl⟩

theorem execute_ret {address : UInt16} {stack : CallStack}
    (hpop : m.stack.pop? = some (address, stack)) :
    m.execute .ret = .ok ({ m with stack := stack }, address.toNat) := by
  simp only [execute, hpop]

/-- An instruction faults where it returns with no slot in use or calls with every slot in use. -/
theorem execute_error_iff {error : StackError} :
    m.execute instruction = .error error ↔
      (instruction = .ret ∧ m.stack.depth.val = 0 ∧ error = .empty) ∨
      ((∃ target, instruction = .call target) ∧ m.stack.depth.val = 16 ∧ error = .full) := by
  cases instruction
  case ret =>
    rw [← CallStack.pop?_eq_none_iff]
    simp only [execute]
    cases m.stack.pop? <;> simp [eq_comm]
  case call target =>
    have hfull : m.stack.push? (Word.ofInt (m.pc + 2)) = none ↔ m.stack.depth.val = 16 :=
      CallStack.push?_eq_none_iff
    rw [← hfull]
    simp only [execute]
    cases m.stack.push? (Word.ofInt (m.pc + 2)) <;> simp [eq_comm]
  case waitForKey =>
    simp only [execute]
    split <;> simp
  all_goals simp [execute]

/-! ### Steps -/

section Steps

variable {error : StackError}

theorem step_of_halted {fault : Fault} (hhalted : m.fault = some fault) :
    m.step = (.refused fault, m) := by
  simp only [step, hhalted]

theorem step_of_unknown (hrunning : m.fault = none)
    (hdecode : Instruction.decode? m.fetch = none) :
    m.step = (.executed m.fetch (some ⟨m.pc, m.fetch⟩),
      (m.report ⟨m.pc, m.fetch⟩).complete (m.pc + 2)) := by
  simp only [step, hrunning, hdecode]

theorem step_of_execute (hrunning : m.fault = none)
    (hdecode : Instruction.decode? m.fetch = some instruction)
    (hexecute : m.execute instruction = .ok (after, next)) :
    m.step = (.executed m.fetch none, after.complete next) := by
  simp only [step, hrunning, hdecode, hexecute]

theorem step_of_execute_error (hrunning : m.fault = none)
    (hdecode : Instruction.decode? m.fetch = some instruction)
    (hexecute : m.execute instruction = .error error) :
    m.step = (.faulted ⟨error, m.pc, m.fetch⟩,
      { m with fault := some ⟨error, m.pc, m.fetch⟩ }) := by
  simp only [step, hrunning, hdecode, hexecute]

end Steps

/-- What a step of a machine can do. -/
inductive StepCase (m : Machine) : Outcome × Machine → Prop
  /-- The machine was halted. -/
  | refused {fault : Fault} (hhalted : m.fault = some fault) : StepCase m (.refused fault, m)
  /-- The word is no instruction. -/
  | reported (hrunning : m.fault = none) (hdecode : Instruction.decode? m.fetch = none) :
      StepCase m (.executed m.fetch (some ⟨m.pc, m.fetch⟩),
        (m.report ⟨m.pc, m.fetch⟩).complete (m.pc + 2))
  /-- The instruction was executed. -/
  | completed {instruction : Instruction} {after : Machine} {next : Int}
      (hrunning : m.fault = none) (hdecode : Instruction.decode? m.fetch = some instruction)
      (hexecute : m.execute instruction = .ok (after, next)) :
      StepCase m (.executed m.fetch none, after.complete next)
  /-- The instruction faulted. -/
  | faulted {instruction : Instruction} {error : StackError}
      (hrunning : m.fault = none) (hdecode : Instruction.decode? m.fetch = some instruction)
      (hexecute : m.execute instruction = .error error) :
      StepCase m (.faulted ⟨error, m.pc, m.fetch⟩,
        { m with fault := some ⟨error, m.pc, m.fetch⟩ })

theorem step_cases {result : Outcome × Machine} (hstep : m.step = result) : StepCase m result := by
  subst hstep
  cases hfault : m.fault with
  | some fault =>
    rw [step_of_halted hfault]
    exact .refused hfault
  | none =>
    cases hdecode : Instruction.decode? m.fetch with
    | none =>
      rw [step_of_unknown hfault hdecode]
      exact .reported hfault hdecode
    | some instruction =>
      cases hexecute : m.execute instruction with
      | ok result =>
        rw [step_of_execute hfault hdecode hexecute]
        exact .completed hfault hdecode hexecute
      | error error =>
        rw [step_of_execute_error hfault hdecode hexecute]
        exact .faulted hfault hdecode hexecute

end Machine

end Cosmac
