import Cosmac.Proofs.Frame

/-!
# Transfers between registers and memory

Three words move registers to the memory, or from there, at the index: one stores the registers up
to one of them, one loads them, and one stores the decimal digits of a register. The window that
they use may lie anywhere; it wraps around the end of the memory, and it may lie over the font and
over the word itself.

A block that was stored is read as it was given (`Machine.read_writeBlock`), and storing what is
there already changes nothing (`Machine.writeBlock_of_read`). So loading the registers that have
been stored changes nothing, and neither does storing those that have been loaded
(`transfers_give_back`).
-/

set_option autoImplicit false

namespace Cosmac

/-! ### Words -/

namespace Word

/-- Whether a word transfers registers to the memory or from there: the digits of a register, or the
registers up to one of them. -/
def isTransfer (w : Word) : Bool :=
  w.isPeripheral 0x33 || w.isPeripheral 0x55 || w.isPeripheral 0x65

variable {w : Word}

theorem decode?_of_storeDecimal (hword : w.isPeripheral 0x33 = true) :
    Instruction.decode? w = some (.storeDecimal w.x) :=
  Instruction.decode?_of_fits ⟨hword, rfl⟩

theorem decode?_of_storeRegisters (hword : w.isPeripheral 0x55 = true) :
    Instruction.decode? w = some (.storeRegisters w.x) :=
  Instruction.decode?_of_fits ⟨hword, rfl⟩

theorem decode?_of_loadRegisters (hword : w.isPeripheral 0x65 = true) :
    Instruction.decode? w = some (.loadRegisters w.x) :=
  Instruction.decode?_of_fits ⟨hword, rfl⟩

theorem decode?_of_isTransfer (hword : w.isTransfer = true) :
    Instruction.decode? w = some (.storeDecimal w.x) ∨
      Instruction.decode? w = some (.storeRegisters w.x) ∨
      Instruction.decode? w = some (.loadRegisters w.x) := by
  rw [isTransfer, Bool.or_eq_true, Bool.or_eq_true] at hword
  obtain (hdecimal | hstore) | hload := hword
  · exact .inl (decode?_of_storeDecimal hdecimal)
  · exact .inr (.inl (decode?_of_storeRegisters hstore))
  · exact .inr (.inr (decode?_of_loadRegisters hload))

end Word

namespace Machine

variable {m : Machine} {address : Int} {bytes : List UInt8}

/-! ### Blocks -/

/-- Less than a turn around the memory leads to another cell. -/
theorem cell_add_ne {offset : Nat} (hpositive : 0 < offset) (hturn : offset < 4096) :
    cell (address + offset) ≠ cell address := by
  intro hsame
  have hcell := congrArg Fin.val hsame
  simp only [cell] at hcell
  omega

/-- Storing bytes leaves the other cells alone. -/
theorem read_writeBlock_of_other {place : Int}
    (hother : ∀ offset < bytes.length, cell place ≠ cell (address + offset)) :
    (m.writeBlock address bytes).read place = m.read place := by
  by_contra hchanged
  obtain ⟨offset, hoffset, hplace⟩ := cell_of_writeBlock_ne bytes hchanged
  exact hother offset hoffset hplace

/-- A block that is not larger than the memory is read as it was stored. -/
theorem read_writeBlock (hsize : bytes.length ≤ 4096) {offset : Nat}
    (hoffset : offset < bytes.length) :
    (m.writeBlock address bytes).read (address + offset) = bytes[offset] := by
  induction bytes generalizing m address offset with
  | nil => exact absurd hoffset (Nat.not_lt_zero offset)
  | cons byte rest ih =>
    have hnext (place : Nat) : address + 1 + (place : Int) = address + (place + 1 : Nat) := by
      omega
    rw [List.length_cons] at hsize hoffset
    cases offset with
    | zero =>
      -- The bytes after the first do not come back to its cell.
      have hother : ∀ later < rest.length, cell address ≠ cell (address + 1 + later) := by
        intro later hlater
        rw [hnext]
        exact (cell_add_ne (Nat.succ_pos later) (by omega)).symm
      rw [writeBlock, Nat.cast_zero, add_zero, read_writeBlock_of_other hother, read_write]
      simp
    | succ offset =>
      rw [writeBlock, ← hnext, ih (by omega) (by omega), List.getElem_cons_succ]

/-- Storing the byte that is there changes nothing. -/
theorem write_read (m : Machine) (address : Int) : m.write address (m.read address) = m := by
  have hmemory : m.memory.set (cell address) (m.read address) (cell address).isLt = m.memory :=
    Vector.set_getElem_self (cell address).isLt
  rw [write, hmemory]

/-- Storing the bytes that are there changes nothing. -/
theorem writeBlock_of_read
    (hread : ∀ (offset : Nat) (hoffset : offset < bytes.length),
      m.read (address + offset) = bytes[offset]) :
    m.writeBlock address bytes = m := by
  induction bytes generalizing address with
  | nil => rfl
  | cons byte rest ih =>
    have hfirst : m.read address = byte := by simpa using hread 0 (Nat.succ_pos _)
    rw [writeBlock, ← hfirst, write_read]
    apply ih
    intro offset hoffset
    have hnext : address + 1 + (offset : Int) = address + (offset + 1 : Nat) := by omega
    rw [hnext]
    exact hread (offset + 1) (Nat.succ_lt_succ hoffset)

/-! ### Registers -/

theorem length_registersUpTo (m : Machine) (x : Register) :
    (m.registersUpTo x).length = x.val + 1 := by
  have := x.isLt
  rw [registersUpTo, List.length_take, Vector.length_toList]
  omega

theorem getElem?_registersUpTo (m : Machine) {x r : Register} (hr : r ≤ x) :
    (m.registersUpTo x)[r.val]? = some (m.register r) := by
  have hplace : r.val < x.val + 1 := Nat.lt_succ_of_le hr
  rw [registersUpTo, List.getElem?_take_of_lt hplace, List.getElem?_eq_getElem (by simp),
    Vector.getElem_toList]
  rfl

/-- The registers up to one of them are read back from where they were stored. -/
theorem read_storedRegisters (m : Machine) {x r : Register} (hr : r ≤ x) :
    (m.writeBlock address (m.registersUpTo x)).read (address + r.val) = m.register r := by
  have hlength := m.length_registersUpTo x
  have hplace : r.val < (m.registersUpTo x).length := by
    rw [hlength]
    exact Nat.lt_succ_of_le hr
  rw [read_writeBlock (by omega) hplace]
  exact (List.getElem_eq_iff hplace).mpr (m.getElem?_registersUpTo hr)

/-- Loading registers whose bytes are there already changes nothing. -/
theorem loadRegisters_of_read {x : Register}
    (hread : ∀ r ≤ x, m.read (m.index + r.val) = m.register r) : m.loadRegisters x = m := by
  have hentry (r : Register) :
      (if r ≤ x then m.read (m.index + r.val) else m.register r) = m.register r := by
    split
    · next hr => exact hread r hr
    · rfl
  have hregisters : Vector.ofFn m.register = m.registers := by
    ext place hplace
    rw [Vector.getElem_ofFn]
    rfl
  rw [loadRegisters, funext hentry]
  exact congrArg (fun registers ↦ { m with registers := registers }) hregisters

/-- The registers that have been stored are there to be loaded. -/
theorem loadRegisters_stored (m : Machine) (x : Register) :
    (m.writeBlock m.index (m.registersUpTo x)).loadRegisters x =
      m.writeBlock m.index (m.registersUpTo x) := by
  have hindex : (m.writeBlock m.index (m.registersUpTo x)).index = m.index := by
    rw [writeBlock_eq]
  have hregister (r : Register) :
      (m.writeBlock m.index (m.registersUpTo x)).register r = m.register r := by
    rw [writeBlock_eq]
    rfl
  apply loadRegisters_of_read
  intro r hr
  rw [hindex, hregister, m.read_storedRegisters hr]

theorem memory_loadRegisters (m : Machine) (x : Register) :
    (m.loadRegisters x).memory = m.memory := by
  rw [loadRegisters]

theorem index_loadRegisters (m : Machine) (x : Register) :
    (m.loadRegisters x).index = m.index := by
  rw [loadRegisters]

theorem read_loadRegisters (m : Machine) (x : Register) (address : Int) :
    (m.loadRegisters x).read address = m.read address := by
  rw [read, memory_loadRegisters, read]

/-- The registers that have been loaded are where they would be stored. -/
theorem writeBlock_loaded (m : Machine) (x : Register) :
    (m.loadRegisters x).writeBlock m.index ((m.loadRegisters x).registersUpTo x) =
      m.loadRegisters x := by
  apply writeBlock_of_read
  intro offset hoffset
  have hplace : offset < x.val + 1 := by rwa [length_registersUpTo] at hoffset
  obtain ⟨r, rfl⟩ : ∃ r : Register, r.val = offset := ⟨⟨offset, by omega⟩, rfl⟩
  have hr : r ≤ x := Nat.le_of_lt_succ hplace
  rw [(List.getElem_eq_iff hoffset).mpr ((m.loadRegisters x).getElem?_registersUpTo hr),
    register_loadRegisters, if_pos hr, read_loadRegisters]

/-! ### Decimal digits -/

/-- The decimal digits of a byte. -/
theorem digits_of_byte (value : UInt8) :
    (value / 100).toNat ≤ 2 ∧ (value / 10 % 10).toNat ≤ 9 ∧ (value % 10).toNat ≤ 9 ∧
      100 * (value / 100).toNat + 10 * (value / 10 % 10).toNat + (value % 10).toNat =
        value.toNat := by
  have hhundreds := Microcode.cast_hundreds value
  have htens := Microcode.cast_tens value
  have hones := Microcode.cast_ones value
  have := value.toNat_lt
  omega

/-! ### Handlers -/

/-- The handler of a word turns a machine into another and goes on with the next word, in the
machine as in microcode. -/
structure Handles (m : Machine) (w : Word) (after : Machine) : Prop where
  /-- The instruction of the word does so. -/
  execution : ∃ instruction, Instruction.decode? w = some instruction ∧
    m.execute instruction = .ok (after, m.pc + 2)
  /-- So does the handler of its family. -/
  handler : ∀ heard : List Diagnostic, ∃ handler answer,
    Microcode.exec (Microcode.handlerOf w.family.val) (m.cells heard) =
      (.ok handler, m.cells heard) ∧
    Microcode.exec (handler (Microcode.fieldsOf w)) (m.cells heard) =
      (.ok answer, after.cells heard)

variable {after : Machine} {w store load : Word} {instruction : Instruction}

theorem handles_of_execute (hdecode : Instruction.decode? w = some instruction)
    (hexecute : m.execute instruction = .ok (after, m.pc + 2)) : m.Handles w after := by
  refine ⟨⟨instruction, hdecode, hexecute⟩, fun heard ↦ ?_⟩
  obtain ⟨handler, hhandler, hsettle⟩ := Microcode.settle_handler m heard w
  simp only [handled, hdecode, hexecute] at hsettle
  obtain ⟨answer, hanswer, -⟩ := Microcode.settle_eq_ok hsettle
  exact ⟨handler, answer, hhandler _, hanswer⟩

/-- Loading after storing finds the registers as they are. -/
theorem handles_load_after_store (m : Machine) (hstore : store.isPeripheral 0x55 = true)
    (hload : load.isPeripheral 0x65 = true) (hsame : store.x = load.x) :
    ∃ stored, m.Handles store stored ∧ stored.Handles load stored ∧
      stored.registers = m.registers := by
  refine ⟨m.writeBlock m.index (m.registersUpTo store.x), ?_, ?_, ?_⟩
  · exact handles_of_execute (Word.decode?_of_storeRegisters hstore) rfl
  · refine handles_of_execute (Word.decode?_of_loadRegisters hload) ?_
    rw [execute, ← hsame, loadRegisters_stored]
  · rw [writeBlock_eq]

/-- Storing after loading finds the memory as it is. -/
theorem handles_store_after_load (m : Machine) (hstore : store.isPeripheral 0x55 = true)
    (hload : load.isPeripheral 0x65 = true) (hsame : store.x = load.x) :
    ∃ loaded, m.Handles load loaded ∧ loaded.Handles store loaded ∧ loaded.memory = m.memory := by
  refine ⟨m.loadRegisters load.x, ?_, ?_, m.memory_loadRegisters load.x⟩
  · refine handles_of_execute (Word.decode?_of_loadRegisters hload) ?_
    rw [execute]
  · refine handles_of_execute (Word.decode?_of_storeRegisters hstore) ?_
    rw [execute, hsame, index_loadRegisters, writeBlock_loaded]

/-! ### Steps -/

/-- What a word that transfers makes of a machine. Addresses wrap around, also within the window. -/
structure Transfers (m : Machine) (w : Word) (after : Machine) : Prop where
  /-- The registers that the machine had are stored from its index on. -/
  stored : w.isPeripheral 0x55 = true →
    ∀ r : Register, r ≤ w.x → after.read (m.index + r.val) = m.register r
  /-- The registers are loaded from the memory that the machine had, from its index on. -/
  loaded : w.isPeripheral 0x65 = true →
    ∀ r : Register, r ≤ w.x → after.register r = m.read (m.index + r.val)
  /-- Three decimal digits of the register are stored. -/
  decimal : w.isPeripheral 0x33 = true → ∃ hundreds tens ones : Nat,
    (after.read m.index).toNat = hundreds ∧ (after.read (m.index + 1)).toNat = tens ∧
    (after.read (m.index + 2)).toNat = ones ∧ hundreds ≤ 2 ∧ tens ≤ 9 ∧ ones ≤ 9 ∧
    100 * hundreds + 10 * tens + ones = (m.register w.x).toNat
  /-- The index stays where it is. -/
  index : after.index = m.index

theorem register_complete (m : Machine) (next : Int) (r : Register) :
    (m.complete next).register r = m.register r :=
  rfl

section Steps

variable (hrunning : m.fault = none)

include hrunning

theorem stored_step (hword : m.fetch.isPeripheral 0x55 = true) {r : Register}
    (hr : r ≤ m.fetch.x) : m.step.2.read (m.index + r.val) = m.register r := by
  rw [step_of_execute hrunning (Word.decode?_of_storeRegisters hword) rfl]
  exact m.read_storedRegisters hr

theorem loaded_step (hword : m.fetch.isPeripheral 0x65 = true) {r : Register}
    (hr : r ≤ m.fetch.x) : m.step.2.register r = m.read (m.index + r.val) := by
  have hafter : m.step.2 = (m.loadRegisters m.fetch.x).complete (m.pc + 2) :=
    congrArg Prod.snd (step_of_execute hrunning (Word.decode?_of_loadRegisters hword) rfl)
  rw [hafter, register_complete, register_loadRegisters, if_pos hr]

theorem decimal_step (hword : m.fetch.isPeripheral 0x33 = true) :
    m.step.2.read m.index = m.register m.fetch.x / 100 ∧
      m.step.2.read (m.index + 1) = m.register m.fetch.x / 10 % 10 ∧
      m.step.2.read (m.index + 2) = m.register m.fetch.x % 10 := by
  let value := m.register m.fetch.x
  let digits := [value / 100, value / 10 % 10, value % 10]
  have hlength : digits.length = 3 := rfl
  have hdigit (offset : Nat) (hoffset : offset < digits.length) :
      (m.writeBlock m.index digits).read (m.index + offset) = digits[offset] :=
    read_writeBlock (by omega) hoffset
  rw [step_of_execute hrunning (Word.decode?_of_storeDecimal hword) rfl]
  have hhundreds := hdigit 0 (by omega)
  rw [Nat.cast_zero, add_zero] at hhundreds
  exact ⟨hhundreds, hdigit 1 (by omega), hdigit 2 (by omega)⟩

variable (hword : m.fetch.isTransfer = true)

include hword

/-- A word that transfers is executed, and it is no unknown word. -/
theorem step_of_isTransfer : m.step = (.executed m.fetch none, m.step.2) := by
  obtain hdecode | hdecode | hdecode := Word.decode?_of_isTransfer hword
  all_goals rw [step_of_execute hrunning hdecode rfl]

theorem index_step_of_isTransfer : m.step.2.index = m.index := by
  obtain hdecode | hdecode | hdecode := Word.decode?_of_isTransfer hword
  all_goals rw [step_of_execute hrunning hdecode rfl, complete]
  · rw [writeBlock_eq]
  · rw [writeBlock_eq]
  · exact index_loadRegisters m m.fetch.x

/-- What is in the registers and the memory after a word that transfers. -/
theorem transfers_step : m.Transfers m.fetch m.step.2 where
  stored hstore _ := stored_step hrunning hstore
  loaded hload _ := loaded_step hrunning hload
  decimal hdecimal := by
    obtain ⟨hhundreds, htens, hones⟩ := decimal_step hrunning hdecimal
    refine ⟨_, _, _, congrArg UInt8.toNat hhundreds, congrArg UInt8.toNat htens,
      congrArg UInt8.toNat hones, ?_⟩
    exact digits_of_byte (m.register m.fetch.x)
  index := index_step_of_isTransfer hrunning hword

end Steps

end Machine

/-- Transfers between registers and memory. A step at a word that transfers executes it, in the
machine as in microcode, and leaves the registers, the bytes or the digits where the word says,
whatever the index. On any machine, the handler that loads registers finds those that the handler
that stores them has just stored, and the other way round, so the second changes nothing. -/
theorem transfers_give_back (m : Machine) :
    (m.fault = none → m.fetch.isTransfer = true →
      m.step.1 = .executed m.fetch none ∧ m.Transfers m.fetch m.step.2 ∧
        ∀ heard : List Diagnostic, Microcode.exec Microcode.step (m.cells heard) =
          (.ok m.fetch.toNat, m.step.2.cells heard)) ∧
    ∀ store load : Word, store.isPeripheral 0x55 = true → load.isPeripheral 0x65 = true →
      store.x = load.x →
      (∃ stored, m.Handles store stored ∧ stored.Handles load stored ∧
        stored.registers = m.registers) ∧
      ∃ loaded, m.Handles load loaded ∧ loaded.Handles store loaded ∧
        loaded.memory = m.memory := by
  constructor
  · intro hrunning hword
    have hstep := Machine.step_of_isTransfer hrunning hword
    exact ⟨congrArg Prod.fst hstep, Machine.transfers_step hrunning hword,
      fun heard ↦ Microcode.exec_step_of_known m heard hstep⟩
  · intro store load hstore hload hsame
    exact ⟨m.handles_load_after_store hstore hload hsame,
      m.handles_store_after_load hstore hload hsame⟩

/-- All registers are stored across the end of the memory and over the font. -/
theorem transfers_give_back_across_the_end :
    let m : Machine := { Machine.powerOn ⟨#[0xFF, 0x55], by decide⟩ .screen .idle .silent with
      index := 0xFFFA
      registers := Vector.ofFn fun r : Fin 16 ↦ UInt8.ofNat (r.val + 100) }
    m.fault = none ∧ m.fetch.isTransfer = true ∧ m.step.1 = .executed 0xFF55 none ∧
      m.step.2.memory.get 0xFFA = 100 ∧ m.step.2.memory.get 0x009 = 115 ∧
      ∃ stored, m.Handles 0xFF55 stored ∧ stored.Handles 0xFF65 stored ∧
        stored.registers = m.registers := by
  intro m
  have hrunning : m.fault = none := rfl
  have hfetch : m.fetch = 0xFF55 :=
    (Machine.fetch_powerOn ⟨#[0xFF, 0x55], by decide⟩ .screen .idle .silent).trans (by decide)
  have hword : m.fetch.isTransfer = true := by
    rw [hfetch]
    rfl
  obtain ⟨hsteps, hhandlers⟩ := transfers_give_back m
  obtain ⟨hexecuted, htransfers, -⟩ := hsteps hrunning hword
  rw [hfetch] at hexecuted htransfers
  have hstored := htransfers.stored rfl
  exact ⟨hrunning, hword, hexecuted, hstored 0x0 (by decide), hstored 0xF (by decide),
    (hhandlers 0xFF55 0xFF65 rfl rfl rfl).1⟩

end Cosmac
