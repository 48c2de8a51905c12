import Cosmac.Machine.Step
import Cosmac.Proofs.Microcode.Cells

/-!
# The cells of a machine

`Machine.cells` lays a machine out as cells. On such cells every access succeeds, and it does what
the operation of the machine of the same purpose does: there is one lemma `exec_…` per access.
-/

set_option autoImplicit false

namespace Cosmac

/-- The cells of a machine whose listeners have heard the given diagnostics. -/
def Machine.cells (m : Machine) (heard : List Diagnostic) : Microcode.Cells where
  memory := Microcode.numbers m.memory.toList
  registers := Microcode.numbers m.registers.toList
  slots := m.stack.slots.toList.map fun address ↦ (address.toNat : Int)
  depth := m.stack.depth.val
  pc := m.pc
  index := m.index
  delay := m.timers.delay.toNat
  sound := m.timers.sound.toNat
  width := m.screen.width
  height := m.screen.height
  pixels := m.screen.snapshot
  held := m.keypad.held.toList
  lastKey := m.keypad.last.map fun key ↦ (key.val : Int)
  source := m.source
  program := Microcode.numbers m.program.bytes.toList
  waiting := m.waitingForKey
  cycles := m.cycleCount
  instructions := m.instructionCount
  fault := m.fault
  diagnostics := m.diagnostics
  heard := heard

namespace Machine

variable (m : Machine) (heard : List Diagnostic)

@[simp]
theorem cells_memory : (m.cells heard).memory = Microcode.numbers m.memory.toList :=
  rfl

@[simp]
theorem cells_registers : (m.cells heard).registers = Microcode.numbers m.registers.toList :=
  rfl

@[simp]
theorem cells_slots :
    (m.cells heard).slots = m.stack.slots.toList.map fun address ↦ (address.toNat : Int) :=
  rfl

@[simp]
theorem cells_pc : (m.cells heard).pc = m.pc :=
  rfl

@[simp]
theorem cells_index : (m.cells heard).index = m.index :=
  rfl

@[simp]
theorem cells_depth : (m.cells heard).depth = m.stack.depth.val :=
  rfl

@[simp]
theorem cells_delay : (m.cells heard).delay = (m.timers.delay.toNat : Int) :=
  rfl

@[simp]
theorem cells_width : (m.cells heard).width = m.screen.width :=
  rfl

@[simp]
theorem cells_height : (m.cells heard).height = m.screen.height :=
  rfl

@[simp]
theorem cells_pixels : (m.cells heard).pixels = m.screen.snapshot :=
  rfl

@[simp]
theorem cells_lastKey : (m.cells heard).lastKey = m.keypad.last.map fun key ↦ (key.val : Int) :=
  rfl

@[simp]
theorem cells_fault : (m.cells heard).fault = m.fault :=
  rfl

end Machine

namespace Microcode

/-! ### Programs -/

section Programs

variable {α β : Type} (c : Cells)

@[simp]
theorem exec_pure (a : α) : exec (pure a) c = (.ok a, c) :=
  rfl

/-- A program goes on with the result and the cells of its first part, unless that traps. -/
theorem exec_bind (p : Micro α) (f : α → Micro β) :
    exec (p >>= f) c =
      match exec p c with
      | (.ok a, after) => exec (f a) after
      | (.error trap, after) => (.error trap, after) := by
  simp only [exec, ExceptT.run_bind, StateT.run_bind]
  rcases StateT.run (ExceptT.run p) c with ⟨_ | _, _⟩ <;> rfl

/-- A program whose first part gives a result goes on with it. -/
theorem exec_bind_of_ok {p : Micro α} {f : α → Micro β} {c after : Cells} {a : α}
    (hp : exec p c = (.ok a, after)) : exec (p >>= f) c = exec (f a) after := by
  rw [exec_bind, hp]

@[simp]
theorem exec_get_bind (f : Cells → Micro β) : exec (get >>= f) c = exec (f c) c :=
  rfl

@[simp]
theorem exec_modify (f : Cells → Cells) : exec (modify f) c = (.ok (), f c) :=
  rfl

@[simp]
theorem exec_throw (trap : Trap) : exec (throw trap : Micro α) c = (.error trap, c) :=
  rfl

@[simp]
theorem exec_ofExcept_ok (a : α) : exec (ofExcept (.ok a : Except Trap α)) c = (.ok a, c) :=
  rfl

theorem exec_ite (condition : Prop) [Decidable condition] (p q : Micro α) :
    exec (if condition then p else q) c = if condition then exec p c else exec q c := by
  split <;> rfl

/-- A handler of traps takes over where a program traps, on the cells that it left. -/
theorem exec_tryCatch (p : Micro α) (handler : Trap → Micro α) :
    exec (tryCatch p handler) c =
      match exec p c with
      | (.ok a, after) => (.ok a, after)
      | (.error trap, after) => exec (handler trap) after := by
  simp only [exec, ExceptT.run_tryCatch, StateT.run_bind]
  rcases StateT.run (ExceptT.run p) c with ⟨_ | _, _⟩ <;> rfl

end Programs

/-! ### Lists of cells -/

@[simp]
theorem numbers_cons (byte : UInt8) (rest : List UInt8) :
    numbers (byte :: rest) = (byte.toNat : Int) :: numbers rest :=
  rfl

theorem length_numbers (bytes : List UInt8) : (numbers bytes).length = bytes.length :=
  List.length_map _

theorem getElem?_numbers (bytes : List UInt8) (place : Nat) :
    (numbers bytes)[place]? = bytes[place]?.map fun byte ↦ (byte.toNat : Int) :=
  List.getElem?_map

/-- A place that a vector has is there on its cells. -/
theorem entryAt_map {α β : Type} {n : Nat} (v : Vector α n) (f : α → β) (i : Fin n) :
    entryAt (v.toList.map f) (i.val : Int) = .ok (f (v.get i)) := by
  have hnonneg : ¬ (i.val : Int) < 0 := by omega
  have hentry : (v.toList.map f)[(i.val : Int).toNat]? = some (f (v.get i)) := by
    rw [Int.toNat_natCast, List.getElem?_map, List.getElem?_eq_getElem (by simp)]
    simp [Vector.get]
  rw [entryAt, if_neg hnonneg, hentry]

/-- Replacing an entry of a vector is replacing its cell. -/
theorem replaceAt_map {α β : Type} {n : Nat} (v : Vector α n) (f : α → β) (i : Fin n) (x : α) :
    replaceAt (v.toList.map f) (i.val : Int) (f x) =
      .ok ((v.set i x i.isLt).toList.map f) := by
  have hplace : 0 ≤ (i.val : Int) ∧ (i.val : Int) < (v.toList.map f).length := by
    have := i.isLt
    simp
  rw [replaceAt, if_pos hplace, Int.toNat_natCast, Vector.toList_set, List.map_set]

/-- A byte passes the check of its cell. -/
theorem replaceByteAt_numbers {n : Nat} (v : Vector UInt8 n) (i : Fin n) (byte : UInt8) :
    replaceByteAt (numbers v.toList) (i.val : Int) (byte.toNat : Int) =
      .ok (numbers (v.set i byte i.isLt).toList) := by
  have hbyte : 0 ≤ (byte.toNat : Int) ∧ (byte.toNat : Int) ≤ 255 := by
    have := byte.toNat_lt
    omega
  rw [replaceByteAt, if_pos hbyte]
  exact replaceAt_map v _ i byte

/-! ### Accesses -/

section Accesses

variable (m : Machine) (heard : List Diagnostic)

theorem emod_eq_cell (address : Int) : address % 4096 = ((Machine.cell address).val : Int) := by
  have := Int.emod_nonneg address (b := 4096) (by decide)
  simp only [Machine.cell]
  omega

@[simp]
theorem exec_readMemory (address : Int) :
    exec (readMemory address) (m.cells heard) =
      (.ok ((m.read address).toNat : Int), m.cells heard) := by
  have hentry : entryAt (m.cells heard).memory (address % 4096) =
      .ok ((m.read address).toNat : Int) := by
    rw [emod_eq_cell]
    exact entryAt_map m.memory _ (Machine.cell address)
  rw [readMemory, exec_get_bind, hentry, exec_ofExcept_ok]

/-- Storing a number stores the byte that it leaves. -/
theorem exec_writeMemory (address : Int) {value : Int} {byte : UInt8}
    (hvalue : value % 256 = (byte.toNat : Int)) :
    exec (writeMemory address value) (m.cells heard) =
      (.ok (), (m.write address byte).cells heard) := by
  have hreplace : replaceByteAt (m.cells heard).memory (address % 4096) (value % 256) =
      .ok ((m.write address byte).cells heard).memory := by
    rw [emod_eq_cell, hvalue]
    exact replaceByteAt_numbers m.memory (Machine.cell address) byte
  rw [writeMemory, exec_get_bind, hreplace, exec_bind_of_ok (exec_ofExcept_ok _ _), exec_modify]
  rfl

@[simp]
theorem exec_readBlock (address : Int) (count : Nat) :
    exec (readBlock address count) (m.cells heard) =
      (.ok (numbers (m.readBlock address count)), m.cells heard) := by
  induction count generalizing address with
  | zero => rfl
  | succ count ih =>
    rw [readBlock, exec_bind_of_ok (exec_readMemory m heard address),
      exec_bind_of_ok (ih (address + 1)), exec_pure]
    rfl

@[simp]
theorem exec_readRegister (x : Register) :
    exec (readRegister x.val) (m.cells heard) =
      (.ok ((m.register x).toNat : Int), m.cells heard) := by
  have hentry : entryAt (m.cells heard).registers x.val = .ok ((m.register x).toNat : Int) :=
    entryAt_map m.registers _ x
  rw [readRegister, exec_get_bind, hentry, exec_ofExcept_ok]

/-- Setting a register to the number of a byte sets it to that byte. -/
theorem exec_writeRegister (x : Register) {value : Int} {byte : UInt8}
    (hvalue : value = (byte.toNat : Int)) :
    exec (writeRegister x.val value) (m.cells heard) =
      (.ok (), (m.setRegister x byte).cells heard) := by
  have hreplace : replaceByteAt (m.cells heard).registers x.val value =
      .ok ((m.setRegister x byte).cells heard).registers := by
    rw [hvalue]
    exact replaceByteAt_numbers m.registers x byte
  rw [writeRegister, exec_get_bind, hreplace, exec_bind_of_ok (exec_ofExcept_ok _ _), exec_modify]
  rfl

theorem exec_writeWithFlag (x : Register) {value : Int} {byte : UInt8} (flag : Bool)
    (hvalue : value % 256 = (byte.toNat : Int)) :
    exec (writeWithFlag x.val value flag) (m.cells heard) =
      (.ok (), (m.setWithFlag x byte flag).cells heard) := by
  have hflag : (if flag then 1 else 0 : Int) = ((if flag then 1 else 0 : UInt8).toNat : Int) := by
    cases flag <;> rfl
  rw [writeWithFlag, exec_bind_of_ok (exec_writeRegister m heard x hvalue)]
  exact exec_writeRegister (m.setRegister x byte) heard flagRegister hflag

theorem exec_drawByte :
    exec drawByte (m.cells heard) =
      (.ok (m.source.draw.1.toNat : Int), { m with source := m.source.draw.2 }.cells heard) :=
  rfl

theorem exec_readSlot (place : Fin 16) :
    exec (readSlot place.val) (m.cells heard) =
      (.ok ((m.stack.slots.get place).toNat : Int), m.cells heard) := by
  have hentry : entryAt (m.cells heard).slots place.val =
      .ok ((m.stack.slots.get place).toNat : Int) :=
    entryAt_map m.stack.slots _ place
  rw [readSlot, exec_get_bind, hentry, exec_ofExcept_ok]

theorem exec_writeSlot (place : Fin 16) {number : Int} {address : UInt16}
    (hnumber : number = (address.toNat : Int)) :
    exec (writeSlot place.val number) (m.cells heard) =
      (.ok (), { m with
        stack := ⟨m.stack.slots.set place address place.isLt, m.stack.depth⟩ }.cells heard) := by
  have hreplace : replaceAt (m.cells heard).slots place.val number =
      .ok ((m.stack.slots.set place address place.isLt).toList.map fun address ↦
        (address.toNat : Int)) := by
    rw [hnumber]
    exact replaceAt_map m.stack.slots (fun address ↦ (address.toNat : Int)) place address
  rw [writeSlot, exec_get_bind, hreplace, exec_bind_of_ok (exec_ofExcept_ok _ _), exec_modify]
  rfl

end Accesses

end Microcode

end Cosmac
