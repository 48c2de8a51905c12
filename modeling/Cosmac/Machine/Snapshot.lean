import Cosmac.Machine.Step

/-!
# Snapshots

`Machine.capture` records what can be observed of a machine, and `Snapshot.changes` compares two
records field by field. A field knows the type of its values, so a change can be put back.
-/

set_option autoImplicit false

namespace Cosmac

/-- What can be observed of a machine. -/
structure Snapshot where
  registers : Vector UInt8 16
  pc : Int
  index : Int
  depth : Nat
  stack : List UInt16
  instructionCount : Nat
  waitingForKey : Bool
  halted : Bool
  memory : Vector UInt8 4096
  timers : Timers
  pressedKeys : List Key
  lastPressed : Option Key
  display : List (List Bool)
  deriving DecidableEq

/-- Records the state of a machine. -/
def Machine.capture (m : Machine) : Snapshot where
  registers := m.registers
  pc := m.pc
  index := m.index
  depth := m.stack.depth
  stack := m.stack.entries
  instructionCount := m.instructionCount
  waitingForKey := m.waitingForKey
  halted := m.halted
  memory := m.memory
  timers := m.timers
  pressedKeys := m.keypad.pressedKeys
  lastPressed := m.keypad.last
  display := m.screen.snapshot

namespace Snapshot

/-! ### Fields -/

/-- The fields that are compared one by one. The display is compared as a whole. -/
inductive Field where
  | register (x : Register)
  | pc
  | index
  | depth
  | stack
  | instructionCount
  | waitingForKey
  | halted
  | memory (address : Fin 4096)
  | delay
  | sound
  | pressedKeys
  | lastPressed
  deriving DecidableEq, Repr

/-- The type of the values of a field. -/
@[reducible] def Field.Value : Field → Type
  | register _ | memory _ | delay | sound => UInt8
  | pc | index => Int
  | depth | instructionCount => Nat
  | stack => List UInt16
  | waitingForKey | halted => Bool
  | pressedKeys => List Key
  | lastPressed => Option Key

instance (field : Field) : DecidableEq field.Value := by
  cases field <;> infer_instance

/-- The name of a field. -/
def Field.name : Field → String
  | register x => "registers.V" ++ Numeral.hexadecimal 1 (x.val : Nat)
  | pc => "pc"
  | index => "index"
  | depth => "sp"
  | stack => "stack"
  | instructionCount => "instruction_count"
  | waitingForKey => "waiting_for_key"
  | halted => "halted"
  | memory address => "memory[0x" ++ Numeral.hexadecimal 3 (address.val : Nat) ++ "]"
  | delay => "delay"
  | sound => "sound"
  | pressedKeys => "pressed_keys"
  | lastPressed => "last_pressed"

/-- The value of a field. -/
def get (s : Snapshot) : (field : Field) → field.Value
  | .register x => s.registers.get x
  | .pc => s.pc
  | .index => s.index
  | .depth => s.depth
  | .stack => s.stack
  | .instructionCount => s.instructionCount
  | .waitingForKey => s.waitingForKey
  | .halted => s.halted
  | .memory address => s.memory.get address
  | .delay => s.timers.delay
  | .sound => s.timers.sound
  | .pressedKeys => s.pressedKeys
  | .lastPressed => s.lastPressed

/-- A vector with another entry at a place. -/
def replace {α : Type} {n : Nat} (entries : Vector α n) (place : Fin n) (value : α) : Vector α n :=
  entries.set place value place.isLt

/-- The record with another value in a field. -/
def set (s : Snapshot) : (field : Field) → field.Value → Snapshot
  | .register x, value => { s with registers := replace s.registers x value }
  | .pc, value => { s with pc := value }
  | .index, value => { s with index := value }
  | .depth, value => { s with depth := value }
  | .stack, value => { s with stack := value }
  | .instructionCount, value => { s with instructionCount := value }
  | .waitingForKey, value => { s with waitingForKey := value }
  | .halted, value => { s with halted := value }
  | .memory address, value => { s with memory := replace s.memory address value }
  | .delay, value => { s with timers := { s.timers with delay := value } }
  | .sound, value => { s with timers := { s.timers with sound := value } }
  | .pressedKeys, value => { s with pressedKeys := value }
  | .lastPressed, value => { s with lastPressed := value }

/-- The fields of the processor. -/
def cpuFields : List Field :=
  (List.finRange 16).map .register
    ++ [.pc, .index, .depth, .stack, .instructionCount, .waitingForKey, .halted]

/-- The fields of the memory. -/
def memoryFields : List Field :=
  (List.finRange 4096).map .memory

/-- The fields of the timers. -/
def timerFields : List Field :=
  [.delay, .sound]

/-- The fields of the keypad. -/
def keypadFields : List Field :=
  [.pressedKeys, .lastPressed]

/-! ### Differences -/

/-- A field with its value before and after. -/
structure Change where
  field : Field
  before : field.Value
  after : field.Value

/-- The change of a field between two records, if its value differs. -/
def change? (before after : Snapshot) (field : Field) : Option Change :=
  if before.get field = after.get field then none
  else some ⟨field, before.get field, after.get field⟩

/-- What differs between two records. -/
structure Difference where
  cpu : List Change
  memory : List Change
  timers : List Change
  keypad : List Change
  displayChanged : Bool

/-- No difference. -/
def Difference.none : Difference :=
  ⟨[], [], [], [], false⟩

/-- Whether nothing differs. -/
def Difference.isEmpty (d : Difference) : Bool :=
  d.cpu.isEmpty && d.memory.isEmpty && d.timers.isEmpty && d.keypad.isEmpty && !d.displayChanged

/-- What differs between two records, each part in the order of its fields. -/
def difference (before after : Snapshot) : Difference where
  cpu := cpuFields.filterMap (change? before after)
  memory := memoryFields.filterMap (change? before after)
  timers := timerFields.filterMap (change? before after)
  keypad := keypadFields.filterMap (change? before after)
  displayChanged := before.display != after.display

/-- What differs from an earlier record, if there is one. -/
def differenceFrom (before : Option Snapshot) (after : Snapshot) : Difference :=
  match before with
  | some earlier => difference earlier after
  | Option.none => .none

/-- The record in which changed fields have the values from after the change. -/
def apply (s : Snapshot) (changes : List Change) : Snapshot :=
  changes.foldl (fun current change ↦ current.set change.field change.after) s

end Snapshot

end Cosmac
