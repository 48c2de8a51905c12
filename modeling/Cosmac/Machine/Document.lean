import Cosmac.Json.Basic
import Cosmac.Machine.Snapshot
import Cosmac.Text.Hexadecimal

/-!
# Documents about machines

JSON documents that show a machine to other tools: its processor (`Machine.processorDocument`), a
whole record of it (`Snapshot.document`), and what differs between two records
(`Snapshot.Difference.document`). Memory is shown by its runs of nonzero bytes.
-/

set_option autoImplicit false

namespace Cosmac

/-! ### Parts -/

/-- The runs of nonzero bytes with their addresses, as long as possible. The first byte stands at
the given address. -/
def nonzeroRuns (address : Nat) : List UInt8 → List (Nat × List UInt8)
  | [] => []
  | byte :: rest =>
    let runs := nonzeroRuns (address + 1) rest
    if byte = 0 then runs
    else
      match runs with
      | (next, run) :: more =>
        if next = address + 1 then (address, byte :: run) :: more
        else (address, [byte]) :: (next, run) :: more
      | [] => [(address, [byte])]

namespace Json

/-- The keys of a keypad by their numbers. -/
def ofKeys (keys : List Key) : Json :=
  .list (keys.map fun key ↦ .int key.val)

/-- A key, if there is one. -/
def ofKey? (key : Option Key) : Json :=
  (key.map fun key ↦ Json.int key.val).getD .null

/-- The addresses on a stack. -/
def ofAddresses (addresses : List UInt16) : Json :=
  .list (addresses.map fun address ↦ .int address.toNat)

/-- Bytes by their numbers. -/
def ofBytes (bytes : List UInt8) : Json :=
  .list (bytes.map fun byte ↦ .int byte.toNat)

/-- A grid by its rows, in which ones are lit pixels and zeros dark ones. -/
def ofGrid (grid : List (List Bool)) : Json :=
  .list (grid.map fun row ↦ .text (String.ofList (row.map fun bit ↦ if bit then '1' else '0')))

/-- Memory by its runs of nonzero bytes. -/
def ofMemory (bytes : List UInt8) : Json :=
  .list ((nonzeroRuns 0 bytes).map fun (address, run) ↦
    .list [.int address, .text (Text.hexText run)])

end Json

/-! ### Machines -/

/-- The processor of a machine. -/
def Machine.processorDocument (m : Machine) : Json :=
  .object [("pc", .int m.pc), ("i", .int m.index), ("sp", .int m.stack.depth.val),
    ("v", .ofBytes m.registers.toList), ("stack", .ofAddresses m.stack.entries),
    ("dt", .int m.timers.delay.toNat), ("st", .int m.timers.sound.toNat),
    ("waiting_for_key", .bool m.waitingForKey), ("halted", .bool m.halted),
    ("instruction_count", .int m.instructionCount), ("cycle_count", .int m.cycleCount)]

namespace Snapshot

/-- A whole record. -/
def document (s : Snapshot) : Json :=
  .object [
    ("cpu", .object [("registers", .ofBytes s.registers.toList), ("pc", .int s.pc),
      ("index", .int s.index), ("sp", .int s.depth), ("stack", .ofAddresses s.stack),
      ("instruction_count", .int s.instructionCount),
      ("waiting_for_key", .bool s.waitingForKey), ("halted", .bool s.halted)]),
    ("memory", .object
      [("size", .int s.memory.toList.length), ("runs", .ofMemory s.memory.toList)]),
    ("timers", .object
      [("delay", .int s.timers.delay.toNat), ("sound", .int s.timers.sound.toNat)]),
    ("keypad", .object
      [("pressed_keys", .ofKeys s.pressedKeys), ("last_pressed", .ofKey? s.lastPressed)]),
    ("display", .ofGrid s.display)]

/-- The value of a field. -/
def Field.valueDocument : (field : Field) → field.Value → Json
  | .register _, value | .memory _, value | .delay, value | .sound, value => .int value.toNat
  | .pc, value | .index, value => .int value
  | .depth, value | .instructionCount, value => .int value
  | .stack, value => .ofAddresses value
  | .waitingForKey, value | .halted, value => .bool value
  | .pressedKeys, value => .ofKeys value
  | .lastPressed, value => .ofKey? value

/-- The name of a field with its value before and after. -/
def Change.document (change : Change) : Json :=
  .list [.text change.field.name, change.field.valueDocument change.before,
    change.field.valueDocument change.after]

/-- What differs between two records. -/
def Difference.document (d : Difference) : Json :=
  let changes (cs : List Change) : Json := .list (cs.map Change.document)
  .object [("cpu", changes d.cpu), ("memory", changes d.memory), ("timers", changes d.timers),
    ("keypad", changes d.keypad), ("display_changed", .bool d.displayChanged),
    ("empty", .bool d.isEmpty)]

end Snapshot

end Cosmac
