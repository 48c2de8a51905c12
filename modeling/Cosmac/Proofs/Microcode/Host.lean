import Cosmac.Proofs.Machine.History
import Cosmac.Proofs.Microcode.Handlers

/-!
# The host's side of microcode

What a host asks of a machine, in microcode. `load` and `reset` write the font, the program and
zeros into cells that were made with some content (`Cells.unloaded`), `perform` carries out an
action, and `performAll` carries out several, of which each is attempted whatever became of those
before.
-/

set_option autoImplicit false

namespace Cosmac.Microcode

/-! ### Starting -/

/-- The cells of a machine before its first program is loaded. -/
def Cells.unloaded (screen : Framebuffer) (keypad : Keypad) (source : ByteSource) : Cells where
  memory := List.replicate 4096 0
  registers := List.replicate 16 0
  slots := List.replicate 16 0
  depth := 0
  pc := 0x200
  index := 0
  delay := 0
  sound := 0
  width := screen.width
  height := screen.height
  pixels := screen.snapshot
  held := keypad.held.toList
  lastKey := keypad.last.map fun key ↦ (key.val : Int)
  source := source
  program := []
  waiting := false
  cycles := 0
  instructions := 0
  fault := none
  diagnostics := []
  heard := []

/-- Restores the power-on state with the current program. -/
def reset : Micro Unit := do
  modify fun c ↦ { c with
    memory :=
      overlay (overlay (List.replicate 4096 0) 0 (numbers Font.bytes.toList)) 0x200 c.program
    registers := List.replicate 16 0
    slots := List.replicate 16 0
    depth := 0
    pc := 0x200
    index := 0
    delay := 0
    sound := 0
    pixels := c.pixels.map fun row ↦ row.map fun _ ↦ false
    waiting := false
    cycles := 0
    instructions := 0
    fault := none
    diagnostics := [] }

/-- Replaces the program, which must fit, and resets. -/
def load (bytes : List Int) : Micro Unit := do
  if 3584 < bytes.length then throw (.program bytes.length)
  else
    modify fun c ↦ { c with program := bytes }
    reset

/-! ### Timers and keys -/

/-- Counts the timers down. The answer tells whether the tone sounded. -/
def tick : Micro Bool := do
  modify fun c ↦ { c with delay := if 0 < c.delay then c.delay - 1 else c.delay }
  if 0 < (← get).sound then
    modify fun c ↦ { c with sound := c.sound - 1 }
    return true
  else return false

/-- Presses a key. -/
def press (number : Int) : Micro Unit := do
  let key ← markKey number true
  modify fun c ↦ { c with lastKey := some key }

/-- Releases a key. -/
def release (number : Int) : Micro Unit := do
  let _ ← markKey number false

/-- Releases every key. -/
def releaseAll : Micro Unit := do
  modify fun c ↦ { c with held := List.replicate 16 false }

/-! ### Actions -/

/-- Carries out an action of the host. -/
def perform : HostAction → Micro Unit
  | .step => discard step
  | .run count => discard (run count.toNat)
  | .tick => discard tick
  | .press number => press number
  | .release number => release number
  | .releaseAll => releaseAll
  | .reset => reset
  | .load bytes => load (numbers bytes.toList)
  | .write address value => writeMemory address value
  | .setRegister number value => writeRegister (number % 16) (value % 256)

/-- The results of actions one after the other, and the cells after them. -/
def performAll : List HostAction → Cells → List (Except Trap Unit) × Cells
  | [], c => ([], c)
  | action :: rest, c =>
    let (result, after) := exec (perform action) c
    let (results, final) := performAll rest after
    (result :: results, final)

end Cosmac.Microcode
