import Cosmac.Framebuffer.Sprite
import Cosmac.Instruction.Mnemonic
import Cosmac.Keypad.Basic
import Cosmac.Machine.CallStack
import Cosmac.Machine.Font
import Cosmac.Program
import Cosmac.Random.ByteSource
import Cosmac.Timers.Basic

/-!
# The machine

`Machine` is the whole state of a CHIP-8 computer. This module holds the state, its power-on value,
loading and resetting, and the access to memory and registers that a host has.
-/

set_option autoImplicit false

namespace Cosmac

/-! ### Events -/

/-- A word outside the documented instruction set was executed. -/
structure Diagnostic where
  /-- Where the word stood. -/
  pc : Int
  /-- The word. -/
  word : Word
  deriving DecidableEq, Repr

/-- The wording of a diagnostic. -/
def Diagnostic.message (event : Diagnostic) : String :=
  "Unknown instruction 0x" ++ Numeral.hexadecimal 4 event.word.toNat ++ " at 0x"
    ++ Numeral.hexadecimal 3 event.pc

/-- The number of diagnostics that a machine remembers. -/
def diagnosticLimit : Nat := 64

/-- The last elements of a list, as many as the limit allows. -/
def keepLast {α : Type} (limit : Nat) (xs : List α) : List α :=
  xs.drop (xs.length - limit)

/-- What can go wrong with the call stack. -/
inductive StackError where
  /-- A return with no saved address. -/
  | empty
  /-- A call with no free slot. -/
  | full
  deriving DecidableEq, Repr

/-- A stack error and the instruction that caused it. -/
structure Fault where
  /-- What went wrong. -/
  error : StackError
  /-- Where the instruction stood. -/
  pc : Int
  /-- The instruction. -/
  word : Word
  deriving DecidableEq, Repr

/-- The wording of a fault. -/
def Fault.message (fault : Fault) : String :=
  let cause := match fault.error with
    | .empty => "Return with empty stack"
    | .full => "Call depth exceeds 16"
  cause ++ " (pc=0x" ++ Numeral.hexadecimal 3 fault.pc ++ ", instruction=0x"
    ++ Numeral.hexadecimal 4 fault.word.toNat ++ ")"

/-! ### State -/

/-- The register that receives carry, borrow, shift and collision flags. -/
def flagRegister : Register := Fin.last 15

/-- The state of a machine. The program counter and the index are unbounded because a host may
assign them; every use reduces them to an address. -/
structure Machine where
  /-- The memory. -/
  memory : Vector UInt8 4096
  /-- The general registers. -/
  registers : Vector UInt8 16
  /-- The saved return addresses. -/
  stack : CallStack
  /-- The address of the next instruction. -/
  pc : Int
  /-- The address that sprites, stores and loads use. -/
  index : Int
  /-- The countdown timers. -/
  timers : Timers
  /-- The screen. -/
  screen : Framebuffer
  /-- The keys. -/
  keypad : Keypad
  /-- Where random bytes come from. -/
  source : ByteSource
  /-- The number of instructions completed since the last reset. -/
  instructionCount : Nat
  /-- The number of steps taken since the last reset; waiting for a key takes steps. -/
  cycleCount : Nat
  /-- Whether the last wait for a key is still unanswered. -/
  waitingForKey : Bool
  /-- The fault that halted the machine. -/
  fault : Option Fault
  /-- The last unknown words, the oldest first. -/
  diagnostics : List Diagnostic
  /-- The program that a reset loads. -/
  program : Program

namespace Machine

/-- Whether a fault has halted the machine. -/
def halted (m : Machine) : Bool :=
  m.fault.isSome

/-! ### Power on -/

/-- The memory after loading a program: the font at the bottom, the program above the reserved
part, and zero elsewhere. -/
def initialMemory (program : Program) : Vector UInt8 4096 :=
  Vector.ofFn fun (address : Fin 4096) ↦
    if address.val < programStart then Font.bytes.getD address.val 0
    else program.bytes.getD (address.val - programStart) 0

/-- A machine with a program loaded, whose screen is cleared and whose timers stand still. -/
def powerOn (program : Program) (screen : Framebuffer) (keypad : Keypad) (source : ByteSource) :
    Machine where
  memory := initialMemory program
  registers := Vector.replicate 16 0
  stack := .empty
  pc := programStart
  index := 0
  timers := .stopped
  screen := screen.clear
  keypad := keypad
  source := source
  instructionCount := 0
  cycleCount := 0
  waitingForKey := false
  fault := none
  diagnostics := []
  program := program

/-- Restores the power-on state. The keypad and the source of random bytes are left as they are. -/
def reset (m : Machine) : Machine :=
  powerOn m.program m.screen m.keypad m.source

/-- Replaces the program and resets. A program that does not fit is refused. -/
def load (m : Machine) (bytes : Array UInt8) : Except ProgramError Machine :=
  match Program.ofBytes bytes with
  | .ok program => .ok (powerOn program m.screen m.keypad m.source)
  | .error error => .error error

/-! ### Memory and registers -/

/-- The memory cell that an integer names; addresses wrap around. -/
def cell (address : Int) : Fin 4096 :=
  ⟨(address % 4096).toNat, by omega⟩

/-- The byte at an address. -/
def read (m : Machine) (address : Int) : UInt8 :=
  m.memory.get (cell address)

/-- Stores a byte at an address. -/
def write (m : Machine) (address : Int) (value : UInt8) : Machine :=
  { m with memory := m.memory.set (cell address) value (cell address).isLt }

/-- The bytes from an address on. -/
def readBlock (m : Machine) (address : Int) : Nat → List UInt8
  | 0 => []
  | count + 1 => m.read address :: m.readBlock (address + 1) count

/-- Stores bytes from an address on. -/
def writeBlock (m : Machine) (address : Int) : List UInt8 → Machine
  | [] => m
  | value :: rest => (m.write address value).writeBlock (address + 1) rest

/-- The register that an integer names by its low digit. -/
def registerOf (number : Int) : Register :=
  ⟨(number % 16).toNat, by omega⟩

/-- The content of a register. -/
def register (m : Machine) (x : Register) : UInt8 :=
  m.registers.get x

/-- Sets a register. -/
def setRegister (m : Machine) (x : Register) (value : UInt8) : Machine :=
  { m with registers := m.registers.set x value x.isLt }

/-- Sets a register and then the flag, which wins where both are the same register. -/
def setWithFlag (m : Machine) (x : Register) (value : UInt8) (flag : Bool) : Machine :=
  (m.setRegister x value).setRegister flagRegister (if flag then 1 else 0)

/-- The word at the program counter. -/
def fetch (m : Machine) : Word :=
  .ofBytes (m.read m.pc) (m.read (m.pc + 1))

end Machine

end Cosmac
