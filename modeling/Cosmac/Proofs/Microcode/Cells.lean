import Cosmac.Machine.Basic
import Mathlib.Data.Int.Bitwise

/-!
# Cells and accesses

The machine's memory, registers and pointers have types that hold nothing out of range. Microcode
has no such types: its cells are plain integers, a list of cells may have any length, and every
access is checked when it is made. `Cells` is the state, `Trap` tells why an access fails, and
`Micro` is a program of accesses. An access that fails leaves the cells as they were, but what the
program has done before stays done: `exec` gives the cells after a program also where it traps.
-/

set_option autoImplicit false

namespace Cosmac.Microcode

/-! ### State -/

/-- Why a program of accesses stops. -/
inductive Trap where
  /-- A list of cells has no such place. -/
  | place (number : Int)
  /-- A cell for bytes cannot hold a number. -/
  | byte (value : Int)
  /-- A family of words has no handler. -/
  | family (digit : Int)
  /-- There is no such key. -/
  | key (number : Int)
  /-- A program does not fit. -/
  | program (size : Nat)
  /-- An instruction faulted. -/
  | fault (cause : Fault)
  /-- An earlier fault has halted the machine. -/
  | halted (cause : Fault)
  deriving DecidableEq, Repr

/-- Whether a trap is no part of the machine's behaviour, but a slip of the microcode. -/
def Trap.isStray : Trap → Bool
  | place _ | byte _ | family _ => true
  | key _ | program _ | fault _ | halted _ => false

/-- The state that microcode works on. -/
structure Cells where
  /-- The memory. -/
  memory : List Int
  /-- The general registers. -/
  registers : List Int
  /-- The slots for return addresses. -/
  slots : List Int
  /-- The number of slots in use. -/
  depth : Int
  /-- The address of the next instruction. -/
  pc : Int
  /-- The address that sprites, stores and loads use. -/
  index : Int
  /-- The delay timer. -/
  delay : Int
  /-- The sound timer. -/
  sound : Int
  /-- The number of columns of the screen. -/
  width : Int
  /-- The number of rows of the screen. -/
  height : Int
  /-- The pixels, row by row. -/
  pixels : List (List Bool)
  /-- Whether each key is held. -/
  held : List Bool
  /-- The key pressed last. -/
  lastKey : Option Int
  /-- Where random bytes come from. -/
  source : ByteSource
  /-- The program that a reset loads. -/
  program : List Int
  /-- Whether the last wait for a key is still unanswered. -/
  waiting : Bool
  /-- The number of steps taken. -/
  cycles : Nat
  /-- The number of instructions completed. -/
  instructions : Nat
  /-- The fault that halted the machine. -/
  fault : Option Fault
  /-- The last unknown words, the oldest first. -/
  diagnostics : List Diagnostic
  /-- Every diagnostic that was handed to the listeners, the oldest first. -/
  heard : List Diagnostic

/-! ### Programs -/

/-- A program of accesses. -/
abbrev Micro (α : Type) : Type :=
  ExceptT Trap (StateM Cells) α

/-- What a program gives, and the cells after it. -/
def exec {α : Type} (p : Micro α) (c : Cells) : Except Trap α × Cells :=
  (ExceptT.run p).run c

/-! ### Lists of cells -/

/-- Bytes as numbers. -/
def numbers (xs : List UInt8) : List Int :=
  xs.map fun byte ↦ (byte.toNat : Int)

/-- The entry at a place, which must exist. -/
def entryAt {α : Type} (xs : List α) (place : Int) : Except Trap α :=
  if place < 0 then .error (.place place)
  else
    match xs[place.toNat]? with
    | some x => .ok x
    | none => .error (.place place)

/-- Replaces the entry at a place, which must exist. -/
def replaceAt {α : Type} (xs : List α) (place : Int) (x : α) : Except Trap (List α) :=
  if 0 ≤ place ∧ place < xs.length then .ok (xs.set place.toNat x) else .error (.place place)

/-- Replaces the byte at a place, which must exist. -/
def replaceByteAt (xs : List Int) (place value : Int) : Except Trap (List Int) :=
  if 0 ≤ value ∧ value ≤ 255 then replaceAt xs place value else .error (.byte value)

/-- Puts entries over those from a place on. Where they reach past the end, the list grows. -/
def overlay {α : Type} (xs : List α) (start : Nat) (ys : List α) : List α :=
  xs.take start ++ ys ++ xs.drop (start + ys.length)

/-! ### Memory and registers -/

/-- The byte at an address; addresses wrap around. -/
def readMemory (address : Int) : Micro Int := do
  ofExcept (entryAt (← get).memory (address % 4096))

/-- Stores the low byte of a number at an address. -/
def writeMemory (address value : Int) : Micro Unit := do
  let memory ← ofExcept (replaceByteAt (← get).memory (address % 4096) (value % 256))
  modify fun c ↦ { c with memory := memory }

/-- The bytes from an address on. -/
def readBlock (address : Int) : Nat → Micro (List Int)
  | 0 => return []
  | count + 1 => do
    let byte ← readMemory address
    return byte :: (← readBlock (address + 1) count)

/-- The content of a register. -/
def readRegister (x : Int) : Micro Int := do
  ofExcept (entryAt (← get).registers x)

/-- Sets a register to a number, which must be a byte. -/
def writeRegister (x value : Int) : Micro Unit := do
  let registers ← ofExcept (replaceByteAt (← get).registers x value)
  modify fun c ↦ { c with registers := registers }

/-- Sets a register to the low byte of a number and then the flag. -/
def writeWithFlag (x value : Int) (flag : Bool) : Micro Unit := do
  writeRegister x (value % 256)
  writeRegister 15 (if flag then 1 else 0)

/-- The next random byte. -/
def drawByte : Micro Int :=
  modifyGet fun c ↦ ((c.source.draw.1.toNat : Int), { c with source := c.source.draw.2 })

/-! ### The call stack -/

/-- The content of a slot. -/
def readSlot (place : Int) : Micro Int := do
  ofExcept (entryAt (← get).slots place)

/-- Sets a slot. -/
def writeSlot (place address : Int) : Micro Unit := do
  let slots ← ofExcept (replaceAt (← get).slots place address)
  modify fun c ↦ { c with slots := slots }

/-! ### The screen -/

/-- Flips the pixel in a row and a column, which must exist. The answer tells whether it was lit. -/
def flipPixel (row column : Int) : Micro Bool := do
  let line ← ofExcept (entryAt (← get).pixels row)
  let lit ← ofExcept (entryAt line column)
  let line ← ofExcept (replaceAt line column !lit)
  let pixels ← ofExcept (replaceAt (← get).pixels row line)
  modify fun c ↦ { c with pixels := pixels }
  return lit

/-- Flips the pixels of a row under the set bits among those given, counted from the left. The
answer tells whether one was lit. -/
def drawBits (row x bits : Int) : List Nat → Micro Bool
  | [] => return false
  | place :: rest => do
    if bits / 2 ^ (7 - place) % 2 = 0 then drawBits row x bits rest
    else
      let hit ← flipPixel row ((x + place) % (← get).width)
      return hit || (← drawBits row x bits rest)

/-- Draws the rows of a sprite from a place on. The answer tells whether a pixel was lit. -/
def drawRows (x y : Int) : List Int → Micro Bool
  | [] => return false
  | bits :: rest => do
    let hit ← drawBits (y % (← get).height) x (bits % 256) (List.range 8)
    return hit || (← drawRows x (y + 1) rest)

/-! ### Keys -/

/-- Checks that a number is a key. -/
def checkKey (number : Int) : Micro Int := do
  if 0 ≤ number ∧ number < 16 then return number else throw (.key number)

/-- Whether a key is held. -/
def isHeld (number : Int) : Micro Bool := do
  let key ← checkKey number
  ofExcept (entryAt (← get).held key)

/-- The held keys among those from a number on. -/
def heldKeys (number : Int) : List Bool → Micro (List Int)
  | [] => return []
  | isHeld :: rest => do
    if isHeld then
      let key ← checkKey number
      return key :: (← heldKeys (number + 1) rest)
    else heldKeys (number + 1) rest

/-- Marks a key as held or not. The answer is the key. -/
def markKey (number : Int) (isHeld : Bool) : Micro Int := do
  let key ← checkKey number
  let held ← ofExcept (replaceAt (← get).held key isHeld)
  modify fun c ↦ { c with held := held }
  return key

end Cosmac.Microcode
