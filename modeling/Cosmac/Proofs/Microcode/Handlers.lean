import Cosmac.Proofs.Microcode.Cells

/-!
# Handlers

The meaning of instruction words in microcode. There is a handler for each leading digit; it tells
the words of its family apart by itself, reports those that it does not know, and answers with the
address where execution continues, if that is not the next word. `step` fetches a word and gives it
to its handler, and `run` takes several steps.
-/

set_option autoImplicit false

namespace Cosmac.Microcode

/-! ### Words -/

/-- The fields of a word as numbers. -/
structure Fields where
  /-- The word. -/
  word : Int
  /-- The leading digit. -/
  family : Int
  /-- The second digit. -/
  x : Int
  /-- The third digit. -/
  y : Int
  /-- The last digit. -/
  n : Int
  /-- The low byte. -/
  byte : Int
  /-- The low twelve bits. -/
  address : Int
  deriving DecidableEq, Repr

/-- The fields of the low sixteen bits of a number. -/
def Fields.ofNumber (number : Int) : Fields :=
  let word := number % 65536
  ⟨word, word / 4096 % 16, word / 256 % 16, word / 16 % 16, word % 16, word % 256, word % 4096⟩

/-- The word at the program counter. -/
def fetch : Micro Fields := do
  let high ← readMemory (← get).pc
  let low ← readMemory ((← get).pc + 1)
  return .ofNumber (high % 256 * 256 + low % 256)

/-! ### Parts of handlers -/

/-- What a handler answers: where execution continues, if not at the next word. -/
abbrev Handler : Type :=
  Fields → Micro (Option Int)

/-- The address of the next word, or of the one after it if the next is skipped. -/
def skipIf (condition : Bool) : Micro (Option Int) := do
  return some ((← get).pc + if condition then 4 else 2)

/-- Remembers a word that no handler knows and hands it to the listeners. -/
def report (f : Fields) : Micro (Option Int) := do
  modify fun c ↦
    let event : Diagnostic := ⟨c.pc, .ofInt f.word⟩
    { c with
      diagnostics := keepLast diagnosticLimit (c.diagnostics ++ [event])
      heard := c.heard ++ [event] }
  return none

/-- Stops with a fault of the current word. -/
def fail {α : Type} (error : StackError) (f : Fields) : Micro α := do
  throw (.fault ⟨error, (← get).pc, .ofInt f.word⟩)

/-- Stores the registers from one on at the index, as many as told. -/
def storeFrom (place : Nat) : Nat → Micro Unit
  | 0 => return ()
  | count + 1 => do
    writeMemory ((← get).index + place) (← readRegister place)
    storeFrom (place + 1) count

/-- Loads the registers from one on from the index, as many as told. -/
def loadFrom (place : Nat) : Nat → Micro Unit
  | 0 => return ()
  | count + 1 => do
    writeRegister place (← readMemory ((← get).index + place))
    loadFrom (place + 1) count

/-- The key that a wait receives while some are held: the one pressed last if it is among them,
otherwise the lowest. -/
def received (lastKey : Option Int) (lowest : Int) (others : List Int) : Int :=
  match lastKey with
  | some last => if last ∈ lowest :: others then last else lowest
  | none => lowest

/-- Looks for a held key once. Without one, execution stays at the current word. -/
def waitForKey (x : Int) : Micro (Option Int) := do
  match ← heldKeys 0 (← get).held with
  | [] =>
    modify fun c ↦ { c with waiting := true }
    return some (← get).pc
  | lowest :: others =>
    writeRegister x (received (← get).lastKey lowest others)
    modify fun c ↦ { c with waiting := false }
    return none

/-! ### Families -/

/-- The screen and returns. -/
def family0 : Handler := fun f ↦ do
  if f.word = 0x00E0 then
    modify fun c ↦ { c with pixels := c.pixels.map fun row ↦ row.map fun _ ↦ false }
    return none
  else if f.word = 0x00EE then
    if (← get).depth = 0 then fail .empty f
    else
      modify fun c ↦ { c with depth := c.depth - 1 }
      return some (← readSlot (← get).depth)
  else report f

/-- Jumps. -/
def family1 : Handler := fun f ↦ do
  return some f.address

/-- Calls. -/
def family2 : Handler := fun f ↦ do
  if 16 ≤ (← get).depth then fail .full f
  else
    writeSlot (← get).depth (((← get).pc + 2) % 65536)
    modify fun c ↦ { c with depth := c.depth + 1 }
    return some f.address

/-- Skips if a register holds a byte. -/
def family3 : Handler := fun f ↦ do
  skipIf ((← readRegister f.x) == f.byte)

/-- Skips unless a register holds a byte. -/
def family4 : Handler := fun f ↦ do
  skipIf ((← readRegister f.x) != f.byte)

/-- Skips if two registers are equal. -/
def family5 : Handler := fun f ↦ do
  if f.n ≠ 0 then report f
  else skipIf ((← readRegister f.x) == (← readRegister f.y))

/-- Sets a register. -/
def family6 : Handler := fun f ↦ do
  writeRegister f.x f.byte
  return none

/-- Adds to a register. -/
def family7 : Handler := fun f ↦ do
  writeRegister f.x (((← readRegister f.x) + f.byte) % 256)
  return none

/-- Arithmetic on registers. -/
def family8 : Handler := fun f ↦ do
  let a ← readRegister f.x
  let b ← readRegister f.y
  if f.n = 0x0 then writeRegister f.x b; return none
  else if f.n = 0x1 then writeRegister f.x (a.lor b); return none
  else if f.n = 0x2 then writeRegister f.x (a.land b); return none
  else if f.n = 0x3 then writeRegister f.x (a.xor b); return none
  else if f.n = 0x4 then writeWithFlag f.x (a + b) (255 < a + b); return none
  else if f.n = 0x5 then writeWithFlag f.x (a - b) (b < a); return none
  else if f.n = 0x6 then writeWithFlag f.x (a / 2) (a % 2 = 1); return none
  else if f.n = 0x7 then writeWithFlag f.x (b - a) (a < b); return none
  else if f.n = 0xE then writeWithFlag f.x (a * 2) (a / 128 % 2 = 1); return none
  else report f

/-- Skips unless two registers are equal. -/
def family9 : Handler := fun f ↦ do
  if f.n ≠ 0 then report f
  else skipIf ((← readRegister f.x) != (← readRegister f.y))

/-- Sets the index. -/
def familyA : Handler := fun f ↦ do
  modify fun c ↦ { c with index := f.address }
  return none

/-- Jumps by a register, which the leading digit of the address names. -/
def familyB : Handler := fun f ↦ do
  return some (f.address + (← readRegister f.x))

/-- Random bytes. -/
def familyC : Handler := fun f ↦ do
  writeRegister f.x ((← drawByte).land f.byte)
  return none

/-- Sprites. -/
def familyD : Handler := fun f ↦ do
  let sprite ← readBlock (← get).index f.n.toNat
  let collision ← drawRows (← readRegister f.x) (← readRegister f.y) sprite
  writeRegister 15 (if collision then 1 else 0)
  return none

/-- Skips by a key. -/
def familyE : Handler := fun f ↦ do
  let key := (← readRegister f.x) % 16
  if f.byte = 0x9E then skipIf (← isHeld key)
  else if f.byte = 0xA1 then skipIf !(← isHeld key)
  else report f

/-- Timers, the keypad, the index and transfers between registers and memory. -/
def familyF : Handler := fun f ↦ do
  if f.byte = 0x07 then writeRegister f.x (← get).delay; return none
  else if f.byte = 0x0A then waitForKey f.x
  else if f.byte = 0x15 then
    let value ← readRegister f.x
    modify fun c ↦ { c with delay := value % 256 }
    return none
  else if f.byte = 0x18 then
    let value ← readRegister f.x
    modify fun c ↦ { c with sound := value % 256 }
    return none
  else if f.byte = 0x1E then
    let value ← readRegister f.x
    modify fun c ↦ { c with index := (c.index + value) % 65536 }
    return none
  else if f.byte = 0x29 then
    let value ← readRegister f.x
    modify fun c ↦ { c with index := value % 16 * 5 }
    return none
  else if f.byte = 0x33 then
    let value ← readRegister f.x
    writeMemory (← get).index (value / 100)
    writeMemory ((← get).index + 1) (value / 10 % 10)
    writeMemory ((← get).index + 2) (value % 10)
    return none
  else if f.byte = 0x55 then storeFrom 0 (f.x + 1).toNat; return none
  else if f.byte = 0x65 then loadFrom 0 (f.x + 1).toNat; return none
  else report f

/-- The handlers in the order of their families. -/
def handlers : List Handler :=
  [family0, family1, family2, family3, family4, family5, family6, family7, family8, family9,
    familyA, familyB, familyC, familyD, familyE, familyF]

/-- The handler of a family. -/
def handlerOf (digit : Int) : Micro Handler :=
  match entryAt handlers digit with
  | .ok handler => return handler
  | .error _ => throw (.family digit)

/-! ### Steps -/

/-- Remembers a fault and stops with it again. -/
def halt {α : Type} : Trap → Micro α
  | .fault cause => do
    modify fun c ↦ { c with fault := some cause }
    throw (.fault cause)
  | trap => throw trap

/-- Executes the word at the program counter and answers with it. -/
def step : Micro Int := do
  match (← get).fault with
  | some cause => throw (.halted cause)
  | none =>
    let f ← fetch
    let handler ← handlerOf f.family
    let next ← tryCatch (handler f) halt
    modify fun c ↦ { c with
      pc := next.getD (c.pc + 2) % 65536
      cycles := c.cycles + 1
      instructions := if c.waiting then c.instructions else c.instructions + 1 }
    return f.word

/-- Takes a number of steps and answers with their number. -/
def run : Nat → Micro Nat
  | 0 => return 0
  | count + 1 => do
    let _ ← step
    return (← run count) + 1

end Cosmac.Microcode
