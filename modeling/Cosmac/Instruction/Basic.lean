import Cosmac.Word

/-!
# The instruction set

`Instruction` has one constructor for each documented instruction, and `Instruction.decode?` reads
a word. Words outside the documented set decode to nothing.
-/

set_option autoImplicit false

namespace Cosmac

/-- The operations that combine two registers into the first of them. -/
inductive Combination where
  | copy
  | or
  | and
  | xor
  | add
  | subtract
  | subtractFrom
  deriving DecidableEq, Repr

/-- A documented instruction. -/
inductive Instruction where
  /-- Turns every pixel off. -/
  | clearScreen
  /-- Continues at the address saved last. -/
  | ret
  /-- Continues at an address. -/
  | jump (target : Address)
  /-- Saves the address of the next instruction and continues at an address. -/
  | call (target : Address)
  /-- Skips the next instruction if a register holds a byte. -/
  | skipIfByte (x : Register) (byte : UInt8)
  /-- Skips the next instruction unless a register holds a byte. -/
  | skipUnlessByte (x : Register) (byte : UInt8)
  /-- Skips the next instruction if two registers are equal. -/
  | skipIfSame (x y : Register)
  /-- Skips the next instruction unless two registers are equal. -/
  | skipUnlessSame (x y : Register)
  /-- Sets a register to a byte. -/
  | setByte (x : Register) (byte : UInt8)
  /-- Adds a byte to a register; no flag is set. -/
  | addByte (x : Register) (byte : UInt8)
  /-- Combines two registers. -/
  | combine (operation : Combination) (x y : Register)
  /-- Halves a register; the flag receives the bit that falls out. -/
  | shiftRight (x : Register)
  /-- Doubles a register; the flag receives the bit that falls out. -/
  | shiftLeft (x : Register)
  /-- Sets the index. -/
  | setIndex (target : Address)
  /-- Continues at an address plus the register that its first digit names. -/
  | jumpOffset (target : Address)
  /-- Sets a register to a random byte under a mask. -/
  | random (x : Register) (mask : UInt8)
  /-- Draws the sprite at the index; the flag tells whether a lit pixel went dark. -/
  | draw (x y : Register) (rows : Nibble)
  /-- Skips the next instruction if a key is held. -/
  | skipIfPressed (x : Register)
  /-- Skips the next instruction unless a key is held. -/
  | skipUnlessPressed (x : Register)
  /-- Reads the delay timer. -/
  | readDelay (x : Register)
  /-- Waits until a key is held and reads it. -/
  | waitForKey (x : Register)
  /-- Sets the delay timer. -/
  | setDelay (x : Register)
  /-- Sets the sound timer. -/
  | setSound (x : Register)
  /-- Adds a register to the index. -/
  | addIndex (x : Register)
  /-- Sets the index to the glyph of a register's low digit. -/
  | pointToGlyph (x : Register)
  /-- Stores the three decimal digits of a register. -/
  | storeDecimal (x : Register)
  /-- Stores the registers up to and including `x`. -/
  | storeRegisters (x : Register)
  /-- Loads the registers up to and including `x`. -/
  | loadRegisters (x : Register)
  deriving DecidableEq, Repr

namespace Instruction

/-- The combination that the last digit of a word of family eight selects. -/
def combination? : Nat → Option Combination
  | 0x0 => some .copy
  | 0x1 => some .or
  | 0x2 => some .and
  | 0x3 => some .xor
  | 0x4 => some .add
  | 0x5 => some .subtract
  | 0x7 => some .subtractFrom
  | _ => none

/-- The instruction of family eight with the given digits. -/
def arithmetic? (x y n : Nibble) : Option Instruction :=
  match n.val with
  | 0x6 => some (.shiftRight x)
  | 0xE => some (.shiftLeft x)
  | digit => (combination? digit).map fun operation ↦ .combine operation x y

/-- The instruction of the last family with the given register and low byte. -/
def peripheral? (x : Register) (byte : UInt8) : Option Instruction :=
  match byte.toNat with
  | 0x07 => some (.readDelay x)
  | 0x0A => some (.waitForKey x)
  | 0x15 => some (.setDelay x)
  | 0x18 => some (.setSound x)
  | 0x1E => some (.addIndex x)
  | 0x29 => some (.pointToGlyph x)
  | 0x33 => some (.storeDecimal x)
  | 0x55 => some (.storeRegisters x)
  | 0x65 => some (.loadRegisters x)
  | _ => none

/-- The instruction that a word encodes, if it is a documented one. -/
def decode? (w : Word) : Option Instruction :=
  match w.family.val with
  | 0x0 => if w = 0x00E0 then some .clearScreen else if w = 0x00EE then some .ret else none
  | 0x1 => some (.jump w.address)
  | 0x2 => some (.call w.address)
  | 0x3 => some (.skipIfByte w.x w.byte)
  | 0x4 => some (.skipUnlessByte w.x w.byte)
  | 0x5 => if w.n = 0 then some (.skipIfSame w.x w.y) else none
  | 0x6 => some (.setByte w.x w.byte)
  | 0x7 => some (.addByte w.x w.byte)
  | 0x8 => arithmetic? w.x w.y w.n
  | 0x9 => if w.n = 0 then some (.skipUnlessSame w.x w.y) else none
  | 0xA => some (.setIndex w.address)
  | 0xB => some (.jumpOffset w.address)
  | 0xC => some (.random w.x w.byte)
  | 0xD => some (.draw w.x w.y w.n)
  | 0xE =>
    match w.byte.toNat with
    | 0x9E => some (.skipIfPressed w.x)
    | 0xA1 => some (.skipUnlessPressed w.x)
    | _ => none
  | _ => peripheral? w.x w.byte

/-! ### The index -/

/-- Whether an instruction works with the index: it uses memory there, or adds to it. -/
def usesIndex : Instruction → Bool
  | draw _ _ rows => rows.val ≠ 0
  | addIndex _ | storeDecimal _ | storeRegisters _ | loadRegisters _ => true
  | _ => false

/-- Whether an instruction gives the index another value. -/
def setsIndex : Instruction → Bool
  | setIndex _ | addIndex _ | pointToGlyph _ => true
  | _ => false

end Instruction

end Cosmac
