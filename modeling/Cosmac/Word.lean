/-!
# Instruction words

A CHIP-8 instruction is a sixteen-bit word. This module names its fields: the leading digit
`family`, the digits `x`, `y` and `n` after it, the low byte `byte` and the low twelve bits
`address`.
-/

set_option autoImplicit false

namespace Cosmac

/-- A sixteen-bit instruction word. -/
abbrev Word := UInt16

/-- A hexadecimal digit. -/
abbrev Nibble := Fin 16

/-- One of the sixteen general registers. -/
abbrev Register := Fin 16

/-- A twelve-bit memory address. -/
abbrev Address := Fin 4096

namespace Word

/-- The word whose bits are the low sixteen bits of an integer. -/
def ofInt (n : Int) : Word :=
  UInt16.ofNat (n % 65536).toNat

/-- The word with the given bytes, the high one first. -/
def ofBytes (high low : UInt8) : Word :=
  UInt16.ofNat (high.toNat * 256 + low.toNat)

/-- The leading hexadecimal digit, which selects the family of the instruction. -/
def family (w : Word) : Nibble :=
  ⟨w.toNat / 4096, by have := w.toNat_lt; omega⟩

/-- The second digit. -/
def x (w : Word) : Nibble :=
  ⟨w.toNat / 256 % 16, by omega⟩

/-- The third digit. -/
def y (w : Word) : Nibble :=
  ⟨w.toNat / 16 % 16, by omega⟩

/-- The last digit. -/
def n (w : Word) : Nibble :=
  ⟨w.toNat % 16, by omega⟩

/-- The low byte. -/
def byte (w : Word) : UInt8 :=
  UInt8.ofNat (w.toNat % 256)

/-- The low twelve bits. -/
def address (w : Word) : Address :=
  ⟨w.toNat % 4096, by omega⟩

end Word

end Cosmac
