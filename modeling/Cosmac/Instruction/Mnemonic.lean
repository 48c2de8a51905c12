import Cosmac.Instruction.Basic
import Cosmac.Number.Numeral

/-!
# Mnemonics

The assembly notation of an instruction is a name and a list of operands. `Word.mnemonic` is the
notation of a word; a word that is no instruction is shown as data.
-/

set_option autoImplicit false

namespace Cosmac

/-- What stands after the name of an instruction. -/
inductive Operand where
  | register (x : Register)
  | byte (value : UInt8)
  | address (target : Address)
  | rows (count : Nibble)
  | index
  | delayTimer
  | soundTimer
  | key
  | glyph
  | decimal
  | memory
  deriving DecidableEq, Repr

/-- The notation of an operand. -/
def Operand.chars : Operand → List Char
  | register x => 'V' :: Numeral.hexDigits 1 x
  | byte value => '0' :: 'x' :: Numeral.hexDigits 2 value.toNat
  | address target => '0' :: 'x' :: Numeral.hexDigits 3 target
  | rows count => Numeral.decimalDigits count
  | index => ['I']
  | delayTimer => ['D', 'T']
  | soundTimer => ['S', 'T']
  | key => ['K']
  | glyph => ['F']
  | decimal => ['B']
  | memory => ['[', 'I', ']']

/-- An instruction in assembly notation. -/
structure Mnemonic where
  /-- The name of the instruction. -/
  name : String
  /-- What follows the name. -/
  operands : List Operand
  deriving DecidableEq, Repr

/-- The text of a mnemonic: the name, a blank, and the operands with commas between them. -/
def Mnemonic.chars (m : Mnemonic) : List Char :=
  if m.operands.isEmpty then m.name.toList
  else m.name.toList ++ ' ' :: [',', ' '].intercalate (m.operands.map Operand.chars)

/-- The name of a combination of two registers. -/
def Combination.name : Combination → String
  | copy => "LD"
  | or => "OR"
  | and => "AND"
  | xor => "XOR"
  | add => "ADD"
  | subtract => "SUB"
  | subtractFrom => "SUBN"

namespace Instruction

/-- The register that the first digit of an address names. -/
def offsetRegister (target : Address) : Register :=
  ⟨target.val / 256, by have := target.isLt; omega⟩

/-- The assembly notation of an instruction. -/
def mnemonic : Instruction → Mnemonic
  | clearScreen => ⟨"CLS", []⟩
  | ret => ⟨"RET", []⟩
  | jump target => ⟨"JP", [.address target]⟩
  | call target => ⟨"CALL", [.address target]⟩
  | skipIfByte x byte => ⟨"SE", [.register x, .byte byte]⟩
  | skipUnlessByte x byte => ⟨"SNE", [.register x, .byte byte]⟩
  | skipIfSame x y => ⟨"SE", [.register x, .register y]⟩
  | skipUnlessSame x y => ⟨"SNE", [.register x, .register y]⟩
  | setByte x byte => ⟨"LD", [.register x, .byte byte]⟩
  | addByte x byte => ⟨"ADD", [.register x, .byte byte]⟩
  | combine operation x y => ⟨operation.name, [.register x, .register y]⟩
  | shiftRight x => ⟨"SHR", [.register x]⟩
  | shiftLeft x => ⟨"SHL", [.register x]⟩
  | setIndex target => ⟨"LD", [.index, .address target]⟩
  | jumpOffset target => ⟨"JP", [.register (offsetRegister target), .address target]⟩
  | random x mask => ⟨"RND", [.register x, .byte mask]⟩
  | draw x y rows => ⟨"DRW", [.register x, .register y, .rows rows]⟩
  | skipIfPressed x => ⟨"SKP", [.register x]⟩
  | skipUnlessPressed x => ⟨"SKNP", [.register x]⟩
  | readDelay x => ⟨"LD", [.register x, .delayTimer]⟩
  | waitForKey x => ⟨"LD", [.register x, .key]⟩
  | setDelay x => ⟨"LD", [.delayTimer, .register x]⟩
  | setSound x => ⟨"LD", [.soundTimer, .register x]⟩
  | addIndex x => ⟨"ADD", [.index, .register x]⟩
  | pointToGlyph x => ⟨"LD", [.glyph, .register x]⟩
  | storeDecimal x => ⟨"LD", [.decimal, .register x]⟩
  | storeRegisters x => ⟨"LD", [.memory, .register x]⟩
  | loadRegisters x => ⟨"LD", [.register x, .memory]⟩

end Instruction

namespace Word

/-- Whether a word is a documented instruction. -/
def isRecognized (w : Word) : Bool :=
  (Instruction.decode? w).isSome

/-- The notation of a word that is shown as data. -/
def dataChars (w : Word) : List Char :=
  'D' :: 'W' :: ' ' :: '0' :: 'x' :: Numeral.hexDigits 4 w.toNat

/-- The assembly notation of a word. -/
def mnemonicChars (w : Word) : List Char :=
  match Instruction.decode? w with
  | some instruction => instruction.mnemonic.chars
  | none => w.dataChars

/-- The assembly notation of a word. -/
def mnemonic (w : Word) : String :=
  String.ofList w.mnemonicChars

end Word

end Cosmac
