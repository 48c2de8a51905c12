import Cosmac.Proofs.Instruction.Decoding

/-!
# The patterns of words

Every documented instruction has a pattern: fixed digits of the word, and fields for its operands.
`Instruction.Fits` says what the pattern of an instruction is, and `decode?_eq_some_iff` that a word
decodes to an instruction exactly if it fits its pattern.
-/

set_option autoImplicit false

namespace Cosmac

/-- Whether a word is of the last family and has the given low byte. -/
def Word.isPeripheral (w : Word) (byte : Nat) : Bool :=
  w.family.val = 0xF && w.byte.toNat = byte

/-- The last digit of the words that combine two registers. -/
def Combination.digit : Combination → Nat
  | copy => 0x0
  | or => 0x1
  | and => 0x2
  | xor => 0x3
  | add => 0x4
  | subtract => 0x5
  | subtractFrom => 0x7

namespace Instruction

/-- Whether a word fits the pattern of an instruction. -/
def Fits (w : Word) : Instruction → Prop
  | clearScreen => w = 0x00E0
  | ret => w = 0x00EE
  | jump target => w.family.val = 0x1 ∧ target = w.address
  | call target => w.family.val = 0x2 ∧ target = w.address
  | skipIfByte x byte => w.family.val = 0x3 ∧ x = w.x ∧ byte = w.byte
  | skipUnlessByte x byte => w.family.val = 0x4 ∧ x = w.x ∧ byte = w.byte
  | skipIfSame x y => w.family.val = 0x5 ∧ w.n.val = 0 ∧ x = w.x ∧ y = w.y
  | setByte x byte => w.family.val = 0x6 ∧ x = w.x ∧ byte = w.byte
  | addByte x byte => w.family.val = 0x7 ∧ x = w.x ∧ byte = w.byte
  | combine operation x y =>
    w.family.val = 0x8 ∧ w.n.val = operation.digit ∧ x = w.x ∧ y = w.y
  | shiftRight x => w.family.val = 0x8 ∧ w.n.val = 0x6 ∧ x = w.x
  | shiftLeft x => w.family.val = 0x8 ∧ w.n.val = 0xE ∧ x = w.x
  | skipUnlessSame x y => w.family.val = 0x9 ∧ w.n.val = 0 ∧ x = w.x ∧ y = w.y
  | setIndex target => w.family.val = 0xA ∧ target = w.address
  | jumpOffset target => w.family.val = 0xB ∧ target = w.address
  | random x mask => w.family.val = 0xC ∧ x = w.x ∧ mask = w.byte
  | draw x y rows => w.family.val = 0xD ∧ x = w.x ∧ y = w.y ∧ rows = w.n
  | skipIfPressed x => w.family.val = 0xE ∧ w.byte.toNat = 0x9E ∧ x = w.x
  | skipUnlessPressed x => w.family.val = 0xE ∧ w.byte.toNat = 0xA1 ∧ x = w.x
  | readDelay x => w.isPeripheral 0x07 = true ∧ x = w.x
  | waitForKey x => w.isPeripheral 0x0A = true ∧ x = w.x
  | setDelay x => w.isPeripheral 0x15 = true ∧ x = w.x
  | setSound x => w.isPeripheral 0x18 = true ∧ x = w.x
  | addIndex x => w.isPeripheral 0x1E = true ∧ x = w.x
  | pointToGlyph x => w.isPeripheral 0x29 = true ∧ x = w.x
  | storeDecimal x => w.isPeripheral 0x33 = true ∧ x = w.x
  | storeRegisters x => w.isPeripheral 0x55 = true ∧ x = w.x
  | loadRegisters x => w.isPeripheral 0x65 = true ∧ x = w.x

variable {w : Word} {instruction : Instruction}

theorem fits_of_arithmetic? (hfamily : w.family.val = 0x8)
    (harithmetic : arithmetic? w.x w.y w.n = some instruction) : instruction.Fits w := by
  rw [arithmetic?_eq] at harithmetic
  split_ifs at harithmetic <;> cases harithmetic <;>
    simp only [Fits, Combination.digit, hfamily, and_true, true_and] <;> omega

theorem fits_of_peripheral? (hfamily : w.family.val = 0xF)
    (hperipheral : peripheral? w.x w.byte = some instruction) : instruction.Fits w := by
  rw [peripheral?_eq] at hperipheral
  split_ifs at hperipheral <;> cases hperipheral <;>
    simp only [Fits, Word.isPeripheral, hfamily, decide_true, Bool.true_and, decide_eq_true_iff,
      and_true] <;> omega

theorem fits_of_decode? (hdecode : decode? w = some instruction) : instruction.Fits w := by
  have hfamilies := w.family.isLt
  simp only [decode?] at hdecode
  split at hdecode
  case h_1 => split_ifs at hdecode <;> cases hdecode <;> assumption
  case h_6 hfamily | h_10 hfamily =>
    split_ifs at hdecode with hlast
    cases hdecode
    exact ⟨hfamily, congrArg Fin.val hlast, rfl, rfl⟩
  case h_9 hfamily => exact fits_of_arithmetic? hfamily hdecode
  case h_15 hfamily => split at hdecode <;> cases hdecode <;> exact ⟨hfamily, ‹_›, rfl⟩
  case h_16 => exact fits_of_peripheral? (by grind) hdecode
  all_goals
    cases hdecode
    simp only [Fits, and_true]
    assumption

theorem decode?_of_fits (hfits : instruction.Fits w) : decode? w = some instruction := by
  cases instruction
  case clearScreen | ret =>
    obtain rfl : w = _ := hfits
    rfl
  case combine operation x y =>
    obtain ⟨hfamily, hlast, rfl, rfl⟩ := hfits
    cases operation <;>
      simp only [decode?, arithmetic?_eq, hfamily, hlast, Combination.digit] <;> rfl
  case shiftRight | shiftLeft =>
    obtain ⟨hfamily, hlast, rfl⟩ := hfits
    simp only [decode?, arithmetic?_eq, hfamily, hlast]
    rfl
  case skipIfSame | skipUnlessSame =>
    obtain ⟨hfamily, hlast, rfl, rfl⟩ := hfits
    simp only [decode?, hfamily, if_pos (Fin.ext hlast : w.n = 0)]
  case skipIfPressed | skipUnlessPressed =>
    obtain ⟨hfamily, hbyte, rfl⟩ := hfits
    simp only [decode?, hfamily, hbyte]
  case readDelay | waitForKey | setDelay | setSound | addIndex | pointToGlyph | storeDecimal |
      storeRegisters | loadRegisters =>
    obtain ⟨hword, rfl⟩ := hfits
    obtain ⟨hfamily, hbyte⟩ : w.family.val = 0xF ∧ w.byte.toNat = _ := by
      simpa only [Word.isPeripheral, Bool.and_eq_true, decide_eq_true_iff] using hword
    simp only [decode?, peripheral?, hfamily, hbyte]
  case draw =>
    obtain ⟨hfamily, rfl, rfl, rfl⟩ := hfits
    simp only [decode?, hfamily]
  case skipIfByte | skipUnlessByte | setByte | addByte | random =>
    obtain ⟨hfamily, rfl, rfl⟩ := hfits
    simp only [decode?, hfamily]
  case jump | call | setIndex | jumpOffset =>
    obtain ⟨hfamily, rfl⟩ := hfits
    simp only [decode?, hfamily]

/-- A word decodes to the instruction whose pattern it fits. -/
theorem decode?_eq_some_iff : decode? w = some instruction ↔ instruction.Fits w :=
  ⟨fits_of_decode?, decode?_of_fits⟩

end Instruction

end Cosmac
