import Cosmac.Instruction.Basic
import Mathlib.Tactic.IntervalCases
import Mathlib.Tactic.SplitIfs

/-!
# Decoding

`Instruction.decode?` selects an instruction by the fields of a word. This module relates words to
numbers (`Word.toNat_ofInt`), writes the tables for single families as chains of conditions
(`arithmetic?_eq`, `peripheral?_eq`) and tells which words are calls, returns and waits for a key
(`decode?_eq_call_iff`, `decode?_eq_ret_iff`, `decode?_eq_waitForKey_iff`).
-/

set_option autoImplicit false

namespace Cosmac

/-! ### Words -/

namespace Word

theorem toNat_ofInt (number : Int) : ((ofInt number).toNat : Int) = number % 65536 := by
  have hbound : (number % 65536).toNat < UInt16.size := by
    simp only [UInt16.size]
    omega
  rw [ofInt, UInt16.toNat_ofNat_of_lt' hbound]
  omega

theorem ofInt_toNat (w : Word) : ofInt w.toNat = w := by
  have hword : ((w.toNat : Int) % 65536).toNat = w.toNat := by
    have := w.toNat_lt
    omega
  rw [ofInt, hword, UInt16.ofNat_toNat]

/-- Whether a word waits for a key, whichever register is to receive it. -/
def isKeyWait (w : Word) : Bool :=
  w.family.val = 0xF && w.byte.toNat = 0x0A

end Word

namespace Instruction

/-! ### Tables -/

theorem arithmetic?_eq (x y n : Nibble) :
    arithmetic? x y n =
      if (n.val : Int) = 0x0 then some (.combine .copy x y)
      else if (n.val : Int) = 0x1 then some (.combine .or x y)
      else if (n.val : Int) = 0x2 then some (.combine .and x y)
      else if (n.val : Int) = 0x3 then some (.combine .xor x y)
      else if (n.val : Int) = 0x4 then some (.combine .add x y)
      else if (n.val : Int) = 0x5 then some (.combine .subtract x y)
      else if (n.val : Int) = 0x6 then some (.shiftRight x)
      else if (n.val : Int) = 0x7 then some (.combine .subtractFrom x y)
      else if (n.val : Int) = 0xE then some (.shiftLeft x)
      else none := by
  obtain ⟨number, hnumber⟩ := n
  interval_cases number <;> rfl

theorem peripheral?_eq (x : Register) (byte : UInt8) :
    peripheral? x byte =
      if (byte.toNat : Int) = 0x07 then some (.readDelay x)
      else if (byte.toNat : Int) = 0x0A then some (.waitForKey x)
      else if (byte.toNat : Int) = 0x15 then some (.setDelay x)
      else if (byte.toNat : Int) = 0x18 then some (.setSound x)
      else if (byte.toNat : Int) = 0x1E then some (.addIndex x)
      else if (byte.toNat : Int) = 0x29 then some (.pointToGlyph x)
      else if (byte.toNat : Int) = 0x33 then some (.storeDecimal x)
      else if (byte.toNat : Int) = 0x55 then some (.storeRegisters x)
      else if (byte.toNat : Int) = 0x65 then some (.loadRegisters x)
      else none := by
  unfold peripheral?
  generalize byte.toNat = number
  split
  case h_10 => grind
  all_goals rfl

/-! ### Calls and returns -/

theorem decode?_eq_ret_iff {w : Word} : decode? w = some .ret ↔ w = 0x00EE := by
  constructor
  · intro hret
    simp only [decode?, arithmetic?_eq, peripheral?_eq] at hret
    split at hret <;> grind
  · rintro rfl
    rfl

theorem decode?_eq_call_iff {w : Word} {target : Address} :
    decode? w = some (.call target) ↔ w.family = 2 ∧ target = w.address := by
  constructor
  · intro hcall
    simp only [decode?, arithmetic?_eq, peripheral?_eq] at hcall
    split at hcall <;> grind
  · rintro ⟨hfamily, rfl⟩
    simp only [decode?, hfamily]
    rfl

/-- A word that decodes to no call is not of the family of calls. -/
theorem family_ne_of_decode? {w : Word} (hdecode : ∀ target, decode? w ≠ some (.call target)) :
    w.family ≠ 2 := by
  intro hfamily
  exact hdecode w.address (decode?_eq_call_iff.mpr ⟨hfamily, rfl⟩)

/-- A word that decodes to no return is not the word of returns. -/
theorem ne_of_decode? {w : Word} (hdecode : decode? w ≠ some .ret) : w ≠ 0x00EE := by
  intro hword
  exact hdecode (decode?_eq_ret_iff.mpr hword)

/-! ### Waits -/

theorem peripheral?_eq_waitForKey_iff {x y : Register} {byte : UInt8} :
    peripheral? x byte = some (.waitForKey y) ↔ byte.toNat = 0x0A ∧ y = x := by
  unfold peripheral?
  generalize byte.toNat = number
  split <;> grind

theorem decode?_eq_waitForKey_iff {w : Word} {x : Register} :
    decode? w = some (.waitForKey x) ↔ w.isKeyWait = true ∧ x = w.x := by
  rw [Word.isKeyWait, Bool.and_eq_true, decide_eq_true_iff, decide_eq_true_iff, and_assoc,
    ← peripheral?_eq_waitForKey_iff]
  constructor
  · intro hwait
    simp only [decode?, arithmetic?_eq] at hwait
    split at hwait <;> grind
  · rintro ⟨hfamily, hperipheral⟩
    simp only [decode?, hfamily, hperipheral]

/-- A word that decodes to no wait does not wait. -/
theorem isKeyWait_eq_false_of_decode? {w : Word}
    (hdecode : ∀ x, decode? w ≠ some (.waitForKey x)) : w.isKeyWait = false := by
  by_contra hwait
  rw [Bool.not_eq_false] at hwait
  exact hdecode w.x (decode?_eq_waitForKey_iff.mpr ⟨hwait, rfl⟩)

end Instruction

end Cosmac
