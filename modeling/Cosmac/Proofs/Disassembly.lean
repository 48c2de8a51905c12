import Cosmac.Proofs.Instruction.Notation
import Cosmac.Proofs.Recognition

/-!
# What a disassembly tells

Words with the same notation do the same. They are equal or encode the same shift
(`Word.eq_or_isShift_of_mnemonic_eq`), and a shift looks at the registers alone
(`Machine.execute_of_isShift`). So a machine that executes one word in the place of the other ends
its step alike and in the same state, but for the bytes of the word itself
(`notation_determines_step`).
-/

set_option autoImplicit false

namespace Cosmac

/-! ### Words -/

/-- Words with the same notation are equal or encode the same shift. -/
theorem Word.eq_or_isShift_of_mnemonic_eq {a b : Word} (hsame : a.mnemonic = b.mnemonic) :
    a = b ∨ ∃ instruction : Instruction, instruction.isShift = true ∧
      Instruction.decode? a = some instruction ∧ Instruction.decode? b = some instruction := by
  have hchars : a.mnemonicChars = b.mnemonicChars := String.ofList_injective hsame
  have hrecognized : a.isRecognized = b.isRecognized := by
    rw [← Bool.not_inj_iff, Bool.eq_iff_iff, Bool.not_eq_true', Bool.not_eq_true',
      isRecognized_eq_false_iff, isRecognized_eq_false_iff, hsame]
  unfold isRecognized at hrecognized
  cases ha : Instruction.decode? a with
  | none =>
    have hb : Instruction.decode? b = none := by
      rw [ha] at hrecognized
      exact Option.not_isSome_iff_eq_none.mp (Bool.eq_false_iff.mp hrecognized.symm)
    rw [mnemonicChars_of_unknown ha, mnemonicChars_of_unknown hb] at hchars
    exact Or.inl (dataChars_injective hchars)
  | some instruction =>
    obtain ⟨other, hb⟩ : ∃ other, Instruction.decode? b = some other := by
      rw [ha] at hrecognized
      exact Option.isSome_iff_exists.mp hrecognized.symm
    rw [mnemonicChars_of_decode? ha, mnemonicChars_of_decode? hb] at hchars
    obtain rfl : instruction = other := Instruction.mnemonic_injective
      (Mnemonic.eq_of_chars_eq instruction.blank_not_mem_name other.blank_not_mem_name hchars)
    by_cases hshift : instruction.isShift = true
    · exact Or.inr ⟨instruction, hshift, rfl, hb⟩
    · rw [Bool.not_eq_true] at hshift
      exact Or.inl (eq_of_fits hshift (Instruction.fits_of_decode? ha)
        (Instruction.fits_of_decode? hb))

/-! ### Steps -/

/-- Two steps end alike: they execute words and report the same, or nothing distinguishes them. -/
inductive Outcome.EndsLike : Outcome → Outcome → Prop
  | executed {first second : Word} {diagnostic : Option Diagnostic} :
    EndsLike (.executed first diagnostic) (.executed second diagnostic)
  | same {outcome : Outcome} : EndsLike outcome outcome

namespace Machine

variable {m : Machine} {instruction : Instruction}

/-- The word at an address. -/
def wordAt (m : Machine) (address : Int) : Word :=
  .ofBytes (m.read address) (m.read (address + 1))

/-- Stores a word at the program counter. -/
def storeWord (m : Machine) (w : Word) : Machine :=
  (m.write m.pc (UInt8.ofNat (w.toNat / 256))).write (m.pc + 1) w.byte

theorem cell_succ_ne (address : Int) : cell (address + 1) ≠ cell address := by
  intro hcell
  have := congrArg Fin.val hcell
  simp only [cell] at this
  omega

theorem wordAt_storeWord (m : Machine) (w : Word) : (m.storeWord w).wordAt m.pc = w := by
  rw [wordAt, storeWord, read_write, if_neg (cell_succ_ne m.pc).symm, read_write, if_pos rfl,
    read_write, if_pos rfl, Word.ofBytes, Word.byte]
  refine UInt16.toNat_inj.mp ?_
  have := w.toNat_lt
  simp only [UInt8.toNat_ofNat', UInt16.toNat_ofNat']
  omega

theorem fetch_storeWord (m : Machine) (w : Word) : (m.storeWord w).fetch = w :=
  m.wordAt_storeWord w

theorem read_storeWord_of_ne {address : Int} (hhigh : cell address ≠ cell m.pc)
    (hlow : cell address ≠ cell (m.pc + 1)) (w : Word) :
    (m.storeWord w).read address = m.read address := by
  rw [storeWord, read_write, if_neg hlow, read_write, if_neg hhigh]

/-- A shift looks at the registers alone and changes nothing else. -/
theorem execute_of_isShift (hshift : instruction.isShift = true) (m : Machine) :
    ∃ registers, ∀ memory, { m with memory := memory }.execute instruction =
      .ok ({ m with memory := memory, registers := registers }, m.pc + 2) := by
  cases instruction with
  | shiftRight x =>
    exact ⟨(m.setWithFlag x (m.register x >>> 1) ((m.register x).toNat % 2 = 1)).registers,
      fun _ ↦ rfl⟩
  | shiftLeft x =>
    exact ⟨(m.setWithFlag x (m.register x <<< 1) (128 ≤ (m.register x).toNat)).registers,
      fun _ ↦ rfl⟩
  | _ => cases hshift

/-- All words that encode the same shift do the same to a machine. -/
theorem step_storeWord_of_isShift (hrunning : m.fault = none)
    (hshift : instruction.isShift = true) :
    ∃ registers, ∀ w, Instruction.decode? w = some instruction →
      (m.storeWord w).step = (.executed w none,
        { m with memory := (m.storeWord w).memory, registers := registers }.complete
          (m.pc + 2)) := by
  obtain ⟨registers, hexecute⟩ := execute_of_isShift hshift m
  refine ⟨registers, fun w hw ↦ ?_⟩
  have hfetch : (m.storeWord w).fetch = w := m.fetch_storeWord w
  have hdecode : Instruction.decode? (m.storeWord w).fetch = some instruction := by rwa [hfetch]
  have hstored : (m.storeWord w).execute instruction =
      .ok ({ m with memory := (m.storeWord w).memory, registers := registers }, m.pc + 2) :=
    hexecute (m.storeWord w).memory
  have hstep : (m.storeWord w).step = (.executed (m.storeWord w).fetch none, _) :=
    step_of_execute hrunning hdecode hstored
  rw [hstep, hfetch]

end Machine

/-- Words with the same notation do the same, in every machine that has one or the other at the
program counter. The step ends alike, with the same fault or the same diagnostic, and the machines
after it are equal but for the two bytes of the word, which is still there where the words differ.
The same holds of microcode, whose handlers take the words apart by themselves. -/
theorem notation_determines_step {a b : Word} (hsame : a.mnemonic = b.mnemonic) (m : Machine)
    (heard : List Diagnostic) :
    let first := m.storeWord a
    let second := m.storeWord b
    let done := Microcode.exec Microcode.step (first.cells heard)
    let other := Microcode.exec Microcode.step (second.cells heard)
    (first.fetch = a ∧ second.fetch = b) ∧
    first.step.1.EndsLike second.step.1 ∧
    second.step.2 = { first.step.2 with memory := second.step.2.memory } ∧
    (∀ address, (a ≠ b → Machine.cell address ≠ Machine.cell m.pc ∧
        Machine.cell address ≠ Machine.cell (m.pc + 1)) →
      second.step.2.read address = first.step.2.read address) ∧
    (a ≠ b → first.step.2.wordAt m.pc = a ∧ second.step.2.wordAt m.pc = b) ∧
    done.1.map (fun _ ↦ ()) = other.1.map (fun _ ↦ ()) ∧
    other.2 = { done.2 with memory := other.2.memory } := by
  intro first second done other
  refine ⟨⟨m.fetch_storeWord a, m.fetch_storeWord b⟩, ?_⟩
  have hdone : done = (first.step.1.result, first.step.2.cells (heard ++ first.step.1.diagnostics)) :=
    Microcode.exec_step first heard
  have hother : other =
      (second.step.1.result, second.step.2.cells (heard ++ second.step.1.diagnostics)) :=
    Microcode.exec_step second heard
  rw [hdone, hother]
  by_cases heq : a = b
  · subst heq
    exact ⟨.same, rfl, fun _ _ ↦ rfl, fun hne ↦ absurd rfl hne, rfl, rfl⟩
  obtain heq' | ⟨instruction, hshift, ha, hb⟩ := Word.eq_or_isShift_of_mnemonic_eq hsame
  · exact absurd heq' heq
  have hread (address : Int) (hapart : a ≠ b → Machine.cell address ≠ Machine.cell m.pc ∧
      Machine.cell address ≠ Machine.cell (m.pc + 1)) :
      second.read address = first.read address := by
    obtain ⟨hhigh, hlow⟩ := hapart heq
    rw [Machine.read_storeWord_of_ne hhigh hlow, Machine.read_storeWord_of_ne hhigh hlow]
  cases hfault : m.fault with
  | some fault =>
    rw [show first.step = (.refused fault, first) from Machine.step_of_halted hfault,
      show second.step = (.refused fault, second) from Machine.step_of_halted hfault]
    exact ⟨.same, rfl, hread, fun _ ↦ ⟨m.wordAt_storeWord a, m.wordAt_storeWord b⟩, rfl, rfl⟩
  | none =>
    obtain ⟨registers, hstep⟩ := Machine.step_storeWord_of_isShift hfault hshift
    rw [show first.step = _ from hstep a ha, show second.step = _ from hstep b hb]
    exact ⟨.executed, rfl, hread, fun _ ↦ ⟨m.wordAt_storeWord a, m.wordAt_storeWord b⟩, rfl, rfl⟩

/-- Two words for the same shift, which differ in their third digit. -/
theorem notation_determines_step_of_shift :
    let m := Machine.powerOn .empty .screen .idle .silent
    (0x8016 : Word).mnemonic = (0x8026 : Word).mnemonic ∧
      (m.storeWord 0x8016).step.1.EndsLike (m.storeWord 0x8026).step.1 ∧
      (m.storeWord 0x8016).step.2.wordAt m.pc = 0x8016 ∧
      (m.storeWord 0x8026).step.2.wordAt m.pc = 0x8026 := by
  intro m
  have hsame : (0x8016 : Word).mnemonic = (0x8026 : Word).mnemonic := rfl
  obtain ⟨-, hends, -, -, hwords, -⟩ := notation_determines_step hsame m []
  exact ⟨hsame, hends, hwords (by decide)⟩

end Cosmac
