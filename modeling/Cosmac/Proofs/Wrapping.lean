import Cosmac.Proofs.Machine.Likeness
import Mathlib.Data.List.Forall2

/-!
# Only the low twelve bits of addresses matter

The pointers of a machine have sixteen bits and its memory has twelve. Two machines are the same up
to the high bits of addresses (`Machine.SameLowBits`) if their pointers, the slots in use of their
call stacks and the addresses that they have recorded agree modulo the size of the memory, and all
else is equal. They do the same and stay so (`low_bits_determine_future`); in particular execution
that goes on past the end of the memory, or past the last word, goes on at its start.
-/

set_option autoImplicit false

namespace Cosmac

/-! ### Addresses -/

/-- Words that name the same cell count as the same address, and only a source itself as the same
source. -/
def Likeness.lowBits : Likeness where
  address a b := (0 ≤ a ∧ a ≤ 0xFFFF) ∧ (0 ≤ b ∧ b ≤ 0xFFFF) ∧ a % 4096 = b % 4096
  source s t := s = t
  cell hab := hab.2.2
  word hlow hhigh := ⟨⟨hlow, hhigh⟩, ⟨hlow, hhigh⟩, rfl⟩
  advance distance hab := by omega
  draw hsource := by
    rw [hsource]
    exact ⟨rfl, rfl⟩

namespace Likeness

theorem lowBits_left {a b : Int} (hab : lowBits.address a b) : lowBits.address a a :=
  ⟨hab.1, hab.1, rfl⟩

theorem lowBits_wrap (address : Int) : lowBits.address (address % 65536) (address % 4096) := by
  refine ⟨⟨?_, ?_⟩, ⟨?_, ?_⟩, ?_⟩ <;> omega

end Likeness

/-! ### Machines -/

/-- The same word was unknown, at what counts as the same address. -/
structure Diagnostic.SameLowBits (d e : Diagnostic) : Prop where
  pc : Likeness.lowBits.address d.pc e.pc
  word : d.word = e.word

/-- The same word failed in the same way, at what counts as the same address. -/
structure Fault.SameLowBits (f g : Fault) : Prop where
  error : f.error = g.error
  pc : Likeness.lowBits.address f.pc g.pc
  word : f.word = g.word

/-- Two machines agree up to the high bits of addresses and the slots that are not in use. -/
structure Machine.SameLowBits (m n : Machine) : Prop extends m.Alike .lowBits n where
  cycleCount : m.cycleCount = n.cycleCount
  program : m.program = n.program
  fault : Option.Rel Fault.SameLowBits m.fault n.fault
  diagnostics : List.Forall₂ Diagnostic.SameLowBits m.diagnostics n.diagnostics

/-! ### Records -/

theorem forall₂_left {α : Type} {R : α → α → Prop} (hleft : ∀ {a b : α}, R a b → R a a)
    {xs ys : List α} (hrelated : List.Forall₂ R xs ys) : List.Forall₂ R xs xs := by
  induction hrelated with
  | nil => exact .nil
  | cons hab hrest ih => exact .cons (hleft hab) ih

/-- What is kept of related lists is related. -/
theorem forall₂_keepLast {α : Type} {R : α → α → Prop} (limit : Nat) {xs ys : List α}
    (hrelated : List.Forall₂ R xs ys) : List.Forall₂ R (keepLast limit xs) (keepLast limit ys) := by
  rw [keepLast, keepLast, hrelated.length_eq]
  exact List.forall₂_drop _ hrelated

namespace Machine

variable {m n : Machine}

theorem isBisimulation_sameLowBits : IsBisimulation SameLowBits where
  step := by
    intro m n hsame
    obtain ⟨hkind, hafter⟩ := (isBisimulation_alike .lowBits).step hsame.toAlike
    have hsteps := hsame.toAlike.step_cases
    generalize m.step = first, n.step = second at hkind hafter hsteps
    refine ⟨hkind, ?_⟩
    cases hsteps with
    | refused => exact hsame
    | reported word hrunning hother =>
      have hevent : Diagnostic.SameLowBits ⟨m.pc, word⟩ ⟨n.pc, word⟩ := ⟨hsame.pc, rfl⟩
      have hremembered : List.Forall₂ Diagnostic.SameLowBits (m.diagnostics ++ [⟨m.pc, word⟩])
          (n.diagnostics ++ [⟨n.pc, word⟩]) :=
        List.rel_append hsame.diagnostics (.cons hevent .nil)
      exact {
        toAlike := hafter
        cycleCount := congrArg (· + 1) hsame.cycleCount
        program := hsame.program
        fault := hsame.fault
        diagnostics := forall₂_keepLast diagnosticLimit hremembered }
    | @completed word instruction after other next otherNext hexecute hother halike hnext =>
      obtain ⟨hcycles, -, hprogram, hfault, hdiagnostics⟩ := records_of_execute hexecute
      obtain ⟨hcycles', -, hprogram', hfault', hdiagnostics'⟩ := records_of_execute hother
      exact {
        toAlike := hafter
        cycleCount := by
          show after.cycleCount + 1 = other.cycleCount + 1
          rw [hcycles, hcycles', hsame.cycleCount]
        program := (hprogram.trans hsame.program).trans hprogram'.symm
        fault := by
          show Option.Rel _ after.fault other.fault
          rw [hfault, hfault']
          exact hsame.fault
        diagnostics := by
          show List.Forall₂ _ after.diagnostics other.diagnostics
          rw [hdiagnostics, hdiagnostics']
          exact hsame.diagnostics }
    | faulted word error =>
      exact {
        toAlike := hafter
        cycleCount := hsame.cycleCount
        program := hsame.program
        fault := .some ⟨rfl, hsame.pc, rfl⟩
        diagnostics := hsame.diagnostics }
  timers hsame := hsame.timers
  withTimers timers hsame := { hsame with timers := rfl }
  keypad hsame := hsame.keypad
  withKeypad keypad hsame := { hsame with keypad := rfl }

/-- What is the same as some machine up to the high bits is the same as itself: its addresses are
words. -/
theorem SameLowBits.left (hsame : m.SameLowBits n) : m.SameLowBits m where
  memory := rfl
  registers := rfl
  stack := ⟨rfl, fun place hused ↦ Likeness.lowBits_left (hsame.stack.slots place hused)⟩
  pc := Likeness.lowBits_left hsame.pc
  index := Likeness.lowBits_left hsame.index
  timers := rfl
  screen := rfl
  keypad := rfl
  source := rfl
  instructionCount := rfl
  waitingForKey := rfl
  halted := rfl
  cycleCount := rfl
  program := rfl
  fault := by
    have hfault := hsame.fault
    generalize m.fault = fault, n.fault = other at hfault
    cases hfault with
    | none => exact .none
    | some hfault => exact .some ⟨rfl, Likeness.lowBits_left hfault.pc, rfl⟩
  diagnostics := forall₂_left (fun hevent ↦ ⟨Likeness.lowBits_left hevent.pc, rfl⟩)
    hsame.diagnostics

/-- A program counter that holds the low sixteen bits of an address may as well hold the low
twelve. -/
theorem SameLowBits.wrap (hsame : m.SameLowBits n) {address : Int}
    (hpc : m.pc = address % 65536) : m.SameLowBits { m with pc := address % 4096 } where
  __ := hsame.left
  pc := hpc ▸ Likeness.lowBits_wrap address

end Machine

/-- Only the low twelve bits of addresses matter. Let two machines agree up to the high bits of
addresses. Whatever steps, runs, ticks and keys follow, both machines execute the same words, fail
in the same way at the same steps, report the same words as unknown and sound the same tones, and
they agree up to the high bits afterwards. In particular, where execution goes on at an address that
lies past the end of the memory, or past the last word, it goes on where the address wraps. -/
theorem low_bits_determine_future {m n : Machine} (hsame : m.SameLowBits n)
    (operations : List Operation)
    (hpassive : ∀ operation ∈ operations, operation.isPassive = true) :
    let later := m.operateAll operations
    m.reactions operations = n.reactions operations ∧
    later.SameLowBits (n.operateAll operations) ∧
    ∀ address : Int, later.pc = address % 65536 →
      later.SameLowBits { later with pc := address % 4096 } := by
  intro later
  obtain ⟨hreactions, hafter⟩ :=
    Machine.isBisimulation_sameLowBits.operateAll operations m n hsame hpassive
  exact ⟨hreactions, hafter, fun address hpc ↦ hafter.wrap hpc⟩

/-- One machine runs past the last word and the other past the end of the memory. Their call stacks
hold the same return address up to its high bits, and different addresses in free slots. -/
theorem low_bits_determine_future_of_end :
    let machine := Machine.powerOn .empty .screen .idle .silent
    let m : Machine := { machine with
      pc := 0xFFFE
      index := 0x5004
      stack := ⟨Vector.replicate 16 0x1204, 1⟩ }
    let n : Machine := { machine with
      pc := 0x0FFE
      index := 0x0004
      stack := ⟨(Vector.replicate 16 0).set 0 0x0204, 1⟩ }
    let operations : List Operation := [.ask .step, .ask .tick, .ask (.press 5), .ask .step]
    m.SameLowBits n ∧ m.step.2.pc = 0 ∧ n.step.2.pc = 0x1000 ∧
      m.reactions operations = n.reactions operations ∧
      (m.operateAll operations).SameLowBits (n.operateAll operations) := by
  intro machine m n operations
  have hslots (place : Fin 16) (hused : place.val < 1) :
      Likeness.lowBits.address (m.stack.slots.get place).toNat (n.stack.slots.get place).toNat := by
    obtain rfl : place = 0 := by omega
    exact ⟨by decide, by decide, by decide⟩
  have hsame : m.SameLowBits n := {
    memory := rfl
    registers := rfl
    stack := ⟨rfl, hslots⟩
    pc := ⟨by decide, by decide, rfl⟩
    index := ⟨by decide, by decide, rfl⟩
    timers := rfl
    screen := rfl
    keypad := rfl
    source := rfl
    instructionCount := rfl
    waitingForKey := rfl
    halted := rfl
    cycleCount := rfl
    program := rfl
    fault := .none
    diagnostics := .nil }
  have hm : m.fetch = 0x0000 := by
    show Word.ofBytes (machine.read 0xFFFE) (machine.read 0xFFFF) = 0x0000
    rw [Machine.read_powerOn, Machine.read_powerOn]
    decide
  have hn : n.fetch = 0x0000 := hsame.fetch ▸ hm
  obtain ⟨hreactions, hafter, -⟩ := low_bits_determine_future hsame operations (by decide)
  refine ⟨hsame, ?_, ?_, hreactions, hafter⟩
  · rw [Machine.step_of_unknown rfl (by rw [hm]; rfl)]
    rfl
  · rw [Machine.step_of_unknown rfl (by rw [hn]; rfl)]
    rfl

end Cosmac
