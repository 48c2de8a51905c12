import Cosmac.Proofs.Capture
import Cosmac.Proofs.Frame
import Cosmac.Proofs.Machine.Devices

/-!
# The source of random bytes

A step draws from the source of a machine only if it executes a random word, and then one byte
(`Machine.source_step`), whose bits in the mask of the word it puts into a register
(`Machine.register_step`). So a step with another source does the same but for the source, if the
byte that it draws is the same (`Machine.step_withSource`).
-/

set_option autoImplicit false

namespace Cosmac

/-- Whether a step executed a word that draws a random byte. -/
def Outcome.isRandom : Outcome → Bool
  | executed word _ => word.family.val = 0xC
  | _ => false

namespace ByteSource

/-- Draws in two portions. -/
theorem after_after (source : ByteSource) (first second : Nat) :
    (source.after first).after second = source.after (first + second) := by
  induction second with
  | zero => rfl
  | succ second ih =>
    rw [after, ih]
    rfl

/-- Two sources give the same bytes for a number of draws. -/
def AgreeFor (count : Nat) (source other : ByteSource) : Prop :=
  ∀ number < count, source.byteAt number = other.byteAt number

theorem byteAt_after (source : ByteSource) (draws number : Nat) :
    (source.after draws).byteAt number = source.byteAt (draws + number) := by
  rw [byteAt, after_after, byteAt]

namespace AgreeFor

variable {source other : ByteSource} {first second : Nat}

theorem left (hagree : AgreeFor (first + second) source other) : AgreeFor first source other :=
  fun number hnumber ↦ hagree number (Nat.lt_add_right second hnumber)

/-- Sources that agree still do so after some of the draws. -/
theorem right (hagree : AgreeFor (first + second) source other) :
    AgreeFor second (source.after first) (other.after first) := by
  intro number hnumber
  rw [byteAt_after, byteAt_after]
  exact hagree (first + number) (Nat.add_lt_add_left hnumber first)

end AgreeFor

end ByteSource

/-- Another source changes nothing but the source after a step of a machine. -/
theorem Devices.exists_stepped_withSource (d : Devices) (m : Machine) (source : ByteSource) :
    ∃ later : ByteSource,
      { d with source := source }.stepped m = { d.stepped m with source := later } := by
  unfold stepped
  split
  · exact ⟨source, rfl⟩
  · cases Instruction.decode? m.fetch with
    | none => exact ⟨source, rfl⟩
    | some instruction => cases instruction <;> exact ⟨_, rfl⟩

namespace Machine

variable {m : Machine}

/-- The machine with another source of random bytes. -/
def withSource (m : Machine) (source : ByteSource) : Machine :=
  { m with source := source }

/-! ### Steps -/

/-- Whether the next step draws a random byte. -/
def draws (m : Machine) : Bool :=
  m.step.1.isRandom

/-- A random word draws a byte and puts the bits of it that are in its mask into a register. -/
theorem step_of_random (hrunning : m.fault = none) (hword : m.fetch.family.val = 0xC) :
    m.step = (.executed m.fetch none,
      ({ m with source := m.source.draw.2 }.setRegister m.fetch.x
        (m.source.draw.1 &&& m.fetch.byte)).complete (m.pc + 2)) := by
  have hdecode : Instruction.decode? m.fetch = some (.random m.fetch.x m.fetch.byte) :=
    Instruction.decode?_of_fits ⟨hword, rfl, rfl⟩
  exact step_of_execute hrunning hdecode rfl

theorem draws_iff : m.draws = true ↔ m.fault = none ∧ m.fetch.family.val = 0xC := by
  constructor
  · unfold draws
    generalize hresult : m.step = result
    intro hdraws
    cases step_cases hresult with
    | refused | faulted => cases hdraws
    | reported hrunning | completed hrunning => exact ⟨hrunning, of_decide_eq_true hdraws⟩
  · rintro ⟨hrunning, hword⟩
    rw [draws, step_of_random hrunning hword]
    exact decide_eq_true hword

/-- A step draws one byte from the source if it is to draw, and none otherwise. -/
theorem source_step (m : Machine) : m.step.2.source = m.source.after m.draws.toNat := by
  unfold draws
  generalize hresult : m.step = result
  obtain ⟨outcome, after⟩ := result
  cases outcome with
  | executed word diagnostic =>
    have hsource := (frame_of_step hresult).2.source
    show after.source = m.source.after (decide (word.family.val = 0xC)).toNat
    rw [hsource]
    by_cases hword : word.family.val = 0xC
    · rw [if_pos hword, decide_eq_true hword]
      rfl
    · rw [if_neg hword, decide_eq_false hword]
      rfl
  | faulted | refused =>
    cases step_cases hresult
    rfl

theorem register_step (hdraws : m.draws = true) :
    m.step.2.register m.fetch.x = m.source.draw.1 &&& m.fetch.byte := by
  obtain ⟨hrunning, hword⟩ := draws_iff.mp hdraws
  rw [step_of_random hrunning hword]
  exact (register_setRegister _ _ _ _).trans (if_pos rfl)

/-- A step with another source does the same but for the source, if the byte is the same that it may
draw. -/
theorem exists_step_withSource {source : ByteSource}
    (hbyte : m.draws = true → source.draw.1 = m.source.draw.1) :
    ∃ later : ByteSource, (m.withSource source).step = (m.step.1, m.step.2.withSource later) := by
  obtain hrunning | ⟨fault, hhalted⟩ := Option.eq_none_or_eq_some m.fault
  · have hsuit (instruction : Instruction)
        (hdecode : Instruction.decode? m.fetch = some instruction) :
        { m.devices with source := source }.SuitFor m instruction := by
      refine ⟨fun _ ↦ rfl, fun _ ↦ rfl, fun hrandom ↦ hbyte (draws_iff.mpr ⟨hrunning, ?_⟩)⟩
      cases instruction with
      | random => exact (Instruction.fits_of_decode? hdecode).1
      | _ => cases hrandom
    obtain ⟨later, hlater⟩ := m.devices.exists_stepped_withSource m source
    have hstep := step_withDevices hsuit
    rw [hlater, ← devices_step] at hstep
    exact ⟨later, hstep⟩
  · have hhalted' : (m.withSource source).fault = some fault := hhalted
    exact ⟨source, by rw [step_of_halted hhalted', step_of_halted hhalted]⟩

/-- The other source is then as many draws ahead as the step draws bytes. -/
theorem step_withSource {source : ByteSource}
    (hagree : ByteSource.AgreeFor m.draws.toNat source m.source) :
    (m.withSource source).step = (m.step.1, m.step.2.withSource (source.after m.draws.toNat)) := by
  have hbyte (hdraws : m.draws = true) : source.draw.1 = m.source.draw.1 :=
    hagree 0 (by rw [hdraws]; decide)
  obtain ⟨later, hstep⟩ := exists_step_withSource hbyte
  have hdraws : (m.withSource source).draws = m.draws :=
    congrArg (fun result ↦ result.1.isRandom) hstep
  -- The law for the machine with the other source tells what becomes of it.
  have hlater : (m.withSource source).step.2.source = source.after m.draws.toNat := by
    rw [source_step, hdraws]
    rfl
  rw [hstep] at hlater
  rw [hstep, show later = source.after m.draws.toNat from hlater]

end Machine

end Cosmac
