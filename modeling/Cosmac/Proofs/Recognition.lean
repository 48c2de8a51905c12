import Cosmac.Machine.Listener
import Cosmac.Proofs.Microcode.Simulation

/-!
# Unknown words

A word is reported as unknown by a step exactly when the disassembler shows it as data:
`isRecognized_eq_false_iff` relates recognition to the notation of a word, `step_of_unrecognized`
says all that a step does to a machine when it meets such a word, and `step_of_recognized` that
every other word leaves the diagnostics alone. `reports_iff_unrecognized` puts these together for a
machine with its listeners, and says the same of microcode, whose handlers find out by themselves
which words they do not know.
-/

set_option autoImplicit false

namespace Cosmac

/-! ### Notation -/

/-- A mnemonic begins with its name. -/
theorem Mnemonic.name_prefix_chars (mnemonic : Mnemonic) :
    mnemonic.name.toList <+: mnemonic.chars := by
  rw [Mnemonic.chars]
  split_ifs
  · exact List.prefix_refl _
  · exact List.prefix_append _ _

/-- No instruction has a name that begins like data. -/
theorem Instruction.take_name (instruction : Instruction) :
    instruction.mnemonic.name.toList.take 2 ≠ "DW".toList ∧
      2 ≤ instruction.mnemonic.name.toList.length := by
  cases instruction
  case combine operation x y =>
    cases operation <;> simp only [mnemonic, Combination.name] <;> decide
  all_goals
    simp only [mnemonic]
    decide

/-- The words that are not recognized are those that are shown as data. -/
theorem Word.isRecognized_eq_false_iff (w : Word) :
    w.isRecognized = false ↔ "DW".toList <+: w.mnemonic.toList := by
  have hchars : w.mnemonic.toList = w.mnemonicChars := String.toList_ofList
  rw [hchars, Word.mnemonicChars, Word.isRecognized]
  cases Instruction.decode? w with
  | none =>
    have hdata : "DW".toList = ['D', 'W'] := rfl
    apply iff_of_true rfl
    rw [hdata]
    exact List.prefix_append ['D', 'W'] _
  | some instruction =>
    obtain ⟨hname, hlength⟩ := instruction.take_name
    apply iff_of_false Bool.false_ne_true.symm
    intro hdata
    apply hname
    obtain ⟨operands, hoperands⟩ := instruction.mnemonic.name_prefix_chars
    have htake : "DW".toList = instruction.mnemonic.chars.take 2 :=
      List.prefix_iff_eq_take.mp hdata
    rw [← hoperands, List.take_append_of_le_length hlength] at htake
    exact htake.symm

/-! ### Steps -/

namespace Machine

variable {m : Machine}

/-- A word that is not recognized is remembered and passed over. -/
theorem step_of_unrecognized (hrunning : m.fault = none) (hawake : m.waitingForKey = false)
    (hword : m.fetch.isRecognized = false) :
    m.step = (.executed m.fetch (some ⟨m.pc, m.fetch⟩), { m with
      diagnostics := keepLast diagnosticLimit (m.diagnostics ++ [⟨m.pc, m.fetch⟩])
      pc := (m.pc + 2) % 65536
      cycleCount := m.cycleCount + 1
      instructionCount := m.instructionCount + 1 }) := by
  have hdecode : Instruction.decode? m.fetch = none := by
    rw [Word.isRecognized, Option.isSome_eq_false_iff, Option.isNone_iff_eq_none] at hword
    exact hword
  rw [step_of_unknown hrunning hdecode]
  simp only [complete, report, hawake, Bool.false_eq_true, if_false]

/-- Every other word leaves the diagnostics alone, whatever comes of it. -/
theorem step_of_recognized (hword : m.fetch.isRecognized = true) :
    m.step.1.diagnostics = [] ∧ m.step.2.diagnostics = m.diagnostics := by
  generalize hresult : m.step = result
  cases step_cases hresult with
  | refused | faulted => exact ⟨rfl, rfl⟩
  | reported hrunning hdecode =>
    rw [Word.isRecognized, hdecode] at hword
    cases hword
  | completed hrunning hdecode hexecute =>
    refine ⟨rfl, ?_⟩
    cases execute_cases hexecute <;> rfl

end Machine

/-! ### Listeners -/

/-- A listener that never takes back a registration changes nothing. -/
def Listener.observes (listener : Listener) : Bool :=
  !listener.once

namespace Monitored

/-- Observing listeners are all called, in order, and change nothing. -/
theorem deliverTo_of_observes (listeners : List Listener) (m : Monitored)
    (hobserve : ∀ listener ∈ listeners, listener.observes = true) :
    deliverTo react listeners m = ⟨listeners, m, true⟩ := by
  induction listeners with
  | nil => rfl
  | cons listener rest ih =>
    have honce : listener.once = false := by
      simpa [Listener.observes] using hobserve listener List.mem_cons_self
    have hreact : react listener m = some m := by
      rw [react, honce]
      rfl
    rw [deliverTo, hreact]
    simp only
    rw [ih fun other hother ↦ hobserve other (List.mem_cons_of_mem listener hother)]

/-- A step of a machine that reports nothing calls no listener. -/
theorem step_of_no_diagnostic {m : Monitored} (hsilent : m.machine.step.1.diagnostics = []) :
    m.step = (.ok m.machine.step.1, [], { m with machine := m.machine.step.2 }) := by
  rw [step]
  generalize m.machine.step = result at hsilent
  obtain ⟨outcome, after⟩ := result
  cases outcome with
  | executed word diagnostic =>
    cases diagnostic with
    | none => rfl
    | some event => cases hsilent
  | faulted | refused => rfl

end Monitored

/-- What a machine and its listeners make of the word at the program counter. Let the machine be
neither halted nor waiting for a key, and let the listeners only observe. A word that the
disassembler does not recognize, and shows as data, is reported once to every listener and
remembered, the program counter moves to the next word, the counters count the step, and nothing
else changes, in the machine as in microcode. Of any other word nothing is reported, and the
diagnostics stay as they are. -/
theorem reports_iff_unrecognized {m : Monitored} (hrunning : m.machine.fault = none)
    (hawake : m.machine.waitingForKey = false)
    (hobserve : ∀ listener ∈ m.forDiagnostics, listener.observes = true)
    (heard : List Diagnostic) :
    let w := m.machine.fetch
    let event : Diagnostic := ⟨m.machine.pc, w⟩
    let c := m.machine.cells heard
    (w.isRecognized = false ↔ "DW".toList <+: w.mnemonic.toList) ∧
    (w.isRecognized = false →
      m.step = (.ok (.executed w (some event)), m.forDiagnostics.map (⟨·, .diagnostic event⟩),
        { m with machine := { m.machine with
          diagnostics := keepLast diagnosticLimit (m.machine.diagnostics ++ [event])
          pc := (m.machine.pc + 2) % 65536
          cycleCount := m.machine.cycleCount + 1
          instructionCount := m.machine.instructionCount + 1 } }) ∧
      Microcode.exec Microcode.step c = (.ok w.toNat, { c with
        diagnostics := keepLast diagnosticLimit (c.diagnostics ++ [event])
        heard := heard ++ [event]
        pc := (c.pc + 2) % 65536
        cycles := c.cycles + 1
        instructions := c.instructions + 1 })) ∧
    (w.isRecognized = true →
      (∃ outcome : Outcome, m.step.1 = .ok outcome ∧ outcome.diagnostics = []) ∧
      m.step.2.1 = [] ∧ m.step.2.2.machine.diagnostics = m.machine.diagnostics ∧
      (Microcode.exec Microcode.step c).2.heard = heard ∧
      (Microcode.exec Microcode.step c).2.diagnostics = c.diagnostics) := by
  intro w event c
  refine ⟨w.isRecognized_eq_false_iff, ?_, ?_⟩
  · intro hword
    have hstep := Machine.step_of_unrecognized hrunning hawake hword
    constructor
    · rw [Monitored.step, hstep]
      simp only [Monitored.deliver, Monitored.registrations,
        Monitored.deliverTo_of_observes _ _ hobserve]
      rfl
    · rw [Microcode.exec_step, hstep]
      rfl
  · intro hword
    obtain ⟨hsilent, hdiagnostics⟩ := Machine.step_of_recognized hword
    rw [Monitored.step_of_no_diagnostic hsilent, Microcode.exec_step, hsilent, List.append_nil]
    exact ⟨⟨_, rfl, hsilent⟩, rfl, hdiagnostics, rfl, hdiagnostics⟩

/-- A comparison of two registers whose last digit is not zero is no instruction. -/
theorem reports_iff_unrecognized_of_comparison :
    let machine := Machine.powerOn ⟨#[0x51, 0x21], by decide⟩ .screen .idle .silent
    let log : Listener := ⟨"log", false, .diagnostic⟩
    machine.fetch.isRecognized = false ∧
      (Monitored.mk machine [log] []).step.2.1 = [⟨log, .diagnostic ⟨0x200, 0x5121⟩⟩] := by
  intro machine log
  have hfetch : machine.fetch = 0x5121 := by
    rw [Machine.fetch, Machine.read_powerOn, Machine.read_powerOn]
    decide
  have hword : machine.fetch.isRecognized = false := by rw [hfetch]; rfl
  have hrunning : machine.fault = none := rfl
  have hawake : machine.waitingForKey = false := rfl
  have hobserve : ∀ listener ∈ [log], listener.observes = true := by decide
  obtain ⟨-, hunrecognized, -⟩ :=
    reports_iff_unrecognized (m := ⟨machine, [log], []⟩) hrunning hawake hobserve []
  refine ⟨hword, ?_⟩
  rw [(hunrecognized hword).1, hfetch]
  rfl

end Cosmac
