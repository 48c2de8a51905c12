import Cosmac.Proofs.Microcode.Simulation
import Cosmac.Proofs.Nesting

/-!
# Everything stays in range

`Microcode.Cells.InRange` is the invariant of microcode: every cell holds a number of its range. It
holds after every sequence of actions that starts with a program which fits, and no access of
microcode ever fails on the way (`performAll_inRange`). The depth of the call stack is the number of
calls less the number of returns since the program was started (`History.Sound`), and a step fails
for nothing but the call stack (`result_step`).
-/

set_option autoImplicit false

namespace Cosmac

/-! ### Words -/

/-- The program counter and the index are words. -/
structure Machine.HasWords (m : Machine) : Prop where
  /-- The program counter is a word. -/
  pc : 0 ≤ m.pc ∧ m.pc ≤ 0xFFFF
  /-- The index is a word. -/
  index : 0 ≤ m.index ∧ m.index ≤ 0xFFFF

namespace Machine

theorem HasWords.step {m : Machine} (hwords : m.HasWords) : m.step.2.HasWords := by
  have hpc (after : Machine) (next : Int) :
      0 ≤ (after.complete next).pc ∧ (after.complete next).pc ≤ 0xFFFF := by
    show 0 ≤ next % 65536 ∧ next % 65536 ≤ 0xFFFF
    omega
  generalize hresult : m.step = result
  cases step_cases hresult with
  | refused => exact hwords
  | faulted => exact ⟨hwords.pc, hwords.index⟩
  | reported => exact ⟨hpc _ _, hwords.index⟩
  | completed hrunning hdecode hexecute =>
    refine ⟨hpc _ _, ?_⟩
    cases execute_cases hexecute with
    | called | returned | worked => exact hwords.index
    | pointed hcall hret hindex => exact hindex

theorem HasWords.run (count : Nat) {m : Machine} (hwords : m.HasWords) :
    (m.run count).2.HasWords := by
  induction count generalizing m with
  | zero => exact hwords
  | succ count ih =>
    have hstep := hwords.step
    rw [Machine.run]
    generalize m.step = result at hstep
    obtain ⟨outcome, after⟩ := result
    cases outcome with
    | executed => exact ih hstep
    | faulted | refused => exact hstep

theorem hasWords_powerOn (program : Program) (screen : Framebuffer) (keypad : Keypad)
    (source : ByteSource) : (powerOn program screen keypad source).HasWords := by
  constructor
  · show 0 ≤ (0x200 : Int) ∧ (0x200 : Int) ≤ 0xFFFF
    omega
  · show 0 ≤ (0 : Int) ∧ (0 : Int) ≤ 0xFFFF
    omega

theorem HasWords.perform {m : Machine} (hwords : m.HasWords) (action : HostAction) :
    (m.perform action).2.HasWords := by
  cases action with
  | step => exact hwords.step
  | run count => exact hwords.run count.toNat
  | tick | releaseAll | write | setRegister => exact ⟨hwords.pc, hwords.index⟩
  | press number | release number =>
    simp only [Machine.perform, onKey]
    split <;> exact ⟨hwords.pc, hwords.index⟩
  | reset => exact hasWords_powerOn _ _ _ _
  | load bytes =>
    simp only [Machine.perform, load]
    cases Program.ofBytes bytes with
    | ok program => exact hasWords_powerOn _ _ _ _
    | error => exact hwords

end Machine

/-! ### Histories -/

/-- The invariant of histories: the pointers are words, and the call stack has as many entries as
calls are open. -/
structure History.Sound (h : History) : Prop where
  /-- The program counter and the index are words. -/
  words : h.machine.HasWords
  /-- The calls are the open ones and those that have returned. -/
  depth : h.machine.stack.depth.val + h.returns = h.calls

namespace History

theorem sound_start (program : Program) (screen : Framebuffer) (keypad : Keypad)
    (source : ByteSource) : (start program screen keypad source).Sound :=
  ⟨Machine.hasWords_powerOn program screen keypad source, rfl⟩

/-- A machine whose program was just started has an empty call stack. -/
theorem depth_of_restarts (m : Machine) {action : HostAction} (hrestarts : action.restarts = true) :
    (m.perform action).2.stack.depth.val = 0 := by
  cases action with
  | reset => rfl
  | load bytes =>
    have hfits : bytes.size ≤ maxProgramSize := of_decide_eq_true hrestarts
    simp only [Machine.perform, Machine.load, Program.ofBytes, dif_pos hfits]
    rfl
  | _ => cases hrestarts

theorem Sound.perform {h : History} (hsound : h.Sound) (action : HostAction) :
    (h.perform action).Sound := by
  constructor
  · exact hsound.words.perform action
  · cases hrestarts : action.restarts with
    | true =>
      simp only [History.perform, returns, calls, hrestarts, if_true, List.countP_nil,
        depth_of_restarts h.machine hrestarts]
    | false =>
      have hdepth := hsound.depth
      have hperform := h.machine.depth_perform hrestarts
      simp only [returns, calls] at hdepth
      simp only [History.perform, returns, calls, hrestarts, List.countP_append,
        if_neg Bool.false_ne_true]
      omega

theorem Sound.performAll (actions : List HostAction) :
    ∀ h : History, h.Sound → (h.performAll actions).Sound := by
  induction actions with
  | nil => intro h hsound; exact hsound
  | cons action rest ih => intro h hsound; exact ih _ (hsound.perform action)

end History

namespace Microcode

/-! ### Cells -/

/-- The invariant of microcode: there are as many cells as there should be, and each holds a number
of its range. -/
structure Cells.InRange (c : Cells) : Prop where
  /-- There are 4096 cells of memory. -/
  memory_length : c.memory.length = 4096
  /-- They hold bytes. -/
  memory : ∀ byte ∈ c.memory, 0 ≤ byte ∧ byte ≤ 0xFF
  /-- There are sixteen registers. -/
  registers_length : c.registers.length = 16
  /-- They hold bytes. -/
  registers : ∀ byte ∈ c.registers, 0 ≤ byte ∧ byte ≤ 0xFF
  /-- The delay timer holds a byte. -/
  delay : 0 ≤ c.delay ∧ c.delay ≤ 0xFF
  /-- The sound timer holds a byte. -/
  sound : 0 ≤ c.sound ∧ c.sound ≤ 0xFF
  /-- The program counter is a word. -/
  pc : 0 ≤ c.pc ∧ c.pc ≤ 0xFFFF
  /-- The index is a word. -/
  index : 0 ≤ c.index ∧ c.index ≤ 0xFFFF
  /-- There are sixteen slots. -/
  slots_length : c.slots.length = 16
  /-- They hold words. -/
  slots : ∀ address ∈ c.slots, 0 ≤ address ∧ address ≤ 0xFFFF
  /-- At most all slots are in use. -/
  depth : 0 ≤ c.depth ∧ c.depth ≤ 16

theorem mem_numbers {bytes : List UInt8} {number : Int} (hnumber : number ∈ numbers bytes) :
    0 ≤ number ∧ number ≤ 0xFF := by
  obtain ⟨byte, -, rfl⟩ := List.mem_map.mp hnumber
  have := byte.toNat_lt
  omega

/-- The cells of a machine are in range if its pointers are words. -/
theorem inRange_cells {m : Machine} (hwords : m.HasWords) (heard : List Diagnostic) :
    (m.cells heard).InRange where
  memory_length := by rw [Machine.cells_memory, length_numbers, Vector.length_toList]
  memory byte := mem_numbers
  registers_length := by rw [Machine.cells_registers, length_numbers, Vector.length_toList]
  registers byte := mem_numbers
  delay := by
    have := m.timers.delay.toNat_lt
    rw [Machine.cells_delay]
    omega
  sound := by
    have := m.timers.sound.toNat_lt
    show 0 ≤ (m.timers.sound.toNat : Int) ∧ (m.timers.sound.toNat : Int) ≤ 0xFF
    omega
  pc := hwords.pc
  index := hwords.index
  slots_length := by rw [Machine.cells_slots, List.length_map, Vector.length_toList]
  slots address haddress := by
    obtain ⟨slot, -, rfl⟩ := List.mem_map.mp haddress
    have := slot.toNat_lt
    omega
  depth := by
    have := m.stack.depth.isLt
    rw [Machine.cells_depth]
    omega

/-! ### Results -/

/-- What a step answers: it is refused on a halted machine, it fails on a call with every slot in
use and on a return with none, and otherwise it answers with its word. -/
def Cells.stepResult (c : Cells) (f : Fields) : Except Trap Int :=
  match c.fault with
  | some cause => .error (.halted cause)
  | none =>
    if f.family = 2 ∧ c.depth = 16 then .error (.fault ⟨.full, c.pc, .ofInt f.word⟩)
    else if f.word = 0x00EE ∧ c.depth = 0 then .error (.fault ⟨.empty, c.pc, .ofInt f.word⟩)
    else .ok f.word

theorem isStray_of_result {outcome : Outcome} {trap : Trap}
    (hresult : outcome.result = .error trap) : trap.isStray = false := by
  cases outcome with
  | executed => cases hresult
  | faulted | refused =>
    cases hresult
    rfl

theorem isStray_of_completed (outcomes : List Outcome) {trap : Trap}
    (hcompleted : Outcome.completed outcomes = .error trap) : trap.isStray = false := by
  induction outcomes with
  | nil => cases hcompleted
  | cons outcome rest ih =>
    rw [Outcome.completed] at hcompleted
    cases hresult : outcome.result with
    | error cause =>
      rw [hresult] at hcompleted
      cases hcompleted
      exact isStray_of_result hresult
    | ok word =>
      rw [hresult] at hcompleted
      cases hrest : Outcome.completed rest with
      | error cause =>
        simp only [hrest, Except.bind, Except.map, Except.error.injEq] at hcompleted
        rw [hcompleted] at hrest
        exact ih hrest
      | ok count =>
        simp only [hrest, Except.bind, Except.map, reduceCtorEq] at hcompleted

/-- What an action answers is no stray trap. -/
theorem isStray_of_answer (m : Machine) {action : HostAction} {trap : Trap}
    (hanswer : m.answer action = .error trap) : trap.isStray = false := by
  cases action with
  | step =>
    cases hresult : m.step.1.result with
    | error cause =>
      rw [Machine.answer, hresult] at hanswer
      cases hanswer
      exact isStray_of_result hresult
    | ok word =>
      rw [Machine.answer, hresult] at hanswer
      cases hanswer
  | run count =>
    cases hcompleted : Outcome.completed (m.run count.toNat).1 with
    | error cause =>
      rw [Machine.answer, hcompleted] at hanswer
      cases hanswer
      exact isStray_of_completed _ hcompleted
    | ok taken =>
      rw [Machine.answer, hcompleted] at hanswer
      cases hanswer
  | press | release | load =>
    simp only [Machine.answer] at hanswer
    split at hanswer <;> cases hanswer
    rfl
  | tick | releaseAll | reset | write | setRegister => cases hanswer

/-- A step of a machine fails for nothing but the call stack. -/
theorem result_step (m : Machine) (heard : List Diagnostic) :
    m.step.1.result = (m.cells heard).stepResult (fieldsOf m.fetch) := by
  have hcall : (fieldsOf m.fetch).family = 2 ↔ m.fetch.family = 2 := by
    rw [fieldsOf_family, Fin.ext_iff]
    exact Int.ofNat_inj
  have hret : (fieldsOf m.fetch).word = 0x00EE ↔ m.fetch = 0x00EE := by
    rw [fieldsOf_word, ← UInt16.toNat_inj]
    exact Int.ofNat_inj
  have hfull : (m.cells heard).depth = 16 ↔ m.stack.depth.val = 16 := Int.ofNat_inj
  have hempty : (m.cells heard).depth = 0 ↔ m.stack.depth.val = 0 := Int.ofNat_inj
  simp only [Cells.stepResult, Machine.cells_fault, hcall, hret, hfull, hempty]
  generalize hresult : m.step = result
  cases Machine.step_cases hresult with
  | refused hhalted =>
    rw [hhalted]
    rfl
  | reported hrunning hdecode =>
    have hnoCall := Instruction.family_ne_of_decode? (w := m.fetch) (by rw [hdecode]; nofun)
    have hnoReturn := Instruction.ne_of_decode? (w := m.fetch) (by rw [hdecode]; nofun)
    rw [hrunning]
    simp only [hnoCall, hnoReturn, false_and, if_false]
    rfl
  | completed hrunning hdecode hexecute =>
    have hroom : ¬ (m.fetch.family = 2 ∧ m.stack.depth.val = 16) := by
      rintro ⟨hfamily, hdepth⟩
      rw [Instruction.decode?_eq_call_iff.mpr ⟨hfamily, rfl⟩, Option.some.injEq] at hdecode
      rw [Machine.execute_error_iff.mpr (.inr ⟨⟨_, hdecode.symm⟩, hdepth, rfl⟩)] at hexecute
      cases hexecute
    have hused : ¬ (m.fetch = 0x00EE ∧ m.stack.depth.val = 0) := by
      rintro ⟨hword, hdepth⟩
      rw [Instruction.decode?_eq_ret_iff.mpr hword, Option.some.injEq] at hdecode
      rw [Machine.execute_error_iff.mpr (.inl ⟨hdecode.symm, hdepth, rfl⟩)] at hexecute
      cases hexecute
    rw [hrunning]
    simp only [if_neg hroom, if_neg hused]
    rfl
  | faulted hrunning hdecode hexecute =>
    rw [hrunning]
    simp only [fieldsOf_word, Word.ofInt_toNat, Machine.cells_pc]
    rcases Machine.execute_error_iff.mp hexecute with ⟨rfl, hdepth, rfl⟩ |
      ⟨⟨target, rfl⟩, hdepth, rfl⟩
    · have hnoCall := Instruction.family_ne_of_decode? (w := m.fetch) (by rw [hdecode]; nofun)
      simp only [hnoCall, false_and, if_false]
      rw [if_pos ⟨Instruction.decode?_eq_ret_iff.mp hdecode, hdepth⟩]
      rfl
    · have hfamily := (Instruction.decode?_eq_call_iff.mp hdecode).1
      rw [if_pos ⟨hfamily, hdepth⟩]
      rfl

/-- Actions of microcode end in the cells of the machine after them, and none of them makes an
access that fails. -/
theorem performAll_cells (actions : List HostAction) :
    ∀ h : History,
      (performAll actions (h.machine.cells h.heard)).2 =
        (h.performAll actions).machine.cells (h.performAll actions).heard ∧
      ∀ trap, .error trap ∈ (performAll actions (h.machine.cells h.heard)).1 →
        trap.isStray = false := by
  induction actions with
  | nil =>
    intro h
    constructor
    · rfl
    · intro trap htrap
      cases htrap
  | cons action rest ih =>
    intro h
    obtain ⟨hcells, hrest⟩ := ih (h.perform action)
    have hperform : exec (perform action) (h.machine.cells h.heard) =
        (h.machine.answer action, (h.perform action).machine.cells (h.perform action).heard) :=
      exec_perform h.machine h.heard action
    rw [performAll, hperform]
    constructor
    · exact hcells
    · intro trap htrap
      rcases List.mem_cons.mp htrap with hfirst | hlater
      · exact isStray_of_answer h.machine hfirst.symm
      · exact hrest trap hlater

/-- Microcode stays in range and makes no access that fails, from its first program on. After any
actions, every cell holds a number of its range, the depth of the call stack is the number of calls
less the number of returns since the program was started last, and no access has failed. The next
step answers with its word unless the machine is halted or the call stack is full or empty, and so
does the next step of the machine whose cells these are. -/
theorem performAll_inRange (program : Program) (screen : Framebuffer) (keypad : Keypad)
    (source : ByteSource) (actions : List HostAction) :
    let h := (History.start program screen keypad source).performAll actions
    let result := performAll (.load program.bytes :: actions) (.unloaded screen keypad source)
    let c := result.2
    let f := fieldsOf h.machine.fetch
    c = h.machine.cells h.heard ∧ c.InRange ∧ c.depth = h.calls - h.returns ∧
      (∀ trap, .error trap ∈ result.1 → trap.isStray = false) ∧
      exec fetch c = (.ok f, c) ∧ (exec step c).1 = c.stepResult f ∧
      h.machine.step.1.result = c.stepResult f := by
  intro h result c f
  have hstart : exec (perform (.load program.bytes)) (.unloaded screen keypad source) =
      (.ok (), (Machine.powerOn program screen keypad source).cells []) :=
    exec_load_unloaded program.fits screen keypad source
  have hresult : result =
      (.ok () :: (performAll actions ((Machine.powerOn program screen keypad source).cells [])).1,
        (performAll actions ((Machine.powerOn program screen keypad source).cells [])).2) := by
    simp only [result]
    rw [performAll, hstart]
  obtain ⟨hcells, hstray⟩ := performAll_cells actions (.start program screen keypad source)
  have hc : c = h.machine.cells h.heard := by
    simp only [c, hresult]
    exact hcells
  have hsound : h.Sound :=
    History.Sound.performAll actions _ (History.sound_start program screen keypad source)
  have hstep : h.machine.step.1.result = c.stepResult f := by
    rw [hc]
    exact result_step h.machine h.heard
  refine ⟨hc, ?_, ?_, ?_, ?_, ?_, hstep⟩
  · rw [hc]
    exact inRange_cells hsound.words h.heard
  · have hdepth := hsound.depth
    rw [hc, Machine.cells_depth]
    omega
  · intro trap htrap
    rw [hresult] at htrap
    rcases List.mem_cons.mp htrap with hfirst | hlater
    · cases hfirst
    · exact hstray trap hlater
  · rw [hc, exec_fetch]
  · rw [← hstep, hc, exec_step]

end Microcode

end Cosmac
