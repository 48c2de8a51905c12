import Cosmac.Proofs.Interleaving
import Cosmac.Proofs.Keypad.Calls

/-!
# What a wait for a key receives

Between the steps of a machine, a host calls its keypad. Steps leave the keypad alone, so it is the
one that the calls alone would give (`Machine.keypad_undergoAll`), and the history of the calls says
which key is due: the one pressed last if it is still held, and otherwise the lowest held key
(`Keypad.IsDueAfter`). A step at a wait receives that key, and it goes on waiting if and only if no
key is held (`key_wait_receives_due_key`).
-/

set_option autoImplicit false

namespace Cosmac

namespace Keypad

/-! ### Keys that are due -/

/-- A key is held, and it is the last one pressed, or that one is not held and no lower key is. -/
def IsDueAfter (calls : List Call) (key : Key) : Prop :=
  IsHeldAfter calls key ∧
    (lastPress? calls = some key ∨
      (∀ last, lastPress? calls = some last → ¬ IsHeldAfter calls last) ∧
        ∀ other, IsHeldAfter calls other → key ≤ other)

instance (calls : List Call) (key : Key) : Decidable (IsDueAfter calls key) :=
  inferInstanceAs (Decidable (_ ∧ _))

/-- A keypad with a held key knows which was pressed last. -/
def KnowsLast (p : Keypad) : Prop :=
  ∀ key, p.isPressed key = true → p.last ≠ none

theorem knowsLast_idle : idle.KnowsLast := by
  intro key hpressed
  rw [isPressed_idle] at hpressed
  cases hpressed

variable {p : Keypad}

/-- No call forgets the last key and leaves one held. -/
theorem KnowsLast.call (hknows : p.KnowsLast) (c : Call) : (p.call c).2.KnowsLast := by
  intro key hpressed
  rw [isPressed_call] at hpressed
  rw [last_call]
  cases c with
  | press value =>
    cases hpress : (Call.press value).pressed? with
    | some named => exact Option.some_ne_none named
    | none =>
      rw [hpress] at hpressed
      split at hpressed
      · cases hpressed
      · exact hknows key hpressed
  | release value =>
    split at hpressed
    · cases hpressed
    · exact hknows key hpressed
  | releaseAll | reset => cases hpressed

theorem KnowsLast.callAll (hknows : p.KnowsLast) (calls : List Call) :
    (p.callAll calls).KnowsLast := by
  induction calls using List.reverseRecOn with
  | nil => exact hknows
  | append_singleton calls c ih =>
    rw [callAll_concat]
    exact ih.call c

/-- The first key in the list of held keys is the lowest held one. -/
theorem head?_pressedKeys_iff {key : Key} :
    p.pressedKeys.head? = some key ↔
      p.isPressed key = true ∧ ∀ other, p.isPressed other = true → key ≤ other := by
  have hsorted := p.pairwise_pressedKeys
  have hmem (other : Key) : other ∈ p.pressedKeys ↔ p.isPressed other = true := mem_pressedKeys
  cases hkeys : p.pressedKeys with
  | nil =>
    rw [hkeys] at hmem
    simp [← hmem]
  | cons lowest others =>
    rw [hkeys] at hsorted hmem
    have hlow : ∀ other ∈ lowest :: others, lowest ≤ other := by
      intro other hother
      obtain rfl | hlater := List.mem_cons.mp hother
      · exact le_refl _
      · exact le_of_lt (List.rel_of_pairwise_cons hsorted hlater)
    rw [List.head?_cons, Option.some_inj]
    simp only [← hmem]
    constructor
    · rintro rfl
      exact ⟨List.mem_cons_self, hlow⟩
    · rintro ⟨hkey, hlowest⟩
      exact le_antisymm (hlow key hkey) (hlowest lowest List.mem_cons_self)

/-- The key that is delivered is the last one if it is held, and otherwise the lowest held one. -/
theorem delivered?_eq_some_iff {key : Key} :
    p.delivered? = some key ↔
      p.isPressed key = true ∧
        (p.last = some key ∨
          (∀ last, p.last = some last → ¬ p.isPressed last = true) ∧
            ∀ other, p.isPressed other = true → key ≤ other) := by
  cases hlast : p.last with
  | none => simp [delivered?, hlast, head?_pressedKeys_iff]
  | some last =>
    by_cases hheld : p.isPressed last = true
    · simp only [delivered?, hlast, hheld, if_true, Option.some_inj]
      constructor
      · rintro rfl
        exact ⟨hheld, .inl rfl⟩
      · rintro ⟨-, hsame | ⟨hreleased, -⟩⟩
        · exact hsame
        · exact absurd hheld (hreleased last rfl)
    · have hdelivered : p.delivered? = p.pressedKeys.head? := by
        simp only [delivered?, hlast, if_neg hheld]
      rw [hdelivered, head?_pressedKeys_iff]
      refine and_congr_right fun hkey ↦ ?_
      constructor
      · intro hlowest
        refine .inr ⟨?_, hlowest⟩
        rintro _ ⟨⟩
        exact hheld
      · rintro (⟨⟨⟩⟩ | ⟨-, hlowest⟩)
        · exact absurd hkey hheld
        · exact hlowest

theorem delivered?_eq_none_iff : p.delivered? = none ↔ ∀ key, ¬ p.isPressed key = true := by
  rw [← Option.not_isSome_iff_eq_none, isSome_delivered?, anyPressed_iff, not_ne_iff,
    List.eq_nil_iff_forall_not_mem]
  simp only [mem_pressedKeys]

theorem delivered?_callAll_iff {calls : List Call} {key : Key} :
    (idle.callAll calls).delivered? = some key ↔ IsDueAfter calls key := by
  rw [delivered?_eq_some_iff, last_callAll, IsDueAfter]
  simp only [isPressed_callAll]

theorem delivered?_callAll_eq_none_iff {calls : List Call} :
    (idle.callAll calls).delivered? = none ↔ ∀ key, ¬ IsHeldAfter calls key := by
  rw [delivered?_eq_none_iff]
  simp only [isPressed_callAll]

end Keypad

/-! ### Histories of a machine -/

theorem Key.ofJson_int (number : Int) : ofJson (.int number) = ofInt number :=
  rfl

/-- What may happen between two moments: a host works with the machine, or with its keypad. -/
inductive Occurrence where
  /-- The host works with the machine or takes a step. -/
  | operation (given : Operation)
  /-- The host calls the keypad. -/
  | call (given : Keypad.Call)

/-- The calls on the keypad among what a host does to a machine. -/
def Operation.calls : Operation → List Keypad.Call
  | .ask (.press number) => [.press (.int number)]
  | .ask (.release number) => [.release (.int number)]
  | .ask .releaseAll => [.releaseAll]
  | .resetKeypad => [.reset]
  | .ask _ | .moveTo _ => []

/-- The calls on the keypad among what happens. -/
def Occurrence.calls : Occurrence → List Keypad.Call
  | operation given => given.calls
  | call given => [given]

namespace Machine

/-- The machine after something has happened. -/
def undergo (m : Machine) : Occurrence → Machine
  | .operation given => m.operate given
  | .call given => { m with keypad := (m.keypad.call given).2 }

/-- The machine after one thing after the other has happened. -/
def undergoAll (m : Machine) (occurrences : List Occurrence) : Machine :=
  occurrences.foldl undergo m

variable {m : Machine}

theorem keypad_run (m : Machine) (count : Nat) : (m.run count).2.keypad = m.keypad := by
  induction count generalizing m with
  | zero => rfl
  | succ count ih =>
    have hstep := m.keypad_step
    rw [run]
    generalize m.step = result at hstep
    obtain ⟨outcome, after⟩ := result
    cases outcome with
    | executed word diagnostic => exact (ih after).trans hstep
    | faulted | refused => exact hstep

theorem keypad_powerOn (program : Program) (screen : Framebuffer) (keypad : Keypad)
    (source : ByteSource) : (powerOn program screen keypad source).keypad = keypad := by
  rw [powerOn]

/-- What a host does to a machine leaves the keypad as the calls in it do. -/
theorem keypad_operate (m : Machine) (operation : Operation) :
    (m.operate operation).keypad = m.keypad.callAll operation.calls := by
  cases operation with
  | ask action =>
    cases action with
    | step => exact m.keypad_step
    | run count => exact m.keypad_run count.toNat
    | press number =>
      have hcall := m.keypad.call_press (.int number)
      rw [Key.ofJson_int] at hcall
      refine .trans ?_ (congrArg Prod.snd hcall).symm
      simp only [operate, perform, onKey]
      cases Key.ofInt number <;> rfl
    | release number =>
      have hcall := m.keypad.call_release (.int number)
      rw [Key.ofJson_int] at hcall
      refine .trans ?_ (congrArg Prod.snd hcall).symm
      simp only [operate, perform, onKey]
      cases Key.ofInt number <;> rfl
    | reset => exact keypad_powerOn m.program m.screen m.keypad m.source
    | load bytes =>
      simp only [operate, perform, load]
      cases Program.ofBytes bytes with
      | ok program => exact keypad_powerOn program m.screen m.keypad m.source
      | error => rfl
    | tick | releaseAll | write | setRegister => rfl
  | resetKeypad | moveTo => rfl

theorem keypad_undergoAll (m : Machine) (occurrences : List Occurrence) :
    (m.undergoAll occurrences).keypad =
      m.keypad.callAll (occurrences.flatMap Occurrence.calls) := by
  induction occurrences generalizing m with
  | nil => rfl
  | cons occurrence rest ih =>
    have hfirst : (m.undergo occurrence).keypad = m.keypad.callAll occurrence.calls := by
      cases occurrence with
      | operation given => exact m.keypad_operate given
      | call given => rfl
    have hrest := ih (m.undergo occurrence)
    rw [hfirst] at hrest
    rw [List.flatMap_cons, Keypad.callAll, List.foldl_append]
    exact hrest

theorem undergoAll_step_cons (m : Machine) (rest : List Occurrence) :
    m.undergoAll (.operation (.ask .step) :: rest) = m.step.2.undergoAll rest :=
  rfl

/-- Calls on the keypad change nothing else. -/
theorem undergoAll_map_call (m : Machine) (calls : List Keypad.Call) :
    m.undergoAll (calls.map .call) = { m with keypad := m.keypad.callAll calls } := by
  induction calls generalizing m with
  | nil => rfl
  | cons c rest ih => exact ih { m with keypad := (m.keypad.call c).2 }

/-! ### Steps at a wait -/

/-- A step at a wait does not complete it. -/
structure Awaits (m after : Machine) : Prop where
  /-- The machine is marked as waiting. -/
  waiting : after.waitingForKey = true
  /-- No register changes. -/
  registers : after.registers = m.registers
  /-- Execution stays where it is. -/
  pc : after.pc = m.pc % 65536
  /-- No instruction is counted. -/
  count : after.instructionCount = m.instructionCount

/-- A step at a wait completes it with a key. -/
structure Receives (m : Machine) (key : Key) (after : Machine) : Prop where
  /-- The machine no longer waits. -/
  waiting : after.waitingForKey = false
  /-- The register of the wait holds the number of the key. -/
  register : (after.register m.fetch.x).toNat = key.val
  /-- No other register changes. -/
  others : ∀ r, r ≠ m.fetch.x → after.register r = m.register r
  /-- Execution goes on with the next word. -/
  pc : after.pc = (m.pc + 2) % 65536
  /-- The instruction is counted. -/
  count : after.instructionCount = m.instructionCount + 1

section Waits

variable (hrunning : m.fault = none) (hword : m.fetch.isKeyWait = true)

include hrunning hword

theorem step_of_undelivered (hkey : m.keypad.delivered? = none) :
    m.step = (.executed m.fetch none, { m with waitingForKey := true }.complete m.pc) := by
  have hdecode : Instruction.decode? m.fetch = some (.waitForKey m.fetch.x) :=
    Instruction.decode?_eq_waitForKey_iff.mpr ⟨hword, rfl⟩
  apply step_of_execute hrunning hdecode
  simp only [execute, hkey]

theorem step_of_delivered {key : Key} (hkey : m.keypad.delivered? = some key) :
    m.step = (.executed m.fetch none,
      ({ m with waitingForKey := false }.setRegister m.fetch.x (UInt8.ofNat key)).complete
        (m.pc + 2)) := by
  have hdecode : Instruction.decode? m.fetch = some (.waitForKey m.fetch.x) :=
    Instruction.decode?_eq_waitForKey_iff.mpr ⟨hword, rfl⟩
  apply step_of_execute hrunning hdecode
  simp only [execute, hkey]

/-- A wait is executed, and it is no unknown word. -/
theorem step_of_isKeyWait : m.step = (.executed m.fetch none, m.step.2) := by
  cases hkey : m.keypad.delivered? with
  | none => rw [step_of_undelivered hrunning hword hkey]
  | some key => rw [step_of_delivered hrunning hword hkey]

/-- Without a key, the step goes on waiting. -/
theorem awaits_step (hkey : m.keypad.delivered? = none) : m.Awaits m.step.2 := by
  rw [step_of_undelivered hrunning hword hkey]
  exact ⟨rfl, rfl, rfl, rfl⟩

/-- With a key, the step receives it. -/
theorem receives_step {key : Key} (hkey : m.keypad.delivered? = some key) :
    m.Receives key m.step.2 := by
  have hbyte : (UInt8.ofNat key.val).toNat = key.val :=
    UInt8.toNat_ofNat_of_lt' (lt_trans key.isLt (by decide))
  have hregister (r : Register) :
      (({ m with waitingForKey := false }.setRegister m.fetch.x (UInt8.ofNat key)).complete
        (m.pc + 2)).register r = if r = m.fetch.x then UInt8.ofNat key else m.register r :=
    register_setRegister _ _ _ _
  rw [step_of_delivered hrunning hword hkey]
  refine ⟨rfl, ?_, fun r hr ↦ ?_, rfl, rfl⟩
  · rw [hregister, if_pos rfl, hbyte]
  · rw [hregister, if_neg hr]

theorem awaits_step_iff : m.Awaits m.step.2 ↔ m.keypad.delivered? = none := by
  refine ⟨fun hawaits ↦ ?_, awaits_step hrunning hword⟩
  cases hkey : m.keypad.delivered? with
  | none => rfl
  | some key =>
    have hreceives := receives_step hrunning hword hkey
    exact absurd (hreceives.waiting.symm.trans hawaits.waiting) Bool.false_ne_true

theorem receives_step_iff {key : Key} :
    m.Receives key m.step.2 ↔ m.keypad.delivered? = some key := by
  refine ⟨fun hreceives ↦ ?_, receives_step hrunning hword⟩
  cases hkey : m.keypad.delivered? with
  | none =>
    have hawaits := awaits_step hrunning hword hkey
    exact absurd (hreceives.waiting.symm.trans hawaits.waiting) Bool.false_ne_true
  | some other =>
    have hother := receives_step hrunning hword hkey
    rw [Fin.ext (hother.register.symm.trans hreceives.register)]

end Waits

end Machine

/-- What a wait for a key receives. Let nothing have been pressed at first, and let a host work with
the machine and call its keypad in any order, also with values that are no keys. In every state with
a held key, the keypad knows which was pressed last. A step at a wait does not complete it if and
only if no key is held, and it receives a key if and only if that is the one due: the one pressed
last since the last reset of the keypad, if it is still held, and otherwise the lowest held key. -/
theorem key_wait_receives_due_key {start : Machine} (hidle : start.keypad = .idle)
    (occurrences : List Occurrence) :
    let m := start.undergoAll occurrences
    let calls := occurrences.flatMap Occurrence.calls
    (∀ key, m.keypad.isPressed key = true ↔ Keypad.IsHeldAfter calls key) ∧
    (∀ key, m.keypad.isPressed key = true → m.keypad.last ≠ none) ∧
    (m.fault = none → m.fetch.isKeyWait = true →
      m.step.1 = .executed m.fetch none ∧
      (m.Awaits m.step.2 ∨ ∃ key, m.Receives key m.step.2) ∧
      (m.Awaits m.step.2 ↔ ∀ key, ¬ Keypad.IsHeldAfter calls key) ∧
      (∀ key, m.Receives key m.step.2 ↔ Keypad.IsDueAfter calls key) ∧
      ∀ heard : List Diagnostic, Microcode.exec Microcode.step (m.cells heard) =
        (.ok m.fetch.toNat, m.step.2.cells heard)) := by
  intro m calls
  have hkeypad : m.keypad = Keypad.idle.callAll calls := by
    rw [start.keypad_undergoAll occurrences, hidle]
  refine ⟨fun key ↦ ?_, ?_, fun hrunning hword ↦ ⟨?_, ?_, ?_, fun key ↦ ?_, fun heard ↦ ?_⟩⟩
  · rw [hkeypad, Keypad.isPressed_callAll]
  · rw [hkeypad]
    exact Keypad.knowsLast_idle.callAll calls
  · exact congrArg Prod.fst (Machine.step_of_isKeyWait hrunning hword)
  · rw [Machine.awaits_step_iff hrunning hword]
    simp only [Machine.receives_step_iff hrunning hword]
    exact Option.eq_none_or_eq_some _
  · rw [Machine.awaits_step_iff hrunning hword, hkeypad, Keypad.delivered?_callAll_eq_none_iff]
  · rw [Machine.receives_step_iff hrunning hword, hkeypad, Keypad.delivered?_callAll_iff]
  · exact Microcode.exec_step_of_known m heard (Machine.step_of_isKeyWait hrunning hword)

/-- A program waits. Two keys are pressed, something else is not, and the last key is released
before the program looks again. -/
theorem key_wait_receives_due_key_of_two :
    let start := Machine.powerOn ⟨#[0xF0, 0x0A], by decide⟩ .screen .idle .silent
    let calls : List Keypad.Call :=
      [.press (.int 3), .press (.int 7), .press (.int 16), .release (.text "7")]
    let m := start.undergoAll (.operation (.ask .step) :: calls.map .call)
    start.keypad = .idle ∧ m.fault = none ∧ m.fetch.isKeyWait = true ∧ m.keypad.last ≠ none ∧
      m.Receives 3 m.step.2 := by
  intro start calls m
  have hidle : start.keypad = .idle := Machine.keypad_powerOn _ _ _ _
  have hstarted : start.fault = none := rfl
  have hfetch : start.fetch = 0xF00A :=
    (Machine.fetch_powerOn ⟨#[0xF0, 0x0A], by decide⟩ .screen .idle .silent).trans (by decide)
  have hstep : start.step.2 = { start with waitingForKey := true, cycleCount := 1 } :=
    Machine.step_powerOn_of_wait _ _ _ (by decide)
  clear_value start
  obtain ⟨keypad, hm⟩ : ∃ keypad,
      m = { start with waitingForKey := true, cycleCount := 1, keypad := keypad } := by
    refine ⟨start.keypad.callAll calls, ?_⟩
    show start.undergoAll (.operation (.ask .step) :: calls.map .call) = _
    rw [Machine.undergoAll_step_cons, Machine.undergoAll_map_call, hstep]
  have hrunning : m.fault = none := by
    rw [hm]
    exact hstarted
  have hword : m.fetch.isKeyWait = true := by
    have hsame : m.fetch = start.fetch := by
      rw [hm]
      rfl
    rw [hsame, hfetch]
    rfl
  obtain ⟨hheld, hknows, hsteps⟩ :=
    key_wait_receives_due_key hidle (.operation (.ask .step) :: calls.map .call)
  obtain ⟨-, -, -, hreceives, -⟩ := hsteps hrunning hword
  refine ⟨hidle, hrunning, hword, ?_, ?_⟩
  · exact hknows 3 ((hheld 3).mpr (by decide +kernel))
  · exact (hreceives 3).mpr (by decide +kernel)

end Cosmac
