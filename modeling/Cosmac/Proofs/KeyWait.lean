import Cosmac.Proofs.Machine.Trail
import Cosmac.Proofs.Range

/-!
# Waiting for a key

A step that executes a wait with no key held is a poll (`Machine.polls`): it marks the machine as
waiting and does not count as an instruction. The mark stays until a wait receives a key, so an
instruction that is executed in another place meanwhile is not counted either
(`Machine.overlooks`). The shortfall of the instructions is the number of these two kinds of steps,
whatever the host does (`counts_completed_unless_overlooked`).

A host that leaves the memory and the program counter to the machine never brings such a place
about: a machine that is marked as waiting stands at a wait (`Machine.WaitsInPlace`), a step without
a key leaves it there, and the shortfall is the number of polls (`key_wait_stays_in_place`).
-/

set_option autoImplicit false

namespace Cosmac

/-! ### Held keys -/

namespace Keypad

variable {p : Keypad}

theorem anyPressed_eq_false_iff : p.anyPressed = false ↔ p.pressedKeys = [] := by
  rw [anyPressed, ← Vector.any_toList, toList_held, pressedKeys, List.filter_eq_nil_iff]
  simp

/-- A key is delivered if some key is held. -/
theorem isSome_delivered? : p.delivered?.isSome = p.anyPressed := by
  cases hkeys : p.pressedKeys with
  | nil =>
    rw [delivered?_of_pressedKeys_nil hkeys, anyPressed_eq_false_iff.mpr hkeys]
    rfl
  | cons lowest others =>
    have hheld : p.anyPressed ≠ false := by
      rw [ne_eq, anyPressed_eq_false_iff, hkeys]
      exact List.cons_ne_nil lowest others
    rw [delivered?_of_pressedKeys_cons hkeys, Bool.eq_true_of_not_eq_false hheld]
    rfl

theorem anyPressed_idle : idle.anyPressed = false :=
  anyPressed_eq_false_iff.mpr (by decide)

end Keypad

namespace Machine

variable {m after : Machine} {instruction : Instruction} {next : Int}

/-! ### Instructions -/

/-- A wait leaves the machine waiting if no key is held. -/
theorem waiting_of_execute_waitForKey {x : Register}
    (hexecute : m.execute (.waitForKey x) = .ok (after, next)) :
    after.waitingForKey = !m.keypad.anyPressed := by
  rw [← Keypad.isSome_delivered?]
  simp only [execute] at hexecute
  split at hexecute <;> rename_i hdelivered <;> cases hexecute <;> rw [hdelivered] <;> rfl

/-- No other instruction touches the mark. -/
theorem waiting_of_execute (hexecute : m.execute instruction = .ok (after, next))
    (hother : ∀ x, instruction ≠ .waitForKey x) : after.waitingForKey = m.waitingForKey := by
  cases instruction
  case waitForKey x => exact absurd rfl (hother x)
  case call | ret =>
    simp only [execute] at hexecute
    split at hexecute <;> cases hexecute
    rfl
  case combine =>
    simp only [execute] at hexecute
    cases hexecute
    rw [combine_eq]
  case storeDecimal | storeRegisters =>
    simp only [execute] at hexecute
    cases hexecute
    rw [writeBlock_eq]
  case loadRegisters =>
    simp only [execute] at hexecute
    cases hexecute
    rw [loadRegisters]
  all_goals
    simp only [execute] at hexecute
    cases hexecute
    rfl

/-- A wait without a key changes the mark at most, and execution stays where it is. -/
theorem execute_waitForKey_of_idle (hidle : m.keypad.anyPressed = false) (x : Register) :
    m.execute (.waitForKey x) = .ok ({ m with waitingForKey := true }, m.pc) := by
  have hnone : m.keypad.delivered? = none := by
    rwa [← Option.not_isSome_iff_eq_none, Keypad.isSome_delivered?, Bool.not_eq_true]
  simp only [execute, hnone]

/-! ### Steps -/

/-- Whether the next step executes a word. -/
def executes (m : Machine) : Bool :=
  m.step.1.isExecuted

/-- Whether the next step executes a wait and finds no key held. -/
def polls (m : Machine) : Bool :=
  m.executes && m.fetch.isKeyWait && !m.keypad.anyPressed

/-- Whether the next step executes something else while the machine is marked as waiting. -/
def overlooks (m : Machine) : Bool :=
  m.executes && !m.fetch.isKeyWait && m.waitingForKey

/-- A step that does not execute a word stores a fault at most. -/
theorem step_of_not_executes (hexecutes : m.executes = false) :
    m.step.2 = { m with fault := m.step.2.fault } := by
  unfold executes at hexecutes
  generalize hresult : m.step = result at hexecutes
  cases step_cases hresult with
  | refused | faulted => rfl
  | reported | completed => cases hexecutes

/-- A machine that executes a word is not halted. -/
theorem fault_eq_none_of_executes (hexecutes : m.executes = true) : m.fault = none := by
  by_contra hhalted
  obtain ⟨fault, hfault⟩ := Option.ne_none_iff_exists'.mp hhalted
  rw [executes, step_of_halted hfault] at hexecutes
  cases hexecutes

theorem executes_of_isKeyWait (hrunning : m.fault = none) (hword : m.fetch.isKeyWait = true) :
    m.executes = true := by
  have hdecode : Instruction.decode? m.fetch = some (.waitForKey m.fetch.x) :=
    Instruction.decode?_eq_waitForKey_iff.mpr ⟨hword, rfl⟩
  cases hexecute : m.execute (.waitForKey m.fetch.x) with
  | ok result =>
    rw [executes, step_of_execute hrunning hdecode hexecute]
    rfl
  | error error =>
    rcases execute_error_iff.mp hexecute with ⟨hret, -⟩ | ⟨⟨target, hcall⟩, -⟩
    · cases hret
    · cases hcall

/-- No step both polls and overlooks the mark. -/
theorem polls_and_overlooks (m : Machine) : (m.polls && m.overlooks) = false := by
  rw [polls, overlooks]
  cases m.fetch.isKeyWait <;> simp

/-- A step leaves the machine waiting if it polls, or if it overlooks that the machine is marked. -/
theorem waiting_step (hexecutes : m.executes = true) :
    m.step.2.waitingForKey = (m.polls || m.overlooks) := by
  rw [polls, overlooks, hexecutes, Bool.true_and, Bool.true_and]
  unfold executes at hexecutes
  generalize hresult : m.step = result at hexecutes
  cases step_cases hresult with
  | refused | faulted => cases hexecutes
  | reported hrunning hdecode =>
    have hword : m.fetch.isKeyWait = false :=
      Instruction.isKeyWait_eq_false_of_decode? (by intro x hx; rw [hdecode] at hx; cases hx)
    rw [hword]
    rfl
  | @completed instruction after next hrunning hdecode hexecute =>
    show after.waitingForKey = _
    cases hword : m.fetch.isKeyWait with
    | true =>
      obtain rfl : instruction = .waitForKey m.fetch.x := by
        rw [Instruction.decode?_eq_waitForKey_iff.mpr ⟨hword, rfl⟩] at hdecode
        exact (Option.some.inj hdecode).symm
      rw [waiting_of_execute_waitForKey hexecute, Bool.true_and, Bool.not_true, Bool.false_and,
        Bool.or_false]
    | false =>
      have hother (x : Register) : instruction ≠ .waitForKey x := by
        rintro rfl
        rw [(Instruction.decode?_eq_waitForKey_iff.mp hdecode).1] at hword
        cases hword
      rw [waiting_of_execute hexecute hother]
      rfl

/-- A machine that is marked as waiting overlooks whatever it executes in place of a wait. -/
theorem overlooks_of_execute (hrunning : m.fault = none) (hwaiting : m.waitingForKey = true)
    (hdecode : Instruction.decode? m.fetch = some instruction)
    (hexecute : m.execute instruction = .ok (after, next))
    (hother : ∀ x, instruction ≠ .waitForKey x) : m.executes = true ∧ m.overlooks = true := by
  have hexecutes : m.executes = true := by
    rw [executes, step_of_execute hrunning hdecode hexecute, Outcome.isExecuted]
  have hword : m.fetch.isKeyWait = false := by
    apply Instruction.isKeyWait_eq_false_of_decode?
    intro x hwait
    exact hother x (Option.some.inj (hdecode.symm.trans hwait))
  rw [overlooks, hexecutes, hword, hwaiting]
  exact ⟨rfl, rfl⟩

/-- A step that executes a word is counted, and its instruction is counted unless the machine is
marked as waiting afterwards. -/
theorem counts_step (hexecutes : m.executes = true) :
    m.step.2.cycleCount = m.cycleCount + 1 ∧
      m.step.2.instructionCount =
        if m.step.2.waitingForKey then m.instructionCount else m.instructionCount + 1 := by
  unfold executes at hexecutes
  generalize hresult : m.step = result at hexecutes
  cases step_cases hresult with
  | refused | faulted => cases hexecutes
  | reported => exact ⟨rfl, rfl⟩
  | @completed instruction after next hrunning hdecode hexecute =>
    obtain ⟨hcycles, hinstructions, -⟩ := records_of_execute hexecute
    show after.cycleCount + 1 = _ ∧ (if after.waitingForKey then after.instructionCount
      else after.instructionCount + 1) = if after.waitingForKey then _ else _
    rw [hcycles, hinstructions]
    exact ⟨rfl, rfl⟩

/-- A poll counts as a step and changes nothing else, except that the machine is marked. -/
theorem step_of_idle (hrunning : m.fault = none) (hpc : 0 ≤ m.pc ∧ m.pc ≤ 0xFFFF)
    (hword : m.fetch.isKeyWait = true) (hidle : m.keypad.anyPressed = false) :
    m.step = (.executed m.fetch none,
      { m with waitingForKey := true, cycleCount := m.cycleCount + 1 }) := by
  have hdecode : Instruction.decode? m.fetch = some (.waitForKey m.fetch.x) :=
    Instruction.decode?_eq_waitForKey_iff.mpr ⟨hword, rfl⟩
  have hstays : m.pc % 65536 = m.pc := by omega
  rw [step_of_execute hrunning hdecode (execute_waitForKey_of_idle hidle m.fetch.x), complete]
  simp only [hstays, if_true]

/-- A program that begins with a wait waits in its first step. -/
theorem step_powerOn_of_wait (program : Program) (screen : Framebuffer) (source : ByteSource)
    (hword : (Word.ofBytes (program.bytes.getD 0 0) (program.bytes.getD 1 0)).isKeyWait = true) :
    (powerOn program screen .idle source).step.2 =
      { powerOn program screen .idle source with waitingForKey := true, cycleCount := 1 } := by
  have hpc : 0 ≤ (powerOn program screen .idle source).pc ∧
      (powerOn program screen .idle source).pc ≤ 0xFFFF :=
    (hasWords_powerOn program screen .idle source).pc
  rw [step_of_idle rfl hpc (by rw [fetch_powerOn, hword]) Keypad.anyPressed_idle]
  rfl

/-- What a step adds to the counts: a word that was executed, and an instruction too unless it was
a poll or overlooked. -/
theorem counts_add_step (m : Machine) :
    m.step.2.cycleCount = m.cycleCount + m.executes.toNat ∧
      m.step.2.instructionCount + m.polls.toNat + m.overlooks.toNat =
        m.instructionCount + m.executes.toNat := by
  cases hexecutes : m.executes with
  | false =>
    rw [polls, overlooks, hexecutes, step_of_not_executes hexecutes]
    exact ⟨rfl, rfl⟩
  | true =>
    obtain ⟨hcycles, hinstructions⟩ := counts_step hexecutes
    refine ⟨hcycles, ?_⟩
    have hexclusive := m.polls_and_overlooks
    rw [hinstructions, waiting_step hexecutes]
    cases hpolls : m.polls <;> cases hoverlooks : m.overlooks <;> simp_all

/-- The next step leaves the machine waiting if and only if it polls, and raises the number of
instructions if and only if it does not. -/
def CountsCompleted (m : Machine) : Prop :=
  (m.step.2.waitingForKey = true ↔ m.polls = true) ∧
    (m.step.2.instructionCount = m.instructionCount + 1 ↔ m.polls = false)

/-- A step counts what it completes unless it overlooks it. -/
theorem countsCompleted_iff (hexecutes : m.executes = true) :
    m.CountsCompleted ↔ m.overlooks = false := by
  have hexclusive := m.polls_and_overlooks
  rw [CountsCompleted, (counts_step hexecutes).2, waiting_step hexecutes]
  cases hpolls : m.polls <;> cases hoverlooks : m.overlooks <;> simp_all

end Machine

/-! ### Trails -/

namespace Trail

variable {t : Trail} {operation : Operation}

/-- The counts of the machine agree with the steps on the trail. -/
structure Counted (t : Trail) : Prop where
  /-- The words that were executed are counted. -/
  cycles : t.machine.cycleCount = t.stops.countP Machine.executes
  /-- They are counted as instructions up to polls and to what was overlooked. -/
  instructions : t.machine.instructionCount + t.stops.countP Machine.polls +
    t.stops.countP Machine.overlooks = t.stops.countP Machine.executes

theorem Counted.step (t : Trail) (hcounted : t.Counted) :
    Counted ⟨t.machine.step.2, t.stops ++ [t.machine]⟩ := by
  obtain ⟨hcycles, hinstructions⟩ := hcounted
  obtain ⟨hcycle, hinstruction⟩ := t.machine.counts_add_step
  have hcount (p : Machine → Bool) :
      (t.stops ++ [t.machine]).countP p = t.stops.countP p + (p t.machine).toNat := by
    rw [List.countP_append, List.countP_singleton]
    cases p t.machine <;> rfl
  constructor
  · show t.machine.step.2.cycleCount = (t.stops ++ [t.machine]).countP Machine.executes
    rw [hcount]
    omega
  · show t.machine.step.2.instructionCount + (t.stops ++ [t.machine]).countP Machine.polls +
      (t.stops ++ [t.machine]).countP Machine.overlooks =
        (t.stops ++ [t.machine]).countP Machine.executes
    rw [hcount, hcount, hcount]
    omega

theorem Counted.operate (hcounted : t.Counted) : (t.operate operation).Counted := by
  generalize hafter : t.operate operation = after
  cases operate_cases hafter with
  | stepped => exact hcounted.step
  | ran => exact run_of_step Counted.step _ hcounted
  | restarted => exact ⟨rfl, rfl⟩
  | altered => exact ⟨hcounted.cycles, hcounted.instructions⟩

theorem Counted.operateAll (operations : List Operation) :
    ∀ t : Trail, t.Counted → (t.operateAll operations).Counted := by
  induction operations with
  | nil => intro t hcounted; exact hcounted
  | cons operation rest ih => intro t hcounted; exact ih _ hcounted.operate

end Trail

/-! ### Waiting in place -/

/-- If the machine is marked as waiting, it stands at a wait and is not halted. -/
structure Machine.WaitsInPlace (m : Machine) : Prop where
  /-- The program counter and the index are words. -/
  words : m.HasWords
  /-- No fault has halted a machine that waits. -/
  running : m.waitingForKey = true → m.fault = none
  /-- A machine that waits stands at a wait. -/
  word : m.waitingForKey = true → m.fetch.isKeyWait = true

namespace Machine.WaitsInPlace

variable {m : Machine}

/-- There is nothing to show of a machine that is not marked as waiting. -/
theorem of_not_waiting (hwords : m.HasWords) (hidle : m.waitingForKey = false) :
    m.WaitsInPlace := by
  refine ⟨hwords, ?_, ?_⟩
  all_goals
    intro hwaiting
    rw [hidle] at hwaiting
    cases hwaiting

variable (hplace : m.WaitsInPlace)

include hplace

theorem overlooks_eq_false : m.overlooks = false := by
  rw [overlooks]
  cases hwaiting : m.waitingForKey with
  | false => exact Bool.and_false _
  | true => rw [hplace.word hwaiting, Bool.not_true, Bool.and_false, Bool.false_and]

theorem step : m.step.2.WaitsInPlace := by
  have hwords : m.step.2.HasWords := hplace.words.step
  cases hexecutes : m.executes with
  | false =>
    have hidle : m.waitingForKey = false := by
      by_contra hwaiting
      rw [Bool.not_eq_false] at hwaiting
      rw [executes_of_isKeyWait (hplace.running hwaiting) (hplace.word hwaiting)] at hexecutes
      cases hexecutes
    have hafter : m.step.2.waitingForKey = false := by rwa [step_of_not_executes hexecutes]
    exact .of_not_waiting hwords hafter
  | true =>
    have hwaits := waiting_step hexecutes
    rw [hplace.overlooks_eq_false, Bool.or_false] at hwaits
    cases hpolls : m.polls with
    | false =>
      rw [hpolls] at hwaits
      exact .of_not_waiting hwords hwaits
    | true =>
      obtain ⟨⟨-, hword⟩, hidle⟩ : (m.executes = true ∧ m.fetch.isKeyWait = true) ∧
          m.keypad.anyPressed = false := by simpa [polls] using hpolls
      have hrunning : m.fault = none := fault_eq_none_of_executes hexecutes
      have hstep := step_of_idle hrunning hplace.words.pc hword hidle
      rw [hstep] at hwords ⊢
      exact ⟨hwords, fun _ ↦ hrunning, fun _ ↦ hword⟩

end Machine.WaitsInPlace

namespace Trail

variable {t : Trail} {operation : Operation}

/-- The machine waits in place, and it did so before every step. -/
structure InPlace (t : Trail) : Prop where
  machine : t.machine.WaitsInPlace
  stops : ∀ stop ∈ t.stops, stop.WaitsInPlace

theorem inPlace_start (program : Program) (screen : Framebuffer) (keypad : Keypad)
    (source : ByteSource) : (start program screen keypad source).InPlace where
  machine := .of_not_waiting (Machine.hasWords_powerOn program screen keypad source) rfl
  stops := List.forall_mem_nil _

theorem InPlace.step (t : Trail) (hplace : t.InPlace) :
    InPlace ⟨t.machine.step.2, t.stops ++ [t.machine]⟩ where
  machine := hplace.machine.step
  stops := by
    intro stop hstop
    rcases List.mem_append.mp hstop with hearlier | hlast
    · exact hplace.stops stop hearlier
    · rw [List.mem_singleton.mp hlast]
      exact hplace.machine

theorem InPlace.operate (hplace : t.InPlace) (horderly : operation.isOrderly = true) :
    (t.operate operation).InPlace := by
  generalize hafter : t.operate operation = after
  cases operate_cases hafter with
  | stepped => exact hplace.step
  | ran => exact run_of_step InPlace.step _ hplace
  | restarted => exact inPlace_start _ _ _ _
  | altered hkept =>
    obtain ⟨rfl, rfl⟩ := hkept horderly
    exact ⟨⟨⟨hplace.machine.words.pc, hplace.machine.words.index⟩, hplace.machine.running,
      hplace.machine.word⟩, hplace.stops⟩

theorem InPlace.operateAll (operations : List Operation) :
    ∀ t : Trail, t.InPlace → (∀ operation ∈ operations, operation.isOrderly = true) →
      (t.operateAll operations).InPlace := by
  induction operations with
  | nil => intro t hplace _; exact hplace
  | cons operation rest ih =>
    intro t hplace horderly
    apply ih _ (hplace.operate (horderly operation List.mem_cons_self))
    intro other hother
    exact horderly other (List.mem_cons_of_mem operation hother)

theorem InPlace.countP_overlooks (hplace : t.InPlace) : t.stops.countP Machine.overlooks = 0 := by
  rw [List.countP_eq_zero]
  intro stop hstop
  rw [(hplace.stops stop hstop).overlooks_eq_false]
  exact Bool.false_ne_true

end Trail

/-! ### Whole runs -/

/-- A wait for a key over whole runs. Let the host leave the memory and the program counter to the
machine. A machine that is marked as waiting is not halted and stands at a wait, and a step with no
key held only counts as a step. The number of steps is that of the words executed since the program
was started last, and it exceeds the number of instructions by the number of polls. -/
theorem key_wait_stays_in_place (program : Program) (screen : Framebuffer) (keypad : Keypad)
    (source : ByteSource) (operations : List Operation)
    (horderly : ∀ operation ∈ operations, operation.isOrderly = true) :
    let t := (Trail.start program screen keypad source).operateAll operations
    let m := t.machine
    (m.waitingForKey = true → m.fault = none ∧ m.fetch.isKeyWait = true ∧
      (m.keypad.anyPressed = false →
        m.step = (.executed m.fetch none, { m with cycleCount := m.cycleCount + 1 }))) ∧
    m.cycleCount = t.stops.countP Machine.executes ∧
    m.cycleCount = m.instructionCount + t.stops.countP Machine.polls := by
  intro t m
  have hplace : t.InPlace :=
    Trail.InPlace.operateAll operations _ (Trail.inPlace_start program screen keypad source)
      horderly
  have hcounted : t.Counted := Trail.Counted.operateAll operations _ ⟨rfl, rfl⟩
  refine ⟨?_, hcounted.cycles, ?_⟩
  · intro hwaiting
    have hrunning : m.fault = none := hplace.machine.running hwaiting
    have hword : m.fetch.isKeyWait = true := hplace.machine.word hwaiting
    refine ⟨hrunning, hword, ?_⟩
    intro hidle
    rw [Machine.step_of_idle hrunning hplace.machine.words.pc hword hidle, ← hwaiting]
  · have hinstructions := hcounted.instructions
    rw [hplace.countP_overlooks, ← hcounted.cycles] at hinstructions
    exact hinstructions.symm

/-- A program that waits at once is stepped and counted down, and goes on waiting. -/
theorem key_wait_stays_in_place_of_wait :
    let operations : List Operation := [.ask .step, .ask .tick]
    let t := (Trail.start ⟨#[0xF0, 0x0A], by decide⟩ .screen .idle .silent).operateAll operations
    let m := t.machine
    (∀ operation ∈ operations, operation.isOrderly = true) ∧ m.waitingForKey = true ∧
      m.fault = none ∧ m.fetch.isKeyWait = true ∧
      m.step = (.executed m.fetch none, { m with cycleCount := m.cycleCount + 1 }) ∧
      m.cycleCount = m.instructionCount + t.stops.countP Machine.polls := by
  intro operations t m
  have horderly : ∀ operation ∈ operations, operation.isOrderly = true := by decide
  obtain ⟨hwaits, -, hcount⟩ :=
    key_wait_stays_in_place ⟨#[0xF0, 0x0A], by decide⟩ .screen .idle .silent operations horderly
  have hstep := Machine.step_powerOn_of_wait ⟨#[0xF0, 0x0A], by decide⟩ .screen .silent (by decide)
  have hlater (start : Machine) :
      ((Trail.mk start []).operateAll operations).machine.waitingForKey =
          start.step.2.waitingForKey ∧
        ((Trail.mk start []).operateAll operations).machine.keypad = start.step.2.keypad :=
    ⟨rfl, rfl⟩
  have hwaiting : m.waitingForKey = true := (hlater _).1.trans (by rw [hstep])
  have hidle : m.keypad.anyPressed = false := by
    rw [show m.keypad = .idle from (hlater _).2.trans (by rw [hstep]; rfl)]
    exact Keypad.anyPressed_idle
  obtain ⟨hrunning, hstands, hpoll⟩ := hwaits hwaiting
  exact ⟨horderly, hwaiting, hrunning, hstands, hpoll hidle, hcount⟩

/-- Whatever the host does, a step that executes a word leaves the machine waiting, and does not
count its instruction, if it polls or if it overlooks that the machine is still marked. So it does
what it should unless it overlooks that. The number of steps exceeds the number of instructions by
the number of polls and the number of instructions that were overlooked. -/
theorem counts_completed_unless_overlooked (program : Program) (screen : Framebuffer)
    (keypad : Keypad) (source : ByteSource) (operations : List Operation) :
    let t := (Trail.start program screen keypad source).operateAll operations
    let m := t.machine
    (m.executes = true →
      m.step.2.waitingForKey = (m.polls || m.overlooks) ∧
      m.step.2.instructionCount =
        (if m.polls || m.overlooks then m.instructionCount else m.instructionCount + 1) ∧
      (m.CountsCompleted ↔ m.overlooks = false)) ∧
    m.cycleCount =
      m.instructionCount + t.stops.countP Machine.polls + t.stops.countP Machine.overlooks := by
  intro t m
  have hcounted : t.Counted := Trail.Counted.operateAll operations _ ⟨rfl, rfl⟩
  constructor
  · intro hexecutes
    have hwaiting := Machine.waiting_step hexecutes
    refine ⟨hwaiting, ?_, Machine.countsCompleted_iff hexecutes⟩
    rw [(Machine.counts_step hexecutes).2, hwaiting]
  · exact hcounted.cycles.trans hcounted.instructions.symm

/-- While a machine waits, the host puts another instruction in the place of the wait. It is
executed and not counted. -/
theorem counts_completed_unless_overlooked_of_write :
    let operations : List Operation := [.ask .step, .ask (.write 0x200 0x60)]
    let t := (Trail.start ⟨#[0xF0, 0x0A], by decide⟩ .screen .idle .silent).operateAll operations
    let m := t.machine
    m.executes = true ∧ m.overlooks = true ∧ ¬ m.CountsCompleted ∧
      m.cycleCount = m.instructionCount + t.stops.countP Machine.polls +
        t.stops.countP Machine.overlooks := by
  intro operations t m
  obtain ⟨hnext, hcount⟩ :=
    counts_completed_unless_overlooked ⟨#[0xF0, 0x0A], by decide⟩ .screen .idle .silent operations
  -- The machine stays a variable while the operations are carried out, or its memory unfolds.
  have hlater (start : Machine) (hpc : start.pc = 0x200)
      (hstep : start.step.2 = { start with waitingForKey := true, cycleCount := 1 }) :
      let later := ((Trail.mk start []).operateAll operations).machine
      later.fault = start.fault ∧ later.waitingForKey = true ∧
        later.fetch = .ofBytes 0x60 (start.read 0x201) := by
    intro later
    have hwritten : later = start.step.2.write 0x200 0x60 := rfl
    rw [hwritten, hstep, Machine.fetch, Machine.read_write, Machine.read_write, Machine.write, hpc]
    exact ⟨rfl, rfl, rfl⟩
  obtain ⟨hrunning, hwaiting, hword⟩ := hlater _ rfl
    (Machine.step_powerOn_of_wait ⟨#[0xF0, 0x0A], by decide⟩ .screen .silent (by decide))
  have hfetch : m.fetch = 0x600A := hword.trans (by rw [Machine.read_powerOn]; decide)
  have hdecode : Instruction.decode? m.fetch = some (.setByte 0 0x0A) := by
    rw [hfetch]
    rfl
  obtain ⟨hexecutes, hoverlooks⟩ : m.executes = true ∧ m.overlooks = true :=
    Machine.overlooks_of_execute hrunning hwaiting hdecode rfl (by intro x hx; cases hx)
  refine ⟨hexecutes, hoverlooks, ?_, hcount⟩
  intro hcompleted
  rw [(hnext hexecutes).2.2.mp hcompleted] at hoverlooks
  cases hoverlooks

/-- A machine that waits is moved to another instruction, which sets a register. The instruction is
executed, yet the machine is still marked as waiting and the instruction is not counted. -/
theorem instruction_overlooked_after_move :
    let start := Machine.powerOn ⟨#[0xF0, 0x0A, 0x60, 0x05], by decide⟩ .screen .idle .silent
    let m := start.operateAll [.ask .step, .moveTo 0x202]
    m.step.1 = .executed 0x6005 none ∧ m.step.2.register 0 = 5 ∧
      m.step.2.waitingForKey = true ∧ m.step.2.instructionCount = m.instructionCount ∧
      ¬ m.CountsCompleted := by
  intro start m
  have hlater (start : Machine)
      (hstep : start.step.2 = { start with waitingForKey := true, cycleCount := 1 }) :
      let later := start.operateAll [.ask .step, .moveTo 0x202]
      later.fault = start.fault ∧ later.waitingForKey = true ∧
        later.fetch = .ofBytes (start.read 0x202) (start.read 0x203) := by
    intro later
    have hmoved : later = { start.step.2 with pc := 0x202 } := rfl
    rw [hmoved, hstep]
    exact ⟨rfl, rfl, rfl⟩
  have hfirst := Machine.step_powerOn_of_wait ⟨#[0xF0, 0x0A, 0x60, 0x05], by decide⟩ .screen
    .silent (by decide)
  obtain ⟨hrunning, hwaiting, hword⟩ := hlater start hfirst
  have hfetch : m.fetch = 0x6005 :=
    hword.trans (by rw [Machine.read_powerOn, Machine.read_powerOn]; decide)
  change m.fault = none at hrunning
  change m.waitingForKey = true at hwaiting
  clear_value m
  have hdecode : Instruction.decode? m.fetch = some (.setByte 0 5) := by
    rw [hfetch]
    rfl
  obtain ⟨hexecutes, hoverlooks⟩ : m.executes = true ∧ m.overlooks = true :=
    Machine.overlooks_of_execute hrunning hwaiting hdecode rfl (by intro x hx; cases hx)
  have hafter := Machine.step_of_execute hrunning hdecode rfl
  have hwaits := Machine.waiting_step hexecutes
  rw [hoverlooks, Bool.or_true] at hwaits
  refine ⟨?_, ?_, hwaits, ?_, ?_⟩
  · rw [hafter, hfetch]
  · rw [hafter]
    exact Vector.getElem_set_self (Fin.isLt _)
  · rw [(Machine.counts_step hexecutes).2, hwaits, if_pos rfl]
  · rw [Machine.countsCompleted_iff hexecutes, hoverlooks]
    exact Bool.noConfusion

end Cosmac
