import Cosmac.Proofs.Framebuffer.Blit
import Cosmac.Proofs.Machine.Trail
import Cosmac.Service.Basic

/-!
# The demonstration

The program that a service runs when it has no other waits for a key and shows its glyph in the
upper left corner of the screen, again and again. `Stage` says what holds before each of its seven
instructions; every step leads from one stage to the next (`Stage.execute`), and whatever else a
host does with the keys, the timers and the reset, the program stays sound (`Sound.operateAll`).
While it waits, the screen shows the key that it has received last (`shows_last_key`).
-/

set_option autoImplicit false

namespace Cosmac

/-! ### Controls -/

/-- Whether an operation takes steps, counts the timers down, works with the keypad or resets. -/
def Operation.isControl : Operation → Bool
  | ask (.load _) | ask (.write _ _) | ask (.setRegister _ _) | moveTo _ => false
  | ask _ | resetKeypad => true

/-- The key that the next instruction of a machine delivers to the program, if it is a wait for a
key and ends. -/
def Machine.received? (m : Machine) : Option Key :=
  match Instruction.decode? m.fetch with
  | some (.waitForKey _) => m.keypad.delivered?
  | _ => none

/-- The key that has been delivered last since the program was started. -/
def Trail.lastReceived? (t : Trail) : Option Key :=
  (t.stops.filterMap Machine.received?).getLast?

theorem Trail.lastReceived?_step (t : Trail) (after : Machine) :
    lastReceived? ⟨after, t.stops ++ [t.machine]⟩ =
      t.machine.received?.or t.lastReceived? := by
  have hlater : ([t.machine].filterMap Machine.received?).getLast? = t.machine.received? := by
    rw [List.filterMap_cons]
    cases t.machine.received? <;> rfl
  rw [lastReceived?, List.filterMap_append, List.getLast?_append, hlater]
  rfl

/-! ### Glyphs -/

theorem Font.length_glyph (digit : Nibble) : (glyph digit).length = height := by
  revert digit
  decide

namespace Machine

variable {m : Machine} {program : Program}

/-- While nothing has been written to the memory, the font is read from its bottom. -/
theorem read_font (hmemory : m.memory = initialMemory program) {offset : Nat}
    (hoffset : offset < programStart) : m.read offset = Font.bytes.getD offset 0 := by
  have hcell : (cell offset).val = offset := by
    simp only [cell, programStart] at hoffset ⊢
    omega
  have hread := read_powerOn program .screen .idle .silent offset
  rw [hcell, if_pos hoffset] at hread
  rw [← hread, read, hmemory]
  rfl

/-- The glyph of a digit stands at its address. -/
theorem readBlock_glyph (hmemory : m.memory = initialMemory program) (digit : Nibble) :
    m.readBlock (Font.addressOf digit) Font.height = Font.glyph digit := by
  have hread (count first : Nat) (hfits : first + count ≤ programStart) :
      m.readBlock first count = (List.range' first count).map (Font.bytes.getD · 0) := by
    induction count generalizing first with
    | zero => rfl
    | succ count ih =>
      have hnext : (first : Int) + 1 = (first + 1 : Nat) := rfl
      rw [readBlock, hnext, ih (first + 1) (by omega), read_font hmemory (by omega)]
      rfl
  have haddress : Font.addressOf digit = (Font.height * digit : Nat) := by
    simp [Font.addressOf]
  have hfits : Font.height * digit + Font.height ≤ programStart := by
    simp only [Font.height, programStart]
    omega
  rw [haddress, hread _ _ hfits]
  revert digit
  decide

/-- A register that holds the number of a key names the key. -/
theorem namedKey_of_register {x : Register} {key : Key} (hkey : m.register x = UInt8.ofNat key) :
    m.namedKey x = key := by
  ext
  show (m.register x).toNat % 16 = key.val
  rw [hkey, UInt8.toNat_ofNat']
  omega

end Machine

namespace Demonstration

/-! ### The program -/

theorem fits : Service.demonstration.size ≤ maxProgramSize := by
  decide

/-- The program. -/
def program : Program :=
  ⟨Service.demonstration, fits⟩

/-- The memory is as it was loaded, and the screen has its usual size. -/
structure IsIntact (m : Machine) : Prop where
  /-- The memory holds the program and the font. -/
  memory : m.memory = Machine.initialMemory program
  /-- The screen has 64 columns. -/
  width : m.screen.width = 64
  /-- It has 32 rows. -/
  height : m.screen.height = 32

variable {m after : Machine} {key : Key} {last : Option Key} {place : Nat}

theorem IsIntact.decode (hintact : IsIntact m) (hpc : m.pc = 0x200 + 2 * place)
    (hplace : place < 7) :
    Instruction.decode? m.fetch = Instruction.decode? (.ofBytes
      (Service.demonstration.getD (2 * place) 0) (Service.demonstration.getD (2 * place + 1) 0)) := by
  have hstart : m.pc = (programStart + 2 * place : Nat) := by
    rw [hpc, programStart]
    omega
  have hfits : 2 * place + 1 < maxProgramSize := by
    simp only [maxProgramSize, memorySize, programStart]
    omega
  rw [Machine.fetch_initialMemory hintact.memory hstart hfits]
  rfl

theorem IsIntact.congr (hintact : IsIntact m) (hmemory : after.memory = m.memory)
    (hwidth : after.screen.width = m.screen.width)
    (hheight : after.screen.height = m.screen.height) : IsIntact after :=
  ⟨hmemory.trans hintact.memory, hwidth.trans hintact.width, hheight.trans hintact.height⟩

/-- Only the second instruction is a wait. -/
theorem IsIntact.received? (hintact : IsIntact m) (hpc : m.pc = 0x200 + 2 * place)
    (hplace : place < 7) :
    m.received? = if place = 1 then m.keypad.delivered? else none := by
  rw [Machine.received?, hintact.decode hpc hplace]
  interval_cases place <;> rfl

/-! ### Stages -/

/-- The first register holds a key, and the screen shows its glyph and nothing else. -/
structure ShowsKey (m : Machine) (key : Key) : Prop where
  /-- The first register holds the key. -/
  register : m.register 0 = UInt8.ofNat key
  /-- The glyph is in the upper left corner, and every other pixel is dark. -/
  pixel (column row : Nat) (hcolumn : column < 64) (hrow : row < 32) :
    m.screen.pixel column row = (Font.glyph key).isSet column row

/-- What a machine shows: nothing before a key has been received, and then the key. -/
def Shows (m : Machine) : Option Key → Prop
  | none => ∀ x y, m.screen.pixel x y = false
  | some key => ShowsKey m key

/-- What is shown depends on the registers and the screen. -/
theorem Shows.congr (hshows : Shows m last) (hregisters : after.registers = m.registers)
    (hscreen : after.screen = m.screen) : Shows after last := by
  cases last with
  | none =>
    intro x y
    rw [hscreen]
    exact hshows x y
  | some key =>
    refine ⟨?_, fun column row hcolumn hrow ↦ ?_⟩
    · rw [Machine.register, hregisters]
      exact hshows.register
    · rw [hscreen]
      exact hshows.pixel column row hcolumn hrow

/-- The glyph of the key in the first register is drawn on a dark screen. -/
theorem IsIntact.drawSprite (hintact : IsIntact m) (hkey : m.register 0 = UInt8.ofNat key)
    (hdark : Shows m none) (hindex : m.index = Font.addressOf key) (hcorner : m.register 1 = 0) :
    IsIntact (m.drawSprite 1 1 5) ∧ Shows (m.drawSprite 1 1 5) (some key) := by
  have hsprite : m.readBlock m.index (5 : Nibble) = Font.glyph key := by
    rw [hindex]
    exact Machine.readBlock_glyph hintact.memory key
  have hwide : 8 ≤ m.screen.width := by
    rw [hintact.width]
    decide
  have hhigh : (Font.glyph key).length ≤ m.screen.height := by
    rw [hintact.height, Font.length_glyph]
    decide
  have hscreen : (m.drawSprite 1 1 5).screen = (m.screen.draw 0 0 (Font.glyph key)).1 := by
    rw [Machine.drawSprite, hsprite, hcorner]
    rfl
  obtain ⟨hwidth, hheight⟩ := m.screen.size_draw 0 0 (Font.glyph key)
  rw [← hscreen] at hwidth hheight
  refine ⟨hintact.congr rfl hwidth hheight, ?_, fun column row hcolumn hrow ↦ ?_⟩
  · have hother : (m.drawSprite 1 1 5).register 0 = m.register 0 :=
      (Machine.register_setRegister _ flagRegister 0 _).trans (if_neg (by decide))
    rw [hother, hkey]
  · rw [← hintact.width] at hcolumn
    rw [← hintact.height] at hrow
    rw [hscreen]
    exact Framebuffer.pixel_draw_of_dark hdark hwide hhigh hcolumn hrow

/-- What holds before an instruction of the program, if the given key has been received last. -/
inductive Stage (m : Machine) : Nat → Option Key → Prop
  /-- The program begins. -/
  | begun : Stage m 0 none
  /-- It waits for a key. -/
  | waiting {last : Option Key} (hshows : Shows m last) : Stage m 1 last
  /-- It has received a key. -/
  | received {key : Key} (hkey : m.register 0 = UInt8.ofNat key) : Stage m 2 (some key)
  /-- It has cleared the screen. -/
  | cleared {key : Key} (hkey : m.register 0 = UInt8.ofNat key) (hdark : Shows m none) :
      Stage m 3 (some key)
  /-- The index points to the glyph of the key. -/
  | pointed {key : Key} (hkey : m.register 0 = UInt8.ofNat key) (hdark : Shows m none)
      (hindex : m.index = Font.addressOf key) : Stage m 4 (some key)
  /-- The second register names the upper left corner. -/
  | placed {key : Key} (hkey : m.register 0 = UInt8.ofNat key) (hdark : Shows m none)
      (hindex : m.index = Font.addressOf key) (hcorner : m.register 1 = 0) : Stage m 5 (some key)
  /-- It has drawn the glyph. -/
  | drawn {key : Key} (hshows : Shows m (some key)) : Stage m 6 (some key)

namespace Stage

theorem place_lt (hstage : Stage m place last) : place < 7 := by
  cases hstage <;> decide

theorem shows (hstage : Stage m 1 last) : Shows m last := by
  cases hstage with
  | waiting hshows => exact hshows

/-- A stage is about the registers, the index and the screen. -/
theorem congr (hstage : Stage m place last) (hregisters : after.registers = m.registers)
    (hindex : after.index = m.index) (hscreen : after.screen = m.screen) :
    Stage after place last := by
  have hregister (x : Register) : after.register x = m.register x := by
    rw [Machine.register, hregisters, Machine.register]
  have hdark (hshows : Shows m none) : Shows after none := hshows.congr hregisters hscreen
  cases hstage with
  | begun => exact .begun
  | waiting hshows => exact .waiting (hshows.congr hregisters hscreen)
  | received hkey => exact .received (by rwa [hregister])
  | cleared hkey hclear => exact .cleared (by rwa [hregister]) (hdark hclear)
  | pointed hkey hclear hpoints =>
    exact .pointed (by rwa [hregister]) (hdark hclear) (by rwa [hindex])
  | placed hkey hclear hpoints hcorner =>
    exact .placed (by rwa [hregister]) (hdark hclear) (by rwa [hindex]) (by rwa [hregister])
  | drawn hshows => exact .drawn (hshows.congr hregisters hscreen)

/-- The stage after a step. -/
def next (m : Machine) : Nat → Nat
  | 1 => if m.keypad.delivered?.isSome then 2 else 1
  | 6 => 1
  | place => place + 1

theorem execute (hstage : Stage m place last) (hintact : IsIntact m)
    (hpc : m.pc = 0x200 + 2 * place) :
    ∃ instruction after target, Instruction.decode? m.fetch = some instruction ∧
      m.execute instruction = .ok (after, target) ∧ IsIntact after ∧
      target % 65536 = 0x200 + 2 * next m place ∧
      Stage after (next m place) (m.received?.or last) := by
  have hplace := hstage.place_lt
  have hnext : (m.pc + 2) % 65536 = 0x200 + 2 * (place + 1 : Nat) := by omega
  rw [hintact.decode hpc hplace, hintact.received? hpc hplace]
  cases hstage with
  | begun =>
    refine ⟨.clearScreen, _, _, rfl, rfl, hintact.congr rfl rfl rfl, hnext, ?_⟩
    exact .waiting m.screen.pixel_clear
  | waiting hshows =>
    rw [next, if_pos rfl]
    cases hkey : m.keypad.delivered? with
    | none =>
      have hstays : m.pc % 65536 = 0x200 + 2 * (1 : Nat) := by omega
      refine ⟨.waitForKey 0, { m with waitingForKey := true }, m.pc, rfl, ?_,
        hintact.congr rfl rfl rfl, hstays, .waiting (hshows.congr rfl rfl)⟩
      simp only [Machine.execute, hkey]
    | some key =>
      refine ⟨.waitForKey 0, { m with waitingForKey := false }.setRegister 0 (UInt8.ofNat key),
        m.pc + 2, rfl, ?_, hintact.congr rfl rfl rfl, hnext, .received ?_⟩
      · simp only [Machine.execute, hkey]
      · rw [Machine.register_setRegister, if_pos rfl]
  | received hkey =>
    refine ⟨.clearScreen, _, _, rfl, rfl, hintact.congr rfl rfl rfl, hnext, ?_⟩
    exact .cleared hkey m.screen.pixel_clear
  | cleared hkey hdark =>
    refine ⟨.pointToGlyph 0, _, _, rfl, rfl, hintact.congr rfl rfl rfl, hnext, ?_⟩
    exact .pointed hkey hdark (congrArg Font.addressOf (Machine.namedKey_of_register hkey))
  | pointed hkey hdark hindex =>
    refine ⟨.setByte 1 0, _, _, rfl, rfl, hintact.congr rfl rfl rfl, hnext,
      .placed ?_ hdark hindex ?_⟩
    · rwa [Machine.register_setRegister, if_neg (by decide)]
    · rw [Machine.register_setRegister, if_pos rfl]
  | placed hkey hdark hindex hcorner =>
    obtain ⟨hdrawn, hshows⟩ := hintact.drawSprite hkey hdark hindex hcorner
    exact ⟨.draw 1 1 5, _, _, rfl, rfl, hdrawn, hnext, .drawn hshows⟩
  | drawn hshows =>
    exact ⟨.jump 0x202, _, _, rfl, rfl, hintact, rfl, .waiting hshows⟩

end Stage

/-! ### Trails -/

/-- What holds of a trail of the program, which stands before an instruction. -/
structure Sound (t : Trail) (place : Nat) : Prop where
  /-- The memory is as it was loaded. -/
  intact : IsIntact t.machine
  /-- A reset loads the same program. -/
  program : t.machine.program = program
  /-- No fault has halted the machine. -/
  running : t.machine.fault = none
  /-- No word has been unknown. -/
  silent : t.machine.diagnostics = []
  /-- The program counter leads to the instruction. -/
  pc : t.machine.pc = 0x200 + 2 * place
  /-- What has to hold before the instruction holds. -/
  stage : Stage t.machine place t.lastReceived?
  /-- Every step so far has executed a known word. -/
  executed : ∀ stop ∈ t.stops, stop.step.1 = .executed stop.fetch none

namespace Sound

variable {t : Trail} {screen : Framebuffer} {operation : Operation}

theorem powerOn (hwidth : screen.width = 64) (hheight : screen.height = 32)
    (keypad : Keypad) (source : ByteSource) :
    Sound ⟨.powerOn Demonstration.program screen keypad source, []⟩ 0 where
  intact := ⟨rfl, hwidth, hheight⟩
  program := rfl
  running := rfl
  silent := rfl
  pc := rfl
  stage := .begun
  executed := nofun

theorem execute (hsound : Sound t place) :
    ∃ after, t.machine.step = (.executed t.machine.fetch none, after) ∧
      Sound ⟨after, t.stops ++ [t.machine]⟩ (Stage.next t.machine place) := by
  obtain ⟨instruction, after, target, hdecode, hexecute, hintact, htarget, hstage⟩ :=
    hsound.stage.execute hsound.intact hsound.pc
  obtain ⟨-, -, hprogram, hfault, hdiagnostics⟩ := Machine.records_of_execute hexecute
  have hstep := Machine.step_of_execute hsound.running hdecode hexecute
  refine ⟨_, hstep, ?_⟩
  exact {
    intact := hintact.congr rfl rfl rfl
    program := hprogram.trans hsound.program
    running := hfault.trans hsound.running
    silent := hdiagnostics.trans hsound.silent
    pc := htarget
    stage := by
      rw [Trail.lastReceived?_step]
      exact hstage.congr rfl rfl rfl
    executed := fun stop hstop ↦ by
      obtain hbefore | hlast := List.mem_append.mp hstop
      · exact hsound.executed stop hbefore
      · rw [List.mem_singleton.mp hlast, hstep] }

/-- The next step executes a known word. -/
theorem step_eq (hsound : Sound t place) :
    t.machine.step.1 = .executed t.machine.fetch none := by
  obtain ⟨after, hstep, -⟩ := hsound.execute
  rw [hstep]

theorem step (hsound : Sound t place) :
    Sound ⟨t.machine.step.2, t.stops ++ [t.machine]⟩ (Stage.next t.machine place) := by
  obtain ⟨after, hstep, hafter⟩ := hsound.execute
  rwa [hstep]

/-- The program does not depend on the timers, and on the keys only when it waits. -/
theorem withDevices (hsound : Sound t place) (timers : Timers) (keypad : Keypad) :
    Sound ⟨{ t.machine with timers := timers, keypad := keypad }, t.stops⟩ place where
  intact := hsound.intact.congr rfl rfl rfl
  program := hsound.program
  running := hsound.running
  silent := hsound.silent
  pc := hsound.pc
  stage := hsound.stage.congr rfl rfl rfl
  executed := hsound.executed

theorem operate (hsound : Sound t place) (hcontrol : operation.isControl = true) :
    ∃ place, Sound (t.operate operation) place := by
  cases operation with
  | resetKeypad =>
    rw [Trail.operate_of_continues rfl rfl]
    exact ⟨place, hsound.withDevices t.machine.timers .idle⟩
  | moveTo => cases hcontrol
  | ask action =>
    cases action with
    | step => exact ⟨_, hsound.step⟩
    | run count =>
      refine Trail.run_of_step (P := fun t ↦ ∃ place, Sound t place) ?_ count.toNat ⟨_, hsound⟩
      rintro t ⟨place, hsound⟩
      exact ⟨_, hsound.step⟩
    | tick | releaseAll =>
      rw [Trail.operate_of_continues rfl rfl]
      exact ⟨place, hsound.withDevices _ _⟩
    | press number | release number =>
      rw [Trail.operate_of_continues rfl rfl, Machine.operate, Machine.perform, Machine.onKey_eq]
      exact ⟨place, hsound.withDevices _ _⟩
    | reset =>
      have hstart := Sound.powerOn hsound.intact.width hsound.intact.height t.machine.keypad
        t.machine.source
      rw [← hsound.program] at hstart
      exact ⟨0, hstart⟩
    | load | write | setRegister => cases hcontrol

theorem operateAll (hsound : Sound t place) {operations : List Operation}
    (hcontrols : ∀ operation ∈ operations, operation.isControl = true) :
    ∃ place, Sound (t.operateAll operations) place := by
  induction operations generalizing t place with
  | nil => exact ⟨place, hsound⟩
  | cons operation rest ih =>
    obtain ⟨next, hnext⟩ := hsound.operate (hcontrols operation List.mem_cons_self)
    exact ih hnext fun later hlater ↦ hcontrols later (List.mem_cons_of_mem operation hlater)

/-- After the wait the program comes to the next one, without receiving another key. -/
theorem finish {remaining : Nat} (hsound : Sound t place) (hwaited : 1 < place)
    (hremaining : place + remaining = 7) {later : Trail}
    (hlater : t.operateAll (List.replicate remaining (.ask .step)) = later) :
    Sound later 1 ∧ later.lastReceived? = t.lastReceived? := by
  induction remaining generalizing t place with
  | zero => exact absurd hsound.stage.place_lt (by omega)
  | succ remaining ih =>
    rw [List.replicate_succ, Trail.operateAll_cons, Trail.operate_step] at hlater
    have hnext := hsound.step
    have hlast : Trail.lastReceived? ⟨t.machine.step.2, t.stops ++ [t.machine]⟩ =
        t.lastReceived? := by
      rw [Trail.lastReceived?_step, hsound.intact.received? hsound.pc hsound.stage.place_lt,
        if_neg hwaited.ne', Option.none_or]
    obtain rfl | hmore := Nat.eq_zero_or_pos remaining
    · cases hremaining
      cases hlater
      exact ⟨hnext, hlast⟩
    · have hplace : Stage.next t.machine place = place + 1 := by
        unfold Stage.next
        split
        · omega
        · omega
        · rfl
      rw [hplace] at hnext
      obtain ⟨hwaits, hsame⟩ := ih hnext (by omega) (by omega) hlater
      exact ⟨hwaits, hsame.trans hlast⟩

/-- A wait that a held key ends is followed by the next, six steps later. -/
theorem receive (hsound : Sound t 1) {key : Key} (hkey : t.machine.keypad.delivered? = some key)
    {later : Trail} (hlater : t.operateAll (List.replicate 6 (.ask .step)) = later) :
    Sound later 1 ∧ later.lastReceived? = some key := by
  rw [List.replicate_succ, Trail.operateAll_cons, Trail.operate_step] at hlater
  have hplace : Stage.next t.machine 1 = 2 := by
    rw [Stage.next, hkey]
    rfl
  have hnext := hsound.step
  rw [hplace] at hnext
  have hlast : Trail.lastReceived? ⟨t.machine.step.2, t.stops ++ [t.machine]⟩ = some key := by
    rw [Trail.lastReceived?_step, hsound.intact.received? hsound.pc (by decide), if_pos rfl, hkey,
      Option.some_or]
  obtain ⟨hwaits, hsame⟩ := hnext.finish (by decide) rfl hlater
  exact ⟨hwaits, hsame.trans hlast⟩

/-- A key that is pressed while the program waits is shown when it waits again, six steps later. -/
theorem press (hsound : Sound t 1) (key : Key) {later : Trail}
    (hlater : t.operateAll (.ask (.press key.val) :: List.replicate 6 (.ask .step)) = later) :
    Sound later 1 ∧ later.lastReceived? = some key := by
  have hpress : t.operate (.ask (.press key.val)) =
      ⟨{ t.machine with keypad := t.machine.keypad.press key }, t.stops⟩ := by
    rw [Trail.operate_of_continues rfl rfl, Machine.operate, Machine.perform,
      Microcode.onKey_key]
  have hready := hsound.withDevices t.machine.timers (t.machine.keypad.press key)
  rw [Trail.operateAll_cons, hpress] at hlater
  exact hready.receive (t.machine.keypad.delivered?_press key) hlater

end Sound

/-- Assumes a screen of 64 columns and 32 rows, with anything on it, and any steps, ticks,
operations on the keys and resets. The program never faults, every step executes a known word and
nothing is reported as unknown, the program counter leads to one of its seven instructions, and the
memory is as it was loaded. While it waits for a key, the screen is dark if no key has been received
since the last reset; otherwise the first register holds the key that has been received last, and
the screen shows its glyph in the upper left corner and nothing else. -/
theorem shows_last_key {screen : Framebuffer} (hwidth : screen.width = 64)
    (hheight : screen.height = 32) (keypad : Keypad) (source : ByteSource)
    {operations : List Operation}
    (hcontrols : ∀ operation ∈ operations, operation.isControl = true) :
    let t := (Trail.start program screen keypad source).operateAll operations
    let m := t.machine
    m.fault = none ∧ m.diagnostics = [] ∧
    (∀ stop ∈ t.stops ++ [m], stop.step.1 = .executed stop.fetch none) ∧
    m.pc ∈ ([0x200, 0x202, 0x204, 0x206, 0x208, 0x20A, 0x20C] : List Int) ∧
    m.memory = Machine.initialMemory program ∧
    (m.pc = 0x202 → Shows m t.lastReceived?) := by
  intro t m
  obtain ⟨place, hsound⟩ : ∃ place, Sound t place :=
    (Sound.powerOn hwidth hheight keypad source).operateAll hcontrols
  have hplace := hsound.stage.place_lt
  have hpc : m.pc = 0x200 + 2 * place := hsound.pc
  refine ⟨hsound.running, hsound.silent, fun stop hstop ↦ ?_, ?_, hsound.intact.memory,
    fun hwaits ↦ ?_⟩
  · obtain hbefore | hlast := List.mem_append.mp hstop
    · exact hsound.executed stop hbefore
    · rw [List.mem_singleton.mp hlast, hsound.step_eq]
  · rw [hpc]
    interval_cases place <;> decide
  · have hone : place = 1 := by omega
    subst hone
    exact hsound.stage.shows

/-- The program begins, a key is pressed while it waits, and it waits again: its glyph is shown. -/
theorem shows_last_key_of_press :
    let t := (Trail.start program .screen .idle .silent).operateAll
      (.ask .step :: .ask (.press 5) :: List.replicate 6 (.ask .step))
    t.machine.pc = 0x202 ∧ Shows t.machine (some 5) := by
  let first := Trail.start program .screen .idle .silent
  let operations : List Operation :=
    .ask .step :: .ask (.press (5 : Key).val) :: List.replicate 6 (.ask .step)
  intro t
  have ht : first.operateAll operations = t := rfl
  have hlater : Trail.operateAll ⟨first.machine.step.2, first.stops ++ [first.machine]⟩
      (.ask (.press (5 : Key).val) :: List.replicate 6 (.ask .step)) = t := by
    rw [← Trail.operate_step, ← Trail.operateAll_cons]
    exact ht
  clear_value t
  have hwidth : Framebuffer.screen.width = 64 := rfl
  have hheight : Framebuffer.screen.height = 32 := rfl
  have hbegun : Sound first 0 := Sound.powerOn hwidth hheight .idle .silent
  obtain ⟨hwaits, hlast⟩ := hbegun.step.press 5 hlater
  have hpc : t.machine.pc = 0x202 := hwaits.pc
  have hcontrols : ∀ operation ∈ operations, operation.isControl = true :=
    List.all_eq_true.mp rfl
  obtain ⟨-, -, -, -, -, hshows⟩ := shows_last_key hwidth hheight .idle .silent hcontrols
  rw [ht, hlast] at hshows
  exact ⟨hpc, hshows hpc⟩

end Demonstration

end Cosmac
