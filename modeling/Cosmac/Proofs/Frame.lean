import Cosmac.Proofs.Instruction.Pattern
import Cosmac.Proofs.KeyWait
import Cosmac.Service.Basic

/-!
# What a step leaves alone

The word that a step executes decides what the step may change. `Machine.Frame` says for each part
of a machine which words may change it, and which cells, registers and slots of it. Every
instruction stays within its frame (`frame_of_execute`), and so does every step that executes a word
(`step_changes_within_frame`).
-/

set_option autoImplicit false

namespace Cosmac

/-! ### Words -/

/-- The registers that a word may change. A wait for a key does so only when a key is held. -/
inductive Word.MayChange (w : Word) (keyHeld : Bool) : Register → Prop
  /-- It gives a register another value: a byte, a sum with a byte or a random byte. -/
  | valued (hfamily : w.family.val ∈ [0x6, 0x7, 0xC]) : MayChange w keyHeld w.x
  /-- It combines two registers without a flag. -/
  | combined (hfamily : w.family.val = 0x8) (hlast : w.n.val ∈ [0x0, 0x1, 0x2, 0x3]) :
      MayChange w keyHeld w.x
  /-- It combines or shifts registers with a flag. -/
  | flagged {r : Register} (hfamily : w.family.val = 0x8)
      (hlast : w.n.val ∈ [0x4, 0x5, 0x6, 0x7, 0xE]) (hr : r = w.x ∨ r = flagRegister) :
      MayChange w keyHeld r
  /-- It draws, and the flag tells of collisions. -/
  | drawn (hfamily : w.family.val = 0xD) : MayChange w keyHeld flagRegister
  /-- It reads the delay timer. -/
  | delayed (hword : w.isPeripheral 0x07 = true) : MayChange w keyHeld w.x
  /-- It receives a key. -/
  | received (hword : w.isPeripheral 0x0A = true) (hheld : keyHeld = true) : MayChange w keyHeld w.x
  /-- It loads registers. -/
  | loaded {r : Register} (hword : w.isPeripheral 0x65 = true) (hr : r ≤ w.x) :
      MayChange w keyHeld r

theorem Word.family_of_isPeripheral {w : Word} {byte : Nat} (hword : w.isPeripheral byte = true) :
    w.family.val = 0xF := by
  rw [isPeripheral, Bool.and_eq_true] at hword
  exact of_decide_eq_true hword.1

namespace Machine

/-! ### Frames -/

/-- What the execution of a word may change of a machine. A part that is not given is the same
before and after. -/
structure Frame (m : Machine) (w : Word) (after : Machine) : Prop where
  /-- Only words that store change the memory, and only from the index on: three cells for decimal
  digits, or one for each register. Addresses wrap around. -/
  memory : ∀ place : Fin 4096, after.memory.get place ≠ m.memory.get place →
      (w.isPeripheral 0x33 = true ∧ ∃ offset : Nat, offset ≤ 2 ∧ place = cell (m.index + offset)) ∨
      (w.isPeripheral 0x55 = true ∧
        ∃ offset : Nat, offset ≤ w.x.val ∧ place = cell (m.index + offset)) := by
    exact fun _ hchanged ↦ absurd rfl hchanged
  /-- The registers change as the word says. -/
  registers : ∀ r : Register, after.register r ≠ m.register r →
      w.MayChange m.keypad.anyPressed r := by
    exact fun _ hchanged ↦ absurd rfl hchanged
  /-- Only calls change a slot of the call stack, and only the first free one. -/
  slots : ∀ place : Fin 16, after.stack.slots.get place ≠ m.stack.slots.get place →
      w.family.val = 0x2 ∧ place.val = m.stack.depth.val := by
    exact fun _ hchanged ↦ absurd rfl hchanged
  /-- Only calls and returns change the depth of the call stack. -/
  depth : after.stack.depth ≠ m.stack.depth → w.family.val = 0x2 ∨ w = 0x00EE := by
    exact absurd rfl
  /-- Only words that set the index or add to it change it. -/
  index : after.index ≠ m.index →
      w.family.val = 0xA ∨ w.isPeripheral 0x1E = true ∨ w.isPeripheral 0x29 = true := by
    exact absurd rfl
  /-- Only a word that sets the delay timer changes it. -/
  delay : after.timers.delay ≠ m.timers.delay → w.isPeripheral 0x15 = true := by
    exact absurd rfl
  /-- Only a word that sets the sound timer changes it. -/
  sound : after.timers.sound ≠ m.timers.sound → w.isPeripheral 0x18 = true := by
    exact absurd rfl
  /-- Only words that clear the screen or draw change it. -/
  screen : after.screen ≠ m.screen → w = 0x00E0 ∨ w.family.val = 0xD := by
    exact absurd rfl
  /-- Random words draw one byte from the source, and others none. -/
  source : after.source = if w.family.val = 0xC then m.source.draw.2 else m.source
  /-- The keypad stays as it is. -/
  keypad : after.keypad = m.keypad := by rfl
  /-- So does the program. -/
  program : after.program = m.program := by rfl

variable {m after : Machine} {w : Word} {instruction : Instruction} {next : Int}

/-! ### Accesses -/

theorem eq_of_setRegister_ne {x r : Register} {value : UInt8}
    (hchanged : (m.setRegister x value).register r ≠ m.register r) : r = x := by
  rw [register_setRegister] at hchanged
  by_contra hother
  exact hchanged (if_neg hother)

theorem eq_of_setWithFlag_ne {x r : Register} {value : UInt8} {flag : Bool}
    (hchanged : (m.setWithFlag x value flag).register r ≠ m.register r) :
    r = x ∨ r = flagRegister := by
  by_contra! hother
  rw [setWithFlag, register_setRegister, if_neg hother.2, register_setRegister,
    if_neg hother.1] at hchanged
  exact hchanged rfl

/-- The registers up to the last one are loaded, and the others are as they were. -/
theorem register_loadRegisters (m : Machine) (x r : Register) :
    (m.loadRegisters x).register r =
      if r ≤ x then m.read (m.index + r.val) else m.register r :=
  Vector.getElem_ofFn _

theorem le_of_loadRegisters_ne {x r : Register}
    (hchanged : (m.loadRegisters x).register r ≠ m.register r) : r ≤ x := by
  by_contra hother
  rw [register_loadRegisters] at hchanged
  exact hchanged (if_neg hother)

/-- Storing bytes changes only as many cells as there are bytes. -/
theorem cell_of_writeBlock_ne (bytes : List UInt8) {address : Int} {place : Fin 4096}
    (hchanged : (m.writeBlock address bytes).memory.get place ≠ m.memory.get place) :
    ∃ offset : Nat, offset < bytes.length ∧ place = cell (address + offset) := by
  induction bytes generalizing m address with
  | nil => exact absurd rfl hchanged
  | cons byte rest ih =>
    by_cases hrest : ((m.write address byte).writeBlock (address + 1) rest).memory.get place =
        (m.write address byte).memory.get place
    · -- The change comes from the first byte.
      rw [writeBlock, hrest] at hchanged
      refine ⟨0, Nat.zero_lt_succ _, ?_⟩
      by_contra hother
      rw [Nat.cast_zero, Int.add_zero] at hother
      refine hchanged (Vector.getElem_set_ne (cell address).isLt place.isLt ?_)
      exact fun hsame ↦ hother (Fin.ext hsame.symm)
    · obtain ⟨offset, hoffset, hplace⟩ := ih hrest
      refine ⟨offset + 1, Nat.succ_lt_succ hoffset, ?_⟩
      rw [hplace]
      congr 1
      push_cast
      omega

theorem register_of_combine_ne {operation : Combination} {x y r : Register}
    (hchanged : (m.combine operation x y).register r ≠ m.register r) :
    (operation.digit ∈ [0x0, 0x1, 0x2, 0x3] ∧ r = x) ∨
      (operation.digit ∈ [0x4, 0x5, 0x6, 0x7, 0xE] ∧ (r = x ∨ r = flagRegister)) := by
  cases operation with
  | copy | or | and | xor => exact .inl ⟨by decide, eq_of_setRegister_ne hchanged⟩
  | add | subtract | subtractFrom => exact .inr ⟨by decide, eq_of_setWithFlag_ne hchanged⟩

/-! ### Instructions -/

/-- An instruction stays within the frame of its word. -/
theorem frame_of_execute (hfits : instruction.Fits w)
    (hexecute : m.execute instruction = .ok (after, next)) : m.Frame w after := by
  cases instruction
  case clearScreen =>
    cases hexecute
    exact { screen := fun _ ↦ .inl hfits, source := by rw [hfits]; rfl }
  case ret =>
    simp only [execute] at hexecute
    split at hexecute <;> cases hexecute
    rename_i hpop
    exact {
      slots := fun place hchanged ↦
        absurd (congrArg (·.get place) (CallStack.slots_of_pop? hpop)) hchanged
      depth := fun _ ↦ .inr hfits
      source := by rw [hfits]; rfl }
  case call =>
    simp only [execute] at hexecute
    split at hexecute <;> cases hexecute
    rename_i hpush
    exact {
      slots := by
        intro place hchanged
        refine ⟨hfits.1, ?_⟩
        by_contra hother
        exact hchanged ((CallStack.slot_of_push? hpush place).trans (if_neg hother))
      depth := fun _ ↦ .inl hfits.1
      source := by rw [hfits.1]; rfl }
  case jump | skipIfByte | skipUnlessByte | skipIfSame | skipUnlessSame | jumpOffset |
      skipIfPressed | skipUnlessPressed =>
    cases hexecute
    exact { source := by rw [hfits.1]; rfl }
  case setByte | addByte | random =>
    obtain ⟨hfamily, rfl, -⟩ := hfits
    cases hexecute
    exact {
      registers := by
        intro r hchanged
        rw [eq_of_setRegister_ne hchanged]
        exact .valued (by rw [hfamily]; decide)
      source := by rw [hfamily]; rfl }
  case combine operation x y =>
    obtain ⟨hfamily, hlast, rfl, rfl⟩ := hfits
    cases hexecute
    rw [combine_eq]
    exact {
      registers := by
        intro r hchanged
        obtain ⟨hdigit, rfl⟩ | ⟨hdigit, hr⟩ := register_of_combine_ne hchanged
        · exact .combined hfamily (hlast ▸ hdigit)
        · exact .flagged hfamily (hlast ▸ hdigit) hr
      source := by rw [hfamily]; rfl }
  case shiftRight | shiftLeft =>
    obtain ⟨hfamily, hlast, rfl⟩ := hfits
    cases hexecute
    exact {
      registers := fun r hchanged ↦
        .flagged hfamily (by rw [hlast]; decide) (eq_of_setWithFlag_ne hchanged)
      source := by rw [hfamily]; rfl }
  case setIndex =>
    cases hexecute
    exact { index := fun _ ↦ .inl hfits.1, source := by rw [hfits.1]; rfl }
  case draw =>
    cases hexecute
    exact {
      registers := by
        intro r hchanged
        rw [eq_of_setRegister_ne hchanged]
        exact .drawn hfits.1
      screen := fun _ ↦ .inr hfits.1
      source := by rw [hfits.1]; rfl }
  case readDelay =>
    obtain ⟨hword, rfl⟩ := hfits
    cases hexecute
    exact {
      registers := by
        intro r hchanged
        rw [eq_of_setRegister_ne hchanged]
        exact .delayed hword
      source := by rw [Word.family_of_isPeripheral hword]; rfl }
  case waitForKey =>
    obtain ⟨hword, rfl⟩ := hfits
    simp only [execute] at hexecute
    split at hexecute <;> cases hexecute
    case h_1 key hdelivered =>
      have hheld : m.keypad.anyPressed = true := by
        rw [← Keypad.isSome_delivered?, hdelivered, Option.isSome_some]
      exact {
        registers := by
          intro r hchanged
          rw [eq_of_setRegister_ne hchanged]
          exact .received hword hheld
        source := by rw [Word.family_of_isPeripheral hword]; rfl }
    case h_2 => exact { source := by rw [Word.family_of_isPeripheral hword]; rfl }
  case setDelay =>
    cases hexecute
    exact {
      delay := fun _ ↦ hfits.1
      source := by rw [Word.family_of_isPeripheral hfits.1]; rfl }
  case setSound =>
    cases hexecute
    exact {
      sound := fun _ ↦ hfits.1
      source := by rw [Word.family_of_isPeripheral hfits.1]; rfl }
  case addIndex =>
    cases hexecute
    exact {
      index := fun _ ↦ .inr (.inl hfits.1)
      source := by rw [Word.family_of_isPeripheral hfits.1]; rfl }
  case pointToGlyph =>
    cases hexecute
    exact {
      index := fun _ ↦ .inr (.inr hfits.1)
      source := by rw [Word.family_of_isPeripheral hfits.1]; rfl }
  case storeDecimal =>
    cases hexecute
    rw [writeBlock_eq]
    exact {
      memory := by
        intro place hchanged
        obtain ⟨offset, hoffset, hplace⟩ := cell_of_writeBlock_ne _ hchanged
        exact .inl ⟨hfits.1, offset, Nat.le_of_lt_succ hoffset, hplace⟩
      source := by rw [Word.family_of_isPeripheral hfits.1]; rfl }
  case storeRegisters =>
    obtain ⟨hword, rfl⟩ := hfits
    cases hexecute
    rw [writeBlock_eq]
    exact {
      memory := by
        intro place hchanged
        obtain ⟨offset, hoffset, hplace⟩ := cell_of_writeBlock_ne _ hchanged
        have hlength : (m.registersUpTo w.x).length ≤ w.x.val + 1 := List.length_take_le _ _
        exact .inr ⟨hword, offset, by omega, hplace⟩
      source := by rw [Word.family_of_isPeripheral hword]; rfl }
  case loadRegisters =>
    obtain ⟨hword, rfl⟩ := hfits
    cases hexecute
    rw [loadRegisters]
    exact {
      registers := fun r hchanged ↦ .loaded hword (le_of_loadRegisters_ne hchanged)
      source := by rw [Word.family_of_isPeripheral hword]; rfl }

/-! ### Steps -/

/-- Moving the program counter and counting leave the frame alone. -/
theorem Frame.complete (hframe : m.Frame w after) (next : Int) : m.Frame w (after.complete next) :=
  { hframe with }

/-- A word that is no instruction is not of the family that draws random bytes. -/
theorem family_ne_of_unknown (hdecode : Instruction.decode? w = none) : w.family.val ≠ 0xC := by
  intro hfamily
  have hrandom : Instruction.decode? w = some (.random w.x w.byte) :=
    Instruction.decode?_of_fits ⟨hfamily, rfl, rfl⟩
  rw [hrandom] at hdecode
  cases hdecode

/-- A step that executes a word stays within its frame. -/
theorem frame_of_step {diagnostic : Option Diagnostic}
    (hstep : m.step = (.executed w diagnostic, after)) : w = m.fetch ∧ m.Frame w after := by
  cases step_cases hstep with
  | reported hrunning hdecode =>
    have hreported : m.Frame m.fetch (m.report ⟨m.pc, m.fetch⟩) :=
      { source := (if_neg (family_ne_of_unknown hdecode)).symm }
    exact ⟨rfl, hreported.complete _⟩
  | completed hrunning hdecode hexecute =>
    exact ⟨rfl, (frame_of_execute (Instruction.fits_of_decode? hdecode) hexecute).complete _⟩

end Machine

/-- A service keeps its configuration when its machine takes a step. -/
theorem Service.config_advance (service : Service) (m : Machine) :
    (service.advance m).2.config = service.config := by
  unfold advance
  split <;> rfl

/-- The frame law of a step. A step that executes a word executes the one at the program counter and
changes the memory, the registers, the call stack, the index, the timers, the screen and the source
of random bytes only where that word may. It leaves the keypad and the program alone, and the
configuration of the service that holds the machine. -/
theorem step_changes_within_frame {m after : Machine} {word : Word}
    {diagnostic : Option Diagnostic} (hstep : m.step = (.executed word diagnostic, after)) :
    word = m.fetch ∧ m.Frame word after ∧
      ∀ service : Service, (service.advance m).2.machine = some after ∧
        (service.advance m).2.config = service.config := by
  obtain ⟨hword, hframe⟩ := Machine.frame_of_step hstep
  refine ⟨hword, hframe, fun service ↦ ⟨?_, service.config_advance m⟩⟩
  rw [Service.advance, hstep]
  cases diagnostic <;> rfl

/-- Three decimal digits are stored from the last cell on. The cells between the second and the last
stay as they are. -/
theorem step_changes_within_frame_of_decimal :
    let m : Machine := { Machine.powerOn ⟨#[0xFF, 0x33], by decide⟩ .screen .idle .silent with
      index := 0xFFF }
    ∃ after : Machine, m.step = (.executed 0xFF33 none, after) ∧ m.Frame 0xFF33 after ∧
      ∀ place : Fin 4096, 2 ≤ place.val → place.val < 0xFFF →
        after.memory.get place = m.memory.get place := by
  intro m
  have hfetch : m.fetch = 0xFF33 :=
    (Machine.fetch_powerOn ⟨#[0xFF, 0x33], by decide⟩ .screen .idle .silent).trans (by decide)
  have hdecode : Instruction.decode? m.fetch = some (.storeDecimal 0xF) := by
    rw [hfetch]
    rfl
  have hstep := Machine.step_of_execute (m := m) rfl hdecode rfl
  rw [hfetch] at hstep
  obtain ⟨-, hframe, -⟩ := step_changes_within_frame hstep
  refine ⟨_, hstep, hframe, ?_⟩
  intro place hlow hhigh
  by_contra hchanged
  obtain ⟨-, offset, hoffset, hplace⟩ | ⟨hword, -⟩ := hframe.memory place hchanged
  · have hcell : place.val = ((0xFFF + offset : Int) % 4096).toNat := congrArg Fin.val hplace
    omega
  · exact absurd hword (by decide)

end Cosmac
