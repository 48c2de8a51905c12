import Cosmac.Proofs.Machine.Bisimulation

/-!
# Machines that do the same

Two machines may differ and still do the same. A `Likeness` says which addresses and which sources
of random bytes count as the same: addresses that name the same cell and go on doing so when they
are advanced, and sources that give the same bytes. Machines are alike (`Machine.Alike`) if their
pointers, the slots in use of their call stacks and their sources count as the same, and all else
that instructions read is equal. `Alike.execute` says that alike machines execute an instruction
alike, and `Alike.step_cases` what they can do in a step: in every case they do it together. So
being alike is a bisimulation (`isBisimulation_alike`).
-/

set_option autoImplicit false

namespace Cosmac

/-! ### Likenesses -/

/-- What counts as the same in two machines. -/
structure Likeness where
  /-- Addresses that count as the same. -/
  address : Int → Int → Prop
  /-- Sources that count as the same. -/
  source : ByteSource → ByteSource → Prop
  /-- They name the same cell. -/
  cell : ∀ {a b : Int}, address a b → a % 4096 = b % 4096
  /-- A word counts as itself. -/
  word : ∀ {a : Int}, 0 ≤ a → a ≤ 0xFFFF → address a a
  /-- They count as the same after the same way. -/
  advance : ∀ {a b : Int} (distance : Int), address a b →
    address ((a + distance) % 65536) ((b + distance) % 65536)
  /-- They give the same byte and go on as the same. -/
  draw : ∀ {s t : ByteSource}, source s t → s.draw.1 = t.draw.1 ∧ source s.draw.2 t.draw.2

namespace Likeness

variable {r : Likeness} {a b : Int}

/-- The low sixteen bits of what counts as the same do so, too. -/
theorem emod (r : Likeness) (hab : r.address a b) : r.address (a % 65536) (b % 65536) := by
  have hadvance := r.advance 0 hab
  rwa [Int.add_zero, Int.add_zero] at hadvance

/-- The low sixteen bits of a number count as themselves. -/
theorem self (r : Likeness) (a : Int) : r.address (a % 65536) (a % 65536) :=
  r.word (by omega) (by omega)

/-- The cells after those that are the same are the same. -/
theorem emod_add (hab : a % 4096 = b % 4096) (distance : Int) :
    (a + distance) % 4096 = (b + distance) % 4096 := by
  omega

end Likeness

/-! ### Call stacks -/

/-- Equally many slots are in use, and what is saved in them counts as the same. -/
structure CallStack.Alike (r : Likeness) (s t : CallStack) : Prop where
  /-- Equally many slots are in use. -/
  depth : s.depth = t.depth
  /-- What is saved in them counts as the same. -/
  slots : ∀ place : Fin 16, place.val < s.depth.val →
    r.address (s.slots.get place).toNat (t.slots.get place).toNat

namespace CallStack

variable {r : Likeness} {s t : CallStack} {a b : UInt16}

/-- Pushing on alike stacks fails on both or leaves alike stacks. -/
theorem Alike.push? (halike : s.Alike r t) (hab : r.address a.toNat b.toNat) :
    Option.Rel (CallStack.Alike r) (s.push? a) (t.push? b) := by
  have hfull : s.push? a = none ↔ t.push? b = none := by
    rw [push?_eq_none_iff, push?_eq_none_iff, halike.depth]
  cases hs : s.push? a with
  | none =>
    rw [hfull.mp hs]
    exact .none
  | some after =>
    cases ht : t.push? b with
    | none => rw [hfull.mpr ht] at hs; cases hs
    | some other =>
      have hdepth := depth_of_push? hs
      refine .some ⟨?_, ?_⟩
      · rw [Fin.ext_iff, hdepth, depth_of_push? ht, halike.depth]
      · intro place hplace
        rw [slot_of_push? hs, slot_of_push? ht, ← halike.depth]
        split_ifs with hlast
        · exact hab
        · exact halike.slots place (by omega)

/-- Popping from alike stacks fails on both or gives addresses that count as the same and leaves
alike stacks. -/
theorem Alike.pop? (halike : s.Alike r t) :
    Option.Rel (fun x y ↦ r.address x.1.toNat y.1.toNat ∧ x.2.Alike r y.2) s.pop? t.pop? := by
  have hempty : s.pop? = none ↔ t.pop? = none := by
    rw [pop?_eq_none_iff, pop?_eq_none_iff, halike.depth]
  cases hs : s.pop? with
  | none =>
    rw [hempty.mp hs]
    exact .none
  | some popped =>
    cases ht : t.pop? with
    | none => rw [hempty.mpr ht] at hs; cases hs
    | some other =>
      have hdepth := depth_of_pop? hs
      have hother := depth_of_pop? ht
      have hsame : popped.2.depth.val = other.2.depth.val := by
        have := halike.depth
        omega
      have hplace : popped.2.depth.val < 16 := by
        have := s.depth.isLt
        omega
      let last : Fin 16 := ⟨popped.2.depth.val, hplace⟩
      have hlast : last.val < s.depth.val := by
        show popped.2.depth.val < s.depth.val
        omega
      have hfirst : popped.1 = s.slots.get last := address_of_pop? hs rfl
      have hsecond : other.1 = t.slots.get last := address_of_pop? ht hsame
      refine .some ⟨?_, Fin.ext hsame, ?_⟩
      · rw [hfirst, hsecond]
        exact halike.slots last hlast
      · intro place hused
        rw [slots_of_pop? hs, slots_of_pop? ht]
        exact halike.slots place (by omega)

end CallStack

/-! ### Machines -/

/-- The pointers, the slots in use and the sources of two machines count as the same, and all else
that instructions read is equal. What a machine only records may differ, and so may the fault that
halted it. -/
structure Machine.Alike (r : Likeness) (m n : Machine) : Prop where
  memory : m.memory = n.memory
  registers : m.registers = n.registers
  stack : m.stack.Alike r n.stack
  pc : r.address m.pc n.pc
  index : r.address m.index n.index
  timers : m.timers = n.timers
  screen : m.screen = n.screen
  keypad : m.keypad = n.keypad
  source : r.source m.source n.source
  instructionCount : m.instructionCount = n.instructionCount
  waitingForKey : m.waitingForKey = n.waitingForKey
  halted : m.halted = n.halted

namespace Machine

variable {r : Likeness} {m n : Machine}

namespace Alike

/-! ### Accesses -/

theorem register (halike : m.Alike r n) (x : Register) : m.register x = n.register x := by
  rw [Machine.register, Machine.register, halike.registers]

/-- Alike machines read the same at what names the same cell. -/
theorem read (halike : m.Alike r n) {a b : Int} (hcell : a % 4096 = b % 4096) :
    m.read a = n.read b := by
  have hsame : cell a = cell b := Fin.ext (congrArg Int.toNat hcell)
  rw [Machine.read, Machine.read, halike.memory, hsame]

theorem readBlock (halike : m.Alike r n) {a b : Int} (hcell : a % 4096 = b % 4096) (count : Nat) :
    m.readBlock a count = n.readBlock b count := by
  induction count generalizing a b with
  | zero => rfl
  | succ count ih =>
    rw [Machine.readBlock, Machine.readBlock, halike.read hcell, ih (Likeness.emod_add hcell 1)]

/-- Alike machines have the same word before them. -/
theorem fetch (halike : m.Alike r n) : m.fetch = n.fetch := by
  have hcell := r.cell halike.pc
  rw [Machine.fetch, Machine.fetch, halike.read hcell, halike.read (Likeness.emod_add hcell 1)]

theorem namedKey (halike : m.Alike r n) (x : Register) : m.namedKey x = n.namedKey x := by
  simp only [Machine.namedKey, halike.register]

theorem registersUpTo (halike : m.Alike r n) (x : Register) :
    m.registersUpTo x = n.registersUpTo x := by
  rw [Machine.registersUpTo, Machine.registersUpTo, halike.registers]

/-! ### Changes -/

theorem setRegister (halike : m.Alike r n) (x : Register) (value : UInt8) :
    (m.setRegister x value).Alike r (n.setRegister x value) where
  __ := halike
  registers := by simp only [Machine.setRegister, halike.registers]

theorem setWithFlag (halike : m.Alike r n) (x : Register) (value : UInt8) (flag : Bool) :
    (m.setWithFlag x value flag).Alike r (n.setWithFlag x value flag) :=
  (halike.setRegister x value).setRegister flagRegister _

theorem combine (halike : m.Alike r n) (operation : Combination) (x y : Register) :
    (m.combine operation x y).Alike r (n.combine operation x y) := by
  rw [Machine.combine, Machine.combine, halike.register x, halike.register y]
  split
  · exact halike.setWithFlag x _ _
  · exact halike.setRegister x _

theorem drawSprite (halike : m.Alike r n) (x y : Register) (rows : Nibble) :
    (m.drawSprite x y rows).Alike r (n.drawSprite x y rows) := by
  have hsprite := halike.readBlock (r.cell halike.index) rows
  simp only [Machine.drawSprite, halike.register, halike.screen, hsprite]
  generalize n.screen.draw _ _ _ = drawn
  have hdrawn : { m with screen := drawn.1 }.Alike r { n with screen := drawn.1 } :=
    { halike with screen := rfl }
  exact hdrawn.setRegister flagRegister _

theorem write (halike : m.Alike r n) {a b : Int} (hcell : a % 4096 = b % 4096) (value : UInt8) :
    (m.write a value).Alike r (n.write b value) where
  __ := halike
  memory := by
    have hsame : cell a = cell b := Fin.ext (congrArg Int.toNat hcell)
    simp only [Machine.write, halike.memory, hsame]

theorem writeBlock (halike : m.Alike r n) {a b : Int} (hcell : a % 4096 = b % 4096)
    (bytes : List UInt8) : (m.writeBlock a bytes).Alike r (n.writeBlock b bytes) := by
  induction bytes generalizing m n a b with
  | nil => exact halike
  | cons byte rest ih => exact ih (halike.write hcell byte) (Likeness.emod_add hcell 1)

theorem loadRegisters (halike : m.Alike r n) (x : Register) :
    (m.loadRegisters x).Alike r (n.loadRegisters x) := by
  have hcell := r.cell halike.index
  have hloaded (place : Fin 16) : m.read (m.index + place.val) = n.read (n.index + place.val) :=
    halike.read (Likeness.emod_add hcell place.val)
  simp only [Machine.loadRegisters, hloaded, halike.register]
  generalize Vector.ofFn _ = registers
  exact { halike with registers := rfl }

/-- What counts as the same address goes on to what does. -/
theorem next (halike : m.Alike r n) (distance : Int) :
    r.address ((m.pc + distance) % 65536) ((n.pc + distance) % 65536) :=
  r.advance distance halike.pc

end Alike

/-! ### Instructions -/

/-- An instruction does the same in two machines: it fails in both in the same way, or it leaves
alike machines that continue at what counts as the same address. -/
inductive ExecutedAlike (r : Likeness) :
    Except StackError (Machine × Int) → Except StackError (Machine × Int) → Prop
  /-- It fails in both. -/
  | error (error : StackError) : ExecutedAlike r (.error error) (.error error)
  /-- It leaves alike machines. -/
  | ok {after other : Machine} {next otherNext : Int} (halike : after.Alike r other)
      (hnext : r.address (next % 65536) (otherNext % 65536)) :
      ExecutedAlike r (.ok (after, next)) (.ok (other, otherNext))

theorem Alike.execute (halike : m.Alike r n) (instruction : Instruction) :
    ExecutedAlike r (m.execute instruction) (n.execute instruction) := by
  cases instruction
  case clearScreen => exact .ok { halike with screen := by rw [halike.screen] } (halike.next 2)
  case ret =>
    have hpop := halike.stack.pop?
    simp only [Machine.execute]
    generalize m.stack.pop? = popped, n.stack.pop? = other at hpop
    cases hpop with
    | none => exact .error _
    | some hpop => exact .ok { halike with stack := hpop.2 } (r.emod hpop.1)
  case call target =>
    have hword : r.address (Word.ofInt (m.pc + 2)).toNat (Word.ofInt (n.pc + 2)).toNat := by
      rw [Word.toNat_ofInt, Word.toNat_ofInt]
      exact halike.next 2
    have hpush := halike.stack.push? hword
    simp only [Machine.execute]
    generalize m.stack.push? _ = pushed, n.stack.push? _ = other at hpush
    cases hpush with
    | none => exact .error _
    | some hpush => exact .ok { halike with stack := hpush } (r.self _)
  case skipIfByte | skipUnlessByte | skipIfSame | skipUnlessSame =>
    simp only [Machine.execute, Machine.skipIf, halike.register]
    exact .ok halike (halike.next _)
  case skipIfPressed | skipUnlessPressed =>
    simp only [Machine.execute, Machine.skipIf, halike.namedKey, halike.keypad]
    exact .ok halike (halike.next _)
  case jump => exact .ok halike (r.self _)
  case jumpOffset =>
    simp only [Machine.execute, halike.register]
    exact .ok halike (r.self _)
  case setByte => exact .ok (halike.setRegister _ _) (halike.next 2)
  case addByte =>
    simp only [Machine.execute, halike.register]
    exact .ok (halike.setRegister _ _) (halike.next 2)
  case readDelay =>
    simp only [Machine.execute, halike.timers]
    exact .ok (halike.setRegister _ _) (halike.next 2)
  case combine => exact .ok (halike.combine _ _ _) (halike.next 2)
  case shiftRight | shiftLeft =>
    simp only [Machine.execute, halike.register]
    exact .ok (halike.setWithFlag _ _ _) (halike.next 2)
  case setIndex target =>
    have htarget : r.address target.val target.val := by
      have := target.isLt
      exact r.word (by omega) (by omega)
    exact .ok { halike with index := htarget } (halike.next 2)
  case pointToGlyph x =>
    have hglyph : r.address (Font.addressOf (n.namedKey x)) (Font.addressOf (n.namedKey x)) := by
      have := (n.namedKey x).isLt
      simp only [Font.addressOf, Font.height]
      exact r.word (by omega) (by omega)
    simp only [Machine.execute, halike.namedKey]
    exact .ok { halike with index := hglyph } (halike.next 2)
  case addIndex =>
    simp only [Machine.execute, halike.register]
    exact .ok { halike with index := r.advance _ halike.index } (halike.next 2)
  case random x mask =>
    obtain ⟨hbyte, hsource⟩ := r.draw halike.source
    simp only [Machine.execute, hbyte]
    have hdrawn : { m with source := m.source.draw.2 }.Alike r
        { n with source := n.source.draw.2 } := { halike with source := hsource }
    exact .ok (hdrawn.setRegister _ _) (halike.next 2)
  case draw => exact .ok (halike.drawSprite _ _ _) (halike.next 2)
  case waitForKey x =>
    have hdelivered : m.keypad.delivered? = n.keypad.delivered? := by rw [halike.keypad]
    simp only [Machine.execute, hdelivered]
    cases n.keypad.delivered? with
    | none => exact .ok { halike with waitingForKey := rfl } (r.emod halike.pc)
    | some key =>
      have hanswered : { m with waitingForKey := false }.Alike r
          { n with waitingForKey := false } := { halike with waitingForKey := rfl }
      exact .ok (hanswered.setRegister _ _) (halike.next 2)
  case setDelay | setSound =>
    simp only [Machine.execute, halike.register, halike.timers]
    exact .ok { halike with timers := rfl } (halike.next 2)
  case storeDecimal =>
    simp only [Machine.execute, halike.register]
    exact .ok (halike.writeBlock (r.cell halike.index) _) (halike.next 2)
  case storeRegisters =>
    simp only [Machine.execute, halike.registersUpTo]
    exact .ok (halike.writeBlock (r.cell halike.index) _) (halike.next 2)
  case loadRegisters => exact .ok (halike.loadRegisters _) (halike.next 2)

/-! ### Steps -/

/-- What two machines can do in a step if they are alike: in every case they do it together. -/
inductive StepsAlike (r : Likeness) (m n : Machine) : Outcome × Machine → Outcome × Machine → Prop
  /-- Both were halted. -/
  | refused {fault otherFault : Fault} (hhalted : m.fault = some fault)
      (hother : n.fault = some otherFault) :
      StepsAlike r m n (.refused fault, m) (.refused otherFault, n)
  /-- The word is no instruction. -/
  | reported (word : Word) (hrunning : m.fault = none) (hother : n.fault = none) :
      StepsAlike r m n
        (.executed word (some ⟨m.pc, word⟩), (m.report ⟨m.pc, word⟩).complete (m.pc + 2))
        (.executed word (some ⟨n.pc, word⟩), (n.report ⟨n.pc, word⟩).complete (n.pc + 2))
  /-- The instruction was executed. -/
  | completed (word : Word) {instruction : Instruction} {after other : Machine}
      {next otherNext : Int} (hexecute : m.execute instruction = .ok (after, next))
      (hother : n.execute instruction = .ok (other, otherNext)) (halike : after.Alike r other)
      (hnext : r.address (next % 65536) (otherNext % 65536)) :
      StepsAlike r m n (.executed word none, after.complete next)
        (.executed word none, other.complete otherNext)
  /-- The instruction faulted. -/
  | faulted (word : Word) (error : StackError) (hrunning : m.fault = none)
      (hother : n.fault = none) :
      StepsAlike r m n (.faulted ⟨error, m.pc, word⟩, { m with fault := some ⟨error, m.pc, word⟩ })
        (.faulted ⟨error, n.pc, word⟩, { n with fault := some ⟨error, n.pc, word⟩ })

namespace Alike

theorem fault_eq_none_iff (halike : m.Alike r n) : m.fault = none ↔ n.fault = none := by
  have hhalted : m.fault.isSome = n.fault.isSome := halike.halted
  rw [← Option.not_isSome_iff_eq_none, ← Option.not_isSome_iff_eq_none, hhalted]

theorem step_cases (halike : m.Alike r n) : StepsAlike r m n m.step n.step := by
  have hfetch := halike.fetch
  cases hm : m.fault with
  | some fault =>
    cases hn : n.fault with
    | none => rw [halike.fault_eq_none_iff.mpr hn] at hm; cases hm
    | some other =>
      rw [step_of_halted hm, step_of_halted hn]
      exact .refused hm hn
  | none =>
    have hn : n.fault = none := halike.fault_eq_none_iff.mp hm
    cases hdecode : Instruction.decode? m.fetch with
    | none =>
      rw [step_of_unknown hm hdecode, step_of_unknown hn (hfetch ▸ hdecode), hfetch]
      exact .reported _ hm hn
    | some instruction =>
      have hexecuted := halike.execute instruction
      generalize hfirst : m.execute instruction = first,
        hsecond : n.execute instruction = second at hexecuted
      cases hexecuted with
      | error error =>
        rw [step_of_execute_error hm hdecode hfirst,
          step_of_execute_error hn (hfetch ▸ hdecode) hsecond, hfetch]
        exact .faulted _ error hm hn
      | ok halike hnext =>
        rw [step_of_execute hm hdecode hfirst, step_of_execute hn (hfetch ▸ hdecode) hsecond,
          hfetch]
        exact .completed _ hfirst hsecond halike hnext

/-- Alike machines that continue at what counts as the same address are alike afterwards. -/
theorem complete (halike : m.Alike r n) {next otherNext : Int}
    (hnext : r.address (next % 65536) (otherNext % 65536)) :
    (m.complete next).Alike r (n.complete otherNext) where
  __ := halike
  pc := hnext
  instructionCount := by
    simp only [Machine.complete, halike.waitingForKey, halike.instructionCount]

end Alike

theorem isBisimulation_alike (r : Likeness) : IsBisimulation (Machine.Alike r) where
  step := by
    intro m n halike
    have hsteps := halike.step_cases
    generalize m.step = first, n.step = second at hsteps
    cases hsteps with
    | refused => exact ⟨rfl, halike⟩
    | faulted => exact ⟨rfl, { halike with halted := rfl }⟩
    | reported word =>
      have hreported : (m.report ⟨m.pc, word⟩).Alike r (n.report ⟨n.pc, word⟩) := { halike with }
      exact ⟨rfl, hreported.complete (halike.next 2)⟩
    | completed word hexecute hother hafter hnext => exact ⟨rfl, hafter.complete hnext⟩
  timers := Alike.timers
  withTimers timers halike := { halike with timers := rfl }
  keypad := Alike.keypad
  withKeypad keypad halike := { halike with keypad := rfl }

end Machine

end Cosmac
