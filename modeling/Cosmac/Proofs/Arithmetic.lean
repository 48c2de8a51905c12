import Cosmac.Proofs.Frame

/-!
# Arithmetic with any registers

A word that computes names one or two registers. They may be the same, and one or both may be the
register that receives the flag. What they held before is read first, the result is written next and
the flag last, so that the flag wins where both go to one register. `Machine.Computes` says in whole
numbers what the registers hold afterwards, and `computes_with_any_registers` that a step, and
microcode with its single writes, leaves exactly that.
-/

set_option autoImplicit false

namespace Cosmac

/-! ### Words -/

namespace Word

/-- Whether a word combines or shifts registers in the way that the given last digit selects. -/
def isArithmetic (w : Word) (digit : Nat) : Bool :=
  w.family.val = 0x8 && w.n.val = digit

/-- Whether a word computes with registers: it adds a byte, or its last digit selects a way to
combine or shift registers. -/
def isComputation (w : Word) : Bool :=
  w.family.val = 0x7 ||
    (w.family.val = 0x8 && [0x0, 0x1, 0x2, 0x3, 0x4, 0x5, 0x6, 0x7, 0xE].contains w.n.val)

/-- Whether a word computes with registers and sets no flag. -/
def keepsFlag (w : Word) : Bool :=
  w.family.val = 0x7 || (w.family.val = 0x8 && w.n.val ≤ 0x3)

variable {w : Word}

theorem isArithmetic_iff {digit : Nat} :
    w.isArithmetic digit = true ↔ w.family.val = 0x8 ∧ w.n.val = digit := by
  rw [isArithmetic, Bool.and_eq_true, decide_eq_true_iff, decide_eq_true_iff]

theorem decode?_of_addByte (hfamily : w.family.val = 0x7) :
    Instruction.decode? w = some (.addByte w.x w.byte) :=
  Instruction.decode?_of_fits ⟨hfamily, rfl, rfl⟩

theorem decode?_of_combine (operation : Combination)
    (hword : w.isArithmetic operation.digit = true) :
    Instruction.decode? w = some (.combine operation w.x w.y) := by
  obtain ⟨hfamily, hlast⟩ := isArithmetic_iff.mp hword
  exact Instruction.decode?_of_fits ⟨hfamily, hlast, rfl, rfl⟩

theorem decode?_of_shiftRight (hword : w.isArithmetic 0x6 = true) :
    Instruction.decode? w = some (.shiftRight w.x) := by
  obtain ⟨hfamily, hlast⟩ := isArithmetic_iff.mp hword
  exact Instruction.decode?_of_fits ⟨hfamily, hlast, rfl⟩

theorem decode?_of_shiftLeft (hword : w.isArithmetic 0xE = true) :
    Instruction.decode? w = some (.shiftLeft w.x) := by
  obtain ⟨hfamily, hlast⟩ := isArithmetic_iff.mp hword
  exact Instruction.decode?_of_fits ⟨hfamily, hlast, rfl⟩

/-- A word that computes encodes an addition of a byte, a combination or a shift. -/
theorem decode?_of_isComputation (hword : w.isComputation = true) :
    Instruction.decode? w = some (.addByte w.x w.byte) ∨
      (∃ operation, Instruction.decode? w = some (.combine operation w.x w.y)) ∨
      Instruction.decode? w = some (.shiftRight w.x) ∨
      Instruction.decode? w = some (.shiftLeft w.x) := by
  rw [isComputation, Bool.or_eq_true, Bool.and_eq_true, decide_eq_true_iff, decide_eq_true_iff,
    List.contains_iff_mem] at hword
  obtain hfamily | ⟨hfamily, hlast⟩ := hword
  · exact .inl (decode?_of_addByte hfamily)
  · have hdigit (operation : Combination) (hn : w.n.val = operation.digit) :
        ∃ operation, Instruction.decode? w = some (.combine operation w.x w.y) :=
      ⟨operation, decode?_of_combine operation (isArithmetic_iff.mpr ⟨hfamily, hn⟩)⟩
    simp only [List.mem_cons, List.not_mem_nil, or_false] at hlast
    obtain hn | hn | hn | hn | hn | hn | hn | hn | hn := hlast
    · exact .inr (.inl (hdigit .copy hn))
    · exact .inr (.inl (hdigit .or hn))
    · exact .inr (.inl (hdigit .and hn))
    · exact .inr (.inl (hdigit .xor hn))
    · exact .inr (.inl (hdigit .add hn))
    · exact .inr (.inl (hdigit .subtract hn))
    · exact .inr (.inr (.inl (decode?_of_shiftRight (isArithmetic_iff.mpr ⟨hfamily, hn⟩))))
    · exact .inr (.inl (hdigit .subtractFrom hn))
    · exact .inr (.inr (.inr (decode?_of_shiftLeft (isArithmetic_iff.mpr ⟨hfamily, hn⟩))))

/-- A word that computes changes its first register and the flag at most. -/
theorem MayChange.of_isComputation {keyHeld : Bool} {r : Register}
    (hword : w.isComputation = true) (hmay : w.MayChange keyHeld r) :
    r = w.x ∨ r = flagRegister := by
  have hfamily : w.family.val = 0x7 ∨ w.family.val = 0x8 := by
    simp only [isComputation, Bool.or_eq_true, Bool.and_eq_true, decide_eq_true_iff] at hword
    exact hword.imp_right And.left
  cases hmay with
  | valued | combined => exact .inl rfl
  | flagged hfamily hlast hr => exact hr
  | drawn => exact .inr rfl
  | delayed hother | received hother | loaded hother =>
    rw [family_of_isPeripheral hother] at hfamily
    omega

/-- Without a flag, it is the first register at most. -/
theorem MayChange.of_keepsFlag {keyHeld : Bool} {r : Register} (hword : w.keepsFlag = true)
    (hmay : w.MayChange keyHeld r) : r = w.x := by
  have hplain : w.family.val = 0x7 ∨ w.family.val = 0x8 ∧ w.n.val ≤ 0x3 := by
    simpa only [keepsFlag, Bool.or_eq_true, Bool.and_eq_true, decide_eq_true_iff] using hword
  cases hmay with
  | valued | combined => rfl
  | flagged hfamily hlast hr =>
    simp only [List.mem_cons, List.not_mem_nil, or_false] at hlast
    omega
  | drawn hfamily => omega
  | delayed hother | received hother | loaded hother =>
    have := family_of_isPeripheral hother
    omega

end Word

/-! ### Bytes -/

section Bytes

variable (a b : UInt8)

/-- A sum of bytes and its carry. -/
theorem toNat_add_carry :
    (a + b).toNat + 256 * (if 256 ≤ a.toNat + b.toNat then 1 else 0) = a.toNat + b.toNat := by
  have := a.toNat_lt
  have := b.toNat_lt
  rw [UInt8.toNat_add]
  split <;> omega

/-- Half a byte and the bit that falls out. -/
theorem two_mul_toNat_shiftRight : 2 * (a >>> 1).toNat + a.toNat % 2 = a.toNat := by
  have hhalf := Microcode.cast_half a
  have := a.toNat_lt
  omega

/-- Twice a byte and the bit that falls out. -/
theorem toNat_shiftLeft_add : (a <<< 1).toNat + 256 * (a.toNat / 128) = 2 * a.toNat := by
  have hdouble := Microcode.cast_double a
  have := a.toNat_lt
  omega

end Bytes

namespace Machine

/-! ### Registers -/

/-- The number in a register. -/
def number (m : Machine) (x : Register) : Nat :=
  (m.register x).toNat

/-- What a word that computes makes of the registers of a machine. Where the first register of the
word is the one of the flag, nothing is said of the result, because the flag has replaced it. -/
structure Computes (m : Machine) (w : Word) (after : Machine) : Prop where
  /-- A copy. -/
  copied : w.isArithmetic 0x0 = true → after.number w.x = m.number w.y
  /-- A disjunction, bit by bit. -/
  disjoined : w.isArithmetic 0x1 = true → after.number w.x = m.number w.x ||| m.number w.y
  /-- A conjunction, bit by bit. -/
  conjoined : w.isArithmetic 0x2 = true → after.number w.x = m.number w.x &&& m.number w.y
  /-- An exclusive disjunction, bit by bit. -/
  excluded : w.isArithmetic 0x3 = true → after.number w.x = m.number w.x ^^^ m.number w.y
  /-- A sum, whose carry is the flag. -/
  added : w.isArithmetic 0x4 = true →
    after.number flagRegister = (if 256 ≤ m.number w.x + m.number w.y then 1 else 0) ∧
    (w.x ≠ flagRegister →
      after.number w.x + 256 * after.number flagRegister = m.number w.x + m.number w.y)
  /-- A difference. The flag tells whether it is positive. -/
  subtracted : w.isArithmetic 0x5 = true →
    after.number flagRegister = (if m.number w.y < m.number w.x then 1 else 0) ∧
    (w.x ≠ flagRegister → (after.number w.x : Int) = (m.number w.x - m.number w.y : Int) % 256)
  /-- A half. The flag is the low bit. -/
  halved : w.isArithmetic 0x6 = true →
    after.number flagRegister = m.number w.x % 2 ∧
    (w.x ≠ flagRegister → 2 * after.number w.x + after.number flagRegister = m.number w.x)
  /-- A difference the other way round. -/
  subtractedFrom : w.isArithmetic 0x7 = true →
    after.number flagRegister = (if m.number w.x < m.number w.y then 1 else 0) ∧
    (w.x ≠ flagRegister → (after.number w.x : Int) = (m.number w.y - m.number w.x : Int) % 256)
  /-- A double. The flag is the high bit. -/
  doubled : w.isArithmetic 0xE = true →
    after.number flagRegister = m.number w.x / 128 ∧
    (w.x ≠ flagRegister → after.number w.x + 256 * after.number flagRegister = 2 * m.number w.x)
  /-- A sum with a byte, without a carry. -/
  addedByte : w.family.val = 0x7 → after.number w.x = (m.number w.x + w.byte.toNat) % 256
  /-- Words that set no flag leave it alone, unless it is in their first register. -/
  flag : w.keepsFlag = true → w.x ≠ flagRegister →
    after.register flagRegister = m.register flagRegister
  /-- All other registers stay as they are. -/
  others : ∀ r : Register, r ≠ w.x → r ≠ flagRegister → after.register r = m.register r

variable {m : Machine}

theorem number_setRegister (m : Machine) (x : Register) (value : UInt8) :
    (m.setRegister x value).number x = value.toNat := by
  rw [number, register_setRegister, if_pos rfl]

/-- The flag is there even where the result went to the same register. -/
theorem number_flag_setWithFlag (m : Machine) (x : Register) (value : UInt8) (flag : Bool) :
    (m.setWithFlag x value flag).number flagRegister = if flag then 1 else 0 := by
  rw [setWithFlag, number_setRegister]
  cases flag <;> rfl

theorem number_setWithFlag {x : Register} (hx : x ≠ flagRegister) (m : Machine) (value : UInt8)
    (flag : Bool) : (m.setWithFlag x value flag).number x = value.toNat := by
  rw [setWithFlag, number, register_setRegister, if_neg hx, register_setRegister, if_pos rfl]

/-! ### Steps -/

section Steps

variable {instruction : Instruction} {next : Int} {x : Register} {a b value : UInt8} {flag : Bool}
variable (hrunning : m.fault = none) (hdecode : Instruction.decode? m.fetch = some instruction)

include hrunning hdecode

/-- A step whose instruction sets a register. -/
theorem number_step (hexecute : m.execute instruction = .ok (m.setRegister x value, next)) :
    m.step.2.number x = value.toNat := by
  rw [step_of_execute hrunning hdecode hexecute]
  exact number_setRegister m x value

/-- A step whose instruction sets a register and then the flag. -/
theorem flag_step (hexecute : m.execute instruction = .ok (m.setWithFlag x value flag, next)) :
    m.step.2.number flagRegister = (if flag then 1 else 0) ∧
      (x ≠ flagRegister → m.step.2.number x = value.toNat) := by
  rw [step_of_execute hrunning hdecode hexecute]
  exact ⟨number_flag_setWithFlag m x value flag, fun hx ↦ number_setWithFlag hx m value flag⟩

theorem sum_step
    (hexecute : m.execute instruction =
      .ok (m.setWithFlag x (a + b) (255 < a.toNat + b.toNat), next)) :
    m.step.2.number flagRegister = (if 256 ≤ a.toNat + b.toNat then 1 else 0) ∧
      (x ≠ flagRegister →
        m.step.2.number x + 256 * m.step.2.number flagRegister = a.toNat + b.toNat) := by
  obtain ⟨hflag, hvalue⟩ := flag_step hrunning hdecode hexecute
  have hcarry : m.step.2.number flagRegister = if 256 ≤ a.toNat + b.toNat then 1 else 0 :=
    hflag.trans (if_congr decide_eq_true_iff rfl rfl)
  refine ⟨hcarry, fun hx ↦ ?_⟩
  rw [hvalue hx, hcarry, toNat_add_carry]

theorem difference_step
    (hexecute : m.execute instruction = .ok (m.setWithFlag x (a - b) (b < a), next)) :
    m.step.2.number flagRegister = (if b.toNat < a.toNat then 1 else 0) ∧
      (x ≠ flagRegister → (m.step.2.number x : Int) = (a.toNat - b.toNat : Int) % 256) := by
  obtain ⟨hflag, hvalue⟩ := flag_step hrunning hdecode hexecute
  refine ⟨hflag.trans (if_congr decide_eq_true_iff rfl rfl), fun hx ↦ ?_⟩
  rw [hvalue hx, Microcode.cast_sub]

theorem half_step
    (hexecute : m.execute instruction = .ok (m.setWithFlag x (a >>> 1) (a.toNat % 2 = 1), next)) :
    m.step.2.number flagRegister = a.toNat % 2 ∧
      (x ≠ flagRegister → 2 * m.step.2.number x + m.step.2.number flagRegister = a.toNat) := by
  obtain ⟨hflag, hvalue⟩ := flag_step hrunning hdecode hexecute
  have hlow : m.step.2.number flagRegister = a.toNat % 2 := by
    rw [hflag, if_congr decide_eq_true_iff rfl rfl]
    split <;> omega
  refine ⟨hlow, fun hx ↦ ?_⟩
  rw [hvalue hx, hlow, two_mul_toNat_shiftRight]

theorem double_step
    (hexecute : m.execute instruction = .ok (m.setWithFlag x (a <<< 1) (128 ≤ a.toNat), next)) :
    m.step.2.number flagRegister = a.toNat / 128 ∧
      (x ≠ flagRegister →
        m.step.2.number x + 256 * m.step.2.number flagRegister = 2 * a.toNat) := by
  obtain ⟨hflag, hvalue⟩ := flag_step hrunning hdecode hexecute
  have hhigh : m.step.2.number flagRegister = a.toNat / 128 := by
    have := a.toNat_lt
    rw [hflag, if_congr decide_eq_true_iff rfl rfl]
    split <;> omega
  refine ⟨hhigh, fun hx ↦ ?_⟩
  rw [hvalue hx, hhigh, toNat_shiftLeft_add]

end Steps

section Words

variable (hrunning : m.fault = none) (hword : m.fetch.isComputation = true)

include hrunning hword

/-- A word that computes is executed, and it is no unknown word. -/
theorem step_of_isComputation : m.step = (.executed m.fetch none, m.step.2) := by
  obtain hdecode | ⟨operation, hdecode⟩ | hdecode | hdecode := Word.decode?_of_isComputation hword
  all_goals rw [step_of_execute hrunning hdecode rfl]

/-- What the registers hold after a word that computes. -/
theorem computes_step : m.Computes m.fetch m.step.2 where
  copied hword := number_step hrunning (Word.decode?_of_combine .copy hword) rfl
  disjoined hword := by
    rw [number_step hrunning (Word.decode?_of_combine .or hword) rfl, UInt8.toNat_or]
    rfl
  conjoined hword := by
    rw [number_step hrunning (Word.decode?_of_combine .and hword) rfl, UInt8.toNat_and]
    rfl
  excluded hword := by
    rw [number_step hrunning (Word.decode?_of_combine .xor hword) rfl, UInt8.toNat_xor]
    rfl
  added hword := sum_step hrunning (Word.decode?_of_combine .add hword) rfl
  subtracted hword := difference_step hrunning (Word.decode?_of_combine .subtract hword) rfl
  halved hword := half_step hrunning (Word.decode?_of_shiftRight hword) rfl
  subtractedFrom hword := difference_step hrunning (Word.decode?_of_combine .subtractFrom hword) rfl
  doubled hword := double_step hrunning (Word.decode?_of_shiftLeft hword) rfl
  addedByte hfamily := by
    rw [number_step hrunning (Word.decode?_of_addByte hfamily) rfl, UInt8.toNat_add]
    rfl
  flag hkeeps hx := by
    have hframe := (frame_of_step (step_of_isComputation hrunning hword)).2
    by_contra hchanged
    exact hx ((hframe.registers flagRegister hchanged).of_keepsFlag hkeeps).symm
  others r hfirst hflag := by
    have hframe := (frame_of_step (step_of_isComputation hrunning hword)).2
    by_contra hchanged
    obtain hr | hr := (hframe.registers r hchanged).of_isComputation hword
    · exact hfirst hr
    · exact hflag hr

end Words

end Machine

/-- Arithmetic with any registers. A step at a word that computes executes it, in the machine as in
microcode, and leaves what the word says in whole numbers, whichever registers it names. -/
theorem computes_with_any_registers {m : Machine} (hrunning : m.fault = none)
    (hword : m.fetch.isComputation = true) (heard : List Diagnostic) :
    m.step.1 = .executed m.fetch none ∧ m.Computes m.fetch m.step.2 ∧
      Microcode.exec Microcode.step (m.cells heard) =
        (.ok m.fetch.toNat, m.step.2.cells heard) := by
  have hstep := Machine.step_of_isComputation hrunning hword
  exact ⟨congrArg Prod.fst hstep, Machine.computes_step hrunning hword,
    Microcode.exec_step_of_known m heard hstep⟩

/-- The flag register is added to itself. The carry is all that is left in it. -/
theorem computes_with_any_registers_of_flag :
    let m := (Machine.powerOn ⟨#[0x8F, 0xF4], by decide⟩ .screen .idle .silent).setRegister
      flagRegister 200
    m.fault = none ∧ m.fetch.isComputation = true ∧ m.step.1 = .executed 0x8FF4 none ∧
      m.step.2.number flagRegister = 1 ∧
      ∀ r, r ≠ flagRegister → m.step.2.register r = m.register r := by
  intro m
  have hrunning : m.fault = none := rfl
  have hfetch : m.fetch = 0x8FF4 :=
    (Machine.fetch_powerOn ⟨#[0x8F, 0xF4], by decide⟩ .screen .idle .silent).trans (by decide)
  have hword : m.fetch.isComputation = true := by
    rw [hfetch]
    rfl
  obtain ⟨hexecuted, hcomputes, -⟩ := computes_with_any_registers hrunning hword []
  rw [hfetch] at hexecuted hcomputes
  have hbefore : m.number flagRegister = 200 := Machine.number_setRegister _ flagRegister 200
  obtain ⟨hcarry, -⟩ := hcomputes.added rfl
  have hnames : (0x8FF4 : Word).x = flagRegister ∧ (0x8FF4 : Word).y = flagRegister := ⟨rfl, rfl⟩
  rw [hnames.1, hnames.2, hbefore] at hcarry
  exact ⟨hrunning, hword, hexecuted, hcarry, fun r hr ↦ hcomputes.others r hr hr⟩

end Cosmac
