import Cosmac.Proofs.Instruction.Decoding
import Cosmac.Proofs.Microcode.Devices

/-!
# Families in microcode

Every handler does on the cells of a machine what the instruction of the word does to the machine:
`settle_family0` to `settle_familyF` say so family by family, and `settle_handler` for all words.
The handlers know nothing of `Instruction.decode?`. That they report the words that it does not
decode, and no others, is part of what is proved here.
-/

set_option autoImplicit false

namespace Cosmac

/-- What a handler should leave of a machine that executes a word: where execution continues and
the cells, or the fault. -/
def Machine.handled (m : Machine) (heard : List Diagnostic) (w : Word) :
    Except Microcode.Trap Int × Microcode.Cells :=
  match Instruction.decode? w with
  | none => (.ok (m.pc + 2), (m.report ⟨m.pc, w⟩).cells (heard ++ [⟨m.pc, w⟩]))
  | some instruction =>
    match m.execute instruction with
    | .ok (after, next) => (.ok next, after.cells heard)
    | .error error => (.error (.fault ⟨error, m.pc, w⟩), m.cells heard)

namespace Microcode

/-- The answer of a handler with the next word in place of no address. -/
def settle (pc : Int) (result : Except Trap (Option Int) × Cells) : Except Trap Int × Cells :=
  (result.1.map fun next ↦ next.getD (pc + 2), result.2)

/-! ### Fields -/

/-- The fields of a word. -/
@[simps]
def fieldsOf (w : Word) : Fields where
  word := w.toNat
  family := w.family.val
  x := w.x.val
  y := w.y.val
  n := w.n.val
  byte := w.byte.toNat
  address := w.address.val

theorem toNat_byte (w : Word) : w.byte.toNat = w.toNat % 256 := by
  rw [Word.byte, UInt8.toNat_ofNat_of_lt' (Nat.mod_lt _ (by decide))]

theorem ofNumber_toNat (w : Word) : Fields.ofNumber w.toNat = fieldsOf w := by
  have hword : (w.toNat : Int) % 65536 = w.toNat := by
    have := w.toNat_lt
    omega
  have hfamily : (w.toNat : Int) / 4096 % 16 = (w.family.val : Int) := by
    have := w.toNat_lt
    simp only [Word.family]
    omega
  rw [Fields.ofNumber, hword, hfamily, fieldsOf, toNat_byte]
  rfl

/-- Fetching gives the fields of the word at the program counter. -/
theorem exec_fetch (m : Machine) (heard : List Diagnostic) :
    exec fetch (m.cells heard) = (.ok (fieldsOf m.fetch), m.cells heard) := by
  have hnumber : ((m.read m.pc).toNat : Int) % 256 * 256 + ((m.read (m.pc + 1)).toNat : Int) % 256 =
      m.fetch.toNat := by
    have hhigh := (m.read m.pc).toNat_lt
    have hlow := (m.read (m.pc + 1)).toNat_lt
    rw [Machine.fetch, Word.ofBytes, UInt16.toNat_ofNat_of_lt' (by simp [UInt16.size]; omega)]
    push_cast
    omega
  rw [fetch, exec_get_bind, Machine.cells_pc, exec_bind_of_ok (exec_readMemory m heard m.pc),
    exec_get_bind, Machine.cells_pc, exec_bind_of_ok (exec_readMemory m heard (m.pc + 1)),
    exec_pure, hnumber, ofNumber_toNat]

/-! ### Bytes -/

section Bytes

variable (a b : UInt8)

theorem emod_cast : (a.toNat : Int) % 256 = (a.toNat : Int) := by
  have := a.toNat_lt
  omega

theorem cast_add : ((a.toNat : Int) + b.toNat) % 256 = ((a + b).toNat : Int) := by
  rw [UInt8.toNat_add]
  push_cast
  rfl

theorem cast_sub : ((a.toNat : Int) - b.toNat) % 256 = ((a - b).toNat : Int) := by
  have := b.toNat_lt
  rw [UInt8.toNat_sub]
  omega

theorem cast_half : (a.toNat : Int) / (2 : Int) % 256 = ((a >>> 1).toNat : Int) := by
  have hshift : (a >>> 1).toNat = a.toNat / 2 := by
    rw [UInt8.toNat_shiftRight, Nat.shiftRight_eq_div_pow]
    rfl
  have := a.toNat_lt
  rw [hshift]
  omega

theorem cast_double : (a.toNat : Int) * (2 : Int) % 256 = ((a <<< 1).toNat : Int) := by
  have hshift : (a <<< 1).toNat = a.toNat * 2 % 256 := by
    rw [UInt8.toNat_shiftLeft, Nat.shiftLeft_eq]
    rfl
  rw [hshift]
  omega

theorem cast_hundreds : (a.toNat : Int) / (100 : Int) % 256 = ((a / 100).toNat : Int) := by
  have hhundred : (100 : UInt8).toNat = 100 := rfl
  have := a.toNat_lt
  rw [UInt8.toNat_div, hhundred]
  omega

theorem cast_tens :
    (a.toNat : Int) / (10 : Int) % (10 : Int) % 256 = ((a / 10 % 10).toNat : Int) := by
  have hten : (10 : UInt8).toNat = 10 := rfl
  rw [UInt8.toNat_mod, UInt8.toNat_div, hten]
  omega

theorem cast_ones : (a.toNat : Int) % (10 : Int) % 256 = ((a % 10).toNat : Int) := by
  have hten : (10 : UInt8).toNat = 10 := rfl
  rw [UInt8.toNat_mod, hten]
  omega

theorem cast_or : (a.toNat : Int).lor b.toNat = ((a ||| b).toNat : Int) := by
  rw [UInt8.toNat_or]
  rfl

theorem cast_and : (a.toNat : Int).land b.toNat = ((a &&& b).toNat : Int) := by
  rw [UInt8.toNat_and]
  rfl

theorem cast_xor : (a.toNat : Int).xor b.toNat = ((a ^^^ b).toNat : Int) := by
  rw [UInt8.toNat_xor]
  rfl

/-- A digit is zero where its number is. -/
theorem cast_ne_zero {digit : Nibble} (hdigit : digit ≠ 0) : (digit.val : Int) ≠ 0 := by
  intro hzero
  apply hdigit
  ext
  exact Int.ofNat_inj.mp hzero

/-- Bytes are equal where their numbers are. -/
theorem cast_beq : ((a.toNat : Int) == (b.toNat : Int)) = (a == b) := by
  rw [Bool.eq_iff_iff, beq_iff_eq, beq_iff_eq, Int.ofNat_inj, UInt8.toNat_inj]

theorem cast_bne : ((a.toNat : Int) != (b.toNat : Int)) = (a != b) := by
  rw [bne, cast_beq, bne]

end Bytes

/-! ### Parts of handlers -/

section Parts

variable (m : Machine) (heard : List Diagnostic)

theorem exec_skipIf (condition : Bool) :
    exec (skipIf condition) (m.cells heard) = (.ok (some (m.skipIf condition)), m.cells heard) :=
  rfl

theorem exec_report (w : Word) :
    exec (report (fieldsOf w)) (m.cells heard) =
      (.ok none, (m.report ⟨m.pc, w⟩).cells (heard ++ [⟨m.pc, w⟩])) := by
  rw [report, exec_bind_of_ok (exec_modify _ _), exec_pure]
  simp only [fieldsOf, Word.ofInt_toNat]
  rfl

theorem exec_fail {α : Type} (error : StackError) (w : Word) :
    exec (fail error (fieldsOf w) : Micro α) (m.cells heard) =
      (.error (.fault ⟨error, m.pc, w⟩), m.cells heard) := by
  rw [fail, exec_get_bind, exec_throw]
  simp only [fieldsOf, Word.ofInt_toNat]
  rfl

/-- The glyph of a key lies where the low digit of the register points. -/
theorem emod_mul_height (x : Register) :
    ((m.register x).toNat : Int) % (16 : Int) * (5 : Int) = Font.addressOf (m.namedKey x) := by
  simp only [Font.addressOf, Font.height, Machine.namedKey]
  omega

/-- Storing registers one by one stores them as a block. -/
theorem exec_storeFrom (place count : Nat) (hfits : place + count ≤ 16) :
    exec (storeFrom place count) (m.cells heard) =
      (.ok (), (m.writeBlock (m.index + place)
        ((m.registers.toList.drop place).take count)).cells heard) := by
  induction count generalizing m place with
  | zero => rfl
  | succ count ih =>
    let x : Register := ⟨place, by omega⟩
    have hregister : m.registers.toList.drop place =
        m.register x :: m.registers.toList.drop (place + 1) := by
      rw [List.drop_eq_getElem_cons (by simp; omega), Vector.getElem_toList]
      rfl
    have hnext : m.index + place + 1 = m.index + (place + 1 : Nat) := by omega
    rw [storeFrom, exec_get_bind, Machine.cells_index,
      exec_bind_of_ok (exec_readRegister m heard x),
      exec_bind_of_ok (exec_writeMemory m heard (m.index + place) (emod_cast (m.register x))),
      hregister, List.take_succ_cons, Machine.writeBlock, hnext]
    exact ih (m.write (m.index + place) (m.register x)) (place + 1) (by omega)

/-- The machine with some consecutive registers loaded from the index on. -/
def loadedFrom (m : Machine) (place count : Nat) : Machine :=
  { m with
    registers := Vector.ofFn fun (r : Fin 16) ↦
      if place ≤ r.val ∧ r.val < place + count then m.read (m.index + r.val) else m.register r }

theorem loadedFrom_zero (place : Nat) : loadedFrom m place 0 = m := by
  have hregisters : Vector.ofFn (fun (r : Fin 16) ↦
      if place ≤ r.val ∧ r.val < place + 0 then m.read (m.index + r.val) else m.register r) =
      m.registers := by
    ext r hr
    rw [Vector.getElem_ofFn, if_neg (by omega)]
    rfl
  rw [loadedFrom, hregisters]

/-- Loading a register first does not change what the others are loaded with. -/
theorem loadedFrom_succ (x : Register) (count : Nat) :
    loadedFrom m x.val (count + 1) =
      loadedFrom (m.setRegister x (m.read (m.index + x.val))) (x.val + 1) count := by
  have hregister (r : Register) : (m.setRegister x (m.read (m.index + x.val))).register r =
      if x.val = r.val then m.read (m.index + x.val) else m.register r :=
    Vector.getElem_set x.isLt r.isLt
  have hentry (r : Fin 16) :
      (if x.val ≤ r.val ∧ r.val < x.val + (count + 1) then m.read (m.index + r.val)
        else m.register r) =
      if x.val + 1 ≤ r.val ∧ r.val < x.val + 1 + count then m.read (m.index + r.val)
        else (m.setRegister x (m.read (m.index + x.val))).register r := by
    rw [hregister]
    by_cases hfirst : x.val = r.val
    · rw [if_pos (by omega), if_neg (by omega), if_pos hfirst, hfirst]
    · by_cases hrest : x.val + 1 ≤ r.val ∧ r.val < x.val + 1 + count
      · rw [if_pos (by omega), if_pos hrest]
      · rw [if_neg (by omega), if_neg hrest, if_neg hfirst]
  rw [loadedFrom, funext hentry]
  rfl

theorem loadedFrom_all (x : Register) : loadedFrom m 0 (x.val + 1) = m.loadRegisters x := by
  have hentry (r : Fin 16) :
      (if 0 ≤ r.val ∧ r.val < 0 + (x.val + 1) then m.read (m.index + r.val) else m.register r) =
        if r ≤ x then m.read (m.index + r.val) else m.register r := by
    by_cases hr : r ≤ x
    · rw [if_pos hr, if_pos (by omega)]
    · rw [if_neg hr, if_neg (by omega)]
  rw [loadedFrom, funext hentry]
  rfl

/-- Loading registers one by one loads them all from the machine as it was. -/
theorem exec_loadFrom (place count : Nat) (hfits : place + count ≤ 16) :
    exec (loadFrom place count) (m.cells heard) =
      (.ok (), (loadedFrom m place count).cells heard) := by
  induction count generalizing m place with
  | zero =>
    rw [loadedFrom_zero]
    rfl
  | succ count ih =>
    let x : Register := ⟨place, by omega⟩
    rw [loadFrom, exec_get_bind, Machine.cells_index,
      exec_bind_of_ok (exec_readMemory m heard (m.index + place)),
      exec_bind_of_ok (exec_writeRegister m heard x rfl), loadedFrom_succ m x]
    exact ih (m.setRegister x (m.read (m.index + place))) (place + 1) (by omega)

end Parts

/-! ### Families -/

section Families

variable (m : Machine) (heard : List Diagnostic) {w : Word}

theorem settle_family0 (hfamily : w.family.val = 0x0) :
    settle m.pc (exec (family0 (fieldsOf w)) (m.cells heard)) = m.handled heard w := by
  have hdecode : Instruction.decode? w =
      if w = 0x00E0 then some .clearScreen else if w = 0x00EE then some .ret else none := by
    simp only [Instruction.decode?, hfamily]
  have hclear : (w.toNat : Int) = 0x00E0 ↔ w = 0x00E0 := by
    rw [← UInt16.toNat_inj]
    exact Int.ofNat_inj
  have hret : (w.toNat : Int) = 0x00EE ↔ w = 0x00EE := by
    rw [← UInt16.toNat_inj]
    exact Int.ofNat_inj
  simp only [Machine.handled, hdecode, family0, fieldsOf_word, exec_ite, hclear, hret]
  split_ifs with hw hw'
  · rw [exec_bind_of_ok (exec_modify _ _), exec_pure, Machine.cells_pixels,
      Framebuffer.snapshot_map_false]
    rfl
  · rw [exec_get_bind, Machine.cells_depth, exec_ite]
    by_cases hempty : m.stack.depth.val = 0
    · rw [if_pos (by omega), exec_fail]
      simp only [Machine.execute, CallStack.pop?, dif_neg (by omega : ¬ 0 < m.stack.depth.val)]
      rfl
    · let top : Fin 16 := ⟨m.stack.depth.val - 1, by have := m.stack.depth.isLt; omega⟩
      have htop : (m.cells heard).depth - 1 = (top.val : Int) := by
        simp only [Machine.cells_depth, top]
        omega
      let popped : Machine := { m with stack := ⟨m.stack.slots, top.castSucc⟩ }
      have hpopped : { m.cells heard with depth := top.val } = popped.cells heard := rfl
      have hdepth : (popped.cells heard).depth = top.val := rfl
      simp only [Machine.execute, CallStack.pop?, dif_pos (by omega : 0 < m.stack.depth.val)]
      rw [if_neg (by omega), exec_bind_of_ok (exec_modify _ _), htop, hpopped, exec_get_bind,
        hdepth, exec_bind_of_ok (exec_readSlot popped heard top), exec_pure]
      rfl
  · rw [exec_report]
    rfl

theorem settle_family1 (hfamily : w.family.val = 0x1) :
    settle m.pc (exec (family1 (fieldsOf w)) (m.cells heard)) = m.handled heard w := by
  have hdecode : Instruction.decode? w = some (.jump w.address) := by
    simp only [Instruction.decode?, hfamily]
  rw [Machine.handled, hdecode]
  rfl

theorem settle_family2 (hfamily : w.family.val = 0x2) :
    settle m.pc (exec (family2 (fieldsOf w)) (m.cells heard)) = m.handled heard w := by
  have hdecode : Instruction.decode? w = some (.call w.address) := by
    simp only [Instruction.decode?, hfamily]
  rw [Machine.handled, hdecode, family2, exec_get_bind, exec_ite, Machine.cells_depth]
  by_cases hroom : m.stack.depth.val < 16
  · let free : Fin 16 := ⟨m.stack.depth.val, hroom⟩
    have haddress : (m.pc + 2) % 65536 = ((Word.ofInt (m.pc + 2)).toNat : Int) :=
      (Word.toNat_ofInt (m.pc + 2)).symm
    simp only [Machine.execute, CallStack.push?, dif_pos hroom]
    rw [if_neg (by omega), exec_get_bind, exec_get_bind, Machine.cells_depth, Machine.cells_pc,
      exec_bind_of_ok (exec_writeSlot m heard free haddress),
      exec_bind_of_ok (exec_modify _ _), exec_pure]
    rfl
  · simp only [Machine.execute, CallStack.push?, dif_neg hroom]
    rw [if_pos (by omega), exec_fail]
    rfl

theorem settle_family3 (hfamily : w.family.val = 0x3) :
    settle m.pc (exec (family3 (fieldsOf w)) (m.cells heard)) = m.handled heard w := by
  have hdecode : Instruction.decode? w = some (.skipIfByte w.x w.byte) := by
    simp only [Instruction.decode?, hfamily]
  rw [Machine.handled, hdecode, family3, fieldsOf_x, fieldsOf_byte,
    exec_bind_of_ok (exec_readRegister m heard w.x), cast_beq, exec_skipIf]
  rfl

theorem settle_family4 (hfamily : w.family.val = 0x4) :
    settle m.pc (exec (family4 (fieldsOf w)) (m.cells heard)) = m.handled heard w := by
  have hdecode : Instruction.decode? w = some (.skipUnlessByte w.x w.byte) := by
    simp only [Instruction.decode?, hfamily]
  rw [Machine.handled, hdecode, family4, fieldsOf_x, fieldsOf_byte,
    exec_bind_of_ok (exec_readRegister m heard w.x), cast_bne, exec_skipIf]
  rfl

theorem settle_family5 (hfamily : w.family.val = 0x5) :
    settle m.pc (exec (family5 (fieldsOf w)) (m.cells heard)) = m.handled heard w := by
  have hdecode : Instruction.decode? w =
      if w.n = 0 then some (.skipIfSame w.x w.y) else none := by
    simp only [Instruction.decode?, hfamily]
  rw [Machine.handled, hdecode, family5, fieldsOf_x, fieldsOf_y, fieldsOf_n, exec_ite]
  by_cases hn : w.n = 0
  · rw [if_pos hn, if_neg (by simp [hn]), exec_bind_of_ok (exec_readRegister m heard w.x),
      exec_bind_of_ok (exec_readRegister m heard w.y), cast_beq, exec_skipIf]
    rfl
  · rw [if_neg hn, if_pos (cast_ne_zero hn), exec_report]
    rfl

theorem settle_family6 (hfamily : w.family.val = 0x6) :
    settle m.pc (exec (family6 (fieldsOf w)) (m.cells heard)) = m.handled heard w := by
  have hdecode : Instruction.decode? w = some (.setByte w.x w.byte) := by
    simp only [Instruction.decode?, hfamily]
  rw [Machine.handled, hdecode, family6, fieldsOf_x, fieldsOf_byte,
    exec_bind_of_ok (exec_writeRegister m heard w.x rfl), exec_pure]
  rfl

theorem settle_family7 (hfamily : w.family.val = 0x7) :
    settle m.pc (exec (family7 (fieldsOf w)) (m.cells heard)) = m.handled heard w := by
  have hdecode : Instruction.decode? w = some (.addByte w.x w.byte) := by
    simp only [Instruction.decode?, hfamily]
  rw [Machine.handled, hdecode, family7, fieldsOf_x, fieldsOf_byte,
    exec_bind_of_ok (exec_readRegister m heard w.x),
    exec_bind_of_ok (exec_writeRegister m heard w.x (cast_add _ _)), exec_pure]
  rfl

theorem settle_family8 (hfamily : w.family.val = 0x8) :
    settle m.pc (exec (family8 (fieldsOf w)) (m.cells heard)) = m.handled heard w := by
  have hdecode : Instruction.decode? w = Instruction.arithmetic? w.x w.y w.n := by
    simp only [Instruction.decode?, hfamily]
  have hcarry : decide (255 < ((m.register w.x).toNat : Int) + (m.register w.y).toNat) =
      decide (255 < (m.register w.x).toNat + (m.register w.y).toNat) :=
    decide_eq_decide.mpr (by omega)
  have hborrow (a b : UInt8) : decide ((a.toNat : Int) < b.toNat) = decide (a < b) :=
    decide_eq_decide.mpr (by rw [UInt8.lt_iff_toNat_lt]; omega)
  have hlow (a : UInt8) : decide ((a.toNat : Int) % 2 = 1) = decide (a.toNat % 2 = 1) :=
    decide_eq_decide.mpr (by omega)
  have hhigh (a : UInt8) : decide ((a.toNat : Int) / 128 % 2 = 1) = decide (128 ≤ a.toNat) :=
    decide_eq_decide.mpr (by have := a.toNat_lt; omega)
  rw [family8, fieldsOf_x, fieldsOf_y, fieldsOf_n,
    exec_bind_of_ok (exec_readRegister m heard w.x),
    exec_bind_of_ok (exec_readRegister m heard w.y)]
  simp only [Machine.handled, hdecode, Instruction.arithmetic?_eq, exec_ite]
  split_ifs
  · rw [exec_bind_of_ok (exec_writeRegister m heard w.x rfl), exec_pure]
    rfl
  · rw [exec_bind_of_ok (exec_writeRegister m heard w.x (cast_or _ _)), exec_pure]
    rfl
  · rw [exec_bind_of_ok (exec_writeRegister m heard w.x (cast_and _ _)), exec_pure]
    rfl
  · rw [exec_bind_of_ok (exec_writeRegister m heard w.x (cast_xor _ _)), exec_pure]
    rfl
  · rw [exec_bind_of_ok (exec_writeWithFlag m heard w.x _ (cast_add _ _)), exec_pure, hcarry]
    rfl
  · rw [exec_bind_of_ok (exec_writeWithFlag m heard w.x _ (cast_sub _ _)), exec_pure, hborrow]
    rfl
  · rw [exec_bind_of_ok (exec_writeWithFlag m heard w.x _ (cast_half _)), exec_pure, hlow]
    rfl
  · rw [exec_bind_of_ok (exec_writeWithFlag m heard w.x _ (cast_sub _ _)), exec_pure, hborrow]
    rfl
  · rw [exec_bind_of_ok (exec_writeWithFlag m heard w.x _ (cast_double _)), exec_pure, hhigh]
    rfl
  · rw [exec_report]
    rfl

theorem settle_family9 (hfamily : w.family.val = 0x9) :
    settle m.pc (exec (family9 (fieldsOf w)) (m.cells heard)) = m.handled heard w := by
  have hdecode : Instruction.decode? w =
      if w.n = 0 then some (.skipUnlessSame w.x w.y) else none := by
    simp only [Instruction.decode?, hfamily]
  rw [Machine.handled, hdecode, family9, fieldsOf_x, fieldsOf_y, fieldsOf_n, exec_ite]
  by_cases hn : w.n = 0
  · rw [if_pos hn, if_neg (by simp [hn]), exec_bind_of_ok (exec_readRegister m heard w.x),
      exec_bind_of_ok (exec_readRegister m heard w.y), cast_bne, exec_skipIf]
    rfl
  · rw [if_neg hn, if_pos (cast_ne_zero hn), exec_report]
    rfl

theorem settle_familyA (hfamily : w.family.val = 0xA) :
    settle m.pc (exec (familyA (fieldsOf w)) (m.cells heard)) = m.handled heard w := by
  have hdecode : Instruction.decode? w = some (.setIndex w.address) := by
    simp only [Instruction.decode?, hfamily]
  rw [Machine.handled, hdecode]
  rfl

theorem settle_familyB (hfamily : w.family.val = 0xB) :
    settle m.pc (exec (familyB (fieldsOf w)) (m.cells heard)) = m.handled heard w := by
  have hdecode : Instruction.decode? w = some (.jumpOffset w.address) := by
    simp only [Instruction.decode?, hfamily]
  -- The leading digit of the address is the second digit of the word.
  have hoffset : Instruction.offsetRegister w.address = w.x := by
    ext
    simp only [Instruction.offsetRegister, Word.address, Word.x]
    omega
  rw [Machine.handled, hdecode, familyB, fieldsOf_x,
    exec_bind_of_ok (exec_readRegister m heard w.x), exec_pure]
  simp only [Machine.execute, hoffset]
  rfl

theorem settle_familyC (hfamily : w.family.val = 0xC) :
    settle m.pc (exec (familyC (fieldsOf w)) (m.cells heard)) = m.handled heard w := by
  have hdecode : Instruction.decode? w = some (.random w.x w.byte) := by
    simp only [Instruction.decode?, hfamily]
  let drawn : Machine := { m with source := m.source.draw.2 }
  rw [Machine.handled, hdecode, familyC, fieldsOf_x, fieldsOf_byte,
    exec_bind_of_ok (exec_drawByte m heard),
    exec_bind_of_ok (exec_writeRegister drawn heard w.x (cast_and _ _)), exec_pure]
  rfl

theorem settle_familyD (hfamily : w.family.val = 0xD) :
    settle m.pc (exec (familyD (fieldsOf w)) (m.cells heard)) = m.handled heard w := by
  have hdecode : Instruction.decode? w = some (.draw w.x w.y w.n) := by
    simp only [Instruction.decode?, hfamily]
  let sprite := m.readBlock m.index w.n
  let drawing := m.screen.draw (m.register w.x).toNat (m.register w.y).toNat sprite
  let drawn : Machine := { m with screen := drawing.1 }
  have hdraw : exec (drawRows (m.register w.x).toNat (m.register w.y).toNat (numbers sprite))
      (m.cells heard) = (.ok drawing.2, drawn.cells heard) := by
    have hrows := exec_drawRows m heard (m.register w.x).toNat (m.register w.y).toNat 0 sprite
    rwa [Nat.cast_zero, add_zero] at hrows
  let flag : UInt8 := if drawing.2 then 1 else 0
  have hflag : (if drawing.2 then 1 else 0 : Int) = (flag.toNat : Int) := by
    simp only [flag]
    cases drawing.2 <;> rfl
  have hwrite : exec (writeRegister 15 (if drawing.2 then 1 else 0)) (drawn.cells heard) =
      (.ok (), (drawn.setRegister flagRegister flag).cells heard) :=
    exec_writeRegister drawn heard flagRegister hflag
  rw [Machine.handled, hdecode, familyD, fieldsOf_x, fieldsOf_y, fieldsOf_n, exec_get_bind,
    Machine.cells_index, exec_bind_of_ok (exec_readBlock m heard m.index _),
    exec_bind_of_ok (exec_readRegister m heard w.x),
    exec_bind_of_ok (exec_readRegister m heard w.y), Int.toNat_natCast, exec_bind_of_ok hdraw,
    exec_bind_of_ok hwrite, exec_pure]
  rfl

theorem settle_familyE (hfamily : w.family.val = 0xE) :
    settle m.pc (exec (familyE (fieldsOf w)) (m.cells heard)) = m.handled heard w := by
  have hdecode : Instruction.decode? w =
      if (w.byte.toNat : Int) = 0x9E then some (.skipIfPressed w.x)
      else if (w.byte.toNat : Int) = 0xA1 then some (.skipUnlessPressed w.x) else none := by
    simp only [Instruction.decode?, hfamily]
    generalize w.byte.toNat = number
    split <;> grind
  have hkey : ((m.register w.x).toNat : Int) % 16 = ((m.namedKey w.x).val : Int) := rfl
  rw [familyE, fieldsOf_x, fieldsOf_byte, exec_bind_of_ok (exec_readRegister m heard w.x), hkey]
  simp only [Machine.handled, hdecode, exec_ite]
  split_ifs
  · rw [exec_bind_of_ok (exec_isHeld m heard _), exec_skipIf]
    rfl
  · rw [exec_bind_of_ok (exec_isHeld m heard _), exec_skipIf]
    rfl
  · rw [exec_report]
    rfl

theorem settle_familyF (hfamily : w.family.val = 0xF) :
    settle m.pc (exec (familyF (fieldsOf w)) (m.cells heard)) = m.handled heard w := by
  have hdecode : Instruction.decode? w = Instruction.peripheral? w.x w.byte := by
    simp only [Instruction.decode?, hfamily]
  have hcount : (w.x.val + 1 : Int).toNat = w.x.val + 1 := by omega
  have hread := exec_readRegister m heard w.x
  rw [familyF, fieldsOf_x, fieldsOf_byte, hcount]
  simp only [Machine.handled, hdecode, Instruction.peripheral?_eq, exec_ite]
  split_ifs
  · rw [exec_get_bind, Machine.cells_delay, exec_bind_of_ok (exec_writeRegister m heard w.x rfl),
      exec_pure]
    rfl
  · rw [exec_waitForKey]
    simp only [Machine.execute]
    cases m.keypad.delivered? <;> rfl
  · rw [exec_bind_of_ok hread, exec_bind_of_ok (exec_modify _ _), exec_pure, emod_cast]
    rfl
  · rw [exec_bind_of_ok hread, exec_bind_of_ok (exec_modify _ _), exec_pure, emod_cast]
    rfl
  · rw [exec_bind_of_ok hread, exec_bind_of_ok (exec_modify _ _), exec_pure]
    rfl
  · rw [exec_bind_of_ok hread, exec_bind_of_ok (exec_modify _ _), exec_pure, emod_mul_height]
    rfl
  · let value := m.register w.x
    let first := m.write m.index (value / 100)
    let second := first.write (m.index + 1) (value / 10 % 10)
    have hfirst : (first.cells heard).index = m.index := rfl
    have hsecond : (second.cells heard).index = m.index := rfl
    have hthird : m.index + 2 = m.index + 1 + 1 := by omega
    rw [exec_bind_of_ok hread, exec_get_bind, Machine.cells_index,
      exec_bind_of_ok (exec_writeMemory m heard m.index (cast_hundreds value)), exec_get_bind,
      hfirst, exec_bind_of_ok (exec_writeMemory first heard (m.index + 1) (cast_tens value)),
      exec_get_bind, hsecond, hthird,
      exec_bind_of_ok (exec_writeMemory second heard (m.index + 1 + 1) (cast_ones value)),
      exec_pure]
    rfl
  · rw [exec_bind_of_ok (exec_storeFrom m heard 0 (w.x.val + 1) (by omega)), exec_pure,
      Nat.cast_zero, add_zero, List.drop_zero]
    rfl
  · rw [exec_bind_of_ok (exec_loadFrom m heard 0 (w.x.val + 1) (by omega)), exec_pure,
      loadedFrom_all]
    rfl
  · rw [exec_report]
    rfl

/-- A handler that stands in the table is found. -/
theorem exec_handlerOf {digit : Nat} {handler : Handler} (hentry : handlers[digit]? = some handler)
    (c : Cells) : exec (handlerOf digit) c = (.ok handler, c) := by
  have hfound : entryAt handlers digit = .ok handler := by
    rw [entryAt, if_neg (by omega), Int.toNat_natCast, hentry]
  rw [handlerOf, hfound]
  rfl

/-- Every word has a handler, which does what the instruction of the word does. -/
theorem settle_handler (w : Word) :
    ∃ handler : Handler,
      (∀ c, exec (handlerOf (fieldsOf w).family) c = (.ok handler, c)) ∧
      settle m.pc (exec (handler (fieldsOf w)) (m.cells heard)) = m.handled heard w := by
  have hbound := w.family.isLt
  rw [fieldsOf_family]
  generalize hfamily : w.family.val = digit at hbound
  interval_cases digit
  · exact ⟨family0, exec_handlerOf rfl, settle_family0 m heard hfamily⟩
  · exact ⟨family1, exec_handlerOf rfl, settle_family1 m heard hfamily⟩
  · exact ⟨family2, exec_handlerOf rfl, settle_family2 m heard hfamily⟩
  · exact ⟨family3, exec_handlerOf rfl, settle_family3 m heard hfamily⟩
  · exact ⟨family4, exec_handlerOf rfl, settle_family4 m heard hfamily⟩
  · exact ⟨family5, exec_handlerOf rfl, settle_family5 m heard hfamily⟩
  · exact ⟨family6, exec_handlerOf rfl, settle_family6 m heard hfamily⟩
  · exact ⟨family7, exec_handlerOf rfl, settle_family7 m heard hfamily⟩
  · exact ⟨family8, exec_handlerOf rfl, settle_family8 m heard hfamily⟩
  · exact ⟨family9, exec_handlerOf rfl, settle_family9 m heard hfamily⟩
  · exact ⟨familyA, exec_handlerOf rfl, settle_familyA m heard hfamily⟩
  · exact ⟨familyB, exec_handlerOf rfl, settle_familyB m heard hfamily⟩
  · exact ⟨familyC, exec_handlerOf rfl, settle_familyC m heard hfamily⟩
  · exact ⟨familyD, exec_handlerOf rfl, settle_familyD m heard hfamily⟩
  · exact ⟨familyE, exec_handlerOf rfl, settle_familyE m heard hfamily⟩
  · exact ⟨familyF, exec_handlerOf rfl, settle_familyF m heard hfamily⟩

end Families

end Microcode

end Cosmac
