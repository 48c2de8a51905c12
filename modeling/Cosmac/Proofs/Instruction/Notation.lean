import Cosmac.Instruction.Mnemonic
import Cosmac.Proofs.Instruction.Pattern
import Cosmac.Proofs.Number.Notation

/-!
# Reading notation back

An operand can be told from its characters (`Operand.chars_injective`), a name and operands from
the text that they make (`Mnemonic.eq_of_chars_eq`), and an instruction from its name and operands
(`Instruction.ofMnemonic?_mnemonic`). A word can be told from its instruction, unless that is a
shift, which leaves the third digit open (`Word.eq_of_fits`), and from its notation as data
(`Word.dataChars_injective`).
-/

set_option autoImplicit false

namespace Cosmac

/-! ### Digits -/

namespace Numeral

theorem hexDigits_injective (width : Nat) : Function.Injective (hexDigits width) := by
  intro n m hdigits
  exact hexadecimal_injective width (congrArg String.ofList hdigits)

/-- A number that fits into a width is written in that width. -/
theorem length_hexDigits {width n : Nat} (hwidth : 0 < width) (hn : n < 16 ^ width) :
    (hexDigits width n).length = width := by
  have hlength := (length_digits_le_iff (by decide : 2 ≤ 16) n hwidth).mpr hn
  rw [hexDigits, List.length_map, padStart, List.length_append, List.length_replicate]
  omega

theorem decimalDigits_injective :
    ∀ count other : Nibble, decimalDigits count = decimalDigits other → count = other := by
  decide

theorem not_mem_hexDigits {c : Char} (hc : ∀ d < 16, digitChar d ≠ c) (width n : Nat) :
    c ∉ hexDigits width n := by
  intro hmem
  obtain ⟨d, hd, hdigit⟩ := List.mem_map.mp hmem
  exact hc d (lt_of_mem_padStart (by decide) hd) hdigit

end Numeral

/-! ### Operands -/

namespace Operand

/-- Whether an operand is a count of rows, the only one in decimal notation. -/
def isRows : Operand → Bool
  | rows _ => true
  | _ => false

/-- A count of rows begins with a digit, and not like a number in hexadecimal notation. -/
theorem isRows_eq (operand : Operand) :
    operand.isRows = (operand.chars.head?.any Char.isDigit && operand.chars[1]? != some 'x') := by
  cases operand with
  | rows count =>
    revert count
    decide
  | _ => rfl

/-- An address has one more digit than a byte. -/
theorem hexDigits_byte_ne_address (value : UInt8) (target : Address) :
    Numeral.hexDigits 2 value.toNat ≠ Numeral.hexDigits 3 target := by
  have hbyte : (Numeral.hexDigits 2 value.toNat).length = 2 :=
    Numeral.length_hexDigits (by decide) value.toNat_lt
  have haddress : (Numeral.hexDigits 3 target).length = 3 :=
    Numeral.length_hexDigits (by decide) target.isLt
  intro hdigits
  rw [hdigits, haddress] at hbyte
  cases hbyte

theorem chars_injective : Function.Injective chars := by
  intro a b hchars
  have hrows : a.isRows = b.isRows := by rw [isRows_eq, isRows_eq, hchars]
  cases a
  case rows count =>
    cases b <;> cases hrows
    rename_i other
    exact congrArg rows (Numeral.decimalDigits_injective count other hchars)
  all_goals cases b <;> simp [chars, isRows] at hchars hrows ⊢
  case register.register => exact Fin.ext (Numeral.hexDigits_injective 1 hchars)
  case byte.byte => exact UInt8.toNat_inj.mp (Numeral.hexDigits_injective 2 hchars)
  case address.address => exact Fin.ext (Numeral.hexDigits_injective 3 hchars)
  -- Bytes and addresses begin alike.
  case byte.address value target => exact hexDigits_byte_ne_address value target hchars
  case address.byte target value => exact hexDigits_byte_ne_address value target hchars.symm

/-- No operand contains what stands between operands. -/
theorem comma_not_mem_chars (operand : Operand) : ',' ∉ operand.chars := by
  have hdigit : ∀ d < 16, Numeral.digitChar d ≠ ',' := by decide
  cases operand with
  | register x => simpa [chars] using Numeral.not_mem_hexDigits hdigit 1 x
  | byte value => simpa [chars] using Numeral.not_mem_hexDigits hdigit 2 value.toNat
  | address target => simpa [chars] using Numeral.not_mem_hexDigits hdigit 3 target
  | rows count =>
    revert count
    decide
  | _ => decide

end Operand

/-! ### Mnemonics -/

namespace Mnemonic

/-- Behind the first part, parts with commas and blanks between them are parts behind a blank with
commas between them. -/
theorem intercalate_comma_blank (first : List Char) (rest : List (List Char)) :
    [',', ' '].intercalate (first :: rest) = [','].intercalate (first :: rest.map (' ' :: ·)) := by
  induction rest generalizing first with
  | nil => rfl
  | cons second rest ih =>
    rw [List.intercalate_cons_cons, ih, List.map_cons, List.intercalate_cons_cons]
    cases rest <;> simp [List.intercalate]

/-- Parts without commas can be told from the text that they make. -/
theorem eq_of_intercalate_eq {first second : List Char} {xs ys : List (List Char)}
    (hxs : ∀ part ∈ first :: xs, ',' ∉ part) (hys : ∀ part ∈ second :: ys, ',' ∉ part)
    (htexts : [',', ' '].intercalate (first :: xs) = [',', ' '].intercalate (second :: ys)) :
    first :: xs = second :: ys := by
  have hsplit (part : List Char) (parts : List (List Char))
      (hparts : ∀ other ∈ part :: parts, ',' ∉ other) :
      List.splitOn ',' ([',', ' '].intercalate (part :: parts)) =
        part :: parts.map (' ' :: ·) := by
    rw [intercalate_comma_blank]
    refine List.splitOn_intercalate ',' ?_ (List.cons_ne_nil _ _)
    intro other hother
    rcases List.mem_cons.mp hother with rfl | hother
    · exact hparts _ List.mem_cons_self
    · obtain ⟨behind, hbehind, rfl⟩ := List.mem_map.mp hother
      simpa using hparts behind (List.mem_cons_of_mem part hbehind)
  have hparts := congrArg (List.splitOn ',') htexts
  rw [hsplit first xs hxs, hsplit second ys hys, List.cons_eq_cons] at hparts
  rw [hparts.1, (List.cons_injective (a := ' ')).list_map hparts.2]

/-- What stands behind the name. -/
def operandChars (mnemonic : Mnemonic) : List Char :=
  match mnemonic.operands with
  | [] => []
  | operands => ' ' :: [',', ' '].intercalate (operands.map Operand.chars)

theorem chars_eq (mnemonic : Mnemonic) :
    mnemonic.chars = mnemonic.name.toList ++ mnemonic.operandChars := by
  obtain ⟨name, _ | ⟨operand, rest⟩⟩ := mnemonic
  · exact (List.append_nil _).symm
  · rfl

/-- A name ends where the first blank stands. -/
theorem takeWhile_chars {mnemonic : Mnemonic} (hname : ' ' ∉ mnemonic.name.toList) :
    mnemonic.chars.takeWhile (· != ' ') = mnemonic.name.toList := by
  have hword : ∀ c ∈ mnemonic.name.toList, (c != ' ') = true := by
    intro c hc
    exact bne_iff_ne.mpr fun hblank ↦ hname (hblank ▸ hc)
  have hrest : mnemonic.operandChars.takeWhile (· != ' ') = [] := by
    unfold operandChars
    split <;> rfl
  rw [chars_eq, List.takeWhile_append_of_pos hword, hrest, List.append_nil]

/-- The parts of a mnemonic can be told from its text if the name is a single word. -/
theorem eq_of_chars_eq {m n : Mnemonic} (hm : ' ' ∉ m.name.toList) (hn : ' ' ∉ n.name.toList)
    (hchars : m.chars = n.chars) : m = n := by
  have hname : m.name.toList = n.name.toList := by
    rw [← takeWhile_chars hm, ← takeWhile_chars hn, hchars]
  have hoperands : m.operandChars = n.operandChars := by
    rw [chars_eq, chars_eq, hname] at hchars
    exact List.append_cancel_left hchars
  obtain ⟨name, operands⟩ := m
  obtain ⟨otherName, others⟩ := n
  obtain rfl : name = otherName := String.toList_inj.mp hname
  congr 1
  cases operands with
  | nil =>
    cases others with
    | nil => rfl
    | cons => cases hoperands
  | cons operand rest =>
    cases others with
    | nil => cases hoperands
    | cons other others =>
      have hcomma (operands : List Operand) : ∀ part ∈ operands.map Operand.chars, ',' ∉ part := by
        intro part hpart
        obtain ⟨operand, -, rfl⟩ := List.mem_map.mp hpart
        exact operand.comma_not_mem_chars
      have hparts : (operand :: rest).map Operand.chars = (other :: others).map Operand.chars :=
        eq_of_intercalate_eq (hcomma (operand :: rest)) (hcomma (other :: others))
          (List.tail_eq_of_cons_eq hoperands)
      exact Operand.chars_injective.list_map hparts

end Mnemonic

/-! ### Instructions -/

namespace Instruction

/-- The instruction with the given notation, if there is one. -/
def ofMnemonic? (mnemonic : Mnemonic) : Option Instruction :=
  match mnemonic.name, mnemonic.operands with
  | "CLS", [] => some .clearScreen
  | "RET", [] => some .ret
  | "JP", [.address target] => some (.jump target)
  | "JP", [.register _, .address target] => some (.jumpOffset target)
  | "CALL", [.address target] => some (.call target)
  | "SE", [.register x, .byte byte] => some (.skipIfByte x byte)
  | "SE", [.register x, .register y] => some (.skipIfSame x y)
  | "SNE", [.register x, .byte byte] => some (.skipUnlessByte x byte)
  | "SNE", [.register x, .register y] => some (.skipUnlessSame x y)
  | "LD", [.register x, .byte byte] => some (.setByte x byte)
  | "LD", [.register x, .register y] => some (.combine .copy x y)
  | "LD", [.register x, .delayTimer] => some (.readDelay x)
  | "LD", [.register x, .key] => some (.waitForKey x)
  | "LD", [.register x, .memory] => some (.loadRegisters x)
  | "LD", [.index, .address target] => some (.setIndex target)
  | "LD", [.delayTimer, .register x] => some (.setDelay x)
  | "LD", [.soundTimer, .register x] => some (.setSound x)
  | "LD", [.glyph, .register x] => some (.pointToGlyph x)
  | "LD", [.decimal, .register x] => some (.storeDecimal x)
  | "LD", [.memory, .register x] => some (.storeRegisters x)
  | "ADD", [.register x, .byte byte] => some (.addByte x byte)
  | "ADD", [.register x, .register y] => some (.combine .add x y)
  | "ADD", [.index, .register x] => some (.addIndex x)
  | "OR", [.register x, .register y] => some (.combine .or x y)
  | "AND", [.register x, .register y] => some (.combine .and x y)
  | "XOR", [.register x, .register y] => some (.combine .xor x y)
  | "SUB", [.register x, .register y] => some (.combine .subtract x y)
  | "SUBN", [.register x, .register y] => some (.combine .subtractFrom x y)
  | "SHR", [.register x] => some (.shiftRight x)
  | "SHL", [.register x] => some (.shiftLeft x)
  | "RND", [.register x, .byte mask] => some (.random x mask)
  | "DRW", [.register x, .register y, .rows rows] => some (.draw x y rows)
  | "SKP", [.register x] => some (.skipIfPressed x)
  | "SKNP", [.register x] => some (.skipUnlessPressed x)
  | _, _ => none

theorem ofMnemonic?_mnemonic (instruction : Instruction) :
    ofMnemonic? instruction.mnemonic = some instruction := by
  cases instruction
  case combine operation x y => cases operation <;> rfl
  all_goals rfl

theorem mnemonic_injective : Function.Injective mnemonic := by
  intro a b hmnemonic
  rw [← Option.some_inj, ← ofMnemonic?_mnemonic a, hmnemonic, ofMnemonic?_mnemonic]

theorem blank_not_mem_name (instruction : Instruction) :
    ' ' ∉ instruction.mnemonic.name.toList := by
  cases instruction
  case combine operation x y =>
    cases operation <;> simp only [mnemonic, Combination.name] <;> decide
  all_goals
    simp only [mnemonic]
    decide

/-- Whether an instruction shifts a register. -/
def isShift : Instruction → Bool
  | shiftRight _ | shiftLeft _ => true
  | _ => false

end Instruction

/-! ### Words -/

namespace Word

variable {a b : Word}

theorem eq_of_address (hfamily : a.family.val = b.family.val) (haddress : a.address = b.address) :
    a = b := by
  have hlow : a.toNat % 4096 = b.toNat % 4096 := congrArg Fin.val haddress
  have hhigh : a.toNat / 4096 = b.toNat / 4096 := hfamily
  exact UInt16.toNat_inj.mp (by omega)

theorem eq_of_byte (hfamily : a.family.val = b.family.val) (hx : a.x = b.x)
    (hbyte : a.byte = b.byte) : a = b := by
  have hsecond : a.toNat / 256 % 16 = b.toNat / 256 % 16 := congrArg Fin.val hx
  have hlow : a.toNat % 256 = b.toNat % 256 := by
    have := congrArg UInt8.toNat hbyte
    simp only [byte, UInt8.toNat_ofNat'] at this
    omega
  have hhigh : a.toNat / 4096 = b.toNat / 4096 := hfamily
  exact UInt16.toNat_inj.mp (by omega)

theorem eq_of_digits (hfamily : a.family.val = b.family.val) (hx : a.x = b.x) (hy : a.y = b.y)
    (hn : a.n.val = b.n.val) : a = b := by
  have hsecond : a.toNat / 256 % 16 = b.toNat / 256 % 16 := congrArg Fin.val hx
  have hthird : a.toNat / 16 % 16 = b.toNat / 16 % 16 := congrArg Fin.val hy
  have hlast : a.toNat % 16 = b.toNat % 16 := hn
  have hhigh : a.toNat / 4096 = b.toNat / 4096 := hfamily
  exact UInt16.toNat_inj.mp (by omega)

/-- Two words that fit the pattern of one instruction are equal, unless it is a shift. -/
theorem eq_of_fits {instruction : Instruction} (hshift : instruction.isShift = false)
    (ha : instruction.Fits a) (hb : instruction.Fits b) : a = b := by
  cases instruction
  case shiftRight | shiftLeft => cases hshift
  case clearScreen | ret => exact ha.trans hb.symm
  case jump | call | setIndex | jumpOffset =>
    exact eq_of_address (ha.1.trans hb.1.symm) (ha.2.symm.trans hb.2)
  case skipIfByte | skipUnlessByte | setByte | addByte | random =>
    exact eq_of_byte (ha.1.trans hb.1.symm) (ha.2.1.symm.trans hb.2.1) (ha.2.2.symm.trans hb.2.2)
  case skipIfSame | skipUnlessSame | combine =>
    obtain ⟨hfamily, hlast, hx, hy⟩ := ha
    obtain ⟨hfamily', hlast', hx', hy'⟩ := hb
    exact eq_of_digits (hfamily.trans hfamily'.symm) (hx.symm.trans hx') (hy.symm.trans hy')
      (hlast.trans hlast'.symm)
  case draw =>
    obtain ⟨hfamily, hx, hy, hrows⟩ := ha
    obtain ⟨hfamily', hx', hy', hrows'⟩ := hb
    exact eq_of_digits (hfamily.trans hfamily'.symm) (hx.symm.trans hx') (hy.symm.trans hy')
      (congrArg Fin.val (hrows.symm.trans hrows'))
  case skipIfPressed | skipUnlessPressed =>
    obtain ⟨hfamily, hbyte, hx⟩ := ha
    obtain ⟨hfamily', hbyte', hx'⟩ := hb
    exact eq_of_byte (hfamily.trans hfamily'.symm) (hx.symm.trans hx')
      (UInt8.toNat_inj.mp (hbyte.trans hbyte'.symm))
  all_goals
    obtain ⟨hword, hx⟩ := ha
    obtain ⟨hword', hx'⟩ := hb
    simp only [isPeripheral, Bool.and_eq_true, decide_eq_true_iff] at hword hword'
    exact eq_of_byte (hword.1.trans hword'.1.symm) (hx.symm.trans hx')
      (UInt8.toNat_inj.mp (hword.2.trans hword'.2.symm))

theorem mnemonicChars_of_decode? {w : Word} {instruction : Instruction}
    (hdecode : Instruction.decode? w = some instruction) :
    w.mnemonicChars = instruction.mnemonic.chars := by
  rw [mnemonicChars, hdecode]

theorem mnemonicChars_of_unknown {w : Word} (hdecode : Instruction.decode? w = none) :
    w.mnemonicChars = w.dataChars := by
  rw [mnemonicChars, hdecode]

theorem dataChars_injective : Function.Injective dataChars := by
  intro a b hchars
  simp only [dataChars, List.cons.injEq, true_and] at hchars
  exact UInt16.toNat_inj.mp (Numeral.hexDigits_injective 4 hchars)

end Word

end Cosmac
