import Cosmac.Proofs.Number.Notation
import Cosmac.Proofs.Text.Symbols
import Cosmac.Text.Utf8

/-!
# Plain text

Text of printable ASCII characters and line feeds has one byte for each character. Its bytes are
read as the text itself (`Text.decodeUtf8_encodeUtf8`), and its lines end as they are to end
(`Text.joinLines_eq`).
-/

set_option autoImplicit false

namespace Cosmac.Text

/-- Whether a character is a line feed or a printable one of ASCII. -/
def IsPlain (c : Char) : Prop :=
  c = '\n' ∨ (' ' ≤ c ∧ c ≤ '~')

instance (c : Char) : Decidable (IsPlain c) :=
  inferInstanceAs (Decidable (_ ∨ _))

variable {c : Char} {cs : List Char}

theorem isPlain_of_all (hcs : (cs.all fun c ↦ decide (IsPlain c)) = true) :
    ∀ c ∈ cs, IsPlain c :=
  fun c hc ↦ of_decide_eq_true (List.all_eq_true.mp hcs c hc)

/-- The digits of a number are plain in every base up to sixteen. -/
theorem isPlain_of_mem_digits {base : Nat} (hlow : 2 ≤ base) (hhigh : base ≤ 16) (n : Nat) :
    ∀ c ∈ (Numeral.digits base n).map Numeral.digitChar, IsPlain c := by
  have hdigit : ∀ d < 16, IsPlain (Numeral.digitChar d) := by decide
  intro c hc
  obtain ⟨d, hd, rfl⟩ := List.mem_map.mp hc
  exact hdigit d (Nat.lt_of_lt_of_le (Numeral.lt_of_mem_digits hlow hd) hhigh)

theorem IsPlain.toNat_lt (hc : IsPlain c) : c.toNat < 0x80 := by
  rcases hc with rfl | ⟨-, hhigh⟩
  · decide
  · exact Nat.lt_of_le_of_lt hhigh (by decide)

theorem IsPlain.ne_mark (hc : IsPlain c) : c ≠ mark := by
  rintro rfl
  exact absurd hc.toNat_lt (by decide)

theorem IsPlain.ne_return (hc : IsPlain c) : c ≠ '\r' := by
  rintro rfl
  exact absurd hc (by decide)

/-! ### Symbols -/

theorem spelled_map_char (hcs : ∀ c ∈ cs, IsPlain c) : spelled (cs.map .char) = cs := by
  induction cs with
  | nil => rfl
  | cons c rest ih =>
    have hrest := ih fun d hd ↦ hcs d (List.mem_cons_of_mem c hd)
    have hc : (Symbol.char c).spelling = [c] := if_neg (hcs c List.mem_cons_self).ne_mark
    rw [spelled, List.map_cons, List.flatMap_cons, hc]
    exact congrArg (c :: ·) hrest

theorem symbols_of_plain (hcs : ∀ c ∈ cs, IsPlain c) : symbols cs = cs.map .char := by
  have hsymbols : symbols (spelled (cs.map .char)) = cs.map .char := by
    refine symbols_spelled fun x hx ↦ ?_
    obtain ⟨c, -, rfl⟩ := List.mem_map.mp hx
    trivial
  rwa [spelled_map_char hcs] at hsymbols

theorem isUnicode_of_plain {text : String} (htext : ∀ c ∈ text.toList, IsPlain c) :
    IsUnicode text := by
  constructor
  · rw [symbols_of_plain htext, spelled_map_char htext]
  · rw [symbols_of_plain htext]
    exact isChain_map_char _

/-! ### Bytes -/

/-- A plain character has one byte, which is its code point. -/
theorem exists_utf8EncodeChar_eq (hc : IsPlain c) :
    ∃ byte : UInt8, String.utf8EncodeChar c = [byte] ∧ byte.toNat = c.toNat := by
  have hsize : c.utf8Size = 1 := by
    rw [Char.utf8Size_eq_one_iff, UInt32.le_iff_toNat_le]
    exact Nat.le_of_lt_succ hc.toNat_lt
  refine ⟨c.val.toUInt8, String.utf8EncodeChar_eq_singleton hsize, ?_⟩
  rw [UInt32.toNat_toUInt8]
  exact Nat.mod_eq_of_lt (hc.toNat_lt.trans (by decide))

theorem decodeUtf8From_plain (hcs : ∀ c ∈ cs, IsPlain c) (surrogates : Bool) (position : Nat) :
    decodeUtf8From surrogates position ((cs.map .char).flatMap Symbol.bytes).length
      ((cs.map .char).flatMap Symbol.bytes) = .ok (cs.map .char) := by
  induction cs generalizing position with
  | nil => rfl
  | cons c rest ih =>
    have hc := hcs c List.mem_cons_self
    obtain ⟨byte, hbyte, hvalue⟩ := exists_utf8EncodeChar_eq hc
    have hbytes : ((c :: rest).map Symbol.char).flatMap Symbol.bytes =
        byte :: (rest.map Symbol.char).flatMap Symbol.bytes := by
      rw [List.map_cons, List.flatMap_cons, Symbol.bytes, hbyte, List.singleton_append]
    have hchar : Char.ofNat byte.toNat = c := by
      rw [hvalue, Char.ofNat_toNat]
    rw [hbytes, List.length_cons, decodeUtf8From, if_pos (hvalue ▸ hc.toNat_lt),
      ih (fun d hd ↦ hcs d (List.mem_cons_of_mem c hd)), hchar]
    rfl

/-- The bytes of plain text are read as the text. -/
theorem decodeUtf8_encodeUtf8 (hcs : ∀ c ∈ cs, IsPlain c) :
    decodeUtf8 (encodeUtf8 (String.ofList cs)).toList = .ok cs := by
  rw [encodeUtf8, String.toList_ofList, symbols_of_plain hcs, decodeUtf8, decodeUtf8From_plain hcs]
  exact congrArg Except.ok (spelled_map_char hcs)

/-! ### Lines -/

theorem joinLines_eq (hcs : ∀ c ∈ cs, IsPlain c) : joinLines cs = cs := by
  induction cs with
  | nil => rfl
  | cons c rest ih =>
    have hc := (hcs c List.mem_cons_self).ne_return
    rw [joinLines, ih fun d hd ↦ hcs d (List.mem_cons_of_mem c hd)]
    · exact fun _ heq ↦ absurd heq hc
    · exact hc

end Cosmac.Text
