import Cosmac.Json.Reader
import Cosmac.Json.Writer
import Cosmac.Proofs.Number.Notation

/-!
# Words and numbers in documents

The digits that are written for a whole number are read as that number where no character after them
continues it (`Json.readMagnitude?_decimalDigits`), with its sign and before any word
(`Json.readScalar_decimalChars`). A host that bounds the digits of integers reads those with so many
digits at most (`Json.Limits.Admit`).
-/

set_option autoImplicit false

namespace Cosmac.Json

variable {limits : Limits} {rest : List Char}

/-! ### Numbers -/

theorem digitChar_value : ∀ d < 10,
    isDigit (Numeral.digitChar d) = true ∧ (Numeral.digitChar d).toNat - '0'.toNat = d := by
  decide

theorem isDigit_of_mem_decimalDigits {n : Nat} :
    ∀ c ∈ Numeral.decimalDigits n, isDigit c = true := by
  intro c hc
  obtain ⟨d, hd, rfl⟩ := List.mem_map.mp hc
  exact (digitChar_value d (Numeral.lt_of_mem_digits (by decide) hd)).1

theorem exists_decimalDigits_eq (n : Nat) :
    ∃ (c : Char) (cs : List Char), Numeral.decimalDigits n = c :: cs ∧ isDigit c = true := by
  obtain ⟨c, cs, hdigits⟩ := List.exists_cons_of_ne_nil
    (List.map_eq_nil_iff.not.mpr (Numeral.digits_ne_nil (by decide : 2 ≤ 10) n))
  exact ⟨c, cs, hdigits, isDigit_of_mem_decimalDigits c (hdigits ▸ List.mem_cons_self)⟩

theorem digitsValue_decimalDigits (n : Nat) : digitsValue (Numeral.decimalDigits n) = n := by
  have hvalues : (Numeral.decimalDigits n).map (fun c ↦ c.toNat - '0'.toNat) =
      Numeral.digits 10 n := by
    rw [Numeral.decimalDigits, List.map_map]
    refine (List.map_congr_left fun d hd ↦ ?_).trans (List.map_id _)
    exact (digitChar_value d (Numeral.lt_of_mem_digits (by decide) hd)).2
  rw [digitsValue, hvalues, Numeral.ofDigits_digits (by decide)]

/-- Whether a number that stands before some characters ends there. -/
def EndsNumber (rest : List Char) : Prop :=
  ∀ c ∈ rest.head?, isDigit c = false ∧ c ≠ '.' ∧ c ≠ 'e' ∧ c ≠ 'E'

theorem splitFraction_eq (hrest : EndsNumber rest) : splitFraction rest = ([], rest) := by
  unfold splitFraction
  split
  case h_1 after => exact absurd rfl (hrest '.' rfl).2.1
  case h_2 => rfl

theorem splitExponent_eq (hrest : EndsNumber rest) : splitExponent rest = (none, rest) := by
  unfold splitExponent
  split
  case h_1 c after =>
    obtain ⟨-, -, hlower, hupper⟩ := hrest c rfl
    exact if_neg (not_or.mpr ⟨hlower, hupper⟩)
  case h_2 => rfl

theorem head?_decimalDigits {n : Nat} (hn : n ≠ 0) :
    (Numeral.decimalDigits n).head? ≠ some '0' := by
  rw [Numeral.decimalDigits, List.head?_map]
  intro hhead
  obtain ⟨d, hd, hzero⟩ := Option.map_eq_some_iff.mp hhead
  have hbound := Numeral.lt_of_mem_digits (by decide) (List.mem_of_mem_head? hd)
  have hvalue := (digitChar_value d hbound).2
  rw [hzero, Nat.sub_self] at hvalue
  rw [← hvalue] at hd
  exact Numeral.head?_digits (by decide) hn hd

/-- The digits that are taken for a number are those that were written for it. -/
theorem wholeDigits_decimalDigits (n : Nat) (hrest : EndsNumber rest) :
    wholeDigits (Numeral.decimalDigits n ++ rest) = Numeral.decimalDigits n := by
  unfold wholeDigits
  split
  case h_1 after hzero =>
    by_cases hn : n = 0
    · rw [hn]
      rfl
    · obtain ⟨c, cs, hdigits, -⟩ := exists_decimalDigits_eq n
      have hhead := head?_decimalDigits hn
      rw [hdigits] at hzero hhead
      exact absurd (congrArg some (List.cons.inj hzero).1) hhead
  case h_2 =>
    rw [List.takeWhile_append_of_pos isDigit_of_mem_decimalDigits]
    cases rest with
    | nil => exact List.append_nil _
    | cons c after =>
      rw [List.takeWhile_cons_of_neg (Bool.eq_false_iff.mp (hrest c rfl).1), List.append_nil]

/-- Whether a host reads integers with as many digits as a number has. -/
def Limits.Admit (limits : Limits) (n : Nat) : Prop :=
  ∀ count ∈ limits.digits, (Numeral.decimalDigits n).length ≤ count

theorem readMagnitude?_decimalDigits {n : Nat} (negative : Bool) (hn : limits.Admit n)
    (hrest : EndsNumber rest) :
    readMagnitude? limits negative (Numeral.decimalDigits n ++ rest) =
      some (.ok (int (if negative then -n else n), rest)) := by
  have hnonempty : (Numeral.decimalDigits n).isEmpty = false := by
    rw [Numeral.decimalDigits, List.isEmpty_map, List.isEmpty_eq_false_iff]
    exact Numeral.digits_ne_nil (by decide) n
  have hlimit : limits.digits.any (· < (Numeral.decimalDigits n).length) = false := by
    cases hdigits : limits.digits with
    | none => rfl
    | some count => exact decide_eq_false (Nat.not_lt.mpr (hn count hdigits))
  rw [readMagnitude?, wholeDigits_decimalDigits n hrest]
  simp only [hnonempty, List.drop_left, splitFraction_eq hrest, splitExponent_eq hrest, hlimit,
    digitsValue_decimalDigits]
  rfl

/-! ### Words -/

/-- No word starts like a number without its sign. -/
theorem readScalar_of_digit {c : Char} {cs : List Char} (hc : isDigit c = true) :
    readScalar limits (c :: cs) =
      (readMagnitude? limits false (c :: cs)).getD (.error ⟨.missingValue, c :: cs⟩) := by
  have hword (w : Char) (word : List Char) (hw : isDigit w = false) :
      afterWord? (w :: word) (c :: cs) = none := by
    refine if_neg fun heq ↦ ?_
    rw [heq, hc] at hw
    cases hw
  have hsign : c ≠ '-' := by
    rintro rfl
    cases hc
  have hnull : afterWord? "null".toList (c :: cs) = none := hword 'n' _ rfl
  have htrue : afterWord? "true".toList (c :: cs) = none := hword 't' _ rfl
  have hfalse : afterWord? "false".toList (c :: cs) = none := hword 'f' _ rfl
  have hundefined : afterWord? "NaN".toList (c :: cs) = none := hword 'N' _ rfl
  have hinfinity : afterWord? "Infinity".toList (c :: cs) = none := hword 'I' _ rfl
  have hnegative : afterWord? "-Infinity".toList (c :: cs) = none := hword '-' _ rfl
  simp only [readScalar, List.findSome?_cons, List.findSome?_nil, hnull, htrue, hfalse, hundefined,
    hinfinity, hnegative, Option.map_none]
  split
  case h_1 heq => exact absurd (List.cons.inj heq).1 hsign
  case h_2 => rfl

/-- No word starts like a number with a sign. -/
theorem readScalar_of_sign {c : Char} {cs : List Char} (hc : isDigit c = true) :
    readScalar limits ('-' :: c :: cs) =
      (readMagnitude? limits true (c :: cs)).getD (.error ⟨.missingValue, '-' :: c :: cs⟩) := by
  have hnegative : afterWord? "-Infinity".toList ('-' :: c :: cs) = none := by
    refine (if_pos rfl).trans (if_neg fun heq ↦ ?_)
    rw [← heq] at hc
    cases hc
  have hnull : afterWord? "null".toList ('-' :: c :: cs) = none := rfl
  have htrue : afterWord? "true".toList ('-' :: c :: cs) = none := rfl
  have hfalse : afterWord? "false".toList ('-' :: c :: cs) = none := rfl
  have hundefined : afterWord? "NaN".toList ('-' :: c :: cs) = none := rfl
  have hinfinity : afterWord? "Infinity".toList ('-' :: c :: cs) = none := rfl
  simp only [readScalar, List.findSome?_cons, List.findSome?_nil, hnull, htrue, hfalse, hundefined,
    hinfinity, hnegative, Option.map_none]
  rfl

theorem readScalar_decimalChars {value : Int} (hvalue : limits.Admit value.natAbs)
    (hrest : EndsNumber rest) :
    readScalar limits (Numeral.decimalChars value ++ rest) = .ok (int value, rest) := by
  cases value with
  | ofNat n =>
    obtain ⟨c, cs, hdigits, hc⟩ := exists_decimalDigits_eq n
    have hread := readMagnitude?_decimalDigits (n := n) false hvalue hrest
    rw [hdigits] at hread
    rw [Numeral.decimalChars, hdigits, List.cons_append, readScalar_of_digit hc]
    exact congrArg (Option.getD · _) hread
  | negSucc n =>
    obtain ⟨c, cs, hdigits, hc⟩ := exists_decimalDigits_eq (n + 1)
    have hread := readMagnitude?_decimalDigits (n := n + 1) true hvalue hrest
    rw [hdigits] at hread
    rw [Numeral.decimalChars, hdigits, List.cons_append, List.cons_append, readScalar_of_sign hc]
    exact congrArg (Option.getD · _) hread

end Cosmac.Json
