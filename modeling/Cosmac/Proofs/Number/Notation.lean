import Cosmac.Number.Numeral
import Mathlib.Data.List.TakeWhile
import Mathlib.Data.Nat.Digits.Lemmas

/-!
# Positional notation

The digits that a number is written with denote it again (`Numeral.ofDigits_digits`), do not start
with a zero unless they are one (`Numeral.head?_digits`), and are as many as the power of the base
says that the number lies below (`Numeral.length_digits_le_iff`). A decimal numeral that is read
gives a number that can be printed (`Numeral.isPrintable_of_read`). Reading a hexadecimal numeral
that was written with a base prefix gives its number where that is not negative
(`Numeral.read_hexadecimal`). A negative one is written with its sign after the prefix, which is no
numeral (`Numeral.read_hexadecimal_of_negative`).
-/

set_option autoImplicit false

namespace Cosmac.Numeral

variable {base : Nat}

/-! ### Digits -/

/-- Assumes enough fuel for a number that is not zero. -/
theorem digitsOnto_eq (hbase : 2 ≤ base) (rest : List Nat) {fuel n : Nat} (hn : 0 < n)
    (hfuel : n < 2 ^ fuel) :
    digitsOnto base fuel n rest = (Nat.digits base n).reverse ++ rest := by
  induction fuel generalizing n rest with
  | zero =>
    rw [pow_zero] at hfuel
    omega
  | succ fuel ih =>
    rw [digitsOnto]
    by_cases hsmall : n < base
    · rw [if_pos hsmall, Nat.digits_of_lt base n hn.ne' hsmall]
      rfl
    · have hquotient : 0 < n / base := Nat.div_pos (Nat.le_of_not_lt hsmall) (by omega)
      have hhalf : n / base < 2 ^ fuel := by
        have : n / base ≤ n / 2 := Nat.div_le_div_left hbase (by decide)
        rw [pow_succ] at hfuel
        omega
      rw [if_neg hsmall, ih _ hquotient hhalf, Nat.digits_def' hbase hn, List.reverse_cons,
        List.append_assoc, List.singleton_append]

theorem digits_eq (hbase : 2 ≤ base) {n : Nat} (hn : 0 < n) :
    digits base n = (Nat.digits base n).reverse :=
  (digitsOnto_eq hbase [] hn Nat.lt_log2_self).trans (List.append_nil _)

theorem digits_zero (hbase : 2 ≤ base) : digits base 0 = [0] :=
  if_pos (by omega)

theorem ofDigits_eq (ds : List Nat) : ofDigits base ds = Nat.ofDigits base ds.reverse := by
  rw [Nat.ofDigits_eq_foldr, List.foldr_reverse, ofDigits]
  congr 1
  funext value d
  rw [Nat.cast_id, Nat.add_comm, Nat.mul_comm]

/-- The digits of a number denote it. -/
theorem ofDigits_digits (hbase : 2 ≤ base) (n : Nat) : ofDigits base (digits base n) = n := by
  rcases Nat.eq_zero_or_pos n with rfl | hn
  · rw [digits_zero hbase]
    exact Nat.zero_mul base
  · rw [digits_eq hbase hn, ofDigits_eq, List.reverse_reverse, Nat.ofDigits_digits]

theorem lt_of_mem_digits (hbase : 2 ≤ base) {n d : Nat} (hd : d ∈ digits base n) : d < base := by
  rcases Nat.eq_zero_or_pos n with rfl | hn
  · rw [digits_zero hbase, List.mem_singleton] at hd
    omega
  · rw [digits_eq hbase hn, List.mem_reverse] at hd
    exact Nat.digits_lt_base hbase hd

theorem digits_ne_nil (hbase : 2 ≤ base) (n : Nat) : digits base n ≠ [] := by
  rcases Nat.eq_zero_or_pos n with rfl | hn
  · rw [digits_zero hbase]
    exact List.cons_ne_nil _ _
  · rw [digits_eq hbase hn]
    exact List.reverse_ne_nil_iff.mpr (Nat.digits_ne_nil_iff_ne_zero.mpr hn.ne')

/-- The digits of a number other than zero do not start with one. -/
theorem head?_digits (hbase : 2 ≤ base) {n : Nat} (hn : n ≠ 0) :
    (digits base n).head? ≠ some 0 := by
  rw [digits_eq hbase (Nat.pos_of_ne_zero hn), List.head?_reverse,
    List.getLast?_eq_getLast_of_ne_nil (Nat.digits_ne_nil_iff_ne_zero.mpr hn)]
  exact fun h ↦ Nat.getLast_digit_ne_zero base hn (Option.some.inj h)

/-- Digits denote a number below the power of the base that their count says. -/
theorem ofDigits_lt (hbase : 2 ≤ base) {ds : List Nat} (hds : ∀ d ∈ ds, d < base) :
    ofDigits base ds < base ^ ds.length := by
  rw [ofDigits_eq, ← List.length_reverse]
  exact Nat.ofDigits_lt_base_pow_length hbase fun d hd ↦ hds d (List.mem_reverse.mp hd)

/-- A number has at most so many digits if it lies below that power of the base. -/
theorem length_digits_le_iff (hbase : 2 ≤ base) (n : Nat) {count : Nat} (hcount : 0 < count) :
    (digits base n).length ≤ count ↔ n < base ^ count := by
  rcases Nat.eq_zero_or_pos n with rfl | hn
  · rw [digits_zero hbase]
    exact ⟨fun _ ↦ Nat.pow_pos (by omega), fun _ ↦ hcount⟩
  · rw [digits_eq hbase hn, List.length_reverse]
    exact Nat.digits_length_le_iff hbase n

/-- Zeros in front of digits do not count. -/
theorem ofDigits_padStart (base width : Nat) (ds : List Nat) :
    ofDigits base (padStart width 0 ds) = ofDigits base ds := by
  have hzeros (count : Nat) :
      (List.replicate count 0).foldl (fun value d ↦ value * base + d) 0 = 0 := by
    induction count with
    | zero => rfl
    | succ count ih => rw [List.replicate_succ, List.foldl_cons, Nat.zero_mul, Nat.zero_add, ih]
  rw [padStart, ofDigits, List.foldl_append, hzeros, ofDigits]

theorem lt_of_mem_padStart (hbase : 2 ≤ base) {width n d : Nat}
    (hd : d ∈ padStart width 0 (digits base n)) : d < base := by
  rcases List.mem_append.mp hd with hd | hd
  · rw [List.eq_of_mem_replicate hd]
    omega
  · exact lt_of_mem_digits hbase hd

/-- An integer is printed if it has at most so many decimal digits. -/
theorem isPrintable_iff {n : Int} :
    isPrintable n = true ↔ (decimalDigits n.natAbs).length ≤ 4300 := by
  have hlimit : 0 < 4300 := by decide
  rw [decimalDigits, List.length_map]
  unfold isPrintable
  -- The power at the limit is not to be computed.
  generalize 4300 = limit at hlimit ⊢
  exact decide_eq_true_iff.trans (length_digits_le_iff (by decide) n.natAbs hlimit).symm

/-- Assumes a width up to the number of digits that are printed. -/
theorem isPrintable_of_lt {n : Int} {width : Nat} (hpositive : 0 < width) (hwidth : width ≤ 4300)
    (hn : n.natAbs < 10 ^ width) : isPrintable n = true := by
  rw [isPrintable_iff, decimalDigits, List.length_map]
  exact le_trans ((length_digits_le_iff (by decide) n.natAbs hpositive).mpr hn) hwidth

/-! ### Numerals that are read -/

theorem lt_of_digitBelow? {c : Char} {d : Nat} (hd : digitBelow? base c = some d) : d < base :=
  of_decide_eq_true (Option.filter_eq_some_iff.mp hd).2

/-- In a base with a limit, no number is read that has more digits than the limit says. -/
theorem lt_of_readMagnitude {limit n : Nat} {cs : List Char} (hbase : 2 ≤ base)
    (hlimit : digitLimit? base = some limit) (hread : readMagnitude base cs = .ok n) :
    n < base ^ limit := by
  unfold readMagnitude at hread
  simp only [hlimit, Option.any_some] at hread
  split_ifs at hread with hseparated hcount hrest
  cases hread
  refine lt_of_lt_of_le (ofDigits_lt hbase fun d hd ↦ ?_) (Nat.pow_le_pow_right (by omega)
    (Nat.not_lt.mp fun hlong ↦ hcount (decide_eq_true hlong)))
  obtain ⟨c, -, hc⟩ := List.mem_filterMap.mp hd
  exact lt_of_digitBelow? hc

/-- A decimal numeral that is read has no more digits than are printed. -/
theorem isPrintable_of_read {text : String} {n : Int} (hread : read 10 text = .ok n) :
    isPrintable n = true := by
  have hlimit : digitLimit? 10 = some 4300 := rfl
  have hmagnitude {cs : List Char} {k : Nat} (hk : readMagnitude 10 cs = .ok k) :
      k < 10 ^ 4300 := lt_of_readMagnitude (by decide) hlimit hk
  have hpositive : 0 < 4300 := by decide
  have hbound : n.natAbs < 10 ^ 4300 := by
    generalize 4300 = limit at hmagnitude ⊢
    unfold read at hread
    split at hread
    all_goals
      generalize hresult : readMagnitude 10 _ = result at hread
      cases result with
      | error => cases hread
      | ok k =>
        cases hread
        simpa using hmagnitude hresult
  exact isPrintable_of_lt hpositive (Nat.le_refl _) hbound

/-! ### Hexadecimal numerals -/

theorem digitBelow?_digitChar : ∀ d < 16, digitBelow? 16 (digitChar d) = some d := by
  decide

theorem digitChar_ne_separator : ∀ d < 16, digitChar d ≠ '_' := by
  decide

/-- Characters that are all digits are read as what the digits denote. -/
theorem readMagnitude_map_digitChar {ds : List Nat} (hne : ds ≠ []) (hds : ∀ d ∈ ds, d < 16) :
    readMagnitude 16 (ds.map digitChar) = .ok (ofDigits 16 ds) := by
  have hrun : (ds.map digitChar).takeWhile (fun c ↦ c = '_' || (digitBelow? 16 c).isSome) =
      ds.map digitChar := by
    refine List.takeWhile_eq_self_iff.mpr fun c hc ↦ ?_
    obtain ⟨d, hd, rfl⟩ := List.mem_map.mp hc
    rw [digitBelow?_digitChar d (hds d hd), Option.isSome_some, Bool.or_true]
  have hdigits : (ds.map digitChar).filterMap (digitBelow? 16) = ds := by
    rw [List.filterMap_map]
    refine (List.filterMap_congr fun d hd ↦ ?_).trans List.filterMap_some
    exact digitBelow?_digitChar d (hds d hd)
  have hseparated (afterDigit : Bool) (ds : List Nat) (hds : ∀ d ∈ ds, d < 16) :
      isSeparated afterDigit (ds.map digitChar) = (afterDigit || !ds.isEmpty) := by
    induction ds generalizing afterDigit with
    | nil => exact (Bool.or_false _).symm
    | cons d rest ih =>
      have hrest := ih true fun e he ↦ hds e (List.mem_cons_of_mem d he)
      have hd := digitChar_ne_separator d (hds d List.mem_cons_self)
      rw [List.map_cons, isSeparated, hrest]
      · exact (Bool.or_true _).symm
      · exact hd
  have hnonempty : ds.isEmpty = false := by
    cases ds with
    | nil => exact absurd rfl hne
    | cons => rfl
  simp only [readMagnitude, hrun, hdigits, hseparated false ds hds, hnonempty]
  rw [List.drop_length]
  rfl

theorem isNumeralBlank_zero : isNumeralBlank '0' = false := by
  simp only [isNumeralBlank, Text.isBlank, Text.CodePointSet.contains, ← Array.any_toList]
  decide

/-- A numeral is read without its prefix. -/
theorem read_prefixed {text : String} {cs : List Char} (htext : text.toList = '0' :: 'x' :: cs)
    (hcs : cs.head? ≠ some '_') : read 16 text = (readMagnitude 16 cs).map Int.ofNat := by
  have hstart : text.toList.dropWhile isNumeralBlank = '0' :: 'x' :: cs := by
    rw [htext]
    exact List.dropWhile_cons_of_neg (Bool.eq_false_iff.mp isNumeralBlank_zero)
  have hprefix : dropBasePrefix 16 ('0' :: 'x' :: cs) = cs := by
    rw [dropBasePrefix, if_pos ⟨rfl, Or.inl rfl⟩]
    rintro digits rfl
    exact hcs rfl
  rw [read, hstart]
  exact congrArg (fun digits ↦ (readMagnitude 16 digits).map Int.ofNat) hprefix

/-- A number can be told from its hexadecimal notation, whatever the width. -/
theorem hexadecimal_injective (width : Nat) :
    Function.Injective fun n : Nat ↦ hexadecimal width n := by
  intro n m hnotation
  have hbase : 2 ≤ 16 := by decide
  have hchars : (padStart width 0 (digits 16 n)).map digitChar =
      (padStart width 0 (digits 16 m)).map digitChar := String.ofList_injective hnotation
  have hvalues : (padStart width 0 (digits 16 n)).map (digitBelow? 16 ∘ digitChar) =
      (padStart width 0 (digits 16 m)).map (digitBelow? 16 ∘ digitChar) := by
    rw [← List.map_map, ← List.map_map, hchars]
  have hread (k : Nat) : (padStart width 0 (digits 16 k)).map (digitBelow? 16 ∘ digitChar) =
      (padStart width 0 (digits 16 k)).map some :=
    List.map_congr_left fun d hd ↦ digitBelow?_digitChar d (lt_of_mem_padStart hbase hd)
  rw [hread, hread] at hvalues
  have hdigits := (Option.some_injective Nat).list_map hvalues
  rw [← ofDigits_digits hbase n, ← ofDigits_padStart 16 width, hdigits, ofDigits_padStart,
    ofDigits_digits hbase]

theorem hexDigits_eq {width : Nat} (hwidth : width ≤ 1) (n : Nat) :
    hexDigits width n = (digits 16 n).map digitChar := by
  have hlength := List.length_pos_of_ne_nil (digits_ne_nil (by decide : 2 ≤ 16) n)
  rw [hexDigits, padStart, Nat.sub_eq_zero_of_le (hwidth.trans hlength)]
  rfl

theorem toList_prefixed (value : Int) :
    ("0x" ++ hexadecimal 1 value).toList = '0' :: 'x' :: hexChars 1 value := by
  simp only [hexadecimal, String.toList_append, String.toList_ofList]
  rfl

/-- A hexadecimal numeral with a prefix is read as its number. -/
theorem read_hexadecimal (n : Nat) : read 16 ("0x" ++ hexadecimal 1 n) = .ok (n : Int) := by
  have hbase : 2 ≤ 16 := by decide
  have hds : ∀ d ∈ digits 16 n, d < 16 := fun d hd ↦ lt_of_mem_digits hbase hd
  have hchars : hexChars 1 n = (digits 16 n).map digitChar := hexDigits_eq (Nat.le_refl 1) n
  rw [read_prefixed (toList_prefixed n), hchars,
    readMagnitude_map_digitChar (digits_ne_nil hbase n) hds, ofDigits_digits hbase]
  · rfl
  · rw [hchars, List.head?_map]
    intro hhead
    obtain ⟨d, hd, hseparator⟩ := Option.map_eq_some_iff.mp hhead
    exact digitChar_ne_separator d (hds d (List.mem_of_mem_head? hd)) hseparator

/-- The sign of a negative number stands behind the prefix, where no numeral has one. -/
theorem read_hexadecimal_of_negative {value : Int} (hvalue : value < 0) :
    read 16 ("0x" ++ hexadecimal 1 value) = .error .malformed := by
  cases value with
  | ofNat n => exact absurd hvalue (Int.not_lt.mpr (Int.natCast_nonneg n))
  | negSucc n =>
    have hchars : hexChars 1 (.negSucc n) = '-' :: hexDigits 0 (n + 1) := rfl
    rw [read_prefixed (toList_prefixed _), hchars]
    · rfl
    · rw [hchars]
      exact fun hhead ↦ absurd (Option.some.inj hhead) (by decide)

end Cosmac.Numeral
