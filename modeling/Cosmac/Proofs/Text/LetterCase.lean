import Cosmac.Number.Numeral
import Cosmac.Text.LowerCase
import Mathlib.Data.List.TakeWhile

/-!
# The case of Latin letters

Two texts differ in the case of Latin letters alone if their characters have the same small letters
(`Text.SameLetters`). Such texts have the same lower-case form (`Text.SameLetters.lowerCase_eq`) and
are read as the same hexadecimal numeral (`Text.SameLetters.read_eq`), and they still differ in the
case of Latin letters alone without the white space at their ends (`Text.SameLetters.trim`).
-/

set_option autoImplicit false

namespace Cosmac.Text

/-! ### Characters -/

/-- The capital Latin letters. -/
def latinCapitals : List Char :=
  "ABCDEFGHIJKLMNOPQRSTUVWXYZ".toList

theorem mem_latinCapitals {c : Char} (hfirst : 0x41 ≤ c.toNat) (hlast : c.toNat ≤ 0x5A) :
    c ∈ latinCapitals := by
  have hall : ∀ n < 26, Char.ofNat (0x41 + n) ∈ latinCapitals := by decide
  have hc : Char.ofNat (0x41 + (c.toNat - 0x41)) = c := by
    rw [Nat.add_sub_cancel' hfirst, Char.ofNat_toNat]
  rw [← hc]
  exact hall _ (by omega)

/-- Only capital Latin letters have a small letter of their own. -/
theorem toLower_of_not_mem {c : Char} (hc : c ∉ latinCapitals) : c.toLower = c := by
  refine dif_neg fun hrange ↦ hc ?_
  exact mem_latinCapitals (UInt32.le_iff_toNat_le.mp hrange.1) (UInt32.le_iff_toNat_le.mp hrange.2)

/-- What does not tell capital Latin letters from small ones tells no character from its small
letter. -/
theorem apply_toLower {α : Type} (f : Char → α)
    (hf : latinCapitals.map (fun c ↦ f c.toLower) = latinCapitals.map f) (c : Char) :
    f c.toLower = f c := by
  by_cases hc : c ∈ latinCapitals
  · exact List.map_inj_left.mp hf c hc
  · rw [toLower_of_not_mem hc]

theorem toLower_toLower (c : Char) : c.toLower.toLower = c.toLower :=
  apply_toLower Char.toLower (by decide) c

theorem isBlank_toLower (c : Char) : isBlank c.toLower = isBlank c :=
  apply_toLower isBlank (by decide +kernel) c

theorem lowerChar_toLower (c : Char) : lowerChar c.toLower = lowerChar c :=
  apply_toLower lowerChar (by decide +kernel) c

/-- The intervals of a set that may hold Latin letters. Of the large sets they are few. -/
def latinIntervals (set : CodePointSet) : List (Nat × Nat) :=
  set.toList.filter fun interval ↦ interval.1 ≤ 0x7A && 0x41 ≤ interval.2

theorem contains_eq_any (set : CodePointSet) {c : Char} (hfirst : 0x41 ≤ c.toNat)
    (hlast : c.toNat ≤ 0x7A) :
    set.contains c =
      (latinIntervals set).any fun interval ↦ interval.1 ≤ c.toNat && c.toNat ≤ interval.2 := by
  rw [latinIntervals, List.any_filter, CodePointSet.contains, ← Array.any_toList]
  congr 1
  funext interval
  rw [Bool.eq_iff_iff]
  simp only [Bool.and_eq_true, decide_eq_true_eq]
  omega

theorem bounds_of_mem_latinCapitals {c : Char} (hc : c ∈ latinCapitals) :
    (0x41 ≤ c.toNat ∧ c.toNat ≤ 0x7A) ∧ 0x41 ≤ c.toLower.toNat ∧ c.toLower.toNat ≤ 0x7A := by
  have hall : latinCapitals.all (fun c ↦ decide ((0x41 ≤ c.toNat ∧ c.toNat ≤ 0x7A) ∧
      0x41 ≤ c.toLower.toNat ∧ c.toLower.toNat ≤ 0x7A)) = true := by decide
  exact of_decide_eq_true (List.all_eq_true.mp hall c hc)

/-- A set does not tell capital Latin letters from small ones if the intervals that may hold them do
not. -/
theorem contains_toLower {set : CodePointSet} {few : List (Nat × Nat)}
    (hfew : latinIntervals set = few)
    (hsame : latinCapitals.map (fun c ↦ few.any fun interval ↦
        interval.1 ≤ c.toLower.toNat && c.toLower.toNat ≤ interval.2) =
      latinCapitals.map fun c ↦ few.any fun interval ↦
        interval.1 ≤ c.toNat && c.toNat ≤ interval.2)
    (c : Char) : set.contains c.toLower = set.contains c := by
  refine apply_toLower set.contains (List.map_congr_left fun c hc ↦ ?_) c
  obtain ⟨⟨hfirst, hlast⟩, hfirst', hlast'⟩ := bounds_of_mem_latinCapitals hc
  rw [contains_eq_any set hfirst hlast, contains_eq_any set hfirst' hlast', hfew]
  exact List.map_inj_left.mp hsame c hc

theorem caseIgnorable_toLower (c : Char) :
    caseIgnorable.contains c.toLower = caseIgnorable.contains c :=
  have hfew : latinIntervals caseIgnorable = [(0x5E, 0x5E), (0x60, 0x60)] := by decide +kernel
  contains_toLower hfew (by decide +kernel) c

theorem casedLetters_toLower (c : Char) :
    casedLetters.contains c.toLower = casedLetters.contains c :=
  have hfew : latinIntervals casedLetters = [(0x41, 0x5A), (0x61, 0x7A)] := by decide +kernel
  contains_toLower hfew (by decide +kernel) c

/-- A character that is no Latin letter is the small letter of itself alone. -/
theorem toLower_eq_iff {d : Char} (hcapital : d ∉ latinCapitals)
    (hsmall : d ∉ latinCapitals.map Char.toLower) (c : Char) : c.toLower = d ↔ c = d := by
  by_cases hc : c ∈ latinCapitals
  · refine iff_of_false (fun h ↦ hsmall ?_) fun h ↦ hcapital (h ▸ hc)
    exact h ▸ List.mem_map_of_mem hc
  · rw [toLower_of_not_mem hc]

/-! ### Texts in lower case -/

variable {before cs : List Char}

theorem nextIsCased_map (cs : List Char) :
    nextIsCased (cs.map Char.toLower) = nextIsCased cs := by
  have hskipped : (fun c : Char ↦ caseIgnorable.contains c.toLower) = caseIgnorable.contains :=
    funext caseIgnorable_toLower
  rw [nextIsCased, List.dropWhile_map, List.head?_map, Option.any_map]
  simp only [Function.comp_def, casedLetters_toLower, hskipped]
  rfl

theorem lowerBetween_map (before : List Char) (c : Char) (after : List Char) :
    lowerBetween (before.map Char.toLower) c.toLower (after.map Char.toLower) =
      lowerBetween before c after := by
  have hdotted : c.toLower = 'İ' ↔ c = 'İ' := toLower_eq_iff (by decide) (by decide) c
  have hsigma : c.toLower = 'Σ' ↔ c = 'Σ' := toLower_eq_iff (by decide) (by decide) c
  simp only [lowerBetween, hdotted, hsigma, nextIsCased_map, lowerChar_toLower]

theorem lowerAfter_map (before cs : List Char) :
    lowerAfter (before.map Char.toLower) (cs.map Char.toLower) = lowerAfter before cs := by
  induction cs generalizing before with
  | nil => rfl
  | cons c after ih =>
    rw [List.map_cons, lowerAfter, lowerAfter, lowerBetween_map, ← List.map_cons, ih]

/-! ### White space -/

theorem trimWhile_map {drop : Char → Bool} (hdrop : ∀ c, drop c.toLower = drop c)
    (cs : List Char) :
    trimWhile drop (cs.map Char.toLower) = (trimWhile drop cs).map Char.toLower := by
  have hcomp : drop ∘ Char.toLower = drop := funext hdrop
  simp only [trimWhile, List.dropWhile_map, ← List.map_reverse, hcomp]

end Cosmac.Text

namespace Cosmac.Numeral

open Text

/-! ### Numerals -/

theorem isNumeralBlank_toLower (c : Char) : isNumeralBlank c.toLower = isNumeralBlank c :=
  apply_toLower isNumeralBlank (by decide +kernel) c

theorem digitBelow?_toLower (c : Char) : digitBelow? 16 c.toLower = digitBelow? 16 c :=
  apply_toLower (digitBelow? 16) (by decide +kernel) c

theorem decimalDigit?_toLower (c : Char) : decimalDigit? c.toLower = decimalDigit? c :=
  apply_toLower decimalDigit? (by decide +kernel) c

theorem toLower_eq_separator (c : Char) : c.toLower = '_' ↔ c = '_' :=
  toLower_eq_iff (by decide) (by decide) c

theorem isSeparated_map (afterDigit : Bool) (cs : List Char) :
    isSeparated afterDigit (cs.map Char.toLower) = isSeparated afterDigit cs := by
  induction cs generalizing afterDigit with
  | nil => rfl
  | cons c rest ih =>
    by_cases hc : c = '_'
    · rw [List.map_cons, (toLower_eq_separator c).mpr hc, hc, isSeparated, isSeparated, ih]
    · have hsmall : c.toLower ≠ '_' := (toLower_eq_separator c).not.mpr hc
      rw [List.map_cons, isSeparated, isSeparated, ih]
      · exact hc
      · exact hsmall

theorem readMagnitude_map (cs : List Char) :
    readMagnitude 16 (cs.map Char.toLower) = readMagnitude 16 cs := by
  have htaken : (fun c : Char ↦ c = '_' || (digitBelow? 16 c).isSome) ∘ Char.toLower =
      fun c : Char ↦ c = '_' || (digitBelow? 16 c).isSome := by
    funext c
    simp only [Function.comp_def, toLower_eq_separator, digitBelow?_toLower]
  have hdigits : digitBelow? 16 ∘ Char.toLower = digitBelow? 16 := funext digitBelow?_toLower
  have hblank : isNumeralBlank ∘ Char.toLower = isNumeralBlank := funext isNumeralBlank_toLower
  simp only [readMagnitude, List.takeWhile_map, htaken, List.filterMap_map, hdigits,
    isSeparated_map, List.length_map, ← List.map_drop, List.all_map, hblank]

theorem dropBasePrefix_map (cs : List Char) :
    dropBasePrefix 16 (cs.map Char.toLower) = (dropBasePrefix 16 cs).map Char.toLower := by
  match cs with
  | [] | [_] => rfl
  | z :: x :: rest =>
    have hmarker : (x.toLower = 'x' ∨ x.toLower = 'X') ↔ (x = 'x' ∨ x = 'X') := by
      rw [← decide_eq_decide]
      exact apply_toLower (fun c ↦ decide (c = 'x' ∨ c = 'X')) (by decide) x
    simp only [List.map_cons, dropBasePrefix, decimalDigit?_toLower, hmarker]
    split_ifs
    · match rest with
      | [] => rfl
      | c :: digits =>
        by_cases hc : c = '_'
        · rw [List.map_cons, (toLower_eq_separator c).mpr hc, hc]
          rfl
        · have hsmall : c.toLower ≠ '_' := (toLower_eq_separator c).not.mpr hc
          simp [hc, hsmall]
    · rfl

theorem read_map (cs : List Char) :
    read 16 (String.ofList (cs.map Char.toLower)) = read 16 (String.ofList cs) := by
  have hblank : isNumeralBlank ∘ Char.toLower = isNumeralBlank := funext isNumeralBlank_toLower
  have hminus (c : Char) : c.toLower = '-' ↔ c = '-' := toLower_eq_iff (by decide) (by decide) c
  have hplus (c : Char) : c.toLower = '+' ↔ c = '+' := toLower_eq_iff (by decide) (by decide) c
  unfold read
  simp only [String.toList_ofList, List.dropWhile_map, hblank]
  match cs.dropWhile isNumeralBlank with
  | [] => rfl
  | c :: rest =>
    by_cases hnegative : c = '-'
    · rw [List.map_cons, (hminus c).mpr hnegative, hnegative]
      simp only [dropBasePrefix_map, readMagnitude_map]
    by_cases hpositive : c = '+'
    · rw [List.map_cons, (hplus c).mpr hpositive, hpositive]
      simp only [dropBasePrefix_map, readMagnitude_map]
    · have hmagnitude := readMagnitude_map (dropBasePrefix 16 (c :: rest))
      rw [← dropBasePrefix_map, List.map_cons] at hmagnitude
      have hsmall : c.toLower ≠ '-' ∧ c.toLower ≠ '+' :=
        ⟨(hminus c).not.mpr hnegative, (hplus c).not.mpr hpositive⟩
      simp [hnegative, hpositive, hsmall, hmagnitude]

end Cosmac.Numeral

namespace Cosmac.Text

/-! ### Texts with the same letters -/

/-- Whether two texts differ in the case of Latin letters alone. -/
def SameLetters (text other : String) : Prop :=
  text.toList.map Char.toLower = other.toList.map Char.toLower

instance (text other : String) : Decidable (SameLetters text other) :=
  inferInstanceAs (Decidable (text.toList.map Char.toLower = other.toList.map Char.toLower))

namespace SameLetters

variable {text other : String}

theorem trim (hletters : SameLetters text other) :
    SameLetters (Text.trim text) (Text.trim other) := by
  simp only [SameLetters, Text.trim, String.toList_ofList, ← trimWhile_map isBlank_toLower]
  exact congrArg (trimWhile isBlank) hletters

theorem lowerCase_eq (hletters : SameLetters text other) : lowerCase text = lowerCase other := by
  have hlower (text : String) :
      lowerCase text = String.ofList (lowerAfter [] (text.toList.map Char.toLower)) := by
    rw [lowerCase, ← lowerAfter_map, List.map_nil]
  rw [hlower, hlower, hletters]

theorem read_eq (hletters : SameLetters text other) :
    Numeral.read 16 text = Numeral.read 16 other := by
  have hread (text : String) :
      Numeral.read 16 text = Numeral.read 16 (String.ofList (text.toList.map Char.toLower)) := by
    rw [Numeral.read_map, String.ofList_toList]
  rw [hread text, hread other, hletters]

end SameLetters

end Cosmac.Text
