import Cosmac.Json.Reader
import Cosmac.Json.Writer
import Cosmac.Proofs.Number.Notation
import Cosmac.Proofs.Text.Plain
import Mathlib.Data.List.Basic
import Mathlib.Tactic.SplitIfs

/-!
# Texts in documents

A symbol of a text is written as itself, after a backslash by a letter, or by its code units
(`Json.escape_escapedSymbol`), and reading takes it back in each case. Two surrogates beside each
other are read as one character where they make a pair, so only texts in which none do are read as
they were written (`Json.readText_escaped`).
-/

set_option autoImplicit false

namespace Cosmac.Json

open Text (Symbol isLeading isTrailing)

/-! ### Code units -/

theorem digit_digitCharLower : ∀ d < 16,
    (if (Numeral.digitCharLower d).toNat < 0x80 then
      Numeral.digitBelow? 16 (Numeral.digitCharLower d) else none) = some d := by
  decide

/-- The escape of a code unit has four digits, and they are read as the unit. -/
theorem exists_unitEscape_eq {unit : Nat} (hunit : unit < 0x10000) :
    ∃ a b c d : Char, unitEscape unit = ['\\', 'u', a, b, c, d] ∧
      fourDigits? a b c d = some unit := by
  have hlength : (Numeral.digits 16 unit).length ≤ 4 :=
    (Numeral.length_digits_le_iff (by decide) unit (by decide)).mpr hunit
  have hvalue : Numeral.ofDigits 16 (Numeral.padStart 4 0 (Numeral.digits 16 unit)) = unit := by
    rw [Numeral.ofDigits_padStart, Numeral.ofDigits_digits (by decide)]
  have hdigits : ∀ d ∈ Numeral.padStart 4 0 (Numeral.digits 16 unit), d < 16 :=
    fun d hd ↦ Numeral.lt_of_mem_padStart (by decide) hd
  have hfour : (Numeral.padStart 4 0 (Numeral.digits 16 unit)).length = 4 := by
    rw [Numeral.padStart, List.length_append, List.length_replicate]
    omega
  unfold unitEscape
  revert hvalue hdigits hfour
  generalize Numeral.padStart 4 0 (Numeral.digits 16 unit) = ds
  intro hvalue hdigits hfour
  obtain ⟨p, q, r, s, rfl⟩ := List.length_eq_four.mp hfour
  refine ⟨_, _, _, _, rfl, ?_⟩
  have hp := digit_digitCharLower p (hdigits p (by simp))
  have hq := digit_digitCharLower q (hdigits q (by simp))
  have hr := digit_digitCharLower r (hdigits r (by simp))
  have hs := digit_digitCharLower s (hdigits s (by simp))
  simp only [fourDigits?, hp, hq, hr, hs, ← hvalue]
  rfl

/-- A code point beyond the first plane is written as a pair. -/
theorem exists_codeUnits_eq {point : Nat} (hlow : 0x10000 ≤ point) (hhigh : point < 0x110000) :
    ∃ unit other : Nat, codeUnits point = [unit, other] ∧
      (isLeading unit = true ∧ isTrailing other = true) ∧
        0x10000 + (unit - 0xD800) * 0x400 + (other - 0xDC00) = point := by
  refine ⟨_, _, if_neg (Nat.not_lt.mpr hlow), ?_⟩
  simp only [isLeading, isTrailing, Bool.and_eq_true, decide_eq_true_eq]
  omega

/-- The first of the code units is the second half of a pair only where there are no others. -/
theorem exists_codeUnits_eq_cons {point : Nat} (hhigh : point < 0x110000)
    (hpoint : isTrailing point = false) :
    ∃ (unit : Nat) (others : List Nat), codeUnits point = unit :: others ∧ unit < 0x10000 ∧
      isTrailing unit = false := by
  rw [codeUnits]
  by_cases hplane : point < 0x10000
  · exact ⟨point, [], if_pos hplane, hplane, hpoint⟩
  · refine ⟨_, _, if_neg hplane, ?_⟩
    simp only [isTrailing, Bool.and_eq_false_iff, decide_eq_false_iff_not]
    omega

theorem codePoint_lt {x : Symbol} (hproper : x.IsProper) : x.codePoint < 0x110000 := by
  cases x with
  | surrogate unit => exact hproper.2.trans (by decide)
  | char c =>
    have hvalid : c.toNat.isValidChar := c.valid
    simp only [Nat.isValidChar] at hvalid
    rw [Symbol.codePoint]
    omega

/-! ### Escapes -/

/-- The ways in which a symbol is written. -/
inductive Escape : Symbol → List Char → Prop
  /-- A character stands for itself. -/
  | plain {c : Char} (hlow : ' ' ≤ c) (hhigh : c ≤ '~') (hquote : c ≠ '"') (hescape : c ≠ '\\') :
    Escape (.char c) [c]
  /-- A letter after a backslash stands for a character. -/
  | named {c e : Char} (hnamed : namedEscape? e = some c) (hlow : ' ' ≤ e) (hhigh : e ≤ '~')
    (hmark : c ≠ Text.mark) : Escape (.char c) ['\\', e]
  /-- The code units of a symbol are written one by one. -/
  | units (x : Symbol) : Escape x ((codeUnits x.codePoint).flatMap unitEscape)

theorem escape_escapedSymbol {x : Symbol} (hproper : x.IsProper) : Escape x (escapedSymbol x) := by
  cases x with
  | surrogate unit =>
    have hunits : (codeUnits unit).flatMap unitEscape = unitEscape unit := by
      obtain ⟨-, hhigh⟩ := hproper
      rw [codeUnits, if_pos (by omega)]
      exact List.flatMap_singleton unitEscape unit
    rw [escapedSymbol, ← hunits]
    exact .units (.surrogate unit)
  | char c =>
    rw [escapedSymbol, escapedChar]
    have hletter (e : Char) {named : Char} (hc : c = named) (hnamed : namedEscape? e = some named)
        (hplain : (' ' ≤ e ∧ e ≤ '~') ∧ named ≠ Text.mark) : Escape (.char c) ['\\', e] :=
      .named (hc ▸ hnamed) hplain.1.1 hplain.1.2 (hc ▸ hplain.2)
    split_ifs with hquote hescape hline hreturn htab hform hback hplain
    case pos => exact hletter _ hquote rfl (by decide)
    case pos => exact hletter _ hescape rfl (by decide)
    case pos => exact hletter _ hline rfl (by decide)
    case pos => exact hletter _ hreturn rfl (by decide)
    case pos => exact hletter _ htab rfl (by decide)
    case pos => exact hletter _ hform rfl (by decide)
    case pos => exact hletter _ hback rfl (by decide)
    case pos => exact .plain hplain.1 hplain.2 hquote hescape
    case neg => exact .units (.char c)

/-- What is written for a symbol is plain. -/
theorem isPlain_of_mem_escapedSymbol {x : Symbol} (hproper : x.IsProper) :
    ∀ c ∈ escapedSymbol x, Text.IsPlain c := by
  have hdigit : ∀ d < 16,
      ' ' ≤ Numeral.digitCharLower d ∧ Numeral.digitCharLower d ≤ '~' := by
    decide
  have hunit (unit : Nat) : ∀ c ∈ unitEscape unit, Text.IsPlain c := by
    intro c hc
    rcases List.mem_cons.mp hc with rfl | hc
    · decide
    rcases List.mem_cons.mp hc with rfl | hc
    · decide
    obtain ⟨d, hd, rfl⟩ := List.mem_map.mp hc
    exact Or.inr (hdigit d (Numeral.lt_of_mem_padStart (by decide) hd))
  generalize hwritten : escapedSymbol x = written
  have hescape : Escape x written := hwritten ▸ escape_escapedSymbol hproper
  intro c hc
  cases hescape with
  | plain hlow hhigh =>
    rw [List.mem_singleton.mp hc]
    exact Or.inr ⟨hlow, hhigh⟩
  | named _ hlow hhigh =>
    rcases List.mem_cons.mp hc with rfl | hc
    · decide
    · rw [List.mem_singleton.mp hc]
      exact Or.inr ⟨hlow, hhigh⟩
  | units =>
    obtain ⟨unit, -, hc⟩ := List.mem_flatMap.mp hc
    exact hunit unit c hc

/-! ### Reading back -/

variable {start acc tail : List Char}

/-- Whether no code unit at the start of some characters is taken for the second half of a pair. -/
def Unpaired (tail : List Char) : Prop :=
  ∀ a b c d next rest, tail = '\\' :: 'u' :: a :: b :: c :: d :: next :: rest →
    ∃ unit, fourDigits? a b c d = some unit ∧ isTrailing unit = false

theorem readText_plain {c : Char} (hlow : ' ' ≤ c) (hquote : c ≠ '"') (hescape : c ≠ '\\') :
    readText start acc (c :: tail) = readText start (c :: acc) tail := by
  have hspace : ¬ c.toNat < 0x20 := Nat.not_lt.mpr hlow
  rw [readText.eq_7 _ _ _ _ hquote, if_neg hspace]
  all_goals intros; contradiction

theorem readText_named {c e : Char} (hnamed : namedEscape? e = some c) :
    readText start acc ('\\' :: e :: tail) = readText start (c :: acc) tail := by
  have hunit : e ≠ 'u' := by
    rintro rfl
    cases hnamed
  rw [readText.eq_5, hnamed]
  · exact fun _ _ _ _ _ _ _ _ _ _ h _ ↦ hunit h
  · exact fun _ _ _ _ _ _ h _ ↦ hunit h
  · exact hunit

theorem readText_unit {unit : Nat} (hunit : unit < 0x10000) (htail : tail ≠ [])
    (hnext : isLeading unit = true → Unpaired tail) :
    readText start acc (unitEscape unit ++ tail) =
      readText start (ontoText acc (.ofCodePoint unit)) tail := by
  obtain ⟨a, b, c, d, hwritten, hvalue⟩ := exists_unitEscape_eq hunit
  obtain ⟨next, rest, rfl⟩ := List.exists_cons_of_ne_nil htail
  rw [hwritten]
  by_cases hescape : ∃ e f g h after more,
      next :: rest = '\\' :: 'u' :: e :: f :: g :: h :: after :: more
  · obtain ⟨e, f, g, h, after, more, hescape⟩ := hescape
    rw [hescape]
    refine (readText.eq_2 start acc a b c d e f g h after more).trans ?_
    rw [hvalue]
    cases hleading : isLeading unit with
    | false => simp only [hleading, Bool.false_eq_true, if_false]
    | true =>
      obtain ⟨other, hother, htrailing⟩ := hnext hleading e f g h after more hescape
      simp only [hleading, hother, htrailing]
      rfl
  · refine (readText.eq_3 start acc a b c d next rest
      fun e f g h after more hnext hrest ↦ ?_).trans ?_
    · exact hescape ⟨e, f, g, h, after, more, by rw [hnext, hrest]⟩
    · rw [hvalue]

theorem readText_pair {unit other : Nat} (hunit : isLeading unit = true)
    (hother : isTrailing other = true) (htail : tail ≠ []) :
    readText start acc (unitEscape unit ++ unitEscape other ++ tail) =
      readText start (ontoText acc (.ofPair unit other)) tail := by
  have hunitBound : unit < 0x10000 := by
    simp only [isLeading, Bool.and_eq_true, decide_eq_true_eq] at hunit
    omega
  have hotherBound : other < 0x10000 := by
    simp only [isTrailing, Bool.and_eq_true, decide_eq_true_eq] at hother
    omega
  obtain ⟨a, b, c, d, hwritten, hvalue⟩ := exists_unitEscape_eq hunitBound
  obtain ⟨e, f, g, h, hwritten', hvalue'⟩ := exists_unitEscape_eq hotherBound
  obtain ⟨next, rest, rfl⟩ := List.exists_cons_of_ne_nil htail
  rw [hwritten, hwritten']
  refine (readText.eq_2 start acc a b c d e f g h next rest).trans ?_
  simp only [hvalue, hvalue', hunit, hother]
  rfl

theorem ne_mark_of_le {c : Char} (hhigh : c ≤ '~') : c ≠ Text.mark := by
  rintro rfl
  exact absurd hhigh (by decide)

theorem ontoText_char {c : Char} (hc : c ≠ Text.mark) : ontoText acc (.char c) = c :: acc := by
  rw [ontoText, Symbol.spelling, if_neg hc]
  rfl

/-- A symbol is read from what is written for it, unless it could be the first half of a pair whose
second half follows. -/
theorem readText_escapedSymbol {x : Symbol} (hproper : x.IsProper) (htail : tail ≠ [])
    (hnext : isLeading x.codePoint = true → Unpaired tail) :
    readText start acc (escapedSymbol x ++ tail) = readText start (ontoText acc x) tail := by
  generalize hwritten : escapedSymbol x = written
  have hescape : Escape x written := hwritten ▸ escape_escapedSymbol hproper
  cases hescape with
  | plain hlow hhigh hquote hescape =>
    rw [ontoText_char (ne_mark_of_le hhigh), List.singleton_append,
      readText_plain hlow hquote hescape]
  | named hnamed _ _ hmark =>
    rw [ontoText_char hmark]
    exact readText_named hnamed
  | units =>
    by_cases hplane : x.codePoint < 0x10000
    · have hunit : readText start acc (unitEscape x.codePoint ++ tail) = _ :=
        readText_unit hplane htail hnext
      rw [codeUnits, if_pos hplane, List.flatMap_singleton, hunit,
        Symbol.ofCodePoint_codePoint hproper]
    · cases x with
      | surrogate unit => exact absurd (hproper.2.trans (by decide)) hplane
      | char c =>
        obtain ⟨unit, other, hunits, ⟨hunit, hother⟩, hpoint⟩ :=
          exists_codeUnits_eq (Nat.not_lt.mp hplane) (codePoint_lt hproper)
        have hpair : Symbol.ofPair unit other = .char c := by
          rw [Symbol.ofPair, hpoint]
          exact congrArg Symbol.char (Char.ofNat_toNat c)
        have hread : readText start acc (unitEscape unit ++ unitEscape other ++ tail) = _ :=
          readText_pair hunit hother htail
        rw [hunits, ← hpair, ← hread]
        simp only [List.flatMap_cons, List.flatMap_nil, List.append_nil]

/-- What is written for symbols and a quote does not start with the second half of a pair, if the
first symbol is none. -/
theorem unpaired_escaped {xs : List Symbol} (hproper : ∀ x ∈ xs, x.IsProper)
    (hfirst : ∀ x ∈ xs.head?, isTrailing x.codePoint = false) (rest : List Char) :
    Unpaired (xs.flatMap escapedSymbol ++ '"' :: rest) := by
  intro a b c d next more htail
  cases xs with
  | nil => cases htail
  | cons x ys =>
    rw [List.flatMap_cons, List.append_assoc] at htail
    generalize hwritten : escapedSymbol x = written at htail
    have hescape : Escape x written :=
      hwritten ▸ escape_escapedSymbol (hproper x List.mem_cons_self)
    cases hescape with
    | plain _ _ _ hescape => exact absurd (List.cons.inj htail).1 hescape
    | named hnamed =>
      obtain rfl := (List.cons.inj (List.cons.inj htail).2).1
      cases hnamed
    | units =>
      obtain ⟨unit, others, hunits, hbound, htrailing⟩ := exists_codeUnits_eq_cons
        (codePoint_lt (hproper x List.mem_cons_self)) (hfirst x (Option.mem_some_self x))
      obtain ⟨e, f, g, h, hunit, hvalue⟩ := exists_unitEscape_eq hbound
      rw [hunits, List.flatMap_cons, hunit] at htail
      refine ⟨unit, ?_, htrailing⟩
      simp only [List.cons_append, List.nil_append, List.cons.injEq, true_and] at htail
      obtain ⟨rfl, rfl, rfl, rfl, -⟩ := htail
      exact hvalue

/-- Symbols of which no two make a pair are read from what is written for them, up to the quote. -/
theorem readText_escapedSymbols {xs : List Symbol} (hproper : ∀ x ∈ xs, x.IsProper)
    (hpairs : xs.IsChain fun a b ↦ ¬ a.Pairs b) (start acc rest : List Char) :
    readText start acc (xs.flatMap escapedSymbol ++ '"' :: rest) =
      .ok (String.ofList (acc.reverse ++ Text.spelled xs), rest) := by
  induction xs generalizing acc with
  | nil =>
    refine (readText.eq_1 start acc rest).trans ?_
    rw [Text.spelled, List.flatMap_nil, List.append_nil]
  | cons x ys ih =>
    have htail : ys.flatMap escapedSymbol ++ '"' :: rest ≠ [] :=
      List.append_ne_nil_of_right_ne_nil _ (List.cons_ne_nil _ _)
    have hys : ∀ y ∈ ys, y.IsProper := fun y hy ↦ hproper y (List.mem_cons_of_mem x hy)
    rw [List.flatMap_cons, List.append_assoc,
      readText_escapedSymbol (hproper x List.mem_cons_self) htail, ih hys]
    · rw [ontoText, List.reverse_append, List.reverse_reverse, List.append_assoc]
      rfl
    · exact (List.isChain_cons.mp hpairs).2
    · intro hleading
      refine unpaired_escaped hys (fun y hy ↦ ?_) rest
      refine Bool.eq_false_iff.mpr fun htrailing ↦ ?_
      exact (List.isChain_cons.mp hpairs).1 y hy ⟨hleading, htrailing⟩

/-- A text that a document can hold is read as it was written. -/
theorem readText_escaped {value : String} (hvalue : Text.IsUnicode value) (start rest : List Char) :
    readText start [] ((Text.symbols value.toList).flatMap escapedSymbol ++ '"' :: rest) =
      .ok (value, rest) := by
  rw [readText_escapedSymbols (Text.isProper_of_mem_symbols _) hvalue.unpaired, hvalue.spelled_eq]
  exact congrArg (fun text ↦ Except.ok (text, rest)) String.ofList_toList

end Cosmac.Json
