import Cosmac.Text.Symbol
import Mathlib.Data.List.Chain
import Mathlib.Tactic.SplitIfs

/-!
# Symbols and their spelling

The symbols of a text are read back from the characters that spell them (`Text.symbols_spelled`),
and every text stands for proper symbols (`Text.isProper_of_mem_symbols`). `Text.IsUnicode` marks
the texts that a document can hold: they are spelled symbol by symbol, and no two surrogates beside
each other make a pair, which a document would take for one character. What comes from outside is of
this kind (`Text.isUnicode_ofPlain`).
-/

set_option autoImplicit false

namespace Cosmac.Text

/-! ### Code points -/

theorem toNat_ofNat_of_valid {point : Nat} (hpoint : point.isValidChar) :
    (Char.ofNat point).toNat = point := by
  rw [Char.ofNat, dif_pos hpoint]
  rfl

theorem ofNat_of_not_valid {point : Nat} (hpoint : ¬ point.isValidChar) :
    Char.ofNat point = '\x00' := by
  rw [Char.ofNat, dif_neg hpoint]
  rfl

/-- The code point of a character is not that of a surrogate. -/
theorem not_surrogate (c : Char) : isLeading c.toNat = false ∧ isTrailing c.toNat = false := by
  have hvalid : c.toNat.isValidChar := c.valid
  simp only [Nat.isValidChar] at hvalid
  simp only [isLeading, isTrailing, Bool.and_eq_false_iff, decide_eq_false_iff_not]
  omega

/-! ### Symbols -/

namespace Symbol

/-- Whether a symbol is what its constructor says: its surrogate, if it is one, is a surrogate. -/
def IsProper : Symbol → Prop
  | char _ => True
  | surrogate unit => 0xD800 ≤ unit ∧ unit < 0xE000

/-- Whether two symbols beside each other make a pair. -/
def Pairs (a b : Symbol) : Prop :=
  isLeading a.codePoint = true ∧ isTrailing b.codePoint = true

theorem ofCodePoint_codePoint {symbol : Symbol} (hproper : symbol.IsProper) :
    ofCodePoint symbol.codePoint = symbol := by
  cases symbol with
  | char c =>
    obtain ⟨hleading, htrailing⟩ := not_surrogate c
    rw [ofCodePoint, codePoint, hleading, htrailing]
    exact congrArg char (Char.ofNat_toNat c)
  | surrogate unit =>
    obtain ⟨hlow, hhigh⟩ := hproper
    refine if_pos ?_
    change (isLeading unit || isTrailing unit) = true
    simp only [isLeading, isTrailing, Bool.or_eq_true, Bool.and_eq_true, decide_eq_true_eq]
    omega

end Symbol

/-! ### Spelling -/

theorem surrogateOf?_mark : surrogateOf? mark = none := by
  decide

theorem surrogateOf?_ofNat {unit : Nat} (hproper : 0xD800 ≤ unit ∧ unit < 0xE000) :
    surrogateOf? (Char.ofNat (0x100000 + unit)) = some unit := by
  have hvalid : (0x100000 + unit).isValidChar := by
    right
    omega
  rw [surrogateOf?, toNat_ofNat_of_valid hvalid, if_pos (by omega)]
  exact congrArg some (by omega)

/-- The symbols are read one after the other from the characters that spell them. -/
theorem symbolsOnto_spelled {xs : List Symbol} (hxs : ∀ x ∈ xs, x.IsProper) (acc : List Symbol) :
    symbolsOnto acc (spelled xs) = xs.reverse ++ acc := by
  induction xs generalizing acc with
  | nil => rfl
  | cons x rest ih =>
    have hrest := ih (fun y hy ↦ hxs y (List.mem_cons_of_mem x hy)) (x :: acc)
    rw [List.reverse_cons, List.append_assoc, List.singleton_append, ← hrest]
    change symbolsOnto acc (x.spelling ++ spelled rest) = _
    cases x with
    | surrogate unit =>
      have hunit := surrogateOf?_ofNat (hxs _ List.mem_cons_self)
      change symbolsOnto acc (mark :: Char.ofNat (0x100000 + unit) :: spelled rest) = _
      rw [symbolsOnto, if_pos rfl, hunit]
    | char c =>
      by_cases hmark : c = mark
      · rw [Symbol.spelling, if_pos hmark, hmark]
        change symbolsOnto acc (mark :: mark :: spelled rest) = _
        rw [symbolsOnto, if_pos rfl, surrogateOf?_mark]
        exact if_pos rfl
      · rw [Symbol.spelling, if_neg hmark, List.singleton_append]
        cases spelled rest with
        | nil => rfl
        | cons d after => rw [symbolsOnto, if_neg hmark]

theorem symbols_spelled {xs : List Symbol} (hxs : ∀ x ∈ xs, x.IsProper) :
    symbols (spelled xs) = xs := by
  rw [symbols, symbolsOnto_spelled hxs, List.append_nil, List.reverse_reverse]

theorem isProper_of_surrogateOf? {c : Char} {unit : Nat} (hunit : surrogateOf? c = some unit) :
    (Symbol.surrogate unit).IsProper := by
  rw [surrogateOf?] at hunit
  split_ifs at hunit with hrange
  rw [← Option.some.inj hunit]
  change 0xD800 ≤ c.toNat - 0x100000 ∧ c.toNat - 0x100000 < 0xE000
  omega

theorem isProper_of_mem_symbolsOnto {cs : List Char} {acc : List Symbol}
    (hacc : ∀ x ∈ acc, x.IsProper) : ∀ x ∈ symbolsOnto acc cs, x.IsProper := by
  fun_induction symbolsOnto acc cs with
  | case1 acc => exact hacc
  | case2 acc c => exact List.forall_mem_cons.mpr ⟨trivial, hacc⟩
  | case3 acc d rest unit hunit ih =>
    exact ih (List.forall_mem_cons.mpr ⟨isProper_of_surrogateOf? hunit, hacc⟩)
  | case4 acc rest hnone ih => exact ih (List.forall_mem_cons.mpr ⟨trivial, hacc⟩)
  | case5 acc d rest hnone hmark ih => exact ih (List.forall_mem_cons.mpr ⟨trivial, hacc⟩)
  | case6 acc c d rest hmark ih => exact ih (List.forall_mem_cons.mpr ⟨trivial, hacc⟩)

theorem isProper_of_mem_symbols (cs : List Char) : ∀ x ∈ symbols cs, x.IsProper := by
  intro x hx
  exact isProper_of_mem_symbolsOnto (fun y hy ↦ absurd hy List.not_mem_nil) x
    (List.mem_reverse.mp hx)

/-! ### Joined texts -/

section Joined

variable {α : Type}

theorem nil_intercalate (texts : List (List α)) : [].intercalate texts = texts.flatten := by
  induction texts with
  | nil => rfl
  | cons first rest ih =>
    cases rest with
    | nil => simp
    | cons second others =>
      rw [List.intercalate_cons_cons, List.append_nil, ih, List.flatten_cons (l := first)]

/-- What holds of the separator and of the texts holds of the texts joined. -/
theorem forall_mem_intercalate {property : α → Prop} {separator : List α} {texts : List (List α)}
    (hseparator : ∀ x ∈ separator, property x) (htexts : ∀ text ∈ texts, ∀ x ∈ text, property x) :
    ∀ x ∈ separator.intercalate texts, property x := by
  induction texts with
  | nil => exact fun x hx ↦ absurd hx List.not_mem_nil
  | cons first rest ih =>
    obtain ⟨hfirst, hrest⟩ := List.forall_mem_cons.mp htexts
    cases rest with
    | nil => rwa [List.intercalate_singleton]
    | cons second others =>
      rw [List.intercalate_cons_cons]
      exact List.forall_mem_append.mpr ⟨List.forall_mem_append.mpr ⟨hfirst, hseparator⟩, ih hrest⟩

end Joined

theorem spelled_intercalate (separator : List Symbol) (texts : List (List Symbol)) :
    spelled (separator.intercalate texts) =
      (spelled separator).intercalate (texts.map spelled) := by
  induction texts with
  | nil => rfl
  | cons first rest ih =>
    cases rest with
    | nil => simp only [List.map_cons, List.map_nil, List.intercalate_singleton]
    | cons second others =>
      rw [List.intercalate_cons_cons, List.map_cons, List.map_cons, List.intercalate_cons_cons,
        ← List.map_cons, ← ih]
      simp only [spelled, List.flatMap_append]

/-! ### Texts that documents hold -/

/-- Whether a document can hold a text: it is spelled symbol by symbol, and no two surrogates beside
each other make a pair. -/
structure IsUnicode (text : String) : Prop where
  spelled_eq : spelled (symbols text.toList) = text.toList
  unpaired : (symbols text.toList).IsChain fun a b ↦ ¬ a.Pairs b

theorem isChain_map_char (cs : List Char) :
    (cs.map Symbol.char).IsChain fun a b ↦ ¬ a.Pairs b := by
  refine (List.isChain_map Symbol.char).mpr (List.Pairwise.isChain ?_)
  refine List.pairwise_of_forall fun c d hpair ↦ ?_
  exact Bool.eq_false_iff.mp (not_surrogate c).1 hpair.1

/-- Every sequence of characters is the text of its own spelling. -/
theorem isUnicode_ofPlain (text : String) : IsUnicode (ofPlain text) := by
  have hsymbols : symbols (ofPlain text).toList = text.toList.map .char := by
    rw [ofPlain, String.toList_ofList]
    refine symbols_spelled fun x hx ↦ ?_
    obtain ⟨c, -, rfl⟩ := List.mem_map.mp hx
    trivial
  constructor
  · rw [hsymbols, ofPlain, String.toList_ofList]
  · rw [hsymbols]
    exact isChain_map_char _

end Cosmac.Text
