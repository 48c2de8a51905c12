import Cosmac.Json.Display
import Cosmac.Proofs.Failure
import Cosmac.Proofs.Json.Fields
import Cosmac.Proofs.Json.Scalar

/-!
# Integers that are read

A host that bounds the digits of integers gets no longer ones from a document
(`Json.hasIntegers_of_parseWithin`): a number with more digits is refused where it is read, and a
list or an object holds what has been read as its items or fields. So a value that a document holds
can be shown (`Json.isPrintable_of_hasIntegers`).
-/

set_option autoImplicit false

namespace Cosmac.Json

variable {limits : Limits} {fuel : Nat} {cs rest : List Char} {number : Int}

/-! ### Numbers -/

theorem isDigit_of_mem_wholeDigits : ∀ c ∈ wholeDigits cs, isDigit c = true := by
  unfold wholeDigits
  split
  · exact List.forall_mem_singleton.mpr rfl
  · exact fun c hc ↦ List.mem_takeWhile_imp hc

theorem digitsValue_lt {ds : List Char} (hds : ∀ c ∈ ds, isDigit c = true) :
    digitsValue ds < 10 ^ ds.length := by
  have hlength : (ds.map fun c ↦ c.toNat - '0'.toNat).length = ds.length := List.length_map _
  rw [digitsValue, ← hlength]
  refine Numeral.ofDigits_lt (by decide) fun d hd ↦ ?_
  obtain ⟨c, hc, rfl⟩ := List.mem_map.mp hd
  have hdigit : '0' ≤ c ∧ c ≤ '9' := by
    simpa only [isDigit, Bool.and_eq_true, decide_eq_true_eq] using hds c hc
  have hupper : c.toNat ≤ '9'.toNat := hdigit.2
  have hnine : '9'.toNat = '0'.toNat + 9 := rfl
  omega

theorem admit_digitsValue {ds : List Char} (hds : ∀ c ∈ ds, isDigit c = true) (hne : ds ≠ [])
    (hlimit : limits.digits.any (· < ds.length) = false) : limits.Admit (digitsValue ds) := by
  intro count hcount
  have hlength : ds.length ≤ count := by
    rw [hcount] at hlimit
    exact Nat.not_lt.mp (of_decide_eq_false hlimit)
  rw [Numeral.decimalDigits, List.length_map]
  refine le_trans ?_ hlength
  exact (Numeral.length_digits_le_iff (by decide) _ (List.length_pos_of_ne_nil hne)).mpr
    (digitsValue_lt hds)

/-! ### Values -/

/-- Whether the magnitudes of all integers in a value have a property. -/
inductive HasIntegers (p : Nat → Prop) : Json → Prop
  | null : HasIntegers p null
  | bool {flag : Bool} : HasIntegers p (bool flag)
  | int {number : Int} (hnumber : p number.natAbs) : HasIntegers p (int number)
  | float {number : Float} : HasIntegers p (float number)
  | text {content : String} : HasIntegers p (text content)
  | list {items : List Json} (hitems : ∀ item ∈ items, HasIntegers p item) :
    HasIntegers p (list items)
  | object {fields : List (String × Json)} (hfields : ∀ field ∈ fields, HasIntegers p field.2) :
    HasIntegers p (object fields)

variable {value : Json}

theorem areItemsPrintable_iff {items : List Json} :
    areItemsPrintable items = true ↔ ∀ item ∈ items, item.isPrintable = true := by
  induction items with
  | nil => simp [areItemsPrintable]
  | cons item rest ih => rw [areItemsPrintable, Bool.and_eq_true, ih, List.forall_mem_cons]

theorem areFieldsPrintable_iff {fields : List (String × Json)} :
    areFieldsPrintable fields = true ↔ ∀ field ∈ fields, field.2.isPrintable = true := by
  induction fields with
  | nil => simp [areFieldsPrintable]
  | cons field rest ih => rw [areFieldsPrintable, Bool.and_eq_true, ih, List.forall_mem_cons]

/-- A value can be shown if each of its integers can. -/
theorem isPrintable_of_hasIntegers {p : Nat → Prop}
    (hp : ∀ number : Int, p number.natAbs → Numeral.isPrintable number = true)
    (hvalue : HasIntegers p value) : value.isPrintable = true := by
  induction hvalue with
  | null | bool | float | text => rfl
  | int hnumber =>
    rw [isPrintable]
    exact hp _ hnumber
  | list _ ih =>
    rw [isPrintable]
    exact areItemsPrintable_iff.mpr ih
  | object _ ih =>
    rw [isPrintable]
    exact areFieldsPrintable_iff.mpr ih

theorem hasIntegers_of_readMagnitude? {negative : Bool}
    (hread : readMagnitude? limits negative cs = some (.ok (value, rest))) :
    HasIntegers limits.Admit value := by
  rw [readMagnitude?] at hread
  cases hempty : (wholeDigits cs).isEmpty with
  | true =>
    rw [hempty] at hread
    cases hread
  | false =>
    rw [hempty] at hread
    dsimp only at hread
    rw [if_neg Bool.false_ne_true] at hread
    split at hread
    · split at hread
      · cases hread
      · rename_i hlimit
        have hdigits : ∀ c ∈ wholeDigits cs, isDigit c = true := isDigit_of_mem_wholeDigits
        have hvalue := admit_digitsValue hdigits (List.isEmpty_eq_false_iff.mp hempty)
          (Bool.eq_false_iff.mpr hlimit)
        cases hread
        refine .int ?_
        cases negative with
        | true => rwa [if_pos rfl, Int.natAbs_neg]
        | false => exact hvalue
    · cases hread
      exact .float

/-- No word stands for an integer. -/
theorem hasIntegers_of_readScalar (hread : readScalar limits cs = .ok (value, rest)) :
    HasIntegers limits.Admit value := by
  unfold readScalar at hread
  dsimp only at hread
  generalize hword : List.findSome? _ _ = word? at hread
  cases word? with
  | some reading =>
    obtain ⟨⟨word, meant⟩, hmem, hafter⟩ := List.exists_of_findSome?_eq_some hword
    obtain ⟨after, -, rfl⟩ := Option.map_eq_some_iff.mp hafter
    cases hread
    simp only [List.mem_cons, Prod.mk.injEq, List.not_mem_nil, or_false] at hmem
    rcases hmem with ⟨-, rfl⟩ | ⟨-, rfl⟩ | ⟨-, rfl⟩ | ⟨-, rfl⟩ | ⟨-, rfl⟩ | ⟨-, rfl⟩
    all_goals constructor
  | none =>
    split at hread
    all_goals
      generalize hnumber : readMagnitude? _ _ _ = number? at hread
      cases number? with
      | none => cases hread
      | some reading =>
        cases hread
        exact hasIntegers_of_readMagnitude? hnumber

mutual

theorem hasIntegers_of_readValue {limits : Limits} {fuel : Nat} {cs rest : List Char} {value : Json}
    (hread : readValue limits fuel cs = .ok (value, rest)) : HasIntegers limits.Admit value := by
  match fuel with
  | 0 => cases hread
  | fuel + 1 =>
    unfold readValue at hread
    split at hread
    case h_1 body =>
      obtain ⟨_, -, heq⟩ := exists_of_map_eq_ok hread
      cases heq
      exact .text
    case h_2 body =>
      split at hread
      · cases hread
      · split at hread
        · cases hread
          exact .list fun item hitem ↦ absurd hitem List.not_mem_nil
        · obtain ⟨reading, hbody, heq⟩ := exists_of_map_eq_ok hread
          cases heq
          have hitems : ∀ item ∈ reading.1, HasIntegers limits.inner.Admit item :=
            hasIntegers_of_readItems hbody
          exact .list hitems
    case h_3 body =>
      split at hread
      · cases hread
      · split at hread
        · cases hread
          exact .object fun field hfield ↦ absurd hfield List.not_mem_nil
        · obtain ⟨reading, hbody, heq⟩ := exists_of_map_eq_ok hread
          cases heq
          have hfields : ∀ field ∈ reading.1, HasIntegers limits.inner.Admit field.2 :=
            hasIntegers_of_readFields hbody
          exact .object fun field hfield ↦ hfields field (mem_of_mem_fieldsOf field hfield)
    case h_4 => exact hasIntegers_of_readScalar hread

theorem hasIntegers_of_readItems {limits : Limits} {fuel : Nat} {cs rest : List Char}
    {items : List Json} (hread : readItems limits fuel cs = .ok (items, rest)) :
    ∀ item ∈ items, HasIntegers limits.Admit item := by
  match fuel with
  | 0 => cases hread
  | fuel + 1 =>
    unfold readItems at hread
    split at hread
    · cases hread
    · rename_i hvalue
      have hfirst := hasIntegers_of_readValue hvalue
      split at hread
      · cases hread
        exact List.forall_mem_singleton.mpr hfirst
      · obtain ⟨_, hmore, heq⟩ := exists_of_map_eq_ok hread
        cases heq
        exact List.forall_mem_cons.mpr ⟨hfirst, hasIntegers_of_readItems hmore⟩
      · cases hread

theorem hasIntegers_of_readFields {limits : Limits} {fuel : Nat} {cs rest : List Char}
    {fields : List (String × Json)} (hread : readFields limits fuel cs = .ok (fields, rest)) :
    ∀ field ∈ fields, HasIntegers limits.Admit field.2 := by
  match fuel with
  | 0 => cases hread
  | fuel + 1 =>
    unfold readFields at hread
    split at hread
    · cases hread
    · split at hread
      · cases hread
      · rename_i hvalue
        have hfirst := hasIntegers_of_readValue hvalue
        split at hread
        · cases hread
          exact List.forall_mem_singleton.mpr hfirst
        · obtain ⟨_, hmore, heq⟩ := exists_of_map_eq_ok hread
          cases heq
          exact List.forall_mem_cons.mpr ⟨hfirst, hasIntegers_of_readFields hmore⟩
        · cases hread

end

/-! ### Documents -/

/-- No integer in a document has more digits than the host reads. -/
theorem hasIntegers_of_parseWithin (hparse : parseWithin limits cs = .ok value) :
    HasIntegers limits.Admit value := by
  unfold parseWithin at hparse
  split at hparse
  · cases hparse
  · split at hparse
    · cases hparse
    · rename_i hvalue
      split at hparse
      · cases hparse
        exact hasIntegers_of_readValue hvalue
      · cases hparse

end Cosmac.Json
