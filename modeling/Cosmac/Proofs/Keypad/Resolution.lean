import Cosmac.Keypad.Name
import Cosmac.Proofs.Json.Fields
import Cosmac.Proofs.Number.Notation

/-!
# What keys are called

A value stands for a number if it is one or a label that the map sends to one (`Key.StandsFor`). It
then names the key with that number (`Key.resolve_of_standsFor`), and there is a reason that has no
words only where the number is too long to be shown (`Key.ofInt_eq_unprintable`).
-/

set_option autoImplicit false

namespace Cosmac.Key

/-! ### Maps -/

/-- Whether all values of a map are whole numbers. -/
def IsNumbered (map : KeyMap) : Prop :=
  ∀ entry ∈ map, ∃ number : Int, entry.2 = .int number

theorem isNumbered_ofNumbers (entries : List (String × Int)) :
    IsNumbered (KeyMap.ofNumbers entries) := by
  intro entry hentry
  obtain ⟨⟨name, number⟩, -, rfl⟩ := List.mem_map.mp hentry
  exact ⟨number, rfl⟩

theorem mapped?_isNumber {map : KeyMap} (hmap : IsNumbered map) {name : String} {value : Json}
    (hvalue : mapped? map name = some value) : ∃ number : Int, value = .int number := by
  rcases Option.or_eq_some_iff.mp hvalue with hlabel | ⟨-, hlabel⟩
  · exact hmap _ (mem_of_lookupField? hlabel)
  · exact hmap _ (mem_of_lookupField? hlabel)

/-! ### Values -/

/-- Whether a value stands for a number: it is that number, or a label that names no key of the
keypad by itself and that the map sends to the number. -/
inductive StandsFor (map : KeyMap) : Json → Int → Prop
  | number {number : Int} : StandsFor map (.int number) number
  | label {given : String} {number : Int}
    (hmarker : logicalDigits? (Text.trim given).toList = none)
    (hmapped : mapped? map (Text.trim given) = some (.int number)) :
    StandsFor map (.text given) number

theorem resolve_of_standsFor {map : KeyMap} {key : Json} {number : Int}
    (hkey : StandsFor map key number) : resolve map key = ofInt number := by
  cases hkey with
  | number => rfl
  | label hmarker hmapped =>
    rw [resolve, ofName, hmarker]
    dsimp only
    rw [hmapped]
    rfl

/-! ### Numbers -/

theorem ofInt_eq_unprintable {number : Int} (hlong : Numeral.isPrintable number = false) :
    ofInt number = .error .unprintable := by
  have hrange : ¬ (0 ≤ number ∧ number < 16) := by
    intro hkey
    have hlength := (Numeral.length_digits_le_iff (by decide : 2 ≤ 10) number.natAbs
      (by decide : 0 < 2)).mpr (by omega)
    have hshort : Numeral.isPrintable number = true := by
      rw [Numeral.isPrintable_iff, Numeral.decimalDigits, List.length_map]
      omega
    rw [hlong] at hshort
    cases hshort
  rw [ofInt, dif_neg hrange, if_neg (Bool.eq_false_iff.mp hlong)]

theorem ofInt_eq_ok_iff {number : Int} {key : Key} :
    ofInt number = .ok key ↔ number = key.val := by
  constructor
  · intro hkey
    unfold ofInt at hkey
    split_ifs at hkey with hrange
    cases hkey
    exact (Int.toNat_of_nonneg hrange.1).symm
  · rintro rfl
    have hrange : 0 ≤ (key.val : Int) ∧ (key.val : Int) < 16 := by
      have := key.isLt
      omega
    rw [ofInt, dif_pos hrange]
    rfl

theorem ofDigits?_eq_some_iff {digits : String} {key : Key} :
    ofDigits? digits = some key ↔ Numeral.read? 16 digits = some (key.val : Int) := by
  have hkey (number : Int) : (ofInt number).toOption = some key ↔ number = key.val := by
    rw [← ofInt_eq_ok_iff]
    cases ofInt number <;> simp [Except.toOption]
  rw [ofDigits?, Option.bind_eq_some_iff]
  simp only [hkey, exists_eq_right]

theorem isAboutKey_of_ofInt {number : Int} {cause : KeyError}
    (hshort : Numeral.isPrintable number = true) (hcause : ofInt number = .error cause) :
    cause.isAboutKey = true := by
  rw [ofInt, if_pos hshort] at hcause
  split at hcause
  · cases hcause
  · cases hcause
    rfl

end Cosmac.Key
