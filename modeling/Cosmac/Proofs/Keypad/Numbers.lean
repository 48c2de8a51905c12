import Cosmac.Bench.Keypad
import Cosmac.Proofs.Keypad.Precedence
import Cosmac.Proofs.Number.IntegerPart

/-!
# Numbers as keys

A host may give a key by any number. The integer part of the number is the key that is meant
(`Key.ofJson_of_number?`), and only the integer part is checked to be one of the sixteen. So the
keypad takes all numbers above minus one and below sixteen, also those that are no key, and refuses
the others (`Keypad.number_taken_by_integer_part`).
-/

set_option autoImplicit false

namespace Cosmac

/-! ### Numbers -/

/-- The number that a value is, if it is an integer or a finite double. -/
def Json.number? : Json → Option ℚ
  | .int value => some value
  | .float value => (Binary64.finite? value).map Binary64.Exact.value
  | .null | .bool _ | .text _ | .list _ | .object _ => none

section Numbers

variable {value : Json} {k : ℚ} {key : Key}

theorem Json.wholeNumber_of_number? (hk : value.number? = some k) :
    value.wholeNumber = .ok (integerPart k) := by
  cases value with
  | int number =>
    cases hk
    rw [integerPart_intCast]
    rfl
  | float value =>
    obtain ⟨v, hv, rfl⟩ := Option.map_eq_some_iff.mp hk
    rw [wholeNumber, Binary64.truncate?, hv, ← Binary64.Exact.truncate_eq]
    rfl
  | null | bool | text | list | object => cases hk

theorem Json.isManageable_of_number? (hk : value.number? = some k) :
    value.isManageable = value.isPrintable := by
  cases value with
  | float value =>
    obtain ⟨v, hv, -⟩ := Option.map_eq_some_iff.mp hk
    rw [isManageable, Binary64.truncate?, hv]
    rfl
  | int => rfl
  | null | bool | text | list | object => cases hk

namespace Key

theorem ofJson_of_number? (hk : value.number? = some k) : ofJson value = ofInt (integerPart k) := by
  rw [ofJson, Json.wholeNumber_of_number? hk]
  rfl

/-- The key that a number above minus one stands for is its floor. -/
theorem ofJson_eq_ok_iff (hk : value.number? = some k) :
    ofJson value = .ok key ↔ -1 < k ∧ ⌊k⌋₊ = key.val := by
  rw [ofJson_of_number? hk, ofInt_eq_ok_iff, integerPart_eq_natCast_iff]

theorem exists_ofJson_eq_ok_iff (hk : value.number? = some k) :
    (∃ key, ofJson value = .ok key) ↔ -1 < k ∧ k < 16 := by
  simp only [ofJson_eq_ok_iff hk]
  constructor
  · rintro ⟨key, habove, hfloor⟩
    exact ⟨habove, (Nat.floor_lt' (by decide)).mp (hfloor.trans_lt key.isLt)⟩
  · rintro ⟨habove, hbelow⟩
    exact ⟨⟨⌊k⌋₊, (Nat.floor_lt' (by decide)).mpr hbelow⟩, habove, rfl⟩

/-- A number is the key that it stands for exactly if it has no fraction. -/
theorem val_eq_iff (hk : value.number? = some k) (hkey : ofJson value = .ok key) :
    (key.val : ℚ) = k ↔ ∃ n : ℤ, k = n := by
  constructor
  · rintro rfl
    exact ⟨key.val, (Int.cast_natCast _).symm⟩
  · rintro ⟨n, rfl⟩
    have hn : n = key.val := by
      rw [← integerPart_eq_natCast_iff.mpr ((ofJson_eq_ok_iff hk).mp hkey), integerPart_intCast]
    rw [hn, Int.cast_natCast]

/-- A number can be shown exactly if its integer part can. -/
theorem isPrintable_integerPart (hk : value.number? = some k) :
    Numeral.isPrintable (integerPart k) = value.isPrintable := by
  have hfails := fails_ofJson value
  rw [ofJson_of_number? hk, fails_ofInt, Json.isManageable_of_number? hk, Bool.not_inj_iff] at hfails
  exact hfails

/-- Why a number is refused. -/
def refusal (value : Json) (k : ℚ) : KeyError :=
  if value.isPrintable then .outOfRange (integerPart k) else .unprintable

theorem isAboutKey_refusal : (refusal value k).isAboutKey = value.isPrintable := by
  rw [refusal]
  cases value.isPrintable <;> rfl

theorem ofJson_eq_refusal (hk : value.number? = some k) (hrange : ¬ (-1 < k ∧ k < 16)) :
    ofJson value = .error (refusal value k) := by
  have hoff : ¬ (0 ≤ integerPart k ∧ integerPart k < 16) := fun hkey ↦
    hrange ((exists_ofJson_eq_ok_iff hk).mp ⟨_, (ofJson_of_number? hk).trans (dif_pos hkey)⟩)
  rw [ofJson_of_number? hk, ofInt, dif_neg hoff, isPrintable_integerPart hk, refusal]
  cases value.isPrintable <;> rfl

end Key

end Numbers

/-! ### Calls -/

namespace Keypad

/-- What a host may call with a key. -/
inductive KeyCall where
  | press
  | release
  | isPressed

namespace KeyCall

/-- The name of a call on the bench. -/
def name : KeyCall → String
  | press => "press"
  | release => "release"
  | isPressed => "is_pressed"

/-- The answer to a call with a key. -/
def answer (p : Keypad) (key : Key) : KeyCall → Json
  | press | release => .null
  | isPressed => .bool (p.isPressed key)

/-- The keypad after a call with a key. -/
def after (p : Keypad) (key : Key) : KeyCall → Keypad
  | press => p.press key
  | release => p.release key
  | isPressed => p

end KeyCall

variable (p : Keypad) (c : KeyCall) {value : Json}

theorem operateKeypad_of_ok {key : Key} (hkey : Key.ofJson value = .ok key) :
    Bench.operateKeypad p c.name (some value) = (.ok (c.answer p key), c.after p key) := by
  cases c <;> simp only [Bench.operateKeypad, KeyCall.name, hkey] <;> rfl

theorem operateKeypad_of_error {cause : KeyError} (hcause : Key.ofJson value = .error cause) :
    Bench.operateKeypad p c.name (some value) = (.error (.key cause), p) := by
  cases c <;> simp only [Bench.operateKeypad, KeyCall.name, hcause] <;> rfl

/-! ### Calls with numbers -/

section WithNumbers

variable {p c} {k : ℚ}

theorem exists_taken (hk : value.number? = some k) (hrange : -1 < k ∧ k < 16) :
    ∃ key : Key, Bench.operateKeypad p c.name (some value) = (.ok (c.answer p key), c.after p key) ∧
      key.val = ⌊k⌋₊ ∧ ((key.val : ℚ) = k ↔ ∃ n : ℤ, k = n) := by
  obtain ⟨key, hkey⟩ := (Key.exists_ofJson_eq_ok_iff hk).mpr hrange
  have hfloor := ((Key.ofJson_eq_ok_iff hk).mp hkey).2
  exact ⟨key, operateKeypad_of_ok p c hkey, hfloor.symm, Key.val_eq_iff hk hkey⟩

theorem refused_eq (hk : value.number? = some k) (hrange : ¬ (-1 < k ∧ k < 16)) :
    Bench.operateKeypad p c.name (some value) = (.error (.key (Key.refusal value k)), p) :=
  operateKeypad_of_error p c (Key.ofJson_eq_refusal hk hrange)

theorem refused_iff (hk : value.number? = some k) :
    (∃ cause, Bench.operateKeypad p c.name (some value) = (.error (.key cause), p) ∧
      cause.isAboutKey = true) ↔ ¬ (-1 < k ∧ k < 16) ∧ value.isPrintable = true := by
  by_cases hrange : -1 < k ∧ k < 16
  · obtain ⟨key, hresult, -⟩ := exists_taken (p := p) (c := c) hk hrange
    simp [hresult, hrange]
  · simp [refused_eq (p := p) (c := c) hk hrange, hrange, Key.isAboutKey_refusal]

/-- What is taken without being a key lies next to one of the ends. -/
theorem taken_iff_beside (hkeys : ¬ (0 ≤ k ∧ k ≤ 15)) :
    -1 < k ∧ k < 16 ↔ -1 < k ∧ k < 0 ∨ 15 < k ∧ k < 16 := by
  constructor
  · rintro ⟨habove, hbelow⟩
    by_cases hneg : k < 0
    · exact .inl ⟨habove, hneg⟩
    · exact .inr ⟨not_le.mp fun hle ↦ hkeys ⟨not_lt.mp hneg, hle⟩, hbelow⟩
  · rintro (⟨habove, hneg⟩ | ⟨hlast, hbelow⟩)
    · exact ⟨habove, by linarith⟩
    · exact ⟨by linarith, hbelow⟩

end WithNumbers

/-- A number is taken by its integer part. A call with a number above minus one and below sixteen
is carried out with the key that its floor is, zero for a negative number, and the number is this
key exactly if it has no fraction. A call with any other number changes nothing and is refused, with
the integer part in the reason if it can be shown. So a number that is not among zero to fifteen is
refused for a reason that is about the key, unless it lies next to one of the ends with a fraction
or cannot be shown. -/
theorem number_taken_by_integer_part {k : ℚ} (hk : value.number? = some k) :
    let result := Bench.operateKeypad p c.name (some value)
    (-1 < k ∧ k < 16 → ∃ key : Key, result = (.ok (c.answer p key), c.after p key) ∧
      key.val = ⌊k⌋₊ ∧ ((key.val : ℚ) = k ↔ ∃ n : ℤ, k = n)) ∧
    (¬ (-1 < k ∧ k < 16) → result = (.error (.key (Key.refusal value k)), p)) ∧
    (¬ (0 ≤ k ∧ k ≤ 15) →
      ((∃ cause, result = (.error (.key cause), p) ∧ cause.isAboutKey = true) ↔
        ¬ (-1 < k ∧ k < 0 ∨ 15 < k ∧ k < 16) ∧ value.isPrintable = true)) := by
  refine ⟨exists_taken hk, refused_eq hk, fun hkeys ↦ ?_⟩
  rw [refused_iff hk, taken_iff_beside hkeys]

theorem number?_fifteenAndHalf : (Json.float 15.5).number? = some (31 / 2) := by
  have hfinite : Binary64.finite? 15.5 = some ⟨false, 31 * 2 ^ 48, -49⟩ := by decide +kernel
  rw [Json.number?, hfinite, Option.map_some, Binary64.Exact.value]
  norm_num

/-- Half a unit above the last key a number is taken for it, and one unit above it is refused. -/
theorem number_taken_by_integer_part_of_last :
    (Json.float 15.5).number? = some (31 / 2) ∧
    Bench.operateKeypad idle "press" (some (.float 15.5)) = (.ok .null, idle.press 15) ∧
    (Json.int 16).number? = some 16 ∧
    ∃ cause, Bench.operateKeypad idle "is_pressed" (some (.int 16)) = (.error (.key cause), idle) ∧
      cause.isAboutKey = true := by
  obtain ⟨htaken, -, -⟩ := number_taken_by_integer_part idle .press number?_fifteenAndHalf
  have hsixteen : (Json.int 16).number? = some 16 := rfl
  obtain ⟨-, -, hrefused⟩ := number_taken_by_integer_part idle .isPressed hsixteen
  refine ⟨number?_fifteenAndHalf, ?_, hsixteen, ?_⟩
  · obtain ⟨key, hresult, hfloor, -⟩ := htaken (by norm_num)
    have hkey : key = 15 := by
      rw [Fin.ext_iff, hfloor, Nat.floor_eq_iff (by norm_num)]
      norm_num
    rw [hkey] at hresult
    exact hresult
  · refine (hrefused (by norm_num)).mpr ⟨by norm_num, ?_⟩
    decide +kernel

/-- Not every number outside the keypad is refused, and a key that is pressed may be another number
than the one that was given. -/
theorem number_outside_taken_for_last_key :
    (¬ ∀ (value : Json) (k : ℚ) (p : Keypad) (c : KeyCall), value.number? = some k →
      ¬ (0 ≤ k ∧ k ≤ 15) → ∃ cause,
        Bench.operateKeypad p c.name (some value) = (.error (.key cause), p) ∧
          cause.isAboutKey = true) ∧
    ¬ ∀ (value : Json) (k : ℚ) (p : Keypad) (key : Key), value.number? = some k →
      Bench.operateKeypad p "press" (some value) = (.ok .null, p.press key) →
        (key.val : ℚ) = k := by
  obtain ⟨key, hresult, -⟩ :=
    exists_taken (p := idle) (c := .press) number?_fifteenAndHalf (by norm_num)
  constructor
  · intro hall
    obtain ⟨cause, hcause, -⟩ := hall _ _ idle .press number?_fifteenAndHalf (by norm_num)
    rw [hresult] at hcause
    cases hcause
  · intro hall
    have hsame := hall _ _ idle key number?_fifteenAndHalf hresult
    have htwice : 2 * key.val = 31 := by
      have hdouble : (2 * key.val : ℚ) = 31 := by linarith
      exact_mod_cast hdouble
    omega

end Keypad

end Cosmac
