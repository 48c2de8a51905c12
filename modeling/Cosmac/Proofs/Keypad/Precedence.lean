import Cosmac.Proofs.Keypad.Resolution
import Cosmac.Proofs.Number.Magnitude
import Mathlib

/-!
# Which route names a key

A label is taken as it stands, without the white space at its ends. If it begins with a marker, what
follows names the key and the map is no matter. Any other label is looked up in lower case, then in
its own spelling, and what the map has decides; one that the map does not have is read as a
hexadecimal numeral (`Key.resolution_follows_precedence`).

Whatever the map holds, the attempt ends with a key or with a reason that is about the key, unless
the value that decides cannot be dealt with at all (`Json.isManageable`, `Key.Baffles`): it is
infinite, or the refusal would have to show an integer with too many digits. The map of a
configuration may hold such a number (`Key.resolution_unworded_of_long`).
-/

set_option autoImplicit false

namespace Cosmac

/-- Whether it can be told if a value stands for a key: a double must not be infinite, and no
integer may have too many digits to be shown. -/
def Json.isManageable : Json → Bool
  | float value => (Binary64.truncate? value).isSome || value.isNaN
  | value => value.isPrintable

namespace Key

variable {map : KeyMap} {given : String} {value : Json}

/-! ### Failures -/

/-- Whether an attempt to name a key ends neither with a key nor with a reason that is about the
key. -/
def fails : Except KeyError Key → Bool
  | .ok _ => false
  | .error cause => !cause.isAboutKey

theorem fails_iff {attempt : Except KeyError Key} :
    fails attempt = true ↔ ∃ cause, attempt = .error cause ∧ cause.isAboutKey = false := by
  cases attempt with
  | ok key => simp [fails]
  | error cause => simp [fails]

theorem fails_ofInt (number : Int) : fails (ofInt number) = !Numeral.isPrintable number := by
  cases hshort : Numeral.isPrintable number with
  | false =>
    rw [ofInt_eq_unprintable hshort]
    rfl
  | true =>
    cases hkey : ofInt number with
    | ok key => rfl
    | error cause => rw [fails, isAboutKey_of_ofInt hshort hkey]

theorem fails_ofValue (value : Json) : fails (.error (.ofValue value)) = !value.isPrintable := by
  rw [KeyError.ofValue]
  cases value.isPrintable <;> rfl

/-- What the map holds is checked to be a key. The check fails only over what cannot be dealt
with. -/
theorem fails_ofJson (value : Json) : fails (ofJson value) = !value.isManageable := by
  have hnumber {number : Int} (hvalue : value.wholeNumber = .ok number) :
      fails (ofJson value) = !Numeral.isPrintable number := by
    rw [ofJson, hvalue, ← fails_ofInt]
    rfl
  have hcause {cause : KeyError} (hvalue : value.wholeNumber = .error cause) :
      fails (ofJson value) = fails (.error cause) := by
    rw [ofJson, hvalue]
    rfl
  cases value with
  | int number =>
    rw [hnumber rfl, Json.isManageable, Json.isPrintable]
    exact nofun
  | bool flag =>
    have hshort : Numeral.isPrintable (if flag then 1 else 0) = true :=
      Numeral.isPrintable_of_lt Nat.one_pos (by decide) (by cases flag <;> decide)
    rw [hnumber rfl, hshort]
    rfl
  | float value =>
    rw [Json.isManageable]
    cases hfinite : Binary64.truncate? value with
    | some number =>
      have hbits := Binary64.natAbs_truncate_lt hfinite
      have hshort : Numeral.isPrintable number = true := by
        generalize hwidth : 1024 = width at hbits
        refine Numeral.isPrintable_of_lt (by omega) (by omega)
          (hbits.trans_le (Nat.pow_le_pow_left (by decide) width))
      rw [hnumber (by rw [Json.wholeNumber, hfinite]), hshort]
      rfl
    | none =>
      rw [hcause (by rw [Json.wholeNumber, hfinite])]
      cases value.isNaN <;> rfl
  | text content =>
    cases hread : Numeral.read 10 content with
    | ok number =>
      rw [hnumber (by rw [Json.wholeNumber, hread]; rfl), Numeral.isPrintable_of_read hread]
      rfl
    | error flaw =>
      rw [hcause (by rw [Json.wholeNumber, hread]; rfl)]
      rfl
  | null =>
    rw [hcause rfl, fails_ofValue]
    rfl
  | list items =>
    rw [hcause rfl, fails_ofValue]
    rfl
  | object fields =>
    rw [hcause rfl, fails_ofValue]
    rfl

/-! ### Markers -/

/-- Whether a text begins with a marker, in either case. -/
def HasMarker (name : String) : Prop :=
  ∃ marker ∈ ["0x", "key_"], marker.toList <+: name.toList.map Char.toLower

theorem afterMarker?_isSome_iff {marker cs : List Char} :
    (afterMarker? marker cs).isSome = true ↔ marker <+: cs.map Char.toLower := by
  induction marker generalizing cs with
  | nil => exact iff_of_true rfl List.nil_prefix
  | cons m marker ih =>
    cases cs with
    | nil => simp [afterMarker?]
    | cons c cs =>
      rw [afterMarker?, List.map_cons, List.cons_prefix_cons, ← ih]
      by_cases hfirst : c.toLower = m
      · rw [if_pos hfirst, and_iff_right hfirst.symm]
      · rw [if_neg hfirst]
        exact iff_of_false nofun fun h ↦ hfirst h.1.symm

theorem isSome_logicalDigits?_iff {name : String} :
    (logicalDigits? name.toList).isSome = true ↔ HasMarker name := by
  rw [logicalDigits?, Option.isSome_or, Bool.or_eq_true, afterMarker?_isSome_iff,
    afterMarker?_isSome_iff]
  simp only [HasMarker, List.mem_cons, List.not_mem_nil, or_false, exists_eq_or_imp,
    exists_eq_left]

theorem exists_digits_of_hasMarker {name : String} (hname : HasMarker name) :
    ∃ digits, logicalDigits? name.toList = some digits :=
  Option.isSome_iff_exists.mp (isSome_logicalDigits?_iff.mpr hname)

theorem logicalDigits?_eq_none {name : String} (hname : ¬ HasMarker name) :
    logicalDigits? name.toList = none :=
  Option.not_isSome_iff_eq_none.mp fun h ↦ hname (isSome_logicalDigits?_iff.mp h)

/-! ### Routes -/

/-- The attempt to name a key by the number that a text is a numeral of. -/
def byDigits (digits given : String) : Except KeyError Key :=
  match ofDigits? digits with
  | some key => .ok key
  | none => .error (.unknownName given)

theorem fails_byDigits (digits given : String) : fails (byDigits digits given) = false := by
  rw [byDigits]
  cases ofDigits? digits <;> rfl

/-- A label that begins with a marker names the same with any map. -/
theorem resolve_of_logicalDigits? {digits : List Char}
    (hdigits : logicalDigits? (Text.trim given).toList = some digits) (map : KeyMap) :
    resolve map (.text given) = byDigits (String.ofList digits) given := by
  simp only [resolve, ofName, hdigits]
  unfold byDigits
  cases ofDigits? (String.ofList digits) <;> rfl

theorem resolve_of_mapped (hmarker : ¬ HasMarker (Text.trim given))
    (hvalue : mapped? map (Text.trim given) = some value) :
    resolve map (.text given) = ofJson value := by
  simp only [resolve, ofName, logicalDigits?_eq_none hmarker, hvalue]

theorem resolve_of_unmapped (hmarker : ¬ HasMarker (Text.trim given))
    (hvalue : mapped? map (Text.trim given) = none) :
    resolve map (.text given) = byDigits (Text.trim given) given := by
  simp only [resolve, ofName, logicalDigits?_eq_none hmarker, hvalue]
  unfold byDigits
  cases ofDigits? (Text.trim given) <;> rfl

/-- A label that is not in the map names the key that it is a hexadecimal numeral of. -/
theorem resolve_eq_ok_iff_of_unmapped (hmarker : ¬ HasMarker (Text.trim given))
    (hvalue : mapped? map (Text.trim given) = none) (key : Key) :
    resolve map (.text given) = .ok key ↔
      Numeral.read? 16 (Text.trim given) = some (key.val : Int) := by
  rw [resolve_of_unmapped hmarker hvalue, byDigits, ← ofDigits?_eq_some_iff]
  cases ofDigits? (Text.trim given) <;> simp

theorem resolve_eq_error_of_unmapped (hmarker : ¬ HasMarker (Text.trim given))
    (hvalue : mapped? map (Text.trim given) = none)
    (hnone : ∀ key : Key, Numeral.read? 16 (Text.trim given) ≠ some (key.val : Int)) :
    resolve map (.text given) = .error (.unknownName given) := by
  rw [resolve_of_unmapped hmarker hvalue, byDigits]
  cases hdigits : ofDigits? (Text.trim given) with
  | some key => exact absurd (ofDigits?_eq_some_iff.mp hdigits) (hnone key)
  | none => rfl

/-- Whether nothing that is about the key can be told of a value that names none: it cannot be
shown, or it is a label for which the map holds what cannot be dealt with. -/
def Baffles (map : KeyMap) : Json → Prop
  | .text given => ¬ HasMarker (Text.trim given) ∧
    ∃ value, mapped? map (Text.trim given) = some value ∧ value.isManageable = false
  | key => key.isPrintable = false

/-- An attempt to name a key fails over what baffles it and over nothing else. -/
theorem fails_resolve_iff (map : KeyMap) (key : Json) :
    fails (resolve map key) = true ↔ Baffles map key := by
  cases key with
  | text given =>
    rw [Baffles]
    by_cases hmarker : HasMarker (Text.trim given)
    · obtain ⟨digits, hdigits⟩ := exists_digits_of_hasMarker hmarker
      rw [resolve_of_logicalDigits? hdigits, fails_byDigits]
      exact iff_of_false Bool.false_ne_true fun h ↦ h.1 hmarker
    · rw [and_iff_right hmarker]
      cases hvalue : mapped? map (Text.trim given) with
      | some value =>
        rw [resolve_of_mapped hmarker hvalue, fails_ofJson]
        simp
      | none =>
        rw [resolve_of_unmapped hmarker hvalue, fails_byDigits]
        simp
  | int number =>
    rw [resolve, fails_ofInt, Bool.not_eq_true', Baffles, Json.isPrintable]
    rintro given ⟨⟩
  | null | bool | float | list | object =>
    rw [resolve, fails_ofValue, Bool.not_eq_true', Baffles]
    all_goals rintro given ⟨⟩

/-- If a value stands for no number and can be shown, the reason why it names no key is about the
key. -/
theorem isAboutKey_of_resolve (hmap : IsNumbered map) {key : Json} {cause : KeyError}
    (hkey : ∀ number, ¬ StandsFor map key number) (hshown : key.isPrintable = true)
    (hcause : resolve map key = .error cause) : cause.isAboutKey = true := by
  by_contra habout
  have hbaffles : Baffles map key :=
    (fails_resolve_iff map key).mp (fails_iff.mpr ⟨cause, hcause, Bool.eq_false_iff.mpr habout⟩)
  cases key with
  | text given =>
    obtain ⟨hmarker, value, hvalue, -⟩ := hbaffles
    obtain ⟨number, rfl⟩ := mapped?_isNumber hmap hvalue
    exact hkey number (.label (logicalDigits?_eq_none hmarker) hvalue)
  | null | bool | int | float | list | object =>
    exact Bool.false_ne_true (Eq.trans hbaffles.symm hshown)

/-! ### Precedence -/

/-- Names of keys have an order of precedence. An attempt to name a key by any value, with any map,
ends with a key or with a reason that is about the key, unless the value baffles it. A label that
begins with a marker, after the white space at its start and in either case, names the same with any
map. Of any other label only two entries of the map matter: the one of its lower-case form and the
one of its own spelling. The first of them that the map has decides, and if it has neither, the
label is read as a hexadecimal numeral of a key. -/
theorem resolution_follows_precedence (map : KeyMap) :
    (∀ key, (∃ cause, resolve map key = .error cause ∧ cause.isAboutKey = false) ↔
      Baffles map key) ∧
    ∀ given : String,
      let name := Text.trim given
      let attempt := resolve map (.text given)
      let lower (map : KeyMap) := lookupField? (Text.lowerCase name) map
      let own (map : KeyMap) := lookupField? name map
      (HasMarker name → ∀ other, resolve other (.text given) = attempt) ∧
      (∀ other, lower other = lower map → own other = own map →
        resolve other (.text given) = attempt) ∧
      (¬ HasMarker name →
        (∀ value, lower map = some value → attempt = ofJson value) ∧
        (lower map = none → ∀ value, own map = some value → attempt = ofJson value) ∧
        (lower map = none → own map = none →
          (∀ key : Key, attempt = .ok key ↔ Numeral.read? 16 name = some (key.val : Int)) ∧
          ((∀ key : Key, Numeral.read? 16 name ≠ some (key.val : Int)) →
            attempt = .error (.unknownName given)))) := by
  refine ⟨fun key ↦ fails_iff.symm.trans (fails_resolve_iff map key), fun given ↦ ?_⟩
  intro name attempt lower own
  have hmapped (map : KeyMap) : mapped? map name = (lower map).or (own map) := rfl
  refine ⟨fun hmarker other ↦ ?_, fun other hlower hown ↦ ?_, fun hmarker ↦ ⟨?_, ?_, ?_⟩⟩
  · obtain ⟨digits, hdigits⟩ := exists_digits_of_hasMarker hmarker
    have hresolve := resolve_of_logicalDigits? hdigits
    exact (hresolve other).trans (hresolve map).symm
  · have hsame : mapped? other name = mapped? map name := by
      rw [hmapped, hmapped, hlower, hown]
    simp only [attempt, resolve, ofName, name, hsame]
  · intro value hvalue
    exact resolve_of_mapped hmarker (by rw [hmapped, hvalue, Option.some_or])
  · intro hnone value hvalue
    exact resolve_of_mapped hmarker (by rw [hmapped, hnone, Option.none_or, hvalue])
  · intro hlower hown
    have hvalue : mapped? map name = none := by rw [hmapped, hlower, Option.none_or, hown]
    exact ⟨resolve_eq_ok_iff_of_unmapped hmarker hvalue,
      resolve_eq_error_of_unmapped hmarker hvalue⟩

/-- Each route once: the lower-case form, the own spelling, a digit, and a marker. -/
theorem resolution_follows_precedence_of_arrows :
    let map : KeyMap := [("up", .int 2), ("UP", .int 3), ("Left", .text "4"), ("0xa", .int 5)]
    resolve map (.text " UP ") = .ok 2 ∧ resolve map (.text "Left") = .ok 4 ∧
      resolve map (.text "b") = .ok 11 ∧
      resolve map (.text "0Xa") = resolve [] (.text "0Xa") := by
  intro map
  obtain ⟨-, hlabels⟩ := resolution_follows_precedence map
  have hup : Text.trim " UP " = "UP" := by cbv
  have hleft : Text.trim "Left" = "Left" := by cbv
  have hdigit : Text.trim "b" = "b" := by cbv
  have hmarked : Text.trim "0Xa" = "0Xa" := by cbv
  have hlower : Text.lowerAfter [] ['U', 'P'] = ['u', 'p'] := by decide +kernel
  have hlower' : Text.lowerAfter [] ['L', 'e', 'f', 't'] = ['l', 'e', 'f', 't'] := by decide +kernel
  have hlower'' : Text.lowerAfter [] ['b'] = ['b'] := by decide +kernel
  have hplain : ∀ name ∈ ["UP", "Left", "b"], ¬ HasMarker name := by
    simp only [HasMarker]
    decide
  refine ⟨?_, ?_, ?_, ?_⟩
  · obtain ⟨-, -, hroutes⟩ := hlabels " UP "
    rw [hup] at hroutes
    exact (hroutes (hplain "UP" (by decide))).1 (.int 2)
      (congrArg (fun name ↦ lookupField? (String.ofList name) map) hlower)
  · obtain ⟨-, -, hroutes⟩ := hlabels "Left"
    rw [hleft] at hroutes
    have hown := (hroutes (hplain "Left" (by decide))).2.1
      (congrArg (fun name ↦ lookupField? (String.ofList name) map) hlower') (.text "4") rfl
    rw [hown]
    cbv
  · obtain ⟨-, -, hroutes⟩ := hlabels "b"
    rw [hdigit] at hroutes
    refine ((hroutes (hplain "b" (by decide))).2.2
      (congrArg (fun name ↦ lookupField? (String.ofList name) map) hlower'') rfl).1 11 |>.mpr ?_
    cbv
  · obtain ⟨hmarker, -, -⟩ := hlabels "0Xa"
    rw [hmarked] at hmarker
    exact (hmarker ⟨"0x", by decide, by decide⟩ []).symm

/-- Not every attempt ends with a key or with a reason that is about the key: a map may send a label
to a number that cannot be shown, as that of a configuration may, whose numerals are hexadecimal. -/
theorem resolution_unworded_of_long :
    ¬ ∀ (map : KeyMap) (key : Json), (∃ found : Key, resolve map key = .ok found) ∨
      ∃ cause, resolve map key = .error cause ∧ cause.isAboutKey = true := by
  intro hall
  let map : KeyMap := [("k", .int (16 ^ 3600))]
  have hname : Text.trim "k" = "k" := by cbv
  have hlower : Text.lowerAfter [] ['k'] = ['k'] := by decide +kernel
  have hlong : Numeral.isPrintable (16 ^ 3600) = false := by decide +kernel
  have hstands : StandsFor map (.text "k") (16 ^ 3600) := by
    refine .label ?_ ?_ <;> rw [hname]
    · decide
    · exact congrArg (fun name ↦ (lookupField? (String.ofList name) map).or
        (lookupField? "k" map)) hlower
  have hunworded : resolve map (.text "k") = .error .unprintable :=
    (resolve_of_standsFor hstands).trans (ofInt_eq_unprintable hlong)
  rcases hall map (.text "k") with ⟨found, hfound⟩ | ⟨cause, hcause, habout⟩
  · rw [hunworded] at hfound
    cases hfound
  · rw [hunworded] at hcause
    cases hcause
    cases habout

end Key

end Cosmac
