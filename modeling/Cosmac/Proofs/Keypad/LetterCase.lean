import Cosmac.Proofs.Keypad.Precedence
import Cosmac.Proofs.Text.LetterCase

/-!
# The case of labels

Labels that differ in the case of Latin letters alone have the same marker, the same lower-case form
and the same number. They name the same key unless the map has an entry for the spelling of one of
them and none for their lower-case form (`Key.letter_case_matters_to_own_spelling`). In the map of a
configuration, whose labels are in lower case, there is no such entry. In other maps there may be
one (`Key.letter_case_matters_of_capital`).
-/

set_option autoImplicit false

namespace Cosmac.Key

open Text (SameLetters)

variable {map : KeyMap} {first second : String}

/-! ### Attempts -/

/-- Two attempts to name a key end alike: with the same key, with reasons that are both about the
key, or with the same failure. -/
inductive EndAlike : Except KeyError Key → Except KeyError Key → Prop
  | key (key : Key) : EndAlike (.ok key) (.ok key)
  | refusal {cause other : KeyError} (hcause : cause.isAboutKey = true)
      (hother : other.isAboutKey = true) : EndAlike (.error cause) (.error other)
  | failure (cause : KeyError) : EndAlike (.error cause) (.error cause)

theorem EndAlike.refl (attempt : Except KeyError Key) : EndAlike attempt attempt := by
  cases attempt with
  | ok key => exact .key key
  | error cause => exact .failure cause

/-- The attempt to name a key by the spelling of a label: by the entry that the map has for it, or
else by its number. -/
def bySpelling (map : KeyMap) (given : String) : Except KeyError Key :=
  match lookupField? (Text.trim given) map with
  | some value => ofJson value
  | none => byDigits (Text.trim given) given

theorem endAlike_byDigits {digits other : String} (hletters : SameLetters digits other) :
    EndAlike (byDigits digits first) (byDigits other second) := by
  have hkey : ofDigits? digits = ofDigits? other := by
    rw [ofDigits?, ofDigits?, Numeral.read?, Numeral.read?, hletters.read_eq]
  rw [byDigits, byDigits, hkey]
  cases ofDigits? other with
  | some key => exact .key key
  | none => exact .refusal rfl rfl

/-! ### Markers -/

theorem hasMarker_iff (hletters : SameLetters first second) :
    HasMarker first ↔ HasMarker second := by
  rw [HasMarker, HasMarker, hletters]

theorem afterMarker?_map (marker cs : List Char) :
    afterMarker? marker (cs.map Char.toLower) =
      (afterMarker? marker cs).map (List.map Char.toLower) := by
  induction marker generalizing cs with
  | nil => rfl
  | cons m marker ih =>
    cases cs with
    | nil => rfl
    | cons c cs =>
      simp only [List.map_cons, afterMarker?, Text.toLower_toLower, ih]
      split_ifs <;> rfl

theorem logicalDigits?_map (cs : List Char) :
    logicalDigits? (cs.map Char.toLower) =
      (logicalDigits? cs).map (List.map Char.toLower) := by
  rw [logicalDigits?, logicalDigits?, afterMarker?_map, afterMarker?_map, Option.map_or]

/-- What follows the markers of two such labels differs in the case of Latin letters alone. -/
theorem sameLetters_of_logicalDigits? (hletters : SameLetters first second)
    {digits other : List Char} (hdigits : logicalDigits? first.toList = some digits)
    (hother : logicalDigits? second.toList = some other) :
    SameLetters (String.ofList digits) (String.ofList other) := by
  have hsame := congrArg logicalDigits? hletters
  rw [logicalDigits?_map, logicalDigits?_map, hdigits, hother] at hsame
  simpa only [SameLetters, String.toList_ofList] using Option.some.inj hsame

/-! ### Labels -/

/-- A label without a marker is taken by its spelling if the map does not have its lower-case
form. -/
theorem resolve_of_lower_eq_none (hmarker : ¬ HasMarker (Text.trim first))
    (hlower : lookupField? (Text.lowerCase (Text.trim first)) map = none) :
    resolve map (.text first) = bySpelling map first := by
  have hmapped : mapped? map (Text.trim first) = lookupField? (Text.trim first) map := by
    rw [mapped?, hlower, Option.none_or]
  rw [bySpelling]
  cases hvalue : lookupField? (Text.trim first) map with
  | some value => rw [resolve_of_mapped hmarker (hmapped.trans hvalue)]
  | none => rw [resolve_of_unmapped hmarker (hmapped.trans hvalue)]

theorem endAlike_of_hasMarker (hletters : SameLetters first second)
    (hmarker : HasMarker (Text.trim first)) :
    EndAlike (resolve map (.text first)) (resolve map (.text second)) := by
  have hmarker' : HasMarker (Text.trim second) := (hasMarker_iff hletters.trim).mp hmarker
  obtain ⟨digits, hdigits⟩ := exists_digits_of_hasMarker hmarker
  obtain ⟨other, hother⟩ := exists_digits_of_hasMarker hmarker'
  rw [resolve_of_logicalDigits? hdigits, resolve_of_logicalDigits? hother]
  exact endAlike_byDigits (sameLetters_of_logicalDigits? hletters.trim hdigits hother)

/-- Of two such labels, the map has an entry for the lower-case form of both or of neither. -/
theorem endAlike_of_lower (hletters : SameLetters first second)
    (hmarker : ¬ HasMarker (Text.trim first)) {value : Json}
    (hlower : lookupField? (Text.lowerCase (Text.trim first)) map = some value) :
    EndAlike (resolve map (.text first)) (resolve map (.text second)) := by
  have hmarker' : ¬ HasMarker (Text.trim second) := (hasMarker_iff hletters.trim).not.mp hmarker
  have hmapped : mapped? map (Text.trim first) = some value := by
    rw [mapped?, hlower, Option.some_or]
  have hmapped' : mapped? map (Text.trim second) = some value := by
    rw [mapped?, ← hletters.trim.lowerCase_eq, hlower, Option.some_or]
  rw [resolve_of_mapped hmarker hmapped, resolve_of_mapped hmarker' hmapped']
  exact .refl _

/-- Spellings that the map does not have name the same key. -/
theorem endAlike_bySpelling (hletters : SameLetters first second)
    (hfirst : lookupField? (Text.trim first) map = none)
    (hsecond : lookupField? (Text.trim second) map = none) :
    EndAlike (bySpelling map first) (bySpelling map second) := by
  rw [bySpelling, bySpelling, hfirst, hsecond]
  exact endAlike_byDigits hletters.trim

/-- A map whose labels are in lower case has no spelling that it does not have in lower case. -/
theorem lookupField?_eq_none_of_lower {name : String}
    (hsmall : ∀ entry ∈ map, Text.lowerCase entry.1 = entry.1)
    (hlower : lookupField? (Text.lowerCase name) map = none) : lookupField? name map = none := by
  cases hvalue : lookupField? name map with
  | none => rfl
  | some value =>
    have hname : Text.lowerCase name = name := hsmall _ (mem_of_lookupField? hvalue)
    rw [hname, hvalue] at hlower
    exact hlower

/-! ### Case of letters -/

/-- Labels that differ in the case of Latin letters alone name the same key, or are both refused for
a reason that is about the key, or fail over the same number, if one of these holds: they begin with
a marker; the map has an entry for their lower-case form; or their own spellings end alike, as they
do if the map has neither. Nothing else makes them end alike. In a map whose labels are in lower
case they always do. -/
theorem letter_case_matters_to_own_spelling (map : KeyMap) {first second : String}
    (hletters : SameLetters first second) :
    let lower := lookupField? (Text.lowerCase (Text.trim first)) map
    let own (given : String) := lookupField? (Text.trim given) map
    let alike := EndAlike (resolve map (.text first)) (resolve map (.text second))
    (alike ↔ HasMarker (Text.trim first) ∨ lower.isSome = true ∨
      EndAlike (bySpelling map first) (bySpelling map second)) ∧
    (own first = none → own second = none → alike) ∧
    ((∀ entry ∈ map, Text.lowerCase entry.1 = entry.1) → alike) := by
  intro lower own alike
  have hsame : Text.lowerCase (Text.trim second) = Text.lowerCase (Text.trim first) :=
    hletters.trim.lowerCase_eq.symm
  have hiff : alike ↔ HasMarker (Text.trim first) ∨ lower.isSome = true ∨
      EndAlike (bySpelling map first) (bySpelling map second) := by
    by_cases hmarker : HasMarker (Text.trim first)
    · exact iff_of_true (endAlike_of_hasMarker hletters hmarker) (.inl hmarker)
    have hmarker' : ¬ HasMarker (Text.trim second) := (hasMarker_iff hletters.trim).not.mp hmarker
    rw [or_iff_right hmarker]
    cases hlower : lower with
    | some value => exact iff_of_true (endAlike_of_lower hletters hmarker hlower) (.inl rfl)
    | none =>
      have hlower' : lookupField? (Text.lowerCase (Text.trim second)) map = none := by
        rw [hsame]
        exact hlower
      simp only [alike, resolve_of_lower_eq_none hmarker hlower,
        resolve_of_lower_eq_none hmarker' hlower', Option.isSome_none, Bool.false_eq_true,
        false_or]
  have hneither (hfirst : own first = none) (hsecond : own second = none) : alike :=
    hiff.mpr (.inr (.inr (endAlike_bySpelling hletters hfirst hsecond)))
  refine ⟨hiff, hneither, fun hsmall ↦ ?_⟩
  cases hlower : lower with
  | some value => exact hiff.mpr (.inr (.inl (by rw [hlower, Option.isSome_some])))
  | none =>
    have hlower' : lookupField? (Text.lowerCase (Text.trim second)) map = none := by
      rw [hsame]
      exact hlower
    exact hneither (lookupField?_eq_none_of_lower hsmall hlower)
      (lookupField?_eq_none_of_lower hsmall hlower')

/-- A map may have a label in lower case and another in the case in which it is asked for. -/
theorem letter_case_matters_to_own_spelling_of_arrows :
    let map : KeyMap := [("Up", .int 2), ("down", .int 3)]
    SameLetters "DOWN" "Down" ∧
      EndAlike (resolve map (.text "DOWN")) (resolve map (.text "Down")) := by
  intro map
  have hletters : SameLetters "DOWN" "Down" := by decide
  have hname : Text.trim "DOWN" = "DOWN" := by cbv
  have hlower : Text.lowerAfter [] ['D', 'O', 'W', 'N'] = ['d', 'o', 'w', 'n'] := by
    decide +kernel
  have hvalue : lookupField? (Text.lowerCase (Text.trim "DOWN")) map = some (.int 3) := by
    rw [hname]
    exact congrArg (fun name ↦ lookupField? (String.ofList name) map) hlower
  obtain ⟨halike, -, -⟩ := letter_case_matters_to_own_spelling map hletters
  have hsome : (lookupField? (Text.lowerCase (Text.trim "DOWN")) map).isSome = true := by
    rw [hvalue, Option.isSome_some]
  exact ⟨hletters, halike.mpr (.inr (.inl hsome))⟩

/-- Not every two such labels end alike: an entry for one spelling is no entry for the other. -/
theorem letter_case_matters_of_capital :
    ¬ ∀ (map : KeyMap) (first second : String), SameLetters first second →
      (∃ key : Key, resolve map (.text first) = .ok key ∧ resolve map (.text second) = .ok key) ∨
      ∃ cause other : KeyError, resolve map (.text first) = .error cause ∧
        resolve map (.text second) = .error other ∧
        cause.isAboutKey = true ∧ other.isAboutKey = true := by
  intro hall
  let map : KeyMap := [("Up", .int 2)]
  have hsmall : Text.trim "up" = "up" := by cbv
  have hcapital : Text.trim "Up" = "Up" := by cbv
  have hlower : Text.lowerAfter [] ['u', 'p'] = ['u', 'p'] := by decide +kernel
  have hlower' : Text.lowerAfter [] ['U', 'p'] = ['u', 'p'] := by decide +kernel
  have hplain : ∀ name ∈ ["up", "Up"], ¬ HasMarker name := by
    simp only [HasMarker]
    decide
  have hnone : lookupField? (Text.lowerCase "up") map = none :=
    congrArg (fun name ↦ lookupField? (String.ofList name) map) hlower
  have hnone' : lookupField? (Text.lowerCase "Up") map = none :=
    congrArg (fun name ↦ lookupField? (String.ofList name) map) hlower'
  have hunknown : resolve map (.text "up") = .error (.unknownName "up") := by
    rw [resolve_of_lower_eq_none (by rw [hsmall]; exact hplain "up" (by decide))
      (by rw [hsmall]; exact hnone), bySpelling, hsmall]
    cbv
  have hknown : resolve map (.text "Up") = .ok 2 := by
    rw [resolve_of_lower_eq_none (by rw [hcapital]; exact hplain "Up" (by decide))
      (by rw [hcapital]; exact hnone'), bySpelling, hcapital]
    cbv
  rcases hall map "up" "Up" (by decide) with ⟨key, hkey, -⟩ | ⟨_, _, -, hcause, -, -⟩
  · rw [hunknown] at hkey
    cases hkey
  · rw [hknown] at hcause
    cases hcause

end Cosmac.Key
