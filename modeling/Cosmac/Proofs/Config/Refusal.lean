import Cosmac.Proofs.Config.Construction

/-!
# Refused configurations

A document is refused for its first flaw in the order in which the fields are read
(`Config.failure?_ofDocument`): the texts among the numbers of keys, the rates, the zoom, and the
other numbers of keys. A flaw of form, a value of another kind than is needed, has no words. So a
file is refused without words exactly if what stands in it is nested too deeply or has a first flaw
of form (`Config.fileIsMalformed_iff`).
-/

set_option autoImplicit false

namespace Cosmac

/-- Whether an error is about the form of a document: a value is of another kind than is needed. -/
def ConfigError.isOfForm : ConfigError → Bool
  | infiniteKey | notANumber | unknownField _ | notAnObject => true
  | notPositive _ _ | zoomTooSmall _ | badNumeral _ _ _ | undefinedKey => false

/-- The errors of form are those without words. -/
theorem ConfigError.isOfForm_eq (cause : ConfigError) : cause.isOfForm = cause.message?.isNone := by
  cases cause with
  | badNumeral _ _ flaw => cases flaw <;> rfl
  | _ => rfl

/-- Whether a file is refused without words: it is nested too deeply, or has a flaw of form. -/
def ConfigFileError.isUntold : ConfigFileError → Bool
  | unreadable _ | notText _ => false
  | notJson cause =>
    match cause.flaw with
    | .nestedTooDeeply _ => true
    | _ => false
  | refused cause => cause.isOfForm

theorem ConfigFileError.isUntold_notJson_iff {cause : Json.ParseError} :
    (notJson cause).isUntold = true ↔
      ∃ container : Json.Container, cause.flaw = .nestedTooDeeply container := by
  rw [isUntold]
  cases cause.flaw with
  | nestedTooDeeply container => exact ⟨fun _ ↦ ⟨container, rfl⟩, fun _ ↦ rfl⟩
  | _ =>
    constructor
    · intro huntold
      cases huntold
    · rintro ⟨container, hflaw⟩
      cases hflaw

namespace Config

/-! ### Flaws -/

/-- What is wrong with the number of a key, if it is a text. -/
def keyTextFlaw? : Json → Option ConfigError
  | .text numeral => (failure? (Numeral.read 16 numeral)).map (.badNumeral 16 numeral)
  | _ => none

/-- What is wrong with the number of a key, if it is no text. -/
def keyNumberFlaw? : Json → Option ConfigError
  | .int _ | .bool _ | .text _ => none
  | .float value =>
    if (Binary64.truncate? value).isSome then none
    else some (if value.isNaN then .undefinedKey else .infiniteKey)
  | .null | .list _ | .object _ => some .notANumber

/-- What is wrong with a quantity. -/
def quantityFlaw? (refused : Quantity → Bool) (cause : Quantity → ConfigError) (value : Json) :
    Option ConfigError :=
  match Quantity.ofJson? value with
  | none => some .notANumber
  | some q => if refused q then some (cause q) else none

/-- What is wrong with the rates and the zoom of a document. -/
def pacingFlaw? (fields : List (String × Json)) : Option ConfigError :=
  let field (name : String) (usual : Json) : Json := (lookupField? name fields).getD usual
  (quantityFlaw? (·.atMost 0) (.notPositive "instructions_per_second")
      (field "instructions_per_second" (.int 700))).or
    ((quantityFlaw? (·.atMost 0) (.notPositive "timer_hz") (field "timer_hz" (.int 60))).or
      (quantityFlaw? (·.lessThan 1) .zoomTooSmall (field "display_zoom" (.int 8))))

/-- What is wrong with a document, in the order in which it is read. -/
def firstFlaw? : Json → Option ConfigError
  | .object fields =>
    match (lookupField? "key_map" fields).getD .null with
    | .null => pacingFlaw? fields
    | .object entries =>
      (entries.findSome? fun entry ↦ keyTextFlaw? entry.2).or
        ((pacingFlaw? fields).or (entries.findSome? fun entry ↦ keyNumberFlaw? entry.2))
    | _ => some .notAnObject
  | _ => some .notAnObject

/-! ### Checks -/

theorem failure?_checked (refused : Quantity → Bool) (cause : Quantity → ConfigError)
    (value : Json) :
    failure? (checked refused cause value) = quantityFlaw? refused cause value := by
  unfold checked quantityFlaw?
  cases Quantity.ofJson? value with
  | none => rfl
  | some q =>
    dsimp only
    cases refused q <;> rfl

theorem failure?_keyEntries (entries : List (String × Json)) :
    failure? (keyEntries entries) = entries.findSome? fun entry ↦ failure? (keyNumber entry.2) := by
  rw [keyEntries, failure?_bind_pure, failure?_mapM]
  refine congrArg (entries.findSome? ·) (funext fun entry ↦ ?_)
  exact failure?_bind_pure (keyNumber entry.2) (Text.lowerCase entry.1, ·)

/-- The construction fails with what is wrong with the pacing, or else with the first key number
that is none. -/
theorem failure?_build (name instructionsPerSecond timerRate displayZoom seed : Json)
    (entries : List (String × Json)) :
    failure? (build name instructionsPerSecond timerRate displayZoom seed (.object entries)) =
      (quantityFlaw? (·.atMost 0) (.notPositive "instructions_per_second")
        instructionsPerSecond).or
      ((quantityFlaw? (·.atMost 0) (.notPositive "timer_hz") timerRate).or
      ((quantityFlaw? (·.lessThan 1) .zoomTooSmall displayZoom).or
        (entries.findSome? fun entry ↦ failure? (keyNumber entry.2)))) := by
  rw [← failure?_checked, ← failure?_checked, ← failure?_checked, ← failure?_keyEntries]
  refine failure?_bind fun instructions _ ↦ failure?_bind fun timer _ ↦
    failure?_bind fun zoom _ ↦ ?_
  exact failure?_bind_pure (keyEntries entries) (Config.mk name instructions timer zoom seed)

theorem failure?_documentKeyValue (value : Json) :
    failure? (documentKeyValue value) = keyTextFlaw? value := by
  cases value with
  | text numeral =>
    unfold documentKeyValue keyTextFlaw?
    dsimp only
    cases Numeral.read 16 numeral <;> rfl
  | _ => rfl

/-- Once its texts have been read, the number of a key fails as it stands in the document. -/
theorem failure?_keyNumber {value number : Json} (hvalue : documentKeyValue value = .ok number) :
    failure? (keyNumber number) = keyNumberFlaw? value := by
  cases value with
  | text numeral =>
    unfold documentKeyValue at hvalue
    dsimp only at hvalue
    cases hread : Numeral.read 16 numeral with
    | error =>
      rw [hread] at hvalue
      cases hvalue
    | ok =>
      rw [hread] at hvalue
      cases hvalue
      rfl
  | float x =>
    cases hvalue
    unfold keyNumber keyNumberFlaw?
    dsimp only
    cases Binary64.truncate? x <;> rfl
  | _ =>
    cases hvalue
    rfl

/-! ### Documents -/

theorem failure?_documentKeyMap (entries : List (String × Json)) :
    failure? (documentKeyMap (.object entries)) =
      entries.findSome? fun entry ↦ keyTextFlaw? entry.2 := by
  rw [documentKeyMap, failure?_bind_pure, failure?_mapM]
  refine congrArg (entries.findSome? ·) (funext fun entry ↦ ?_)
  rw [← failure?_documentKeyValue]
  exact failure?_bind_pure (documentKeyValue entry.2) (entry.1, ·)

theorem exists_documentKeyMap_eq {entries : List (String × Json)} {keyMap : Json}
    (hkeyMap : documentKeyMap (.object entries) = .ok keyMap) :
    ∃ numbers : List (String × Json), keyMap = .object numbers ∧
      (numbers.findSome? fun entry ↦ failure? (keyNumber entry.2)) =
        entries.findSome? fun entry ↦ keyNumberFlaw? entry.2 := by
  obtain ⟨numbers, hnumbers, hkeyMap⟩ := exists_of_bind_eq_ok hkeyMap
  cases hkeyMap
  refine ⟨numbers, rfl, findSome?_eq_of_forall₂ (forall₂_of_mapM hnumbers) fun entry number h ↦ ?_⟩
  obtain ⟨value, hvalue, h⟩ := exists_of_bind_eq_ok h
  cases h
  exact failure?_keyNumber hvalue

/-- A document is refused for its first flaw. -/
theorem failure?_ofDocument (document : Json) :
    failure? (ofDocument document) = firstFlaw? document := by
  cases document with
  | object fields =>
    unfold ofDocument firstFlaw?
    dsimp only
    generalize (lookupField? "key_map" fields).getD .null = given
    cases given with
    | null =>
      have hstandard : ((KeyMap.ofNumbers KeyMap.standard).findSome? fun entry ↦
          failure? (keyNumber entry.2)) = none := by decide
      refine (failure?_build _ _ _ _ _ _).trans ?_
      rw [hstandard, Option.or_none]
      rfl
    | object entries =>
      dsimp only
      rw [← failure?_documentKeyMap]
      refine failure?_bind fun keyMap hkeyMap ↦ ?_
      obtain ⟨numbers, rfl, hnumbers⟩ := exists_documentKeyMap_eq hkeyMap
      rw [failure?_build, hnumbers, pacingFlaw?, Option.or_assoc, Option.or_assoc]
    | _ => rfl
  | _ => rfl

/-! ### Files -/

/-- Whether characters are refused without words: values are nested too deeply, or the first flaw of
the document is one of form. -/
inductive IsMalformed (limits : Json.Limits) (cs : List Char) : Prop
  | nested {cause : Json.ParseError} {container : Json.Container}
    (hparse : Json.parseWithin limits cs = .error cause)
    (hflaw : cause.flaw = .nestedTooDeeply container)
  | ofForm {document : Json} {cause : ConfigError}
    (hparse : Json.parseWithin limits cs = .ok document)
    (hfirst : firstFlaw? document = some cause) (hform : cause.isOfForm = true)

variable {limits : Json.Limits} {files : Files} {path : String} {cs : List Char}

theorem isMalformed_iff : IsMalformed limits cs ↔
    ∃ cause : ConfigFileError, ofChars limits cs = .error cause ∧ cause.isUntold = true := by
  constructor
  · intro hcs
    cases hcs with
    | @nested cause container hparse hflaw =>
      refine ⟨.notJson cause, ?_, ConfigFileError.isUntold_notJson_iff.mpr ⟨container, hflaw⟩⟩
      rw [ofChars, hparse]
    | @ofForm document cause hparse hfirst hform =>
      have hrefused := failure?_eq_some_iff.mp ((failure?_ofDocument document).trans hfirst)
      refine ⟨.refused cause, ?_, hform⟩
      simp only [ofChars, hparse, hrefused]
  · rintro ⟨cause, hcause, huntold⟩
    unfold ofChars at hcause
    cases hparse : Json.parseWithin limits cs with
    | error flaw =>
      rw [hparse] at hcause
      cases hcause
      obtain ⟨container, hflaw⟩ := ConfigFileError.isUntold_notJson_iff.mp huntold
      exact .nested hparse hflaw
    | ok document =>
      rw [hparse] at hcause
      dsimp only at hcause
      cases hrefused : ofDocument document with
      | error refusal =>
        rw [hrefused] at hcause
        cases hcause
        have hfirst := failure?_eq_some_iff.mpr hrefused
        exact .ofForm hparse ((failure?_ofDocument document).symm.trans hfirst) huntold
      | ok config =>
        rw [hrefused] at hcause
        cases hcause

/-- Whether the file at a path can be read as text that is malformed. -/
def FileIsMalformed (limits : Json.Limits) (files : Files) (path : String) : Prop :=
  ∃ (bytes : Array UInt8) (cs : List Char), files.read path = .ok bytes ∧
    Text.decodeUtf8 bytes.toList = .ok cs ∧ IsMalformed limits (Text.joinLines cs)

/-- A file is refused without words exactly if it can be read as text that is malformed. -/
theorem fileIsMalformed_iff : FileIsMalformed limits files path ↔
    ∃ cause : ConfigFileError,
      loadWithin limits files path = .error cause ∧ cause.isUntold = true := by
  constructor
  · rintro ⟨bytes, cs, hbytes, hcs, hmalformed⟩
    obtain ⟨cause, hcause, huntold⟩ := isMalformed_iff.mp hmalformed
    refine ⟨cause, ?_, huntold⟩
    simp only [loadWithin, hbytes, hcs, hcause]
  · rintro ⟨cause, hcause, huntold⟩
    unfold loadWithin at hcause
    cases hbytes : files.read path with
    | error =>
      rw [hbytes] at hcause
      cases hcause
      cases huntold
    | ok bytes =>
      rw [hbytes] at hcause
      dsimp only at hcause
      cases hcs : Text.decodeUtf8 bytes.toList with
      | error =>
        rw [hcs] at hcause
        cases hcause
        cases huntold
      | ok cs =>
        rw [hcs] at hcause
        exact ⟨bytes, cs, hbytes, hcs, isMalformed_iff.mpr ⟨cause, hcause, huntold⟩⟩

end Config

end Cosmac
