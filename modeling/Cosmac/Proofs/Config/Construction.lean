import Cosmac.Config.Document
import Cosmac.Proofs.Failure
import Cosmac.Proofs.Json.Fields
import Cosmac.Proofs.Number.Notation
import Cosmac.Proofs.Text.LowerCase

/-!
# Constructed configurations

The construction of a configuration leaves its rates positive, its zoom at least one, and labels
that are in lower case and all different (`Config.isSettled_of_build`). A configuration of this kind
is constructed again from its own fields (`Config.build_settled`). So its document describes it
again, unless the number of a key is negative: that number is written with its sign after the base
prefix, which is no numeral (`Config.document_round_trip_unless_negative`).
-/

set_option autoImplicit false

namespace Cosmac

/-! ### Quantities -/

theorem Quantity.ofJson?_toJson (q : Quantity) : ofJson? q.toJson = some q := by
  cases q <;> rfl

namespace Config

/-- What the construction of a configuration makes sure of. -/
structure IsSettled (c : Config) : Prop where
  instructions_positive : c.instructionsPerSecond.atMost 0 = false
  timer_positive : c.timerRate.atMost 0 = false
  zoom_positive : c.displayZoom.lessThan 1 = false
  names_nodup : (namesOf c.keyMap).Nodup
  names_lower : ∀ entry ∈ c.keyMap, Text.lowerCase entry.1 = entry.1

/-! ### Checks -/

/-- A quantity that has been checked. The rates and the zoom differ in what is refused and why. -/
def checked (refused : Quantity → Bool) (cause : Quantity → ConfigError) (value : Json) :
    Except ConfigError Quantity :=
  match Quantity.ofJson? value with
  | none => .error .notANumber
  | some q => if refused q then .error (cause q) else .ok q

theorem positive_eq_checked (field : String) :
    positive field = checked (·.atMost 0) (.notPositive field) :=
  rfl

theorem zoomFactor_eq_checked : zoomFactor = checked (·.lessThan 1) .zoomTooSmall :=
  rfl

variable {refused : Quantity → Bool} {cause : Quantity → ConfigError}

theorem checked_toJson {q : Quantity} (hq : refused q = false) :
    checked refused cause q.toJson = .ok q := by
  unfold checked
  rw [Quantity.ofJson?_toJson]
  exact if_neg (Bool.eq_false_iff.mp hq)

theorem eq_false_of_checked {value : Json} {q : Quantity}
    (hq : checked refused cause value = .ok q) : refused q = false := by
  unfold checked at hq
  split at hq
  case h_1 => cases hq
  case h_2 other _ =>
    split_ifs at hq with hother
    cases hq
    exact Bool.eq_false_iff.mpr hother

theorem keyEntries_labels {fields : List (String × Json)} {entries : List (String × Int)}
    (hentries : keyEntries fields = .ok entries) :
    (namesOf entries).Nodup ∧ ∀ entry ∈ entries, Text.lowerCase entry.1 = entry.1 := by
  obtain ⟨given, hgiven, hentries⟩ := exists_of_bind_eq_ok hentries
  cases hentries
  refine ⟨nodup_fieldsOf given, fun entry hentry ↦ ?_⟩
  obtain ⟨⟨name, value⟩, -, hlower⟩ :=
    exists_of_mem_mapM hgiven entry (mem_of_mem_fieldsOf entry hentry)
  obtain ⟨number, -, hlower⟩ := exists_of_bind_eq_ok hlower
  cases hlower
  exact Text.lowerCase_lowerCase name

/-! ### Construction -/

variable {c : Config}

/-- What construction gives satisfies the checks. -/
theorem isSettled_of_build {name instructionsPerSecond timerRate displayZoom seed keyMap : Json}
    (hbuild : build name instructionsPerSecond timerRate displayZoom seed keyMap = .ok c) :
    c.IsSettled := by
  obtain ⟨instructions, hinstructions, hbuild⟩ := exists_of_bind_eq_ok hbuild
  obtain ⟨timer, htimer, hbuild⟩ := exists_of_bind_eq_ok hbuild
  obtain ⟨zoom, hzoom, hbuild⟩ := exists_of_bind_eq_ok hbuild
  cases keyMap with
  | object fields =>
    obtain ⟨entries, hentries, hbuild⟩ := exists_of_bind_eq_ok hbuild
    cases hbuild
    obtain ⟨hnodup, hlower⟩ := keyEntries_labels hentries
    exact ⟨eq_false_of_checked hinstructions, eq_false_of_checked htimer,
      eq_false_of_checked hzoom, hnodup, hlower⟩
  | _ => cases hbuild

theorem keyEntries_resolutionMap (hc : c.IsSettled) :
    keyEntries c.resolutionMap = .ok c.keyMap := by
  rw [keyEntries, resolutionMap, KeyMap.ofNumbers, List.mapM_map, mapM_eq_ok (g := id), List.map_id]
  · exact congrArg Except.ok (fieldsOf_of_nodup hc.names_nodup)
  · intro entry hentry
    exact congrArg (fun name ↦ Except.ok (name, entry.2)) (hc.names_lower entry hentry)

/-- A configuration that satisfies the checks is constructed again from its own fields. -/
theorem build_settled (hc : c.IsSettled) :
    build c.name c.instructionsPerSecond.toJson c.timerRate.toJson c.displayZoom.toJson c.seed
      (.object c.resolutionMap) = .ok c := by
  rw [build, positive_eq_checked, checked_toJson hc.instructions_positive, positive_eq_checked,
    checked_toJson hc.timer_positive, zoomFactor_eq_checked, checked_toJson hc.zoom_positive]
  change (keyEntries _ >>= fun entries ↦ Except.ok _) = _
  rw [keyEntries_resolutionMap hc]
  rfl

/-! ### Documents -/

theorem ofDocument_toDocument :
    ofDocument c.toDocument = (do
      let keyMap ← documentKeyMap (.object (c.keyMap.map fun (name, value) ↦
        (name, .text (keyText value))))
      build c.name c.instructionsPerSecond.toJson c.timerRate.toJson c.displayZoom.toJson c.seed
        keyMap) :=
  rfl

theorem documentKeyValue_keyText {value : Int} (hvalue : 0 ≤ value) :
    documentKeyValue (.text (keyText value)) = .ok (.int value) := by
  obtain ⟨n, rfl⟩ := Int.eq_ofNat_of_zero_le hvalue
  rw [documentKeyValue, keyText, Numeral.read_hexadecimal]
  rfl

theorem documentKeyValue_keyText_of_negative {value : Int} (hvalue : value < 0) :
    documentKeyValue (.text (keyText value)) =
      .error (.badNumeral 16 (keyText value) .malformed) := by
  rw [documentKeyValue, keyText, Numeral.read_hexadecimal_of_negative hvalue]
  rfl

/-- A document whose key numbers are not negative describes its configuration again. -/
theorem ofDocument_toDocument_of_nonneg (hc : c.IsSettled)
    (hvalues : ∀ entry ∈ c.keyMap, 0 ≤ entry.2) : ofDocument c.toDocument = .ok c := by
  rw [ofDocument_toDocument, documentKeyMap, List.mapM_map,
    mapM_eq_ok (g := fun entry ↦ (entry.1, Json.int entry.2))]
  · exact build_settled hc
  · intro entry hentry
    change documentKeyValue _ >>= _ = _
    rw [documentKeyValue_keyText (hvalues entry hentry)]
    rfl

/-- A document with a negative key number is refused for the first of them. -/
theorem ofDocument_toDocument_of_negative {entry : String × Int}
    (hfirst : c.keyMap.find? (fun entry ↦ entry.2 < 0) = some entry) :
    ofDocument c.toDocument = .error (.badNumeral 16 (keyText entry.2) .malformed) := by
  obtain ⟨hnegative, before, after, hsplit, hbefore⟩ := List.find?_eq_some_iff_append.mp hfirst
  rw [ofDocument_toDocument, documentKeyMap, List.mapM_map, ← failure?_eq_some_iff]
  refine failure?_bind_of_some (failure?_bind_of_some ?_)
  rw [failure?_mapM, List.findSome?_eq_some_iff]
  refine ⟨before, entry, after, hsplit, ?_, fun other hother ↦ ?_⟩
  · change failure? (documentKeyValue _ >>= _) = _
    rw [documentKeyValue_keyText_of_negative (of_decide_eq_true hnegative)]
    rfl
  · have hnonneg : 0 ≤ other.2 := by
      have := hbefore other hother
      rw [Bool.not_eq_true', decide_eq_false_iff_not] at this
      exact Int.not_lt.mp this
    change failure? (documentKeyValue _ >>= _) = _
    rw [documentKeyValue_keyText hnonneg]
    rfl

/-- The document of a constructed configuration describes it again, unless the number of a key is
negative: then it is refused for the first such number, whose sign stands behind the prefix. -/
theorem document_round_trip_unless_negative
    {name instructionsPerSecond timerRate displayZoom seed keyMap : Json}
    (hbuild : build name instructionsPerSecond timerRate displayZoom seed keyMap = .ok c) :
    ((∀ entry ∈ c.keyMap, 0 ≤ entry.2) → ofDocument c.toDocument = .ok c) ∧
      ∀ entry, c.keyMap.find? (fun entry ↦ entry.2 < 0) = some entry →
        ofDocument c.toDocument = .error (.badNumeral 16 (keyText entry.2) .malformed) :=
  ⟨ofDocument_toDocument_of_nonneg (isSettled_of_build hbuild),
    fun _ hfirst ↦ ofDocument_toDocument_of_negative hfirst⟩

/-- The usual configuration with one key. -/
def keyed (value : Int) : Config :=
  { standard with keyMap := [("q", value)] }

theorem build_keyed (value : Int) :
    build (.text "CHIP-8") (.int 700) (.int 60) (.int 8) .null (.object [("q", .int value)]) =
      .ok (keyed value) := by
  have hlower : Text.lowerCase "q" = "q" :=
    Text.lowerCase_eq (Text.isLower_of_all (by decide))
  change Except.ok { standard with keyMap := [(Text.lowerCase "q", value)] } = _
  rw [hlower]
  rfl

theorem document_round_trip_unless_negative_of_keyed :
    ofDocument (keyed 31).toDocument = .ok (keyed 31) ∧
      ofDocument (keyed (-1)).toDocument = .error (.badNumeral 16 (keyText (-1)) .malformed) :=
  ⟨(document_round_trip_unless_negative (build_keyed 31)).1 (by decide),
    (document_round_trip_unless_negative (build_keyed (-1))).2 ("q", -1) rfl⟩

/-- Not every constructed configuration is described by its document. -/
theorem document_refused_of_minus_one :
    ¬ ∀ (name instructionsPerSecond timerRate displayZoom seed keyMap : Json) (c : Config),
      build name instructionsPerSecond timerRate displayZoom seed keyMap = .ok c →
        ofDocument c.toDocument = .ok c := by
  intro hall
  have hrefused : ofDocument (keyed (-1)).toDocument = .error _ :=
    ofDocument_toDocument_of_negative (c := keyed (-1)) rfl
  have haccepted := hall _ _ _ _ _ _ _ (build_keyed (-1))
  rw [hrefused] at haccepted
  cases haccepted

end Config

end Cosmac
