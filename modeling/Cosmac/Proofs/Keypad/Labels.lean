import Cosmac.Proofs.Config.Construction
import Cosmac.Proofs.Keypad.Precedence
import Cosmac.Proofs.Service.Action
import Mathlib

/-!
# Configured labels

A configuration keeps the labels of keys in lower case and with the white space at their ends, and a
label is looked up in lower case and without that white space (`Key.resolve_of_lowerCase_eq`). So a
label without white space at its ends names the key that it is configured for. Any other label does
so only if the configuration has it without the white space for the same key, or not at all, and it
is a numeral of that key (`Key.configured_label_names_key_iff`). The label of a space bar is
never found (`Key.configured_space_bar_unknown`).
-/

set_option autoImplicit false

namespace Cosmac

/-! ### Texts without white space at their ends -/

namespace Text

variable {text : String} {c : Char}

theorem mem_of_mem_trim (hc : c ∈ (trim text).toList) : c ∈ text.toList := by
  rw [trim, String.toList_ofList, trimWhile, List.mem_reverse] at hc
  exact (List.dropWhile_sublist _).mem (List.mem_reverse.mp ((List.dropWhile_sublist _).mem hc))

theorem isLower_of_lowerCase_eq (htext : lowerCase text = text) (hc : c ∈ text.toList) :
    IsLower c := by
  refine isLower_lowerAfter [] text.toList c ?_
  rwa [← htext, lowerCase, String.toList_ofList] at hc

/-- A text in lower case remains so without the white space at its ends. -/
theorem lowerCase_trim (htext : lowerCase text = text) : lowerCase (trim text) = trim text :=
  lowerCase_eq fun _ hc ↦ isLower_of_lowerCase_eq htext (mem_of_mem_trim hc)

/-- A character in lower case is none of the capital letters of the first run. -/
theorem IsLower.toLower_eq (hc : IsLower c) : c.toLower = c := by
  have hrun : ((0x41, 0x5A, 1, 32) : CaseRun) ∈ lowerRuns.toList := by decide
  have hcapital := hc _ (mem_upperRuns.mpr (Or.inr hrun))
  rw [CaseRun.holds, Nat.mod_one, beq_self_eq_true, Bool.and_true, ← Bool.decide_and,
    decide_eq_false_iff_not] at hcapital
  refine dif_neg fun hrange ↦ hcapital ?_
  exact hrange.imp UInt32.le_iff_toNat_le.mp UInt32.le_iff_toNat_le.mp

end Text

/-! ### Lookups -/

namespace Key

variable {c : Config} {label : String}

/-- In lower case, a marker is found only where it stands. -/
theorem hasMarker_iff_of_lower {name : String} (hname : ∀ c ∈ name.toList, Text.IsLower c) :
    HasMarker name ↔ ∃ marker ∈ ["0x", "key_"], marker.toList <+: name.toList := by
  have hsame : name.toList.map Char.toLower = name.toList :=
    (List.map_congr_left fun c hc ↦ (hname c hc).toLower_eq).trans (List.map_id' _)
  rw [HasMarker, hsame]

/-- A label in lower case that begins with no marker, even without the white space at its ends, is
looked up without it, and read as a numeral if the configuration does not have it. -/
theorem resolve_of_lowerCase_eq (hlower : Text.lowerCase label = label)
    (hmarker : ∀ marker ∈ ["0x", "key_"], ¬ marker.toList <+: (Text.trim label).toList) :
    resolve c.resolutionMap (.text label) =
      match lookupField? (Text.trim label) c.keyMap with
      | some number => ofInt number
      | none =>
        match ofDigits? (Text.trim label) with
        | some key => .ok key
        | none => .error (.unknownName label) := by
  have hchars : ∀ c ∈ (Text.trim label).toList, Text.IsLower c := fun c hc ↦
    Text.isLower_of_lowerCase_eq hlower (Text.mem_of_mem_trim hc)
  have hplain : ¬ HasMarker (Text.trim label) := by
    rw [hasMarker_iff_of_lower hchars]
    exact fun ⟨marker, hmem, hstarts⟩ ↦ hmarker marker hmem hstarts
  have hmapped : mapped? c.resolutionMap (Text.trim label) =
      (lookupField? (Text.trim label) c.keyMap).map .int := by
    rw [mapped?, Text.lowerCase_trim hlower, Option.or_self]
    exact lookupField?_map Json.int _ c.keyMap
  cases hvalue : lookupField? (Text.trim label) c.keyMap with
  | some number =>
    rw [hvalue, Option.map_some] at hmapped
    rw [resolve_of_mapped hplain hmapped]
    rfl
  | none =>
    rw [hvalue, Option.map_none] at hmapped
    rw [resolve_of_unmapped hplain hmapped]
    rfl

/-! ### Configured labels -/

/-- A service presses the key that its configuration has a label for, if the label names it. -/
theorem pressKey_of_resolve {s : Service} {machine : Machine} {key : Key} {number : Int}
    (hlabel : (label, number) ∈ s.config.keyMap)
    (hkey : resolve s.config.resolutionMap (.text label) = .ok key)
    (hmachine : s.available? = some machine) :
    s.pressKey (.text label) =
      (.ok key, s.holding { machine with keypad := machine.keypad.press key }) := by
  have hmap : s.keyMap = s.config.resolutionMap :=
    if_neg (Bool.eq_false_iff.mp (List.isEmpty_eq_false_iff.mpr (List.ne_nil_of_mem hlabel)))
  rw [Service.pressKey, Service.onKey, hmap, hkey]
  exact Service.onMachine_of_available hmachine _

/-- Assumes a configuration that has been constructed and a label of it that stands for a key and,
without the white space at its ends, begins with no marker. If there is no such white space, the
label names the key. In general it does so exactly if the configuration has the label without the
white space for the same key, or does not have it and it is a hexadecimal numeral of the key. Every
service with the configuration and a machine then presses the key under the label. -/
theorem configured_label_names_key_iff
    {name instructionsPerSecond timerRate displayZoom seed keyMap : Json}
    (hbuild : Config.build name instructionsPerSecond timerRate displayZoom seed keyMap = .ok c)
    {key : Key} (hentry : (label, (key.val : Int)) ∈ c.keyMap)
    (hmarker : ∀ marker ∈ ["0x", "key_"], ¬ marker.toList <+: (Text.trim label).toList) :
    (Text.trim label = label → resolve c.resolutionMap (.text label) = .ok key) ∧
      (resolve c.resolutionMap (.text label) = .ok key ↔
        lookupField? (Text.trim label) c.keyMap = some (key.val : Int) ∨
          lookupField? (Text.trim label) c.keyMap = none ∧
            Numeral.read? 16 (Text.trim label) = some (key.val : Int)) ∧
      (resolve c.resolutionMap (.text label) = .ok key →
        ∀ (s : Service) (machine : Machine), s.config = c → s.available? = some machine →
          s.pressKey (.text label) =
            (.ok key, s.holding { machine with keypad := machine.keypad.press key })) := by
  have hsettled := Config.isSettled_of_build hbuild
  have hiff : resolve c.resolutionMap (.text label) = .ok key ↔
      lookupField? (Text.trim label) c.keyMap = some (key.val : Int) ∨
        lookupField? (Text.trim label) c.keyMap = none ∧
          Numeral.read? 16 (Text.trim label) = some (key.val : Int) := by
    rw [resolve_of_lowerCase_eq (hsettled.names_lower _ hentry) hmarker,
      ← ofDigits?_eq_some_iff]
    cases lookupField? (Text.trim label) c.keyMap with
    | some number => simp [ofInt_eq_ok_iff]
    | none => cases ofDigits? (Text.trim label) <;> simp
  refine ⟨fun htrimmed ↦ hiff.mpr (Or.inl ?_), hiff, fun hkey s machine hconfig hmachine ↦ ?_⟩
  · rw [htrimmed]
    exact lookupField?_of_mem hsettled.names_nodup hentry
  · subst hconfig
    exact pressKey_of_resolve hentry hkey hmachine

/-- The usual configuration with other labels. -/
def labelled (entries : List (String × Int)) : Config :=
  { Config.standard with keyMap := entries }

theorem build_labelled (entries : List (String × Int)) (hnodup : (namesOf entries).Nodup)
    (hlower : ∀ c ∈ entries.flatMap fun entry ↦ entry.1.toList, Text.IsLower c) :
    Config.build (.text "CHIP-8") (.int 700) (.int 60) (.int 8) .null
      (.object (KeyMap.ofNumbers entries)) = .ok (labelled entries) := by
  refine Config.build_settled (c := labelled entries) ⟨rfl, rfl, rfl, hnodup, ?_⟩
  intro entry hentry
  exact Text.lowerCase_eq fun c hc ↦ hlower c (List.mem_flatMap.mpr ⟨entry, hentry, hc⟩)

/-- Two labels that are digits as well. The first is configured for another key. The second is found
as a digit only, behind its blank. -/
theorem configured_label_names_key_iff_of_digits :
    let c := labelled [("c", 3), (" a", 10)]
    resolve c.resolutionMap (.text "c") = .ok 3 ∧ resolve c.resolutionMap (.text " a") = .ok 10 := by
  intro c
  have hbuild := build_labelled [("c", 3), (" a", 10)] (by decide) (Text.isLower_of_all (by decide))
  have hfirst : ("c", (Fin.val (3 : Key) : Int)) ∈ c.keyMap := List.mem_cons_self
  have hsecond : (" a", (Fin.val (10 : Key) : Int)) ∈ c.keyMap :=
    List.mem_cons_of_mem _ List.mem_cons_self
  have hplain : Text.trim "c" = "c" := by cbv
  have hblank : Text.trim " a" = "a" := by cbv
  have hdigit : Numeral.read? 16 "a" = some 10 := by cbv
  constructor
  · exact (configured_label_names_key_iff hbuild hfirst (by rw [hplain]; decide)).1 hplain
  · refine (configured_label_names_key_iff hbuild hsecond
      (by rw [hblank]; decide)).2.1.mpr (Or.inr ?_)
    rw [hblank]
    exact ⟨rfl, hdigit⟩

/-- Not every label of a constructed configuration names the key that it stands for: the label of a
space bar is looked up without its blank. -/
theorem configured_space_bar_unknown :
    ¬ ∀ (name instructionsPerSecond timerRate displayZoom seed keyMap : Json) (c : Config)
        (label : String) (key : Key),
      Config.build name instructionsPerSecond timerRate displayZoom seed keyMap = .ok c →
        (label, (key.val : Int)) ∈ c.keyMap →
        (∀ marker ∈ ["0x", "key_"], ¬ marker.toList <+: (Text.trim label).toList) →
          resolve c.resolutionMap (.text label) = .ok key := by
  intro hall
  have hlower : ∀ c ∈ [(" ", (5 : Int))].flatMap fun entry ↦ entry.1.toList, Text.IsLower c :=
    Text.isLower_of_all (by decide)
  have hempty : Text.trim " " = "" := by cbv
  have hmarker : ∀ marker ∈ ["0x", "key_"], ¬ marker.toList <+: (Text.trim " ").toList := by
    rw [hempty]
    decide
  have hunknown : resolve (labelled [(" ", 5)]).resolutionMap (.text " ") =
      .error (.unknownName " ") := by
    rw [resolve_of_lowerCase_eq (Text.lowerCase_eq (Text.isLower_of_all (by decide))) hmarker,
      hempty]
    rfl
  have hfound := hall _ _ _ _ _ _ _ " " 5 (build_labelled _ (by decide) hlower)
    List.mem_cons_self hmarker
  rw [hunknown] at hfound
  cases hfound

end Key

end Cosmac
