import Cosmac.Proofs.Config.Construction
import Cosmac.Proofs.Json.Document
import Mathlib

/-!
# Stored configurations

A configuration whose name and labels are text, whose rates and zoom are positive whole numbers, and
whose keys have numbers that are not negative (`Config.IsStorable`) is loaded from the file that
holds its own text, on every host that reads its numbers and two levels of nesting. So saving what
has been loaded writes the same text (`Config.load_of_saved`).
-/

set_option autoImplicit false

namespace Cosmac.Config

/-- Whether a quantity is a positive whole number. -/
def IsPositive (q : Quantity) : Prop :=
  ∃ n : Int, 0 < n ∧ q = .whole n

/-- Whether a configuration is of the kind that files keep. -/
structure IsStorable (c : Config) : Prop where
  name : ∃ text : String, Text.IsUnicode text ∧ c.name = .text text
  instructions_positive : IsPositive c.instructionsPerSecond
  timer_positive : IsPositive c.timerRate
  zoom_positive : IsPositive c.displayZoom
  seed : c.seed = .null ∨ ∃ n : Int, c.seed = .int n
  labels_nodup : (namesOf c.keyMap).Nodup
  labels_unicode : ∀ entry ∈ c.keyMap, Text.IsUnicode entry.1
  labels_lower : ∀ entry ∈ c.keyMap, Text.lowerCase entry.1 = entry.1
  numbers_nonneg : ∀ entry ∈ c.keyMap, 0 ≤ entry.2

/-- Whether a host reads the document of a configuration: it allows two levels of nesting, and as
many digits as the numbers outside the key map have. -/
structure IsWithin (c : Config) (limits : Json.Limits) : Prop where
  nesting : 2 ≤ limits.nesting
  digits : ∀ n : Int,
    .int n ∈ [c.instructionsPerSecond.toJson, c.timerRate.toJson, c.displayZoom.toJson, c.seed] →
      limits.Admit n.natAbs

variable {c : Config} {limits : Json.Limits}

theorem IsStorable.isSettled (hc : c.IsStorable) : c.IsSettled := by
  obtain ⟨instructions, hinstructions, heq⟩ := hc.instructions_positive
  obtain ⟨timer, htimer, heq'⟩ := hc.timer_positive
  obtain ⟨zoom, hzoom, heq''⟩ := hc.zoom_positive
  refine ⟨?_, ?_, ?_, hc.labels_nodup, hc.labels_lower⟩
  · rw [heq]
    exact decide_eq_false (Int.not_le.mpr hinstructions)
  · rw [heq']
    exact decide_eq_false (Int.not_le.mpr htimer)
  · rw [heq'']
    exact decide_eq_false (Int.not_lt.mpr hzoom)

/-! ### The document -/

theorem isUnicode_keyText (value : Int) : Text.IsUnicode (keyText value) := by
  have hdigits (n : Nat) : ∀ c ∈ (Numeral.digits 16 n).map Numeral.digitChar, Text.IsPlain c :=
    Text.isPlain_of_mem_digits (by decide) (by decide) n
  refine Text.isUnicode_of_plain ?_
  rw [keyText, Numeral.toList_prefixed]
  refine List.forall_mem_cons.mpr ⟨by decide, List.forall_mem_cons.mpr ⟨by decide, ?_⟩⟩
  cases value with
  | ofNat n =>
    rw [Numeral.hexChars, Numeral.hexDigits_eq (by decide)]
    exact hdigits n
  | negSucc n =>
    rw [Numeral.hexChars, Numeral.hexDigits_eq (by decide)]
    exact List.forall_mem_cons.mpr ⟨by decide, hdigits (n + 1)⟩

theorem isStored_of_isPositive {q : Quantity} (hq : IsPositive q)
    (hdigits : ∀ n : Int, q.toJson = .int n → limits.Admit n.natAbs) :
    Json.IsStored limits q.toJson := by
  obtain ⟨n, -, rfl⟩ := hq
  exact hdigits n rfl

theorem isStored_seed (hc : c.IsStorable)
    (hdigits : ∀ n : Int, c.seed = .int n → limits.Admit n.natAbs) :
    Json.IsStored limits c.seed := by
  rcases hc.seed with hseed | ⟨n, hseed⟩
  · rw [hseed]
    trivial
  · rw [hseed]
    exact hdigits n hseed

theorem isStored_keyMap (hc : c.IsStorable) (hnesting : limits.nesting ≠ 0) :
    Json.IsStored limits
      (.object (c.keyMap.map fun (name, value) ↦ (name, .text (keyText value)))) := by
  refine ⟨hnesting, ?_, Json.fieldsAreStored_of_forall fun field hfield ↦ ?_⟩
  · rw [namesOf, List.map_map]
    exact hc.labels_nodup
  · obtain ⟨entry, hentry, rfl⟩ := List.mem_map.mp hfield
    exact ⟨hc.labels_unicode entry hentry, isUnicode_keyText entry.2⟩

theorem isStored_toDocument (hc : c.IsStorable) (hlimits : c.IsWithin limits) :
    Json.IsStored limits c.toDocument := by
  obtain ⟨text, htext, hname⟩ := hc.name
  have hplain : ∀ field ∈ fieldNames,
      (field.toList.all fun c ↦ decide (Text.IsPlain c)) = true := by
    decide
  have hnames : ∀ field ∈ fieldNames, Text.IsUnicode field := fun field hfield ↦
    Text.isUnicode_of_plain (Text.isPlain_of_all (hplain field hfield))
  have hdigits := hlimits.digits
  refine ⟨Nat.ne_of_gt (Nat.lt_of_lt_of_le (by decide) hlimits.nesting),
    (by decide : fieldNames.Nodup), ?_⟩
  refine ⟨hnames _ (by decide), hname ▸ htext, hnames _ (by decide), ?_, hnames _ (by decide), ?_,
    hnames _ (by decide), ?_, hnames _ (by decide), ?_, hnames _ (by decide), ?_, trivial⟩
  · exact isStored_of_isPositive hc.instructions_positive fun n hn ↦ hdigits n (by simp [hn])
  · exact isStored_of_isPositive hc.timer_positive fun n hn ↦ hdigits n (by simp [hn])
  · exact isStored_of_isPositive hc.zoom_positive fun n hn ↦ hdigits n (by simp [hn])
  · exact isStored_seed hc fun n hn ↦ hdigits n (by simp [hn])
  · exact isStored_keyMap hc (Nat.sub_ne_zero_of_lt hlimits.nesting)

/-! ### Files -/

/-- A configuration is loaded from the file that holds its text, and what has been loaded is saved
as the same text. -/
theorem load_of_saved {files : Files} {path : String} (hc : c.IsStorable)
    (hlimits : c.IsWithin limits) (hfile : files.read path = .ok (Text.encodeUtf8 c.save)) :
    loadWithin limits files path = .ok c ∧
      ∀ loaded : Config, loadWithin limits files path = .ok loaded → loaded.save = c.save := by
  have hdocument := isStored_toDocument hc hlimits
  have hplain := Json.isPlain_writeAt c.toDocument hdocument (some 0)
  have hload : loadWithin limits files path = .ok c := by
    rw [loadWithin, hfile]
    simp only [save, Json.indented, Text.decodeUtf8_encodeUtf8 hplain, Text.joinLines_eq hplain,
      ofChars, Json.parseWithin_writeAt hdocument,
      ofDocument_toDocument_of_nonneg hc.isSettled hc.numbers_nonneg]
  refine ⟨hload, fun loaded hloaded ↦ ?_⟩
  rw [hload] at hloaded
  cases hloaded
  rfl

/-- A configuration whose name and label have escapes in its text. -/
def accented : Config :=
  ⟨.text (Text.ofPlain "é \"𝄞\""), .whole 700, .whole 60, .whole 8, .int (-7),
    [(Text.ofPlain "ß", 31), (Text.ofPlain "q", 0)]⟩

theorem load_of_saved_of_accented :
    let files : Files := ⟨[], [(["c"], .file (Text.encodeUtf8 accented.save))]⟩
    loadWithin (.ofNesting 988) files "c" = .ok accented ∧
      ∀ loaded : Config, loadWithin (.ofNesting 988) files "c" = .ok loaded →
        loaded.save = accented.save := by
  intro files
  have hlower : ∀ entry ∈ accented.keyMap, Text.lowerCase entry.1 = entry.1 :=
    List.forall_mem_cons.mpr ⟨Text.lowerCase_eq (Text.isLower_of_all (by decide)),
      List.forall_mem_singleton.mpr (Text.lowerCase_eq (Text.isLower_of_all (by decide)))⟩
  have hstorable : accented.IsStorable := {
    name := ⟨_, Text.isUnicode_ofPlain _, rfl⟩
    instructions_positive := ⟨700, by decide, rfl⟩
    timer_positive := ⟨60, by decide, rfl⟩
    zoom_positive := ⟨8, by decide, rfl⟩
    seed := Or.inr ⟨-7, rfl⟩
    labels_nodup := by decide
    labels_unicode := List.forall_mem_cons.mpr ⟨Text.isUnicode_ofPlain _,
      List.forall_mem_singleton.mpr (Text.isUnicode_ofPlain _)⟩
    labels_lower := hlower
    numbers_nonneg := by decide }
  have hwithin : accented.IsWithin (.ofNesting 988) := by
    refine ⟨by decide, fun n hn count hcount ↦ ?_⟩
    obtain rfl : 4300 = count := Option.some.inj hcount
    have hsmall : n.natAbs < 10 ^ 3 := by
      simp only [accented, Quantity.toJson, List.mem_cons, List.not_mem_nil, Json.int.injEq,
        or_false] at hn
      omega
    have hlength := (Numeral.length_digits_le_iff (by decide : 2 ≤ 10) _ (by decide)).mpr hsmall
    rw [Numeral.decimalDigits, List.length_map]
    exact hlength.trans (by decide)
  have hread (bytes : Array UInt8) : Files.read ⟨[], [(["c"], .file bytes)]⟩ "c" = .ok bytes := by
    cbv
  exact load_of_saved hstorable hwithin (hread _)

end Cosmac.Config
