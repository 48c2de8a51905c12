import Cosmac.Text.LowerCase
import Cosmac.Proofs.Text.Symbols

/-!
# Text in lower case

A character is in lower case if no mapping applies to it. No run of the table has images in a run
(`Text.avoids_upperRuns`), so that what a mapping gives is in lower case
(`Text.isLower_lowerBetween`). Lower case is therefore reached at once, and a text in lower case
stays as it is (`Text.lowerCase_lowerCase`).
-/

set_option autoImplicit false

namespace Cosmac.Text

variable {run other : CaseRun} {c : Char}

/-! ### Runs -/

/-- Whether a run has no image in another one: its images lie before or behind the other run, or
between the characters of it. The distance of the images is given by how far it goes up and how far
down. -/
def CaseRun.avoids (run other : CaseRun) : Bool :=
  let up := run.2.2.2.toNat
  let down := (-run.2.2.2).toNat
  (run.2.1 + up).blt (other.1 + down) || (other.2.1 + down).blt (run.1 + up) ||
    (other.2.2.1 == 2 && (run.2.2.1 == 2 || run.1 == run.2.1) &&
      (run.1 + up + other.1 + down) % 2 == 1)

/-- The runs of characters that are mapped to others, whether by the table or by a rule. -/
def upperRuns : List CaseRun :=
  (0x130, 0x130, 1, 0) :: lowerRuns.toList

theorem mem_upperRuns : run ∈ upperRuns ↔ run = (0x130, 0x130, 1, 0) ∨ run ∈ lowerRuns.toList := by
  rw [upperRuns, List.mem_cons]

theorem avoids_upperRuns :
    lowerRuns.toList.all (fun run ↦ (-run.2.2.2).toNat.ble (run.1 + run.2.2.2.toNat) &&
      upperRuns.all run.avoids) = true := by
  decide +kernel

theorem holds_eq_false_of_avoids (havoids : run.avoids other = true)
    (hdown : (-run.2.2.2).toNat ≤ run.1 + run.2.2.2.toNat) (hholds : run.holds c = true)
    {image : Char} (himage : image.toNat = (c.toNat + run.2.2.2).toNat) :
    other.holds image = false := by
  obtain ⟨first, last, stride, shift⟩ := run
  obtain ⟨otherFirst, otherLast, otherStride, _⟩ := other
  simp only [CaseRun.holds, CaseRun.avoids, Bool.and_eq_true, Bool.or_eq_true, decide_eq_true_eq,
    beq_iff_eq, Nat.blt_eq, Bool.and_eq_false_iff, decide_eq_false_iff_not, beq_eq_false_iff_ne]
    at havoids hdown hholds himage ⊢
  obtain ⟨⟨hfirst, hlast⟩, hstride⟩ := hholds
  rcases havoids with (hbefore | hbehind) | ⟨⟨rfl, rfl | rfl⟩, hparity⟩
  · exact Or.inl (Or.inl (by omega))
  · exact Or.inl (Or.inr (by omega))
  · omega
  · omega

/-! ### Characters -/

/-- Whether no mapping to lower case applies to a character. -/
def IsLower (c : Char) : Prop :=
  ∀ run ∈ upperRuns, run.holds c = false

theorem isLower_nul : IsLower '\x00' := by
  have htable : upperRuns.all (fun run ↦ !run.holds '\x00') = true := by decide
  intro run hrun
  exact Bool.not_eq_true' _ ▸ List.all_eq_true.mp htable run hrun

/-- What a run of the table maps a character to is in lower case. -/
theorem isLower_apply (hrun : run ∈ lowerRuns.toList) (hholds : run.holds c = true) :
    IsLower (run.apply c) := by
  have htable := List.all_eq_true.mp avoids_upperRuns run hrun
  rw [Bool.and_eq_true, Nat.ble_eq, List.all_eq_true] at htable
  rw [CaseRun.apply]
  by_cases hvalid : (c.toNat + run.2.2.2).toNat.isValidChar
  · intro other hother
    refine holds_eq_false_of_avoids (htable.2 other hother) htable.1 hholds ?_
    exact toNat_ofNat_of_valid hvalid
  · rw [ofNat_of_not_valid hvalid]
    exact isLower_nul

theorem IsLower.lowerChar_eq (hc : IsLower c) : lowerChar c = c := by
  have hnone : lowerRuns.find? (fun run ↦ run.holds c) = none := by
    rw [← Array.find?_toList, List.find?_eq_none]
    intro run hrun
    rw [hc run (mem_upperRuns.mpr (Or.inr hrun))]
    exact Bool.false_ne_true
  unfold lowerChar
  rw [hnone]

theorem holds_singleton {point : Nat} :
    CaseRun.holds (point, point, 1, 0) c = decide (c.toNat = point) := by
  rw [CaseRun.holds, Nat.mod_one, beq_self_eq_true, Bool.and_true, ← Bool.decide_and]
  exact decide_eq_decide.mpr (by omega)

theorem isLower_lowerChar (hc : c ≠ 'İ') : IsLower (lowerChar c) := by
  unfold lowerChar
  split
  case h_1 run hfind =>
    rw [← Array.find?_toList] at hfind
    exact isLower_apply (List.mem_of_find?_eq_some hfind)
      (List.find?_some (p := fun run : CaseRun ↦ run.holds c) hfind)
  case h_2 hnone =>
    rw [← Array.find?_toList, List.find?_eq_none] at hnone
    intro run hrun
    rcases mem_upperRuns.mp hrun with rfl | hrun
    · rw [holds_singleton, decide_eq_false_iff_not]
      exact fun hpoint ↦ hc (Char.toNat_inj.mp hpoint)
    · exact Bool.eq_false_iff.mpr (hnone run hrun)

theorem IsLower.ne_dotted (hc : IsLower c) : c ≠ 'İ' := by
  rintro rfl
  exact absurd (hc _ (mem_upperRuns.mpr (Or.inl rfl))) (by decide)

theorem IsLower.ne_sigma (hc : IsLower c) : c ≠ 'Σ' := by
  rintro rfl
  have hrun : ((0x3A3, 0x3AB, 1, 32) : CaseRun) ∈ lowerRuns.toList := by decide
  exact absurd (hc _ (mem_upperRuns.mpr (Or.inr hrun))) (by decide)

/-! ### Texts -/

theorem isLower_of_all {cs : List Char} (hcs : (upperRuns.all fun run ↦ cs.all fun c ↦
    !run.holds c) = true) : ∀ c ∈ cs, IsLower c := by
  intro c hc run hrun
  have hrun := List.all_eq_true.mp (List.all_eq_true.mp hcs run hrun) c hc
  rwa [Bool.not_eq_true'] at hrun

theorem isLower_lowerBetween (before : List Char) (c : Char) (after : List Char) :
    ∀ d ∈ lowerBetween before c after, IsLower d := by
  have hrules : ∀ d ∈ ['i', '\u0307', 'ς', 'σ'], IsLower d := isLower_of_all (by decide)
  unfold lowerBetween
  split_ifs with hdotted hsigma hfinal
  · exact fun d hd ↦ hrules d (List.mem_append_left _ hd)
  · exact List.forall_mem_singleton.mpr (hrules 'ς' (by decide))
  · exact List.forall_mem_singleton.mpr (hrules 'σ' (by decide))
  · exact List.forall_mem_singleton.mpr (isLower_lowerChar hdotted)

theorem isLower_lowerAfter (before cs : List Char) : ∀ d ∈ lowerAfter before cs, IsLower d := by
  induction cs generalizing before with
  | nil => exact fun d hd ↦ absurd hd List.not_mem_nil
  | cons c after ih =>
    intro d hd
    rcases List.mem_append.mp hd with hd | hd
    · exact isLower_lowerBetween before c after d hd
    · exact ih (c :: before) d hd

theorem IsLower.lowerBetween_eq (hc : IsLower c) (before after : List Char) :
    lowerBetween before c after = [c] := by
  rw [lowerBetween, if_neg hc.ne_dotted, if_neg hc.ne_sigma, hc.lowerChar_eq]

/-- Characters in lower case stay as they are, whatever stands before them. -/
theorem lowerAfter_eq {cs : List Char} (hcs : ∀ c ∈ cs, IsLower c) (before : List Char) :
    lowerAfter before cs = cs := by
  induction cs generalizing before with
  | nil => rfl
  | cons c after ih =>
    rw [lowerAfter, (hcs c List.mem_cons_self).lowerBetween_eq,
      ih (fun d hd ↦ hcs d (List.mem_cons_of_mem c hd)), List.singleton_append]

/-- A text in lower case stays as it is. -/
theorem lowerCase_eq {text : String} (htext : ∀ c ∈ text.toList, IsLower c) :
    lowerCase text = text := by
  rw [lowerCase, lowerAfter_eq htext, String.ofList_toList]

theorem lowerCase_lowerCase (text : String) : lowerCase (lowerCase text) = lowerCase text := by
  refine lowerCase_eq fun c hc ↦ isLower_lowerAfter [] text.toList c ?_
  rwa [lowerCase, String.toList_ofList] at hc

end Cosmac.Text
