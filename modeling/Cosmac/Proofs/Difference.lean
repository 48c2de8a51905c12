import Cosmac.Machine.Snapshot
import Cosmac.Proofs.Number.Notation
import Mathlib.Data.List.FinRange
import Mathlib.Data.List.Nodup

/-!
# Differences are exact

The fields and the display are all there is to a record (`Snapshot.ext_get`), and the difference of
two records compares every field once (`Snapshot.mem_comparedFields`,
`Snapshot.nodup_comparedFields`). So the changes that it lists lead from the one record to the other
(`Snapshot.apply_changes`), each under a name of its own (`Snapshot.Field.name_injective`).
`Snapshot.difference_exact` says all of this together.
-/

set_option autoImplicit false

namespace Cosmac.Snapshot

variable {before after : Snapshot}

/-! ### Fields -/

theorem get_set_self (s : Snapshot) (field : Field) (value : field.Value) :
    (s.set field value).get field = value := by
  cases field with
  | register x => exact Vector.getElem_set_self x.isLt
  | memory address => exact Vector.getElem_set_self address.isLt
  | _ => rfl

theorem get_replace_of_ne {α : Type} {n : Nat} (entries : Vector α n) {place other : Fin n}
    (hne : place ≠ other) (value : α) :
    (replace entries place value).get other = entries.get other :=
  Vector.getElem_set_ne place.isLt other.isLt fun hval ↦ hne (Fin.ext hval)

theorem get_set_of_ne (s : Snapshot) {field other : Field} (hne : field ≠ other)
    (value : field.Value) : (s.set field value).get other = s.get other := by
  cases field with
  | register x =>
    cases other with
    | register y => exact get_replace_of_ne s.registers (fun hxy ↦ hne (congrArg _ hxy)) value
    | _ => rfl
  | memory address =>
    cases other with
    | memory place => exact get_replace_of_ne s.memory (fun hxy ↦ hne (congrArg _ hxy)) value
    | _ => rfl
  | _ => cases other <;> first | rfl | exact absurd rfl hne

theorem display_set (s : Snapshot) (field : Field) (value : field.Value) :
    (s.set field value).display = s.display := by
  cases field <;> rfl

/-- The fields and the display are all there is to a record. -/
theorem ext_get {s t : Snapshot} (hget : ∀ field : Field, s.get field = t.get field)
    (hdisplay : s.display = t.display) : s = t := by
  have hregisters : s.registers = t.registers :=
    Vector.ext fun place hplace ↦ hget (.register ⟨place, hplace⟩)
  have hmemory : s.memory = t.memory :=
    Vector.ext fun place hplace ↦ hget (.memory ⟨place, hplace⟩)
  have htimers : s.timers = t.timers := by
    have hdelay : s.timers.delay = t.timers.delay := hget .delay
    have hsound : s.timers.sound = t.timers.sound := hget .sound
    cases hs : s.timers
    cases ht : t.timers
    rw [hs, ht] at hdelay hsound
    exact congrArg₂ Timers.mk hdelay hsound
  cases s
  cases t
  simp only [mk.injEq]
  exact ⟨hregisters, hget .pc, hget .index, hget .depth, hget .stack, hget .instructionCount,
    hget .waitingForKey, hget .halted, hmemory, htimers, hget .pressedKeys, hget .lastPressed,
    hdisplay⟩

/-! ### Names -/

/-- The first three letters of the name of a field. -/
def Field.initials : Field → List Char
  | register _ => ['r', 'e', 'g']
  | pc => ['p', 'c']
  | index => ['i', 'n', 'd']
  | depth => ['s', 'p']
  | stack => ['s', 't', 'a']
  | instructionCount => ['i', 'n', 's']
  | waitingForKey => ['w', 'a', 'i']
  | halted => ['h', 'a', 'l']
  | memory _ => ['m', 'e', 'm']
  | delay => ['d', 'e', 'l']
  | sound => ['s', 'o', 'u']
  | pressedKeys => ['p', 'r', 'e']
  | lastPressed => ['l', 'a', 's']

theorem Field.take_name (field : Field) : field.name.toList.take 3 = field.initials := by
  cases field <;> simp only [name, String.toList_append] <;> rfl

/-- Every field has a name of its own. -/
theorem Field.name_injective : Function.Injective Field.name := by
  intro field other hname
  have hinitials : field.initials = other.initials := by
    rw [← take_name, ← take_name, hname]
  -- The initials tell the kinds of fields apart, and a kind has one field unless it has a number.
  cases field <;> cases other <;> first | rfl | simp [initials] at hinitials
  case register.register x y =>
    have hnumber := (String.append_right_inj _).mp hname
    rw [Fin.ext (Numeral.hexadecimal_injective 1 hnumber)]
  case memory.memory x y =>
    have hnumber := (String.append_right_inj _).mp ((String.append_left_inj _).mp hname)
    rw [Fin.ext (Numeral.hexadecimal_injective 3 hnumber)]

/-! ### Changes -/

/-- The change back. -/
def Change.swap (change : Change) : Change :=
  ⟨change.field, change.after, change.before⟩

theorem change?_eq_some_iff {field : Field} {change : Change} :
    change? before after field = some change ↔
      before.get field ≠ after.get field ∧
        change = ⟨field, before.get field, after.get field⟩ := by
  unfold change?
  by_cases heq : before.get field = after.get field
  · rw [if_pos heq]
    exact ⟨nofun, fun h ↦ absurd heq h.1⟩
  · rw [if_neg heq, Option.some_inj, eq_comm]
    exact (and_iff_right heq).symm

theorem change?_eq_none_iff {field : Field} :
    change? before after field = none ↔ before.get field = after.get field := by
  unfold change?
  by_cases heq : before.get field = after.get field
  · rw [if_pos heq]
    exact iff_of_true rfl heq
  · rw [if_neg heq]
    exact iff_of_false nofun heq

theorem change?_swap (before after : Snapshot) (field : Field) :
    change? after before field = (change? before after field).map Change.swap := by
  unfold change?
  by_cases heq : before.get field = after.get field
  · rw [if_pos heq, if_pos heq.symm]
    rfl
  · rw [if_neg heq, if_neg (Ne.symm heq)]
    rfl

/-- The changes of fields, in their order, are those of the fields that differ. -/
theorem map_field_filterMap (before after : Snapshot) (fields : List Field) :
    (fields.filterMap (change? before after)).map Change.field =
      fields.filter fun field ↦ before.get field ≠ after.get field := by
  induction fields with
  | nil => rfl
  | cons field rest ih =>
    by_cases heq : before.get field = after.get field
    · rw [List.filterMap_cons_none (change?_eq_none_iff.mpr heq),
        List.filter_cons_of_neg (by simpa using heq), ih]
    · rw [List.filterMap_cons_some (change?_eq_some_iff.mpr ⟨heq, rfl⟩), List.map_cons,
        List.filter_cons_of_pos (by simpa using heq), ih]

/-- Changes that are put into a record replace the fields that they are about. -/
theorem get_apply_filterMap (before after : Snapshot) (fields : List Field) (field : Field) :
    ∀ s : Snapshot, (s.apply (fields.filterMap (change? before after))).get field =
      if field ∈ fields ∧ before.get field ≠ after.get field then after.get field
      else s.get field := by
  induction fields with
  | nil => intro s; rfl
  | cons other rest ih =>
    intro s
    by_cases hother : before.get other = after.get other
    · have hmem : (field ∈ other :: rest ∧ before.get field ≠ after.get field) ↔
          (field ∈ rest ∧ before.get field ≠ after.get field) := by
        rw [List.mem_cons]
        constructor
        · rintro ⟨rfl | hrest, hne⟩
          · exact absurd hother hne
          · exact ⟨hrest, hne⟩
        · exact fun h ↦ ⟨Or.inr h.1, h.2⟩
      rw [List.filterMap_cons_none (change?_eq_none_iff.mpr hother), ih]
      simp only [hmem]
    · rw [List.filterMap_cons_some (change?_eq_some_iff.mpr ⟨hother, rfl⟩)]
      show ((s.set other (after.get other)).apply _).get field = _
      rw [ih]
      by_cases hrest : field ∈ rest ∧ before.get field ≠ after.get field
      · rw [if_pos hrest, if_pos ⟨List.mem_cons_of_mem other hrest.1, hrest.2⟩]
      · rw [if_neg hrest]
        by_cases heq : other = field
        · subst heq
          rw [get_set_self, if_pos ⟨List.mem_cons_self, hother⟩]
        · rw [get_set_of_ne s heq, if_neg]
          rintro ⟨hmem, hne⟩
          exact hrest ⟨(List.mem_cons.mp hmem).resolve_left (Ne.symm heq), hne⟩

theorem display_apply (changes : List Change) :
    ∀ s : Snapshot, (s.apply changes).display = s.display := by
  induction changes with
  | nil => intro s; rfl
  | cons change rest ih =>
    intro s
    exact (ih _).trans (display_set s change.field change.after)

/-! ### Differences -/

/-- The fields that a difference compares, in their order. -/
def comparedFields : List Field :=
  cpuFields ++ memoryFields ++ timerFields ++ keypadFields

/-- The changes that a difference lists. -/
def Difference.changes (d : Difference) : List Change :=
  d.cpu ++ d.memory ++ d.timers ++ d.keypad

/-- The difference back. -/
def Difference.swap (d : Difference) : Difference where
  cpu := d.cpu.map Change.swap
  memory := d.memory.map Change.swap
  timers := d.timers.map Change.swap
  keypad := d.keypad.map Change.swap
  displayChanged := d.displayChanged

/-- Every field is compared. -/
theorem mem_comparedFields (field : Field) : field ∈ comparedFields := by
  have hregister (x : Register) : Field.register x ∈ (List.finRange 16).map Field.register :=
    List.mem_map_of_mem (List.mem_finRange x)
  have hmemory (address : Fin 4096) : Field.memory address ∈ memoryFields :=
    List.mem_map_of_mem (List.mem_finRange address)
  simp only [comparedFields, cpuFields, timerFields, keypadFields, List.mem_append, List.mem_cons]
  cases field <;> simp [hregister, hmemory]

/-- No field is compared twice. -/
theorem nodup_comparedFields : comparedFields.Nodup := by
  have hregisters : ((List.finRange 16).map Field.register).Nodup :=
    (List.nodup_finRange 16).map fun x y hxy ↦ Field.register.inj hxy
  have hmemory : memoryFields.Nodup :=
    (List.nodup_finRange 4096).map fun x y hxy ↦ Field.memory.inj hxy
  have hcpu : cpuFields.Nodup := by
    refine hregisters.append (by decide) fun field hregister hother ↦ ?_
    obtain ⟨x, -, rfl⟩ := List.mem_map.mp hregister
    simp at hother
  refine ((hcpu.append hmemory ?_).append (by decide) ?_).append (by decide) ?_
  · intro field hcpu hmemory
    obtain ⟨address, -, rfl⟩ := List.mem_map.mp hmemory
    simp [cpuFields] at hcpu
  · intro field hearlier htimer
    rcases List.mem_pair.mp htimer with rfl | rfl <;> simp [cpuFields, memoryFields] at hearlier
  · intro field hearlier hkeypad
    rcases List.mem_pair.mp hkeypad with rfl | rfl <;>
      simp [cpuFields, memoryFields, timerFields] at hearlier

theorem changes_difference (before after : Snapshot) :
    (difference before after).changes = comparedFields.filterMap (change? before after) := by
  simp only [Difference.changes, difference, comparedFields, List.filterMap_append]

theorem swap_difference (before after : Snapshot) :
    (difference before after).swap = difference after before := by
  have hpart (fields : List Field) : (fields.filterMap (change? before after)).map Change.swap =
      fields.filterMap (change? after before) := by
    rw [List.map_filterMap]
    exact List.filterMap_congr fun field _ ↦ (change?_swap before after field).symm
  simp only [Difference.swap, difference, hpart, bne_comm]

/-- The changes lead from the one record to the other. -/
theorem apply_changes (before after : Snapshot) :
    before.apply (difference before after).changes = { after with display := before.display } := by
  refine ext_get (fun field ↦ ?_) (display_apply _ before)
  have hafter : { after with display := before.display }.get field = after.get field := by
    cases field <;> rfl
  rw [changes_difference, get_apply_filterMap, hafter]
  by_cases heq : before.get field = after.get field
  · rw [if_neg (fun h ↦ h.2 heq), heq]
  · rw [if_pos ⟨mem_comparedFields field, heq⟩]

/-- A difference lists nothing exactly if it has no changes and the displays are equal. -/
theorem Difference.isEmpty_iff (d : Difference) :
    d.isEmpty = true ↔ d.changes = [] ∧ d.displayChanged = false := by
  simp only [isEmpty, changes, Bool.and_eq_true, List.isEmpty_iff, Bool.not_eq_true',
    List.append_eq_nil_iff]

theorem isEmpty_difference_iff (before after : Snapshot) :
    (difference before after).isEmpty = true ↔ before = after := by
  have hdisplay : (difference before after).displayChanged = false ↔
      before.display = after.display := bne_eq_false_iff_eq
  rw [Difference.isEmpty_iff, hdisplay, changes_difference, List.filterMap_eq_nil_iff]
  constructor
  · rintro ⟨hchanges, hdisplay⟩
    exact ext_get (fun field ↦ change?_eq_none_iff.mp (hchanges field (mem_comparedFields field)))
      hdisplay
  · rintro rfl
    exact ⟨fun field _ ↦ change?_eq_none_iff.mpr rfl, rfl⟩

/-- The addresses whose bytes differ, in ascending order. -/
def changedAddresses (before after : Snapshot) : List (Fin 4096) :=
  (List.finRange 4096).filter fun address ↦
    before.memory.get address ≠ after.memory.get address

theorem pairwise_changedAddresses (before after : Snapshot) :
    (changedAddresses before after).Pairwise (· < ·) :=
  (List.pairwise_lt_finRange 4096).filter _

theorem map_field_memory (before after : Snapshot) :
    (difference before after).memory.map Change.field =
      (changedAddresses before after).map Field.memory := by
  -- Said of any addresses, so that nothing computes the list of them all.
  have hany (addresses : List (Fin 4096)) :
      ((addresses.map Field.memory).filterMap (change? before after)).map Change.field =
        (addresses.filter fun address ↦
          before.memory.get address ≠ after.memory.get address).map Field.memory := by
    rw [map_field_filterMap, List.filter_map]
    refine congrArg (List.map Field.memory) (List.filter_congr fun address _ ↦ ?_)
    exact decide_eq_decide.mpr Iff.rfl
  rw [difference, memoryFields, hany, changedAddresses]

/-- The difference of two records is empty exactly if they are equal. It lists changes, each from
the one value of a field to another one in the later record, each under its own name, those of the
memory in the order of the addresses; together they lead from the earlier record to the later one,
but for the display, of which the difference says whether it is another. The difference the other
way lists the same changes back. -/
theorem difference_exact (before after : Snapshot) :
    let d := difference before after
    (d.isEmpty = true ↔ before = after) ∧
    (∀ change ∈ d.changes, change.before = before.get change.field ∧
      change.after = after.get change.field ∧ change.before ≠ change.after) ∧
    (d.changes.map fun change ↦ change.field.name).Nodup ∧
    (∃ addresses : List (Fin 4096), addresses.Pairwise (· < ·) ∧
      d.memory.map Change.field = addresses.map Field.memory) ∧
    before.apply d.changes = { after with display := before.display } ∧
    (d.displayChanged = true ↔ before.display ≠ after.display) ∧
    difference after before = d.swap := by
  intro d
  refine ⟨isEmpty_difference_iff before after, ?_, ?_, ?_, apply_changes before after, bne_iff_ne,
    (swap_difference before after).symm⟩
  · intro change hchange
    rw [changes_difference, List.mem_filterMap] at hchange
    obtain ⟨field, -, hfield⟩ := hchange
    obtain ⟨hne, rfl⟩ := change?_eq_some_iff.mp hfield
    exact ⟨rfl, rfl, hne⟩
  · have hfields : (d.changes.map Change.field).Nodup := by
      rw [changes_difference, map_field_filterMap]
      exact nodup_comparedFields.filter _
    rw [← Function.comp_def Field.name Change.field, ← List.map_map]
    exact hfields.map Field.name_injective
  · exact ⟨changedAddresses before after, pairwise_changedAddresses before after,
      map_field_memory before after⟩

end Cosmac.Snapshot
