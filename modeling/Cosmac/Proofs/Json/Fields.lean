import Cosmac.Json.Basic
import Mathlib.Data.List.Nodup

/-!
# Fields

The names of the fields that are collected from a list of entries are all different
(`nodup_fieldsOf`), and entries whose names are different are collected as they are
(`fieldsOf_of_nodup`).
-/

set_option autoImplicit false

namespace Cosmac

variable {α : Type}

/-! ### Names -/

/-- The names of named values. -/
def namesOf (fields : List (String × α)) : List String :=
  fields.map Prod.fst

theorem namesOf_insertField {name : String} (value : α) {fields : List (String × α)}
    (hname : name ∈ namesOf fields) :
    namesOf (insertField name value fields) = namesOf fields := by
  induction fields with
  | nil => exact absurd hname List.not_mem_nil
  | cons field rest ih =>
    rw [insertField]
    by_cases hfirst : field.1 = name
    · rw [if_pos hfirst, ← hfirst]
      rfl
    · have hrest : name ∈ namesOf rest := (List.mem_cons.mp hname).resolve_left (Ne.symm hfirst)
      rw [if_neg hfirst]
      exact congrArg (field.1 :: ·) (ih hrest)

theorem insertField_of_not_mem {name : String} (value : α) {fields : List (String × α)}
    (hname : name ∉ namesOf fields) :
    insertField name value fields = fields ++ [(name, value)] := by
  induction fields with
  | nil => rfl
  | cons field rest ih =>
    have hfirst : field.1 ≠ name := fun hfirst ↦ hname (hfirst ▸ List.mem_cons_self)
    have hrest : name ∉ namesOf rest := fun hrest ↦ hname (List.mem_cons_of_mem field.1 hrest)
    rw [insertField, if_neg hfirst, ih hrest, List.cons_append]

theorem nodup_insertField (name : String) (value : α) {fields : List (String × α)}
    (hfields : (namesOf fields).Nodup) : (namesOf (insertField name value fields)).Nodup := by
  by_cases hname : name ∈ namesOf fields
  · rwa [namesOf_insertField value hname]
  · rw [insertField_of_not_mem value hname, namesOf, List.map_append]
    exact List.Nodup.append hfields (List.nodup_singleton name)
      (List.disjoint_singleton.mpr hname)

/-- What a field of an object is after a value has been stored. -/
theorem mem_insertField {name : String} {value : α} {fields : List (String × α)}
    {entry : String × α} (hentry : entry ∈ insertField name value fields) :
    entry = (name, value) ∨ entry ∈ fields := by
  induction fields with
  | nil => exact Or.inl (List.mem_singleton.mp hentry)
  | cons field rest ih =>
    rw [insertField] at hentry
    split at hentry
    · exact (List.mem_cons.mp hentry).imp_right (List.mem_cons_of_mem field)
    · rcases List.mem_cons.mp hentry with rfl | hentry
      · exact Or.inr List.mem_cons_self
      · exact (ih hentry).imp_right (List.mem_cons_of_mem field)

theorem mem_of_lookupField? {name : String} {value : α} {fields : List (String × α)}
    (hvalue : lookupField? name fields = some value) : (name, value) ∈ fields := by
  obtain ⟨field, hfind, rfl⟩ := Option.map_eq_some_iff.mp hvalue
  have hname : (field.1 == name) = true :=
    List.find?_some (p := fun entry : String × α ↦ entry.1 == name) hfind
  rw [← eq_of_beq hname]
  exact List.mem_of_find?_eq_some hfind

/-- Where names are all different, a lookup finds every entry. -/
theorem lookupField?_of_mem {fields : List (String × α)} (hnames : (namesOf fields).Nodup)
    {name : String} {value : α} (hmem : (name, value) ∈ fields) :
    lookupField? name fields = some value := by
  induction fields with
  | nil => exact absurd hmem List.not_mem_nil
  | cons field rest ih =>
    obtain ⟨hfirst, hrest⟩ := List.nodup_cons.mp hnames
    rw [lookupField?, List.find?_cons]
    rcases List.mem_cons.mp hmem with rfl | hmem
    · rw [beq_self_eq_true]
      rfl
    · have hother : field.1 ≠ name := by
        rintro rfl
        exact hfirst (List.mem_map.mpr ⟨_, hmem, rfl⟩)
      rw [beq_eq_false_iff_ne.mpr hother]
      exact ih hrest hmem

/-- A lookup among entries whose values have been converted finds the converted value. -/
theorem lookupField?_map {β : Type} (convert : α → β) (name : String)
    (fields : List (String × α)) :
    lookupField? name (fields.map fun (name, value) ↦ (name, convert value)) =
      (lookupField? name fields).map convert := by
  rw [lookupField?, List.find?_map, lookupField?, Option.map_map, Option.map_map]
  rfl

/-! ### Collected fields -/

/-- What a step of collecting preserves holds of all fields that are collected. -/
theorem fieldsOf_induction {motive : List (String × α) → Prop} {entries : List (String × α)}
    (hnil : motive [])
    (hstep : ∀ fields, ∀ entry ∈ entries, motive fields →
      motive (insertField entry.1 entry.2 fields)) : motive (fieldsOf entries) := by
  suffices hfold : ∀ fields, motive fields →
      motive (entries.foldl (fun fields entry ↦ insertField entry.1 entry.2 fields) fields) from
    hfold [] hnil
  induction entries with
  | nil => exact fun fields hfields ↦ hfields
  | cons entry rest ih =>
    intro fields hfields
    refine ih (fun later next hnext ↦ hstep later next (List.mem_cons_of_mem entry hnext)) _ ?_
    exact hstep fields entry List.mem_cons_self hfields

theorem nodup_fieldsOf (entries : List (String × α)) : (namesOf (fieldsOf entries)).Nodup :=
  fieldsOf_induction (motive := fun fields ↦ (namesOf fields).Nodup) List.nodup_nil
    fun _ entry _ hfields ↦ nodup_insertField entry.1 entry.2 hfields

theorem mem_of_mem_fieldsOf {entries : List (String × α)} :
    ∀ entry ∈ fieldsOf entries, entry ∈ entries := by
  refine fieldsOf_induction (motive := fun fields ↦ ∀ entry ∈ fields, entry ∈ entries)
    (fun entry hentry ↦ absurd hentry List.not_mem_nil) ?_
  intro fields next hnext hfields entry hentry
  rcases mem_insertField hentry with rfl | hentry
  · exact hnext
  · exact hfields entry hentry

/-- Entries whose names are all different are collected as they are. -/
theorem fieldsOf_of_nodup {entries : List (String × α)} (hnames : (namesOf entries).Nodup) :
    fieldsOf entries = entries := by
  suffices hfold : ∀ fields : List (String × α), (namesOf (fields ++ entries)).Nodup →
      entries.foldl (fun fields entry ↦ insertField entry.1 entry.2 fields) fields =
        fields ++ entries from
    hfold [] hnames
  clear hnames
  induction entries with
  | nil => exact fun fields _ ↦ (List.append_nil fields).symm
  | cons entry rest ih =>
    intro fields hnames
    have hsplit : fields ++ entry :: rest = (fields ++ [entry]) ++ rest := by
      rw [List.append_assoc, List.singleton_append]
    have hentry : entry.1 ∉ namesOf fields := by
      rw [namesOf, List.map_append, List.nodup_append] at hnames
      exact fun hmem ↦ hnames.2.2 _ hmem _ List.mem_cons_self rfl
    rw [List.foldl_cons, insertField_of_not_mem entry.2 hentry, hsplit]
    exact ih _ (hsplit ▸ hnames)

end Cosmac
