import Cosmac.Proofs.Json.Fields
import Cosmac.Proofs.Json.Scalar
import Cosmac.Proofs.Json.Text
import Mathlib.Tactic.SplitIfs

/-!
# Documents

A host with given limits reads back the document of a value if the value has no doubles, texts that
a document can hold, objects whose fields have different names, and integers and nesting within the
limits (`Json.IsStored`). Every value is read from the characters written for it, whatever stands
after them that does not continue a number (`Json.readValue_writeAt`), by one step for an item or a
field and induction over the value; so is the whole document (`Json.parseWithin_writeAt`).
-/

set_option autoImplicit false

namespace Cosmac.Json

mutual

/-- Whether a host with the given limits reads a value back from its document. -/
def IsStored (limits : Limits) : Json → Prop
  | null | bool _ => True
  | int value => limits.Admit value.natAbs
  | float _ => False
  | text value => Text.IsUnicode value
  | list items => limits.nesting ≠ 0 ∧ ItemsAreStored limits.inner items
  | object fields =>
    limits.nesting ≠ 0 ∧ (namesOf fields).Nodup ∧ FieldsAreStored limits.inner fields

/-- Whether a host with the given limits reads all items back. -/
def ItemsAreStored (limits : Limits) : List Json → Prop
  | [] => True
  | item :: rest => IsStored limits item ∧ ItemsAreStored limits rest

/-- Whether a host with the given limits reads all fields back. -/
def FieldsAreStored (limits : Limits) : List (String × Json) → Prop
  | [] => True
  | (name, value) :: rest =>
    Text.IsUnicode name ∧ IsStored limits value ∧ FieldsAreStored limits rest

end

variable {limits : Limits} {level : Option Nat} {fuel : Nat} {value : Json}
  {cs more rest gap : List Char}

theorem fieldsAreStored_of_forall {fields : List (String × Json)}
    (hfields : ∀ field ∈ fields, Text.IsUnicode field.1 ∧ IsStored limits field.2) :
    FieldsAreStored limits fields := by
  induction fields with
  | nil => trivial
  | cons field rest ih =>
    obtain ⟨hname, hvalue⟩ := hfields field List.mem_cons_self
    exact ⟨hname, hvalue, ih fun other hother ↦ hfields other (List.mem_cons_of_mem field hother)⟩

/-! ### White space -/

/-- Whether characters are all white space. -/
def IsGap (cs : List Char) : Prop :=
  ∀ c ∈ cs, isSpace c = true

theorem isGap_lineBreak (level : Option Nat) : IsGap (lineBreak level) := by
  cases level with
  | none => exact fun c hc ↦ absurd hc List.not_mem_nil
  | some n =>
    intro c hc
    rcases List.mem_cons.mp hc with rfl | hc
    · rfl
    · rw [List.eq_of_mem_replicate hc]
      rfl

theorem exists_separator_eq (level : Option Nat) :
    ∃ gap : List Char, separator level = ',' :: gap ∧ IsGap gap := by
  cases level with
  | none => exact ⟨[' '], rfl, List.forall_mem_singleton.mpr rfl⟩
  | some n => exact ⟨_, rfl, isGap_lineBreak (some n)⟩

theorem skipSpace_gap (hgap : IsGap gap) (cs : List Char) :
    skipSpace (gap ++ cs) = skipSpace cs :=
  List.dropWhile_append_of_pos hgap

/-- Whether some characters start with one that is neither white space nor a closing bracket. -/
def StartsAt (cs : List Char) : Prop :=
  ∃ (c : Char) (more : List Char), cs = c :: more ∧ isSpace c = false ∧ c ≠ ']' ∧ c ≠ '}'

theorem StartsAt.skipSpace_eq (hcs : StartsAt cs) : skipSpace cs = cs := by
  obtain ⟨c, more, rfl, hc, -⟩ := hcs
  exact List.dropWhile_cons_of_neg (Bool.eq_false_iff.mp hc)

theorem StartsAt.append (hcs : StartsAt cs) (rest : List Char) : StartsAt (cs ++ rest) := by
  obtain ⟨c, more, rfl, hc⟩ := hcs
  exact ⟨c, more ++ rest, rfl, hc⟩

theorem startsAt_of_isDigit {c : Char} (hc : isDigit c = true) : StartsAt (c :: cs) := by
  have hother {d : Char} (hd : isDigit d = false) : c ≠ d := by
    rintro rfl
    rw [hd] at hc
    cases hc
  refine ⟨c, cs, rfl, ?_, hother rfl, hother rfl⟩
  simp only [isSpace, hother (d := ' ') rfl, hother (d := '\t') rfl, hother (d := '\n') rfl,
    hother (d := '\r') rfl, decide_false, Bool.or_self]

theorem startsAt_escapedText (name : String) : StartsAt (escapedText name) :=
  ⟨'"', _, rfl, rfl, by decide, by decide⟩

theorem startsAt_writeAt (hvalue : IsStored limits value) : StartsAt (writeAt level value) := by
  cases value with
  | null => exact ⟨'n', _, rfl, rfl, by decide, by decide⟩
  | bool flag => cases flag <;> exact ⟨_, _, rfl, rfl, by decide, by decide⟩
  | int number =>
    cases number with
    | ofNat n =>
      obtain ⟨c, more, hdigits, hc⟩ := exists_decimalDigits_eq n
      rw [writeAt, Numeral.decimalChars, hdigits]
      exact startsAt_of_isDigit hc
    | negSucc n => exact ⟨'-', _, rfl, rfl, by decide, by decide⟩
  | float => exact False.elim hvalue
  | text content => exact startsAt_escapedText content
  | list items =>
    rw [writeAt, bracketed]
    split_ifs <;> exact ⟨'[', _, rfl, rfl, by decide, by decide⟩
  | object fields =>
    rw [writeAt, bracketed]
    split_ifs <;> exact ⟨'\x7b', _, rfl, rfl, by decide, by decide⟩

/-! ### Items -/

/-- The last item of a list ends at the bracket. -/
theorem readItems_last (hgap : IsGap gap)
    (hvalue : readValue limits fuel cs = .ok (value, gap ++ ']' :: rest)) :
    readItems limits (fuel + 1) cs = .ok ([value], rest) := by
  have hclose : skipSpace (gap ++ ']' :: rest) = ']' :: rest := skipSpace_gap hgap _
  rw [readItems, hvalue]
  simp only [hclose]

/-- An item before others ends at the comma. -/
theorem readItems_more {values : List Json} (hgap : IsGap gap) (hstart : StartsAt more)
    (hvalue : readValue limits fuel cs = .ok (value, ',' :: gap ++ more))
    (hmore : readItems limits fuel more = .ok (values, rest)) :
    readItems limits (fuel + 1) cs = .ok (value :: values, rest) := by
  have hcomma : skipSpace (',' :: gap ++ more) = ',' :: (gap ++ more) := rfl
  have hnext : skipSpace (gap ++ more) = more :=
    (skipSpace_gap hgap more).trans hstart.skipSpace_eq
  rw [readItems, hvalue]
  simp only [hcomma, hnext, hmore]
  rfl

/-- A list starts at the bracket. -/
theorem readValue_list {values : List Json} (hnesting : limits.nesting ≠ 0) (hgap : IsGap gap)
    (hstart : StartsAt more) (hmore : readItems limits.inner fuel more = .ok (values, rest)) :
    readValue limits (fuel + 1) ('[' :: (gap ++ more)) = .ok (list values, rest) := by
  have hnext : skipSpace (gap ++ more) = more :=
    (skipSpace_gap hgap more).trans hstart.skipSpace_eq
  obtain ⟨c, after, rfl, -, hclose, -⟩ := hstart
  rw [readValue, if_neg hnesting, hnext]
  split
  case h_1 heq => exact absurd (List.cons.inj heq).1 hclose
  case h_2 =>
    rw [hmore]
    rfl

/-! ### Fields -/

variable {name : String} {fields : List (String × Json)}

theorem readName_written (hname : Text.IsUnicode name) (hstart : StartsAt more) :
    readName (escapedText name ++ ':' :: ' ' :: more) = .ok (name, more) := by
  have hbody : escapedText name ++ ':' :: ' ' :: more =
      '"' :: ((Text.symbols name.toList).flatMap escapedSymbol ++ '"' :: ':' :: ' ' :: more) := by
    simp only [escapedText, List.cons_append, List.append_assoc, List.nil_append]
  have hvalue : skipSpace (' ' :: more) = more := hstart.skipSpace_eq
  rw [hbody, readName]
  simp only [readText_escaped hname]
  exact congrArg (fun value ↦ Except.ok (name, value)) hvalue

/-- The last field of an object ends at the brace. -/
theorem readFields_last (hgap : IsGap gap) (hname : readName cs = .ok (name, more))
    (hvalue : readValue limits fuel more = .ok (value, gap ++ '}' :: rest)) :
    readFields limits (fuel + 1) cs = .ok ([(name, value)], rest) := by
  have hclose : skipSpace (gap ++ '}' :: rest) = '}' :: rest := skipSpace_gap hgap _
  rw [readFields, hname]
  simp only [hvalue, hclose]

/-- A field before others ends at the comma. -/
theorem readFields_more {body : List Char} (hgap : IsGap gap) (hstart : StartsAt more)
    (hname : readName cs = .ok (name, body))
    (hvalue : readValue limits fuel body = .ok (value, ',' :: gap ++ more))
    (hmore : readFields limits fuel more = .ok (fields, rest)) :
    readFields limits (fuel + 1) cs = .ok ((name, value) :: fields, rest) := by
  have hcomma : skipSpace (',' :: gap ++ more) = ',' :: (gap ++ more) := rfl
  have hnext : skipSpace (gap ++ more) = more :=
    (skipSpace_gap hgap more).trans hstart.skipSpace_eq
  rw [readFields, hname]
  simp only [hvalue, hcomma, hnext, hmore]
  rfl

/-- An object starts at the brace. -/
theorem readValue_object (hnesting : limits.nesting ≠ 0) (hnames : (namesOf fields).Nodup)
    (hgap : IsGap gap) (hstart : StartsAt more)
    (hmore : readFields limits.inner fuel more = .ok (fields, rest)) :
    readValue limits (fuel + 1) ('\x7b' :: (gap ++ more)) = .ok (object fields, rest) := by
  have hnext : skipSpace (gap ++ more) = more :=
    (skipSpace_gap hgap more).trans hstart.skipSpace_eq
  obtain ⟨c, after, rfl, -, -, hclose⟩ := hstart
  rw [readValue, if_neg hnesting, hnext]
  split
  case h_1 heq => exact absurd (List.cons.inj heq).1 hclose
  case h_2 =>
    rw [hmore]
    exact congrArg (fun fields ↦ Except.ok (object fields, rest)) (fieldsOf_of_nodup hnames)

/-! ### Values -/

theorem endsNumber_gap (hgap : IsGap gap) (hcs : EndsNumber cs) : EndsNumber (gap ++ cs) := by
  cases gap with
  | nil => exact hcs
  | cons c more =>
    intro d hd
    obtain rfl : c = d := Option.some.inj hd
    have hc := hgap c List.mem_cons_self
    simp only [isSpace, Bool.or_eq_true, decide_eq_true_eq] at hc
    rcases hc with ((rfl | rfl) | rfl) | rfl <;> decide

theorem endsNumber_cons {c : Char} (hc : c = ',' ∨ c = ']' ∨ c = '}') : EndsNumber (c :: cs) := by
  intro d hd
  obtain rfl : c = d := Option.some.inj hd
  rcases hc with rfl | rfl | rfl <;> decide

/-- What is not a text, a list or an object is a word or a number. -/
theorem readValue_scalar {c : Char} (hc : c ≠ '"' ∧ c ≠ '[' ∧ c ≠ '{') :
    readValue limits (fuel + 1) (c :: cs) = readScalar limits (c :: cs) := by
  rw [readValue]
  · exact fun body heq ↦ hc.1 (List.cons.inj heq).1
  · exact fun body heq ↦ hc.2.1 (List.cons.inj heq).1
  · exact fun body heq ↦ hc.2.2 (List.cons.inj heq).1

theorem readValue_decimalChars {number : Int} (hnumber : limits.Admit number.natAbs)
    (hrest : EndsNumber rest) :
    readValue limits (fuel + 1) (Numeral.decimalChars number ++ rest) = .ok (int number, rest) := by
  rw [← readScalar_decimalChars hnumber hrest]
  cases number with
  | ofNat n =>
    obtain ⟨c, more, hdigits, hc⟩ := exists_decimalDigits_eq n
    rw [Numeral.decimalChars, hdigits]
    refine readValue_scalar ⟨?_, ?_, ?_⟩ <;> rintro rfl <;> cases hc
  | negSucc n => exact readValue_scalar (by decide)

theorem bracketed_of_ne_nil {opening closing : Char} {texts : List (List Char)}
    (htexts : texts ≠ []) :
    bracketed opening closing level texts =
      opening :: (lineBreak (level.map (· + 1)) ++
        ((separator (level.map (· + 1))).intercalate texts ++ (lineBreak level ++ [closing]))) := by
  simp only [bracketed, List.isEmpty_eq_false_iff.mpr htexts, Bool.false_eq_true, if_false,
    List.append_assoc, List.cons_append]

theorem startsAt_intercalate {first : List Char} (hfirst : StartsAt first) (sep : List Char)
    (others : List (List Char)) : StartsAt (sep.intercalate (first :: others)) := by
  cases others with
  | nil => rwa [List.intercalate_singleton]
  | cons second others =>
    rw [List.intercalate_cons_cons, List.append_assoc]
    exact hfirst.append _

theorem startsAt_writeItems {item : Json} {items : List Json}
    (hitems : ItemsAreStored limits (item :: items)) :
    StartsAt ((separator level).intercalate (writeItems level (item :: items))) :=
  startsAt_intercalate (startsAt_writeAt hitems.1) _ _

theorem startsAt_writeFields :
    StartsAt ((separator level).intercalate (writeFields level ((name, value) :: fields))) :=
  startsAt_intercalate ((startsAt_escapedText name).append _) _ _

mutual

/-- A value is read from the characters that are written for it. -/
theorem readValue_writeAt (value : Json) {limits : Limits} (hvalue : IsStored limits value)
    {level : Option Nat} {fuel : Nat} (hfuel : (writeAt level value).length ≤ fuel)
    {rest : List Char} (hrest : EndsNumber rest) :
    readValue limits fuel (writeAt level value ++ rest) = .ok (value, rest) := by
  have hstarts : StartsAt (writeAt level value) := startsAt_writeAt hvalue
  obtain ⟨c, more, hstart, -⟩ := hstarts
  obtain ⟨fuel, rfl⟩ : ∃ n, fuel = n + 1 := by
    rw [hstart, List.length_cons] at hfuel
    exact ⟨fuel - 1, by omega⟩
  clear hstart
  match value with
  | null => rfl
  | bool true => rfl
  | bool false => rfl
  | int number => exact readValue_decimalChars hvalue hrest
  | float _ => exact False.elim hvalue
  | text content =>
    have hbody : writeAt level (text content) ++ rest =
        '"' :: ((Text.symbols content.toList).flatMap escapedSymbol ++ '"' :: rest) := by
      simp only [writeAt, escapedText, List.cons_append, List.append_assoc, List.nil_append]
    rw [hbody, readValue, readText_escaped hvalue]
    rfl
  | list [] =>
    rw [writeAt, writeItems]
    exact if_neg hvalue.1
  | list (item :: items) =>
    obtain ⟨hnesting, hitems⟩ := hvalue
    have htexts : writeItems (level.map (· + 1)) (item :: items) ≠ [] := List.cons_ne_nil _ _
    rw [writeAt, bracketed_of_ne_nil htexts] at hfuel ⊢
    simp only [List.length_cons, List.length_append] at hfuel
    simp only [List.cons_append, List.append_assoc, List.nil_append]
    refine readValue_list hnesting (isGap_lineBreak _) ((startsAt_writeItems hitems).append _) ?_
    exact readItems_writeItems (item :: items) (List.cons_ne_nil _ _) hitems (by omega)
      (isGap_lineBreak level)
  | object [] =>
    rw [writeAt, writeFields]
    exact if_neg hvalue.1
  | object (field :: fields) =>
    obtain ⟨hnesting, hnames, hfields⟩ := hvalue
    have htexts : writeFields (level.map (· + 1)) (field :: fields) ≠ [] := List.cons_ne_nil _ _
    rw [writeAt, bracketed_of_ne_nil htexts] at hfuel ⊢
    simp only [List.length_cons, List.length_append] at hfuel
    simp only [List.cons_append, List.append_assoc, List.nil_append]
    refine readValue_object hnesting hnames (isGap_lineBreak _) (startsAt_writeFields.append _) ?_
    exact readFields_writeFields (field :: fields) (List.cons_ne_nil _ _) hfields (by omega)
      (isGap_lineBreak level)

/-- Items are read from the characters that are written for them. -/
theorem readItems_writeItems (items : List Json) (hne : items ≠ []) {limits : Limits}
    (hitems : ItemsAreStored limits items) {level : Option Nat} {fuel : Nat}
    (hfuel : ((separator level).intercalate (writeItems level items)).length < fuel)
    {gap rest : List Char} (hgap : IsGap gap) :
    readItems limits fuel
        ((separator level).intercalate (writeItems level items) ++ (gap ++ ']' :: rest)) =
      .ok (items, rest) := by
  obtain ⟨fuel, rfl⟩ : ∃ n, fuel = n + 1 := ⟨fuel - 1, by omega⟩
  match items with
  | [] => exact absurd rfl hne
  | [item] =>
    rw [writeItems, writeItems, List.intercalate_singleton] at hfuel ⊢
    exact readItems_last hgap (readValue_writeAt item hitems.1 (Nat.le_of_lt_succ hfuel)
      (endsNumber_gap hgap (endsNumber_cons (.inr (.inl rfl)))))
  | item :: next :: others =>
    obtain ⟨between, hseparator, hbetween⟩ := exists_separator_eq level
    have hjoined : (separator level).intercalate (writeItems level (item :: next :: others)) =
        writeAt level item ++ (',' :: between ++
          (separator level).intercalate (writeItems level (next :: others))) := by
      simp only [writeItems, List.intercalate_cons_cons, List.append_assoc, hseparator,
        List.cons_append]
    rw [hjoined] at hfuel ⊢
    simp only [List.length_cons, List.length_append] at hfuel
    rw [List.append_assoc, List.append_assoc]
    have hstart : StartsAt ((separator level).intercalate (writeItems level (next :: others)) ++
        (gap ++ ']' :: rest)) := (startsAt_writeItems hitems.2).append _
    refine readItems_more hbetween hstart ?_ ?_
    · exact readValue_writeAt item hitems.1 (by omega) (endsNumber_cons (.inl rfl))
    · exact readItems_writeItems (next :: others) (List.cons_ne_nil _ _) hitems.2 (by omega) hgap

/-- Fields are read from the characters that are written for them. -/
theorem readFields_writeFields (fields : List (String × Json)) (hne : fields ≠ [])
    {limits : Limits} (hfields : FieldsAreStored limits fields) {level : Option Nat} {fuel : Nat}
    (hfuel : ((separator level).intercalate (writeFields level fields)).length < fuel)
    {gap rest : List Char} (hgap : IsGap gap) :
    readFields limits fuel
        ((separator level).intercalate (writeFields level fields) ++ (gap ++ '}' :: rest)) =
      .ok (fields, rest) := by
  obtain ⟨fuel, rfl⟩ : ∃ n, fuel = n + 1 := ⟨fuel - 1, by omega⟩
  match fields with
  | [] => exact absurd rfl hne
  | [(name, item)] =>
    obtain ⟨hname, hitem, -⟩ := hfields
    rw [writeFields, writeFields, List.intercalate_singleton] at hfuel ⊢
    simp only [List.length_cons, List.length_append] at hfuel
    rw [List.append_assoc]
    refine readFields_last hgap (readName_written hname ((startsAt_writeAt hitem).append _)) ?_
    exact readValue_writeAt item hitem (by omega)
      (endsNumber_gap hgap (endsNumber_cons (.inr (.inr rfl))))
  | (name, item) :: next :: others =>
    obtain ⟨hname, hitem, hothers⟩ := hfields
    obtain ⟨between, hseparator, hbetween⟩ := exists_separator_eq level
    have hjoined : (separator level).intercalate
        (writeFields level ((name, item) :: next :: others)) =
        escapedText name ++ ':' :: ' ' :: (writeAt level item ++ (',' :: between ++
          (separator level).intercalate (writeFields level (next :: others)))) := by
      simp only [writeFields, List.intercalate_cons_cons, List.append_assoc, hseparator,
        List.cons_append]
    rw [hjoined] at hfuel ⊢
    simp only [List.length_cons, List.length_append] at hfuel
    simp only [List.append_assoc, List.cons_append]
    have hstart : StartsAt ((separator level).intercalate (writeFields level (next :: others)) ++
        (gap ++ '}' :: rest)) := startsAt_writeFields.append _
    refine readFields_more hbetween hstart
      (readName_written hname ((startsAt_writeAt hitem).append _)) ?_ ?_
    · exact readValue_writeAt item hitem (by omega) (endsNumber_cons (.inl rfl))
    · exact readFields_writeFields (next :: others) (List.cons_ne_nil _ _) hothers (by omega) hgap

end

/-! ### Whole documents -/

theorem isPlain_lineBreak (level : Option Nat) : ∀ c ∈ lineBreak level, Text.IsPlain c := by
  cases level with
  | none => exact fun c hc ↦ absurd hc List.not_mem_nil
  | some n =>
    refine List.forall_mem_cons.mpr ⟨Or.inl rfl, fun c hc ↦ ?_⟩
    rw [List.eq_of_mem_replicate hc]
    exact by decide

theorem isPlain_separator (level : Option Nat) : ∀ c ∈ separator level, Text.IsPlain c := by
  cases level with
  | none =>
    exact List.forall_mem_cons.mpr
      ⟨by decide, List.forall_mem_singleton.mpr (by decide)⟩
  | some n => exact List.forall_mem_cons.mpr ⟨by decide, isPlain_lineBreak (some n)⟩

theorem isPlain_bracketed {opening closing : Char} {texts : List (List Char)}
    (hopening : Text.IsPlain opening) (hclosing : Text.IsPlain closing)
    (htexts : ∀ text ∈ texts, ∀ c ∈ text, Text.IsPlain c) :
    ∀ c ∈ bracketed opening closing level texts, Text.IsPlain c := by
  by_cases hnil : texts = []
  · rw [hnil]
    exact List.forall_mem_cons.mpr ⟨hopening, List.forall_mem_singleton.mpr hclosing⟩
  · rw [bracketed_of_ne_nil hnil]
    have hjoined := Text.forall_mem_intercalate (isPlain_separator (level.map (· + 1))) htexts
    refine List.forall_mem_cons.mpr ⟨hopening, List.forall_mem_append.mpr ⟨isPlain_lineBreak _,
      List.forall_mem_append.mpr ⟨hjoined, List.forall_mem_append.mpr ⟨isPlain_lineBreak _, ?_⟩⟩⟩⟩
    exact List.forall_mem_singleton.mpr hclosing

theorem isPlain_escapedText (content : String) : ∀ c ∈ escapedText content, Text.IsPlain c := by
  have hquote : Text.IsPlain '"' := by decide
  refine List.forall_mem_cons.mpr ⟨hquote, List.forall_mem_append.mpr
    ⟨fun c hc ↦ ?_, List.forall_mem_singleton.mpr hquote⟩⟩
  obtain ⟨x, hx, hc⟩ := List.mem_flatMap.mp hc
  exact isPlain_of_mem_escapedSymbol (Text.isProper_of_mem_symbols _ x hx) c hc

theorem isPlain_decimalChars (number : Int) :
    ∀ c ∈ Numeral.decimalChars number, Text.IsPlain c := by
  have hdigits (n : Nat) : ∀ c ∈ Numeral.decimalDigits n, Text.IsPlain c :=
    Text.isPlain_of_mem_digits (by decide) (by decide) n
  cases number with
  | ofNat n => exact hdigits n
  | negSucc n => exact List.forall_mem_cons.mpr ⟨by decide, hdigits (n + 1)⟩

mutual

/-- What is written for a value without doubles is plain. -/
theorem isPlain_writeAt (value : Json) {limits : Limits} (hvalue : IsStored limits value)
    (level : Option Nat) : ∀ c ∈ writeAt level value, Text.IsPlain c := by
  match value with
  | null =>
    rw [writeAt]
    exact Text.isPlain_of_all (by decide)
  | bool true =>
    rw [writeAt]
    exact Text.isPlain_of_all (by decide)
  | bool false =>
    rw [writeAt]
    exact Text.isPlain_of_all (by decide)
  | int number => exact isPlain_decimalChars number
  | float _ => exact False.elim hvalue
  | text content => exact isPlain_escapedText content
  | list items =>
    exact isPlain_bracketed (by decide) (by decide)
      (isPlain_writeItems items hvalue.2 _)
  | object fields =>
    exact isPlain_bracketed (by decide) (by decide)
      (isPlain_writeFields fields hvalue.2.2 _)

theorem isPlain_writeItems (items : List Json) {limits : Limits}
    (hitems : ItemsAreStored limits items) (level : Option Nat) :
    ∀ text ∈ writeItems level items, ∀ c ∈ text, Text.IsPlain c := by
  match items with
  | [] => exact fun text htext ↦ absurd htext List.not_mem_nil
  | item :: rest =>
    exact List.forall_mem_cons.mpr
      ⟨isPlain_writeAt item hitems.1 level, isPlain_writeItems rest hitems.2 level⟩

theorem isPlain_writeFields (fields : List (String × Json)) {limits : Limits}
    (hfields : FieldsAreStored limits fields) (level : Option Nat) :
    ∀ text ∈ writeFields level fields, ∀ c ∈ text, Text.IsPlain c := by
  match fields with
  | [] => exact fun text htext ↦ absurd htext List.not_mem_nil
  | (name, value) :: rest =>
    refine List.forall_mem_cons.mpr ⟨?_, isPlain_writeFields rest hfields.2.2 level⟩
    refine List.forall_mem_append.mpr ⟨isPlain_escapedText name, ?_⟩
    exact List.forall_mem_cons.mpr ⟨by decide, List.forall_mem_cons.mpr
      ⟨by decide, isPlain_writeAt value hfields.2.1 level⟩⟩

end

/-- The document of a value is read as the value. -/
theorem parseWithin_writeAt (hvalue : IsStored limits value) (level : Option Nat) :
    parseWithin limits (writeAt level value) = .ok value := by
  have hread : readValue limits (2 * (writeAt level value).length + 2) (writeAt level value ++ []) =
      .ok (value, []) := readValue_writeAt value hvalue (by omega) nofun
  have hstart : skipSpace (writeAt level value) = writeAt level value :=
    (startsAt_writeAt hvalue).skipSpace_eq
  have hplain := isPlain_writeAt value hvalue level
  rw [List.append_nil] at hread
  unfold parseWithin
  split
  case h_1 heq =>
    rw [heq] at hplain
    exact absurd (hplain '\ufeff' List.mem_cons_self) (by decide)
  case h_2 =>
    rw [hstart, hread]
    rfl

end Cosmac.Json
