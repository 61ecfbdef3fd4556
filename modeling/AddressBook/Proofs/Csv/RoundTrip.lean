import AddressBook.Proofs.Csv.Columns
import AddressBook.Proofs.Csv.Cutting
import AddressBook.Proofs.Text.Blank
import AddressBook.Proofs.Text.Case

/-!
Contacts that are written as comma-separated text and read again. The columns may come in any order,
and every cell and every line may be written in its own way.
-/
namespace AddressBook.Csv

open Text

/-- A header names a field: in any letter case, with blanks around. -/
def Names (header : Text) (f : Field) : Prop :=
  ∃ before label after, header = before ++ label ++ after ∧ (∀ c ∈ before, isBlank c) ∧
    (∀ c ∈ after, isBlank c) ∧ label.map Char.toLower = f.label

/-- The cells of a record, one for each column. -/
def record (columns : List Field) (v : Fields) : List Text := columns.map fun f => (v.get f).getD []

/-- Field values that a record can hold: at least one of them, and each of them a text without outer
blanks that is not empty and not too long. -/
structure Writable (v : Fields) : Prop where
  some : ∃ f, v.get f ≠ none
  trimmed : ∀ f, ∀ t ∈ v.get f, t ≠ [] ∧ Trimmed t
  short : ∀ f, ∀ t ∈ v.get f, t.length ≤ cellLimit

variable {f : Field} {v : Fields} {t label header w : Text} {c : Char} {headers : List Text}
  {columns : List Field} {xs : List Text}

/-! ### Headers -/

theorem letter_of_toLower (h : c.toLower ∈ f.label) : c.toNat < 0x80 ∧ isBlank c = false := by
  have hlabel : f.label.all fun c => c.toNat < 0x80 && !isBlank c := by cases f <;> decide
  unfold Char.toLower at h
  split at h
  next hcapital =>
    simp only [ge_iff_le, UInt32.le_iff_toNat_le] at hcapital
    have hcapital : 0x41 ≤ c.toNat ∧ c.toNat ≤ 0x5A := hcapital
    refine ⟨by omega, ?_⟩
    simp only [isBlank, Bool.or_eq_false_iff, Bool.and_eq_false_iff, decide_eq_false_iff_not,
      beq_eq_false_iff_ne]
    omega
  next => simpa using List.all_eq_true.1 hlabel c h

theorem letter_of_label (h : label.map Char.toLower = f.label) (hc : c ∈ label) :
    c.toNat < 0x80 ∧ isBlank c = false :=
  letter_of_toLower (h ▸ List.mem_map_of_mem hc)

theorem headerField?_of_names (h : Names header f) : headerField? header = some f := by
  obtain ⟨before, label, after, rfl, hbefore, hafter, hlabel⟩ := h
  have hne : label ≠ [] := by
    rintro rfl
    cases f <;> cases hlabel
  have htrimmed : Trimmed label :=
    ⟨fun c hc => (letter_of_label hlabel (List.mem_of_mem_head? hc)).2,
      fun c hc => (letter_of_label hlabel (List.mem_of_mem_getLast? hc)).2⟩
  have hlower : lower label = f.label := by
    rw [← hlabel, lower_eq_map]
    · exact List.map_congr_left fun c hc => lowerChar_of_ascii (letter_of_label hlabel hc).1
    · intro c hc
      have hascii := (letter_of_label hlabel hc).1
      constructor <;> (rintro rfl; exact absurd hascii (by decide))
  rw [headerField?, htrimmed.trim_around hne hbefore hafter, hlower]
  cases f <;> decide

theorem headerFields_of_names (h : List.Forall₂ Names headers columns) :
    headers.map headerField? = columns.map some := by
  induction h with
  | nil => rfl
  | cons hname _ ih => rw [List.map_cons, List.map_cons, headerField?_of_names hname, ih]

theorem names_of_mem (h : List.Forall₂ Names headers columns) (hheader : header ∈ headers) :
    ∃ f, Names header f := by
  induction h with
  | nil => cases hheader
  | cons hname _ ih =>
    rcases List.mem_cons.1 hheader with rfl | hheader
    · exact ⟨_, hname⟩
    · exact ih hheader

/-- The column of a field is one that was written for it. -/
theorem column?_of_names (h : List.Forall₂ Names headers columns) (hf : f ∈ columns) :
    ∃ i, column? headers f = some i ∧ columns[i]? = some f := by
  have hfields := headerFields_of_names h
  cases hcolumn : column? headers f with
  | none =>
    have hmem : some f ∈ headers.map headerField? := hfields ▸ List.mem_map_of_mem hf
    obtain ⟨header, hheader, hfield⟩ := List.mem_map.1 hmem
    have hnone := column?_eq_none_iff.1 hcolumn header hheader
    exact absurd (headerField?_eq_some_iff.1 hfield) hnone
  | some i =>
    obtain ⟨header, hheader, hspells⟩ := (column?_eq_some_iff.1 hcolumn).spelled
    have hi : (headers.map headerField?)[i]? = some (some f) := by
      rw [List.getElem?_map, hheader, Option.map_some, headerField?_eq_some_iff.2 hspells]
    rw [hfields, List.getElem?_map, Option.map_eq_some_iff] at hi
    obtain ⟨g, hg, hgf⟩ := hi
    exact ⟨i, rfl, hg.trans hgf⟩

/-! ### Records -/

theorem cellValue_getD {x : Option Text} (h : ∀ t ∈ x, t ≠ [] ∧ Trimmed t) :
    cellValue (x.getD []) = x := by
  match x with
  | none => rfl
  | some t =>
    obtain ⟨hne, htrimmed⟩ := h t rfl
    rw [Option.getD_some, cellValue, htrimmed.trim_eq]
    cases t with
    | nil => exact absurd rfl hne
    | cons c rest => rfl

theorem ofFunction_eq {value : Field → Option Text} (h : ∀ f, value f = v.get f) :
    Fields.ofFunction value = v := by
  rw [Fields.ofFunction, h, h, h, h, h]
  rfl

theorem rowFields_record (h : List.Forall₂ Names headers columns) (hall : ∀ f, f ∈ columns)
    (hv : Writable v) : rowFields headers (record columns v) = v := by
  apply ofFunction_eq
  intro f
  obtain ⟨i, hcolumn, hi⟩ := column?_of_names h (hall f)
  have hcell : (record columns v)[i]? = some ((v.get f).getD []) := by
    rw [record, List.getElem?_map, hi]
    rfl
  rw [hcolumn, Option.bind_eq_bind, Option.bind_some, hcell, Option.bind_eq_bind,
    Option.bind_some]
  exact cellValue_getD (hv.trimmed f)

theorem short_record (hv : Writable v) : ∀ t ∈ record columns v, t.length ≤ cellLimit := by
  intro t ht
  obtain ⟨f, -, rfl⟩ := List.mem_map.1 ht
  cases hf : v.get f with
  | none => exact Nat.zero_le _
  | some t => exact hv.short f t hf

theorem hasValue_of_writable (hv : Writable v) : hasValue v = true := by
  obtain ⟨f, hf⟩ := hv.some
  exact List.any_eq_true.2 ⟨f, mem_fields f, Option.isSome_iff_ne_none.2 hf⟩

/-! ### Documents -/

theorem ne_mark_of_names (h : Names header f) (hc : c ∈ header) : c ≠ '\uFEFF' := by
  obtain ⟨before, label, after, rfl, hbefore, hafter, hlabel⟩ := h
  have hmark : ¬ isBlank '\uFEFF' := by decide
  rw [List.mem_append, List.mem_append] at hc
  rintro rfl
  rcases hc with (hc | hc) | hc
  · exact hmark (hbefore _ hc)
  · exact absurd (letter_of_label hlabel hc).1 (by decide)
  · exact hmark (hafter _ hc)

/-- A text that starts with headers does not start with a byte order mark. -/
theorem dropWhile_mark (hheaders : List.Forall₂ Names headers columns)
    (hmany : 2 ≤ headers.length) (hw : RecordWritten headers w) (rest : Text) :
    (w ++ rest).dropWhile (· == '\uFEFF') = w ++ rest := by
  obtain ⟨c, tail, rfl, hc⟩ := hw.head hmany
  have hmark : c ≠ '\uFEFF' := by
    rcases hc with rfl | rfl | ⟨header, hheader, hc⟩
    · decide
    · decide
    · obtain ⟨f, hname⟩ := names_of_mem hheaders hheader
      exact ne_mark_of_names hname hc
  exact List.dropWhile_cons_of_neg (by simpa using hmark)

/-- The headers name every field, so the text is not refused for want of a header. -/
theorem header_found (h : List.Forall₂ Names headers columns) (hall : ∀ f, f ∈ columns) :
    (Field.all.all fun f => (column? headers f).isNone) = false := by
  obtain ⟨i, hcolumn, -⟩ := column?_of_names h (hall .name)
  refine List.all_eq_false.2 ⟨.name, mem_fields _, ?_⟩
  simp [hcolumn]

theorem rows_read (h : List.Forall₂ Names headers columns) (hall : ∀ f, f ∈ columns)
    {vs : List Fields} (hvs : ∀ v ∈ vs, Writable v) :
    ((vs.map (record columns)).map (rowFields headers)).filter hasValue = vs := by
  have hrows : (vs.map (record columns)).map (rowFields headers) = vs := by
    rw [List.map_map]
    conv_rhs => rw [← List.map_id vs]
    exact List.map_congr_left fun v hv => rowFields_record h hall (hvs v hv)
  rw [hrows]
  exact List.filter_eq_self.2 fun v hv => hasValue_of_writable (hvs v hv)

/-- With a header that is too long, nothing is read. -/
theorem contacts_refused (hheaders : List.Forall₂ Names headers columns)
    (hmany : 2 ≤ headers.length) (hw : RecordWritten headers w)
    (hlong : ∃ header ∈ headers, cellLimit < header.length) (rest : Text) :
    contacts (w ++ rest) = .error (.malformed .longCell) := by
  have hcut : cut (w ++ rest) = ⟨[], some .longCell⟩ := cut_broken hw hlong rest
  unfold contacts
  dsimp only
  simp only [dropWhile_mark hheaders hmany hw rest, hcut]

/-- Written contacts are read again, unless a header is too long. -/
theorem contacts_written (columns : List Field) (vs : List Fields)
    (hcolumns : columns.Perm Field.all) (hheaders : List.Forall₂ Names headers columns)
    (hvs : ∀ v ∈ vs, Writable v)
    (hw : DocumentWritten (headers :: vs.map (record columns)) w) :
    contacts w = if ∀ header ∈ headers, header.length ≤ cellLimit then .ok vs
      else .error (.malformed .longCell) := by
  have hall (f : Field) : f ∈ columns := hcolumns.mem_iff.2 (by cases f <;> decide)
  have hcount : 2 ≤ columns.length := hcolumns.length_eq ▸ by decide
  have hmany : 2 ≤ headers.length := hheaders.length_eq ▸ hcount
  obtain ⟨first, rest, rfl, hfirst⟩ := hw.first
  by_cases hshort : ∀ header ∈ headers, header.length ≤ cellLimit
  · have hcut : cut (first ++ rest) = ⟨headers :: vs.map (record columns), none⟩ := by
      refine cut_written hw (List.forall_mem_cons.2 ⟨⟨hmany, hshort⟩, ?_⟩)
      intro ts hts
      obtain ⟨v, hv, rfl⟩ := List.mem_map.1 hts
      exact ⟨by rwa [record, List.length_map], short_record (hvs v hv)⟩
    rw [if_pos hshort]
    unfold contacts
    dsimp only
    simp only [dropWhile_mark hheaders hmany hfirst rest, hcut, header_found hheaders hall,
      rows_read hheaders hall hvs, Bool.false_eq_true, if_false]
  · rw [if_neg hshort]
    exact contacts_refused hheaders hmany hfirst (by simpa using hshort) rest

theorem names_around (f : Field) (before after : Text) (hbefore : before.all isBlank)
    (hafter : after.all isBlank) : Names (before ++ f.label ++ after) f :=
  ⟨before, f.label, after, rfl, List.all_eq_true.1 hbefore, List.all_eq_true.1 hafter,
    by cases f <;> decide⟩

theorem bare_of_all (h : t.all isPlain) : CellWritten t t := .bare (List.all_eq_true.1 h)

/-- A record whose cells are all bare. -/
theorem bare_record (h : (t :: xs).all fun t => t.all isPlain) :
    RecordWritten (t :: xs) (join [','] (t :: xs)) := by
  induction xs generalizing t with
  | nil =>
    rw [List.all_cons, Bool.and_eq_true] at h
    rw [join, List.intercalate_singleton]
    exact .last (bare_of_all h.1)
  | cons u rest ih =>
    rw [List.all_cons, Bool.and_eq_true] at h
    rw [join, List.intercalate_cons_cons, List.append_assoc]
    exact .more (bare_of_all h.1) (ih h.2)

theorem writable_name {t : Text} (hne : t ≠ []) (ht : Trimmed t) (hshort : t.length ≤ cellLimit) :
    Writable { name := some t } := by
  refine ⟨⟨.name, nofun⟩, ?_, ?_⟩ <;> intro f <;> cases f <;> simp [Fields.get, *]

/-- Columns in another order, cells in quotes, and lines that end in different ways. -/
theorem contacts_written_shuffled :
    contacts (Text.ofString " phone,\"name\",email,Notes ,address\r\n,\"Ann \"\"B\"\"\",,,\n") =
      .ok [{ name := some (Text.ofString "Ann \"B\"") }] := by
  have hheaders : List.Forall₂ Names
      ([" phone", "name", "email", "Notes ", "address"].map Text.ofString)
      [.phone, .name, .email, .notes, .address] :=
    .cons (names_around .phone [' '] [] (by decide) rfl)
      (.cons (names_around .name [] [] rfl rfl)
      (.cons (names_around .email [] [] rfl rfl)
      (.cons ⟨[], Text.ofString "Notes", [' '], rfl, nofun, by simp [isBlank], by decide⟩
      (.cons (names_around .address [] [] rfl rfl) .nil))))
  have hfirst : RecordWritten ([" phone", "name", "email", "Notes ", "address"].map Text.ofString)
      (Text.ofString " phone,\"name\",email,Notes ,address") :=
    .more (bare_of_all (by decide)) (.more (.quoted _) (.more (bare_of_all (by decide))
      (.more (bare_of_all (by decide)) (.last (bare_of_all (by decide))))))
  have hrow : RecordWritten (record [.phone, .name, .email, .notes, .address]
      { name := some (Text.ofString "Ann \"B\"") }) (Text.ofString ",\"Ann \"\"B\"\"\",,,") :=
    .more (bare_of_all (by decide)) (.more (.quoted _) (.more (bare_of_all (by decide))
      (.more (bare_of_all (by decide)) (.last (bare_of_all (by decide))))))
  have hwritable : Writable { name := some (Text.ofString "Ann \"B\"") } :=
    writable_name (by decide) (trimmed_iff.2 (by decide)) (by decide)
  have hread := contacts_written [.phone, .name, .email, .notes, .address]
    [{ name := some (Text.ofString "Ann \"B\"") }] (by decide) hheaders (by simpa using hwritable)
    (.more hfirst (e := ['\r', '\n']) (by decide) (.more hrow (e := ['\n']) (by decide) .empty))
  rwa [if_pos (by decide)] at hread

/-- A header may be too long for a cell. -/
theorem exists_long_header :
    ∃ header, Names header .name ∧ header.all isPlain ∧ cellLimit < header.length := by
  refine ⟨_, names_around .name (List.replicate cellLimit ' ') [] (by simp [isBlank]) rfl, ?_, ?_⟩
  · rw [List.append_nil, List.all_append, List.all_replicate]
    decide
  · rw [List.append_nil, List.length_append, List.length_replicate]
    exact Nat.lt_add_of_pos_right (by decide)

/-- A text is lost if its first header has too many blanks in front. -/
theorem contacts_padded_lost : ¬ ∀ (headers : List Text) (columns : List Field) (vs : List Fields)
    (w : Text), columns.Perm Field.all → List.Forall₂ Names headers columns →
    (∀ v ∈ vs, Writable v) → DocumentWritten (headers :: vs.map (record columns)) w →
    contacts w = .ok vs := by
  intro h
  obtain ⟨header, hname, hplain, hlong⟩ := exists_long_header
  have hheaders : List.Forall₂ Names (header :: Field.all.tail.map Field.label) Field.all :=
    .cons hname
      (.cons (names_around .email [] [] rfl rfl)
      (.cons (names_around .phone [] [] rfl rfl)
      (.cons (names_around .address [] [] rfl rfl)
      (.cons (names_around .notes [] [] rfl rfl) .nil))))
  have hcells : (header :: Field.all.tail.map Field.label).all fun t => t.all isPlain := by
    rw [List.all_cons, hplain]
    decide
  have hrow : RecordWritten (record Field.all { name := some (Text.ofString "Ann") }) _ :=
    bare_record (by decide)
  have hwritable : Writable { name := some (Text.ofString "Ann") } :=
    writable_name (by decide) (trimmed_iff.2 (by decide)) (by decide)
  have hread := h _ Field.all [{ name := some (Text.ofString "Ann") }] _ (.refl _) hheaders
    (by simpa using hwritable) (.more (bare_record hcells) (e := ['\n']) (by decide) (.last hrow))
  have hrefused := contacts_refused hheaders (by simp [Field.all]) (bare_record hcells)
    ⟨_, List.mem_cons_self .., hlong⟩
  cases (hrefused _).symm.trans hread

end AddressBook.Csv
