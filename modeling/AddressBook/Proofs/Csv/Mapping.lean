import AddressBook.Failure
import AddressBook.Proofs.Csv.Columns
import AddressBook.Proofs.Text.Blank

/-!
What becomes of the cells of a document. A record gives a contact exactly if some field has a text
in it.
-/
namespace AddressBook.Csv

open Text

/-- The values that a record gives: a field has the text of its cell without outer blanks, and it
has none if there is no such cell or nothing is left of it. -/
def Gives (headers record : List Text) (v : Fields) : Prop :=
  ∀ f t, v.get f = some t ↔
    ∃ i cell, Fills headers f i ∧ record[i]? = some cell ∧ trim cell = t ∧ t ≠ []

/-- A record has a cell in the column of a field that does not consist of blanks. -/
def Filled (headers record : List Text) : Prop :=
  ∃ f i cell, Fills headers f i ∧ record[i]? = some cell ∧ ∃ c ∈ cell, isBlank c = false

/-- The rows that records give under the headers, in their order. -/
inductive Rows (headers : List Text) : List (List Text) → List Fields → Prop where
  | nil : Rows headers [] []
  | row {record rest v vs} : Filled headers record → Gives headers record v →
      Rows headers rest vs → Rows headers (record :: rest) (v :: vs)
  | skip {record rest vs} : ¬ Filled headers record → Rows headers rest vs →
      Rows headers (record :: rest) vs

variable {t cell : Text} {headers record : List Text} {records : List (List Text)} {f : Field}
  {v : Fields} {vs : List Fields} {d : Option Malformed}

/-! ### Records -/

theorem cellValue_eq_some_iff : cellValue cell = some t ↔ trim cell = t ∧ t ≠ [] := by
  unfold cellValue
  cases hcell : trim cell with
  | nil =>
    constructor
    · nofun
    · rintro ⟨rfl, hne⟩
      exact absurd rfl hne
  | cons c rest =>
    constructor
    · rintro ⟨⟩
      exact ⟨rfl, List.cons_ne_nil c rest⟩
    · rintro ⟨rfl, -⟩
      rfl

theorem rowFields_get : (rowFields headers record).get f =
    (column? headers f).bind fun i => record[i]?.bind cellValue := by
  cases f <;> rfl

theorem rowFields_gives : Gives headers record (rowFields headers record) := by
  intro f t
  simp only [rowFields_get, Option.bind_eq_some_iff, column?_eq_some_iff, cellValue_eq_some_iff]
  constructor
  · rintro ⟨i, hi, cell, hcell, ht⟩
    exact ⟨i, cell, hi, hcell, ht⟩
  · rintro ⟨i, cell, hi, hcell, ht⟩
    exact ⟨i, hi, cell, hcell, ht⟩

theorem gives_iff : Gives headers record v ↔ v = rowFields headers record := by
  constructor
  · intro h
    have hget (f : Field) : v.get f = (rowFields headers record).get f := by
      apply Option.ext
      intro t
      rw [h f t, rowFields_gives f t]
    calc v = .ofFunction v.get := rfl
      _ = .ofFunction (rowFields headers record).get := by rw [funext hget]
      _ = rowFields headers record := rfl
  · rintro rfl
    exact rowFields_gives

theorem hasValue_iff : hasValue v ↔ ∃ f, v.get f ≠ none := by
  simp only [hasValue, List.any_eq_true, mem_fields, true_and, Option.isSome_iff_ne_none]

theorem filled_iff : Filled headers record ↔ hasValue (rowFields headers record) := by
  rw [hasValue_iff]
  constructor
  · rintro ⟨f, i, cell, hi, hcell, c, hc, hblank⟩
    have hne : trim cell ≠ [] := by
      rw [ne_eq, trim_eq_nil_iff]
      intro hall
      rw [hall c hc] at hblank
      cases hblank
    have hget := (rowFields_gives f (trim cell)).2 ⟨i, cell, hi, hcell, rfl, hne⟩
    exact ⟨f, by simp [hget]⟩
  · rintro ⟨f, hf⟩
    obtain ⟨t, ht⟩ := Option.ne_none_iff_exists'.1 hf
    obtain ⟨i, cell, hi, hcell, rfl, hne⟩ := (rowFields_gives f t).1 ht
    rw [ne_eq, trim_eq_nil_iff] at hne
    exact ⟨f, i, cell, hi, hcell, by simpa using hne⟩

theorem rows_iff :
    Rows headers records vs ↔ vs = (records.map (rowFields headers)).filter hasValue := by
  constructor
  · intro h
    induction h with
    | nil => rfl
    | row hfilled hgives _ ih =>
      rw [List.map_cons, List.filter_cons_of_pos (filled_iff.1 hfilled), ← ih, gives_iff.1 hgives]
    | skip hnot _ ih =>
      rw [List.map_cons, List.filter_cons_of_neg (mt filled_iff.2 hnot), ← ih]
  · rintro rfl
    induction records with
    | nil => exact .nil
    | cons record rest ih =>
      by_cases hfilled : Filled headers record
      · rw [List.map_cons, List.filter_cons_of_pos (filled_iff.1 hfilled)]
        exact .row hfilled rowFields_gives ih
      · rw [List.map_cons, List.filter_cons_of_neg (mt filled_iff.2 hfilled)]
        exact .skip hfilled ih

/-- A row is not empty, and its texts are not empty and have no outer blanks. -/
theorem row_of_rows (h : Rows headers records vs) (hv : v ∈ vs) :
    (∃ f, v.get f ≠ none) ∧ ∀ f t, v.get f = some t → t ≠ [] ∧ Trimmed t := by
  rw [rows_iff.1 h, List.mem_filter] at hv
  obtain ⟨hmem, hvalue⟩ := hv
  obtain ⟨record, -, rfl⟩ := List.mem_map.1 hmem
  refine ⟨hasValue_iff.1 hvalue, fun f t ht => ?_⟩
  obtain ⟨i, cell, -, -, rfl, hne⟩ := (rowFields_gives f t).1 ht
  exact ⟨hne, trimmed_trim cell⟩

/-! ### Documents -/

/-- The document of a text, without byte order marks in front. -/
def document (t : Text) : Document := cut (t.dropWhile (· == '\uFEFF'))

theorem noColumn_iff : (Field.all.all fun f => (column? headers f).isNone) ↔
    ¬ ∃ header ∈ headers, ∃ f, Spells header f := by
  simp only [List.all_eq_true, mem_fields, true_imp_iff, Option.isNone_iff_eq_none,
    column?_eq_none_iff]
  push Not
  exact ⟨fun h header hheader f => h f header hheader, fun h f header hheader => h header hheader f⟩

theorem contacts_of_noRecord (hdoc : document t = ⟨[], d⟩) :
    contacts t = .error (d.elim .noHeader .malformed) := by
  unfold document at hdoc
  unfold contacts
  dsimp only
  cases d <;> simp only [hdoc, Option.elim]

theorem contacts_of_noColumn (hdoc : document t = ⟨headers :: records, d⟩)
    (hnone : ¬ ∃ header ∈ headers, ∃ f, Spells header f) : contacts t = .error .noHeader := by
  unfold document at hdoc
  unfold contacts
  dsimp only
  simp only [hdoc, noColumn_iff.2 hnone, if_true]

theorem contacts_of_column (hdoc : document t = ⟨headers :: records, d⟩)
    (hcolumn : ∃ header ∈ headers, ∃ f, Spells header f) : contacts t =
      d.elim (.ok ((records.map (rowFields headers)).filter hasValue)) fun why =>
        .error (.malformed why) := by
  have hfound := mt noColumn_iff.1 (not_not_intro hcolumn)
  unfold document at hdoc
  unfold contacts
  dsimp only
  cases d <;> simp only [hdoc, hfound, Bool.false_eq_true, if_false, Option.elim]

/-- A text is read exactly if it can be cut into records, the first of which has a header for a
field. The rows are then those of the records behind it. -/
theorem contacts_eq_ok_iff : contacts t = .ok vs ↔
    ∃ headers records, document t = ⟨headers :: records, none⟩ ∧
      (∃ header ∈ headers, ∃ f, Spells header f) ∧ Rows headers records vs := by
  constructor
  · intro h
    match hdoc : document t with
    | ⟨[], d⟩ =>
      rw [contacts_of_noRecord hdoc] at h
      cases h
    | ⟨headers :: records, d⟩ =>
      by_cases hcolumn : ∃ header ∈ headers, ∃ f, Spells header f
      · rw [contacts_of_column hdoc hcolumn] at h
        cases d with
        | some why => cases h
        | none =>
          cases h
          exact ⟨headers, records, rfl, hcolumn, rows_iff.2 rfl⟩
      · rw [contacts_of_noColumn hdoc hcolumn] at h
        cases h
  · rintro ⟨headers, records, hdoc, hcolumn, hrows⟩
    rw [contacts_of_column hdoc hcolumn, rows_iff.1 hrows]
    rfl

/-- No text is read whose first record has no header for a field. -/
theorem contacts_of_unmapped (hnone : ∀ headers ∈ (document t).records.head?,
    ¬ ∃ header ∈ headers, ∃ f, Spells header f) :
    contacts t = .error .noHeader ∨
      ∃ why, document t = ⟨[], some why⟩ ∧ contacts t = .error (.malformed why) := by
  match hdoc : document t with
  | ⟨[], none⟩ => exact .inl (contacts_of_noRecord hdoc)
  | ⟨[], some why⟩ => exact .inr ⟨why, rfl, contacts_of_noRecord hdoc⟩
  | ⟨headers :: records, d⟩ =>
    rw [hdoc] at hnone
    exact .inl (contacts_of_noColumn hdoc (hnone headers rfl))

/-- What a text is read as. The records that have anything in the column of a field give the rows,
in their order. Nothing is read without a column for a field, and the refusal names the file. -/
theorem contacts_mapped (t : Text) :
    (∀ vs, contacts t = .ok vs ↔ ∃ headers records, document t = ⟨headers :: records, none⟩ ∧
      (∃ header ∈ headers, ∃ f, Spells header f) ∧ Rows headers records vs) ∧
    (∀ vs, contacts t = .ok vs → ∀ v ∈ vs, (∃ f, v.get f ≠ none) ∧
      ∀ f text, v.get f = some text → text ≠ [] ∧ Trimmed text) ∧
    ((∀ headers ∈ (document t).records.head?, ¬ ∃ header ∈ headers, ∃ f, Spells header f) →
      ∃ e message, contacts t = .error e ∧
        Failure.ofImport e = .domain (.invalid message (some (Text.ofString "file")))) := by
  refine ⟨fun vs => contacts_eq_ok_iff, fun vs h v hv => ?_, fun hnone => ?_⟩
  · obtain ⟨headers, records, -, -, hrows⟩ := contacts_eq_ok_iff.1 h
    exact row_of_rows hrows hv
  · obtain he | ⟨why, -, he⟩ := contacts_of_unmapped hnone
    · exact ⟨_, _, he, rfl⟩
    · exact ⟨_, _, he, rfl⟩

/-- Of the three columns for a name the last counts, also where a record is too short for it. -/
example : contacts (Text.ofString "Name,x, name ,NAME\na,b,c\n\n,,, d \n") =
    .ok [{ name := some ['d'] }] := rfl

end AddressBook.Csv
