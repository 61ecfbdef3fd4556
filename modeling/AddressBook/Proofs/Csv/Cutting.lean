import AddressBook.Csv.Record

/-!
How records are written, and that cutting gives them back. Each cell is written in quotes or bare,
and each line may end in its own way. Only the length of a cell is limited.
-/
namespace AddressBook.Csv

/-- A character that may stand in a cell outside quotes. -/
def isPlain (c : Char) : Bool := !(c == ',' || c == '"' || c == '\n' || c == '\r')

/-- A text as it stands inside quotes. -/
def doubled (t : Text) : Text := t.flatMap fun c => if c == '"' then ['"', '"'] else [c]

/-- The ways to write a cell. -/
inductive CellWritten : Text → Text → Prop where
  | bare {t : Text} (h : ∀ c ∈ t, isPlain c) : CellWritten t t
  | quoted (t : Text) : CellWritten t ('"' :: (doubled t ++ ['"']))

/-- The ways to write a record, its line end left aside. -/
inductive RecordWritten : List Text → Text → Prop where
  | last {t w : Text} (h : CellWritten t w) : RecordWritten [t] w
  | more {t w : Text} {ts : List Text} {ws : Text} (h : CellWritten t w)
      (hs : RecordWritten ts ws) : RecordWritten (t :: ts) (w ++ ',' :: ws)

/-- The ways to end a line. -/
def lineEnds : List Text := [['\n'], ['\r', '\n']]

/-- The ways to write records; the last of them may lack a line end. -/
inductive DocumentWritten : List (List Text) → Text → Prop where
  | empty : DocumentWritten [] []
  | last {ts : List Text} {w : Text} (h : RecordWritten ts w) : DocumentWritten [ts] w
  | more {ts : List Text} {w e : Text} {rows : List (List Text)} {ws : Text}
      (h : RecordWritten ts w) (he : e ∈ lineEnds) (hs : DocumentWritten rows ws) :
      DocumentWritten (ts :: rows) (w ++ (e ++ ws))

variable {t w : Text} {ts : List Text} {rows : List (List Text)}

/-- What a written record of several cells can start with. -/
theorem RecordWritten.head (h : RecordWritten ts w) (hmany : 2 ≤ ts.length) :
    ∃ c rest, w = c :: rest ∧ (c = ',' ∨ c = '"' ∨ ∃ t ∈ ts, c ∈ t) := by
  cases h with
  | last h => exact absurd hmany (by simp)
  | @more t w ts ws h hs =>
    cases h with
    | bare hplain =>
      cases t with
      | nil => exact ⟨',', ws, rfl, .inl rfl⟩
      | cons c rest =>
        exact ⟨c, rest ++ ',' :: ws, rfl,
          .inr (.inr ⟨_, List.mem_cons_self .., List.mem_cons_self ..⟩)⟩
    | quoted => exact ⟨'"', _, rfl, .inr (.inl rfl)⟩

theorem DocumentWritten.first (h : DocumentWritten (ts :: rows) w) :
    ∃ first rest, w = first ++ rest ∧ RecordWritten ts first := by
  cases h with
  | last h => exact ⟨w, [], (List.append_nil w).symm, h⟩
  | more h => exact ⟨_, _, rfl, h⟩

namespace Cutter

/-- The work before a cell. -/
def opened (place : Place) (cells : List Text) (records : List (List Text)) (inLine : Bool) :
    Cutter := ⟨place, [], 0, cells, records, inLine, none⟩

/-- The work behind the text of a cell, which a separator completes. -/
structure Holds (m : Cutter) (t : Text) (cells : List Text) (records : List (List Text)) :
    Prop where
  unquoted : m.place ≠ .quoted
  unfinished : m.place ≠ .lineDone
  cell : m.cell = t.reverse
  cells : m.cells = cells
  records : m.records = records
  failure : m.failure = none

/-- The work that ended because a cell is too long. -/
structure Broken (m : Cutter) (records : List (List Text)) : Prop where
  records : m.records = records
  failure : m.failure = some .longCell

variable {m : Cutter} {e cell : Text} {c : Char} {place : Place} {cells : List Text}
  {records : List (List Text)} {inLine : Bool} {size : Nat}

theorem Broken.foldl (h : Broken m records) (w : Text) : Broken (w.foldl feed m) records := by
  induction w with
  | nil => exact h
  | cons c rest ih =>
    have hstays : m.feed c = m := by simp [feed, h.failure]
    rw [List.foldl_cons, hstays]
    exact ih

/-! ### Separators -/

theorem Holds.comma (h : Holds m t cells records) :
    m.feed ',' = opened .cellStart (t :: cells) records true := by
  obtain ⟨place, cell, size, cells', records', inLine, failure⟩ := m
  obtain ⟨hquoted, hdone, rfl, rfl, rfl, rfl⟩ := h
  cases place <;> simp_all [feed, char, openCell, endCell, opened]

theorem Holds.lineEnd (h : Holds m t cells records) (hp : m.place ≠ .recordStart)
    (he : e ∈ lineEnds) :
    e.foldl feed m = opened .recordStart [] ((t :: cells).reverse :: records) false := by
  obtain ⟨place, cell, size, cells', records', inLine, failure⟩ := m
  obtain ⟨hquoted, hdone, rfl, rfl, rfl, rfl⟩ := h
  simp only [lineEnds, List.mem_cons, List.not_mem_nil, or_false] at he
  rcases he with rfl | rfl <;> cases place <;>
    simp_all [feed, char, openCell, endCell, endLine, endRecord, opened]

/-- At the end of the text, the last line needs no line end. -/
theorem Holds.finish (h : Holds m t cells records) (hp : m.place ≠ .recordStart)
    (hl : m.inLine = true) :
    m.finish.records = (t :: cells).reverse :: records ∧ m.finish.failure = none := by
  obtain ⟨place, cell, size, cells', records', inLine, failure⟩ := m
  obtain ⟨hquoted, hdone, rfl, rfl, rfl, rfl⟩ := h
  cases place <;> simp_all [Cutter.finish, endCell, endLine, endRecord]

/-! ### Cells -/

/-- One more character of a bare cell. -/
theorem feed_bare (hc : isPlain c) (hsize : size < cellLimit) :
    feed ⟨.bare, cell, size, cells, records, inLine, none⟩ c =
      ⟨.bare, c :: cell, size + 1, cells, records, true, none⟩ := by
  simp only [isPlain, Bool.not_eq_true', Bool.or_eq_false_iff] at hc
  obtain ⟨⟨⟨hcomma, -⟩, hfeed⟩, hreturn⟩ := hc
  have hroom : ¬ cellLimit ≤ size := by omega
  simp [feed, char, add, hcomma, hfeed, hreturn, hroom, bne]

theorem foldl_bare (ht : ∀ c ∈ t, isPlain c) (hsize : size + t.length ≤ cellLimit) :
    t.foldl feed ⟨.bare, cell, size, cells, records, true, none⟩ =
      ⟨.bare, t.reverse ++ cell, size + t.length, cells, records, true, none⟩ := by
  induction t generalizing cell size with
  | nil => rfl
  | cons c rest ih =>
    obtain ⟨hc, hrest⟩ := List.forall_mem_cons.1 ht
    rw [List.length_cons] at hsize
    rw [List.foldl_cons, feed_bare hc (by omega), ih hrest (by omega)]
    simp [Nat.add_comm, Nat.add_left_comm]

/-- One more character of a quoted cell. -/
theorem foldl_doubled_one (c : Char) (hsize : size < cellLimit) (inLine : Bool) :
    ∃ b, (if c == '"' then ['"', '"'] else [c]).foldl feed
        ⟨.quoted, cell, size, cells, records, inLine, none⟩ =
      ⟨.quoted, c :: cell, size + 1, cells, records, b, none⟩ := by
  have hroom : ¬ cellLimit ≤ size := by omega
  by_cases hc : c = '"'
  · exact ⟨true, by simp [hc, feed, char, add, hroom]⟩
  · exact ⟨c != '\n', by simp [hc, feed, char, add, hroom, endLine]⟩

theorem foldl_doubled (t cell : Text) (hsize : size + t.length ≤ cellLimit) (inLine : Bool) :
    ∃ b, (doubled t).foldl feed ⟨.quoted, cell, size, cells, records, inLine, none⟩ =
      ⟨.quoted, t.reverse ++ cell, size + t.length, cells, records, b, none⟩ := by
  induction t generalizing cell size inLine with
  | nil => exact ⟨inLine, rfl⟩
  | cons c rest ih =>
    rw [List.length_cons] at hsize
    obtain ⟨b, hone⟩ := foldl_doubled_one c (by omega : size < cellLimit) inLine
    obtain ⟨b', hrest⟩ := ih (c :: cell) (by omega : size + 1 + rest.length ≤ cellLimit) b
    refine ⟨b', ?_⟩
    rw [doubled, List.flatMap_cons, List.foldl_append, hone]
    rw [doubled] at hrest
    rw [hrest]
    simp [Nat.add_comm, Nat.add_left_comm]

/-- The first character of a bare cell. -/
theorem feed_opened (hplace : place = .recordStart ∨ place = .cellStart) (hc : isPlain c) :
    (opened place cells records inLine).feed c =
      ⟨.bare, [c], 1, cells, records, true, none⟩ := by
  simp only [isPlain, Bool.not_eq_true', Bool.or_eq_false_iff] at hc
  obtain ⟨⟨⟨hcomma, hquote⟩, hfeed⟩, hreturn⟩ := hc
  have hroom : ¬ cellLimit ≤ 0 := by decide
  rcases hplace with rfl | rfl <;>
    simp [opened, feed, char, openCell, add, hcomma, hquote, hfeed, hreturn, hroom, bne]

theorem feed_opened_quote (hplace : place = .recordStart ∨ place = .cellStart) :
    (opened place cells records inLine).feed '"' =
      ⟨.quoted, [], 0, cells, records, true, none⟩ := by
  rcases hplace with rfl | rfl <;> simp [opened, feed, char, openCell]

/-- A cell is read as it was written. -/
theorem foldl_cell (h : CellWritten t w) (ht : t.length ≤ cellLimit)
    (hplace : place = .recordStart ∨ place = .cellStart) :
    Holds (w.foldl feed (opened place cells records inLine)) t cells records ∧
      (place = .cellStart → inLine = true →
        (w.foldl feed (opened place cells records inLine)).place ≠ .recordStart ∧
        (w.foldl feed (opened place cells records inLine)).inLine = true) := by
  cases h with
  | bare hplain =>
    cases t with
    | nil =>
      rcases hplace with rfl | rfl
      · exact ⟨⟨nofun, nofun, rfl, rfl, rfl, rfl⟩, nofun⟩
      · exact ⟨⟨nofun, nofun, rfl, rfl, rfl, rfl⟩, fun _ hl => ⟨nofun, hl⟩⟩
    | cons c rest =>
      obtain ⟨hc, hrest⟩ := List.forall_mem_cons.1 hplain
      rw [List.length_cons, Nat.add_comm] at ht
      rw [List.foldl_cons, feed_opened hplace hc, foldl_bare hrest ht]
      exact ⟨⟨nofun, nofun, by simp, rfl, rfl, rfl⟩, fun _ _ => ⟨nofun, rfl⟩⟩
  | quoted =>
    obtain ⟨b, hinner⟩ := foldl_doubled t [] (by omega : 0 + t.length ≤ cellLimit) true
    rw [List.foldl_cons, feed_opened_quote hplace, List.foldl_append, hinner]
    exact ⟨⟨nofun, nofun, by simp [feed, char], rfl, rfl, rfl⟩, fun _ _ => ⟨nofun, rfl⟩⟩

/-! ### Cells that are too long -/

theorem broken_bare (ht : ∀ c ∈ t, isPlain c) (hsize : size ≤ cellLimit)
    (hover : cellLimit < size + t.length) :
    Broken (t.foldl feed ⟨.bare, cell, size, cells, records, true, none⟩) records := by
  induction t generalizing cell size with
  | nil => exact absurd hover (Nat.not_lt.2 hsize)
  | cons c rest ih =>
    obtain ⟨hc, hrest⟩ := List.forall_mem_cons.1 ht
    rw [List.foldl_cons]
    rw [List.length_cons] at hover
    by_cases hroom : size < cellLimit
    · rw [feed_bare hc hroom]
      exact ih hrest hroom (by omega)
    · have hfull : cellLimit ≤ size := Nat.not_lt.1 hroom
      simp only [isPlain, Bool.not_eq_true', Bool.or_eq_false_iff] at hc
      obtain ⟨⟨⟨hcomma, -⟩, hfeed⟩, hreturn⟩ := hc
      apply Broken.foldl
      constructor <;> simp [feed, char, add, hcomma, hfeed, hreturn, hfull]

theorem broken_doubled (t cell : Text) (hsize : size ≤ cellLimit)
    (hover : cellLimit < size + t.length) (inLine : Bool) :
    Broken ((doubled t).foldl feed ⟨.quoted, cell, size, cells, records, inLine, none⟩)
      records := by
  induction t generalizing cell size inLine with
  | nil => exact absurd hover (Nat.not_lt.2 hsize)
  | cons c rest ih =>
    rw [List.length_cons] at hover
    rw [doubled, List.flatMap_cons, List.foldl_append]
    by_cases hroom : size < cellLimit
    · obtain ⟨b, hone⟩ := foldl_doubled_one c hroom inLine
      rw [hone]
      exact ih (c :: cell) hroom (by omega) b
    · have hfull : cellLimit ≤ size := Nat.not_lt.1 hroom
      apply Broken.foldl
      by_cases hc : c = '"' <;> constructor <;> simp [hc, feed, char, add, hfull]

theorem broken_cell (h : CellWritten t w) (ht : cellLimit < t.length)
    (hplace : place = .recordStart ∨ place = .cellStart) :
    Broken (w.foldl feed (opened place cells records inLine)) records := by
  cases h with
  | bare hplain =>
    cases t with
    | nil => exact absurd ht (Nat.not_lt_zero _)
    | cons c rest =>
      obtain ⟨hc, hrest⟩ := List.forall_mem_cons.1 hplain
      rw [List.length_cons] at ht
      rw [List.foldl_cons, feed_opened hplace hc]
      exact broken_bare hrest (by decide) (by omega)
  | quoted =>
    rw [List.foldl_cons, feed_opened_quote hplace, List.foldl_append]
    exact (broken_doubled t [] (by decide) (by omega) true).foldl _

theorem broken_record (h : RecordWritten ts w) (hlong : ∃ t ∈ ts, cellLimit < t.length)
    (hplace : place = .recordStart ∨ place = .cellStart) :
    Broken (w.foldl feed (opened place cells records inLine)) records := by
  induction h generalizing place cells inLine with
  | last h =>
    obtain ⟨t, ht, hlong⟩ := hlong
    rw [List.mem_singleton.1 ht] at hlong
    exact broken_cell h hlong hplace
  | @more t w ts ws h hs ih =>
    rw [List.foldl_append, List.foldl_cons]
    by_cases ht : t.length ≤ cellLimit
    · rw [(foldl_cell h ht hplace).1.comma]
      apply ih _ (.inr rfl)
      simpa [Nat.not_lt.2 ht] using hlong
    · exact ((broken_cell h (Nat.not_le.1 ht) hplace).foldl [',']).foldl ws

/-! ### Records -/

theorem foldl_cells (h : RecordWritten ts w) (hts : ∀ t ∈ ts, t.length ≤ cellLimit)
    (cells : List Text) (records : List (List Text)) :
    ∃ init t, ts = init ++ [t] ∧
      Holds (w.foldl feed (opened .cellStart cells records true)) t (init.reverse ++ cells)
        records ∧
      (w.foldl feed (opened .cellStart cells records true)).place ≠ .recordStart ∧
      (w.foldl feed (opened .cellStart cells records true)).inLine = true := by
  induction h generalizing cells with
  | @last t w h =>
    obtain ⟨hholds, hrest⟩ := foldl_cell h (hts t (List.mem_singleton_self t)) (.inr rfl)
    exact ⟨[], t, rfl, hholds, hrest rfl rfl⟩
  | @more t w ts ws h hs ih =>
    obtain ⟨ht, hts⟩ := List.forall_mem_cons.1 hts
    obtain ⟨init, x, rfl, hx⟩ := ih hts (t :: cells)
    refine ⟨t :: init, x, rfl, ?_⟩
    rw [List.foldl_append, List.foldl_cons, (foldl_cell h ht (.inr rfl)).1.comma]
    simpa using hx

/-- A record of several cells is read as it was written. -/
theorem foldl_record (h : RecordWritten ts w) (hts : ∀ t ∈ ts, t.length ≤ cellLimit)
    (hmany : 2 ≤ ts.length) (records : List (List Text)) :
    ∃ init t, ts = init ++ [t] ∧
      Holds (w.foldl feed (opened .recordStart [] records false)) t init.reverse records ∧
      (w.foldl feed (opened .recordStart [] records false)).place ≠ .recordStart ∧
      (w.foldl feed (opened .recordStart [] records false)).inLine = true := by
  cases h with
  | last h => exact absurd hmany (by simp)
  | @more t w ts ws h hs =>
    obtain ⟨ht, hts⟩ := List.forall_mem_cons.1 hts
    obtain ⟨init, x, rfl, hx⟩ := foldl_cells hs hts [t] records
    refine ⟨t :: init, x, rfl, ?_⟩
    rw [List.foldl_append, List.foldl_cons, (foldl_cell h ht (.inl rfl)).1.comma]
    simpa using hx

theorem foldl_document (h : DocumentWritten rows w)
    (hrows : ∀ ts ∈ rows, 2 ≤ ts.length ∧ ∀ t ∈ ts, t.length ≤ cellLimit)
    (records : List (List Text)) :
    (w.foldl feed (opened .recordStart [] records false)).finish.records =
        rows.reverse ++ records ∧
      (w.foldl feed (opened .recordStart [] records false)).finish.failure = none := by
  induction h generalizing records with
  | empty => exact ⟨rfl, rfl⟩
  | @last ts w h =>
    obtain ⟨hmany, hts⟩ := hrows ts (List.mem_singleton_self ts)
    obtain ⟨init, t, rfl, hholds, hplace, hline⟩ := foldl_record h hts hmany records
    have hfinish := hholds.finish hplace hline
    simpa using hfinish
  | @more ts w e rows ws h he hs ih =>
    obtain ⟨⟨hmany, hts⟩, hrest⟩ := List.forall_mem_cons.1 hrows
    obtain ⟨init, t, rfl, hholds, hplace, hline⟩ := foldl_record h hts hmany records
    rw [List.foldl_append, List.foldl_append, hholds.lineEnd hplace he]
    simpa using ih hrest ((t :: init.reverse).reverse :: records)

end Cutter

/-- Records are read as they were written. -/
theorem cut_written (h : DocumentWritten rows w)
    (hrows : ∀ ts ∈ rows, 2 ≤ ts.length ∧ ∀ t ∈ ts, t.length ≤ cellLimit) :
    cut w = ⟨rows, none⟩ := by
  obtain ⟨hrecords, hfailure⟩ := Cutter.foldl_document h hrows []
  have hstart : Cutter.start = Cutter.opened .recordStart [] [] false := rfl
  unfold cut
  dsimp only
  rw [hstart, hrecords, hfailure, List.append_nil, List.reverse_reverse]

/-- A text is malformed if a cell of its first record is too long. -/
theorem cut_broken (h : RecordWritten ts w) (hlong : ∃ t ∈ ts, cellLimit < t.length) (rest : Text) :
    cut (w ++ rest) = ⟨[], some .longCell⟩ := by
  have hstart : Cutter.start = Cutter.opened .recordStart [] [] false := rfl
  have hbroken : Cutter.Broken (w.foldl Cutter.feed Cutter.start) [] :=
    hstart ▸ Cutter.broken_record h hlong (.inl rfl)
  obtain ⟨hrecords, hfailure⟩ := hbroken.foldl rest
  unfold cut Cutter.finish
  dsimp only
  rw [List.foldl_append, hfailure, Option.isSome_some, if_pos rfl, hrecords, hfailure]
  rfl

end AddressBook.Csv
