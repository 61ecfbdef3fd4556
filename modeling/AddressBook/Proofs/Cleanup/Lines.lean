import AddressBook.Proofs.Cleanup.Settled
import AddressBook.Proofs.Text.Runs

/-!
The lines of a cleaned address: those of the address with real line breaks that are not empty, each
at its first place. Lines are left out after the ends are trimmed, so that a line which ended in
blanks may come to stand last. It is then trimmed by the next cleaning, and may turn out to be a
repetition of a line before it; otherwise an address is cleaned once and for all.
-/
namespace AddressBook.Cleanup

open Text

variable {t w : Text}

/-- The text of an address with real line breaks, without outer blanks. -/
def unfolded (t : Text) : Text :=
  trim (replace lineMark ['\n'] (replace lineEscape ['\n'] t))

/-- The lines of a text. -/
def lines (t : Text) : List Text := t.splitOn '\n'

/-- The lines of an address that are not empty, each at its first place. -/
def keptLines (t : Text) : List Text := firsts ((lines (unfolded t)).filter (! ·.isEmpty))

theorem lines_eq_pieces (t : Text) : lines t = pieces (· == '\n') t :=
  (pieces_eq_splitOnP _ t).symm

theorem keptLines_eq (t : Text) : keptLines t = distinct (runs (· == '\n') (unfolded t)) := by
  rw [keptLines, distinct_eq_firsts, lines_eq_pieces]
  rfl

theorem isBlank_of_break : ∀ c, (c == '\n') = true → isBlank c := by
  intro c hc
  rw [beq_iff_eq.1 hc]
  decide

theorem mem_keptLines (h : w ∈ keptLines t) : w ≠ [] ∧ ∀ c ∈ w, (c == '\n') = false := by
  rw [keptLines_eq, mem_distinct] at h
  exact mem_runs h

theorem nodup_keptLines (t : Text) : (keptLines t).Nodup := by
  rw [keptLines_eq]
  exact nodup_distinct _

/-- A trimmed text without runs of line breaks is its lines that are not empty. -/
theorem squeeze_unfolded (t : Text) : squeeze (· == '\n') '\n' (unfolded t) =
    join ['\n'] (runs (· == '\n') (unfolded t)) :=
  (trimmed_trim _).squeeze_eq_join isBlank_of_break

theorem address_eq_join (t : Text) : address t = join ['\n'] (keptLines t) := by
  have htight : trim (squeeze (· == '\n') '\n'
      (replace lineMark ['\n'] (replace lineEscape ['\n'] t))) =
        join ['\n'] (runs (· == '\n') (unfolded t)) := by
    rw [trim_squeeze isBlank_of_break (by decide)]
    exact squeeze_unfolded t
  rw [address, htight, keptLines_eq]
  by_cases hnone : runs (· == '\n') (unfolded t) = []
  · rw [hnone]
    rfl
  · rw [pieces_join (by decide) (fun w hw => (mem_runs hw).2) hnone]

theorem lines_address (t : Text) :
    lines (address t) = if keptLines t = [] then [[]] else keptLines t := by
  rw [lines_eq_pieces, address_eq_join]
  split
  next hnone =>
    rw [hnone]
    rfl
  next hsome => exact pieces_join (by decide) (fun w hw => (mem_keptLines hw).2) hsome

/-- A cleaned address has an empty line only if it is empty. -/
theorem nil_mem_lines_address : [] ∈ lines (address t) ↔ address t = [] := by
  have hkept : [] ∉ keptLines t := fun h => (mem_keptLines h).1 rfl
  constructor
  · intro h
    rw [lines_address] at h
    split at h
    next hnone =>
      rw [address_eq_join, hnone]
      rfl
    next => exact absurd h hkept
  · intro h
    rw [h]
    exact List.mem_singleton_self _

theorem nodup_lines_address (t : Text) : (lines (address t)).Nodup := by
  rw [lines_address]
  split
  next => exact List.nodup_singleton _
  next => exact nodup_keptLines t

/-- The lines of a cleaned address are the lines of the address with real line breaks that are not
empty, each at its first place and in their order; if there are none, it is empty. No escape and no
mark is left, no line is empty or there twice, and no cleanup of addresses selects it again. -/
theorem address_lines (t : Text) :
    address t = join ['\n'] (keptLines t) ∧
    lines (address t) = (if keptLines t = [] then [[]] else keptLines t) ∧
    ¬ lineEscape <:+: address t ∧ ¬ lineMark <:+: address t ∧
    ([] ∈ lines (address t) ↔ address t = []) ∧ (lines (address t)).Nodup ∧
    ∀ env : Conditions, hasEscape { env with dialect := .plain } (some (address t)) = false ∧
      hasEscape { env with dialect := .bounded } (some (address t)) = false :=
  ⟨address_eq_join t, lines_address t, not_lineEscape_infix_address t,
    not_lineMark_infix_address t, nil_mem_lines_address, nodup_lines_address t, fun _ =>
      ⟨not_hasEscape_address Search.Dialect.discerns_plain t,
        not_hasEscape_address Search.Dialect.discerns_bounded t⟩⟩

/-! ### Cleaning twice -/

/-- No cleaned address starts with a blank: its first line is the first of all. -/
theorem head_address : ∀ c ∈ (address t).head?, isBlank c = false := by
  have htrimmed : Trimmed (unfolded t) := trimmed_trim _
  rw [address_eq_join, keptLines_eq]
  cases hall : unfolded t with
  | nil => exact nofun
  | cons c rest =>
    rw [hall] at htrimmed
    have hc : isBlank c = false := htrimmed.head c rfl
    obtain ⟨w, others, hruns⟩ := runs_cons_uncut (uncut_of_not_blank isBlank_of_break hc) rest
    have hhead : (join ['\n'] (distinct ((c :: w) :: others))).head? = some c := by
      rw [distinct]
      by_cases hone : (distinct others).filter (· != c :: w) = []
      · rw [hone, join_singleton]
        rfl
      · rw [join_cons hone]
        rfl
    rw [hruns, hhead]
    intro d hd
    rw [← Option.some.inj hd]
    exact hc

/-- A cleaned address ends like the last line that is kept. -/
theorem getLast?_address (t : Text) :
    (address t).getLast? = (keptLines t).getLast?.bind List.getLast? := by
  rw [address_eq_join]
  exact getLast?_join fun w hw => (mem_keptLines hw).1

theorem trimmed_address_iff : Trimmed (address t) ↔
    ∀ line ∈ (keptLines t).getLast?, ∀ c ∈ line.getLast?, isBlank c = false := by
  have hlast : (∀ c ∈ (address t).getLast?, isBlank c = false) ↔
      ∀ line ∈ (keptLines t).getLast?, ∀ c ∈ line.getLast?, isBlank c = false := by
    rw [getLast?_address]
    cases (keptLines t).getLast? with
    | none => simp
    | some line => simp
  exact ⟨fun h => hlast.1 h.last, fun h => ⟨head_address, hlast.2 h⟩⟩

theorem length_address_le (t : Text) : (address t).length ≤ (unfolded t).length := by
  have hkept : (keptLines t).Sublist (runs (· == '\n') (unfolded t)) := by
    rw [keptLines_eq]
    exact distinct_sublist _
  calc
    (address t).length = (join ['\n'] (keptLines t)).length := by rw [address_eq_join]
    _ ≤ (join ['\n'] (runs (· == '\n') (unfolded t))).length := length_join_le hkept
    _ = (squeeze (· == '\n') '\n' (unfolded t)).length := by rw [squeeze_unfolded]
    _ ≤ (unfolded t).length := length_squeezeFrom_le ..

/-- In a cleaned address there is nothing left to unfold. -/
theorem unfolded_address (t : Text) : unfolded (address t) = trim (address t) := by
  rw [unfolded, replace_eq_self (not_lineEscape_infix_address t),
    replace_eq_self (not_lineMark_infix_address t)]

theorem address_address_of_trimmed (h : Trimmed (address t)) :
    address (address t) = address t := by
  have hlines : runs (· == '\n') (address t) = keptLines t := by
    rw [address_eq_join]
    exact runs_join (by decide) fun w hw => mem_keptLines hw
  have hkept : keptLines (address t) = keptLines t := by
    rw [keptLines_eq, unfolded_address, h.trim_eq, hlines, distinct_of_nodup (nodup_keptLines t)]
  rw [address_eq_join (address t), hkept, ← address_eq_join]

theorem trimmed_of_address_address (h : address (address t) = address t) :
    Trimmed (address t) := by
  have hlength : (address t).length ≤ (trim (address t)).length := by
    rw [← unfolded_address]
    conv => lhs; rw [← h]
    exact length_address_le (address t)
  exact trimmed_iff.2 ((trim_part _).eq_of_length_le hlength)

/-- Cleaning a cleaned address changes nothing exactly if the last line that was kept does not end
in a blank. -/
theorem address_address_iff (t : Text) : address (address t) = address t ↔
    ∀ line ∈ (keptLines t).getLast?, ∀ c ∈ line.getLast?, isBlank c = false := by
  rw [← trimmed_address_iff]
  exact ⟨trimmed_of_address_address, address_address_of_trimmed⟩

/-- A line that is left out at the end leaves the blanks before it behind. -/
theorem address_address_ne : ¬ ∀ t : Text, address (address t) = address t := by
  intro h
  exact absurd (h (Text.ofString "A\nB \nA")) (by decide)

end AddressBook.Cleanup
