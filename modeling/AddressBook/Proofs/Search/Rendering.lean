import AddressBook.Proofs.Search.Like
import AddressBook.Proofs.Search.Wordless
import AddressBook.Proofs.Text.Marks

/-!
Which comparisons the text of a query shows, and what is bound to their parameters. The comparisons
are read off the text alone: the column behind `lower(coalesce(`, and the name of the parameter
behind the next `LIKE`. They are those of the clause, numbered from left to right, so that no term
reaches the text and each finds the comparison it belongs to.
-/
namespace AddressBook.Search

/-! ### Comparisons in a text -/

/-- The words in front of the column of a comparison. -/
def opening : Text := Text.ofString "lower(coalesce("

/-- The words in front of the name of the parameter of a search term. -/
def likening : Text := Text.ofString "LIKE '%%' || %("

theorem opening_head : opening.head? = some 'l' := rfl

theorem likening_head : likening.head? = some 'L' := rfl

theorem opening_ne_nil : opening ≠ [] := List.cons_ne_nil _ _

theorem likening_ne_nil : likening ≠ [] := List.cons_ne_nil _ _

/-- A comparison, from behind its opening on: its column, and the parameter behind its `LIKE`. -/
def comparisonAt (t : Text) : Text × Text :=
  (t.upTo ',', ((Text.behind likening t).headD []).upTo ')')

/-- The comparisons in the text of a query, from left to right. -/
def comparisonsIn (t : Text) : List (Text × Text) := (Text.behind opening t).map comparisonAt

example : comparisonsIn (Text.ofString
    "NOT (lower(coalesce(cv_contacts.name, %(coalesce_1)s)) LIKE '%%' || %(lower_1)s ESCAPE '/')") =
      [(Text.ofString "cv_contacts.name", Text.ofString "lower_1")] := by decide

/-- A text reads as comparisons, whatever stands behind it. -/
def Reads (s : String) (comparisons : List (Text × Text)) : Prop :=
  ∀ rest, comparisonsIn (s.toList ++ rest) = comparisons ++ comparisonsIn rest

section

variable {s t : String} {xs ys : List (Text × Text)}

theorem Reads.comparisonsIn (h : Reads s xs) : comparisonsIn s.toList = xs := by
  have hall := h []
  rwa [List.append_nil, show Search.comparisonsIn [] = [] from rfl, List.append_nil] at hall

theorem reads_of_silent (h : Text.Silent opening s.toList) : Reads s [] := by
  intro rest
  rw [comparisonsIn, h, List.nil_append, comparisonsIn]

theorem reads_of_isQuiet (h : Text.isQuiet opening s.toList = true) : Reads s [] :=
  reads_of_silent (Text.silent_of_isQuiet h)

theorem Reads.append (hs : Reads s xs) (ht : Reads t ys) : Reads (s ++ t) (xs ++ ys) := by
  intro rest
  rw [String.toList_append, List.append_assoc, hs, ht, List.append_assoc]

theorem Reads.parenthesized (h : Reads s xs) : Reads ("(" ++ s ++ ")") xs := by
  have hopen : Reads "(" [] := reads_of_isQuiet (by decide)
  have hclose : Reads ")" [] := reads_of_isQuiet (by decide)
  simpa using (hopen.append h).append hclose

theorem reads_not : Reads "NOT " [] := reads_of_isQuiet (by decide)

theorem Reads.eq_nil (h : Reads "" xs) : xs = [] := h.comparisonsIn.symm

/-- Texts that are empty read as nothing, so that they can be left out. -/
theorem reads_filter {ts : List String} {xss : List (List (Text × Text))}
    (h : List.Forall₂ Reads ts xss) :
    ∃ yss, List.Forall₂ Reads (ts.filter (! ·.isEmpty)) yss ∧ yss.flatten = xss.flatten := by
  induction h with
  | nil => exact ⟨[], .nil, rfl⟩
  | @cons t xs ts xss ht _ ih =>
    obtain ⟨yss, hyss, hflat⟩ := ih
    cases hempty : t.isEmpty with
    | false =>
      refine ⟨xs :: yss, ?_, by rw [List.flatten_cons, List.flatten_cons, hflat]⟩
      rw [List.filter_cons_of_pos (by simp [hempty])]
      exact .cons ht hyss
    | true =>
      have ht' : t = "" := String.isEmpty_iff.1 hempty
      rw [ht'] at ht
      refine ⟨yss, ?_, by rw [List.flatten_cons, ht.eq_nil, List.nil_append, hflat]⟩
      rw [List.filter_cons_of_neg (by simp [hempty])]
      exact hyss

theorem reads_intercalate {word : String} (hword : Reads word []) {ts : List String}
    {xss : List (List (Text × Text))} (h : List.Forall₂ Reads ts xss) :
    Reads (word.intercalate ts) xss.flatten := by
  induction h with
  | nil => exact reads_of_isQuiet rfl
  | @cons t xs ts xss ht h ih =>
    cases h with
    | nil => simpa using ht
    | @cons t' xs' ts xss ht' h =>
      rw [String.intercalate_cons_cons, List.flatten_cons]
      have hfirst := ht.append hword
      rw [List.append_nil] at hfirst
      exact hfirst.append ih

/-- Joined texts read as what each of them reads as. -/
theorem reads_joined {word : String} (hword : Reads word []) {ts : List String}
    {xss : List (List (Text × Text))} (h : List.Forall₂ Reads ts xss) :
    Reads (Clause.joined word ts) xss.flatten := by
  obtain ⟨yss, hyss, hflat⟩ := reads_filter h
  rw [← hflat]
  exact reads_intercalate hword hyss

end

namespace Clause

/-! ### The text of a comparison -/

theorem toList_toString (k : Nat) : (toString k).toList = Nat.toDigits 10 k := String.toList_ofList

theorem notMem_digits {c : Char} (hc : c.isDigit = false) (k : Nat) : c ∉ (toString k).toList := by
  intro hmem
  rw [toList_toString] at hmem
  exact Bool.eq_false_iff.1 hc (Nat.isDigit_of_mem_toDigits (by decide) (by decide) hmem)

/-- What is compared, as a text has it: a constant is a parameter itself. -/
def operand (c : Column) (n : Numbering) : String :=
  if c.constant?.isSome then place (coalesceName n.coalesce) else written c

/-- What is compared in place of null. -/
def fallback (c : Column) (n : Numbering) : String :=
  place (coalesceName (if c.constant?.isSome then n.coalesce + 1 else n.coalesce))

/-- What stands between the comma of a comparison and its `LIKE`. -/
def bridge (c : Column) (n : Numbering) : Text := ' ' :: (fallback c n).toList ++ ")) ".toList

/-- The text between the parameter of a search term and the end of the comparison. -/
def ending : Text := Text.ofString "s::VARCHAR || '%%' ESCAPE '/')"

theorem comparisonText_parts (c : Column) (n : Numbering) :
    comparisonText c n = "(lower(coalesce(" ++ (operand c n ++ ", " ++ fallback c n) ++
      ")) LIKE '%%' || " ++ place (termName n.term) ++ " || '%%' ESCAPE '/')" := by
  unfold comparisonText operand fallback
  cases hc : c.constant?.isSome with
  | true => simp only [if_true]
  | false => simp only [Bool.false_eq_true, if_false]

theorem comparisonText_eq (c : Column) (n : Numbering) :
    (comparisonText c n).toList = ['('] ++ (opening ++ ((operand c n).toList ++ ',' ::
      (bridge c n ++ (likening ++ ((termName n.term).toList ++ ')' :: ending))))) := by
  rw [comparisonText_parts, place, bridge]
  simp only [String.toList_append, List.append_assoc]
  rfl

theorem place_coalesce_eq (i : Nat) : (place (coalesceName i)).toList =
    "%(coalesce_".toList ++ ((toString i).toList ++ ")s::VARCHAR".toList) := by
  rw [place, coalesceName]
  simp only [String.toList_append, List.append_assoc]
  rfl

theorem silent_digits (k : Nat) : Text.Silent opening (toString k).toList :=
  Text.silent_of_notMem opening_head (notMem_digits (by decide) k)

theorem silent_place_coalesce (i : Nat) :
    Text.Silent opening (place (coalesceName i)).toList := by
  have hfront : Text.isQuiet opening "%(coalesce_".toList = true := by decide
  have hback : Text.isQuiet opening ")s::VARCHAR".toList = true := by decide
  rw [place_coalesce_eq]
  exact (Text.silent_of_isQuiet hfront).append
    ((silent_digits i).append (Text.silent_of_isQuiet hback))

theorem notMem_place_coalesce {c : Char} (hdigit : c.isDigit = false)
    (h : c ∉ "%(coalesce_)s::VARCHAR".toList) (i : Nat) : c ∉ (place (coalesceName i)).toList := by
  have hsplit : "%(coalesce_)s::VARCHAR".toList =
      "%(coalesce_".toList ++ ")s::VARCHAR".toList := by decide
  rw [hsplit, List.mem_append, not_or] at h
  rw [place_coalesce_eq, List.mem_append, List.mem_append, not_or, not_or]
  exact ⟨h.1, notMem_digits hdigit i, h.2⟩

theorem silent_termName (k : Nat) : Text.Silent opening (termName k).toList := by
  have hfront : Text.isQuiet opening "lower_".toList = true := by decide
  rw [termName, String.toList_append]
  exact (Text.silent_of_isQuiet hfront).append (silent_digits k)

theorem notMem_termName (k : Nat) : ')' ∉ (termName k).toList := by
  rw [termName, String.toList_append, List.mem_append, not_or]
  exact ⟨by decide, notMem_digits (by decide) k⟩

/-- A column is no comparison by itself; its last letter could begin one if nothing stood behind
it. -/
theorem isQuiet_written (c : Column) :
    Text.isQuiet opening ((written c).toList ++ [',']) = true ∧
      Text.isQuiet opening ((written c).toList ++ [' ']) = true := by
  cases c with
  | field f => cases f <;> decide
  | constant k => cases k <;> decide
  | _ => decide

theorem notMem_written (c : Column) : ',' ∉ (written c).toList ∧ 'L' ∉ (written c).toList := by
  cases c with
  | field f => cases f <;> decide
  | constant k => cases k <;> decide
  | _ => decide

theorem silent_operand (c : Column) (n : Numbering) :
    Text.Silent opening ((operand c n).toList ++ [',']) := by
  unfold operand
  split
  case isTrue => exact (silent_place_coalesce _).append (Text.silent_of_isQuiet (by decide))
  case isFalse => exact Text.silent_of_isQuiet (isQuiet_written c).1

theorem notMem_operand (c : Column) (n : Numbering) :
    ',' ∉ (operand c n).toList ∧ 'L' ∉ (operand c n).toList := by
  unfold operand
  split
  case isTrue =>
    exact ⟨notMem_place_coalesce (by decide) (by decide) _,
      notMem_place_coalesce (by decide) (by decide) _⟩
  case isFalse => exact notMem_written c

theorem silent_bridge (c : Column) (n : Numbering) : Text.Silent opening (bridge c n) := by
  have hspace : Text.Silent opening [' '] := Text.silent_of_isQuiet (by decide)
  have hclose : Text.Silent opening ")) ".toList := Text.silent_of_isQuiet (by decide)
  exact (hspace.append (silent_place_coalesce _)).append hclose

theorem notMem_bridge (c : Column) (n : Numbering) : 'L' ∉ bridge c n := by
  rw [bridge, List.mem_append, List.mem_cons, not_or, not_or]
  exact ⟨⟨by decide, notMem_place_coalesce (by decide) (by decide) _⟩, by decide +kernel⟩

/-- Read from behind its opening on, a comparison has its column and its parameter. -/
theorem comparisonAt_eq (c : Column) (n : Numbering) (rest : Text) :
    comparisonAt ((operand c n).toList ++ ',' :: (bridge c n ++ (likening ++
      ((termName n.term).toList ++ ')' :: (ending ++ rest))))) =
      ((operand c n).toList, (termName n.term).toList) := by
  have hfront : Text.Silent likening ((operand c n).toList ++ [',']) :=
    Text.silent_of_notMem likening_head (by
      rw [List.mem_append, not_or]
      exact ⟨(notMem_operand c n).2, by decide⟩)
  have hbridge : Text.Silent likening (bridge c n) :=
    Text.silent_of_notMem likening_head (notMem_bridge c n)
  have hbehind : ∀ t, (Text.behind likening (likening ++ t)).headD [] = t := fun t =>
    congrArg (·.headD []) (Text.behind_mark likening_ne_nil t)
  rw [comparisonAt, Text.upTo_append (notMem_operand c n).1, List.append_cons, hfront, hbridge,
    hbehind, Text.upTo_append (notMem_termName n.term)]

theorem reads_comparison (c : Column) (n : Numbering) :
    Reads (comparisonText c n) [((operand c n).toList, (termName n.term).toList)] := by
  intro rest
  have hparen : Text.Silent opening ['('] := Text.silent_of_isQuiet (by decide)
  have hwords : Text.Silent opening opening.tail := Text.silent_of_isQuiet (by decide)
  have hlikening : Text.Silent opening likening := Text.silent_of_isQuiet (by decide)
  have hending : Text.Silent opening (')' :: ending) := Text.silent_of_isQuiet (by decide)
  have hcomparison : (comparisonText c n).toList ++ rest = ['('] ++ (opening ++
      ((operand c n).toList ++ ',' :: (bridge c n ++ (likening ++
        ((termName n.term).toList ++ ')' :: (ending ++ rest)))))) := by
    rw [comparisonText_eq]
    simp only [List.append_assoc, List.cons_append]
  have hsilent : Text.behind opening (opening.tail ++
      ((operand c n).toList ++ ',' :: (bridge c n ++ (likening ++
        ((termName n.term).toList ++ ')' :: (ending ++ rest)))))) = Text.behind opening rest := by
    rw [hwords, List.append_cons, silent_operand, silent_bridge, hlikening, silent_termName]
    exact hending rest
  rw [hcomparison, comparisonsIn, hparen, Text.behind_mark opening_ne_nil, List.map_cons,
    comparisonAt_eq, hsilent]
  rfl

/-! ### The text of a clause -/

/-- The numbering behind comparisons. -/
def numberingAfter (n : Numbering) (bs : List (Column × Text)) : Numbering :=
  bs.foldl (fun n b => n.next b.1) n

/-- Comparisons as a text shows them, numbered on. -/
def numbered (n : Numbering) : List (Column × Text) → List (Text × Text)
  | [] => []
  | (c, _) :: rest => ((operand c n).toList, (termName n.term).toList) :: numbered (n.next c) rest

theorem numberingAfter_append (n : Numbering) (bs bs' : List (Column × Text)) :
    numberingAfter n (bs ++ bs') = numberingAfter (numberingAfter n bs) bs' := List.foldl_append

theorem numbered_append (n : Numbering) (bs bs' : List (Column × Text)) :
    numbered n (bs ++ bs') = numbered n bs ++ numbered (numberingAfter n bs) bs' := by
  induction bs generalizing n with
  | nil => rfl
  | cons b rest ih => exact congrArg (_ :: ·) (ih (n.next b.1))

theorem reads_isNull (c : Column) (negated : Bool) :
    Reads (written c ++ if negated then " IS NOT NULL" else " IS NULL") [] := by
  apply reads_of_silent
  have hcolumn := Text.silent_of_isQuiet (isQuiet_written c).2
  have hnull : Text.Silent opening "IS NULL".toList := Text.silent_of_isQuiet (by decide)
  have hnotNull : Text.Silent opening "IS NOT NULL".toList :=
    Text.silent_of_isQuiet (by decide)
  rw [String.toList_append]
  cases negated with
  | false => simpa using hcolumn.append hnull
  | true => simpa using hcolumn.append hnotNull

theorem reads_bool (b : Bool) : Reads (if b then "true" else "false") [] := by
  cases b <;> exact reads_of_isQuiet (by decide)

theorem reads_negated (negated : Bool) : Reads (if negated then "NOT " else "") [] := by
  cases negated with
  | false => exact reads_of_isQuiet rfl
  | true => exact reads_not

theorem bound_of_isEmptyList {c : Clause} (h : c.isEmptyList = true) : bound c = [] := by
  cases c with
  | all parts | any parts =>
    cases parts with
    | nil => rfl
    | cons => cases h
  | _ => cases h

mutual

/-- The text of a clause reads as its comparisons in order, and its numbers go on behind them. -/
theorem text_reads : ∀ (c : Clause) (n : Numbering),
    Reads (text n c).1 (numbered n c.bound) ∧ (text n c).2 = numberingAfter n c.bound
  | const b, _ | fixed b, _ => ⟨reads_bool b, rfl⟩
  | isNull c negated, n => ⟨reads_isNull c negated, rfl⟩
  | like c _ negated, n => ⟨(reads_negated negated).append (reads_comparison c n), rfl⟩
  | all parts, n => by
    obtain ⟨xss, hreads, hnumbered, hafter⟩ := texts_read parts n true
    have hword : Reads " AND " [] := reads_of_isQuiet (by decide)
    exact ⟨hnumbered ▸ reads_joined hword hreads, hafter⟩
  | any parts, n => by
    obtain ⟨xss, hreads, hnumbered, hafter⟩ := texts_read parts n false
    have hword : Reads " OR " [] := reads_of_isQuiet (by decide)
    exact ⟨hnumbered ▸ reads_joined hword hreads, hafter⟩
  | not part, n => by
    obtain ⟨hreads, hafter⟩ := text_reads part n
    refine ⟨?_, hafter⟩
    refine reads_not.append ?_
    split
    case isTrue hempty =>
      have hbound : bound (not part) = [] := bound_of_isEmptyList (c := part) hempty
      rw [hbound]
      exact reads_of_isQuiet rfl
    case isFalse => exact hreads.parenthesized

/-- The texts of several clauses read as their comparisons in order. -/
theorem texts_read : ∀ (cs : List Clause) (n : Numbering) (wrap : Bool),
    ∃ xss, List.Forall₂ Reads (texts n wrap cs).1 xss ∧
      xss.flatten = numbered n (boundAll cs) ∧
      (texts n wrap cs).2 = numberingAfter n (boundAll cs)
  | [], _, _ => ⟨[], .nil, rfl, rfl⟩
  | c :: rest, n, wrap => by
    obtain ⟨hreads, hafter⟩ := text_reads c n
    obtain ⟨xss, hrest, hnumbered, hafterRest⟩ := texts_read rest (text n c).2 wrap
    refine ⟨numbered n c.bound :: xss, .cons ?_ hrest, ?_, ?_⟩
    · split
      · exact hreads.parenthesized
      · exact hreads
    · rw [List.flatten_cons, hnumbered, hafter, boundAll, numbered_append]
    · rw [boundAll, numberingAfter_append, ← hafter]
      exact hafterRest

end

/-! ### The parameters of a clause -/

theorem termName_inj {i k : Nat} : termName i = termName k ↔ i = k := by
  constructor
  · intro h
    have hwhole := congrArg String.toList h
    rw [termName, termName, String.toList_append, String.toList_append, toList_toString,
      toList_toString] at hwhole
    have hdigits := congrArg (Nat.ofDigitChars 10 · 0) (List.append_cancel_left hwhole)
    rwa [Nat.ofDigitChars_ten_toDigits, Nat.ofDigitChars_ten_toDigits] at hdigits
  · exact congrArg termName

theorem termName_ne_coalesceName (k i : Nat) : termName k ≠ coalesceName i := by
  intro h
  have hwhole := congrArg String.toList h
  rw [termName, coalesceName, String.toList_append, String.toList_append] at hwhole
  exact absurd (List.cons.inj hwhole).1 (by decide)

theorem lookup_comparisonParameters (c : Column) (escaped : Text) (n : Numbering) (k : Nat) :
    (comparisonParameters c escaped n).lookup (termName k) =
      if k = n.term then some escaped else none := by
  have hother : ∀ i, (termName k == coalesceName i) = false := fun i =>
    beq_eq_false_iff_ne.2 (termName_ne_coalesceName k i)
  have hterm : [(termName n.term, escaped)].lookup (termName k) =
      if k = n.term then some escaped else none := by
    rw [List.lookup_cons, List.lookup_nil]
    by_cases hk : k = n.term
    · rw [hk, beq_self_eq_true, if_pos rfl]
    · rw [beq_eq_false_iff_ne.2 (mt termName_inj.1 hk), if_neg hk]
  unfold comparisonParameters
  split
  · rw [List.cons_append, List.cons_append, List.lookup_cons, List.lookup_cons, hother, hother]
    exact hterm
  · rw [List.cons_append, List.lookup_cons, hother]
    exact hterm

theorem term_next_add (n : Numbering) (c : Column) (k : Nat) :
    (n.next c).term + k = n.term + (k + 1) := by
  rw [Numbering.next, Nat.add_assoc, Nat.add_comm 1 k]

/-- The terms are bound by number, in the order of the comparisons. -/
theorem parameters_lookup (bs : List (Column × Text)) (n : Numbering) (k : Nat) :
    (parameters n bs).lookup (termName (n.term + k)) = (bs[k]?).map (·.2) := by
  induction bs generalizing n k with
  | nil => rfl
  | cons b rest ih =>
    obtain ⟨c, escaped⟩ := b
    rw [parameters, List.lookup_append, lookup_comparisonParameters]
    cases k with
    | zero => simp
    | succ k =>
      rw [if_neg (by omega), Option.none_or, ← term_next_add, ih, List.getElem?_cons_succ]

end Clause

/-- A statement shows comparisons of given fields with given terms: the comparison with number `k`
is of the `k`-th field, with the parameter `lower_k`, whose value is the `k`-th term in lower case,
escaped. -/
structure Tells (s : Statement) (pairs : List (Text × Text)) : Prop where
  comparisons : comparisonsIn s.text.toList = pairs.mapIdx fun k pair =>
    (Text.ofString Column.tableName ++ '.' :: pair.1, (Clause.termName (k + 1)).toList)
  terms : ∀ k, (s.parameters.lookup (Clause.termName (k + 1))).map Like.unescape =
    (pairs[k]?).map (Text.lower ·.2)

namespace Clause

theorem operand_of_becomes {pair : Text × Text} {b : Column × Text} (h : Becomes pair b)
    (n : Numbering) : (operand b.1 n).toList = Text.ofString Column.tableName ++ '.' :: pair.1 := by
  have hlabel : Text.ofString b.1.title = pair.1 := by
    simpa using List.find?_some h.column
  have hstored : b.1.constant?.isSome = false := by rw [h.stored, Option.isSome_none]
  rw [operand, hstored, if_neg Bool.false_ne_true, written, String.toList_append,
    String.toList_append, ← hlabel, List.append_assoc]
  rfl

theorem numbered_of_becomes {pairs : List (Text × Text)} {bs : List (Column × Text)}
    (h : List.Forall₂ Becomes pairs bs) (n : Numbering) :
    numbered n bs = pairs.mapIdx fun k pair =>
      (Text.ofString Column.tableName ++ '.' :: pair.1, (termName (n.term + k)).toList) := by
  induction h generalizing n with
  | nil => rfl
  | @cons pair b pairs bs hpair _ ih =>
    rw [numbered, ih, operand_of_becomes hpair, List.mapIdx_cons]
    simp only [term_next_add, Nat.add_zero]

theorem terms_of_becomes {pairs : List (Text × Text)} {bs : List (Column × Text)}
    (h : List.Forall₂ Becomes pairs bs) (k : Nat) :
    (bs[k]?).map (fun b => Like.unescape b.2) = (pairs[k]?).map (Text.lower ·.2) := by
  induction h generalizing k with
  | nil => rfl
  | cons hpair _ ih =>
    cases k with
    | zero =>
      have hterm := congrArg Like.unescape hpair.term
      exact congrArg some (hterm.trans (Like.unescape_escape _))
    | succ k => exact ih k

/-- A clause whose comparisons are those of some pairs tells of these pairs in its statement. -/
theorem tells_of_becomes {c : Clause} {pairs : List (Text × Text)}
    (h : List.Forall₂ Becomes pairs c.bound) : Tells c.statement pairs := by
  constructor
  · rw [statement, (text_reads c {}).1.comparisonsIn, numbered_of_becomes h]
    simp only [Nat.add_comm 1]
  · intro k
    rw [Nat.add_comm k 1]
    exact (congrArg _ (parameters_lookup c.bound {} k)).trans
      ((Option.map_map _ _ _).trans (terms_of_becomes h k))

/-- Search terms cannot change the text of a query. Two conditions on stored columns that are equal
but for their terms have the same text, and the same parameters but for the values of the terms; and
each text shows the pairs that folding leaves of its condition, with their terms as parameters. Where
there is no room for the calls that it takes to follow the one, there is none for the other. -/
theorem terms_bound_apart {p q : Predicate} (hshape : p.wordless = q.wordless)
    (hcolumns : p.namesColumns = true) (room : Nat) :
    (room < p.depth translationCalls ∧ ofPredicate room p = .error .tooDeep ∧
        ofPredicate room q = .error .tooDeep) ∨
      ∃ c c', ofPredicate room p = .ok c ∧ ofPredicate room q = .ok c' ∧
        c.statement.text = c'.statement.text ∧
        List.Forall₂ SameButTerm c.statement.parameters c'.statement.parameters ∧
        Tells c.statement p.survivors ∧ Tells c'.statement q.survivors := by
  have hcolumns' : q.namesColumns = true := by
    rw [← q.namesColumns_wordless, ← hshape, p.namesColumns_wordless, hcolumns]
  have hdepth : q.depth translationCalls = p.depth translationCalls := by
    rw [← q.depth_wordless, ← hshape, p.depth_wordless]
  by_cases hroom : p.depth translationCalls ≤ room
  case neg =>
    have hdeep := Nat.not_le.1 hroom
    exact .inl ⟨hdeep, ofPredicate_stored_tooDeep hcolumns hdeep,
      ofPredicate_stored_tooDeep hcolumns' (hdepth ▸ hdeep)⟩
  right
  obtain ⟨c, hc, _, hbound⟩ := ofPredicate_survivors hcolumns hroom
  obtain ⟨c', hc', _, hbound'⟩ := ofPredicate_survivors hcolumns' (hdepth ▸ hroom)
  have hwordless : c.wordless = c'.wordless := by
    have hclause := ofPredicate_wordless p room
    rw [hshape, ofPredicate_wordless q, hc, hc'] at hclause
    exact (Except.ok.inj hclause).symm
  obtain ⟨htext, hparameters⟩ := statement_wordless hwordless
  exact ⟨c, c', hc, hc', htext, hparameters, tells_of_becomes hbound, tells_of_becomes hbound'⟩

/-- A condition with five terms, of which folding drops the last. -/
def crowded (first second third fourth lost : String) : Predicate :=
  let contains (term : String) (fields : List Field) :=
    Predicate.contains (Text.ofString term) (fields.map Field.label)
  .all [.everything,
    .any [contains first [.email, .name], .all [contains second [.phone], .all []]],
    .not (.any [.not .everything, .not (contains third [.notes])]),
    .any [contains lost [.notes], .not (.all [.everything, contains "" []]), .everything],
    .not (contains fourth [.address])]

/-- Terms with quotes, wildcards and words of a query in them. -/
def hostile : Predicate :=
  crowded "O'Hara' OR true --" "%(lower_1)s" "50%/_" "LIKE '%%' || %(lower_9)s" "x"

/-- The same condition with other terms. -/
def tame : Predicate := crowded "a" "" "lower(coalesce(" "ΑΣ" "y"

theorem terms_bound_apart_hostile :
    hostile.wordless = tame.wordless ∧ hostile.namesColumns = true ∧
      hostile.survivors = [("email", "O'Hara' OR true --"), ("name", "O'Hara' OR true --"),
        ("phone", "%(lower_1)s"), ("notes", "50%/_"), ("address", "LIKE '%%' || %(lower_9)s")].map
          (fun pair => (Text.ofString pair.1, Text.ofString pair.2)) ∧
      ∃ c c', ofPredicate usualRoom hostile = .ok c ∧ ofPredicate usualRoom tame = .ok c' ∧
        c.statement.text = c'.statement.text ∧
        List.Forall₂ SameButTerm c.statement.parameters c'.statement.parameters ∧
        Tells c.statement hostile.survivors ∧ Tells c'.statement tame.survivors := by
  have hshape : hostile.wordless = tame.wordless := rfl
  have hcolumns : hostile.namesColumns = true := by decide
  have hroom : hostile.depth translationCalls ≤ usualRoom := by decide
  exact ⟨hshape, hcolumns, rfl,
    (terms_bound_apart hshape hcolumns usualRoom).resolve_left fun h => Nat.not_lt.2 hroom h.1⟩

end Clause
end AddressBook.Search
