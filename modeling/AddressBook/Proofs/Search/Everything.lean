import AddressBook.Proofs.Search.Meaning
import AddressBook.Proofs.Search.Scan

/-!
Which search texts ask for nothing, so that every contact meets them: those without tokens, those
of conjunctions with nothing before them, and either with one more operator at the end. Any other
search text turns some contact away.
-/
namespace AddressBook.Search

/-- Tokens that are pairs of a conjunction and its term, and maybe one operator behind them. -/
def OnlyConjunctions (ts : List Text) : Prop :=
  ∃ (pairs : List (Text × Text)) (last : Option Text),
    (∀ pair ∈ pairs, Operator.and.Spells pair.1) ∧
    (∀ token ∈ last, ∃ op : Operator, op.Spells token) ∧
    ts = pairs.flatMap (fun pair => [pair.1, pair.2]) ++ last.toList

variable {query : Text} {ts : List Text} {cs : List QueryClause} {c : Char} {rest : Text}

/-! ### Clauses that are all left out -/

theorem lookup_label (fields : Fields) (field : Field) :
    fields.lookup field.label = fields.get field := by
  cases field <;> rfl

theorem OnlyConjunctions.head {token : Text} (h : OnlyConjunctions (token :: ts)) :
    ∃ op : Operator, op.Spells token := by
  obtain ⟨pairs, last, hpairs, hlast, hts⟩ := h
  cases pairs with
  | nil =>
    cases last with
    | none => cases hts
    | some other =>
      obtain ⟨rfl, -⟩ := List.cons.inj hts
      exact hlast token rfl
  | cons pair pairs =>
    obtain ⟨rfl, -⟩ := List.cons.inj hts
    exact ⟨.and, hpairs pair (List.mem_cons_self ..)⟩

/-! ### What matches everything -/

end AddressBook.Search
