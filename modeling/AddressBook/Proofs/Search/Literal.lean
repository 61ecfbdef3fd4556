import AddressBook.Proofs.Search.Everything
import AddressBook.Proofs.Text.Surroundings

/-!
Search texts that are looked for as they stand, and records that show them letter for letter. Such a
record is found where every capital sigma has the form that it has in the search text. This is so of
every place exactly if the search text does not lean out: a sigma at its end is final in the search
text, but not in front of a letter.
-/
namespace AddressBook.Search

/-- Whether some searchable field of a record contains a text as it stands. -/
def Shows (record : Record) (t : Text) : Prop :=
  ∃ field : Field, ∃ value, record field.label = some value ∧ t <:+: value

variable {query t : Text} {record : Record}

/-- To try a text that is looked for as it stands, room for one call is enough. -/
theorem compile_finds_iff (hmissing : ¬ AsksMissing query) (hoperator : ¬ HasOperator query)
    (htokens : tokens query ≠ []) (room : Nat) :
    (compile query).tryOn record (room + 1) = .ok true ↔ Mentions record (Text.trim query) := by
  have hdepth : (Predicate.mentions (Text.trim query)).depth trialCalls ≤ room + 1 :=
    Nat.le_add_left 1 room
  rw [compile_plain hmissing hoperator htokens, Predicate.tryOn_of_depth_le hdepth,
    Except.ok.injEq]
  exact holdsFor_mentions

/-- Beside some letter, a text that leans out is shown and not found. -/
theorem exists_shows_not_mentions (h : Text.LeansOut t) :
    ∃ fields : Fields, Shows fields.lookup t ∧ ¬ Mentions fields.lookup t := by
  obtain ⟨before, after, hlost⟩ := h.lost
  refine ⟨{ name := some (before ++ t ++ after) },
    ⟨.name, _, lookup_label _ _, ⟨before, after, rfl⟩⟩, ?_⟩
  rintro ⟨field, value, hvalue, hinfix⟩
  rw [lookup_label] at hvalue
  cases field with
  | name =>
    rw [← Option.some.inj hvalue] at hinfix
    exact hlost hinfix
  | _ => cases hvalue

/-- A search text that is looked for as it stands is found in every field that has it with the same
forms of sigma. It is found in all records that show it exactly if it does not lean out. -/
theorem literal_found_iff (hmissing : ¬ AsksMissing query) (hoperator : ¬ HasOperator query)
    (htokens : tokens query ≠ []) (room : Nat) :
    (∀ (record : Record) (field : Field) (before after : Text),
      record field.label = some (before ++ Text.trim query ++ after) →
      Text.KeepsSigmas before (Text.trim query) after →
      (compile query).tryOn record (room + 1) = .ok true) ∧
    ((∀ record, Shows record (Text.trim query) →
        (compile query).tryOn record (room + 1) = .ok true) ↔
      ¬ Text.LeansOut (Text.trim query)) := by
  have hkept (record : Record) (field : Field) (before after : Text)
      (hvalue : record field.label = some (before ++ Text.trim query ++ after))
      (hkeeps : Text.KeepsSigmas before (Text.trim query) after) :
      (compile query).tryOn record (room + 1) = .ok true :=
    (compile_finds_iff hmissing hoperator htokens room).2 ⟨field, _, hvalue, hkeeps.infix⟩
  refine ⟨hkept, fun hfound hleans => ?_, ?_⟩
  · obtain ⟨fields, hshows, hnot⟩ := exists_shows_not_mentions hleans
    have htold := hfound fields.lookup hshows
    exact hnot ((compile_finds_iff hmissing hoperator htokens room).1 htold)
  · rintro hleans record ⟨field, value, hvalue, before, after, rfl⟩
    exact hkept record field before after hvalue
      (Text.keepsSigmas_of_not_leansOut hleans before after)

/-- A street that ends in a final sigma. -/
def street : Text := Text.ofString "ΟΔΟΣ"

theorem literal_found_street : Text.LeansOut street ∧
    (∀ record : Record, record Field.address.label = some (Text.ofString "1 ΟΔΟΣ, Α") →
      (compile street).tryOn record 1 = .ok true) ∧
    ∀ record, Shows record (street ++ Text.ofString " 1Σ'") →
      (compile (' ' :: street ++ Text.ofString " 1Σ'\n")).tryOn record 1 = .ok true := by
  have hstreet : ¬ AsksMissing street ∧ ¬ HasOperator street ∧ tokens street ≠ [] := by decide
  refine ⟨by decide +kernel, fun record hvalue => ?_, ?_⟩
  · exact (literal_found_iff hstreet.1 hstreet.2.1 hstreet.2.2 0).1 record .address ['1', ' ']
      [',', ' ', 'Α'] hvalue (by decide +kernel)
  · have hlonger : ¬ AsksMissing (' ' :: street ++ Text.ofString " 1Σ'\n") ∧
        ¬ HasOperator (' ' :: street ++ Text.ofString " 1Σ'\n") ∧
        tokens (' ' :: street ++ Text.ofString " 1Σ'\n") ≠ [] := by decide
    exact (literal_found_iff hlonger.1 hlonger.2.1 hlonger.2.2 0).2.2 (by decide +kernel)

/-- A name that a final sigma ends is not found where the name goes on. -/
theorem literal_lost_final : ¬ ∀ (query : Text) (record : Record), ¬ AsksMissing query →
    ¬ HasOperator query → tokens query ≠ [] → Shows record (Text.trim query) →
    (compile query).tryOn record usualRoom = .ok true := by
  intro h
  have hfound := h (Text.ofString "ΑΣ")
    ({ name := some (Text.ofString "ΑΣΑ") } : Fields).lookup (by decide) (by decide) (by decide)
    ⟨.name, _, lookup_label _ _, [], ['Α'], by decide⟩
  have hdepth : (compile (Text.ofString "ΑΣ")).depth trialCalls ≤ usualRoom := by decide
  rw [Predicate.tryOn_of_depth_le hdepth] at hfound
  exact absurd (Except.ok.inj hfound) (by decide +kernel)

end AddressBook.Search
