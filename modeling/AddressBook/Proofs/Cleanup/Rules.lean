import AddressBook.Proofs.Cleanup.Passes

/-!
What the rules of a cleanup make of the fields of a contact.
-/
namespace AddressBook

namespace Fields

variable {v : Fields} {f g : Field} {x : Option Text} {changes : Changes}

theorem set_get (v : Fields) (f : Field) : v.set f (v.get f) = v := by
  cases f <;> rfl

theorem get_set (v : Fields) (f : Field) (x : Option Text) : (v.set f x).get f = x := by
  cases f <;> rfl

theorem get_set_of_ne (h : g ≠ f) : (v.set f x).get g = v.get g := by
  cases f <;> cases g <;> first | rfl | exact absurd rfl h

/-- Changes that make no difference can be left out, unless they undo others. -/
theorem apply_filter (v : Fields) (h : (changes.map (·.1)).Nodup) :
    v.apply (changes.filter fun (f, x) => v.get f != x) = v.apply changes := by
  induction changes generalizing v with
  | nil => rfl
  | cons change rest ih =>
    obtain ⟨f, x⟩ := change
    obtain ⟨hf, hrest⟩ := List.nodup_cons.1 h
    rw [List.filter_cons]
    change _ = (v.set f x).apply rest
    by_cases hx : v.get f = x
    · subst hx
      rw [if_neg (by simp), ih v hrest, set_get]
    · rw [if_pos (by simpa using hx)]
      change (v.set f x).apply _ = _
      rw [← ih (v.set f x) hrest]
      congr 1
      apply List.filter_congr
      intro ⟨g, y⟩ hg
      have hne : g ≠ f := fun he => hf (List.mem_map.2 ⟨(g, y), hg, he⟩)
      dsimp only
      rw [get_set_of_ne hne]

theorem get_apply_of_notMem (h : f ∉ changes.map (·.1)) : (v.apply changes).get f = v.get f := by
  induction changes generalizing v with
  | nil => rfl
  | cons change rest ih =>
    rw [List.map_cons, List.mem_cons, not_or] at h
    change ((v.set change.1 change.2).apply rest).get f = _
    rw [ih h.2, get_set_of_ne h.1]

/-- Among changes of different fields, each one shows in the end. -/
theorem get_apply (hn : (changes.map (·.1)).Nodup) (h : (f, x) ∈ changes) :
    (v.apply changes).get f = x := by
  induction changes generalizing v with
  | nil => cases h
  | cons change rest ih =>
    obtain ⟨hnew, hrest⟩ := List.nodup_cons.1 hn
    change ((v.set change.1 change.2).apply rest).get f = x
    rcases List.mem_cons.1 h with rfl | h
    · rw [get_apply_of_notMem hnew, get_set]
    · exact ih hrest h

end Fields

namespace Cleanup

variable {v : Fields} {rule : Fields → Changes} {c : Contact} {m n : Text}

/-- A rule changes each field once at most. -/
def Plain (rule : Fields → Changes) : Prop := ∀ v, ((rule v).map (·.1)).Nodup

/-- A field value in normal form; a missing or empty value stays. -/
def tidied (normal : Text → Text) (x : Option Text) : Option Text :=
  match present x with
  | none => x
  | some t => some (normal t)

/-- A contact has an e-mail address, or none but a name for which one is made up. -/
def Mails (v : Fields) (m : Text) : Prop :=
  present v.email = some m ∨
    present v.email = none ∧ ∃ n, present v.name = some n ∧ m = placeholderEmail n

/-- A rule makes no difference where its changes leave all values as they are. -/
theorem needs_eq_false_iff (h : Plain rule) :
    needs rule c = false ↔ c.fields.apply (rule c.fields) = c.fields := by
  have hnone : needs rule c = false ↔ needed rule c.fields = [] := by
    simp [needs, List.isEmpty_iff]
  rw [hnone]
  constructor
  · intro hneeded
    rw [← Fields.apply_filter _ (h _)]
    change c.fields.apply (needed rule c.fields) = c.fields
    rw [hneeded]
    rfl
  · intro hsame
    apply List.filter_eq_nil_iff.2
    rintro ⟨f, x⟩ hx
    have hget := Fields.get_apply (v := c.fields) (h _) hx
    rw [hsame] at hget
    simp [hget]

theorem edited_fields (h : Plain rule) (now : Instant) (c : Contact) :
    (edited rule now c).fields = c.fields.apply (rule c.fields) := Fields.apply_filter _ (h _)

theorem present_of_ne {t : Text} (h : t ≠ []) : present (some t) = some t := by
  cases t with
  | nil => exact absurd rfl h
  | cons c rest => rfl

theorem present_eq_some {x : Option Text} {t : Text} (h : present x = some t) :
    x = some t ∧ t ≠ [] := by
  match x, h with
  | some (c :: rest), h =>
    obtain rfl := Option.some.inj h
    exact ⟨rfl, by simp⟩

theorem present_present (x : Option Text) : present (present x) = present x := by
  match x with
  | none => rfl
  | some [] => rfl
  | some (_ :: _) => rfl

theorem present_eq_none_iff {t : Text} : present (some t) = none ↔ t = [] := by
  cases t with
  | nil => simp [present]
  | cons c rest => simp [present]

theorem tidied_of_none {normal : Text → Text} {x : Option Text} (h : present x = none) :
    tidied normal x = x := by
  rw [tidied, h]

theorem tidied_of_some {normal : Text → Text} {x : Option Text} {t : Text}
    (h : present x = some t) : tidied normal x = some (normal t) := by
  rw [tidied, h]

/-! ### The rules -/

theorem plain_addressRule : Plain addressRule := by
  intro v
  unfold addressRule
  cases v.address <;> simp

theorem apply_addressRule (v : Fields) :
    v.apply (addressRule v) = { v with address := v.address.map address } := by
  unfold addressRule
  split
  next h =>
    rw [h, Option.map_none, ← h]
    rfl
  next a h =>
    rw [h]
    rfl

theorem plain_emptyRule : Plain emptyRule := by
  intro v
  simp [emptyRule]

theorem apply_emptyRule (v : Fields) : v.apply (emptyRule v) =
    { v with
      name := some (fillNameAndEmail v.name v.email).1
      email := (fillNameAndEmail v.name v.email).2 } := rfl

theorem normalized_eq (f : Field) (normal : Text → Text) (v : Fields) :
    normalized f normal v = [] ∧ tidied normal (v.get f) = v.get f ∨
      normalized f normal v = [(f, tidied normal (v.get f))] := by
  unfold normalized tidied
  cases present (v.get f) with
  | none => exact Or.inl ⟨rfl, rfl⟩
  | some t => exact Or.inr rfl

theorem plain_normalRule : Plain normalRule := by
  intro v
  unfold normalRule
  rcases normalized_eq .phone phone v with ⟨hp, -⟩ | hp <;>
    rcases normalized_eq .name name v with ⟨hn, -⟩ | hn <;>
      rcases normalized_eq .email email v with ⟨he, -⟩ | he <;> simp [hp, hn, he]

theorem apply_normalRule (v : Fields) : v.apply (normalRule v) =
    { v with
      name := tidied name v.name
      email := tidied email v.email
      phone := tidied phone v.phone } := by
  have hset (f : Field) (normal : Text → Text) (w : Fields) (hw : w.get f = v.get f) :
      w.apply (normalized f normal v) = w.set f (tidied normal (v.get f)) := by
    rcases normalized_eq f normal v with ⟨h, ht⟩ | h
    · rw [h, ht, ← hw, Fields.set_get]
      rfl
    · rw [h]
      rfl
  unfold normalRule
  rw [Fields.apply, List.foldl_append, List.foldl_append]
  change ((v.apply (normalized .phone phone v)).apply (normalized .name name v)).apply
    (normalized .email email v) = _
  rw [hset .phone phone v rfl, hset .name name (v.set .phone (tidied phone (v.get .phone))) rfl,
    hset .email email
      ((v.set .phone (tidied phone (v.get .phone))).set .name (tidied name (v.get .name))) rfl]
  rfl

/-! ### Missing names and e-mail addresses -/

theorem placeholderEmail_ne_nil (n : Text) : placeholderEmail n ≠ [] := by
  intro h
  have hdomain := (List.append_eq_nil_iff.1 h).2
  exact absurd hdomain (by decide)

theorem fill_of_email {e : Text} (name : Option Text) {mail : Option Text}
    (h : present mail = some e) : fillNameAndEmail name mail =
      ((present ((present name).or (some (nameFromEmail e)))).getD unknownName, some e) := by
  have he : present (some e) = some e := h ▸ present_present mail
  unfold fillNameAndEmail
  rw [h]
  cases hn : present name with
  | none => simp [he]
  | some n => simp [he]

theorem fill_of_name (h : present v.email = none) (hn : present v.name = some n) :
    fillNameAndEmail v.name v.email = (n, some (placeholderEmail n)) := by
  have hpn : present (some n) = some n := hn ▸ present_present v.name
  unfold fillNameAndEmail
  rw [h, hn]
  simp [hpn, present_of_ne (placeholderEmail_ne_nil n)]

theorem fill_of_none (h : present v.email = none) (hn : present v.name = none) :
    fillNameAndEmail v.name v.email = (unknownName, none) := by
  unfold fillNameAndEmail
  rw [h, hn]
  rfl

/-- What fills a missing e-mail address is made up for the name. -/
theorem mails_of_fill (h : (fillNameAndEmail v.name v.email).2 = some m) : Mails v m := by
  cases he : present v.email with
  | some e =>
    left
    rw [fill_of_email v.name he] at h
    rw [he]
    exact h
  | none =>
    cases hn : present v.name with
    | some n =>
      right
      rw [fill_of_name he hn] at h
      exact ⟨he, n, hn, (Option.some.inj h).symm⟩
    | none =>
      rw [fill_of_none he hn] at h
      cases h

theorem mails_of_email (h : v.email = some m) (hm : m ≠ []) : Mails v m := by
  left
  rw [h, present_of_ne hm]

end Cleanup
end AddressBook
