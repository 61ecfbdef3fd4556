import AddressBook.Proofs.Search.Depth
import AddressBook.Search.Trial

/-!
Conditions as JSON trees. The tree that is written for a condition is read as the condition. On a
record of texts it is tried call by call like the condition, and its translation comes to the same
clause, or to the same complaint.
-/
namespace AddressBook.Search

namespace Predicate

mutual

/-- A condition as a tree. -/
def tree : Predicate → Tree
  | everything => .everything
  | contains term fields => .contains (.text term) (fields.map .text)
  | isNull field => .isNull (.text field)
  | all children => .all (trees children)
  | any children => .any (trees children)
  | not child => .not (tree child)

/-- Several conditions as trees. -/
def trees : List Predicate → List Tree
  | [] => []
  | p :: rest => tree p :: trees rest

end

end Predicate

namespace Tree

/-- A record of texts as a record of JSON values. -/
def entriesOf (record : Record) : JsonRecord := fun label => .value (.optional .text (record label))

variable {record : Record} {room : Nat}

/-! ### Reading -/

mutual

/-- What is written for a condition is read as this condition. -/
theorem ofJson_toJson : ∀ p : Predicate, ofJson p.toJson = p.tree
  | .everything | .contains _ _ | .isNull _ => rfl
  | .all children => congrArg Tree.all (listOf_toJsonList children)
  | .any children => congrArg Tree.any (listOf_toJsonList children)
  | .not child => congrArg Tree.not (ofJson_toJson child)

theorem listOf_toJsonList : ∀ ps : List Predicate,
    listOf (Predicate.toJsonList ps) = Predicate.trees ps
  | [] => rfl
  | p :: rest => congrArg₂ List.cons (ofJson_toJson p) (listOf_toJsonList rest)

end

/-! ### Trials -/

theorem entryHolds_optional (needle : Text) (value : Option Text) :
    entryHolds needle (.value (.optional .text value)) = .ok (holds needle value) := by
  cases value <;> rfl

theorem someHolds_texts (needle : Text) (fields : List Text) :
    someHolds (entriesOf record) needle (fields.map .text) =
      .ok (fields.any fun f => holds needle (record f)) := by
  induction fields with
  | nil => rfl
  | cons field rest ih =>
    have hentry := entryHolds_optional needle (record field)
    rw [List.map_cons, someHolds, List.any_cons]
    dsimp only [labelOf, entriesOf] at ih ⊢
    rw [hentry]
    cases holds needle (record field) with
    | true => rfl
    | false => exact ih

theorem isNone_entry (field : Text) : isNone (entriesOf record field) = (record field).isNone := by
  unfold entriesOf
  cases record field <;> rfl

mutual

/-- The tree of a condition is tried like the condition. -/
theorem tryOn_tree : ∀ (p : Predicate) (room : Nat),
    tryOn (entriesOf record) room p.tree = p.tryOn record room
  | .everything, _ => rfl
  | .contains term fields, room =>
    congrArg (fun told => calling 1 room fun _ => told)
      (someHolds_texts (Text.lower term) fields)
  | .isNull field, room =>
    congrArg (fun told => calling 1 room fun _ => .ok told) (isNone_entry field)
  | .all children, room =>
    congrArg (calling trialCalls room) (funext fun rest => tryAll_trees children rest)
  | .any children, room =>
    congrArg (calling trialCalls room) (funext fun rest => tryAny_trees children rest)
  | .not child, room =>
    congrArg (calling 1 room) (funext fun rest => congrArg (Except.map (! ·)) (tryOn_tree child rest))

theorem tryAll_trees : ∀ (ps : List Predicate) (room : Nat),
    tryAll (entriesOf record) room (Predicate.trees ps) = Predicate.tryAll record room ps
  | [], _ => rfl
  | p :: rest, room => by
    rw [Predicate.trees, tryAll, Predicate.tryAll, tryOn_tree p room]
    rcases p.tryOn record room with e | b
    · rfl
    · cases b
      · rfl
      · exact tryAll_trees rest room

theorem tryAny_trees : ∀ (ps : List Predicate) (room : Nat),
    tryAny (entriesOf record) room (Predicate.trees ps) = Predicate.tryAny record room ps
  | [], _ => rfl
  | p :: rest, room => by
    rw [Predicate.trees, tryAny, Predicate.tryAny, tryOn_tree p room]
    rcases p.tryOn record room with e | b
    · rfl
    · cases b
      · exact tryAny_trees rest room
      · rfl

end

/-! ### Translations -/

/-- What reading a tree for conditions comes to, next to a translation: both complain of the same, or
what is read has the same translation. -/
def Agrees {α β : Type} (translate : α → Except QueryError β) (read : Except QueryError α)
    (translated : Except QueryError β) : Prop :=
  match read with
  | .error e => translated = .error e
  | .ok x => ∃ y, translate x = .ok y ∧ translated = .ok y

theorem Agrees.bind_eq {α β : Type} {translate : α → Except QueryError β}
    {read : Except QueryError α} {translated : Except QueryError β}
    (h : Agrees translate read translated) : read.bind translate = translated := by
  cases read with
  | error e => exact h.symm
  | ok x =>
    obtain ⟨y, hy, htranslated⟩ := h
    exact hy.trans htranslated.symm

/-- Parts that agree are put together on both sides. -/
theorem Agrees.map {α β γ δ : Type} {translate : α → Except QueryError β}
    {translate' : γ → Except QueryError δ} {read : Except QueryError α}
    {translated : Except QueryError β} {f : β → δ} {g : α → γ}
    (h : Agrees translate read translated)
    (hput : ∀ x y, translate x = .ok y → translate' (g x) = .ok (f y)) :
    Agrees translate' (read.map g) (translated.map f) := by
  cases read with
  | error e =>
    have htranslated : translated = .error e := h
    rw [htranslated]
    rfl
  | ok x =>
    obtain ⟨y, hy, htranslated⟩ := h
    rw [htranslated]
    exact ⟨f y, hput x y hy, rfl⟩

theorem agrees_calling {calls : Nat} {translate : Predicate → Except QueryError Clause}
    {read : Nat → Except QueryError Predicate} {translated : Nat → Except QueryError Clause}
    (h : calls ≤ room → Agrees translate (read (room - calls)) (translated (room - calls))) :
    Agrees translate (calling calls room read) (calling calls room translated) := by
  by_cases hroom : calls ≤ room
  · rw [calling_of_le hroom, calling_of_le hroom]
    exact h hroom
  · have hlt := Nat.not_le.1 hroom
    rw [calling_of_lt hlt, calling_of_lt hlt]
    rfl

/-- Names of columns are read as they are compared. -/
theorem columnLabels_texts (escaped : Text) (labels : List Text) :
    columnLabels (labels.map .text) =
      (Clause.comparisons escaped labels).map fun _ => labels := by
  induction labels with
  | nil => rfl
  | cons label rest ih =>
    rw [List.map_cons, columnLabels, Clause.comparisons]
    dsimp only [labelOf]
    cases Clause.column label with
    | error e => rfl
    | ok c =>
      dsimp only
      rw [ih]
      cases Clause.comparisons escaped rest <;> rfl

theorem agrees_containing (hroom : 1 ≤ room) (term label : Text) (rest : List Text) :
    Agrees (Clause.ofPredicate room) (containing (.text term) ((label :: rest).map .text))
      ((Clause.comparisons (Like.escape (Text.lower term)) (label :: rest)).map Clause.disj) := by
  have hread : containing (.text term) ((label :: rest).map .text) =
      (columnLabels ((label :: rest).map .text)).map (.contains term) := rfl
  rw [hread, columnLabels_texts (Like.escape (Text.lower term))]
  cases hcs : Clause.comparisons (Like.escape (Text.lower term)) (label :: rest) with
  | error e => rfl
  | ok cs =>
    refine ⟨Clause.disj cs, ?_, rfl⟩
    simp only [Clause.ofPredicate, calling_of_le hroom, hcs, Except.map]

theorem agrees_lackingColumn (hroom : 1 ≤ room) (label : Text) :
    Agrees (Clause.ofPredicate room) (lackingColumn (.text label)) (Clause.nullTest label) := by
  have hread : lackingColumn (.text label) =
      (Clause.nullTest label).map fun _ => .isNull label := rfl
  rw [hread]
  cases hnull : Clause.nullTest label with
  | error e => rfl
  | ok c => exact ⟨c, (calling_of_le hroom).trans hnull, rfl⟩

mutual

/-- The tree of a condition is read as a condition with the same clause. -/
theorem agrees_tree : ∀ (p : Predicate) (room : Nat),
    Agrees (Clause.ofPredicate room) (p.tree.predicate room) (Clause.ofPredicate room p)
  | .everything, _ => agrees_calling fun hroom => ⟨_, calling_of_le hroom, rfl⟩
  | .contains _ [], _ => agrees_calling fun hroom => ⟨_, calling_of_le hroom, rfl⟩
  | .contains term (label :: rest), _ =>
    agrees_calling fun hroom => agrees_containing hroom term label rest
  | .isNull label, _ => agrees_calling fun hroom => agrees_lackingColumn hroom label
  | .all children, _ => agrees_calling fun hroom =>
    (agrees_trees children _).map fun _ _ => Clause.ofPredicate_all hroom
  | .any children, _ => agrees_calling fun hroom =>
    (agrees_trees children _).map fun _ _ => Clause.ofPredicate_any hroom
  | .not child, _ => agrees_calling fun hroom =>
    (agrees_tree child _).map fun _ _ => Clause.ofPredicate_not hroom

theorem agrees_trees : ∀ (ps : List Predicate) (room : Nat),
    Agrees (Clause.ofPredicates room) (predicates room (Predicate.trees ps))
      (Clause.ofPredicates room ps)
  | [], _ => ⟨[], rfl, rfl⟩
  | p :: rest, room => by
    have hfirst := agrees_tree p room
    have hrest := agrees_trees rest room
    rw [Predicate.trees, predicates, Clause.ofPredicates]
    cases hread : p.tree.predicate room with
    | error e =>
      rw [hread] at hfirst
      have htranslated : Clause.ofPredicate room p = .error e := hfirst
      rw [htranslated]
      rfl
    | ok q =>
      rw [hread] at hfirst
      obtain ⟨c, hc, htranslated⟩ := hfirst
      rw [htranslated]
      dsimp only
      cases hreads : predicates room (Predicate.trees rest) with
      | error e =>
        rw [hreads] at hrest
        have htranslateds : Clause.ofPredicates room rest = .error e := hrest
        rw [htranslateds]
        rfl
      | ok qs =>
        rw [hreads] at hrest
        obtain ⟨cs, hcs, htranslateds⟩ := hrest
        rw [htranslateds]
        exact ⟨c :: cs, by simp only [Clause.ofPredicates, hc, hcs], rfl⟩

end

/-- The tree of a condition is translated like the condition. -/
theorem bind_predicate_tree (p : Predicate) (room : Nat) :
    (p.tree.predicate room).bind (Clause.ofPredicate room) = Clause.ofPredicate room p :=
  (agrees_tree p room).bind_eq

end Tree
end AddressBook.Search
