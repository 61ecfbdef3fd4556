import AddressBook.Proofs.Store.Framing

/-!
What actions leave behind. An action may rely on a property of the tables, and it leaves one behind
whether it succeeds or not; what it results in may have a property too.
-/
namespace AddressBook

open AddressBook.Action

/-- From tables with one property, an action leaves tables with another, and its result has a
property as well. -/
def Leaves {α : Type} (I J : Tables → Prop) (act : Action α) (P : α → Prop) : Prop :=
  ∀ s, I s.tables → match act s with
    | .ok x s' => P x ∧ J s'.tables
    | .error _ s' => J s'.tables

/-- A property of tables is not lost. -/
def Preserves (I : Tables → Prop) (s s' : Store) : Prop := I s.tables → I s'.tables

instance (I : Tables → Prop) : Frame (Preserves I) where
  unwritten h hi := h.tables ▸ hi
  trans h h' hi := h' (h hi)
  back _ hi := hi

variable {α β : Type} {I J K : Tables → Prop} {act : Action α} {f : α → Action β} {s : Store}
  {P : α → Prop} {Q : β → Prop} {env : Conditions}

theorem Leaves.after (h : Leaves I J act P) (hi : I s.tables) : J (after act s).tables := by
  have hs := h s hi
  unfold Action.after
  cases ha : act s with
  | ok x s' =>
    rw [ha] at hs
    exact hs.2
  | error e s' =>
    rw [ha] at hs
    exact hs

theorem Leaves.ending (h : Leaves I J act P) (hjk : ∀ t, J t → K t) : Leaves I K act P := by
  intro s hi
  have hs := h s hi
  cases ha : act s with
  | ok x s' =>
    rw [ha] at hs
    exact ⟨hs.1, hjk _ hs.2⟩
  | error e s' =>
    rw [ha] at hs
    exact hjk _ hs

theorem Leaves.starting (h : Leaves J K act P) (hij : ∀ t, I t → J t) : Leaves I K act P :=
  fun s hi => h s (hij _ hi)

/-- One action after another; the first one may end it. -/
theorem Leaves.then (h : Leaves I J act P) (hjk : ∀ t, J t → K t)
    (hf : ∀ x, P x → Leaves J K (f x) Q) : Leaves I K (act >>= f) Q := by
  intro s hi
  have hs := h s hi
  rw [bind_run]
  cases ha : act s with
  | ok x s₁ =>
    rw [ha] at hs
    exact hf x hs.1 s₁ hs.2
  | error e s₁ =>
    rw [ha] at hs
    exact hjk _ hs

theorem Leaves.bind (h : Leaves I J act P) (hf : ∀ x, P x → Leaves J J (f x) Q) :
    Leaves I J (act >>= f) Q := h.then (fun _ hj => hj) hf

theorem Keeps.leaves (h : Keeps (Preserves I) act) : Leaves I I act fun _ => True := by
  intro s hi
  have hs := h s hi
  unfold Action.after at hs
  cases ha : act s with
  | ok x s' =>
    rw [ha] at hs
    exact ⟨trivial, hs⟩
  | error e s' =>
    rw [ha] at hs
    exact hs

theorem leaves_pure {x : α} (h : P x) : Leaves I I (pure x) P := fun _ hi => ⟨h, hi⟩

theorem leaves_tables : Leaves I I tables I := fun _ hi => ⟨hi, hi⟩

theorem leaves_ofExcept {ε : Type} (failure : ε → Failure) (x : Except ε α) :
    Leaves I I (ofExcept failure x) fun y => x = .ok y := by
  cases x with
  | ok x => exact leaves_pure rfl
  | error e => exact fun _ hi => hi

theorem leaves_change {g : Tables → Tables} (h : ∀ t, I t → J (g t)) :
    Leaves I J (change g) fun _ => True := fun _ hi => ⟨trivial, h _ hi⟩

theorem Leaves.savepoint (h : Leaves I I act P) : Leaves I I (savepoint act) P := by
  intro s hi
  have hs := h s hi
  cases ha : act s with
  | ok x s' =>
    rw [ha] at hs
    rw [savepoint_of_ok ha]
    exact hs
  | error e s' =>
    rw [savepoint_of_error ha]
    exact hi

theorem Leaves.recover (h : Leaves I J act P) :
    Leaves I J (recover act) fun r => ∀ x, r = .ok x → P x := by
  intro s hi
  have hs := h s hi
  cases ha : act s with
  | ok x s' =>
    rw [ha] at hs
    rw [recover_of_ok ha]
    refine ⟨?_, hs.2⟩
    rintro y hy
    cases hy
    exact hs.1
  | error e s' =>
    rw [ha] at hs
    rw [recover_of_error ha]
    exact ⟨nofun, hs⟩

/-- A transaction that fails takes back what it has written. -/
theorem Leaves.transaction (h : Leaves I J act P) (hij : ∀ t, I t → J t) :
    Leaves I J (transaction env act) P := by
  intro s hi
  have hs := h s hi
  cases ht : Action.transaction env act s with
  | ok x s' =>
    obtain ⟨s₁, ha, -, rfl⟩ := transaction_eq_ok.1 ht
    rw [ha] at hs
    exact hs
  | error e s' =>
    obtain ⟨s₁, -, rfl⟩ := savepoint_error ht
    exact hij _ hi

end AddressBook
