import AddressBook.Search.Clause
import Mathlib.Order.MinMax

/-!
How deep a condition is nested, and what comes of trying and translating it. Where there is room for
the calls that it takes, the trial tells whether the condition holds. With less room it may still
tell, as it goes only as far as needed, but what it tells is right.
-/
namespace AddressBook.Search

variable {α β : Type} {calls room k k' n : Nat} {body : Nat → Except QueryError α}
  {record : Record} {p : Predicate} {ps : List Predicate}

theorem calling_of_le (h : calls ≤ room) : calling calls room body = body (room - calls) :=
  if_pos h

theorem calling_of_lt (h : room < calls) : calling calls room body = .error .tooDeep :=
  if_neg (Nat.not_le.2 h)

theorem calling_congr {room' : Nat} (h : calls ≤ room) (h' : calls ≤ room')
    (x : Except QueryError α) :
    (calling calls room fun _ => x) = calling calls room' fun _ => x := by
  rw [calling_of_le h, calling_of_le h']

theorem map_calling (f : α → β) : (calling calls room body).map f =
    calling calls room fun rest => (body rest).map f := by
  unfold calling
  split <;> rfl

namespace Predicate

mutual

/-- The more calls a list takes, the more calls are open. -/
theorem depth_mono (h : k ≤ k') : ∀ p : Predicate, p.depth k ≤ p.depth k'
  | everything | contains _ _ | isNull _ => Nat.le_refl 1
  | all children | any children => Nat.add_le_add h (depthOfAll_mono h children)
  | not child => Nat.add_le_add_left (depth_mono h child) 1

theorem depthOfAll_mono (h : k ≤ k') : ∀ ps : List Predicate, depthOfAll k ps ≤ depthOfAll k' ps
  | [] => Nat.le_refl 0
  | p :: rest => max_le_max (depth_mono h p) (depthOfAll_mono h rest)

end

theorem depthOfAll_le_iff : depthOfAll k ps ≤ n ↔ ∀ p ∈ ps, p.depth k ≤ n := by
  induction ps with
  | nil => simp [depthOfAll]
  | cons p rest ih => rw [depthOfAll, max_le_iff, List.forall_mem_cons, ih]

/-! ### Trials -/

/-- What can come of a trial: the truth, or the complaint that there is no room for the calls that it
takes. -/
def Tried (holds : Bool) (room depth : Nat) (outcome : Except QueryError Bool) : Prop :=
  outcome = .ok holds ∨ outcome = .error .tooDeep ∧ room < depth

theorem tried_calling {holds : Bool} {calls depth : Nat} {body : Nat → Except QueryError Bool}
    (h : ∀ rest, Tried holds rest depth (body rest)) :
    Tried holds room (calls + depth) (calling calls room body) := by
  by_cases hroom : calls ≤ room
  · rw [calling_of_le hroom]
    exact (h _).imp_right fun ⟨herror, hlt⟩ => ⟨herror, by omega⟩
  · have hlt := Nat.not_le.1 hroom
    exact .inr ⟨calling_of_lt hlt, Nat.lt_add_right _ hlt⟩

theorem tried_leaf (holds : Bool) : Tried holds room 1 (calling 1 room fun _ => .ok holds) := by
  have hknown (rest : Nat) : Tried holds rest 0 (.ok holds) := .inl rfl
  exact tried_calling hknown

mutual

/-- A trial tells whether the condition holds, or lacks the room for the deepest part. -/
theorem tried_tryOn : ∀ (p : Predicate) (room : Nat),
    Tried (p.holdsFor record) room (p.depth trialCalls) (p.tryOn record room)
  | everything, _ => tried_leaf true
  | contains _ _, _ | isNull _, _ => tried_leaf _
  | all children, _ => tried_calling fun rest => tried_tryAll children rest
  | any children, _ => tried_calling fun rest => tried_tryAny children rest
  | not child, _ => tried_calling fun rest => by
    rcases tried_tryOn child rest with h | ⟨h, hlt⟩
    · exact .inl (congrArg (Except.map (! ·)) h)
    · exact .inr ⟨congrArg (Except.map (! ·)) h, hlt⟩

/-- The trial of a list goes on behind the parts that hold. -/
theorem tried_tryAll : ∀ (ps : List Predicate) (room : Nat),
    Tried (allHoldFor record ps) room (depthOfAll trialCalls ps) (tryAll record room ps)
  | [], _ => .inl rfl
  | p :: rest, room => by
    rw [tryAll, allHoldFor, depthOfAll]
    rcases tried_tryOn p room with h | ⟨h, hlt⟩
    · rw [h]
      cases p.holdsFor record with
      | false => exact .inl rfl
      | true =>
        exact (tried_tryAll rest room).imp_right fun ⟨herror, hlt⟩ =>
          ⟨herror, lt_max_of_lt_right hlt⟩
    · rw [h]
      exact .inr ⟨rfl, lt_max_of_lt_left hlt⟩

/-- The trial of a list goes on behind the parts that do not hold. -/
theorem tried_tryAny : ∀ (ps : List Predicate) (room : Nat),
    Tried (anyHoldsFor record ps) room (depthOfAll trialCalls ps) (tryAny record room ps)
  | [], _ => .inl rfl
  | p :: rest, room => by
    rw [tryAny, anyHoldsFor, depthOfAll]
    rcases tried_tryOn p room with h | ⟨h, hlt⟩
    · rw [h]
      cases p.holdsFor record with
      | true => exact .inl rfl
      | false =>
        exact (tried_tryAny rest room).imp_right fun ⟨herror, hlt⟩ =>
          ⟨herror, lt_max_of_lt_right hlt⟩
    · rw [h]
      exact .inr ⟨rfl, lt_max_of_lt_left hlt⟩

end

theorem tryOn_of_depth_le (h : p.depth trialCalls ≤ room) :
    p.tryOn record room = .ok (p.holdsFor record) :=
  (tried_tryOn p room).resolve_right fun hdeep => Nat.not_lt.2 h hdeep.2

end Predicate

/-! ### Translations -/

namespace Clause

variable {c : Clause} {cs : List Clause}

theorem ofPredicate_all (hroom : translationCalls ≤ room)
    (h : ofPredicates (room - translationCalls) ps = .ok cs) :
    ofPredicate room (.all ps) = .ok (conj cs) := by
  rw [ofPredicate, calling_of_le hroom, h]
  rfl

theorem ofPredicate_any (hroom : translationCalls ≤ room)
    (h : ofPredicates (room - translationCalls) ps = .ok cs) :
    ofPredicate room (.any ps) = .ok (disj cs) := by
  rw [ofPredicate, calling_of_le hroom, h]
  rfl

theorem ofPredicate_not (hroom : 1 ≤ room) (h : ofPredicate (room - 1) p = .ok c) :
    ofPredicate room (.not p) = .ok (negate c) := by
  rw [ofPredicate, calling_of_le hroom, h]
  rfl

mutual

/-- Where there is room, the room does not matter. -/
theorem ofPredicate_congr : ∀ {p : Predicate} {room room' : Nat},
    p.depth translationCalls ≤ room → p.depth translationCalls ≤ room' →
    ofPredicate room p = ofPredicate room' p
  | .everything, _, _, h, h' | .contains _ [], _, _, h, h' | .contains _ (_ :: _), _, _, h, h'
  | .isNull _, _, _, h, h' => calling_congr h h' _
  | .all children, room, room', h, h' | .any children, room, room', h, h' => by
    rw [Predicate.depth] at h h'
    have hchildren : ofPredicates (room - translationCalls) children =
        ofPredicates (room' - translationCalls) children :=
      ofPredicates_congr (by omega) (by omega)
    rw [ofPredicate, ofPredicate, calling_of_le (Nat.le_of_add_right_le h),
      calling_of_le (Nat.le_of_add_right_le h'), hchildren]
  | .not child, room, room', h, h' => by
    rw [Predicate.depth] at h h'
    have hchild : ofPredicate (room - 1) child = ofPredicate (room' - 1) child :=
      ofPredicate_congr (by omega) (by omega)
    rw [ofPredicate, ofPredicate, calling_of_le (Nat.le_of_add_right_le h),
      calling_of_le (Nat.le_of_add_right_le h'), hchild]

theorem ofPredicates_congr : ∀ {ps : List Predicate} {room room' : Nat},
    Predicate.depthOfAll translationCalls ps ≤ room →
    Predicate.depthOfAll translationCalls ps ≤ room' →
    ofPredicates room ps = ofPredicates room' ps
  | [], _, _, _, _ => rfl
  | p :: rest, room, room', h, h' => by
    rw [Predicate.depthOfAll, max_le_iff] at h h'
    rw [ofPredicates, ofPredicates, ofPredicate_congr h.1 h'.1, ofPredicates_congr h.2 h'.2]

end

theorem exists_ok_of_map {x : Except QueryError α} {f : α → β} {b : β} (h : x.map f = .ok b) :
    ∃ a, x = .ok a := by
  cases x with
  | error e => cases h
  | ok a => exact ⟨a, rfl⟩

/-- What is too deep inside some calls is too deep with them. -/
theorem map_calling_tooDeep (f : α → β) (h : calls ≤ room → body (room - calls) = .error .tooDeep) :
    (calling calls room fun rest => (body rest).map f) = .error .tooDeep := by
  by_cases hroom : calls ≤ room
  · rw [calling_of_le hroom, h hroom]
    rfl
  · exact calling_of_lt (Nat.not_le.1 hroom)

mutual

/-- Where a condition becomes a clause if there is room, it is too deep if there is not. -/
theorem ofPredicate_tooDeep : ∀ {p : Predicate} {c : Clause} {room room' : Nat},
    ofPredicate room' p = .ok c → p.depth translationCalls ≤ room' →
    room < p.depth translationCalls → ofPredicate room p = .error .tooDeep
  | .everything, _, _, _, _, _, hdeep | .contains _ [], _, _, _, _, _, hdeep
  | .contains _ (_ :: _), _, _, _, _, _, hdeep | .isNull _, _, _, _, _, _, hdeep =>
    calling_of_lt hdeep
  | .all children, _, room, room', h, hample, hdeep
  | .any children, _, room, room', h, hample, hdeep => by
    rw [Predicate.depth] at hample hdeep
    rw [ofPredicate, calling_of_le (Nat.le_of_add_right_le hample)] at h
    obtain ⟨cs, hcs⟩ := exists_ok_of_map h
    rw [ofPredicate]
    exact map_calling_tooDeep _ fun _ => ofPredicates_tooDeep hcs (by omega) (by omega)
  | .not child, _, room, room', h, hample, hdeep => by
    rw [Predicate.depth] at hample hdeep
    rw [ofPredicate, calling_of_le (Nat.le_of_add_right_le hample)] at h
    obtain ⟨c, hc⟩ := exists_ok_of_map h
    rw [ofPredicate]
    exact map_calling_tooDeep _ fun _ => ofPredicate_tooDeep hc (by omega) (by omega)

/-- The first of several conditions for which there is not room is where the translation ends. -/
theorem ofPredicates_tooDeep : ∀ {ps : List Predicate} {cs : List Clause} {room room' : Nat},
    ofPredicates room' ps = .ok cs → Predicate.depthOfAll translationCalls ps ≤ room' →
    room < Predicate.depthOfAll translationCalls ps → ofPredicates room ps = .error .tooDeep
  | [], _, _, _, _, _, hdeep => absurd hdeep (Nat.not_lt_zero _)
  | p :: rest, _, room, room', h, hample, hdeep => by
    rw [Predicate.depthOfAll, max_le_iff] at hample
    rw [Predicate.depthOfAll, lt_max_iff] at hdeep
    rw [ofPredicates] at h ⊢
    cases hc : ofPredicate room' p with
    | error e =>
      rw [hc] at h
      cases h
    | ok c =>
      cases hcs : ofPredicates room' rest with
      | error e =>
        rw [hc, hcs] at h
        cases h
      | ok cs =>
        by_cases hroom : p.depth translationCalls ≤ room
        · have hrest := hdeep.resolve_left (Nat.not_lt.2 hroom)
          rw [ofPredicate_congr hroom hample.1, hc, ofPredicates_tooDeep hcs hample.2 hrest]
        · rw [ofPredicate_tooDeep hc hample.1 (Nat.not_le.1 hroom)]

end

end Clause
end AddressBook.Search
