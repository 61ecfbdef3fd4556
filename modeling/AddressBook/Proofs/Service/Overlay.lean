import Mathlib.Data.List.Induction
import AddressBook.Proofs.Schema.Reading
import AddressBook.Proofs.Service.Run

/-!
Display preferences are the default ones, overlaid by the updates in order. The row that the first
look at them makes never shows.
-/
namespace AddressBook

open AddressBook.Action

variable {env : Conditions} {s s' : Store} {t : Tables} {key : Text} {x : Step} {steps : List Step}

/-! ### Overlaying -/

/-- The last of the values that updates set, or the given one if none does. -/
def lastSet {α : Type} (choice : PreferencesUpdate → Option α) (us : List PreferencesUpdate)
    (given : α) : α := (us.filterMap choice).getLast?.getD given

/-- The preferences in which every choice is what the last update that sets it says. -/
def Preferences.overlaid (p : Preferences) (us : List PreferencesUpdate) : Preferences where
  showName := lastSet (·.showName) us p.showName
  showEmail := lastSet (·.showEmail) us p.showEmail
  showPhone := lastSet (·.showPhone) us p.showPhone
  showAddress := lastSet (·.showAddress) us p.showAddress
  showNotes := lastSet (·.showNotes) us p.showNotes
  terse := lastSet (·.terse) us p.terse
  itemsPerPage := lastSet (·.itemsPerPage) us p.itemsPerPage
  sortBy := lastSet (·.sortBy) us p.sortBy
  sortOrder := lastSet (·.sortOrder) us p.sortOrder

theorem lastSet_append {α : Type} (choice : PreferencesUpdate → Option α)
    (us : List PreferencesUpdate) (u : PreferencesUpdate) (given : α) :
    lastSet choice (us ++ [u]) given = (choice u).getD (lastSet choice us given) := by
  cases h : choice u <;> simp [lastSet, List.filterMap_append, h]

/-- Updates one after another overlay each other. -/
theorem overlaid_append (p : Preferences) (us : List PreferencesUpdate) (u : PreferencesUpdate) :
    p.overlaid (us ++ [u]) = (p.overlaid us).apply u := by
  simp only [Preferences.overlaid, Preferences.apply, lastSet_append]

theorem lastSet_mem {α : Type} {choice : PreferencesUpdate → Option α}
    {us : List PreferencesUpdate} {given : α} :
    lastSet choice us given = given ∨ ∃ u ∈ us, choice u = some (lastSet choice us given) := by
  cases h : (us.filterMap choice).getLast? with
  | none => exact .inl (by simp [lastSet, h])
  | some x =>
    obtain ⟨u, hu, hx⟩ := List.mem_filterMap.1 (List.mem_of_getLast? h)
    exact .inr ⟨u, hu, by simp [lastSet, h, hx]⟩

/-! ### Calls -/

/-- Whether an operation reads or changes the display preferences under a key. -/
def Operation.concerns (key : Text) : Operation → Bool
  | display k => k == key
  | updateDisplay k _ => k == key
  | _ => false

/-- The changes of display preferences that an operation asks for; a reading asks for none. -/
def Operation.overlay : Operation → PreferencesUpdate
  | updateDisplay _ u => u
  | _ => {}

/-- The preferences that show under a key: those in its row, or the default ones. -/
def Tables.shown (t : Tables) (key : Text) : Preferences :=
  ((t.display? key).map (·.preferences)).getD {}

/-- What a call answers, and how it leaves the tables: the preferences are those that showed before,
overlaid by what the call asks for. -/
structure Shows (key : Text) (t : Tables) (u : PreferencesUpdate) (a : Answer) (t' : Tables) :
    Prop where
  answer : ∃ d, a = .display d ∧ d.key = key ∧ d.preferences = (t.shown key).apply u
  shown : t'.shown key = (t.shown key).apply u
  rows : (t'.displays.filter (·.key == key)).length ≤
    max 1 (t.displays.filter (·.key == key)).length

theorem Tables.key_of_display? {d : Display} (h : t.display? key = some d) : d.key = key := by
  simpa using List.find?_some h

theorem Tables.shown_of_some {d : Display} (h : t.display? key = some d) :
    t.shown key = d.preferences := by
  rw [shown, h]
  rfl

theorem Tables.shown_of_none (h : t.display? key = none) : t.shown key = {} := by
  rw [shown, h]
  rfl

theorem Tables.filter_of_none (h : t.display? key = none) :
    t.displays.filter (·.key == key) = [] := by
  simpa [display?, List.filter_eq_nil_iff] using h

theorem apply_nothing (p : Preferences) : p.apply {} = p := rfl

/-- The first row under a key. -/
theorem yields_createDisplay {F : Failure → Prop} (p : Preferences)
    (h : s.tables.display? key = none) :
    Yields env (Displays.create env key p) s F fun d s' => d.key = key ∧ d.preferences = p ∧
      s'.tables = { s.tables with displays := s.tables.displays ++ [d] } := by
  apply (yields_attempt _).bind
  rintro _ _ rfl
  apply yields_tables.bind
  rintro _ _ ⟨rfl, rfl⟩
  simp only [h, Option.isSome_none, Bool.false_eq_true, if_false]
  apply (yields_change _).bind
  rintro _ _ rfl
  exact yields_pure ⟨rfl, rfl, rfl⟩

theorem shown_created {d : Display} (h : t.display? key = none) (hd : d.key = key) :
    ({ t with displays := t.displays ++ [d] } : Tables).shown key = d.preferences := by
  apply Tables.shown_of_some
  unfold Tables.display? at h ⊢
  rw [List.find?_append, h]
  simp [hd]

theorem shows_created {d : Display} (u : PreferencesUpdate) (h : t.display? key = none)
    (hd : d.key = key) (hp : d.preferences = Preferences.apply {} u) :
    Shows key t u (.display d) { t with displays := t.displays ++ [d] } := by
  have hshown := Tables.shown_of_none h
  refine ⟨⟨d, rfl, hd, by rw [hp, hshown]⟩, by rw [shown_created h hd, hp, hshown], ?_⟩
  rw [List.filter_append, Tables.filter_of_none h]
  simp [hd]

/-- A row that is written anew takes the place of the one before. -/
theorem display?_setDisplay {d d' : Display} (h : t.display? key = some d) (hd : d'.key = key) :
    (t.setDisplay d').display? key = some d' := by
  have hkeys : (fun x : Display => x.key == key) ∘ (fun x => if x.key == d'.key then d' else x) =
      fun x => x.key == key := by
    funext x
    by_cases hx : x.key = key <;> simp [hd, hx]
  have hfound : t.displays.find? (·.key == key) = some d := h
  rw [Tables.display?, Tables.setDisplay, List.find?_map, hkeys, hfound]
  simp [Tables.key_of_display? h, hd]

theorem length_setDisplay (t : Tables) (d : Display) (key : Text) :
    ((t.setDisplay d).displays.filter (·.key == key)).length =
      (t.displays.filter (·.key == key)).length := by
  unfold Tables.setDisplay
  rw [List.filter_map, List.length_map]
  congr 1
  apply List.filter_congr
  intro x _
  by_cases hx : x.key = d.key <;> simp [hx]

theorem yields_updateDisplay {F : Failure → Prop} {d : Display} (u : PreferencesUpdate)
    (h : s.tables.display? key = some d) :
    Yields env (Displays.update env d u) s F fun d' s' =>
      Shows key s.tables u (.display d') s'.tables := by
  have hkey := Tables.key_of_display? h
  have hshown := Tables.shown_of_some h
  by_cases hsame : d.preferences.apply u = d.preferences
  · show Yields env (if d.preferences.apply u = d.preferences then _ else _) _ _ _
    rw [if_pos hsame]
    apply yields_pure
    exact ⟨⟨d, rfl, hkey, by rw [hshown, hsame]⟩, by rw [hshown, hsame], Nat.le_max_right _ _⟩
  · show Yields env (if d.preferences.apply u = d.preferences then _ else _) _ _ _
    rw [if_neg hsame]
    apply (yields_attempt _).bind
    rintro _ _ rfl
    apply (yields_change _).bind
    rintro _ _ rfl
    apply yields_pure
    have hkey' : ({ d with preferences := d.preferences.apply u, updated := env.now } :
      Display).key = key := hkey
    refine ⟨⟨_, rfl, hkey', by rw [hshown]⟩, ?_, ?_⟩
    · rw [hshown]
      exact Tables.shown_of_some (display?_setDisplay h hkey')
    · show ((s.tables.setDisplay _).displays.filter _).length ≤ _
      rw [length_setDisplay]
      exact Nat.le_max_right _ _

theorem yields_findDisplay {F : Failure → Prop} (key : Text) :
    Yields env (Displays.find? key) s F fun d s' => d = s.tables.display? key ∧ s' = s := by
  apply yields_tables.bind
  rintro _ _ ⟨rfl, rfl⟩
  exact yields_pure ⟨rfl, rfl⟩

theorem yields_preferences {F : Failure → Prop} (key : Text) :
    Yields env (Operation.preferences env key) s F fun d s' =>
      Shows key s.tables {} (.display d) s'.tables := by
  apply (yields_findDisplay key).bind
  rintro _ s ⟨rfl, rfl⟩
  cases h : s.tables.display? key with
  | some d =>
    exact yields_pure ⟨⟨d, rfl, Tables.key_of_display? h, (Tables.shown_of_some h).symm⟩, rfl,
      Nat.le_max_right _ _⟩
  | none =>
    apply (yields_createDisplay {} h).mono
    rintro d s' ⟨hd, hp, ht⟩
    exact ht ▸ shows_created {} h hd hp

theorem yields_changePreferences {F : Failure → Prop} (key : Text) (u : PreferencesUpdate) :
    Yields env (Operation.changePreferences env key u) s F fun d s' =>
      Shows key s.tables u (.display d) s'.tables := by
  apply (yields_findDisplay key).bind
  rintro _ s ⟨rfl, rfl⟩
  cases h : s.tables.display? key with
  | some d => exact yields_updateDisplay u h
  | none =>
    apply (yields_createDisplay _ h).mono
    rintro d s' ⟨hd, hp, ht⟩
    exact ht ▸ shows_created u h hd hp

/-- A call shows the preferences under its key with its changes, or a write is refused. -/
theorem ends_display (s : Store) (hx : x.operation.concerns key) :
    Ends s x (fun _ => False) (Shows key s.tables x.operation.overlay) := by
  obtain ⟨env, op⟩ := x
  apply Yields.ends
  cases op with
  | display k =>
    obtain rfl : k = key := by simpa [Operation.concerns] using hx
    exact (yields_preferences k).answer fun _ _ h => h
  | updateDisplay k u =>
    obtain rfl : k = key := by simpa [Operation.concerns] using hx
    exact (yields_changePreferences k u).answer fun _ _ h => h
  | _ => cases hx

/-! ### Runs -/

namespace Store

/-- The changes of display preferences asked for in a run, but for those that were refused. -/
def accepted (s : Store) : List Step → List PreferencesUpdate
  | [] => []
  | x :: rest =>
    match s.answer x with
    | .ok _ => x.operation.overlay :: (s.next x).accepted rest
    | .error _ => (s.next x).accepted rest

/-- What clients see of the answers of a run. -/
def responses (s : Store) (steps : List Step) : List (Except Failure Json) :=
  (s.answers steps).map (Except.map Answer.toJson)

end Store

/-- Every choice has a value that may be set. -/
structure Preferences.Allowed (p : Preferences) : Prop where
  itemsPerPage : 1 ≤ p.itemsPerPage ∧ p.itemsPerPage ≤ 500
  sortBy : p.sortBy.title ∈ SortKey.titles
  sortOrder : p.sortOrder.title ∈ SortOrder.titles

/-- What a sequence of calls under one key comes to. -/
structure Overlaid (key : Text) (s : Store) (steps : List Step) : Prop where
  /-- A call answers the default preferences overlaid by all changes so far, its own included,
  unless a write is refused. -/
  responses : ∀ early x late, steps = early ++ x :: late →
    Ends (s.run early) x (fun _ => False) fun a _ => ∃ d, a = .display d ∧ d.key = key ∧
      d.preferences = Preferences.overlaid {} (s.accepted early ++ [x.operation.overlay])
  /-- If no write is refused, these are all that were asked for. -/
  complete : ∀ early late, steps = early ++ late → (∀ x ∈ early, x.env.Calm) →
    s.accepted early = early.map (·.operation.overlay)
  single : ∀ early late, steps = early ++ late →
    ((s.run early).tables.displays.filter (·.key == key)).length ≤ 1
  allowed : (∀ x ∈ steps, ∀ k u, x.operation = .updateDisplay k u →
      ∃ m, Schema.preferencesUpdate m = .ok u) →
    ∀ early x late, steps = early ++ x :: late →
      ∀ d, (s.run early).answer x = .ok (.display d) → d.preferences.Allowed
  /-- Leaving out a call that only reads changes no other response. -/
  unseen : ∀ early x late, steps = early ++ x :: late → x.operation = .display key →
    (∀ y ∈ late, y.env.Calm) →
    (s.responses steps).eraseIdx early.length = s.responses (early ++ late)

theorem accepted_append (s : Store) (steps more : List Step) :
    s.accepted (steps ++ more) = s.accepted steps ++ (s.run steps).accepted more := by
  induction steps generalizing s with
  | nil => rfl
  | cons x rest ih =>
    rw [List.cons_append, Store.accepted, Store.accepted, ih]
    cases s.answer x <;> rfl

/-- The preferences that show are those from before, overlaid by all changes that were accepted. -/
theorem shown_run (s : Store) (hc : ∀ x ∈ steps, x.operation.concerns key) :
    (s.run steps).tables.shown key = (s.tables.shown key).overlaid (s.accepted steps) := by
  induction steps using List.reverseRecOn with
  | nil => rfl
  | append_singleton early x ih =>
    have hearly := ih fun y hy => hc y (List.mem_append_left _ hy)
    have hx := ends_display (s.run early) (hc x (by simp))
    rw [run_append, accepted_append]
    show ((s.run early).next x).tables.shown key = _
    obtain ⟨a, ha, hshows⟩ | ⟨e, he, -, htables⟩ := hx.cases
    · rw [hshows.shown, hearly, Store.accepted, ha, Store.accepted, overlaid_append]
    · rw [htables, hearly, Store.accepted, he, Store.accepted, List.append_nil]

theorem single_run (s : Store) (hc : ∀ x ∈ steps, x.operation.concerns key)
    (h : (s.tables.displays.filter (·.key == key)).length ≤ 1) :
    ((s.run steps).tables.displays.filter (·.key == key)).length ≤ 1 := by
  induction steps generalizing s with
  | nil => exact h
  | cons x rest ih =>
    apply ih (s.next x) fun y hy => hc y (List.mem_cons_of_mem _ hy)
    obtain ⟨a, -, hshows⟩ | ⟨e, -, -, htables⟩ :=
      (ends_display s (hc x (List.mem_cons_self ..))).cases
    · exact Nat.le_trans hshows.rows (Nat.max_le.2 ⟨Nat.le_refl _, h⟩)
    · rwa [htables]

theorem answered_of_calm (s : Store) (hx : x.operation.concerns key) (hcalm : x.env.Calm) :
    ∃ a, s.answer x = .ok a ∧ Shows key s.tables x.operation.overlay a (s.next x).tables := by
  obtain h | ⟨e, -, hfalse | hrefuses, -⟩ := (ends_display s hx).cases
  · exact h
  · exact hfalse.elim
  · exact (hcalm.not_refuses e hrefuses).elim

theorem accepted_of_calm (s : Store) (hc : ∀ x ∈ steps, x.operation.concerns key)
    (hcalm : ∀ x ∈ steps, x.env.Calm) : s.accepted steps = steps.map (·.operation.overlay) := by
  induction steps generalizing s with
  | nil => rfl
  | cons x rest ih =>
    obtain ⟨hx, hrest⟩ := List.forall_mem_cons.1 hc
    obtain ⟨hxcalm, hrestcalm⟩ := List.forall_mem_cons.1 hcalm
    obtain ⟨a, ha, -⟩ := answered_of_calm s hx hxcalm
    rw [Store.accepted, ha, List.map_cons]
    exact congrArg _ (ih (s.next x) hrest hrestcalm)

/-- Where the same preferences show, calls are answered alike, whatever the rows say besides. -/
theorem responses_congr (hs : s.tables.shown key = s'.tables.shown key)
    (hc : ∀ x ∈ steps, x.operation.concerns key) (hcalm : ∀ x ∈ steps, x.env.Calm) :
    s.responses steps = s'.responses steps := by
  induction steps generalizing s s' with
  | nil => rfl
  | cons x rest ih =>
    obtain ⟨hx, hrest⟩ := List.forall_mem_cons.1 hc
    obtain ⟨hxcalm, hrestcalm⟩ := List.forall_mem_cons.1 hcalm
    obtain ⟨a, ha, ⟨d, rfl, hkey, hd⟩, hshown, -⟩ := answered_of_calm s hx hxcalm
    obtain ⟨a', ha', ⟨d', rfl, hkey', hd'⟩, hshown', -⟩ := answered_of_calm s' hx hxcalm
    have hnext : (s.next x).tables.shown key = (s'.next x).tables.shown key := by
      rw [hshown, hshown', hs]
    have hjson : Answer.toJson (.display d) = Answer.toJson (.display d') := by
      rw [Answer.toJson, Answer.toJson, hkey, hkey', hd, hd', hs]
    simp only [Store.responses, Store.answers, List.map_cons, ha, ha', Except.map, hjson]
    exact congrArg _ (ih hnext hrest hrestcalm)

theorem shown_read (s : Store) (hx : x.operation = .display key) :
    (s.next x).tables.shown key = s.tables.shown key := by
  have hc : x.operation.concerns key := by simp [hx, Operation.concerns]
  obtain ⟨a, -, hshows⟩ | ⟨e, -, -, htables⟩ := (ends_display s hc).cases
  · rw [hshows.shown, hx]
    exact apply_nothing _
  · rw [htables]

theorem unseen_read (s : Store) (early : List Step) {late : List Step}
    (hc : ∀ y ∈ late, y.operation.concerns key) (hx : x.operation = .display key)
    (hcalm : ∀ y ∈ late, y.env.Calm) :
    (s.responses (early ++ x :: late)).eraseIdx early.length = s.responses (early ++ late) := by
  have hlength : ((s.answers early).map (Except.map Answer.toJson)).length = early.length := by
    rw [List.length_map, length_answers]
  have hlate := responses_congr (shown_read (s.run early) hx) hc hcalm
  unfold Store.responses at hlate ⊢
  rw [answers_append, answers_append, List.map_append, List.map_append,
    List.eraseIdx_append_of_length_le (Nat.le_of_eq hlength), hlength, Nat.sub_self, Store.answers,
    List.map_cons, List.eraseIdx_cons_zero, hlate]

theorem SortKey.title_mem (k : SortKey) : k.title ∈ titles := by
  cases k with
  | field f => cases f <;> decide
  | _ => decide

theorem SortOrder.title_mem (o : SortOrder) : o.title ∈ titles := by
  cases o <;> decide

theorem overlaid_allowed {us : List PreferencesUpdate}
    (h : ∀ u ∈ us, ∀ n, u.itemsPerPage = some n → 1 ≤ n ∧ n ≤ 500) :
    (Preferences.overlaid {} us).Allowed := by
  refine ⟨?_, SortKey.title_mem _, SortOrder.title_mem _⟩
  change 1 ≤ lastSet (·.itemsPerPage) us ({} : Preferences).itemsPerPage ∧
    lastSet (·.itemsPerPage) us ({} : Preferences).itemsPerPage ≤ 500
  obtain hdefault | ⟨u, hu, hlast⟩ := lastSet_mem
  · rw [hdefault]
    decide
  · exact h u hu _ hlast

theorem accepted_subset (s : Store) (steps : List Step) :
    ∀ u ∈ s.accepted steps, ∃ x ∈ steps, u = x.operation.overlay := by
  induction steps generalizing s with
  | nil => simp [Store.accepted]
  | cons x rest ih =>
    intro u hu
    have hrest : u ∈ (s.next x).accepted rest → ∃ y ∈ x :: rest, u = y.operation.overlay := by
      intro hu
      obtain ⟨y, hy, rfl⟩ := ih (s.next x) u hu
      exact ⟨y, List.mem_cons_of_mem _ hy, rfl⟩
    unfold Store.accepted at hu
    cases ha : s.answer x with
    | ok a =>
      rw [ha] at hu
      rcases List.mem_cons.1 hu with rfl | hu
      · exact ⟨x, List.mem_cons_self .., rfl⟩
      · exact hrest hu
    | error e =>
      rw [ha] at hu
      exact hrest hu

theorem overlay_allowed {x : Step} (h : ∀ k u, x.operation = .updateDisplay k u →
      ∃ m, Schema.preferencesUpdate m = .ok u) {n : Int}
    (hn : x.operation.overlay.itemsPerPage = some n) : 1 ≤ n ∧ n ≤ 500 := by
  cases hop : x.operation with
  | updateDisplay k u =>
    obtain ⟨m, hm⟩ := h k u hop
    rw [hop] at hn
    exact Schema.itemsPerPage_of_preferencesUpdate hm hn
  | _ =>
    rw [hop] at hn
    cases hn

/-- A call behind others shows the default preferences overlaid by all that was asked for. -/
theorem ends_overlaid (h : s.tables.display? key = none)
    (hc : ∀ y ∈ steps, y.operation.concerns key) (hx : x.operation.concerns key) :
    Ends (s.run steps) x (fun _ => False) fun a _ => ∃ d, a = .display d ∧ d.key = key ∧
      d.preferences = Preferences.overlaid {} (s.accepted steps ++ [x.operation.overlay]) := by
  have hshown := shown_run s hc
  rw [Tables.shown_of_none h] at hshown
  apply (ends_display _ hx).mono
  rintro a t ⟨⟨d, rfl, hkey, hd⟩, -, -⟩
  exact ⟨d, rfl, hkey, by rw [hd, hshown, overlaid_append]⟩

/-- What is read from requests makes every choice one that may be made. -/
theorem allowed_accepted (s : Store) (hread : ∀ y ∈ x :: steps, ∀ k u,
      y.operation = .updateDisplay k u → ∃ m, Schema.preferencesUpdate m = .ok u) :
    (Preferences.overlaid {} (s.accepted steps ++ [x.operation.overlay])).Allowed := by
  apply overlaid_allowed
  intro u hu n hn
  obtain ⟨y, hy, rfl⟩ : ∃ y ∈ x :: steps, u = y.operation.overlay := by
    rcases List.mem_append.1 hu with hu | hu
    · obtain ⟨y, hy, rfl⟩ := accepted_subset s steps u hu
      exact ⟨y, List.mem_cons_of_mem _ hy, rfl⟩
    · exact ⟨x, List.mem_cons_self .., List.mem_singleton.1 hu⟩
  exact overlay_allowed (hread y hy) hn

/-- Without a row under the key at first, every sequence of calls under it overlays the default
preferences, and readings go unseen. -/
theorem preferences_overlay (h : s.tables.display? key = none)
    (hc : ∀ x ∈ steps, x.operation.concerns key) : Overlaid key s steps := by
  have hearly : ∀ {early late : List Step}, steps = early ++ late →
      ∀ y ∈ early, y.operation.concerns key := by
    rintro early late rfl y hy
    exact hc y (List.mem_append_left _ hy)
  have hends := fun early x late (hsteps : steps = early ++ x :: late) =>
    ends_overlaid h (hearly hsteps) (hc x (by simp [hsteps]))
  refine ⟨hends, ?_, ?_, ?_, ?_⟩
  · intro early late hsteps hcalm
    exact accepted_of_calm s (hearly hsteps) hcalm
  · intro early late hsteps
    apply single_run s (hearly hsteps)
    rw [Tables.filter_of_none h]
    exact Nat.zero_le _
  · intro hread early x late hsteps d hd
    obtain ⟨a, ha, d', rfl, -, hd'⟩ | ⟨e, he, -⟩ := (hends early x late hsteps).cases
    · cases ha.symm.trans hd
      rw [hd']
      apply allowed_accepted s
      intro y hy
      apply hread y
      rcases List.mem_cons.1 hy with rfl | hy
      · simp [hsteps]
      · simp [hsteps, hy]
    · cases he.symm.trans hd
  · rintro early x late rfl hx hcalm
    exact unseen_read s early (fun y hy => hc y (by simp [hy])) hx hcalm

/-- Preferences are read, changed and read again. -/
def resizedOnce : List Step :=
  [⟨.fair 1, .display ['k']⟩, ⟨.fair 2, .updateDisplay ['k'] { itemsPerPage := some 50 }⟩,
    ⟨.fair 3, .display ['k']⟩]

theorem preferences_overlay_resizedOnce :
    ({} : Store).tables.display? ['k'] = none ∧
      (∀ x ∈ resizedOnce, x.operation.concerns ['k']) ∧ Overlaid ['k'] {} resizedOnce :=
  ⟨rfl, by decide, preferences_overlay rfl (by decide)⟩

end AddressBook
