import AddressBook.Proofs.Store.Framing
import AddressBook.Service.Operation

/-!
Groups, display preferences and whatever only looks at contacts: nothing of it changes contacts,
their history or uploads.
-/
namespace AddressBook

open AddressBook.Action

variable {env : Conditions} {R : Store → Store → Prop}

section

variable [Frame R]

/-! ### History -/

theorem keeps_find? (id : Uuid) (version : Int) : Keeps R (Snapshots.find? id version) :=
  (bindInteger_checks version).keeps.bind fun _ => keeps_tables.bind fun _ => keeps_pure _

theorem keeps_latest? (id : Uuid) (time : Instant) : Keeps R (Snapshots.latest? id time) :=
  (bindInstant_checks time).keeps.bind fun _ => keeps_tables.bind fun _ => keeps_pure _

theorem keeps_versions (id : Uuid) : Keeps R (History.versions id) :=
  (keeps_get id).bind fun _ => keeps_tables.bind fun _ => keeps_pure _

/-! ### Reading groups and display preferences -/

theorem keeps_getGroup (id : Uuid) : Keeps R (Groups.get id) := by
  refine keeps_tables.bind fun t => ?_
  split
  · exact keeps_pure _
  · exact keeps_throw _

theorem keeps_allGroups : Keeps R Groups.all := keeps_tables.bind fun _ => keeps_pure _

theorem keeps_showGroup (g : Group) : Keeps R (Operation.showGroup g) :=
  keeps_tables.bind fun _ => keeps_pure _

theorem keeps_findDisplay (key : Text) : Keeps R (Displays.find? key) :=
  keeps_tables.bind fun _ => keeps_pure _

/-! ### Searches -/

theorem keeps_clauseOf (p : Search.Predicate) : Keeps R (Contacts.clauseOf env p) := by
  refine (keeps_ofExcept _ _).bind fun _ => Keeps.ite ((keeps_throw _).bind fun _ => ?_) ?_
  all_goals exact (bindTexts_checks _).keeps.bind fun _ => keeps_pure _

theorem keeps_select (clause : Search.Clause) (group : Option Uuid) :
    Keeps R (Contacts.select env clause group) :=
  keeps_tables.bind fun _ =>
    Keeps.ite ((keeps_throw _).bind fun _ => keeps_pure _) (keeps_pure _)

theorem keeps_find (p : Search.Predicate) (l : Contacts.Listing) :
    Keeps R (Contacts.find env p l) :=
  (keeps_clauseOf p).bind fun _ => (bindInteger_checks _).keeps.bind fun _ =>
    (bindInteger_checks _).keeps.bind fun _ => (keeps_select _ _).bind fun _ => keeps_pure _

theorem keeps_findIds (p : Search.Predicate) (group : Option Uuid) :
    Keeps R (Contacts.findIds env p group) :=
  (keeps_clauseOf p).bind fun _ => (keeps_select _ _).bind fun _ => keeps_pure _

theorem keeps_search (query : Text) (l : Contacts.Listing) :
    Keeps R (Contacts.search env query l) :=
  (keeps_find _ l).bind fun _ =>
    Keeps.ite ((keeps_throw _).bind fun _ => keeps_pure _) (keeps_pure _)

end

/-! ### Kinds of operations -/

namespace Operation

/-- Whether an operation may add contacts or uploads. -/
def adds : Operation → Bool
  | createContact _ | importCsv _ _ _ => true
  | _ => false

/-- Whether an operation may write groups or memberships. -/
def regroups : Operation → Bool
  | createGroup _ | updateGroup _ _ | deleteGroup _ | addMembers _ _ | removeMembers _ _ => true
  | _ => false

/-- Whether an operation may change the values of contacts and their history. -/
def rewrites : Operation → Bool
  | updateContact _ _ | deleteContact _ | reactivateContact _ | restoreVersion _ _
  | restoreAll _ | cleanup _ => true
  | _ => false

end Operation

section

variable [DisplayFree R]

/-! ### Display preferences -/

theorem keeps_createDisplay (key : Text) (p : Preferences) :
    Keeps R (Displays.create env key p) := by
  refine (keeps_attempt _).bind fun _ => keeps_tables.bind fun _ => Keeps.ite ?_ ?_
  · exact (keeps_throw _).bind fun _ =>
      (keeps_change_displays _).bind fun _ => keeps_pure _
  · exact (keeps_change_displays _).bind fun _ => keeps_pure _

theorem keeps_updateDisplay (d : Display) (u : PreferencesUpdate) :
    Keeps R (Displays.update env d u) := by
  refine Keeps.ite (keeps_pure _) ((keeps_attempt _).bind fun _ => ?_)
  exact Keeps.bind (keeps_change_displays fun t => (t.setDisplay _).displays) fun _ => keeps_pure _

theorem keeps_preferences (key : Text) : Keeps R (Operation.preferences env key) := by
  refine (keeps_findDisplay key).bind fun d => ?_
  split
  · exact keeps_pure _
  · exact keeps_createDisplay _ _

theorem keeps_changePreferences (key : Text) (u : PreferencesUpdate) :
    Keeps R (Operation.changePreferences env key u) := by
  refine (keeps_findDisplay key).bind fun d => ?_
  split
  · exact keeps_updateDisplay _ _
  · exact keeps_createDisplay _ _

/-- An operation that writes display preferences at most. -/
theorem keeps_beside (op : Operation) (ha : op.adds = false) (hw : op.rewrites = false)
    (hg : op.regroups = false) : Keeps R (op.run env) := by
  cases op with
  | search query listing => exact (keeps_search query listing).map _
  | matchingIds r => exact (keeps_findIds _ r.group).map _
  | contact id =>
    exact (keeps_get id).bind fun _ => (keeps_versions id).bind fun _ => keeps_pure _
  | versions id => exact (keeps_versions id).map _
  | groups => exact keeps_allGroups.bind fun _ => keeps_tables.bind fun _ => keeps_pure _
  | group id => exact (keeps_getGroup id).bind fun g => keeps_showGroup g
  | display key => exact (keeps_preferences key).map _
  | updateDisplay key u => exact (keeps_changePreferences key u).map _
  | uploads count =>
    exact Keeps.bind (keeps_tables.bind fun _ => keeps_pure _) fun _ => keeps_pure _
  | createContact | importCsv => cases ha
  | updateContact | deleteContact | reactivateContact | restoreVersion | restoreAll | cleanup =>
    cases hw
  | createGroup | updateGroup | deleteGroup | addMembers | removeMembers => cases hg

end

section

variable [GroupFree R]

/-! ### Groups -/

theorem keeps_createGroup (name : Text) (description : Option Text) (color : Text) :
    Keeps R (Groups.create env name description color) := by
  refine (keeps_attempt _).bind fun _ => keeps_newGroupId.bind fun _ =>
    (bindTexts_checks _).keeps.bind fun _ =>
      Keeps.bind (keeps_change ?_ ?_ ?_) fun _ => keeps_pure _
  all_goals exact fun _ => rfl

theorem keeps_updateGroup (id : Uuid) (name : Option Text) (description : Option (Option Text))
    (color : Option Text) : Keeps R (Groups.update env id name description color) := by
  refine (keeps_getGroup id).bind fun g => Keeps.ite (keeps_pure _) ?_
  refine (keeps_attempt _).bind fun _ => (bindTexts_checks _).keeps.bind fun _ =>
    Keeps.bind (keeps_change ?_ ?_ ?_) fun _ => keeps_pure _
  all_goals exact fun _ => rfl

theorem keeps_deleteGroup (id : Uuid) : Keeps R (Groups.delete env id) := by
  refine (keeps_getGroup id).bind fun _ => (keeps_attempt _).bind fun _ =>
    Keeps.bind (keeps_change ?_ ?_ ?_) fun _ => (keeps_attempt _).bind fun _ =>
      keeps_change ?_ ?_ ?_
  all_goals exact fun _ => rfl

theorem keeps_addMember (group contact : Uuid) : Keeps R (Groups.addMember env group contact) := by
  refine (keeps_attempt _).bind fun _ => keeps_tables.bind fun t => ?_
  refine Keeps.ite ((keeps_throw _).bind fun _ => ?_) ?_
  all_goals exact keeps_change (fun _ => rfl) (fun _ => rfl) fun _ => rfl

theorem keeps_addEach (group : Uuid) (contacts : List Uuid) :
    Keeps R (Groups.addEach env group contacts) := by
  induction contacts with
  | nil => exact keeps_pure _
  | cons c rest ih => exact (keeps_addMember group c).bind fun _ => ih

theorem keeps_addMembers (group : Uuid) (contacts : List Uuid) :
    Keeps R (Groups.addMembers env group contacts) :=
  (keeps_getGroup group).bind fun _ => keeps_tables.bind fun _ =>
    (keeps_addEach group _).bind fun _ => keeps_pure _

theorem keeps_removeMembers (group : Uuid) (contacts : List Uuid) :
    Keeps R (Groups.removeMembers env group contacts) := by
  refine (keeps_getGroup group).bind fun _ => (keeps_attempt _).bind fun _ =>
    keeps_tables.bind fun _ => Keeps.bind (keeps_change ?_ ?_ ?_) fun _ => keeps_pure _
  all_goals exact fun _ => rfl

theorem keeps_changeGroup (id : Uuid) (changes : Schema.GroupChanges) :
    Keeps R (Operation.changeGroup env id changes) := by
  unfold Operation.changeGroup
  split
  · exact keeps_throw _
  · exact keeps_updateGroup _ _ _ _

/-- An operation that writes neither contacts and their history nor uploads. -/
theorem keeps_elsewhere (op : Operation) (ha : op.adds = false) (hw : op.rewrites = false) :
    Keeps R (op.run env) := by
  cases op with
  | createGroup r => exact (keeps_createGroup _ _ _).map _
  | updateGroup id changes => exact (keeps_changeGroup id changes).bind fun g => keeps_showGroup g
  | deleteGroup id => exact (keeps_deleteGroup id).bind fun _ => keeps_pure _
  | addMembers id contacts => exact (keeps_addMembers id contacts).map _
  | removeMembers id contacts => exact (keeps_removeMembers id contacts).map _
  | _ => exact keeps_beside _ ha hw rfl

end

end AddressBook
