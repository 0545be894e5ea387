import TupleStore.Proofs.Histories

/-!
# Places of events

Where the events of a conversion stand in what is published, and which of the changes of a
database the events tell of.  Both go from the parts of a run to the whole.
-/

namespace TupleStore.Template

variable {α β γ : Type}

/-! ## Places of events -/

/-- A tuple is saved right after it has been prepared, and converted right after it was loaded. -/
def Led (before : List (String × Event α)) : String × Event α → Prop
  | (space, .afterSave _ tuple) =>
      ∃ earlier first value,
        before = earlier ++ [(space, .beforeConvert first), (space, .beforeSave value tuple)]
  | (space, .afterConvert _ tuple) => ∃ earlier, before = earlier ++ [(space, .afterLoad tuple)]
  | _ => True

/-- A loaded tuple is converted at once, unless the conversion has failed and is the end. -/
def Followed (failed : Prop) (after : List (String × Event α)) : String × Event α → Prop
  | (space, .afterLoad tuple) =>
      (∃ value later, after = (space, .afterConvert value tuple) :: later) ∨ after = [] ∧ failed
  | _ => True

structure Placed (failed : Prop) (events : List (String × Event α)) : Prop where
  led : ∀ before event after, events = before ++ event :: after → Led before event
  followed : ∀ before event after, events = before ++ event :: after →
    Followed failed after event

variable {failed : Prop} {before after first second : List (String × Event α)}
variable {event : String × Event α}

theorem Led.append_left (h : Led before event) (earlier : List (String × Event α)) :
    Led (earlier ++ before) event := by
  obtain ⟨space, event⟩ := event
  cases event with
  | afterSave value tuple =>
      obtain ⟨start, first, value, rfl⟩ := h
      exact ⟨earlier ++ start, first, value, (List.append_assoc ..).symm⟩
  | afterConvert value tuple =>
      obtain ⟨start, rfl⟩ := h
      exact ⟨earlier ++ start, (List.append_assoc ..).symm⟩
  | _ => trivial

theorem Followed.append_right (h : Followed False after event)
    (later : List (String × Event α)) : Followed failed (after ++ later) event := by
  obtain ⟨space, event⟩ := event
  cases event with
  | afterLoad tuple =>
      rcases h with ⟨value, rest, rfl⟩ | ⟨_, h⟩
      · exact .inl ⟨value, rest ++ later, rfl⟩
      · contradiction
  | _ => trivial

theorem append_eq_split (h : first ++ second = before ++ event :: after) :
    (∃ middle, before = first ++ middle ∧ second = middle ++ event :: after) ∨
      ∃ middle, first = before ++ event :: middle ∧ after = middle ++ second := by
  rcases List.append_eq_append_iff.mp h with h | ⟨middle, hfirst, hmiddle⟩
  · exact .inl h
  · cases middle with
    | nil =>
        refine .inl ⟨[], ?_, hmiddle.symm⟩
        simpa using hfirst.symm
    | cons head middle =>
        cases hmiddle
        exact .inr ⟨middle, hfirst, rfl⟩

theorem led_append
    (hfirst : ∀ before event after, first = before ++ event :: after → Led before event)
    (hsecond : ∀ before event after, second = before ++ event :: after → Led before event) :
    ∀ before event after, first ++ second = before ++ event :: after → Led before event := by
  intro before event after h
  rcases append_eq_split h with ⟨middle, rfl, hmiddle⟩ | ⟨middle, hmiddle, _⟩
  · exact (hsecond middle event after hmiddle).append_left first
  · exact hfirst before event middle hmiddle

theorem placed_nil : Placed failed ([] : List (String × Event α)) := by
  constructor
  · intro before event after h
    simp at h
  · intro before event after h
    simp at h

theorem Placed.append (hfirst : Placed False first) (hsecond : Placed failed second) :
    Placed failed (first ++ second) := by
  constructor
  · exact led_append hfirst.led hsecond.led
  · intro before event after h
    rcases append_eq_split h with ⟨middle, _, hmiddle⟩ | ⟨middle, hmiddle, rfl⟩
    · exact hsecond.followed middle event after hmiddle
    · exact (hfirst.followed before event middle hmiddle).append_right second

variable {space : String} {value : α} {tuple : Tuple}

theorem placed_of_free (h : ∀ event ∈ first, (∀ before, Led before event) ∧
    ∀ after, Followed failed after event) : Placed failed first := by
  constructor
  · rintro before event after rfl
    exact (h event (by simp)).1 before
  · rintro before event after rfl
    exact (h event (by simp)).2 after

theorem placed_saved (prepared : α) :
    Placed failed [(space, .beforeConvert prepared), (space, .beforeSave value tuple),
      (space, .afterSave value tuple)] := by
  constructor
  · intro before event after h
    match before, h with
    | [], h =>
        cases h
        trivial
    | [_], h =>
        cases h
        trivial
    | [_, _], h =>
        cases h
        exact ⟨[], prepared, value, rfl⟩
    | _ :: _ :: _ :: before, h => simp at h
  · intro before event after h
    have hmem : event ∈ before ++ event :: after := by simp
    rw [← h] at hmem
    simp at hmem
    rcases hmem with rfl | rfl | rfl <;> trivial

theorem placed_converted :
    Placed failed [(space, .afterLoad tuple), (space, .afterConvert value tuple)] := by
  constructor
  · intro before event after h
    match before, h with
    | [], h =>
        cases h
        trivial
    | [_], h =>
        cases h
        exact ⟨[], rfl⟩
    | _ :: _ :: before, h => simp at h
  · intro before event after h
    match before, h with
    | [], h =>
        cases h
        exact .inl ⟨value, [], rfl⟩
    | [_], h =>
        cases h
        trivial
    | _ :: _ :: before, h => simp at h

theorem placed_unconverted (h : failed) :
    Placed failed [((space, .afterLoad tuple) : String × Event α)] := by
  constructor
  · intro before event after hsplit
    match before, hsplit with
    | [], hsplit =>
        cases hsplit
        trivial
    | _ :: before, hsplit => simp at hsplit
  · intro before event after hsplit
    match before, hsplit with
    | [], hsplit =>
        cases hsplit
        exact .inr ⟨rfl, h⟩
    | _ :: before, hsplit => simp at hsplit

/-! ## Events which tell of changes -/

inductive Effect where
  | none
  | saves
  | deletes
  deriving DecidableEq

def deletions (events : List (String × Event α)) : List (String × Tuple) :=
  events.filterMap fun
    | (space, .afterDelete tuple) => some (space, tuple)
    | _ => none

def savings (events : List (String × Event α)) : List (String × Tuple) :=
  events.filterMap fun
    | (space, .afterSave _ tuple) => some (space, tuple)
    | _ => none

/-- The events tell of the changes of their kind and of no others. -/
structure Tracked (effect : Effect) (name : String) (moments : List (Moment α)) : Prop where
  deletions : deletions (events moments) =
    if effect = .deletes then moments.flatMap (Moment.removed name) else []
  savings : savings (events moments) =
    if effect = .saves then moments.flatMap Moment.stored else []

@[simp] theorem events_append (moments rest : List (Moment α)) :
    events (moments ++ rest) = events moments ++ events rest := List.filterMap_append

@[simp] theorem deletions_append (first second : List (String × Event α)) :
    deletions (first ++ second) = deletions first ++ deletions second := List.filterMap_append

@[simp] theorem savings_append (first second : List (String × Event α)) :
    savings (first ++ second) = savings first ++ savings second := List.filterMap_append

variable {effect : Effect} {name : String} {moments rest : List (Moment α)}

theorem tracked_nil : Tracked effect name ([] : List (Moment α)) := by
  constructor
  · split <;> rfl
  · split <;> rfl

theorem Tracked.append (hmoments : Tracked effect name moments) (hrest : Tracked effect name rest) :
    Tracked effect name (moments ++ rest) := by
  constructor
  · rw [events_append, deletions_append, hmoments.deletions, hrest.deletions]
    split <;> simp
  · rw [events_append, savings_append, hmoments.savings, hrest.savings]
    split <;> simp

def Silent (effect : Effect) (name : String) (asked : Request) : Prop :=
  ∀ database : Database, (effect = .deletes → database.removed name asked = []) ∧
    (effect = .saves → database.stored asked = [])

theorem tracked_asked {asked : Request} {database : Database}
    (hremoved : effect = .deletes → database.removed name asked = [])
    (hstored : effect = .saves → database.stored asked = []) :
    Tracked effect name [(.asked asked database : Moment α)] := by
  constructor
  · split
    next h => simp [deletions, events, Moment.event?, Moment.removed, hremoved h]
    next => rfl
  · split
    next h => simp [savings, events, Moment.event?, Moment.stored, hstored h]
    next => rfl

theorem tracked_published {space : String} {event : Event α}
    (hdeletions : deletions [(space, event)] = []) (hsavings : savings [(space, event)] = []) :
    Tracked effect name [.published space event] := by
  constructor
  · refine hdeletions.trans ?_
    split <;> rfl
  · refine hsavings.trans ?_
    split <;> rfl

theorem silent_space (asked : String) : Silent effect name (.space asked) := fun _ =>
  ⟨fun _ => Database.removed_of_kept rfl, fun _ => rfl⟩

theorem silent_select (asked : String) (conditions : Conditions) :
    Silent effect name (.select asked conditions) := fun database =>
  ⟨fun _ => Database.removed_of_kept (database.handle_select asked conditions), fun _ => rfl⟩

theorem silent_none (asked : Request) : Silent .none name asked := fun _ =>
  ⟨fun h => by contradiction, fun h => by contradiction⟩

/-! ## Events without entities -/

def erase : String × Event α → String × Event Unit
  | (space, .beforeConvert _) => (space, .beforeConvert ())
  | (space, .beforeSave _ tuple) => (space, .beforeSave () tuple)
  | (space, .afterSave _ tuple) => (space, .afterSave () tuple)
  | (space, .afterLoad tuple) => (space, .afterLoad tuple)
  | (space, .afterConvert _ tuple) => (space, .afterConvert () tuple)
  | (space, .afterDelete tuple) => (space, .afterDelete tuple)

theorem Led.erase (h : Led before event) :
    Led (before.map Template.erase) (Template.erase event) := by
  obtain ⟨space, event⟩ := event
  cases event with
  | afterSave value tuple =>
      obtain ⟨earlier, first, value, rfl⟩ := h
      exact ⟨earlier.map Template.erase, (), (), by simp [Template.erase]⟩
  | afterConvert value tuple =>
      obtain ⟨earlier, rfl⟩ := h
      exact ⟨earlier.map Template.erase, by simp [Template.erase]⟩
  | _ => trivial

theorem Followed.erase (h : Followed failed after event) :
    Followed failed (after.map Template.erase) (Template.erase event) := by
  obtain ⟨space, event⟩ := event
  cases event with
  | afterLoad tuple =>
      rcases h with ⟨value, later, rfl⟩ | ⟨rfl, h⟩
      · exact .inl ⟨(), later.map Template.erase, rfl⟩
      · exact .inr ⟨rfl, h⟩
  | _ => trivial

theorem Placed.erase {events : List (String × Event α)} (h : Placed failed events) :
    Placed failed (events.map Template.erase) := by
  constructor
  · intro before event after hsplit
    obtain ⟨earlier, rest, rfl, rfl, hrest⟩ := List.map_eq_append_iff.mp hsplit
    obtain ⟨head, later, rfl, rfl, rfl⟩ := List.map_eq_cons_iff.mp hrest
    exact (h.led earlier head later rfl).erase
  · intro before event after hsplit
    obtain ⟨earlier, rest, rfl, rfl, hrest⟩ := List.map_eq_append_iff.mp hsplit
    obtain ⟨head, later, rfl, rfl, rfl⟩ := List.map_eq_cons_iff.mp hrest
    exact (h.followed earlier head later rfl).erase

theorem deletions_erase (events : List (String × Event α)) :
    deletions (events.map erase) = deletions events := by
  unfold deletions
  rw [List.filterMap_map]
  congr 1
  funext ⟨space, event⟩
  cases event <;> rfl

theorem savings_erase (events : List (String × Event α)) :
    savings (events.map erase) = savings events := by
  unfold savings
  rw [List.filterMap_map]
  congr 1
  funext ⟨space, event⟩
  cases event <;> rfl

end TupleStore.Template
