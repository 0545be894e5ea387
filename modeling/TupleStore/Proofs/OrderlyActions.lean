import TupleStore.Proofs.EventPlaces

/-!
# Orderly actions

An action on entities is orderly when its events stand in their places and tell of the
changes, whatever database it meets.  Actions which are put together from orderly ones are
orderly; a write is one as a whole, since what it saves is what it has prepared.
-/

namespace TupleStore.Template

variable {α β γ : Type} {effect : Effect} {name : String}

/-! ## Actions -/

def Unmapped : Except Failure β → Prop
  | .error (.mapping _) => True
  | _ => False

theorem unmapped_error (failure : Failure) :
    Unmapped (.error failure : Except Failure β) =
      Unmapped (.error failure : Except Failure γ) := by
  cases failure <;> rfl

/-- In every run the events stand in their places and tell of the changes. -/
structure Orderly (effect : Effect) (name : String) (action : Action α β) : Prop where
  placed : ∀ database, Placed (Unmapped (outcome embedded action database).1)
    (events (history action database))
  tracked : ∀ database, Tracked effect name (history action database)

namespace Orderly

variable {action : Action α β} {next : β → Action α γ}

theorem done (result : Except Failure β) : Orderly effect name (.done result : Action α β) where
  placed _ := placed_nil
  tracked _ := tracked_nil

theorem bind_of_result (first : Orderly effect name action)
    (second : ∀ database value, (outcome embedded action database).1 = .ok value →
      Orderly effect name (next value)) :
    Orderly effect name (action >>= next) := by
  constructor
  · intro database
    have hfirst := first.placed database
    rw [history_bind]
    rcases h : outcome embedded action database with ⟨failure | value, after⟩
    · rw [h, unmapped_error (γ := γ)] at hfirst
      rw [outcome_bind_error h]
      simpa using hfirst
    · rw [h] at hfirst
      rw [outcome_bind_ok h, events_append]
      have hsecond := second database value (congrArg Prod.fst h)
      exact hfirst.append (hsecond.placed after)
  · intro database
    rw [history_bind]
    apply (first.tracked database).append
    rcases h : outcome embedded action database with ⟨failure | value, after⟩
    · exact tracked_nil
    · exact (second database value (congrArg Prod.fst h)).tracked after

theorem bind (first : Orderly effect name action)
    (second : ∀ value, Orderly effect name (next value)) :
    Orderly effect name (action >>= next) := first.bind_of_result fun _ value _ => second value

theorem map (orderly : Orderly effect name action) (f : β → γ) :
    Orderly effect name (f <$> action) := orderly.bind fun value => done (.ok (f value))

theorem forEach {ι : Type} {action : ι → Action α β} (h : ∀ item, Orderly effect name (action item))
    (items : List ι) : Orderly effect name (Template.forEach action items) := by
  induction items with
  | nil => exact done (.ok [])
  | cons item items ih =>
      apply (h item).bind
      intro result
      apply ih.bind
      intro results
      exact done (.ok (result :: results))

theorem request {asked : Request} (h : Silent effect name asked) :
    Orderly effect name (Template.request asked : Action α asked.Answer) where
  placed _ := placed_nil
  tracked database := tracked_asked (h database).1 (h database).2

theorem selectTuples (space : Space) (conditions : Conditions) :
    Orderly effect name (Template.selectTuples space conditions : Action α (List Tuple)) :=
  request (silent_select space.name conditions)

theorem primaryOf (space : Space) :
    Orderly effect name (Template.primaryOf space : Action α Index) := by
  unfold Template.primaryOf
  split <;> exact done _

theorem publish {space : String} {event : Event α}
    (hled : ∀ before, Led before (space, event))
    (hfollowed : ∀ failed after, Followed failed after (space, event))
    (hdeletions : deletions [(space, event)] = []) (hsavings : savings [(space, event)] = []) :
    Orderly effect name (Template.publish space event) := by
  constructor
  · intro database
    apply placed_of_free
    intro published h
    rw [List.mem_singleton.mp h]
    exact ⟨hled, hfollowed _⟩
  · intro database
    exact tracked_published hdeletions hsavings

variable [entity : Entity α]

theorem metadata : Orderly effect name (Template.metadata : Action α Space) := by
  apply (request (silent_space _)).bind
  intro found
  cases found with
  | none => exact done _
  | some space => exact done _

theorem toEntity (space : Space) (tuple : Tuple) :
    Orderly effect name (Template.toEntity space tuple : Action α α) := by
  constructor
  · intro database
    rw [outcome_toEntity]
    unfold Template.toEntity
    cases entity.codec.fromTuple tuple space with
    | ok value => exact placed_converted
    | error error => exact placed_unconverted trivial
  · intro database
    unfold Template.toEntity
    cases entity.codec.fromTuple tuple space with
    | ok value => exact (tracked_published rfl rfl).append (tracked_published rfl rfl)
    | error error => exact tracked_published rfl rfl

theorem prepareWrite (template : Template α) (value : α) (space : Space) :
    Orderly effect name (template.prepareWrite value space) := by
  unfold Template.prepareWrite
  apply bind
  · exact publish (fun _ => trivial) (fun _ _ => trivial) rfl rfl
  intro _
  apply bind (done _)
  intro tuple
  apply bind
  · exact publish (fun _ => trivial) (fun _ _ => trivial) rfl rfl
  intro _
  exact done _

/-! ## Writes -/

def Stores (name : String) (store : Tuple → Action α (List Tuple)) : Prop :=
  ∀ tuple database, ∃ asked, history (store tuple) database = [.asked asked database] ∧
    ((∃ error, (outcome embedded (store tuple) database).1 = .error (.client error) ∧
        database.stored asked = []) ∨
      (outcome embedded (store tuple) database).1 = .ok [tuple] ∧
        database.stored asked = [(name, tuple)])

omit entity in
theorem stores_insert (name : String) :
    Stores name fun tuple => (Template.request (.insert name tuple) : Action α (List Tuple)) := by
  intro tuple database
  refine ⟨.insert name tuple, rfl, ?_⟩
  rcases database.handle_insert name tuple with ⟨error, h, hstored⟩ | ⟨h, hstored⟩
  · refine .inl ⟨error, ?_, hstored⟩
    exact congrArg (Except.mapError Failure.client) h
  · refine .inr ⟨?_, hstored⟩
    exact congrArg (Except.mapError Failure.client) h

omit entity in
theorem stores_replace (name : String) :
    Stores name fun tuple => (Template.request (.replace name tuple) : Action α (List Tuple)) := by
  intro tuple database
  refine ⟨.replace name tuple, rfl, ?_⟩
  rcases database.handle_replace name tuple with ⟨error, h, hstored⟩ | ⟨h, hstored⟩
  · refine .inl ⟨error, ?_, hstored⟩
    exact congrArg (Except.mapError Failure.client) h
  · refine .inr ⟨?_, hstored⟩
    exact congrArg (Except.mapError Failure.client) h

omit entity in
theorem Stores.outcome_cases {store : Tuple → Action α (List Tuple)}
    (hstores : Stores name store) (tuple : Tuple) (database : Database) :
    ∃ asked after, history (store tuple) database = [.asked asked database] ∧
      ((∃ error, outcome embedded (store tuple) database = (.error (.client error), after) ∧
          database.stored asked = []) ∨
        outcome embedded (store tuple) database = (.ok [tuple], after) ∧
          database.stored asked = [(name, tuple)]) := by
  obtain ⟨asked, hasked, ⟨error, hrefused, hstored⟩ | ⟨hgranted, hstored⟩⟩ := hstores tuple database
  · exact ⟨asked, _, hasked, .inl ⟨error, Prod.ext hrefused rfl, hstored⟩⟩
  · exact ⟨asked, _, hasked, .inr ⟨Prod.ext hgranted rfl, hstored⟩⟩

theorem prepareWrite_bind (template : Template α) (value : α) (space : Space)
    (next : α × Tuple → Action α β) :
    (template.prepareWrite value space >>= next) =
      let first := template.callbacks.runBeforeConvert space.name value
      Template.publish space.name (.beforeConvert first) >>= fun _ =>
        match entity.codec.toTuple first space with
        | .error error => .done (.error (.mapping error))
        | .ok tuple =>
            let prepared := template.callbacks.runBeforeSave space.name tuple first
            Template.publish space.name (.beforeSave prepared tuple) >>= fun _ =>
              next (prepared, tuple) := by
  unfold Template.prepareWrite
  cases h : entity.codec.toTuple (template.callbacks.runBeforeConvert space.name value) space with
  | error error =>
      dsimp only
      rw [h]
      rfl
  | ok tuple =>
      dsimp only
      rw [h]
      rfl

theorem store {template : Template α} {store : Tuple → Action α (List Tuple)} {space : Space}
    (hstores : Stores space.name store) (first value : α) (tuple : Tuple) :
    Orderly .saves name (Template.publish space.name (.beforeConvert first) >>= fun _ =>
      Template.publish space.name (.beforeSave value tuple) >>= fun _ =>
        store tuple >>= fun stored => template.saved value stored space) := by
  let inner := store tuple >>= fun stored => template.saved value stored space
  have houter : ∀ database, history (Template.publish space.name (.beforeConvert first) >>= fun _ =>
      Template.publish space.name (.beforeSave value tuple) >>= fun _ => inner) database =
      [.published space.name (.beforeConvert first),
        .published space.name (.beforeSave value tuple)] ++ history inner database :=
    fun _ => rfl
  have hentity : Orderly .saves name (Template.toEntity space tuple : Action α α) :=
    toEntity space tuple
  constructor
  · intro database
    rw [houter, outcome_bind_ok (outcome_publish _ _), outcome_bind_ok (outcome_publish _ _),
      history_bind]
    obtain ⟨asked, after, hasked, ⟨error, hrefused, _⟩ | ⟨hgranted, _⟩⟩ :=
      hstores.outcome_cases tuple database
    · rw [hrefused, hasked]
      apply placed_of_free
      intro event hevent
      simp [events, Moment.event?] at hevent
      rcases hevent with rfl | rfl
      · exact ⟨fun _ => trivial, fun _ => trivial⟩
      · exact ⟨fun _ => trivial, fun _ => trivial⟩
    · have houtcome : outcome embedded (template.saved value [tuple] space) after =
          outcome embedded (Template.toEntity space tuple) after :=
        outcome_bind_ok (outcome_publish _ _)
      rw [hgranted, outcome_bind_ok hgranted, houtcome, hasked]
      exact (placed_saved first).append (hentity.placed after)
  · intro database
    rw [houter, history_bind]
    obtain ⟨asked, after, hasked, ⟨error, hrefused, hstored⟩ | ⟨hgranted, hstored⟩⟩ :=
      hstores.outcome_cases tuple database
    · rw [hrefused, hasked, List.append_nil]
      constructor
      · rfl
      · simp [events, savings, Moment.event?, Moment.stored, hstored]
    · rw [hgranted, hasked]
      have hsaved : Tracked .saves name [.published space.name (.beforeConvert first),
          .published space.name (.beforeSave value tuple), .asked asked database,
          .published space.name (.afterSave value tuple)] := by
        constructor
        · rfl
        · rw [if_pos rfl]
          simp [Moment.stored, hstored]
          rfl
      exact hsaved.append (hentity.tracked after)

theorem write {template : Template α} {store : Tuple → Action α (List Tuple)} {space : Space}
    (hstores : Stores space.name store) (value : α) :
    Orderly .saves name (template.prepareWrite value space >>= fun prepared =>
      store prepared.2 >>= fun stored => template.saved prepared.1 stored space) := by
  rw [prepareWrite_bind]
  dsimp only
  cases entity.codec.toTuple (template.callbacks.runBeforeConvert space.name value) space with
  | error error =>
      apply bind
      · exact publish (fun _ => trivial) (fun _ _ => trivial) rfl rfl
      intro _
      exact done (.error (.mapping error))
  | ok tuple => exact Orderly.store hstores _ _ tuple

/-! ## Deletions -/

omit entity in
theorem history_deleteTuple (space : Space) (key : Key) (database : Database) :
    ∃ found : Option Tuple,
      history (Template.deleteTuple space key : Action α (Option Tuple)) database =
        .asked (.delete space.name key) database ::
          found.toList.map (fun tuple => .published space.name (.afterDelete tuple)) ∧
      database.removed space.name (.delete space.name key) = found.toList := by
  have hrequest : outcome embedded
      (Template.request (.delete space.name key) : Action α (List Tuple)) database =
      ((database.handle (.delete space.name key)).1.mapError .client,
        (database.handle (.delete space.name key)).2) := outcome_request rfl
  rw [Template.deleteTuple, history_bind, hrequest]
  rcases database.handle_delete space.name key with ⟨error, h, hremoved⟩ | ⟨found, h, hremoved⟩
  · refine ⟨none, ?_, hremoved⟩
    rw [h]
    rfl
  · refine ⟨found, ?_, hremoved⟩
    rw [h]
    cases found <;> rfl

omit entity in
theorem deleteTuple (space : Space) (key : Key) :
    Orderly .deletes space.name (Template.deleteTuple space key : Action α (Option Tuple)) := by
  constructor
  · intro database
    obtain ⟨found, hhistory, _⟩ := @history_deleteTuple α space key database
    rw [hhistory]
    cases found with
    | none => exact placed_nil
    | some tuple =>
        apply placed_of_free
        intro event hevent
        rw [List.mem_singleton.mp hevent]
        exact ⟨fun _ => trivial, fun _ => trivial⟩
  · intro database
    obtain ⟨found, hhistory, hremoved⟩ := @history_deleteTuple α space key database
    rw [hhistory]
    cases found with
    | none =>
        constructor
        · simp [events, deletions, Moment.event?, Moment.removed, hremoved]
        · rfl
    | some tuple =>
        constructor
        · rw [if_pos rfl]
          simp [Moment.removed, hremoved]
          rfl
        · rfl

theorem of_metadata {next : Space → Action α β}
    (h : ∀ space, space.name = entity.space → Orderly effect name (next space)) :
    Orderly effect name (Template.metadata >>= next) := by
  apply metadata.bind_of_result
  intro database space hspace
  apply h
  cases htable : database.table? entity.space with
  | none =>
      have hasked : embedded.handle (.space entity.space) database = (.ok none, database) := by
        change (Except.ok ((database.table? entity.space).map Database.Table.space), database) = _
        rw [htable]
        rfl
      rw [Template.metadata, outcome_bind_ok (outcome_request hasked)] at hspace
      contradiction
  | some table =>
      rw [Repository.outcome_metadata htable] at hspace
      cases hspace
      exact Database.table?_name htable

theorem deleteKey (key : Key) :
    Orderly .deletes entity.space (Template.deleteKey key : Action α (Option α)) := by
  apply of_metadata
  intro space hspace
  rw [← hspace]
  apply (deleteTuple space key).bind
  intro found
  cases found with
  | none => exact done _
  | some tuple => exact (toEntity space tuple).map some

theorem deleteByConditions (conditions : Conditions) :
    Orderly .deletes entity.space (Template.deleteByConditions conditions : Action α (List α)) := by
  apply of_metadata
  intro space hspace
  rw [← hspace]
  apply (primaryOf space).bind
  intro primary
  apply (selectTuples space conditions).bind
  intro matched
  apply (forEach (fun tuple => deleteTuple space (primary.keyOf tuple)) matched).bind
  intro deleted
  exact forEach (toEntity space) _

/-! ## Reading and updating -/

theorem selectOne (conditions : Conditions) :
    Orderly effect name (Template.selectOne conditions : Action α (Option α)) := by
  apply metadata.bind
  intro space
  apply (selectTuples space conditions).bind
  intro tuples
  cases tuples with
  | nil => exact done _
  | cons tuple tuples => exact (toEntity space tuple).map some

theorem selectById (id : entity.Id) :
    Orderly effect name (Template.selectById id : Action α (Option α)) := by
  apply bind (done _)
  intro key
  exact selectOne (.primaryKey key)

theorem select (conditions : Conditions) :
    Orderly effect name (Template.select conditions : Action α (List α)) := by
  apply metadata.bind
  intro space
  apply (selectTuples space conditions).bind
  intro tuples
  exact forEach (toEntity space) tuples

theorem update (template : Template α) (conditions : Conditions) (value : α) :
    Orderly .none name (template.update conditions value) := by
  apply metadata.bind
  intro space
  apply (primaryOf space).bind
  intro primary
  apply (prepareWrite template value space).bind
  intro prepared
  apply (selectTuples space conditions).bind
  intro matched
  apply bind
  · apply forEach
    intro tuple
    exact request (silent_none _)
  intro updated
  exact forEach (toEntity space) _

/-! ## Stored functions -/

omit entity in
theorem callResult (function : String) (arguments : List Value) :
    Orderly .none name (Template.callResult function arguments : Action α (Option Value)) := by
  apply bind (request (silent_none _))
  intro results
  exact done _

omit entity in
theorem callResults (function : String) (arguments : List Value) :
    Orderly .none name (Template.callResults function arguments : Action α (List Value)) := by
  apply (callResult function arguments).bind
  intro result
  split <;> exact done _

theorem resultToEntity (space : Option Space) (value : Value) :
    Orderly effect name (Template.resultToEntity space value : Action α α) := by
  unfold Template.resultToEntity
  split
  · exact toEntity _ _
  · exact done _

end Orderly

end TupleStore.Template
