import TupleStore.Proofs.PrimaryName
import TupleStore.Proofs.Programs
import TupleStore.Repository

/-!
# Operations on entities of an embedded database

What an operation of a repository results in, as an equation on the table of the
entities: a search by id reads the tuple with the key of the id, and a write changes
the table and reads back what it has stored.
-/

namespace TupleStore

/-! ## Keys of ids -/

theorem Entity.length_keyOf {α : Type} [entity : Entity α] {id : entity.Id} {key : Key}
    (h : Entity.keyOf α id = .ok key) : key.length = entity.idFields.length := by
  unfold Entity.keyOf at h
  split at h
  · contradiction
  split at h
  · exact length_of_mapM h
  split at h
  next hlength =>
    cases h
    exact hlength.symm
  split at h
  · split at h
    next hlength =>
      cases h
      exact hlength
    · contradiction
  · contradiction

/-! ## Selection by key -/

namespace Database

variable {table : Table} {primary : Index} {key : Key}

theorem head?_filter_hasKey : (table.tuples.filter (Heap.hasKey primary key)).head? =
    table.lookup primary key := List.head?_filter

end Database

/-! ## Runs without events -/

namespace Template

variable {α β γ σ : Type} {client : Client σ} {state : σ}

/-- Answers requests with a client; events are lost. -/
def answer (client : Client σ) : (op : Op α) → σ → op.Reply × σ
  | .request asked, state => client.handle asked state
  | .publish .., state => ((), state)

def outcome (client : Client σ) (action : Action α β) (state : σ) : Except Failure β × σ :=
  ((run client action state).1, (run client action state).2.1)

theorem outcome_eq (action : Action α β) :
    outcome client action state = Program.run (answer client) action state := by
  -- the events before a step do not reach the client
  have hrun : ∀ (state : σ) (events : List (String × Event α)),
      ((Program.run (handle client) action (state, events)).1,
        (Program.run (handle client) action (state, events)).2.1) =
        Program.run (answer client) action state := by
    induction action with
    | done result => exact fun _ _ => rfl
    | step op next ih =>
        intro state events
        cases op with
        | request asked => exact ih _ _ _
        | publish space event => exact ih _ _ _
  exact hrun state []

variable {action : Action α β} {next : β → Action α γ} {result : β} {failure : Failure} {after : σ}

theorem outcome_bind_ok (h : outcome client action state = (.ok result, after)) :
    outcome client (action >>= next) state = outcome client (next result) after := by
  rw [outcome_eq] at h ⊢
  rw [Program.run_bind, h, outcome_eq]

theorem outcome_bind_error (h : outcome client action state = (.error failure, after)) :
    outcome client (action >>= next) state = (.error failure, after) := by
  rw [outcome_eq] at h ⊢
  rw [Program.run_bind, h]

theorem outcome_map (f : β → γ) (action : Action α β) :
    outcome client (f <$> action) state =
      ((outcome client action state).1.map f, (outcome client action state).2) := by
  change outcome client (action >>= fun result => pure (f result)) state = _
  rcases h : outcome client action state with ⟨_ | _, _⟩
  · exact outcome_bind_error h
  · exact outcome_bind_ok h

theorem outcome_publish (space : String) (event : Event α) :
    outcome client (publish space event) state = (.ok (), state) := rfl

theorem outcome_request {asked : Request} {reply : asked.Reply}
    (h : client.handle asked state = (reply, after)) :
    outcome client (request asked : Action α asked.Answer) state =
      (reply.mapError .client, after) := by
  change ((client.handle asked state).1.mapError Failure.client,
    (client.handle asked state).2) = _
  rw [h]

variable [entity : Entity α]

theorem outcome_toEntity (space : Space) (tuple : Tuple) :
    outcome client (toEntity space tuple : Action α α) state =
      ((entity.codec.fromTuple tuple space).mapError .mapping, state) := by
  rw [toEntity, outcome_bind_ok (outcome_publish _ _)]
  cases entity.codec.fromTuple tuple space with
  | ok value => rfl
  | error error => rfl

end Template

/-! ## Operations by key -/

namespace Repository

open Template Database

variable {α : Type} [entity : Entity α]
variable {database : Database} {table after : Table} {primary : Index} {key : Key}
variable {id : entity.Id}

theorem outcome_metadata (htable : database.table? entity.space = some table) :
    outcome embedded (metadata : Action α Space) database = (.ok table.space, database) := by
  have hhandle : embedded.handle (.space entity.space) database =
      (.ok (some table.space), database) := by
    change (Except.ok ((database.table? entity.space).map Table.space), database) = _
    rw [htable]
    rfl
  rw [metadata, outcome_bind_ok (outcome_request hhandle)]
  rfl

def read (space : Space) : Option Tuple → Except Failure (Option α)
  | none => .ok none
  | some tuple => ((entity.codec.fromTuple tuple space).mapError .mapping).map some

theorem outcome_findById (htable : database.table? entity.space = some table)
    (hindex : table.space.index? "primary" = some primary)
    (hparts : primary.parts.length = entity.idFields.length)
    (hkey : Entity.keyOf α id = .ok key) :
    outcome embedded (findById id : Action α (Option α)) database =
      (read table.space (table.lookup primary key), database) := by
  have hlength : key.length = primary.parts.length := (Entity.length_keyOf hkey).trans hparts.symm
  have hselect : embedded.handle (.select table.space.name (.primaryKey key)) database =
      (.ok (table.tuples.filter (Heap.hasKey primary key)), database) := by
    rw [table?_name htable]
    exact handle_select_ok htable (select_primaryKey hindex List.prefix_rfl hlength)
  rw [findById, selectById, hkey]
  change outcome embedded (selectOne (.primaryKey key)) database = _
  rw [selectOne, outcome_bind_ok (outcome_metadata htable), selectTuples,
    outcome_bind_ok (outcome_request hselect), ← head?_filter_hasKey]
  cases table.tuples.filter (Heap.hasKey primary key) with
  | nil => rfl
  | cons tuple tuples =>
      change outcome embedded (some <$> toEntity table.space tuple) database = _
      rw [outcome_map, outcome_toEntity]
      rfl

theorem outcome_deleteById (htable : database.table? entity.space = some table)
    (hkey : Entity.keyOf α id = .ok key) {found : Option Tuple}
    (hdelete : table.delete key = .ok (after, found)) :
    outcome embedded (deleteById (α := α) id) database =
      ((read (α := α) table.space found).map fun _ => (), database.putTable after) := by
  have hhandle : embedded.handle (.delete table.space.name key) database =
      (.ok found.toList, database.putTable after) := by
    rw [show embedded.handle = Database.handle from rfl, Database.handle, table?_name htable,
      onTable_ok htable hdelete]
  have htuple : outcome embedded (deleteTuple table.space key : Action α (Option Tuple)) database =
      (.ok found, database.putTable after) := by
    rw [deleteTuple, outcome_bind_ok (outcome_request hhandle)]
    cases found <;> rfl
  have hlift : outcome embedded (liftMapping (Entity.keyOf α id) : Action α Key) database =
      (.ok key, database) := by
    rw [hkey]
    rfl
  change outcome embedded ((fun _ => ()) <$> Template.deleteById id) database = _
  rw [outcome_map, Template.deleteById, outcome_bind_ok hlift, deleteKey,
    outcome_bind_ok (outcome_metadata htable), outcome_bind_ok htuple]
  cases found with
  | none => rfl
  | some tuple =>
      change ((outcome embedded (some <$> toEntity table.space tuple) _).1.map _, _) = _
      rw [outcome_map, outcome_toEntity]
      rfl

/-! ## Saving -/

/-- Inserts the tuple of a new entity and puts any other in the place of a stored one. -/
def put (value : α) (table : Table) (tuple : Tuple) : Except Fault Table :=
  if Entity.isNew value then table.insert tuple else table.replace tuple

variable {origin : Origin} {value : α} {tuple : Tuple}

theorem outcome_prepareWrite {space : Space} (result : Except MappingError Tuple)
    (h : entity.codec.toTuple value space = result) :
    outcome embedded (prepareWrite ⟨origin, {}⟩ value space) database =
      ((result.mapError .mapping).map fun tuple => (value, tuple), database) := by
  rw [prepareWrite]
  change outcome embedded (publish space.name (.beforeConvert value) >>= fun _ =>
    liftMapping (entity.codec.toTuple value space) >>= fun tuple =>
      publish space.name (.beforeSave value tuple) >>= fun _ => pure (value, tuple)) database = _
  rw [outcome_bind_ok (outcome_publish _ _), h]
  cases result with
  | ok tuple => rfl
  | error error => rfl

def stored (database : Database) (tuple : Tuple) :
    Except Fault Table → Except Failure (List Tuple) × Database
  | .error fault => (.error (.client fault.toClientError), database)
  | .ok after => (.ok [tuple], database.putTable after)

def written (database : Database) (space : Space) (change : Tuple → Except Fault Table) :
    Except MappingError Tuple → Except Failure α × Database
  | .error error => (.error (.mapping error), database)
  | .ok tuple =>
      match change tuple with
      | .error fault => (.error (.client fault.toClientError), database)
      | .ok after =>
          ((entity.codec.fromTuple tuple space).mapError .mapping, database.putTable after)

theorem outcome_write {space : Space} (store : Tuple → Action α (List Tuple))
    (change : Tuple → Except Fault Table)
    (hstore : ∀ tuple, outcome embedded (store tuple) database =
      stored database tuple (change tuple)) :
    outcome embedded (do
      let (value, tuple) ← prepareWrite ⟨origin, {}⟩ value space
      saved ⟨origin, {}⟩ value (← store tuple) space) database =
      written database space change (entity.codec.toTuple value space) := by
  cases htuple : entity.codec.toTuple value space with
  | error error => rw [outcome_bind_error (outcome_prepareWrite _ htuple), written]
  | ok tuple =>
      rw [outcome_bind_ok (outcome_prepareWrite _ htuple), written]
      have h := hstore tuple
      cases hchange : change tuple with
      | error fault =>
          rw [hchange] at h
          exact outcome_bind_error h
      | ok after =>
          rw [hchange] at h
          refine (outcome_bind_ok h).trans ?_
          rw [saved, outcome_bind_ok (outcome_publish _ _), outcome_toEntity]

theorem onTable_stored (htable : database.table? entity.space = some table)
    (change : Table → Except Fault Table) (tuple : Tuple) :
    ((database.onTable table.space.name change fun after => ([tuple], after)).1.mapError
      Failure.client, (database.onTable table.space.name change fun after => ([tuple], after)).2) =
      stored database tuple (change table) := by
  rw [table?_name htable]
  cases hchange : change table with
  | error fault => rw [onTable_error htable hchange, stored, Except.mapError]
  | ok after => rw [onTable_ok htable hchange, stored, Except.mapError]

theorem outcome_save (htable : database.table? entity.space = some table) :
    outcome embedded (save ⟨origin, {}⟩ value) database =
      written database table.space (put value table) (entity.codec.toTuple value table.space) := by
  unfold save put
  split
  · rw [Template.insert, outcome_bind_ok (outcome_metadata htable)]
    exact outcome_write (fun tuple => request (.insert table.space.name tuple)) table.insert
      fun tuple => onTable_stored htable (fun table => table.insert tuple) tuple
  · rw [Template.replace, outcome_bind_ok (outcome_metadata htable)]
    exact outcome_write (fun tuple => request (.replace table.space.name tuple)) table.replace
      fun tuple => onTable_stored htable (fun table => table.replace tuple) tuple

end Repository

end TupleStore
