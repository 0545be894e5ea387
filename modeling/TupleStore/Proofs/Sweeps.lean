import TupleStore.Proofs.AllOrNothing
import TupleStore.Proofs.EntityActions

/-!
# Changes tuple by tuple

An operation on entities which changes stored tuples makes its plan first, then asks for
one change after another, and at last reads what it has changed.  The first change which
is refused ends it, and the changes before that one stay.
-/

namespace TupleStore

namespace Database

/-- A change of a table at a key, which answers with the tuple it finds there. -/
abbrev KeyedChange := Table → Key → Except Fault (Table × Option Tuple)

def KeyedChange.KeepsSpace (change : KeyedChange) : Prop :=
  ∀ {table key after found}, change table key = .ok (after, found) → after.space = table.space

namespace Table

/-- The changes at one key after another, until one is refused. -/
def sweep (change : KeyedChange) (table : Table) :
    List Key → Except Fault (List (Option Tuple)) × Table
  | [] => (.ok [], table)
  | key :: keys =>
      match change table key with
      | .error fault => (.error fault, table)
      | .ok (after, found) =>
          ((sweep change after keys).1.map (found :: ·), (sweep change after keys).2)

variable {change : KeyedChange} {table after : Table} {key : Key} {keys : List Key}
variable {found : Option Tuple} {fault : Fault}

theorem sweep_refused (h : change table key = .error fault) :
    table.sweep change (key :: keys) = (.error fault, table) := by
  rw [sweep, h]

theorem sweep_granted (h : change table key = .ok (after, found)) :
    table.sweep change (key :: keys) =
      ((after.sweep change keys).1.map (found :: ·), (after.sweep change keys).2) := by
  rw [sweep, h]

theorem sweep_cons_ok {founds : List (Option Tuple)} {last : Table}
    (h : table.sweep change (key :: keys) = (.ok founds, last)) :
    ∃ after found rest, change table key = .ok (after, found) ∧
      after.sweep change keys = (.ok rest, last) ∧ founds = found :: rest := by
  cases hchange : change table key with
  | error fault =>
      rw [sweep_refused hchange] at h
      cases h
  | ok result =>
      obtain ⟨after, found⟩ := result
      rw [sweep_granted hchange] at h
      cases hrest : after.sweep change keys with
      | mk outcome reached =>
          rw [hrest] at h
          cases outcome with
          | error fault => cases h
          | ok rest =>
              cases h
              exact ⟨after, found, rest, rfl, hrest, rfl⟩

theorem sweep_error (h : (table.sweep change keys).1 = .error fault) :
    ∃ granted key rest results, keys = granted ++ key :: rest ∧
      table.sweep change granted = (.ok results, (table.sweep change keys).2) ∧
      change (table.sweep change keys).2 key = .error fault := by
  induction keys generalizing table with
  | nil => cases h
  | cons key keys ih =>
      cases hchange : change table key with
      | error refused =>
          rw [sweep_refused hchange] at h ⊢
          cases h
          exact ⟨[], key, keys, [], rfl, rfl, hchange⟩
      | ok result =>
          obtain ⟨after, found⟩ := result
          rw [sweep_granted hchange] at h ⊢
          cases hrest : (after.sweep change keys).1 with
          | ok results =>
              rw [hrest] at h
              cases h
          | error refused =>
              rw [hrest] at h
              cases h
              obtain ⟨granted, other, rest, results, rfl, hgranted, hrefused⟩ := ih hrest
              refine ⟨key :: granted, other, rest, found :: results, rfl, ?_, hrefused⟩
              rw [sweep_granted hchange, hgranted]
              rfl

end Table

/-! ## One table in a database -/

variable {database after last : Database} {table changed : Table} {name : String}

/-- The database with the table under the name, where only the named space has changed. -/
structure Becomes (database : Database) (name : String) (table : Table) (after : Database) :
    Prop where
  table? : after.table? name = some table
  onlyIn : OnlyIn (some name) database after

theorem Becomes.refl (h : database.table? name = some table) :
    Becomes database name table database := ⟨h, .refl _ _⟩

theorem becomes_putTable (h : database.table? name = some table)
    (hspace : changed.space = table.space) :
    Becomes database name changed (database.putTable changed) where
  table? := table?_putTable h (congrArg Space.name hspace)
  onlyIn := onlyIn_putTable ((congrArg Space.name hspace).trans (table?_name h))

end Database

/-! ## Requests one after another -/

namespace Template

open Database

variable {α β ι : Type}

theorem outcome_granted {asked : Request} {answer : asked.Answer} {database after : Database}
    (h : database.handle asked = (.ok answer, after)) :
    outcome embedded (request asked : Action α asked.Answer) database = (.ok answer, after) := by
  rw [outcome_request (show embedded.handle asked database = _ from h)]
  rfl

theorem outcome_refused {asked : Request} {error : ClientError} {database after : Database}
    (h : database.handle asked = (.error error, after)) :
    outcome embedded (request asked : Action α asked.Answer) database =
      (.error (.client error), after) := by
  rw [outcome_request (show embedded.handle asked database = _ from h)]
  rfl

/-- Asking for an item results in the change of the named table at the key of the item. -/
structure Asks (name : String) (ask : ι → Action α β) (keyOf : ι → Key) (change : KeyedChange)
    (answer : Option Tuple → β) : Prop where
  refused : ∀ {database table item fault}, database.table? name = some table →
    change table (keyOf item) = .error fault →
    outcome embedded (ask item) database = (.error (.client fault.toClientError), database)
  granted : ∀ {database table item after found}, database.table? name = some table →
    change table (keyOf item) = .ok (after, found) →
    outcome embedded (ask item) database = (.ok (answer found), database.putTable after)

variable {database : Database} {table : Table} {name : String} {space : Space}
variable {ask : ι → Action α β} {keyOf : ι → Key} {change : KeyedChange}
variable {answer : Option Tuple → β}

theorem asks_update (space : Space) (primary : Index) (operations : List UpdateOperation) :
    Asks space.name (fun tuple => (request (.update space.name (primary.keyOf tuple) operations) :
      Action α (List Tuple))) primary.keyOf (fun table key => table.update key operations)
      Option.toList where
  refused htable hchange := by
    refine outcome_refused ?_
    rw [Database.handle, onTable_error htable hchange]
  granted htable hchange := by
    refine outcome_granted ?_
    rw [Database.handle, onTable_ok htable hchange]

theorem asks_delete (space : Space) (keyOf : ι → Key) :
    Asks space.name (fun item => (deleteTuple space (keyOf item) : Action α (Option Tuple)))
      keyOf Table.delete id where
  refused {database _ item fault} htable hchange := by
    have hhandle : database.handle (.delete space.name (keyOf item)) =
        (.error fault.toClientError, database) := by
      rw [Database.handle, onTable_error htable hchange]
    rw [deleteTuple]
    exact outcome_bind_error (outcome_refused hhandle)
  granted {database _ item after found} htable hchange := by
    have hhandle : database.handle (.delete space.name (keyOf item)) =
        (.ok found.toList, database.putTable after) := by
      rw [Database.handle, onTable_ok htable hchange]
    rw [deleteTuple, outcome_bind_ok (outcome_granted hhandle)]
    cases found <;> rfl

/-- The requests for some items are a sweep of the table. -/
theorem Asks.outcome_forEach (asks : Asks name ask keyOf change answer)
    (keeps : change.KeepsSpace) (htable : database.table? name = some table) (items : List ι) :
    ∃ after, Becomes database name (table.sweep change (items.map keyOf)).2 after ∧
      outcome embedded (forEach ask items) database =
        ((((table.sweep change (items.map keyOf)).1.map (List.map answer)).mapError
          fun fault => .client fault.toClientError), after) := by
  induction items generalizing database table with
  | nil => exact ⟨database, .refl htable, rfl⟩
  | cons item items ih =>
      rw [List.map_cons, forEach]
      cases hchange : change table (keyOf item) with
      | error fault =>
          rw [Table.sweep_refused hchange]
          exact ⟨database, .refl htable, outcome_bind_error (asks.refused htable hchange)⟩
      | ok result =>
          obtain ⟨changed, found⟩ := result
          have becomes := becomes_putTable htable (keeps hchange)
          obtain ⟨after, hafter, hrest⟩ := ih becomes.table?
          rw [Table.sweep_granted hchange, outcome_bind_ok (asks.granted htable hchange)]
          refine ⟨after, ⟨hafter.table?, becomes.onlyIn.trans hafter.onlyIn⟩, ?_⟩
          cases hsweep : (changed.sweep change (items.map keyOf)).1 with
          | error fault =>
              rw [hsweep] at hrest
              exact outcome_bind_error hrest
          | ok results =>
              rw [hsweep] at hrest
              exact outcome_bind_ok hrest

theorem outcome_forEach_toEntity [entity : Entity α] (space : Space) (tuples : List Tuple) :
    outcome embedded (forEach (toEntity space) tuples : Action α (List α)) database =
      ((tuples.mapM (entity.codec.fromTuple · space)).mapError .mapping, database) := by
  induction tuples with
  | nil => rfl
  | cons tuple tuples ih =>
      rw [forEach, List.mapM_cons]
      cases hread : entity.codec.fromTuple tuple space with
      | error error =>
          refine outcome_bind_error ((outcome_toEntity space tuple).trans ?_)
          rw [hread]
          rfl
      | ok value =>
          have hfirst : outcome embedded (toEntity space tuple : Action α α) database =
              (.ok value, database) := by
            rw [outcome_toEntity, hread]
            rfl
          rw [outcome_bind_ok hfirst]
          cases hrest : tuples.mapM (entity.codec.fromTuple · space) with
          | error error =>
              rw [hrest] at ih
              exact outcome_bind_error ih
          | ok values =>
              rw [hrest] at ih
              exact outcome_bind_ok ih

end Template

/-! ## Plans -/

namespace Repository

open Template Database

inductive Edit (α : Type) [entity : Entity α] where
  | update (template : Template α) (conditions : Conditions) (value : α)
  | delete (value : α)
  | deleteById (id : entity.Id)
  | deleteByConditions (conditions : Conditions)

structure Plan where
  table : Table
  keys : List Key
  change : KeyedChange

namespace Plan

def swept (plan : Plan) : Except Fault (List (Option Tuple)) × Table :=
  plan.table.sweep plan.change plan.keys

def result {α : Type} [entity : Entity α] (plan : Plan) : Except Failure (List α) := do
  let found ← plan.swept.1.mapError fun fault => .client fault.toClientError
  ((found.filterMap id).mapM (entity.codec.fromTuple · plan.table.space)).mapError .mapping

end Plan

variable {α : Type} [entity : Entity α]

theorem Plan.result_of_error {plan : Plan} {fault : Fault} (h : plan.swept.1 = .error fault) :
    plan.result (α := α) = .error (.client fault.toClientError) := by
  rw [result, h]
  rfl

theorem Plan.result_of_ok {plan : Plan} {found : List (Option Tuple)}
    (h : plan.swept.1 = .ok found) :
    plan.result (α := α) =
      ((found.filterMap id).mapM (entity.codec.fromTuple · plan.table.space)).mapError
        .mapping := by
  rw [result, h]
  rfl

theorem Plan.result_eq_ok {plan : Plan} {results : List α} (h : plan.result = .ok results) :
    ∃ found, plan.swept = (.ok found, plan.swept.2) ∧
      (found.filterMap id).mapM (entity.codec.fromTuple · plan.table.space) = .ok results := by
  cases hswept : plan.swept.1 with
  | error fault =>
      rw [Plan.result_of_error hswept] at h
      cases h
  | ok found =>
      rw [Plan.result_of_ok hswept] at h
      exact ⟨found, Prod.ext hswept rfl, mapError_eq_ok.mp h⟩

def storedTable (α : Type) [entity : Entity α] (database : Database) : Except Failure Table :=
  match database.table? entity.space with
  | none => .error (.mapping (.missingSpace entity.space))
  | some table => .ok table

def primaryIndex (table : Table) : Except Failure Index :=
  match table.space.primary? with
  | none => .error (.noPrimary table.space.name)
  | some primary => .ok primary

def selected (table : Table) (conditions : Conditions) : Except Failure (List Tuple) :=
  (table.select conditions).mapError fun fault => .client fault.toClientError

def assignments (primary : Index) (tuple : Tuple) : List UpdateOperation :=
  (updateOperations tuple).filter fun operation => !primary.parts.contains operation.position

namespace Edit

def action : Edit α → Action α (List α)
  | .update template conditions value => template.update conditions value
  | .delete value => Option.toList <$> Template.delete value
  | .deleteById id => Option.toList <$> Template.deleteById id
  | .deleteByConditions conditions => Template.deleteByConditions conditions

def plan (database : Database) : Edit α → Except Failure Plan
  | .update template conditions value => do
      let table ← storedTable α database
      let primary ← primaryIndex table
      let written := template.callbacks.runBeforeConvert table.space.name value
      let tuple ← (entity.codec.toTuple written table.space).mapError .mapping
      let matched ← selected table conditions
      return ⟨table, matched.map primary.keyOf, fun table key =>
        table.update key (assignments primary tuple)⟩
  | .delete value => do
      let key ← (Entity.key value).mapError .mapping
      return ⟨← storedTable α database, [key], Table.delete⟩
  | .deleteById id => do
      let key ← (Entity.keyOf α id).mapError .mapping
      return ⟨← storedTable α database, [key], Table.delete⟩
  | .deleteByConditions conditions => do
      let table ← storedTable α database
      let primary ← primaryIndex table
      let matched ← selected table conditions
      return ⟨table, matched.map primary.keyOf, Table.delete⟩

end Edit

/-! ## Following a plan -/

/-- The outcome of an operation which fails before its first change or follows a plan. -/
inductive Follows (database : Database) :
    Except Failure Plan → Except Failure (List α) × Database → Prop
  | stopped (failure : Failure) : Follows database (.error failure) (.error failure, database)
  | swept (plan : Plan) {after : Database}
      (becomes : Becomes database entity.space plan.swept.2 after) :
      Follows database (.ok plan) (plan.result, after)

variable {database : Database} {table : Table} {β γ : Type}

theorem Follows.bind {reading : Except Failure β} {view : β → γ} {action : Action α γ}
    {plan : β → Except Failure Plan} {next : γ → Action α (List α)}
    (h : outcome embedded action database = (reading.map view, database))
    (rest : ∀ result, reading = .ok result →
      Follows database (plan result) (outcome embedded (next (view result)) database)) :
    Follows database (reading >>= plan) (outcome embedded (action >>= next) database) := by
  cases reading with
  | error failure =>
      rw [outcome_bind_error h]
      exact .stopped failure
  | ok result =>
      rw [outcome_bind_ok h]
      exact rest result rfl

theorem outcome_metadata_eq (database : Database) :
    outcome embedded (metadata : Action α Space) database =
      ((storedTable α database).map Table.space, database) := by
  rw [storedTable]
  cases htable : database.table? entity.space with
  | some table => exact outcome_metadata htable
  | none =>
      have hhandle : database.handle (.space entity.space) = (.ok none, database) := by
        rw [Database.handle, htable]
        rfl
      rw [metadata, outcome_bind_ok (outcome_granted hhandle)]
      rfl

theorem storedTable_eq_ok (h : storedTable α database = .ok table) :
    database.table? entity.space = some table := by
  unfold storedTable at h
  split at h
  · cases h
  · cases h
    assumption

theorem primaryIndex_eq_ok {table : Table} {primary : Index}
    (h : primaryIndex table = .ok primary) : table.space.primary? = some primary := by
  unfold primaryIndex at h
  split at h
  · cases h
  · cases h
    assumption

theorem plan_update_eq_ok {template : Template α} {conditions : Conditions} {value : α}
    {plan : Plan} (h : (Edit.update template conditions value).plan database = .ok plan) :
    ∃ table primary tuple matched, database.table? entity.space = some table ∧
      table.space.primary? = some primary ∧
      entity.codec.toTuple (template.callbacks.runBeforeConvert table.space.name value)
        table.space = .ok tuple ∧
      table.select conditions = .ok matched ∧
      plan = ⟨table, matched.map primary.keyOf, fun table key =>
        table.update key (assignments primary tuple)⟩ := by
  obtain ⟨table, htable, h⟩ := bind_eq_ok.mp h
  obtain ⟨primary, hprimary, h⟩ := bind_eq_ok.mp h
  obtain ⟨tuple, htuple, h⟩ := bind_eq_ok.mp h
  obtain ⟨matched, hmatched, h⟩ := bind_eq_ok.mp h
  cases h
  exact ⟨table, primary, tuple, matched, storedTable_eq_ok htable, primaryIndex_eq_ok hprimary,
    mapError_eq_ok.mp htuple, mapError_eq_ok.mp hmatched, rfl⟩

omit entity in
theorem outcome_primaryOf (table : Table) :
    outcome embedded (primaryOf table.space : Action α Index) database =
      ((primaryIndex table).map id, database) := by
  rw [primaryOf, primaryIndex]
  cases table.space.primary? <;> rfl

omit entity in
theorem outcome_selectTuples (htable : database.table? table.space.name = some table)
    (conditions : Conditions) :
    outcome embedded (selectTuples table.space conditions : Action α (List Tuple)) database =
      ((selected table conditions).map id, database) := by
  rw [selectTuples, selected]
  cases hselect : table.select conditions with
  | error fault =>
      have hhandle : database.handle (.select table.space.name conditions) =
          (.error fault.toClientError, database) := by
        rw [Database.handle, table_of_table? htable]
        change database.commit (table.select conditions) _ = _
        rw [hselect]
        rfl
      rw [outcome_refused hhandle]
      rfl
  | ok tuples =>
      have hhandle : database.handle (.select table.space.name conditions) =
          (.ok tuples, database) := by
        rw [Database.handle, table_of_table? htable]
        change database.commit (table.select conditions) _ = _
        rw [hselect]
        rfl
      rw [outcome_granted hhandle]
      rfl

theorem outcome_prepareWrite_eq (template : Template α) (value : α) (space : Space) :
    outcome embedded (template.prepareWrite value space) database =
      (((entity.codec.toTuple (template.callbacks.runBeforeConvert space.name value)
        space).mapError .mapping).map fun tuple =>
          (template.callbacks.runBeforeSave space.name tuple
            (template.callbacks.runBeforeConvert space.name value), tuple), database) := by
  rw [prepareWrite, outcome_bind_ok (outcome_publish _ _)]
  cases entity.codec.toTuple (template.callbacks.runBeforeConvert space.name value) space <;> rfl

theorem follows_sweep {ι : Type} {ask : ι → Action α β} {keyOf : ι → Key} {change : KeyedChange}
    {answer : Option Tuple → β} {collect : List β → List Tuple}
    (asks : Asks table.space.name ask keyOf change answer) (keeps : change.KeepsSpace)
    (hcollect : ∀ found : List (Option Tuple), collect (found.map answer) = found.filterMap id)
    (htable : database.table? entity.space = some table) (items : List ι) :
    Follows database (.ok ⟨table, items.map keyOf, change⟩) (outcome embedded
      (forEach ask items >>= fun answers => forEach (toEntity table.space) (collect answers) :
        Action α (List α)) database) := by
  have hname := table?_name htable
  rw [← hname] at htable
  obtain ⟨after, becomes, houtcome⟩ := asks.outcome_forEach keeps htable items
  rw [hname] at becomes
  have follows : Follows database (.ok ⟨table, items.map keyOf, change⟩)
      (Plan.result (α := α) ⟨table, items.map keyOf, change⟩, after) := .swept _ becomes
  convert follows using 1
  let plan : Plan := ⟨table, items.map keyOf, change⟩
  change _ = ((plan.swept.1.map _).mapError _, _) at houtcome
  change _ = (plan.result, after)
  cases hswept : plan.swept.1 with
  | error fault =>
      rw [hswept] at houtcome
      rw [outcome_bind_error houtcome, Plan.result_of_error hswept]
  | ok found =>
      rw [hswept] at houtcome
      rw [outcome_bind_ok houtcome, hcollect, outcome_forEach_toEntity, Plan.result_of_ok hswept]

theorem deleteKey_eq (key : Key) :
    (Option.toList <$> deleteKey key : Action α (List α)) = (do
      let space ← metadata
      let deleted ← forEach (deleteTuple space) [key]
      forEach (toEntity space) (deleted.filterMap id)) := by
  refine (Program.bind_assoc ..).trans (congrArg (metadata (α := α) >>= ·) (funext fun space => ?_))
  refine (Program.bind_assoc ..).trans (.trans ?_ (Program.bind_assoc ..).symm)
  refine congrArg (deleteTuple (α := α) space key >>= ·) (funext fun found => ?_)
  cases found with
  | none => rfl
  | some tuple => exact Program.bind_assoc ..

theorem follows_deleteKey (database : Database) (key : Key) :
    Follows database (do return ⟨← storedTable α database, [key], Table.delete⟩)
      (outcome embedded (Option.toList <$> deleteKey key : Action α (List α)) database) := by
  rw [deleteKey_eq]
  refine .bind (outcome_metadata_eq database) fun table htable => ?_
  refine follows_sweep (asks_delete table.space (id : Key → Key)) Table.delete_space (fun found => ?_)
    (storedTable_eq_ok htable) [key]
  rw [List.map_id]

theorem follows_delete (database : Database) (key : Except MappingError Key) :
    Follows database (do
      let key ← key.mapError .mapping
      return ⟨← storedTable α database, [key], Table.delete⟩)
      (outcome embedded (Option.toList <$> (liftMapping key >>= deleteKey) : Action α (List α))
        database) := by
  have hassoc : (Option.toList <$> (liftMapping key >>= deleteKey) : Action α (List α)) =
      liftMapping key >>= fun key => Option.toList <$> deleteKey key := Program.bind_assoc ..
  have hlift : outcome embedded (liftMapping key : Action α Key) database =
      ((key.mapError .mapping).map id, database) := by
    cases key <;> rfl
  rw [hassoc]
  exact .bind hlift fun key _ => follows_deleteKey database key

theorem Edit.follows_plan (edit : Edit α) (database : Database) :
    Follows database (edit.plan database) (outcome embedded edit.action database) := by
  cases edit with
  | update template conditions value =>
      refine .bind (outcome_metadata_eq database) fun table htable => ?_
      have htable := storedTable_eq_ok htable
      refine .bind (outcome_primaryOf table) fun primary _ => ?_
      refine .bind (outcome_prepareWrite_eq template value table.space) fun tuple _ => ?_
      have hselect := outcome_selectTuples (α := α) (table?_name htable ▸ htable) conditions
      refine .bind hselect fun matched _ => ?_
      refine follows_sweep (asks_update table.space primary _) Table.update_space ?_ htable matched
      intro found
      rw [← List.flatMap_def, List.filterMap_eq_flatMap_toList]
      rfl
  | delete value => exact follows_delete database _
  | deleteById id => exact follows_delete database _
  | deleteByConditions conditions =>
      refine .bind (outcome_metadata_eq database) fun table htable => ?_
      have htable := storedTable_eq_ok htable
      refine .bind (outcome_primaryOf table) fun primary _ => ?_
      have hselect := outcome_selectTuples (α := α) (table?_name htable ▸ htable) conditions
      refine .bind hselect fun matched _ => ?_
      refine follows_sweep (asks_delete table.space primary.keyOf) Table.delete_space ?_ htable
        matched
      intro found
      rw [List.map_id]
      rfl

end Repository

end TupleStore
