import TupleStore.Proofs.Requests
import TupleStore.Proofs.SpaceNames

/-!
# Requests which stay in one space

What such a request answers, and what becomes of the space, depends on the space
alone and not on its number; the other spaces stay as they are.
-/

namespace TupleStore

namespace Database

/-! ## Numbers of spaces -/

namespace Table

def withId (table : Table) (id : UInt32) : Table := { table with space := { table.space with id } }

variable (table : Table) (id : UInt32)

theorem matching_withId (conditions : Conditions) (tuples : List Tuple) :
    conditions.matching (table.withId id).space tuples =
      conditions.matching table.space tuples := by
  have hcomparisons : ∀ tuple comparisons,
      Conditions.passesComparisons (table.withId id).space tuple comparisons =
        Conditions.passesComparisons table.space tuple comparisons := by
    intro tuple comparisons
    induction comparisons with
    | nil => rfl
    | cons comparison comparisons ih =>
        unfold Conditions.passesComparisons
        rw [ih]
        rfl
  have hmatch : ∀ tuple, conditions.isMatch (table.withId id).space tuple =
      conditions.isMatch table.space tuple := by
    intro tuple
    unfold Conditions.isMatch
    rw [hcomparisons]
    rfl
  induction tuples with
  | nil => rfl
  | cons tuple tuples ih => rw [Conditions.matching, Conditions.matching, hmatch, ih]

theorem select_withId (conditions : Conditions) :
    (table.withId id).select conditions = table.select conditions := by
  rw [select, select, Conditions.filter, Conditions.filter, matching_withId]
  rfl

theorem replace_withId (tuple : Tuple) :
    (table.withId id).replace tuple = (table.replace tuple).map (withId · id) := by
  unfold replace
  rw [show (table.withId id).checkFormat tuple = table.checkFormat tuple from rfl,
    show (table.withId id).primary = table.primary from rfl]
  cases table.checkFormat tuple with
  | error fault => rfl
  | ok _ =>
      cases table.primary with
      | error fault => rfl
      | ok primary =>
          simp only [bind, Except.bind]
          rw [show (table.withId id).find primary = table.find primary from rfl]
          cases table.find primary (primary.keyOf tuple) with
          | taken position =>
              dsimp only
              rw [show (table.withId id).checkUnique tuple
                ((table.withId id).tuples.eraseIdx position) =
                  table.checkUnique tuple (table.tuples.eraseIdx position) from rfl]
              cases table.checkUnique tuple (table.tuples.eraseIdx position) <;> rfl
          | free position =>
              dsimp only
              rw [show (table.withId id).checkUnique tuple (table.withId id).tuples =
                table.checkUnique tuple table.tuples from rfl]
              cases table.checkUnique tuple table.tuples <;> rfl

theorem delete_withId (key : Key) :
    (table.withId id).delete key =
      (table.delete key).map fun (after, tuple) => (after.withId id, tuple) := by
  unfold delete
  rw [show (table.withId id).primary = table.primary from rfl]
  cases table.primary with
  | error fault => rfl
  | ok primary =>
      simp only [bind, Except.bind]
      rw [show (table.withId id).find primary = table.find primary from rfl]
      cases table.find primary key <;> rfl

end Table

/-! ## The table of a space -/

variable {database : Database} {table after : Table} {space other : String} {β γ : Type}

def slice (space : String) (database : Database) : Option Table :=
  (database.table? space).map (·.withId 0)

theorem slice_of_table? (h : database.table? space = some table) :
    slice space database = some (table.withId 0) := by
  rw [slice, h, Option.map_some]

theorem slice_putTable (h : database.table? space = some table)
    (hname : after.space.name = table.space.name) :
    slice space (database.putTable after) = some (after.withId 0) :=
  slice_of_table? (table?_putTable h hname)

theorem slice_putTable_of_ne (h : other ≠ after.space.name) :
    slice other (database.putTable after) = slice other database := by
  have hsame : (fun table : Table => table.space.name == other) ∘
      (fun table => if table.space.name = after.space.name then after else table) =
      fun table => table.space.name == other := by
    funext table
    rw [Function.comp_apply]
    split
    next heq => rw [heq]
    next => rfl
  rw [slice, slice, Database.table?, putTable, List.find?_map, hsame, ← Database.table?]
  cases hfind : database.table? other with
  | none => rfl
  | some table =>
      have hname : table.space.name ≠ after.space.name := by
        rw [table?_name hfind]
        exact h
      rw [Option.map_some, if_neg hname]

/-- What is answered and becomes of the space is told by its table; others stay. -/
def ActsOn (space : String) (f : Database → Except ClientError β × Database) : Prop :=
  ∃ act : Option Table → Except ClientError β × Option Table, ∀ database,
    ((f database).1, slice space (f database).2) = act (slice space database) ∧
      ∀ other, other ≠ space → slice other (f database).2 = slice other database

theorem actsOn_refused (error : ClientError) :
    ActsOn space fun database => ((.error error : Except ClientError β), database) :=
  ⟨fun table => (.error error, table), fun _ => ⟨rfl, fun _ _ => rfl⟩⟩

/-- A change of a table which neither looks at the number of its space nor changes it. -/
structure KeepsId (act : Table → Except Fault (β × Table)) : Prop where
  name : ∀ table answer after, act table = .ok (answer, after) →
    after.space.name = table.space.name
  withId : ∀ table id, act (table.withId id) =
    (act table).map fun (answer, after) => (answer, after.withId id)

def changing (space : String) (act : Table → Except Fault (β × Table)) (database : Database) :
    Except ClientError β × Database :=
  match database.table? space with
  | none => (.error (Fault.unknownSpace space).toClientError, database)
  | some table =>
      match act table with
      | .error fault => (.error fault.toClientError, database)
      | .ok (answer, after) => (.ok answer, database.putTable after)

theorem actsOn_changing {act : Table → Except Fault (β × Table)} (keeps : KeepsId act) :
    ActsOn space (changing space act) := by
  refine ⟨fun
    | none => (.error (Fault.unknownSpace space).toClientError, none)
    | some table =>
        match act table with
        | .error fault => (.error fault.toClientError, some table)
        | .ok (answer, after) => (.ok answer, some after), fun database => ?_⟩
  unfold changing
  cases htable : database.table? space with
  | none => exact ⟨by simp [slice, htable], fun _ _ => rfl⟩
  | some table =>
      rw [slice_of_table? htable]
      dsimp only
      rw [keeps.withId]
      cases hact : act table with
      | error fault =>
          exact ⟨by rw [slice_of_table? htable]; rfl, fun _ _ => rfl⟩
      | ok result =>
          have hname := keeps.name table result.1 result.2 hact
          refine ⟨by rw [slice_putTable htable hname]; rfl, fun other hne => ?_⟩
          refine slice_putTable_of_ne ?_
          rw [hname, table?_name htable]
          exact hne

theorem onTable_eq {α : Type} (space : String) (change : Table → Except Fault α)
    (next : α → β × Table) (database : Database) :
    database.onTable space change next =
      changing space (fun table => (change table).map next) database := by
  unfold onTable changing Database.table
  cases database.table? space with
  | none => rfl
  | some table =>
      change database.commit (change table) _ = _
      dsimp only
      cases change table <;> rfl

theorem actsOn_onTable {α : Type} {change : Table → Except Fault α} {next : α → β × Table}
    (keeps : KeepsId fun table => (change table).map next) :
    ActsOn space fun database => database.onTable space change next := by
  simp only [onTable_eq]
  exact actsOn_changing keeps

theorem keepsId_of_change (answer : β) {change : Table → Except Fault Table}
    (name : ∀ table after, change table = .ok after → after.space.name = table.space.name)
    (withId : ∀ table id, change (table.withId id) = (change table).map (·.withId id)) :
    KeepsId fun table => (change table).map fun after => (answer, after) where
  name table given after h := by
    cases hchange : change table with
    | error fault =>
        rw [hchange] at h
        contradiction
    | ok changed =>
        rw [hchange] at h
        cases h
        exact name table after hchange
  withId table id := by
    rw [withId]
    cases change table <;> rfl

theorem commit_put_eq (answer : β) (change : Table → Except Fault Table)
    (database : Database) :
    database.commit (database.table space >>= fun table => (change table).map database.putTable)
        (fun after => (answer, after)) =
      changing space (fun table => (change table).map fun after => (answer, after)) database := by
  unfold changing Database.table
  cases database.table? space with
  | none => rfl
  | some table =>
      change database.commit ((change table).map database.putTable) _ = _
      dsimp only
      cases change table <;> rfl

theorem commit_read_eq (outcome : Except Fault β) (database : Database) :
    database.commit outcome (fun answer => (answer, database)) =
      (outcome.mapError Fault.toClientError, database) := by
  cases outcome <;> rfl

theorem actsOn_reading {read : Table → Except Fault β}
    (h : ∀ table id, read (table.withId id) = read table) :
    ActsOn space fun database =>
      database.commit (database.table space >>= read) fun answer => (answer, database) := by
  refine ⟨fun table => (((table.elim (.error (.unknownSpace space)) read).mapError
    Fault.toClientError), table), fun database => ?_⟩
  dsimp only
  rw [commit_read_eq]
  refine ⟨?_, fun _ _ => rfl⟩
  unfold slice Database.table
  cases database.table? space with
  | none => rfl
  | some table =>
      rw [Option.map_some, Option.elim_some, h]
      rfl

/-! ## Requests -/

theorem actsOn_put (answer : β) (change : Table → Except Fault Table)
    (name : ∀ table after, change table = .ok after → after.space.name = table.space.name)
    (withId : ∀ table id, change (table.withId id) = (change table).map (·.withId id)) :
    ActsOn space fun database => database.commit
      (database.table space >>= fun table => (change table).map database.putTable)
      fun after => (answer, after) := by
  rw [show (fun database : Database => database.commit
      (database.table space >>= fun table => (change table).map database.putTable)
      fun after => (answer, after)) = changing space fun table => (change table).map (answer, ·)
    from funext (commit_put_eq answer change)]
  exact actsOn_changing (keepsId_of_change answer name withId)

theorem actsOn_truncate (answer : β) :
    ActsOn space fun database =>
      database.commit (database.truncate space) fun after => (answer, after) := by
  refine actsOn_put answer (fun table => .ok { table with tuples := [] })
    (fun table after h => ?_) fun _ _ => rfl
  cases h
  rfl

theorem actsOn_setFormat (answer : β) (arguments : List Value) :
    ActsOn space fun database =>
      database.commit (database.setFormat space arguments) fun after => (answer, after) := by
  unfold setFormat
  split
  next fields _ =>
    cases hformat : fields.mapM readField with
    | error fault => exact actsOn_refused fault.toClientError
    | ok format =>
        refine actsOn_put answer
          (fun table => .ok { table with space := { table.space with format } })
          (fun table after h => ?_) fun _ _ => rfl
        cases h
        rfl
  next => exact actsOn_refused (Fault.toClientError _)

def addIndex (name : String) (options : Value) (table : Table) : Except Fault Table :=
  (readIndex table.space name options).map fun index =>
    { table with space := { table.space with indexes := table.space.indexes ++ [index] } }

theorem createIndex_eq (database : Database) (space : String) (arguments : List Value) :
    database.createIndex space arguments =
      match arguments.head?.bind Value.text? with
      | some name => database.table space >>= fun table =>
          (addIndex name (arguments.getD 1 (.map [])) table).map database.putTable
      | none => .error (.malformedArguments "create_index expects an index name") := by
  unfold createIndex
  cases arguments.head?.bind Value.text? with
  | none => rfl
  | some name =>
      refine congrArg (database.table space >>= ·) (funext fun table => ?_)
      unfold addIndex
      cases readIndex table.space name (arguments.getD 1 (.map [])) <;> rfl

theorem actsOn_createIndex (answer : β) (arguments : List Value) :
    ActsOn space fun database =>
      database.commit (database.createIndex space arguments) fun after => (answer, after) := by
  simp only [createIndex_eq]
  cases arguments.head?.bind Value.text? with
  | none => exact actsOn_refused (Fault.toClientError _)
  | some name =>
      refine actsOn_put answer (addIndex name (arguments.getD 1 (.map [])))
        (fun table after h => ?_) fun table id => ?_
      · unfold addIndex at h
        cases hindex : readIndex table.space name (arguments.getD 1 (.map [])) with
        | error fault =>
            rw [hindex] at h
            contradiction
        | ok index =>
            rw [hindex] at h
            cases h
            rfl
      · unfold addIndex
        rw [show readIndex (table.withId id).space = readIndex table.space from rfl]
        cases readIndex table.space name (arguments.getD 1 (.map [])) <;> rfl

theorem actsOn_dropSpace (answer : β) :
    ActsOn space fun database =>
      database.commit (database.dropSpace space) fun after => (answer, after) := by
  refine ⟨fun
    | none => (.error (Fault.unknownSpace space).toClientError, none)
    | some _ => (.ok answer, none), fun database => ?_⟩
  dsimp only
  cases htable : database.table? space with
  | none =>
      have hdrop : database.dropSpace space = .error (.unknownSpace space) := by
        rw [dropSpace, Database.table, htable]
        rfl
      have hslice : slice space database = none := by rw [slice, htable, Option.map_none]
      rw [hdrop, hslice]
      exact ⟨congrArg (_, ·) hslice, fun _ _ => rfl⟩
  | some table =>
      have hdrop : database.dropSpace space = .ok { database with
          tables := database.tables.filter fun table => table.space.name != space } := by
        rw [dropSpace, table_of_table? htable]
        rfl
      rw [hdrop, slice_of_table? htable]
      refine ⟨?_, fun other hne => ?_⟩
      · change (_, Option.map _ (List.find? _ (List.filter _ database.tables))) = _
        rw [List.find?_filter, List.find?_eq_none.mpr (by simp)]
        rfl
      · change Option.map _ (List.find? _ (List.filter _ database.tables)) =
          Option.map _ (List.find? _ database.tables)
        rw [List.find?_filter]
        congr 2
        funext table
        rw [Bool.eq_iff_iff]
        simp only [bne_iff_ne, ne_eq, beq_iff_eq, decide_eq_true_eq]
        exact ⟨And.right, fun hname => ⟨fun hspace => hne (hname.symm.trans hspace), hname⟩⟩

theorem actsOn_createSpace (answer : β) :
    ActsOn space fun database =>
      database.commit (database.createSpace { id := 0, name := space } []) fun after =>
        (answer, after) := by
  refine ⟨fun
    | none => (.ok answer, some ⟨⟨0, space, [], []⟩, []⟩)
    | some table => (.error (Fault.spaceExists space).toClientError, some table),
    fun database => ?_⟩
  dsimp only
  cases htable : database.table? space with
  | none =>
      have hcreate : database.createSpace { id := 0, name := space } [] = .ok { database with
          tables := database.tables ++ [⟨⟨database.nextId, space, [], []⟩, []⟩]
          nextId := database.nextId + 1 } := by
        rw [createSpace, htable]
        rfl
      have hslice : slice space database = none := by rw [slice, htable, Option.map_none]
      rw [hcreate, hslice]
      refine ⟨?_, fun other hne => ?_⟩
      · exact congrArg (_, ·) (slice_of_table? (Cache.table?_append htable _ rfl _))
      · change Option.map _ (List.find? _ (database.tables ++ [_])) = _
        rw [List.find?_append, List.find?_singleton, if_neg (by simpa using hne.symm),
          Option.or_none]
        rfl
  | some table =>
      have hcreate : database.createSpace { id := 0, name := space } [] =
          .error (.spaceExists space) := by
        rw [createSpace, htable]
        rfl
      rw [hcreate, slice_of_table? htable]
      exact ⟨congrArg (_, ·) (slice_of_table? htable), fun _ _ => rfl⟩

theorem actsOn_runMethod (answer : β) (method : String) (arguments : List Value) :
    ActsOn space fun database =>
      database.commit (database.runMethod space method arguments) fun after =>
        (answer, after) := by
  unfold runMethod
  split
  · exact actsOn_truncate answer
  · exact actsOn_dropSpace answer
  · exact actsOn_setFormat answer arguments
  · exact actsOn_createIndex answer arguments
  · exact actsOn_refused _

theorem keepsId_delete (key : Key) :
    KeepsId fun table => (table.delete key).map fun (after, tuple) => (tuple.toList, after) where
  name table answer after h := by
    cases hdelete : table.delete key with
    | error fault =>
        rw [hdelete] at h
        contradiction
    | ok result =>
        rw [hdelete] at h
        cases h
        exact (Table.change_of_delete hdelete).same_name
  withId table id := by
    rw [Table.delete_withId]
    cases table.delete key <;> rfl

end Database

open Database

/-- The request names the space, itself or in an expression, and looks at no other. -/
def Request.IsOn (space : String) : Request → Prop
  | .refreshMetadata => True
  | .select other _ | .replace other _ | .delete other _ | .truncate other => other = space
  | .call function _ => ∃ method, spaceMethod? function.toList = some (space, method)
  | .eval expression _ =>
      createdSpace? (strip expression) = some space ∨
        createdSpace? (strip expression) = none ∧
          ∃ method, (Text.dropSuffix? "()".toList (strip expression)).bind spaceMethod? =
            some (space, method)
  | _ => False

theorem Database.actsOn_handle {space : String} {asked : Request} (h : asked.IsOn space) :
    ActsOn space (embedded.handle asked) := by
  cases asked with
  | refreshMetadata => exact ⟨fun table => (.ok (), table), fun _ => ⟨rfl, fun _ _ => rfl⟩⟩
  | select other conditions =>
      cases h
      exact actsOn_reading fun table id => Table.select_withId table id conditions
  | replace other tuple =>
      cases h
      exact actsOn_onTable (keepsId_of_change [tuple]
        (fun _ _ h => (Table.change_of_replace h).same_name)
        fun table id => Table.replace_withId table id tuple)
  | delete other key =>
      cases h
      exact actsOn_onTable (keepsId_delete key)
  | truncate other =>
      cases h
      exact actsOn_truncate ()
  | call function arguments =>
      obtain ⟨method, hmethod⟩ := h
      rw [show embedded.handle (.call function arguments) = fun database => database.commit
          (database.runMethod space method arguments) fun after => ([], after) from
        funext fun database => by simp only [embedded, Database.handle, hmethod]]
      exact actsOn_runMethod [] method arguments
  | eval expression arguments =>
      rcases h with hcreated | ⟨hcreated, method, hmethod⟩
      · rw [show embedded.handle (.eval expression arguments) = fun database => database.commit
            (database.createSpace { id := 0, name := space } []) fun after => ([], after) from
          funext fun database => by simp only [embedded, Database.handle, evaluate, hcreated]]
        exact actsOn_createSpace []
      · rw [show embedded.handle (.eval expression arguments) = fun database => database.commit
            (database.runMethod space method []) fun after => ([], after) from
          funext fun database => by
            simp only [embedded, Database.handle, evaluate, hcreated, hmethod]]
        exact actsOn_runMethod [] method []
  | space | insert | update | upsert => exact h.elim

end TupleStore
