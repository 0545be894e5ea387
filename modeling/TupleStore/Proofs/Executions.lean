import TupleStore.Proofs.QueryParameters
import TupleStore.Proofs.Updating

/-!
# Executions of a query

The same query can count the entities it matches, tell whether there are any, return the
first or all of them, or delete them.  All of this comes from one selection of tuples: the
deletion asks for one key after another, but each selected tuple is still found at its own
key.
-/

namespace TupleStore

/-! ## Deletions one after another -/

namespace Database.Table

variable {table : Table} {primary : Index} {tuple : Tuple}

theorem delete_stored (inOrder : table.InOrder)
    (hprimary : table.space.primary? = some primary) (hmem : tuple ∈ table.tuples) :
    table.delete (primary.keyOf tuple) =
      .ok ({ table with tuples := table.tuples.filter (· ≠ tuple) }, some tuple) := by
  obtain ⟨position, hfind, hget⟩ := find_stored inOrder hprimary hmem
  obtain ⟨hlt, hsame⟩ := List.getElem?_eq_some_iff.mp hget
  have nodup : table.tuples.Nodup := (inOrder.nodup_keys hprimary).of_map
  have herase : table.tuples.eraseIdx position = table.tuples.filter (· ≠ tuple) := by
    rw [← nodup.erase_getElem position hlt, hsame, nodup.erase_eq_filter]
    refine List.filter_congr fun other _ => ?_
    rw [bne, beq_eq_decide, decide_not]
  rw [Table.delete, primary_bind hprimary, hfind]
  dsimp only
  rw [hget, herase]
  rfl

theorem sweep_deletes (inOrder : table.InOrder)
    (hprimary : table.space.primary? = some primary) {pending : List Tuple}
    (nodup : pending.Nodup) (part : pending ⊆ table.tuples) :
    table.sweep Table.delete (pending.map primary.keyOf) =
      (.ok (pending.map some),
        { table with tuples := table.tuples.filter (· ∉ pending) }) := by
  induction pending generalizing table with
  | nil => simp [sweep]
  | cons tuple pending ih =>
      obtain ⟨hapart, nodup⟩ := List.nodup_cons.mp nodup
      obtain ⟨hmem, part⟩ := List.cons_subset.mp part
      have hpart : pending ⊆ table.tuples.filter (· ≠ tuple) := by
        intro other hother
        refine List.mem_filter.mpr ⟨part hother, decide_eq_true ?_⟩
        rintro rfl
        exact hapart hother
      have hkept : (table.tuples.filter (· ≠ tuple)).filter (· ∉ pending) =
          table.tuples.filter (· ∉ tuple :: pending) := by
        rw [List.filter_filter]
        exact List.filter_congr fun other _ => by simp [Bool.and_comm]
      rw [List.map_cons, sweep_granted (delete_stored inOrder hprimary hmem),
        ih (inOrder.remove List.filter_sublist) hprimary nodup hpart, hkept]
      rfl

end Database.Table

/-! ## Executions -/

namespace MethodQuery

variable {query : MethodQuery} {parameters : List Value}

def conditions (query : MethodQuery) (parameters : List Value) : Conditions :=
  { limit := query.limit, comparisons := bindParts query.parts parameters }

def matched (query : MethodQuery) (parameters : List Value) (table : Database.Table) :
    List Tuple :=
  upTo query.limit (table.tuples.filter fun tuple =>
    AllHold query.parts parameters table.space tuple)

theorem bind_conditions (query : MethodQuery) (h : parameters.length = query.parameterCount) :
    query.bind parameters = .ok (query.conditions parameters) := if_pos h

theorem select_conditions {table : Database.Table}
    (known : ∀ part ∈ query.parts, part.field ∈ table.space.fieldNames)
    (h : parameters.length = query.parameterCount) :
    table.select (query.conditions parameters) = .ok (query.matched parameters table) := by
  have enough : Part.taken query.parts ≤ parameters.length :=
    Nat.le_of_eq (h.trans query.parameterCount_eq).symm
  rw [Database.Table.select, Conditions.filter, Conditions.matching_eq_filter fun tuple _ =>
    isMatch_bindParts rfl rfl known enough tuple]
  rw [matched, conditions]
  cases query.limit <;> rfl

theorem matched_subset {table : Database.Table} :
    query.matched parameters table ⊆ table.tuples := by
  rw [matched, upTo]
  cases query.limit with
  | none => exact List.filter_sublist.subset
  | some limit => exact ((List.take_sublist limit _).trans List.filter_sublist).subset

end MethodQuery

namespace Repository

open Template Database

variable {α : Type} [entity : Entity α]
variable {database : Database} {table : Table} {conditions : Conditions} {selected : List Tuple}
variable {values : List α}

theorem outcome_selected (htable : database.table? entity.space = some table)
    (hselect : table.select conditions = .ok selected) :
    outcome embedded (selectTuples table.space conditions : Action α (List Tuple)) database =
      (.ok selected, database) := by
  rw [outcome_selectTuples (table?_name htable ▸ htable), Repository.selected, hselect]
  rfl

theorem outcome_select (htable : database.table? entity.space = some table)
    (hselect : table.select conditions = .ok selected)
    (hread : selected.mapM (entity.codec.fromTuple · table.space) = .ok values) :
    outcome embedded (Template.select conditions : Action α (List α)) database =
      (.ok values, database) := by
  rw [Template.select, outcome_bind_ok (outcome_metadata htable),
    outcome_bind_ok (outcome_selected htable hselect), outcome_forEach_toEntity, hread]
  rfl

theorem outcome_count (htable : database.table? entity.space = some table)
    (hselect : table.select conditions = .ok selected) :
    outcome embedded (Template.count conditions : Action α Nat) database =
      (.ok selected.length, database) := by
  rw [Template.count, outcome_bind_ok (outcome_metadata htable),
    outcome_bind_ok (outcome_selected htable hselect)]
  rfl

theorem outcome_selectOne (htable : database.table? entity.space = some table)
    (hselect : table.select conditions = .ok selected)
    (hread : selected.mapM (entity.codec.fromTuple · table.space) = .ok values) :
    outcome embedded (Template.selectOne conditions : Action α (Option α)) database =
      (.ok values.head?, database) := by
  rw [Template.selectOne, outcome_bind_ok (outcome_metadata htable),
    outcome_bind_ok (outcome_selected htable hselect)]
  cases selected with
  | nil =>
      cases hread
      rfl
  | cons tuple rest =>
      rw [List.mapM_cons] at hread
      obtain ⟨first, hfirst, hread⟩ := bind_eq_ok.mp hread
      obtain ⟨_, _, hread⟩ := bind_eq_ok.mp hread
      cases hread
      dsimp only
      rw [outcome_map, outcome_toEntity, hfirst]
      rfl

theorem outcome_deleteByConditions {primary : Index} (inOrder : table.InOrder)
    (htable : database.table? entity.space = some table)
    (hprimary : table.space.primary? = some primary)
    (hselect : table.select conditions = .ok selected)
    (hread : selected.mapM (entity.codec.fromTuple · table.space) = .ok values) :
    ∃ after, Becomes database entity.space
        { table with tuples := table.tuples.filter (· ∉ selected) } after ∧
      outcome embedded (Template.deleteByConditions conditions : Action α (List α)) database =
        (.ok values, after) := by
  have follows := (Edit.deleteByConditions (α := α) conditions).follows_plan database
  have hplan : (Edit.deleteByConditions (α := α) conditions).plan database =
      .ok ⟨table, selected.map primary.keyOf, Table.delete⟩ := by
    rw [Edit.plan, storedTable, htable, ok_bind, primaryIndex, hprimary, ok_bind,
      Repository.selected, hselect]
    rfl
  obtain ⟨nodup, part⟩ := nodup_of_select (inOrder.nodup_keys hprimary).of_map hselect
  have hswept : Plan.swept ⟨table, selected.map primary.keyOf, Table.delete⟩ =
      (.ok (selected.map some),
        { table with tuples := table.tuples.filter (· ∉ selected) }) :=
    Table.sweep_deletes inOrder hprimary nodup part
  rw [hplan] at follows
  change Follows (α := α) database _
    (outcome embedded (Template.deleteByConditions conditions) database) at follows
  generalize outcome embedded (Template.deleteByConditions conditions : Action α (List α))
    database = answer at follows ⊢
  cases follows with
  | @swept _ after becomes =>
      rw [hswept] at becomes
      refine ⟨after, becomes, ?_⟩
      rw [Plan.result_of_ok (congrArg Prod.fst hswept), List.filterMap_map, Function.id_comp,
        List.filterMap_some, hread]
      rfl

theorem outcome_deleteByConditions_noPrimary
    (htable : database.table? entity.space = some table)
    (hprimary : table.space.primary? = none) :
    outcome embedded (Template.deleteByConditions conditions : Action α (List α)) database =
      (.error (.noPrimary table.space.name), database) := by
  rw [Template.deleteByConditions, outcome_bind_ok (outcome_metadata htable)]
  refine outcome_bind_error ?_
  rw [outcome_primaryOf, primaryIndex, hprimary]
  rfl

def perform (conditions : Conditions) : Execution → Action α (QueryResult α)
  | .count => .count <$> Template.count conditions
  | .exists => (fun found => .exists found.isSome) <$> Template.selectOne conditions
  | .delete => .deleted <$> Template.deleteByConditions conditions
  | .collection => .collection <$> Template.select conditions
  | .single => .single <$> Template.selectOne conditions

variable {query : MethodQuery} {parameters : List Value}

def executed (α : Type) [Entity α] (query : MethodQuery) (parameters : List Value)
    (database : Database) (execution : Execution) : Except Failure (QueryResult α) × Database :=
  outcome embedded (execute { query with execution } parameters) database

theorem executed_eq (h : parameters.length = query.parameterCount) (execution : Execution) :
    executed α query parameters database execution =
      outcome embedded (perform (query.conditions parameters) execution) database := by
  have hbind : outcome embedded (liftUsage ({ query with execution }.bind parameters) :
      Action α Conditions) database = (.ok (query.conditions parameters), database) := by
    rw [MethodQuery.bind_conditions { query with execution } h]
    rfl
  rw [executed, execute, outcome_bind_ok hbind]
  cases execution <;> rfl

/-- The executions which read result in these entities, or in what there is to say of them. -/
structure Finds (query : MethodQuery) (parameters : List Value) (database : Database)
    (values : List α) : Prop where
  collection : executed α query parameters database .collection =
    (.ok (.collection values), database)
  count : executed α query parameters database .count = (.ok (.count values.length), database)
  nonempty : executed α query parameters database .exists =
    (.ok (.exists !values.isEmpty), database)
  single : executed α query parameters database .single =
    (.ok (.single values.head?), database)

theorem finds_of_select (h : parameters.length = query.parameterCount)
    (htable : database.table? entity.space = some table)
    (hselect : table.select (query.conditions parameters) = .ok selected)
    (hread : selected.mapM (entity.codec.fromTuple · table.space) = .ok values) :
    Finds query parameters database values where
  collection := by
    rw [executed_eq h, perform, outcome_map, outcome_select htable hselect hread]
    rfl
  count := by
    rw [executed_eq h, perform, outcome_map, outcome_count htable hselect, length_of_mapM hread]
    rfl
  nonempty := by
    rw [executed_eq h, perform, outcome_map, outcome_selectOne htable hselect hread]
    cases values <;> rfl
  single := by
    rw [executed_eq h, perform, outcome_map, outcome_selectOne htable hselect hread]
    rfl

/--
In any database reached without floating point numbers in primary keys whose tuples read as
entities, the executions of a query agree: what is counted, told of or returned first are the
entities which are returned together.  Just these are deleted, and the other tuples stay in
their order, unless the space has no primary index: then it is empty, and there is nothing to
delete by.
-/
theorem executions_agree {operations : List Operation} {table : Table} (query : MethodQuery)
    (parameters : List Value) (reached : ({} : History).KeysFloatFree operations) :
    let before := (({} : History).run operations).database
    before.table? entity.space = some table →
    (∀ tuple ∈ table.tuples, ∃ value : α, entity.codec.fromTuple tuple table.space = .ok value) →
    (∀ part ∈ query.parts, part.field ∈ table.space.fieldNames) →
    parameters.length = query.parameterCount →
      let matched := query.matched parameters table
      let deleting := executed α query parameters before .delete
      ∃ values : List α, matched.mapM (entity.codec.fromTuple · table.space) = .ok values ∧
        Finds query parameters before values ∧
        (∀ primary, table.space.primary? = some primary →
          deleting.1 = .ok (.deleted values) ∧ Becomes before entity.space
            { table with tuples := table.tuples.filter (· ∉ matched) } deleting.2) ∧
        (table.space.primary? = none → table.tuples = [] ∧
          deleting = (.error (.noPrimary table.space.name), before)) := by
  intro before htable reads known hcount matched deleting
  have inOrder : table.InOrder := History.inOrder_run reached
    (fun table h => absurd h List.not_mem_nil) table (table?_mem htable)
  have hselect : table.select (query.conditions parameters) = .ok matched :=
    MethodQuery.select_conditions known hcount
  obtain ⟨values, hread⟩ := exists_mapM_ok fun tuple htuple =>
    reads tuple (MethodQuery.matched_subset htuple)
  have hdeleting : deleting = _ := executed_eq hcount .delete
  refine ⟨values, hread, finds_of_select hcount htable hselect hread, ?_, ?_⟩
  · intro primary hprimary
    obtain ⟨after, becomes, houtcome⟩ :=
      outcome_deleteByConditions inOrder htable hprimary hselect hread
    rw [hdeleting, perform, outcome_map, houtcome]
    exact ⟨rfl, becomes⟩
  · intro hprimary
    refine ⟨?_, ?_⟩
    · by_contra hne
      obtain ⟨primary, hsome⟩ := inOrder.primary hne
      rw [table.keyed_primary?, hprimary] at hsome
      cases hsome
    · rw [hdeleting, perform, outcome_map, outcome_deleteByConditions_noPrimary htable hprimary]
      rfl

open Sample

def discussed : Table where
  space := ⟨512, "comment", [⟨"post", "unsigned", false⟩, ⟨"seq", "unsigned", false⟩,
    ⟨"body", "string", false⟩], [⟨0, "primary", true, [0, 1]⟩]⟩
  tuples := [[.int 1, .int 1, .text "a"], [.int 1, .int 2, .text "b"],
    [.int 1, .int 3, .text "c"], [.int 2, .int 1, .text "d"]]

def topTwo : MethodQuery where
  method := "deleteTop2ByPost"
  execution := .delete
  limit := some 2
  parts := [⟨"post", .equals⟩]

theorem executions_agree_comments :
    let operations := [Operation.createSpace discussed.space discussed.tuples]
    let before := (({} : History).run operations).database
    let deleting := executed Comment topTwo [.int 1] before .delete
    ({} : History).KeysFloatFree operations ∧ before.table? "comment" = some discussed ∧
      Finds topTwo [.int 1] before [(⟨⟨1, 1⟩, "a"⟩ : Comment), ⟨⟨1, 2⟩, "b"⟩] ∧
      deleting.1 = .ok (.deleted [⟨⟨1, 1⟩, "a"⟩, ⟨⟨1, 2⟩, "b"⟩]) ∧
      (deleting.2.table? "comment").map Table.tuples =
        some [[.int 1, .int 3, .text "c"], [.int 2, .int 1, .text "d"]] := by
  intro operations before deleting
  have reached : ({} : History).KeysFloatFree operations := by decide +kernel
  have htable : before.table? "comment" = some discussed := by decide +kernel
  have reads : ∀ tuple ∈ discussed.tuples, ∃ value : Comment,
      Entity.codec.fromTuple tuple discussed.space = .ok value := by
    simp only [discussed, List.forall_mem_cons]
    exact ⟨⟨⟨⟨1, 1⟩, "a"⟩, by decide +kernel⟩, ⟨⟨⟨1, 2⟩, "b"⟩, by decide +kernel⟩,
      ⟨⟨⟨1, 3⟩, "c"⟩, by decide +kernel⟩, ⟨⟨⟨2, 1⟩, "d"⟩, by decide +kernel⟩, nofun⟩
  have known : ∀ part ∈ topTwo.parts, part.field ∈ discussed.space.fieldNames := by decide
  obtain ⟨values, hvalues, finds, deletes, -⟩ :=
    executions_agree topTwo [.int 1] reached htable reads known rfl
  have hmatched : topTwo.matched [.int 1] discussed =
      [[.int 1, .int 1, .text "a"], [.int 1, .int 2, .text "b"]] := by decide +kernel
  rw [hmatched] at hvalues deletes
  cases hvalues.symm.trans (show _ =
    .ok [(⟨⟨1, 1⟩, "a"⟩ : Comment), ⟨⟨1, 2⟩, "b"⟩] by decide +kernel)
  obtain ⟨hdeleted, becomes⟩ := deletes ⟨0, "primary", true, [0, 1]⟩ (by decide)
  have hafter : deleting.2.table? "comment" = _ := becomes.table?
  refine ⟨reached, htable, finds, hdeleted, ?_⟩
  rw [hafter]
  decide +kernel

/-- A space for users which has no index, and so no tuples. -/
def unindexed : Table where
  space := ⟨512, "users", [⟨"id", "unsigned", false⟩, ⟨"name", "string", false⟩,
    ⟨"email", "string", true⟩], []⟩
  tuples := []

def byName : MethodQuery where
  method := "findByName"
  execution := .collection
  limit := none
  parts := [⟨"name", .equals⟩]

def byPost : MethodQuery where
  method := "findByPost"
  execution := .collection
  limit := none
  parts := [⟨"post", .equals⟩]

/--
Without an index, the deletion fails where the others find nothing; out of order, it does
not find the comment which they find.
-/
theorem not_executions_agree :
    (let operations := [Operation.createSpace unindexed.space unindexed.tuples]
      let before := (({} : History).run operations).database
      ({} : History).KeysFloatFree operations ∧ before.table? "users" = some unindexed ∧
        (∀ part ∈ byName.parts, part.field ∈ unindexed.space.fieldNames) ∧
        byName.parameterCount = 1 ∧
        executed User byName [.text "ann"] before .collection = (.ok (.collection []), before) ∧
        executed User byName [.text "ann"] before .delete =
          (.error (.noPrimary "users"), before)) ∧
    (let before := (({} : History).run History.disordering).database
      let space := History.disordered.space
      before.table? "comment" = some History.disordered ∧ History.disordered.FloatFree ∧
        (∀ tuple ∈ History.disordered.tuples,
          (Entity.codec.fromTuple tuple space : Except _ Comment).isOk = true) ∧
        (∀ part ∈ byPost.parts, part.field ∈ space.fieldNames) ∧ byPost.parameterCount = 1 ∧
        executed Comment byPost [.int 6] before .collection =
          (.ok (.collection [⟨⟨6, 3⟩, "d"⟩]), before) ∧
        executed Comment byPost [.int 6] before .delete = (.ok (.deleted []), before)) := by
  decide +kernel

end Repository

end TupleStore
