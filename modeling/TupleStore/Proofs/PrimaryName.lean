import TupleStore.Proofs.PrimaryKeys

/-!
# The primary index by its name

A selection by primary key looks for an index with the name `primary`, a deletion for
the index with number 0.  Both speak of the same tuples as long as the index which has
the name begins with the fields of the primary one.
-/

namespace TupleStore.Database

/-! ## What a deletion removes -/

section

variable {table : Table} {primary named : Index} {key : Key}

/-- A deletion removes the tuples with the key, of which there is at most one. -/
theorem delete_hasKey (inOrder : table.InOrder) (hprimary : table.space.primary? = some primary)
    (hkey : Value.floatFreeKey key = true) :
    ∃ rest found, table.delete key = .ok ({ table with tuples := rest }, found) ∧
      table.tuples.filter (Heap.hasKey primary key) = found.toList ∧
      table.tuples.Perm (found.toList ++ rest) := by
  have holds := inOrder.holds hprimary
  rw [Table.delete, Table.primary_bind hprimary]
  cases hfind : table.find primary key with
  | free position =>
      refine ⟨table.tuples, none, rfl, ?_, .refl _⟩
      exact List.filter_eq_nil_iff.mpr (List.find?_eq_none.mp (holds.find_free hkey hfind).1)
  | taken position =>
      obtain ⟨tuple, hget, hprobe⟩ := search_taken hfind
      have hprobe : Heap.hasKey primary key tuple = true := Holds.hasKey_iff.mpr hprobe
      -- the keys are in order, so that no other tuple has this one
      have hnone : (table.tuples.eraseIdx position).filter (Heap.hasKey primary key) = [] :=
        List.filter_eq_nil_iff.mpr fun other hother =>
          Bool.eq_false_iff.mp (holds.hasKey_others hkey hget hprobe other hother)
      have hperm : table.tuples.Perm (tuple :: table.tuples.eraseIdx position) := by
        obtain ⟨hlt, rfl⟩ := List.getElem?_eq_some_iff.mp hget
        exact (List.getElem_cons_eraseIdx_perm hlt).symm
      refine ⟨table.tuples.eraseIdx position, some tuple, by rw [← hget]; rfl, ?_, hperm⟩
      have hfilter := hperm.filter (Heap.hasKey primary key)
      rw [List.filter_cons_of_pos hprobe, hnone] at hfilter
      exact List.perm_singleton.mp hfilter

/-! ## What a selection finds -/

theorem select_named (hindex : table.space.index? "primary" = some named) (key : Key) :
    table.select (.primaryKey key) =
      .ok (table.tuples.filter (Conditions.IndexQuery.passes ⟨"primary", .equal, key⟩ named)) := by
  have hmatch : ∀ tuple ∈ table.tuples,
      (Conditions.primaryKey key).isMatch table.space tuple =
        .ok (Conditions.IndexQuery.passes ⟨"primary", .equal, key⟩ named tuple) := by
    intro tuple _
    simp only [Conditions.isMatch, Conditions.primaryKey, Conditions.indexEquals,
      Conditions.andIndex, Conditions.any, hindex, Conditions.passesComparisons]
    cases Conditions.IndexQuery.passes ⟨"primary", .equal, key⟩ named tuple <;> rfl
  rw [Table.select, Conditions.filter, Conditions.matching_eq_filter hmatch]
  rfl

theorem passes_eq_hasKey (hparts : primary.parts <+: named.parts)
    (hlength : key.length = primary.parts.length) :
    Conditions.IndexQuery.passes ⟨"primary", .equal, key⟩ named = Heap.hasKey primary key := by
  funext tuple
  rw [Conditions.IndexQuery.passes, hlength, Index.keyOf, ← List.map_take,
    ← List.prefix_iff_eq_take.mp hparts]
  rfl

theorem select_primaryKey (hindex : table.space.index? "primary" = some named)
    (hparts : primary.parts <+: named.parts) (hlength : key.length = primary.parts.length) :
    table.select (.primaryKey key) = .ok (table.tuples.filter (Heap.hasKey primary key)) := by
  rw [select_named hindex, passes_eq_hasKey hparts hlength]

end

/-! ## The two requests -/

/-- The selection by primary key finds what the deletion by the key removes, none or one. -/
def SelectsRemoved (database : Database) (space : String) (key : Key) : Prop :=
  ∃ table rows rest, database.table? space = some table ∧
    database.handle (.select space (.primaryKey key)) = (.ok rows, database) ∧
    database.handle (.delete space key) =
      (.ok rows, database.putTable { table with tuples := rest }) ∧
    table.tuples.Perm (rows ++ rest) ∧ rows.length ≤ 1

section

variable {database : Database} {table : Table} {space : String} {primary named : Index}
variable {key : Key}

theorem handle_select_ok {rows : List Tuple} {conditions : Conditions}
    (htable : database.table? space = some table) (hselect : table.select conditions = .ok rows) :
    database.handle (.select space conditions) = (.ok rows, database) := by
  rw [Database.handle, table_of_table? htable]
  change database.commit (table.select conditions) _ = _
  rw [hselect]
  rfl

theorem selectsRemoved_of_prefix (htable : database.table? space = some table)
    (inOrder : table.InOrder) (hprimary : table.space.primary? = some primary)
    (hindex : table.space.index? "primary" = some named) (hparts : primary.parts <+: named.parts)
    (hlength : key.length = primary.parts.length) (hkey : Value.floatFreeKey key = true) :
    SelectsRemoved database space key := by
  obtain ⟨rest, found, hdelete, hfilter, hperm⟩ := delete_hasKey inOrder hprimary hkey
  have hselect := select_primaryKey hindex hparts hlength
  rw [hfilter] at hselect
  refine ⟨table, found.toList, rest, htable, handle_select_ok htable hselect, ?_, hperm, ?_⟩
  · rw [Database.handle, onTable_ok htable hdelete]
  · cases found <;> simp

theorem SelectsRemoved.passes {tuple : Tuple} (selects : SelectsRemoved database space key)
    (htable : database.table? space = some table) (inOrder : table.InOrder)
    (hprimary : table.space.primary? = some primary)
    (hindex : table.space.index? "primary" = some named) (hkey : Value.floatFreeKey key = true)
    (hmem : tuple ∈ table.tuples) (htuple : Heap.hasKey primary key tuple = true) :
    Conditions.IndexQuery.passes ⟨"primary", .equal, key⟩ named tuple = true := by
  obtain ⟨other, rows, rest, hother, hselect, hdelete, -, -⟩ := selects
  cases htable.symm.trans hother
  obtain ⟨_, found, hfound, hfilter, -⟩ := delete_hasKey inOrder hprimary hkey
  have hremoved : rows = table.tuples.filter (Heap.hasKey primary key) := by
    rw [Database.handle, onTable_ok htable hfound] at hdelete
    rw [hfilter]
    exact (Except.ok.inj (Prod.mk.inj hdelete).1).symm
  have hselected : rows =
      table.tuples.filter (Conditions.IndexQuery.passes ⟨"primary", .equal, key⟩ named) := by
    rw [handle_select_ok htable (select_named hindex key)] at hselect
    exact (Except.ok.inj (Prod.mk.inj hselect).1).symm
  have hrow : tuple ∈ rows := hremoved ▸ List.mem_filter.mpr ⟨hmem, htuple⟩
  exact (List.mem_filter.mp (hselected ▸ hrow)).2

end

/--
In every database where a space is described so, with no floating point number in a
primary key, whole primary keys select what they delete.
-/
def FindsRemoved (space : Space) : Prop :=
  ∀ primary ∈ space.primary?, ∀ (operations : List Operation) (table : Table) (key : Key),
    ({} : History).KeysFloatFree operations →
      (({} : History).run operations).database.table? space.name = some table →
        table.space = { space with id := table.space.id } →
          key.length = primary.parts.length → Value.floatFreeKey key = true →
            SelectsRemoved (({} : History).run operations).database space.name key

theorem findsRemoved_of_prefix {space : Space}
    (h : ∀ primary ∈ space.primary?, ∀ named ∈ space.index? "primary",
      primary.parts <+: named.parts) : FindsRemoved space := by
  intro primary hprimary operations table key free htable hspace hlength hkey
  have inOrder : table.InOrder :=
    History.inOrder_run free (fun _ h => absurd h List.not_mem_nil) table (table?_mem htable)
  have hsame : table.space.primary? = some primary := by
    rw [hspace]
    exact hprimary
  obtain ⟨named, hnamed⟩ : ∃ named, space.index? "primary" = some named :=
    Option.isSome_iff_exists.mp (by simp [Space.index?, Option.mem_def.mp hprimary])
  have hindex : table.space.index? "primary" = some named := by
    rw [hspace]
    exact hnamed
  exact selectsRemoved_of_prefix htable inOrder hsame hindex (h primary hprimary named hnamed)
    hlength hkey

/-! ## A tuple with different fields -/

def numbered (length : Nat) : Tuple := (List.range length).map Value.nat

theorem fieldAt_numbered {length position : Nat} (h : position < length) :
    fieldAt (numbered length) position = .nat position := by
  simp [fieldAt, numbered, h]

theorem keyOf_numbered {index : Index} {length : Nat}
    (h : ∀ position ∈ index.parts, position < length) :
    index.keyOf (numbered length) = index.parts.map Value.nat :=
  List.map_congr_left fun position hposition => fieldAt_numbered (h position hposition)

theorem compareKeys_positions {l r : List Nat} :
    Value.compareKeys (l.map Value.nat) (r.map Value.nat) = .eq ↔ l = r := by
  have hcompare : ∀ l r : Nat, Value.compare (.nat l) (.nat r) = .eq ↔ l = r := by
    intro l r
    change Ord.compare (l : Int) r = .eq ↔ l = r
    rw [Std.LawfulEqOrd.compare_eq_iff_eq, Int.ofNat_inj]
  induction l generalizing r with
  | nil => cases r <;> simp [Value.compareKeys]
  | cons l ls ih =>
      cases r with
      | nil => simp [Value.compareKeys]
      | cons r rs =>
          rw [List.map_cons, List.map_cons, Value.compareKeys, Ordering.then_eq_eq,
            List.cons.injEq]
          exact and_congr (hcompare l r) ih

theorem floatFree_positions (positions : List Nat) :
    Value.floatFreeKey (positions.map Value.nat) = true := by
  induction positions with
  | nil => rfl
  | cons position positions ih =>
      rw [List.map_cons, Value.floatFreeKey, ih]
      rfl

theorem checkFields_numbered {length : Nat} {fields : List Field} {position : Nat}
    (h : position + fields.length ≤ length) :
    Table.checkFields (numbered length) position fields = .ok () := by
  induction fields generalizing position with
  | nil => rfl
  | cons field fields ih =>
      rw [List.length_cons] at h
      rw [Table.checkFields, fieldAt_numbered (by omega)]
      exact ih (by omega)

theorem insert_numbered {space : Space} {primary : Index} {length : Nat}
    (hprimary : space.primary? = some primary) (h : space.format.length ≤ length) :
    Table.insert ⟨space, []⟩ (numbered length) = .ok ⟨space, [numbered length]⟩ := by
  have hformat : Table.checkFormat ⟨space, []⟩ (numbered length) = .ok () :=
    checkFields_numbered ((Nat.zero_add _).trans_le h)
  have hunique : Table.checkUnique ⟨space, []⟩ (numbered length) [] = .ok () := by
    rw [Table.checkUnique, List.find?_eq_none.mpr fun index _ => by simp [Table.conflicts]]
  have hbind : Table.primary ⟨space, []⟩ = .ok primary := by
    rw [Table.primary, hprimary]
  rw [Table.insert, hformat, hbind]
  change (Table.checkUnique ⟨space, []⟩ (numbered length) [] >>= fun _ => _) = _
  rw [hunique]
  rfl

def creating (space : Space) (tuple : Tuple) : List Operation := [.createSpace space [tuple]]

theorem run_creating {space : Space} {primary : Index} {length : Nat}
    (hprimary : space.primary? = some primary) (h : space.format.length ≤ length) :
    (({} : History).run (creating space (numbered length))).database =
      { tables := [⟨{ space with id := 512 }, [numbered length]⟩], nextId := 513 } := by
  have hinsert : ([numbered length] : List Tuple).foldlM Table.insert
      ⟨{ space with id := 512 }, []⟩ = .ok ⟨{ space with id := 512 }, [numbered length]⟩ := by
    rw [List.foldlM_cons, @insert_numbered { space with id := 512 } primary length hprimary h]
    rfl
  have hcreate : createSpace {} space [numbered length] =
      .ok { tables := [⟨{ space with id := 512 }, [numbered length]⟩], nextId := 513 } := by
    rw [createSpace]
    change (List.foldlM Table.insert _ _ >>= fun _ => _) = _
    rw [hinsert]
    rfl
  have happly : (Operation.createSpace space [numbered length]).apply {} =
      { tables := [⟨{ space with id := 512 }, [numbered length]⟩], nextId := 513 } := by
    rw [Operation.apply, hcreate]
  have counted : ¬((513 : UInt32) < 512) := by decide
  rw [creating, History.run, History.run, History.next, happly, if_neg counted]

theorem free_creating {space : Space} {primary : Index} {length : Nat}
    (hprimary : space.primary? = some primary) (h : space.format.length ≤ length)
    (hparts : ∀ position ∈ primary.parts, position < length) :
    ({} : History).KeysFloatFree (creating space (numbered length)) := by
  refine ⟨rfl, fun table htable index hindex tuple htuple => ?_, trivial⟩
  change table ∈ (({} : History).run (creating space (numbered length))).database.tables at htable
  rw [run_creating hprimary h, List.mem_singleton] at htable
  subst htable
  cases hprimary.symm.trans (Table.mem_keyed hindex)
  rw [List.mem_singleton.mp htuple, keyOf_numbered hparts]
  exact floatFree_positions _

/-- An index finds the numbered tuple by its primary key only if it begins with the fields. -/
theorem prefix_of_passes {primary named : Index} {length : Nat}
    (hprimary : ∀ position ∈ primary.parts, position < length)
    (hnamed : ∀ position ∈ named.parts, position < length)
    (h : Conditions.IndexQuery.passes ⟨"primary", .equal, primary.keyOf (numbered length)⟩ named
      (numbered length) = true) : primary.parts <+: named.parts := by
  rw [keyOf_numbered hprimary, Conditions.IndexQuery.passes, keyOf_numbered hnamed,
    ← List.map_take, List.length_map] at h
  have hequal := compareKeys_positions.mp (beq_iff_eq.mp h)
  exact List.prefix_iff_eq_take.mpr hequal.symm

/-! ## Both names -/

/--
Whole primary keys select what they delete exactly when the index with the name
`primary` begins with the fields of the primary index.
-/
theorem findsRemoved_iff (space : Space) :
    FindsRemoved space ↔ ∀ primary ∈ space.primary?, ∀ named ∈ space.index? "primary",
      primary.parts <+: named.parts := by
  refine ⟨fun finds primary hprimary named hnamed => ?_, findsRemoved_of_prefix⟩
  -- one tuple with different fields is enough to tell the indexes apart
  let length := max space.format.length ((primary.parts ++ named.parts).max?.getD 0 + 1)
  have hparts : ∀ position ∈ primary.parts ++ named.parts, position < length :=
    fun position hposition => Nat.lt_of_lt_of_le
      (Nat.lt_succ_of_le (List.le_max?_getD_of_mem hposition)) (Nat.le_max_right ..)
  obtain ⟨hprimaryParts, hnamedParts⟩ := List.forall_mem_append.mp hparts
  have hformat : space.format.length ≤ length := Nat.le_max_left ..
  let table : Table := ⟨{ space with id := 512 }, [numbered length]⟩
  have hrun := run_creating hprimary hformat
  have htable : (({} : History).run (creating space (numbered length))).database.table?
      space.name = some table := by
    rw [hrun, table?, List.find?_singleton, beq_self_eq_true, if_pos rfl]
  have hkeyOf := keyOf_numbered hprimaryParts
  have hkey : Value.floatFreeKey (primary.keyOf (numbered length)) = true :=
    hkeyOf ▸ floatFree_positions primary.parts
  have free := free_creating hprimary hformat hprimaryParts
  have inOrder : table.InOrder :=
    History.inOrder_run free (fun _ h => absurd h List.not_mem_nil) table (table?_mem htable)
  have selects := finds primary hprimary (creating space (numbered length)) table
    (primary.keyOf (numbered length)) free htable rfl (List.length_map _) hkey
  have hself : Heap.hasKey primary (primary.keyOf (numbered length)) (numbered length) = true :=
    Holds.hasKey_iff.mpr (Value.compareKeys_ordersOn.refl hkey)
  exact prefix_of_passes hprimaryParts hnamedParts
    (selects.passes htable inOrder hprimary hnamed hkey List.mem_cons_self hself)

/-- Books whose second index is called `primary`. -/
def misnamed : Space :=
  ⟨0, "books", [⟨"id", "unsigned", false⟩, ⟨"author", "unsigned", false⟩],
    [⟨0, "pk", true, [0]⟩, ⟨1, "primary", false, [1]⟩]⟩

def twoBooks : List Operation :=
  [.createSpace misnamed [[.nat 1, .nat 7], [.nat 2, .nat 1]]]

/-- By the key of the first book the second one is selected and the first one deleted. -/
theorem not_findsRemoved_misnamed : ¬FindsRemoved misnamed := by
  intro finds
  let database := (({} : History).run twoBooks).database
  let table : Table := ⟨{ misnamed with id := 512 }, [[.nat 1, .nat 7], [.nat 2, .nat 1]]⟩
  have htable : database.table? misnamed.name = some table := by decide +kernel
  have hselect : database.handle (.select misnamed.name (.primaryKey [.nat 1])) =
      (.ok [[.nat 2, .nat 1]], database) := handle_select_ok htable (by decide +kernel)
  have hdelete : (database.handle (.delete misnamed.name [.nat 1])).1 =
      .ok [[.nat 1, .nat 7]] := by decide +kernel
  obtain ⟨_, rows, _, _, hrows, hremoved, _, _⟩ := finds ⟨0, "pk", true, [0]⟩ rfl twoBooks table
    [.nat 1] (by decide +kernel) htable rfl rfl (by decide +kernel)
  rw [hremoved] at hdelete
  cases hdelete
  rw [hselect] at hrows
  cases hrows

end TupleStore.Database
