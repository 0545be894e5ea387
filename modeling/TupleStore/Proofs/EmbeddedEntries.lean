import TupleStore.Proofs.Contents
import TupleStore.Proofs.Interleaving
import TupleStore.Proofs.Requests

/-!
# Entries in an embedded database

An embedded database keeps the entries of a cache in a table with the fields and
indexes which caches give to their spaces.
-/

namespace TupleStore.Cache

open Database Entries

/-! ## Tables of entries -/

def entryFields : List Field :=
  [⟨"key", "varbinary", false⟩, ⟨"value", "varbinary", false⟩, ⟨"expiry_time", "unsigned", false⟩]

def keyIndex : Index := ⟨0, "primary", true, [0]⟩

def expiryIndex : Index := ⟨1, "expiry_time", false, [2]⟩

structure IsEntryTable (table : Table) : Prop where
  format : table.space.format = entryFields
  indexes : table.space.indexes = [keyIndex, expiryIndex]
  increasing : Increasing Value.compareKeys keyIndex.keyOf table.tuples
  entries : ∀ tuple ∈ table.tuples, ∃ key entry, tuple = entryTuple key entry

def entryUnder (key : Bytes) (tuples : List Tuple) : Option (Bytes × Nat) :=
  (tuples.find? fun tuple => fieldAt tuple 0 = .bin key).bind fun tuple =>
    (readEntry tuple).toOption

theorem keyOf_eq (tuple : Tuple) : keyIndex.keyOf tuple = [fieldAt tuple 0] := rfl

theorem fieldAt_entryTuple (key : Bytes) (entry : Bytes × Nat) :
    fieldAt (entryTuple key entry) 0 = .bin key := rfl

theorem readEntry_entryTuple (key : Bytes) (entry : Bytes × Nat) :
    readEntry (entryTuple key entry) = .ok entry := rfl

theorem compareKeys_bin {l r : Bytes} :
    Value.compareKeys [.bin l] [.bin r] = .eq ↔ l = r := by
  have h : Value.compareKeys [.bin l] [.bin r] = (Bytes.compare l r).then .eq := by
    simp only [Value.compareKeys, Value.compare]
  rw [h, Bytes.compare_eq, Ordering.then_eq, Std.compare_eq_iff_eq]

namespace IsEntryTable

variable {table after : Table} {key : Bytes} {entry : Bytes × Nat}

theorem primary (h : IsEntryTable table) : table.space.primary? = some keyIndex := by
  rw [Space.primary?, h.indexes]
  rfl

theorem floatFree_of_entries (indexes : table.space.indexes = [keyIndex, expiryIndex])
    (entries : ∀ tuple ∈ table.tuples, ∃ key entry, tuple = entryTuple key entry) :
    table.FloatFree := by
  intro index hindex tuple htuple
  obtain ⟨key, entry, rfl⟩ := entries tuple htuple
  rw [indexes] at hindex
  rcases List.mem_pair.mp hindex with rfl | rfl
  · rfl
  · rfl

theorem sound (h : IsEntryTable table) : table.Sound fun _ => false where
  floatFree := floatFree_of_entries h.indexes h.entries
  increasing primary hprimary := by
    rw [h.primary] at hprimary
    cases hprimary
    exact h.increasing
  primary _ := ⟨keyIndex, h.primary⟩
  unique _ _ _ hearly := by contradiction

theorem change (h : IsEntryTable table) (change : Table.Change table after)
    (space : after.space = table.space)
    (entries : ∀ tuple ∈ after.tuples, ∃ key entry, tuple = entryTuple key entry) :
    IsEntryTable after := by
  have indexes : after.space.indexes = [keyIndex, expiryIndex] := by
    rw [space]
    exact h.indexes
  have sound := h.sound.change change (floatFree_of_entries indexes entries)
  refine ⟨by rw [space]; exact h.format, indexes, sound.increasing keyIndex ?_, entries⟩
  rw [space]
  exact h.primary

theorem keys_nodup (h : IsEntryTable table) :
    (table.tuples.map fun tuple => fieldAt tuple 0).Nodup := by
  refine List.pairwise_map.mpr (h.increasing.imp_of_mem fun {l r} hl _ hlt heq => ?_)
  have hfree := h.sound.floatFree keyIndex (Space.primary_mem h.primary) l hl
  rw [keyOf_eq, keyOf_eq, ← heq, ← keyOf_eq, Value.compareKeys_ordersOn.refl hfree] at hlt
  contradiction

theorem entryUnder_eq_some (h : IsEntryTable table) (hmem : entryTuple key entry ∈ table.tuples) :
    entryUnder key table.tuples = some entry := by
  have hsome : (table.tuples.find? fun tuple => fieldAt tuple 0 = .bin key).isSome :=
    List.find?_isSome.mpr ⟨_, hmem, by simp [fieldAt_entryTuple]⟩
  obtain ⟨tuple, hfind⟩ := Option.isSome_iff_exists.mp hsome
  have hkey := List.find?_some hfind
  have heq : tuple = entryTuple key entry := by
    refine List.inj_on_of_nodup_map h.keys_nodup (List.mem_of_find?_eq_some hfind) hmem ?_
    rw [fieldAt_entryTuple]
    simpa using hkey
  rw [entryUnder, hfind, heq, Option.bind_some, readEntry_entryTuple]
  rfl

theorem entryUnder_eq_none {tuples : List Tuple}
    (h : ∀ tuple ∈ tuples, fieldAt tuple 0 ≠ .bin key) : entryUnder key tuples = none := by
  have hfind : tuples.find? (fun tuple => fieldAt tuple 0 = .bin key) = none :=
    List.find?_eq_none.mpr fun tuple htuple => by simpa using h tuple htuple
  rw [entryUnder, hfind]
  rfl

/-! ## Requests on a table -/

theorem filter_eq_find? {α κ : Type} [DecidableEq κ] {f : α → κ} {items : List α} {k : κ}
    (h : (items.map f).Nodup) :
    items.filter (fun item => f item = k) = (items.find? fun item => f item = k).toList := by
  induction items with
  | nil => rfl
  | cons item items ih =>
      obtain ⟨hitem, hitems⟩ := List.nodup_cons.mp h
      by_cases hk : f item = k
      · have hnil : items.filter (fun item => f item = k) = [] := by
          refine List.filter_eq_nil_iff.mpr fun other hother heq => hitem ?_
          rw [hk, ← of_decide_eq_true heq]
          exact List.mem_map_of_mem hother
        simp [hk, hnil]
      · simpa [hk] using ih hitems

theorem isMatch_primaryKey (h : IsEntryTable table) (key : Bytes) (tuple : Tuple)
    (hmem : tuple ∈ table.tuples) :
    (Conditions.primaryKey [.bin key]).isMatch table.space tuple =
      .ok (decide (fieldAt tuple 0 = .bin key)) := by
  obtain ⟨other, entry, rfl⟩ := h.entries tuple hmem
  have hindex : table.space.index? "primary" = some keyIndex := by
    rw [Space.index?, h.indexes]
    rfl
  have hpasses : Conditions.IndexQuery.passes ⟨"primary", .equal, [.bin key]⟩ keyIndex
      (entryTuple other entry) = decide (other = key) := by
    change (Value.compareKeys [.bin other] [.bin key] == .eq) = _
    rw [Bool.eq_iff_iff, beq_iff_eq, compareKeys_bin, decide_eq_true_iff]
  simp only [Conditions.isMatch, Conditions.primaryKey, Conditions.indexEquals,
    Conditions.andIndex, Conditions.any, hindex, hpasses, fieldAt_entryTuple,
    Conditions.passesComparisons, Value.bin.injEq]
  split <;> simp_all

theorem select_ok (h : IsEntryTable table) (key : Bytes) :
    table.select (.primaryKey [.bin key]) =
      .ok ((entryUnder key table.tuples).toList.map (entryTuple key)) := by
  have hrows : (table.tuples.filter fun tuple => fieldAt tuple 0 = .bin key) =
      (entryUnder key table.tuples).toList.map (entryTuple key) := by
    rw [filter_eq_find? h.keys_nodup, entryUnder]
    cases hfind : table.tuples.find? fun tuple => fieldAt tuple 0 = .bin key with
    | none => rfl
    | some tuple =>
        obtain ⟨other, entry, rfl⟩ := h.entries tuple (List.mem_of_find?_eq_some hfind)
        have hkey := List.find?_some hfind
        have hother : other = key := by simpa [fieldAt_entryTuple] using hkey
        rw [hother]
        rfl
  rw [Table.select, Conditions.filter, Conditions.matching_eq_filter (h.isMatch_primaryKey key),
    hrows]
  rfl

theorem find_taken (h : IsEntryTable table) {i : Nat}
    (hfind : table.find keyIndex [.bin key] = .taken i) :
    ∃ entry, table.tuples[i]? = some (entryTuple key entry) := by
  obtain ⟨tuple, htuple, hprobe⟩ := search_taken hfind
  obtain ⟨other, entry, rfl⟩ := h.entries tuple (List.mem_of_getElem? htuple)
  rw [keyOf_eq, fieldAt_entryTuple, compareKeys_bin] at hprobe
  exact ⟨entry, hprobe ▸ htuple⟩

theorem find_free (h : IsEntryTable table) {i : Nat}
    (hfind : table.find keyIndex [.bin key] = .free i) :
    ∀ tuple ∈ table.tuples, fieldAt tuple 0 ≠ .bin key := by
  intro tuple htuple heq
  obtain ⟨_, hbefore, hbehind⟩ := search_free (probes_of_increasing Value.compareKeys_ordersOn
    h.increasing (h.sound.floatFree keyIndex (Space.primary_mem h.primary)) rfl) hfind
  obtain ⟨j, hj⟩ := List.getElem?_of_mem htuple
  have hsame : Value.compareKeys (keyIndex.keyOf tuple) [.bin key] = .eq := by
    rw [keyOf_eq, heq]
    exact compareKeys_bin.mpr rfl
  rcases Nat.lt_or_ge j i with hlt | hge
  · rw [hbefore j tuple hlt hj] at hsame
    contradiction
  · rw [hbehind j tuple hge hj] at hsame
    contradiction

theorem others_ne (h : IsEntryTable table) {i : Nat}
    (hget : table.tuples[i]? = some (entryTuple key entry)) :
    ∀ tuple ∈ table.tuples.eraseIdx i, fieldAt tuple 0 ≠ .bin key := by
  obtain ⟨hlt, hget⟩ := List.getElem?_eq_some_iff.mp hget
  have hperm := (List.getElem_cons_eraseIdx_perm hlt).map fun tuple => fieldAt tuple 0
  have hnodup := hperm.nodup_iff.mpr h.keys_nodup
  rw [List.map_cons, hget, fieldAt_entryTuple, List.nodup_cons] at hnodup
  intro tuple htuple heq
  exact hnodup.1 (heq ▸ List.mem_map_of_mem htuple)

theorem checkFormat_ok (h : IsEntryTable table) (key : Bytes) (entry : Bytes × Nat) :
    table.checkFormat (entryTuple key entry) = .ok () := by
  rw [Table.checkFormat, h.format]
  rfl

theorem checkUnique_ok (h : IsEntryTable table) (entry : Bytes × Nat) {others : List Tuple}
    (part : others ⊆ table.tuples) (hne : ∀ tuple ∈ others, fieldAt tuple 0 ≠ .bin key) :
    table.checkUnique (entryTuple key entry) others = .ok () := by
  have hnone : Table.conflicts keyIndex (entryTuple key entry) others = false := by
    refine List.any_eq_false.mpr fun tuple htuple hconflict => hne tuple htuple ?_
    obtain ⟨other, stored, rfl⟩ := h.entries tuple (part htuple)
    rw [beq_iff_eq, keyOf_eq, keyOf_eq, fieldAt_entryTuple, fieldAt_entryTuple,
      compareKeys_bin] at hconflict
    rw [fieldAt_entryTuple, hconflict]
  have hfind : table.space.indexes.find? (fun index =>
      index.unique && Table.conflicts index (entryTuple key entry) others) = none := by
    rw [h.indexes, List.find?_eq_none]
    intro index hindex
    rcases List.mem_pair.mp hindex with rfl | rfl
    · simp [hnone]
    · simp [expiryIndex]
  rw [Table.checkUnique, hfind]

theorem table_primary (h : IsEntryTable table) : table.primary = .ok keyIndex := by
  rw [Table.primary, h.primary]

private theorem replace_tuples (h : IsEntryTable table) (key : Bytes) (entry : Bytes × Nat) :
    ∃ tuples, table.replace (entryTuple key entry) = .ok { table with tuples } ∧
      entryTuple key entry ∈ tuples ∧
      ∀ tuple ∈ tuples, tuple = entryTuple key entry ∨ tuple ∈ table.tuples := by
  cases hfind : table.find keyIndex [.bin key] with
  | taken i =>
      obtain ⟨old, hold⟩ := h.find_taken hfind
      have hunique := h.checkUnique_ok entry (List.eraseIdx_subset ..) (h.others_ne hold)
      refine ⟨table.tuples.set i (entryTuple key entry), ?_,
        List.mem_set (List.getElem?_eq_some_iff.mp hold).1 _, fun tuple htuple =>
          (List.mem_or_eq_of_mem_set htuple).symm⟩
      simp only [Table.replace, h.checkFormat_ok, h.table_primary, keyOf_eq, fieldAt_entryTuple,
        hfind, hunique, bind, Except.bind, pure, Except.pure]
  | free i =>
      have hunique := h.checkUnique_ok entry (List.Subset.refl _) (h.find_free hfind)
      have hperm := List.perm_insertIdx (entryTuple key entry) table.tuples (search_free_le hfind)
      refine ⟨table.tuples.insertIdx i (entryTuple key entry), ?_, hperm.mem_iff.mpr (by simp),
        fun tuple htuple => List.mem_cons.mp (hperm.mem_iff.mp htuple)⟩
      simp only [Table.replace, h.checkFormat_ok, h.table_primary, keyOf_eq, fieldAt_entryTuple,
        hfind, hunique, bind, Except.bind, pure, Except.pure]

theorem replace_ok (h : IsEntryTable table) (key : Bytes) (entry : Bytes × Nat) :
    ∃ after, table.replace (entryTuple key entry) = .ok after ∧ IsEntryTable after ∧
      after.space = table.space ∧ entryUnder key after.tuples = some entry := by
  obtain ⟨tuples, hreplace, hmem, hpart⟩ := h.replace_tuples key entry
  have hafter : IsEntryTable { table with tuples } := by
    refine h.change (Table.change_of_replace hreplace) rfl fun tuple htuple => ?_
    rcases hpart tuple htuple with rfl | hold
    · exact ⟨key, entry, rfl⟩
    · exact h.entries tuple hold
  exact ⟨_, hreplace, hafter, rfl, hafter.entryUnder_eq_some hmem⟩

theorem delete_ok (h : IsEntryTable table) (key : Bytes) :
    ∃ after result, table.delete [.bin key] = .ok (after, result) ∧ IsEntryTable after ∧
      after.space = table.space ∧ entryUnder key after.tuples = none := by
  cases hfind : table.find keyIndex [.bin key] with
  | taken i =>
      obtain ⟨old, hold⟩ := h.find_taken hfind
      refine ⟨{ table with tuples := table.tuples.eraseIdx i }, table.tuples[i]?, ?_, ?_, rfl,
        entryUnder_eq_none (h.others_ne hold)⟩
      · simp only [Table.delete, h.table_primary, hfind, bind, Except.bind, pure, Except.pure]
      · exact h.change (.remove (List.eraseIdx_sublist ..)) rfl fun tuple htuple =>
          h.entries tuple (List.eraseIdx_subset htuple)
  | free i =>
      refine ⟨table, none, ?_, h, rfl, entryUnder_eq_none (h.find_free hfind)⟩
      simp only [Table.delete, h.table_primary, hfind, bind, Except.bind, pure, Except.pure]

end IsEntryTable

/-! ## The database as a store -/

variable {database : Database} {table after : Table} {space : String}

def HoldsEntries (space : String) (database : Database) : Prop :=
  ∃ table, database.table? space = some table ∧ IsEntryTable table

theorem HoldsEntries.putTable (h : database.table? space = some table)
    (hspace : after.space = table.space) (entries : IsEntryTable after) :
    HoldsEntries space (database.putTable after) :=
  ⟨after, table?_putTable h (congrArg Space.name hspace), entries⟩

def entryIn (space : String) (key : Bytes) (database : Database) : Option (Bytes × Nat) :=
  (database.table? space).bind fun table => entryUnder key table.tuples

def embeddedEntries (space : String) (key : Bytes) : EntryStore embedded space key where
  ready := HoldsEntries space
  entry := entryIn space key
  select := by
    rintro database ⟨table, htable, h⟩
    refine ⟨database, ?_, ⟨table, htable, h⟩, rfl⟩
    change Database.handle (.select space _) database = _
    rw [Database.handle, table_of_table? htable, entryIn, htable]
    change database.commit (table.select _) _ = _
    rw [h.select_ok key]
    rfl
  replace := by
    rintro database value expiry ⟨table, htable, h⟩ -
    obtain ⟨after, hreplace, hafter, hspace, hentry⟩ := h.replace_ok key (value, expiry)
    refine ⟨[entryTuple key (value, expiry)], database.putTable after, ?_,
      .putTable htable hspace hafter, ?_⟩
    · change Database.handle (.replace space _) database = _
      rw [Database.handle, onTable_ok htable hreplace]
    · rw [entryIn, table?_putTable htable (congrArg Space.name hspace)]
      exact hentry
  delete := by
    rintro database ⟨table, htable, h⟩
    obtain ⟨after, result, hdelete, hafter, hspace, hentry⟩ := h.delete_ok key
    refine ⟨result.toList, database.putTable after, ?_, .putTable htable hspace hafter, ?_⟩
    · change Database.handle (.delete space _) database = _
      rw [Database.handle, onTable_ok htable hdelete]
    · rw [entryIn, table?_putTable htable (congrArg Space.name hspace)]
      exact hentry

/-! ## Creating the space -/

/-- The name stands in expressions and in the names of methods as it is. -/
structure IsPlain (space : String) : Prop where
  created : createdSpace? (strip ("box.schema.space.create('" ++ space ++ "')")) = some space
  format : spaceMethod? ("box.space." ++ space ++ ":" ++ "format").toList =
    some (space, "format")
  createIndex : spaceMethod? ("box.space." ++ space ++ ":" ++ "create_index").toList =
    some (space, "create_index")

def emptyTable (id : UInt32) (space : String) (fields : List Field) (indexes : List Index) : Table :=
  ⟨⟨id, space, fields, indexes⟩, []⟩

theorem isEntryTable_emptyTable (id : UInt32) (space : String) :
    IsEntryTable (emptyTable id space entryFields [keyIndex, expiryIndex]) :=
  ⟨rfl, rfl, .nil, nofun⟩

theorem setFormat_ok {id : UInt32} (h : database.table? space = some (emptyTable id space [] [])) :
    database.setFormat space [format] =
      .ok (database.putTable (emptyTable id space entryFields [])) := by
  have hfields : [fieldFormat "key" "varbinary", fieldFormat "value" "varbinary",
      fieldFormat "expiry_time" "unsigned"].mapM readField = .ok entryFields := by rfl
  change ([fieldFormat "key" "varbinary", fieldFormat "value" "varbinary",
      fieldFormat "expiry_time" "unsigned"].mapM readField >>= fun format =>
    database.table space >>= fun table => _) = _
  rw [hfields, table_of_table? h]
  rfl

theorem createIndex_ok {table : Table} {name : String} {options : Value} {index : Index}
    (h : database.table? space = some table)
    (hindex : readIndex table.space name options = .ok index) :
    database.createIndex space [.text name, options] = .ok (database.putTable
      { table with space := { table.space with indexes := table.space.indexes ++ [index] } }) := by
  have hname : (Value.text name).text? = some name := Bytes.text?_ofString name
  rw [Database.createIndex, List.head?_cons, Option.bind_some, hname]
  change (database.table space >>= fun table => readIndex table.space name options >>=
    fun index => _) = _
  rw [table_of_table? h]
  change (readIndex table.space name options >>= fun index => _) = _
  rw [hindex]
  rfl

theorem handle_method {function method : String} {arguments : List Value} {after : Database}
    (hname : spaceMethod? function.toList = some (space, method))
    (h : database.runMethod space method arguments = .ok after) :
    embedded.handle (.call function arguments) database = (.ok [], after) := by
  simp only [embedded, Database.handle, hname, h, commit]

theorem handle_create (plain : IsPlain space) (h : database.table? space = none) :
    embedded.handle (.eval ("box.schema.space.create('" ++ space ++ "')") []) database =
      (.ok [], { database with
        tables := database.tables ++ [emptyTable database.nextId space [] []]
        nextId := database.nextId + 1 }) := by
  have hcreate : database.createSpace { id := 0, name := space } [] = .ok { database with
      tables := database.tables ++ [emptyTable database.nextId space [] []]
      nextId := database.nextId + 1 } := by
    rw [Database.createSpace, h]
    rfl
  simp only [embedded, Database.handle, evaluate, plain.created, hcreate, commit]

theorem table?_append (h : database.table? space = none) (table : Table)
    (hname : table.space.name = space) (nextId : UInt32) :
    ({ database with tables := database.tables ++ [table], nextId } : Database).table? space =
      some table := by
  rw [Database.table?] at h ⊢
  rw [List.find?_append, h, Option.none_or, List.find?_singleton, hname, beq_self_eq_true,
    if_pos rfl]

section

variable {σ : Type} {client : Client σ} {key : Bytes} {store : EntryStore client space key}
variable {entry : Option (Bytes × Nat)} {state after : σ} {writer : Writer}

theorem Settles.isKnown {next : Bool → Action Unit} (unknown : space ∉ writer.known)
    (rest : Settles store entry (next false) (state, writer)) :
    Settles store entry (.step (.isKnown space) next) (state, writer) := by
  have hunknown : writer.known.contains space = false := by simpa using unknown
  refine .step rfl fun now => ?_
  rw [handle_isKnown, hunknown]
  exact rest

theorem Settles.request {asked : Request} {next : asked.Reply → Action Unit}
    {reply : asked.Reply} (quiet : (Op.request asked).isQuiet = true)
    (h : client.handle asked state = (reply, after))
    (rest : Settles store entry (next reply) (after, writer)) :
    Settles store entry (.step (.request asked) next) (state, writer) := by
  refine .step quiet fun now => ?_
  rw [handle_request, h]
  exact rest

end

theorem handle_createIndex {id : UInt32} {indexes : List Index} {index : Index}
    (name field : String) (unique : Bool) (plain : IsPlain space)
    (h : database.table? space = some (emptyTable id space entryFields indexes))
    (hindex : readIndex (emptyTable id space entryFields indexes).space name
      (.map [(.text "parts", .array [.text field]), (.text "unique", .bool unique)]) = .ok index) :
    embedded.handle (.call ("box.space." ++ space ++ ":" ++ "create_index") [.text name,
        .map [(.text "parts", .array [.text field]), (.text "unique", .bool unique)]]) database =
      (.ok [], database.putTable (emptyTable id space entryFields (indexes ++ [index]))) := by
  refine handle_method plain.createIndex ?_
  rw [runMethod]
  exact createIndex_ok h hindex

theorem handle_format {id : UInt32} (plain : IsPlain space)
    (h : database.table? space = some (emptyTable id space [] [])) :
    embedded.handle (.call ("box.space." ++ space ++ ":" ++ "format") [format]) database =
      (.ok [], database.putTable (emptyTable id space entryFields [])) := by
  refine handle_method plain.format ?_
  rw [runMethod]
  exact setFormat_ok h

variable {key : Bytes} {writer : Writer}

theorem settles_of_absent (plain : IsPlain space) (unknown : space ∉ writer.known)
    (h : database.table? space = none) :
    Settles (embeddedEntries space key) none (findOrCreate space) (database, writer) := by
  let created := emptyTable database.nextId space [] []
  let formatted := emptyTable database.nextId space entryFields []
  let keyed := emptyTable database.nextId space entryFields [keyIndex]
  let indexed := emptyTable database.nextId space entryFields [keyIndex, expiryIndex]
  have hspace : embedded.handle (.space space) database = (.ok none, database) := by
    change Database.handle (.space space) database = _
    rw [Database.handle, h]
    rfl
  have hcreate := handle_create plain h
  have hcreated := table?_append h created rfl (database.nextId + 1)
  generalize ({ database with
    tables := database.tables ++ [created], nextId := database.nextId + 1 } : Database) = state
    at hcreate hcreated
  have hformat := handle_format plain hcreated
  have hformatted : (state.putTable formatted).table? space = some formatted :=
    table?_putTable hcreated rfl
  generalize state.putTable formatted = state at hformat hformatted
  have hkey : embedded.handle _ state = (_, state.putTable keyed) :=
    handle_createIndex "primary" "key" true plain hformatted rfl
  have hkeyed : (state.putTable keyed).table? space = some keyed :=
    table?_putTable hformatted rfl
  generalize state.putTable keyed = state at hkey hkeyed
  have hexpiry : embedded.handle _ state = (_, state.putTable indexed) :=
    handle_createIndex "expiry_time" "expiry_time" false plain hkeyed rfl
  have hindexed : (state.putTable indexed).table? space = some indexed :=
    table?_putTable hkeyed rfl
  have hentry : entryIn space key (state.putTable indexed) = none := by
    rw [entryIn, hindexed]
    rfl
  refine .isKnown unknown ?_
  refine .request rfl hspace ?_
  refine .request rfl hcreate ?_
  refine .request rfl hformat ?_
  refine .request rfl hkey ?_
  refine .request rfl hexpiry ?_
  refine .request rfl rfl ?_
  exact .step rfl fun now =>
    .done List.mem_cons_self ⟨indexed, hindexed, isEntryTable_emptyTable ..⟩ hentry

theorem settles_of_holds (unknown : space ∉ writer.known) (holds : HoldsEntries space database) :
    Settles (embeddedEntries space key) (entryIn space key database) (findOrCreate space)
      (database, writer) := by
  obtain ⟨table, htable, h⟩ := holds
  have hspace : embedded.handle (.space space) database = (.ok (some table.space), database) := by
    change Database.handle (.space space) database = _
    rw [Database.handle, htable]
    rfl
  refine .isKnown unknown ?_
  refine .request rfl hspace ?_
  exact .step rfl fun now => .done List.mem_cons_self ⟨table, htable, h⟩ rfl

theorem begins_embedded (h : HoldsEntries space database ∨
      IsPlain space ∧ database.table? space = none ∧ space ∉ writer.known) :
    Begins (embeddedEntries space key) (entryIn space key database) (database, writer) := by
  rcases h with holds | ⟨plain, habsent, unknown⟩
  · by_cases known : space ∈ writer.known
    · exact .inl ⟨known, holds, rfl⟩
    · exact .inr ⟨known, settles_of_holds known holds⟩
  · have hentry : entryIn space key database = none := by
      rw [entryIn, habsent]
      rfl
    rw [hentry]
    exact .inr ⟨unknown, settles_of_absent plain unknown habsent⟩

end TupleStore.Cache
