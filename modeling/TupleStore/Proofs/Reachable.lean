import Mathlib.Data.List.Nodup
import TupleStore.Database.Basic
import TupleStore.Proofs.Tables

/-!
# Reachable databases

Whatever is asked of an embedded database, every table stays in primary key order
and the numbers of its spaces stay apart.
-/

namespace TupleStore.Database

/-! ## Runs -/

/-- What a program does with a database: a client's requests, and what it sets up beside them. -/
inductive Operation where
  | createSpace (space : Space) (tuples : List Tuple)
  | register (procedure : Procedure)
  | ask (request : Request)

namespace Operation

/-- A space which cannot be created leaves the database as it was. -/
def apply (database : Database) : Operation → Database
  | .createSpace space tuples =>
      match database.createSpace space tuples with
      | .error _ => database
      | .ok database => database
  | .register procedure => database.register procedure
  | .ask request => (database.handle request).2

def keyFloatFree (database : Database) : Operation → Bool
  | .ask (.update _ key _) => Value.floatFreeKey key
  | .ask (.upsert space tuple _) =>
      match (database.table? space).bind fun table => table.space.primary? with
      | none => true
      | some primary => Value.floatFreeKey (primary.keyOf tuple)
  | _ => true

end Operation

/-- A database, with a mark for each index of a space which was added while the space was empty. -/
structure History where
  database : Database := {}
  /-- The marks, by the number of the space and the position of the index. -/
  early : UInt32 → Nat → Bool := fun _ _ => true

namespace History

/--
The marks behind a change of the database.  Indexes keep their marks; an index
added to a space is marked if the space has no tuples, and so are those a space is
created with.
-/
def marks (history : History) (id : UInt32) (position : Nat) : Bool :=
  match history.database.tables.find? fun table => table.space.id == id with
  | none => true
  | some table =>
      if position < table.space.indexes.length then history.early id position
      else table.tuples.isEmpty

/--
The history behind an operation where sums are checked, as wherever tests are built: a
creation which counts past the last number is broken off and changes nothing.
-/
def next (history : History) (operation : Operation) : History :=
  if (operation.apply history.database).nextId < history.database.nextId then history
  else ⟨operation.apply history.database, history.marks⟩

def run : (history : History) → List Operation → History
  | history, [] => history
  | history, operation :: operations => (history.next operation).run operations

/-- No floating point number is a key to update, and none gets into an indexed field. -/
def FloatFree : (history : History) → List Operation → Prop
  | _, [] => True
  | history, operation :: operations =>
      operation.keyFloatFree history.database = true ∧
        (∀ table ∈ (history.next operation).database.tables, table.FloatFree) ∧
        (history.next operation).FloatFree operations

end History

/-! ## Steps -/

variable {database after : Database} {table changed : Table} {name : String}

theorem Table.Change.same_name (change : Change table changed) :
    changed.space.name = table.space.name := by
  cases change <;> rfl

theorem Table.Change.same_id (change : Change table changed) :
    changed.space.id = table.space.id := by
  cases change <;> rfl

theorem table_eq_ok (h : database.table name = .ok table) : database.table? name = some table := by
  unfold Database.table at h
  split at h
  · contradiction
  · cases h
    assumption

theorem table?_mem (h : database.table? name = some table) : table ∈ database.tables :=
  List.mem_of_find?_eq_some h

theorem table?_name (h : database.table? name = some table) : table.space.name = name := by
  have hname := List.find?_some h
  rwa [beq_iff_eq] at hname

inductive Step (database : Database) : Database → Prop
  | keep {after : Database} (tables : after.tables = database.tables)
      (nextId : after.nextId = database.nextId) : Step database after
  | change {name : String} {table changed : Table} (h : database.table? name = some table)
      (change : Table.Change table changed) : Step database (database.putTable changed)
  | create {space : Space} {tuples : List Tuple} {table : Table}
      (h : database.table? space.name = none)
      (hinsert : tuples.foldlM Table.insert ⟨{ space with id := database.nextId }, []⟩ =
        .ok table) :
      Step database { database with
        tables := database.tables ++ [table]
        nextId := database.nextId + 1 }
  | drop (name : String) :
      Step database { database with
        tables := database.tables.filter fun table => table.space.name != name }

theorem Step.refl (database : Database) : Step database database := .keep rfl rfl

theorem Step.nextId_eq (step : Step database after) :
    after.nextId = database.nextId ∨ after.nextId = database.nextId + 1 := by
  cases step with
  | keep _ nextId => exact .inl nextId
  | change => exact .inl rfl
  | create => exact .inr rfl
  | drop => exact .inl rfl

theorem step_of_createSpace {space : Space} {tuples : List Tuple}
    (h : database.createSpace space tuples = .ok after) : Step database after := by
  unfold createSpace at h
  split at h
  · contradiction
  next hname =>
    obtain ⟨table, hinsert, h⟩ := bind_eq_ok.mp h
    cases h
    exact .create (by simpa using hname) hinsert

theorem step_of_dropSpace (h : database.dropSpace name = .ok after) : Step database after := by
  obtain ⟨_, _, h⟩ := bind_eq_ok.mp h
  cases h
  exact .drop name

theorem step_of_truncate (h : database.truncate name = .ok after) : Step database after := by
  obtain ⟨table, htable, h⟩ := bind_eq_ok.mp h
  cases h
  exact .change (table_eq_ok htable) (.remove (List.nil_sublist _))

theorem step_of_setFormat {arguments : List Value}
    (h : database.setFormat name arguments = .ok after) : Step database after := by
  unfold setFormat at h
  split at h
  next =>
    obtain ⟨format, _, h⟩ := bind_eq_ok.mp h
    obtain ⟨table, htable, h⟩ := bind_eq_ok.mp h
    cases h
    exact .change (table_eq_ok htable) (.format format)
  next => contradiction

theorem step_of_createIndex {arguments : List Value}
    (h : database.createIndex name arguments = .ok after) : Step database after := by
  unfold createIndex at h
  split at h
  next =>
    obtain ⟨table, htable, h⟩ := bind_eq_ok.mp h
    obtain ⟨index, _, h⟩ := bind_eq_ok.mp h
    cases h
    exact .change (table_eq_ok htable) (.index index)
  next => contradiction

theorem step_of_runMethod {method : String} {arguments : List Value}
    (h : database.runMethod name method arguments = .ok after) : Step database after := by
  unfold runMethod at h
  split at h
  · exact step_of_truncate h
  · exact step_of_dropSpace h
  · exact step_of_setFormat h
  · exact step_of_createIndex h
  · cases h

theorem step_of_evaluate {expression : String} (h : database.evaluate expression = .ok after) :
    Step database after := by
  simp only [evaluate] at h
  split at h
  · exact step_of_createSpace h
  · split at h
    · exact step_of_runMethod h
    · cases h

theorem step_of_commit {α β : Type} {outcome : Except Fault α} {next : α → β × Database}
    (h : ∀ result, outcome = .ok result → Step database (next result).2) :
    Step database (database.commit outcome next).2 := by
  cases outcome with
  | error fault => exact .refl database
  | ok result => exact h result rfl

theorem step_of_onTable {α β : Type} {change : Table → Except Fault α} {next : α → β × Table}
    (h : ∀ table result, database.table? name = some table → change table = .ok result →
      Table.Change table (next result).2) :
    Step database (database.onTable name change next).2 := by
  refine step_of_commit fun result hresult => ?_
  obtain ⟨table, htable, hchange⟩ := bind_eq_ok.mp hresult
  exact .change (table_eq_ok htable) (h table result (table_eq_ok htable) hchange)

theorem step_of_callProcedure (arguments : List Value) :
    Step database (database.callProcedure name arguments).2 := by
  unfold callProcedure
  split
  · exact .refl database
  · exact .keep rfl rfl

theorem step_of_handle (request : Request)
    (hkey : (Operation.ask request).keyFloatFree database = true) :
    Step database (database.handle request).2 := by
  cases request with
  | space name => exact .refl database
  | refreshMetadata => exact .refl database
  | select space conditions => exact step_of_commit fun _ _ => .refl database
  | insert space tuple => exact step_of_onTable fun _ _ _ h => Table.change_of_insert h
  | replace space tuple => exact step_of_onTable fun _ _ _ h => Table.change_of_replace h
  | update space key operations =>
      exact step_of_onTable fun _ _ _ h => Table.change_of_update hkey h
  | upsert space tuple operations =>
      refine step_of_onTable fun table _ htable h => Table.change_of_upsert ?_ h
      intro primary hprimary
      simpa only [Operation.keyFloatFree, htable, Option.bind_some, hprimary] using hkey
  | delete space key => exact step_of_onTable fun _ _ _ h => Table.change_of_delete h
  | truncate space => exact step_of_commit fun _ h => step_of_truncate h
  | call function arguments =>
      simp only [Database.handle]
      split
      · exact step_of_commit fun _ h => step_of_runMethod h
      · exact step_of_callProcedure arguments
  | eval expression arguments => exact step_of_commit fun _ h => step_of_evaluate h

theorem step_of_apply (operation : Operation) (hkey : operation.keyFloatFree database = true) :
    Step database (operation.apply database) := by
  cases operation with
  | createSpace space tuples =>
      rw [Operation.apply]
      split
      · exact .refl database
      next h => exact step_of_createSpace h
  | register procedure => exact .keep rfl rfl
  | ask request => exact step_of_handle request hkey

/-! ## Order -/

namespace History

variable {history : History} {operation : Operation} {operations : List Operation}

theorem next_database (history : History) (operation : Operation) :
    (history.next operation).database = history.database ∨
      (history.next operation).database = operation.apply history.database := by
  unfold History.next
  split
  next => exact .inl rfl
  next => exact .inr rfl

/-- Tables in order, under names and numbers of their own. -/
structure Ordered (history : History) : Prop where
  sound : ∀ table ∈ history.database.tables, table.Sound (history.early table.space.id)
  names : (history.database.tables.map fun table => table.space.name).Nodup
  ids : (history.database.tables.map fun table => table.space.id).Nodup
  below : ∀ table ∈ history.database.tables, table.space.id < history.database.nextId

theorem ordered_empty : ({} : History).Ordered where
  sound _ h := absurd h List.not_mem_nil
  names := .nil
  ids := .nil
  below _ h := absurd h List.not_mem_nil

theorem Ordered.marks_of_mem (ordered : history.Ordered)
    (h : table ∈ history.database.tables) :
    history.marks table.space.id = fun position =>
      if position < table.space.indexes.length then history.early table.space.id position
      else table.tuples.isEmpty := by
  funext position
  have hfind : history.database.tables.find? (fun other => other.space.id == table.space.id) =
      some table := by
    cases hfound : history.database.tables.find?
        (fun other => other.space.id == table.space.id) with
    | none => simpa using List.find?_eq_none.mp hfound table h
    | some other =>
        have hid := List.find?_some hfound
        rw [beq_iff_eq] at hid
        rw [List.inj_on_of_nodup_map ordered.ids (List.mem_of_find?_eq_some hfound) h hid]
  rw [marks, hfind]

theorem Ordered.sound_changed (ordered : history.Ordered) (h : table ∈ history.database.tables)
    (change : Table.Change table changed) (free : changed.FloatFree) :
    changed.Sound (history.marks changed.space.id) := by
  rw [change.same_id, ordered.marks_of_mem h]
  exact (ordered.sound table h).change change free

theorem Ordered.sound_kept (ordered : history.Ordered) (h : table ∈ history.database.tables) :
    table.Sound (history.marks table.space.id) :=
  ordered.sound_changed h (.remove (.refl _)) (ordered.sound table h).floatFree

theorem mem_putTable {other : Table} (h : other ∈ (database.putTable changed).tables) :
    other = changed ∨ other ∈ database.tables := by
  obtain ⟨old, hold, rfl⟩ := List.mem_map.mp h
  split
  · exact .inl rfl
  · exact .inr hold

theorem putTable_names : (database.putTable changed).tables.map (fun table => table.space.name) =
    database.tables.map fun table => table.space.name := by
  simp only [putTable, List.map_map]
  refine List.map_congr_left fun other _ => ?_
  rw [Function.comp_apply]
  split
  next h => exact h.symm
  next => rfl

theorem Ordered.putTable_ids (ordered : history.Ordered)
    (h : history.database.table? name = some table) (change : Table.Change table changed) :
    (history.database.putTable changed).tables.map (fun table => table.space.id) =
      history.database.tables.map fun table => table.space.id := by
  simp only [putTable, List.map_map]
  refine List.map_congr_left fun other hother => ?_
  rw [Function.comp_apply]
  split
  next hname =>
    rw [change.same_name] at hname
    rw [List.inj_on_of_nodup_map ordered.names hother (table?_mem h) hname, change.same_id]
  next => rfl

theorem nodup_map_append {α : Type} {tables : List Table} {f : Table → α}
    (h : (tables.map f).Nodup) (hother : ∀ other ∈ tables, f other ≠ f table) :
    ((tables ++ [table]).map f).Nodup := by
  rw [List.map_append, List.map_singleton, ← List.concat_eq_append, List.nodup_concat]
  refine ⟨fun hmem => ?_, h⟩
  obtain ⟨other, hmem, heq⟩ := List.mem_map.mp hmem
  exact hother other hmem heq

theorem Ordered.step (ordered : history.Ordered) (step : Step history.database after)
    (counted : ¬after.nextId < history.database.nextId)
    (free : ∀ table ∈ after.tables, table.FloatFree) :
    Ordered ⟨after, history.marks⟩ := by
  cases step with
  | keep tables nextId =>
      refine ⟨fun table h => ordered.sound_kept (tables ▸ h), ?_, ?_, fun table h => ?_⟩
      · rw [tables]
        exact ordered.names
      · rw [tables]
        exact ordered.ids
      · rw [nextId]
        exact ordered.below table (tables ▸ h)
  | @change name table changed h change =>
      refine ⟨fun other hother => ?_, ?_, ?_, fun other hother => ?_⟩
      · obtain rfl | hold := mem_putTable hother
        · exact ordered.sound_changed (table?_mem h) change (free other hother)
        · exact ordered.sound_kept hold
      · rw [putTable_names]
        exact ordered.names
      · rw [ordered.putTable_ids h change]
        exact ordered.ids
      · obtain rfl | hold := mem_putTable hother
        · rw [change.same_id]
          exact ordered.below table (table?_mem h)
        · exact ordered.below other hold
  | @create space tuples table hname hinsert =>
      have hspace : table.space = { space with id := history.database.nextId } :=
        (Table.insertAll_grows hinsert).1
      have hother : ∀ other ∈ history.database.tables, other.space.name ≠ table.space.name := by
        intro other hother
        rw [hspace]
        simpa using List.find?_eq_none.mp hname other hother
      refine ⟨fun other hmem => ?_, ?_, ?_, fun other hmem => ?_⟩
      · obtain hold | hnew := List.mem_append.mp hmem
        · exact ordered.sound_kept hold
        · rw [List.mem_singleton.mp hnew] at hmem ⊢
          exact (Table.sound_of_nil rfl).insertAll hinsert (free table hmem)
      · refine nodup_map_append ordered.names hother
      · refine nodup_map_append ordered.ids fun other hmem => ?_
        rw [hspace]
        exact UInt32.ne_of_lt (ordered.below other hmem)
      · have hlt : history.database.nextId < history.database.nextId + 1 :=
          UInt32.lt_of_le_of_ne (UInt32.not_lt.mp counted) (by simp)
        obtain hold | hnew := List.mem_append.mp hmem
        · exact UInt32.lt_trans (ordered.below other hold) hlt
        · rw [List.mem_singleton.mp hnew, hspace]
          exact hlt
  | drop name =>
      have part := List.filter_sublist (p := fun table : Table => table.space.name != name)
        (l := history.database.tables)
      exact ⟨fun table h => ordered.sound_kept (part.mem h), ordered.names.sublist (part.map _),
        ordered.ids.sublist (part.map _), fun table h => ordered.below table (part.mem h)⟩

theorem Ordered.next (ordered : history.Ordered) (operation : Operation)
    (hkey : operation.keyFloatFree history.database = true)
    (free : ∀ table ∈ (history.next operation).database.tables, table.FloatFree) :
    (history.next operation).Ordered := by
  unfold History.next at free ⊢
  split
  next => exact ordered
  next counted =>
    rw [if_neg counted] at free
    exact ordered.step (step_of_apply operation hkey) counted free

theorem Ordered.run (ordered : history.Ordered) (free : history.FloatFree operations) :
    (history.run operations).Ordered := by
  induction operations generalizing history with
  | nil => exact ordered
  | cons operation operations ih =>
      obtain ⟨hkey, hnext, hrest⟩ := free
      exact ih (ordered.next operation hkey hnext) hrest

/-! ## Numbers -/

theorem next_of_lt (hkey : operation.keyFloatFree history.database = true)
    (h : history.database.nextId.toNat + 1 < 0x100000000) :
    history.next operation = ⟨operation.apply history.database, history.marks⟩ ∧
      (history.next operation).database.nextId.toNat ≤ history.database.nextId.toNat + 1 := by
  have hsucc : (history.database.nextId + 1).toNat = history.database.nextId.toNat + 1 := by
    rw [UInt32.toNat_add, UInt32.toNat_one, Nat.mod_eq_of_lt h]
  have counted : history.database.nextId.toNat ≤ (operation.apply history.database).nextId.toNat ∧
      (operation.apply history.database).nextId.toNat ≤ history.database.nextId.toNat + 1 := by
    rcases (step_of_apply operation hkey).nextId_eq with h | h <;> rw [h] <;> omega
  have hnext : history.next operation = ⟨operation.apply history.database, history.marks⟩ :=
    if_neg fun hlt => absurd (UInt32.lt_iff_toNat_lt.mp hlt) (Nat.not_lt.mpr counted.1)
  exact ⟨hnext, hnext ▸ counted.2⟩

/-- While there are numbers for all operations, none is broken off. -/
theorem run_database_of_lt (free : history.FloatFree operations)
    (h : history.database.nextId.toNat + operations.length < 0x100000000) :
    (history.run operations).database = operations.foldl Operation.apply history.database := by
  induction operations generalizing history with
  | nil => rfl
  | cons operation operations ih =>
      obtain ⟨hkey, -, hrest⟩ := free
      rw [List.length_cons] at h
      obtain ⟨hnext, hle⟩ := next_of_lt hkey (by omega)
      rw [run, ih hrest (by omega), List.foldl_cons, hnext]

instance decidableFloatFree :
    (history : History) → (operations : List Operation) → Decidable (history.FloatFree operations)
  | _, [] => inferInstanceAs (Decidable True)
  | history, operation :: operations =>
      have := decidableFloatFree (history.next operation) operations
      inferInstanceAs (Decidable (_ ∧ _ ∧ (history.next operation).FloatFree operations))

/--
After any requests, granted or refused, the tuples of every table are in strict
primary key order, a table without a primary index is empty, and tuples differ in
the unique indexes which were added before the first of them.  The numbers of the
spaces are apart and below the next one, and before they run out it makes no
difference whether sums are checked.
-/
theorem run_ordered (free : ({} : History).FloatFree operations) :
    (∀ table ∈ (({} : History).run operations).database.tables,
      (∀ primary, table.space.primary? = some primary →
        Increasing Value.compareKeys primary.keyOf table.tuples) ∧
      (table.tuples ≠ [] → ∃ primary, table.space.primary? = some primary) ∧
      ∀ position index, table.space.indexes[position]? = some index →
        (({} : History).run operations).early table.space.id position = true →
        index.unique = true → Distinct Value.compareKeys index.keyOf table.tuples) ∧
    ((({} : History).run operations).database.tables.map fun table => table.space.id).Nodup ∧
    (∀ table ∈ (({} : History).run operations).database.tables,
      table.space.id < (({} : History).run operations).database.nextId) ∧
    (512 + operations.length < 0x100000000 →
      (({} : History).run operations).database = operations.foldl Operation.apply {}) := by
  have ordered := ordered_empty.run free
  refine ⟨fun table h => ?_, ordered.ids, ordered.below, run_database_of_lt free⟩
  have sound := ordered.sound table h
  exact ⟨sound.increasing, sound.primary, sound.unique⟩

/-- Books by number and place; two of the requests are refused, and an index comes late. -/
def shelving : List Operation :=
  [.createSpace ⟨0, "books", [⟨"id", "unsigned", false⟩, ⟨"place", "unsigned", false⟩],
      [⟨0, "primary", true, [0]⟩, ⟨1, "place", true, [1]⟩]⟩
      [[.int 2, .int 20], [.int 1, .int 10]],
    .ask (.insert "books" [.int 2, .int 30]),
    .ask (.call "box.space.books:create_index"
      [.text "late", .map [(.text "parts", .array [.text "place"])]]),
    .ask (.upsert "books" [.int 3, .int 30] []),
    .ask (.update "books" [.int 3] [⟨"=", 1, .int 20⟩]),
    .ask (.update "books" [.int 2] [⟨"+", 1, .int 20⟩]),
    .ask (.eval "box.schema.space.create('rooms')" [])]

theorem run_ordered_shelving :
    ({} : History).FloatFree shelving ∧
      ∃ table ∈ (({} : History).run shelving).database.tables,
        table.tuples = [[.int 1, .int 10], [.int 2, .int 40], [.int 3, .int 30]] ∧
        Increasing Value.compareKeys (fun tuple => [fieldAt tuple 0]) table.tuples ∧
        Distinct Value.compareKeys (fun tuple => [fieldAt tuple 1]) table.tuples := by
  have free : ({} : History).FloatFree shelving := by decide +kernel
  have htable := List.getElem_mem
    (l := (({} : History).run shelving).database.tables) (n := 0) (by decide +kernel)
  obtain ⟨increasing, _, distinct⟩ := (run_ordered free).1 _ htable
  refine ⟨free, _, htable, by decide +kernel, ?_, ?_⟩
  · exact increasing ⟨0, "primary", true, [0]⟩ (by decide +kernel)
  · exact distinct 1 ⟨1, "place", true, [1]⟩ (by decide +kernel) (by decide +kernel) rfl

end History

end TupleStore.Database
