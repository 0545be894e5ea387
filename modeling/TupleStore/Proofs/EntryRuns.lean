import Mathlib.Logic.Function.Basic
import TupleStore.Proofs.CacheCalls
import TupleStore.Proofs.EmbeddedEntries
import TupleStore.Proofs.PrimaryKeys

/-!
# Runs of the operations on entries

What each operation on the entries of a cache, run alone on an embedded database,
makes of them.  An operation on one key leaves the entries under other keys.
-/

namespace TupleStore.Cache

open Database Entries

/-! ## Entries under other keys -/

namespace IsEntryTable

variable {table after : Table} {key : Bytes}

theorem inOrder (h : IsEntryTable table) : table.InOrder where
  floatFree index hindex := h.sound.floatFree index (Space.primary_mem (Table.mem_keyed hindex))
  increasing primary hprimary := h.sound.increasing primary (table.keyed_primary? ▸ hprimary)
  primary _ := ⟨keyIndex, table.keyed_primary?.trans h.primary⟩
  unique _ _ _ hearly := by contradiction

theorem entryUnder_eq (h : IsEntryTable table) (key : Bytes) :
    entryUnder key table.tuples =
      (table.lookup keyIndex [.bin key]).bind fun tuple => (readEntry tuple).toOption := by
  rw [entryUnder, Table.lookup, ← List.head?_filter, ← List.head?_filter]
  congr 2
  refine List.filter_congr fun tuple htuple => ?_
  obtain ⟨other, entry, rfl⟩ := h.entries tuple htuple
  rw [Bool.eq_iff_iff, decide_eq_true_iff, Heap.hasKey, beq_iff_eq, keyOf_eq,
    fieldAt_entryTuple, compareKeys_bin, Value.bin.injEq]

theorem entryUnder_other (h : IsEntryTable table) (hafter : IsEntryTable after)
    (only : Table.OnlyAt keyIndex [.bin key] table after) {other : Bytes} (hne : other ≠ key) :
    entryUnder other after.tuples = entryUnder other table.tuples := by
  have hapart : Value.compareKeys [.bin key] [.bin other] ≠ .eq := fun heq =>
    hne (compareKeys_bin.mp heq).symm
  rw [hafter.entryUnder_eq, h.entryUnder_eq, only.apart [.bin other] rfl hapart]

end IsEntryTable

/-! ## Requests -/

variable {database : Database} {space : String} {key : Bytes}

abbrev entriesIn (space : String) (database : Database) : Bytes → Option (Bytes × Nat) :=
  fun key => entryIn space key database

theorem entriesIn_eq {table : Table} (h : database.table? space = some table) :
    entriesIn space database = fun key => entryUnder key table.tuples := by
  funext key
  rw [entriesIn, entryIn, h, Option.bind_some]

theorem entriesIn_putTable {table after : Table} (h : database.table? space = some table)
    (hspace : after.space = table.space) :
    entriesIn space (database.putTable after) = fun key => entryUnder key after.tuples :=
  entriesIn_eq (table?_putTable h (congrArg Space.name hspace))

structure Holds (space : String) (entries : Bytes → Option (Bytes × Nat))
    (database : Database) : Prop where
  holds : HoldsEntries space database
  entries_eq : entriesIn space database = entries

variable {entries : Bytes → Option (Bytes × Nat)}

theorem Holds.select (h : Holds space entries database) (key : Bytes) :
    ∃ after, embedded.handle (.select space (.primaryKey [.bin key])) database =
        (.ok ((entries key).toList.map (entryTuple key)), after) ∧ Holds space entries after := by
  obtain ⟨⟨table, htable, h⟩, rfl⟩ := h
  refine ⟨database, ?_, ⟨table, htable, h⟩, rfl⟩
  rw [entriesIn_eq htable]
  change Database.handle (.select space _) database = _
  rw [Database.handle, table_of_table? htable]
  change database.commit (table.select _) _ = _
  rw [h.select_ok key]
  rfl

theorem Holds.replace (h : Holds space entries database) (key : Bytes) (entry : Bytes × Nat) :
    ∃ rows after, embedded.handle (.replace space (entryTuple key entry)) database =
        (.ok rows, after) ∧ Holds space (Function.update entries key (some entry)) after := by
  obtain ⟨⟨table, htable, h⟩, rfl⟩ := h
  obtain ⟨after, hreplace, hafter, hspace, hentry⟩ := h.replace_ok key entry
  have honly := (Table.onlyAt_of_put h.inOrder h.primary rfl (.inr hreplace)).1
  refine ⟨[entryTuple key entry], database.putTable after, ?_, .putTable htable hspace hafter, ?_⟩
  · change Database.handle (.replace space _) database = _
    rw [Database.handle, onTable_ok htable hreplace]
  · rw [entriesIn_putTable htable hspace, entriesIn_eq htable]
    refine Function.eq_update_iff.mpr ⟨hentry, fun other hne => ?_⟩
    exact h.entryUnder_other hafter honly hne

theorem Holds.delete (h : Holds space entries database) (key : Bytes) :
    ∃ rows after, embedded.handle (.delete space [.bin key]) database = (.ok rows, after) ∧
      Holds space (Function.update entries key none) after := by
  obtain ⟨⟨table, htable, h⟩, rfl⟩ := h
  obtain ⟨after, result, hdelete, hafter, hspace, hentry⟩ := h.delete_ok key
  obtain ⟨other, hother, honly, -⟩ := Table.onlyAt_of_delete h.inOrder h.primary
    (show Value.floatFreeKey [.bin key] = true from rfl)
  cases hdelete.symm.trans hother
  refine ⟨(table.lookup keyIndex [.bin key]).toList, database.putTable after, ?_,
    .putTable htable hspace hafter, ?_⟩
  · change Database.handle (.delete space _) database = _
    rw [Database.handle, onTable_ok htable hdelete]
  · rw [entriesIn_putTable htable hspace, entriesIn_eq htable]
    refine Function.eq_update_iff.mpr ⟨hentry, fun other hne => ?_⟩
    exact h.entryUnder_other hafter honly hne

theorem Holds.truncate (h : Holds space entries database) :
    ∃ after, embedded.handle (.truncate space) database = (.ok (), after) ∧
      Holds space (fun _ => none) after := by
  obtain ⟨⟨table, htable, h⟩, rfl⟩ := h
  have hempty : IsEntryTable { table with tuples := [] } :=
    ⟨h.format, h.indexes, .nil, nofun⟩
  refine ⟨database.putTable { table with tuples := [] }, ?_, .putTable htable rfl hempty, ?_⟩
  · change Database.handle (.truncate space) database = _
    rw [Database.handle, Database.truncate, table_of_table? htable]
    rfl
  · rw [@entriesIn_putTable database space table { table with tuples := [] } htable rfl]
    rfl

/-! ## Operations -/

variable {shared : Database × Writer} {clock : Nat → Nat} {tick : Nat}

/-- The space is there, or the first call to look for it will create it. -/
def Available (space : String) (shared : Database × Writer) : Prop :=
  HoldsEntries space shared.1 ∨
    IsPlain space ∧ shared.1.table? space = none ∧ space ∉ shared.2.known

structure Leaves (space : String) (entries : Bytes → Option (Bytes × Nat)) (tick : Nat)
    (after : (Database × Writer) × Nat) : Prop where
  holds : Holds space entries after.1.1
  later : tick ≤ after.2

theorem Leaves.available {after : (Database × Writer) × Nat}
    (leaves : Leaves space entries tick after) : Available space after.1 := .inl leaves.holds.1

theorem run_ensureSpace (available : Available space shared) (clock : Nat → Nat) (tick : Nat) :
    ∃ after, runAt embedded clock (ensureSpace space) (shared, tick) = (.ok (), after) ∧
      Leaves space (entriesIn space shared.1) tick after := by
  obtain ⟨database, writer⟩ := shared
  by_cases known : space ∈ writer.known
  · have holds : HoldsEntries space database := by
      rcases available with holds | ⟨-, -, unknown⟩
      · exact holds
      · contradiction
    have hcontains : writer.known.contains space = true := List.contains_iff_mem.mpr known
    refine ⟨((database, writer), tick + 1), ?_, ⟨⟨holds, rfl⟩, Nat.le_succ tick⟩⟩
    rw [ensureSpace, runAt_bind runAt_isKnown, hcontains]
    rfl
  · have settles : ∀ key, Settles (embeddedEntries space key) (entryIn space key database)
        (findOrCreate space) (database, writer) := by
      intro key
      rcases begins_embedded available with ⟨hknown, -⟩ | ⟨-, settles⟩
      · contradiction
      · exact settles
    obtain ⟨after, last, hrun, hlast, -, ready, -⟩ :=
      runAt_of_settles (settles []) clock (tick + 1 + 1)
    have hentries : entriesIn space after.1 = entriesIn space database := by
      funext key
      obtain ⟨other, last, hsame, -, -, -, hentry⟩ := runAt_of_settles (settles key) clock
        (tick + 1 + 1)
      cases hrun.symm.trans hsame
      exact hentry
    refine ⟨(after, last + 1), ?_, ⟨⟨ready, hentries⟩, by omega⟩⟩
    have hcontains : writer.known.contains space = false := by simpa using known
    rw [ensureSpace, runAt_bind runAt_isKnown, hcontains]
    change runAt embedded clock (lock >>= fun _ => (findOrCreate space).attempt >>= fun result =>
      unlock >>= fun _ => Program.ofExcept result) _ = _
    rw [runAt_bind runAt_lock, runAt_bind (runAt_attempt ..), hrun, runAt_bind runAt_unlock]
    rfl

def unexpired (now : Nat) (entry : Option (Bytes × Nat)) : Option (Bytes × Nat) :=
  entry.filter fun entry => now < entry.2

theorem unexpired_of_lt {now : Nat} {entry : Bytes × Nat} (h : now < entry.2) :
    unexpired now (some entry) = some entry := by simp [unexpired, h]

theorem unexpired_of_not_lt {now : Nat} {entry : Bytes × Nat} (h : ¬now < entry.2) :
    unexpired now (some entry) = none := by
  unfold unexpired
  simp only [Option.filter_some, h, decide_false, Bool.false_eq_true, if_false]

theorem run_delete (h : Holds space entries database) (writer : Writer) (clock : Nat → Nat)
    (tick : Nat) (key : Bytes) :
    ∃ after, runAt embedded clock (Entries.delete space key) ((database, writer), tick) =
        (.ok (), after) ∧
      Leaves space (Function.update entries key none) tick after := by
  obtain ⟨rows, after, hdelete, hafter⟩ := h.delete key
  obtain ⟨writer, hcount⟩ := runAt_count embedded clock (after, writer) (tick + 1) space (.delete 1)
  refine ⟨((after, writer), tick + 1 + 1), ?_, hafter, by omega⟩
  rw [Entries.delete, runAt_bind (runAt_request hdelete), hcount]

theorem run_liveValue {entry : Bytes × Nat} (h : Holds space entries database)
    (hentry : entries key = some entry) (writer : Writer) (clock : Nat → Nat) (tick : Nat) :
    ∃ after, runAt embedded clock (liveValue space key (entryTuple key entry))
        ((database, writer), tick) =
          (.ok ((unexpired (clock tick) (some entry)).map Prod.fst), after) ∧
      Leaves space (Function.update entries key (unexpired (clock tick) (some entry))) tick
        after := by
  have hread : runAt embedded clock (Program.ofExcept (readEntry (entryTuple key entry)))
      ((database, writer), tick) = (.ok entry, (database, writer), tick) := rfl
  rw [liveValue, runAt_bind hread]
  change ∃ after, runAt embedded clock (now >>= fun now => if now < entry.2 then
    pure (some entry.1) else Entries.delete space key >>= fun _ => pure none) _ = _ ∧ _
  rw [runAt_bind runAt_now]
  by_cases live : clock tick < entry.2
  · rw [if_pos live, unexpired_of_lt live, ← hentry, Function.update_eq_self, hentry]
    exact ⟨((database, writer), tick + 1), rfl, h, Nat.le_succ tick⟩
  · rw [if_neg live, unexpired_of_not_lt live]
    obtain ⟨after, hrun, leaves⟩ := run_delete h writer clock (tick + 1) key
    exact ⟨after, runAt_bind hrun, leaves.holds, by have := leaves.later; omega⟩

def valueOf (space : String) (key : Bytes) : List Tuple → Action (Option Bytes)
  | [] => pure none
  | tuple :: _ => liveValue space key tuple

def countGet (space : String) (value : Option Bytes) : Action (Option Bytes) := do
  count space .get
  count space (if value.isSome then .hit else .miss)
  return value

theorem get_eq (space : String) (key : Bytes) :
    Entries.get space key = ensureSpace space >>= fun _ =>
      request (.select space (.primaryKey [.bin key])) >>= fun tuples =>
        valueOf space key tuples >>= countGet space := by
  refine congrArg (ensureSpace space >>= ·) (funext fun _ => ?_)
  refine congrArg (request (.select space (.primaryKey [.bin key])) >>= ·) (funext fun tuples => ?_)
  cases tuples <;> rfl

theorem run_valueOf (h : Holds space entries database) (writer : Writer) (clock : Nat → Nat)
    (tick : Nat) (key : Bytes) :
    ∃ after, runAt embedded clock (valueOf space key ((entries key).toList.map (entryTuple key)))
        ((database, writer), tick) =
          (.ok ((unexpired (clock tick) (entries key)).map Prod.fst), after) ∧
      Leaves space (Function.update entries key (unexpired (clock tick) (entries key))) tick
        after := by
  cases hentry : entries key with
  | none =>
      refine ⟨((database, writer), tick), rfl, ?_, Nat.le_refl tick⟩
      rw [show unexpired (clock tick) none = none from rfl, ← hentry, Function.update_eq_self]
      exact h
  | some entry => exact run_liveValue h hentry writer clock tick

theorem run_countGet (space : String) (shared : Database × Writer) (clock : Nat → Nat)
    (tick : Nat) (value : Option Bytes) :
    ∃ writer, runAt embedded clock (countGet space value) (shared, tick) =
      (.ok value, (shared.1, writer), tick + 2) := ⟨_, rfl⟩

theorem run_get (available : Available space shared) (clock : Nat → Nat) (tick : Nat)
    (key : Bytes) :
    ∃ looked after, tick ≤ looked ∧ looked ≤ after.2 ∧
      runAt embedded clock (Entries.get space key) (shared, tick) =
        (.ok ((unexpired (clock looked) (entryIn space key shared.1)).map Prod.fst), after) ∧
      Leaves space (Function.update (entriesIn space shared.1) key
        (unexpired (clock looked) (entryIn space key shared.1))) tick after := by
  obtain ⟨ready, hensure, leaves⟩ := run_ensureSpace available clock tick
  obtain ⟨selected, hselect, hholds⟩ := leaves.holds.select key
  obtain ⟨found, hfound, last⟩ := run_valueOf hholds ready.1.2 clock (ready.2 + 1) key
  obtain ⟨writer, hcount⟩ := run_countGet space found.1 clock found.2
    ((unexpired (clock (ready.2 + 1)) (entryIn space key shared.1)).map Prod.fst)
  have hready := leaves.later
  have hlast := last.later
  refine ⟨ready.2 + 1, ((found.1.1, writer), found.2 + 2), by omega, by omega, ?_, last.holds,
    by omega⟩
  rw [get_eq, runAt_bind hensure, runAt_bind (runAt_request hselect), runAt_bind hfound]
  exact hcount

theorem run_put (available : Available space shared) (clock : Nat → Nat) (tick : Nat)
    (key value : Bytes) (ttl : Duration) :
    ∃ stored after, tick ≤ stored ∧ stored ≤ after.2 ∧
      runAt embedded clock (Entries.put space key value ttl) (shared, tick) = (.ok (), after) ∧
      Leaves space (Function.update (entriesIn space shared.1) key
        (some (value, expiryTime ttl (clock stored)))) tick after := by
  obtain ⟨ready, hensure, leaves⟩ := run_ensureSpace available clock tick
  obtain ⟨rows, replaced, hreplace, hholds⟩ :=
    leaves.holds.replace key (value, expiryTime ttl (clock ready.2))
  obtain ⟨writer, hcount⟩ :=
    runAt_count embedded clock (replaced, ready.1.2) (ready.2 + 1 + 1) space .put
  have hready := leaves.later
  refine ⟨ready.2, ((replaced, writer), ready.2 + 1 + 1 + 1), hready, by omega, ?_, hholds,
    by omega⟩
  rw [Entries.put, runAt_bind hensure, runAt_bind runAt_now]
  exact (runAt_bind (runAt_request hreplace)).trans hcount

theorem run_remove (available : Available space shared) (clock : Nat → Nat) (tick : Nat)
    (key : Bytes) :
    ∃ after, runAt embedded clock (Entries.remove space key) (shared, tick) = (.ok (), after) ∧
      Leaves space (Function.update (entriesIn space shared.1) key none) tick after := by
  obtain ⟨ready, hensure, leaves⟩ := run_ensureSpace available clock tick
  obtain ⟨after, hdelete, last⟩ := run_delete leaves.holds ready.1.2 clock ready.2 key
  refine ⟨after, ?_, last.holds, leaves.later.trans last.later⟩
  rw [Entries.remove, runAt_bind hensure]
  exact hdelete

theorem run_clear (available : Available space shared) (clock : Nat → Nat) (tick : Nat) :
    ∃ after, runAt embedded clock (Entries.clear space) (shared, tick) = (.ok (), after) ∧
      Leaves space (fun _ => none) tick after := by
  obtain ⟨ready, hensure, leaves⟩ := run_ensureSpace available clock tick
  obtain ⟨truncated, htruncate, hholds⟩ := leaves.holds.truncate
  refine ⟨((truncated, ready.1.2), ready.2 + 1), ?_, hholds, by have := leaves.later; omega⟩
  rw [Entries.clear, runAt_bind hensure]
  exact runAt_request htruncate

end TupleStore.Cache
