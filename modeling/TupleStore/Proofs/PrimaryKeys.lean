import TupleStore.Proofs.Heap

/-!
# Primary keys

Floating point numbers outside of the primary keys do no harm: every reached table is
in order with respect to its primary index, so that a tuple is found by its key, and
a change at one key leaves the tuples with other keys.
-/

namespace TupleStore.Database

namespace Table

variable {table after : Table} {primary : Index} {tuple : Tuple}

/-- The table with no index but the primary one. -/
def keyed (table : Table) : Table :=
  { table with space := { table.space with indexes := table.space.primary?.toList } }

theorem keyed_primary? (table : Table) : table.keyed.space.primary? = table.space.primary? := by
  change table.space.primary?.toList.find? (fun index => index.id == 0) = table.space.primary?
  cases h : table.space.primary? with
  | none => rfl
  | some primary =>
      rw [Option.toList_some, List.find?_singleton, Space.primary_id h]
      rfl

theorem mem_keyed {index : Index} (h : index ∈ table.keyed.space.indexes) :
    table.space.primary? = some index := Option.mem_toList.mp h

theorem Fresh.keyed {others : List Tuple} (fresh : table.Fresh tuple others) :
    table.keyed.Fresh tuple others :=
  fun index hindex => fresh index (Space.primary_mem (mem_keyed hindex))

theorem keyed_index (table : Table) (index : Index) :
    let after : Table :=
      { table with space := { table.space with indexes := table.space.indexes ++ [index] } }
    after.keyed = table.keyed ∨
      after.keyed = { table.keyed with space := { table.keyed.space with
        indexes := table.keyed.space.indexes ++ [index] } } := by
  intro after
  have hafter : after.space.primary? =
      table.space.primary?.or ([index].find? fun other => other.id == 0) := List.find?_append
  rw [Table.keyed, hafter, Table.keyed]
  cases table.space.primary? with
  | some primary => exact .inl rfl
  | none =>
      rw [Option.none_or, List.find?_singleton]
      split
      · exact .inr rfl
      · exact .inl rfl

theorem Change.keyed (change : Change table after) : Change table.keyed after.keyed := by
  cases change with
  | insert hprimary hfind fresh =>
      exact .insert (table.keyed_primary?.trans hprimary) hfind fresh.keyed
  | set hprimary hkey hfind fresh =>
      exact .set (table.keyed_primary?.trans hprimary) hkey hfind fresh.keyed
  | remove h => exact .remove h
  | format format => exact .format format
  | index index =>
      rcases table.keyed_index index with hsame | hadded
      · rw [hsame]
        exact .remove (.refl _)
      · rw [hadded]
        exact .index index

/-- In order with respect to the primary index. -/
abbrev InOrder (table : Table) : Prop := table.keyed.Sound fun _ => false

theorem InOrder.change (inOrder : table.InOrder) (change : Change table after)
    (free : after.keyed.FloatFree) : after.InOrder :=
  (Sound.change inOrder change.keyed free).mono fun _ _ h => absurd h Bool.false_ne_true

theorem InOrder.remove (inOrder : table.InOrder) {tuples : List Tuple}
    (h : tuples.Sublist table.tuples) : ({ table with tuples } : Table).InOrder :=
  Sound.sublist inOrder h

theorem InOrder.insertAll {tuples : List Tuple} (inOrder : table.InOrder)
    (h : tuples.foldlM Table.insert table = .ok after) (free : after.keyed.FloatFree) :
    after.InOrder := by
  induction tuples generalizing table with
  | nil =>
      cases h
      exact inOrder
  | cons tuple tuples ih =>
      rw [List.foldlM_cons] at h
      obtain ⟨next, hnext, h⟩ := bind_eq_ok.mp h
      obtain ⟨hspace, hsubset⟩ := insertAll_grows h
      refine ih (inOrder.change (change_of_insert hnext) fun index hindex tuple htuple => ?_) h
      refine free index ?_ tuple (hsubset htuple)
      rw [Table.keyed, hspace]
      exact hindex

end Table

/-! ## Reached tables -/

variable {database after : Database}

theorem Step.inOrder (step : Step database after)
    (inOrder : ∀ table ∈ database.tables, table.InOrder)
    (free : ∀ table ∈ after.tables, table.keyed.FloatFree) :
    ∀ table ∈ after.tables, table.InOrder := by
  intro other hother
  cases step with
  | keep tables _ => exact inOrder other (tables ▸ hother)
  | change h change =>
      rcases History.mem_putTable hother with rfl | hold
      · exact (inOrder _ (table?_mem h)).change change (free other hother)
      · exact inOrder other hold
  | create _ hinsert =>
      rcases List.mem_append.mp hother with hold | hnew
      · exact inOrder other hold
      · rw [List.mem_singleton.mp hnew] at hother ⊢
        exact Table.InOrder.insertAll (Table.sound_of_nil rfl) hinsert (free _ hother)
  | drop name => exact inOrder other (List.mem_filter.mp hother).1

namespace History

/-- No floating point number is in a primary key, neither of a tuple nor to update. -/
def KeysFloatFree : (history : History) → List Operation → Prop
  | _, [] => True
  | history, operation :: operations =>
      operation.keyFloatFree history.database = true ∧
        (∀ table ∈ (history.next operation).database.tables, table.keyed.FloatFree) ∧
        (history.next operation).KeysFloatFree operations

instance decidableKeysFloatFree : (history : History) → (operations : List Operation) →
    Decidable (history.KeysFloatFree operations)
  | _, [] => inferInstanceAs (Decidable True)
  | history, operation :: operations =>
      have := decidableKeysFloatFree (history.next operation) operations
      inferInstanceAs (Decidable (_ ∧ _ ∧ (history.next operation).KeysFloatFree operations))

theorem inOrder_run {history : History} {operations : List Operation}
    (free : history.KeysFloatFree operations)
    (inOrder : ∀ table ∈ history.database.tables, table.InOrder) :
    ∀ table ∈ (history.run operations).database.tables, table.InOrder := by
  induction operations generalizing history with
  | nil => exact inOrder
  | cons operation operations ih =>
      obtain ⟨hkey, hnext, hrest⟩ := free
      refine ih hrest ?_
      rcases next_database history operation with h | h
      · exact h ▸ inOrder
      · rw [h] at hnext ⊢
        exact (step_of_apply operation hkey).inOrder inOrder hnext

/-- A NaN, which every number equals, leads the search for the places of the later keys. -/
def disordering : List Operation :=
  [.createSpace ⟨0, "comment", [⟨"post", "unsigned", false⟩, ⟨"seq", "unsigned", false⟩,
        ⟨"body", "string", false⟩], [⟨0, "primary", true, [0, 1]⟩]⟩
      [[.int 1, .int 2, .text "a"], [.int 3, .int 8, .text "b"],
        [.float64 0x7ff8000000000000, .int 4, .text "c"], [.int 6, .int 3, .text "d"],
        [.int 7, .int 5, .text "e"], [.int 2, .int 7, .text "f"], [.int 5, .int 2, .text "g"]],
    .ask (.delete "comment" [.float64 0x7ff8000000000000, .int 4])]

def disordered : Table where
  space := ⟨512, "comment", [⟨"post", "unsigned", false⟩, ⟨"seq", "unsigned", false⟩,
    ⟨"body", "string", false⟩], [⟨0, "primary", true, [0, 1]⟩]⟩
  tuples := [[.int 1, .int 2, .text "a"], [.int 6, .int 3, .text "d"],
    [.int 2, .int 7, .text "f"], [.int 3, .int 8, .text "b"], [.int 5, .int 2, .text "g"],
    [.int 7, .int 5, .text "e"]]

/-- That no stored key has a floating point number any more does not put them in order. -/
theorem run_disordering :
    (({} : History).run disordering).database = { tables := [disordered], nextId := 513 } ∧
      disordered.FloatFree ∧ ¬disordered.InOrder := by
  refine ⟨by decide +kernel, by decide +kernel, fun inOrder => ?_⟩
  have increasing : Increasing Value.compareKeys (Index.keyOf ⟨0, "primary", true, [0, 1]⟩)
      disordered.tuples := inOrder.increasing _ rfl
  revert increasing
  decide +kernel

end History

/-! ## Finding by key -/

namespace Heap

variable {space : Space} {primary : Index} {key other : Key} {tuple stored : Tuple}

theorem hasKey_apart (hkey : Value.floatFreeKey key = true)
    (hother : Value.floatFreeKey other = true)
    (hstored : Value.floatFreeKey (primary.keyOf stored) = true)
    (apart : Value.compareKeys key other ≠ .eq) (h : hasKey primary other stored = true) :
    hasKey primary key stored = false := by
  rw [Bool.eq_false_iff]
  intro hsame
  refine apart ?_
  rw [hasKey, beq_iff_eq] at h hsame
  rw [← Value.compareKeys_ordersOn.congr_left hstored hkey hother hsame]
  exact h

theorem find?_others_self (heap : Heap space primary) :
    (⟨heap.others key⟩ : Heap space primary).find? key = none := by
  rw [find?, others, List.find?_filter]
  refine List.find?_eq_none.mpr fun tuple _ => ?_
  simp

theorem find?_others (heap : Heap space primary) (hkey : Value.floatFreeKey key = true)
    (hother : Value.floatFreeKey other = true)
    (free : ∀ tuple ∈ heap.tuples, Value.floatFreeKey (primary.keyOf tuple) = true)
    (apart : Value.compareKeys key other ≠ .eq) :
    (⟨heap.others key⟩ : Heap space primary).find? other = heap.find? other := by
  rw [find?, find?, others, List.find?_filter, ← List.head?_filter, ← List.head?_filter]
  congr 1
  refine List.filter_congr fun tuple htuple => ?_
  cases hprobe : hasKey primary other tuple with
  | false => simp
  | true => simp [hasKey_apart hkey hother (free tuple htuple) apart hprobe]

end Heap

namespace Holds

variable {space : Space} {primary : Index} {table after : Table} {heap : Heap space primary}
variable {tuple : Tuple} {key : Key}

theorem find?_eq (holds : Holds table heap) (hkey : Value.floatFreeKey key = true) :
    table.tuples.find? (Heap.hasKey primary key) = heap.find? key := by
  have sorted : @Holds space primary table ⟨table.tuples⟩ :=
    ⟨holds.space_eq, holds.primary_eq, holds.sound, .refl _⟩
  change (⟨table.tuples⟩ : Heap space primary).find? key = _
  cases hfind : table.find primary key with
  | taken position =>
      obtain ⟨l, hl, hfoundl, _⟩ := sorted.find_taken hkey hfind
      obtain ⟨r, hr, hfoundr, _⟩ := holds.find_taken hkey hfind
      rw [hfoundl, hfoundr, ← hl, ← hr]
  | free position =>
      rw [(sorted.find_free hkey hfind).1, (holds.find_free hkey hfind).1]

theorem keysFloatFree (holds : Holds table.keyed heap)
    (free : Value.floatFreeKey (primary.keyOf tuple) = true) : KeysFloatFree space tuple := by
  intro index hindex
  rw [← holds.space_eq] at hindex
  have hindex := Table.mem_keyed hindex
  rw [← table.keyed_primary?, holds.table_primary?] at hindex
  cases hindex
  exact free

end Holds

/-! ## One key -/

namespace Table

variable {table after last : Table} {primary : Index} {tuple : Tuple} {key : Key}

def lookup (table : Table) (primary : Index) (key : Key) : Option Tuple :=
  table.tuples.find? (Heap.hasKey primary key)

/-- A change which leaves the tuples with other keys. -/
structure OnlyAt (primary : Index) (key : Key) (table after : Table) : Prop where
  space_eq : after.space = table.space
  inOrder : after.InOrder
  apart : ∀ other, Value.floatFreeKey other = true → Value.compareKeys key other ≠ .eq →
    after.lookup primary other = table.lookup primary other

theorem OnlyAt.trans (first : OnlyAt primary key table after)
    (second : OnlyAt primary key after last) : OnlyAt primary key table last where
  space_eq := second.space_eq.trans first.space_eq
  inOrder := second.inOrder
  apart other hother h := (second.apart other hother h).trans (first.apart other hother h)

theorem InOrder.holds (inOrder : table.InOrder) (hprimary : table.space.primary? = some primary) :
    Holds table.keyed (⟨table.tuples⟩ : Heap table.keyed.space primary) :=
  ⟨rfl, table.keyed_primary?.trans hprimary, inOrder, .refl _⟩

theorem onlyAt_of_holds (inOrder : table.InOrder) (hprimary : table.space.primary? = some primary)
    (hkey : Value.floatFreeKey key = true) (hspace : after.space = table.space)
    (put : List Tuple)
    (holds : @Holds table.keyed.space primary after.keyed
      ⟨put ++ Heap.others (⟨table.tuples⟩ : Heap table.keyed.space primary) key⟩)
    (hput : ∀ tuple ∈ put, primary.keyOf tuple = key) : OnlyAt primary key table after where
  space_eq := hspace
  inOrder := holds.sound
  apart other hother apart := by
    have before := inOrder.holds hprimary
    have hnone : put.find? (Heap.hasKey primary other) = none := by
      refine List.find?_eq_none.mpr fun tuple htuple => ?_
      rw [Heap.hasKey, hput tuple htuple, beq_iff_eq]
      exact apart
    rw [lookup, lookup]
    refine (holds.find?_eq hother).trans ?_
    rw [Heap.find?, List.find?_append, hnone, Option.none_or]
    exact Heap.find?_others _ hkey hother before.primary_floatFree apart

theorem onlyAt_of_put (inOrder : table.InOrder) (hprimary : table.space.primary? = some primary)
    (free : Value.floatFreeKey (primary.keyOf tuple) = true)
    (h : table.insert tuple = .ok after ∨ table.replace tuple = .ok after) :
    OnlyAt primary (primary.keyOf tuple) table after ∧
      after.lookup primary (primary.keyOf tuple) = some tuple := by
  have before := inOrder.holds hprimary
  have hkeys : KeysFloatFree table.keyed.space tuple := before.keysFloatFree free
  have hself := Value.compareKeys_ordersOn.refl free
  -- where the place of the key is free, no tuple has to make room
  have hinserted : ∀ position, table.find primary (primary.keyOf tuple) = .free position →
      table.Fresh tuple table.tuples →
      @Holds table.keyed.space primary
        ({ table with tuples := table.tuples.insertIdx position tuple } : Table).keyed
        ⟨tuple :: Heap.others (⟨table.tuples⟩ : Heap table.keyed.space primary)
          (primary.keyOf tuple)⟩ := by
    intro position hfind fresh
    rw [(before.find_free free hfind).2]
    exact before.insertIdx hkeys hfind fresh.keyed
  have hafter : after.space = table.space ∧ @Holds table.keyed.space primary after.keyed
      ⟨tuple :: Heap.others (⟨table.tuples⟩ : Heap table.keyed.space primary)
        (primary.keyOf tuple)⟩ := by
    rcases h with h | h
    · obtain ⟨other, position, hother, hfind, fresh, rfl⟩ := insert_eq_ok h
      cases hprimary.symm.trans hother
      exact ⟨rfl, hinserted position hfind fresh⟩
    · obtain ⟨other, hother, h⟩ := replace_eq_ok h
      cases hprimary.symm.trans hother
      rcases h with ⟨position, hfind, fresh, rfl⟩ | ⟨position, hfind, fresh, rfl⟩
      · exact ⟨rfl, hinserted position hfind fresh⟩
      · exact ⟨rfl, before.set hkeys free hself hfind fresh.keyed⟩
  refine ⟨onlyAt_of_holds inOrder hprimary free hafter.1 [tuple] hafter.2 fun other h => ?_, ?_⟩
  · rw [List.mem_singleton.mp h]
  · refine (hafter.2.find?_eq free).trans (List.find?_cons_of_pos ?_)
    exact Holds.hasKey_iff.mpr hself

theorem onlyAt_of_delete (inOrder : table.InOrder)
    (hprimary : table.space.primary? = some primary) (hkey : Value.floatFreeKey key = true) :
    ∃ after, table.delete key = .ok (after, table.lookup primary key) ∧
      OnlyAt primary key table after ∧ after.lookup primary key = none := by
  have before := inOrder.holds hprimary
  have hdelete : ∃ after, table.delete key = .ok (after, table.lookup primary key) ∧
      after.space = table.space ∧ @Holds table.keyed.space primary after.keyed
        ⟨Heap.others (⟨table.tuples⟩ : Heap table.keyed.space primary) key⟩ := by
    rw [Table.delete, Table.primary_bind hprimary]
    cases hfind : table.find primary key with
    | free position =>
        obtain ⟨hfound, hothers⟩ := before.find_free hkey hfind
        refine ⟨table, ?_, rfl, ?_⟩
        · rw [show table.lookup primary key = none from hfound]
          rfl
        · rw [hothers]
          exact before
    | taken position =>
        obtain ⟨tuple, hget, hfound, hothers⟩ := before.find_taken hkey hfind
        refine ⟨{ table with tuples := table.tuples.eraseIdx position }, ?_, rfl, ?_⟩
        · rw [show table.lookup primary key = some tuple from hfound, ← hget]
          rfl
        · exact ⟨rfl, before.primary_eq, before.sound.sublist (List.eraseIdx_sublist ..), hothers⟩
  obtain ⟨after, heq, hspace, holds⟩ := hdelete
  refine ⟨after, heq, onlyAt_of_holds inOrder hprimary hkey hspace [] holds
    (fun _ h => absurd h List.not_mem_nil), ?_⟩
  exact (holds.find?_eq hkey).trans (Heap.find?_others_self _)

end Table

end TupleStore.Database
