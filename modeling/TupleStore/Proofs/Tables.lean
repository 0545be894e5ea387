import Mathlib.Data.List.Perm.Basic
import TupleStore.Proofs.Contents
import TupleStore.Proofs.Outcomes
import TupleStore.Proofs.Search

/-!
# Tables in order

The tuples of a table stay in primary key order, and no two of them have the same
key in a unique index which was there from the first tuple on.
-/

namespace TupleStore.Database

namespace Table

variable {table after : Table} {tuple : Tuple} {key : Key} {primary : Index} {position : Nat}
variable {early : Nat → Bool}

/-! ## What the operations do -/

theorem primary_eq_ok (h : table.primary = .ok primary) :
    table.space.primary? = some primary := by
  unfold Table.primary at h
  split at h
  · contradiction
  · cases h
    assumption

theorem primary_bind {β : Type} (h : table.space.primary? = some primary)
    (next : Index → Except Fault β) : (table.primary >>= next) = next primary := by
  rw [Table.primary, h]
  rfl

/-- The tuple's keys in the unique indexes are those of none of the others. -/
def Fresh (table : Table) (tuple : Tuple) (others : List Tuple) : Prop :=
  ∀ index ∈ table.space.indexes, index.unique = true → ∀ other ∈ others,
    Value.compareKeys (index.keyOf other) (index.keyOf tuple) ≠ .eq

theorem fresh_of_checkUnique {others : List Tuple}
    (h : table.checkUnique tuple others = .ok ()) : table.Fresh tuple others := by
  unfold checkUnique at h
  split at h
  next hnone =>
    intro index hindex hunique other hother heq
    have hconflict := List.find?_eq_none.mp hnone index hindex
    refine hconflict ?_
    simp only [conflicts, hunique, Bool.true_and, List.any_eq_true, beq_iff_eq]
    exact ⟨other, hother, heq⟩
  next => contradiction

theorem insert_eq_ok (h : table.insert tuple = .ok after) :
    ∃ primary position, table.space.primary? = some primary ∧
      table.find primary (primary.keyOf tuple) = .free position ∧
      table.Fresh tuple table.tuples ∧
      after = { table with tuples := table.tuples.insertIdx position tuple } := by
  obtain ⟨_, _, h⟩ := bind_eq_ok.mp h
  obtain ⟨primary, hprimary, h⟩ := bind_eq_ok.mp h
  refine ⟨primary, ?_⟩
  split at h
  next => contradiction
  next position hfind =>
    obtain ⟨_, hunique, h⟩ := bind_eq_ok.mp h
    cases h
    exact ⟨position, primary_eq_ok hprimary, hfind, fresh_of_checkUnique hunique, rfl⟩

theorem replace_eq_ok (h : table.replace tuple = .ok after) :
    ∃ primary, table.space.primary? = some primary ∧
      ((∃ position, table.find primary (primary.keyOf tuple) = .free position ∧
          table.Fresh tuple table.tuples ∧
          after = { table with tuples := table.tuples.insertIdx position tuple }) ∨
        ∃ position, table.find primary (primary.keyOf tuple) = .taken position ∧
          table.Fresh tuple (table.tuples.eraseIdx position) ∧
          after = { table with tuples := table.tuples.set position tuple }) := by
  obtain ⟨_, _, h⟩ := bind_eq_ok.mp h
  obtain ⟨primary, hprimary, h⟩ := bind_eq_ok.mp h
  refine ⟨primary, primary_eq_ok hprimary, ?_⟩
  split at h
  next position hfind =>
    obtain ⟨_, hunique, h⟩ := bind_eq_ok.mp h
    cases h
    exact .inr ⟨position, hfind, fresh_of_checkUnique hunique, rfl⟩
  next position hfind =>
    obtain ⟨_, hunique, h⟩ := bind_eq_ok.mp h
    cases h
    exact .inl ⟨position, hfind, fresh_of_checkUnique hunique, rfl⟩

theorem update_eq_ok {operations : List UpdateOperation} {result : Option Tuple}
    (h : table.update key operations = .ok (after, result)) :
    result = none ∧ after = table ∨
      ∃ primary position tuple, result = some tuple ∧ table.space.primary? = some primary ∧
        table.find primary key = .taken position ∧
        Value.compareKeys (primary.keyOf tuple) key = .eq ∧
        table.Fresh tuple (table.tuples.eraseIdx position) ∧
        after = { table with tuples := table.tuples.set position tuple } := by
  obtain ⟨primary, hprimary, h⟩ := bind_eq_ok.mp h
  split at h
  next position hfind =>
    cases h
    exact .inl ⟨rfl, rfl⟩
  next position hfind =>
    obtain ⟨tuple, htuple, h⟩ := bind_eq_ok.mp h
    dsimp only at h
    split at h
    next =>
      obtain ⟨_, hthrow, _⟩ := bind_eq_ok.mp h
      contradiction
    next hsame =>
      obtain ⟨_, _, h⟩ := bind_eq_ok.mp h
      obtain ⟨_, hunique, h⟩ := bind_eq_ok.mp h
      cases h
      exact .inr ⟨primary, position, tuple, rfl, primary_eq_ok hprimary, hfind,
        by simpa using hsame, fresh_of_checkUnique hunique, rfl⟩

theorem delete_eq_ok {result : Option Tuple} (h : table.delete key = .ok (after, result)) :
    ∃ tuples, after = { table with tuples } ∧ tuples.Sublist table.tuples := by
  obtain ⟨primary, _, h⟩ := bind_eq_ok.mp h
  split at h
  next =>
    cases h
    exact ⟨table.tuples, rfl, .refl _⟩
  next position hfind =>
    cases h
    exact ⟨_, rfl, List.eraseIdx_sublist ..⟩

/-! ## Order and uniqueness -/

def FloatFree (table : Table) : Prop :=
  ∀ index ∈ table.space.indexes, ∀ tuple ∈ table.tuples,
    Value.floatFreeKey (index.keyOf tuple) = true

instance (table : Table) : Decidable table.FloatFree :=
  inferInstanceAs (Decidable (∀ index ∈ table.space.indexes, ∀ tuple ∈ table.tuples,
    Value.floatFreeKey (index.keyOf tuple) = true))

/--
The tuples are in primary key order, there are none without a primary index, and
their keys differ in the marked ones of the unique indexes.
-/
structure Sound (table : Table) (early : Nat → Bool) : Prop where
  floatFree : table.FloatFree
  increasing : ∀ primary, table.space.primary? = some primary →
    Increasing Value.compareKeys primary.keyOf table.tuples
  primary : table.tuples ≠ [] → ∃ primary, table.space.primary? = some primary
  unique : ∀ i index, table.space.indexes[i]? = some index → early i = true →
    index.unique = true → Distinct Value.compareKeys index.keyOf table.tuples

theorem Sound.mono {marked : Nat → Bool} (sound : table.Sound early)
    (h : ∀ i, i < table.space.indexes.length → marked i = true → early i = true) :
    table.Sound marked :=
  ⟨sound.floatFree, sound.increasing, sound.primary, fun i index hindex hmarked =>
    sound.unique i index hindex (h i (List.getElem?_eq_some_iff.mp hindex).1 hmarked)⟩

theorem sound_of_nil (h : table.tuples = []) : table.Sound early := by
  refine ⟨fun index _ tuple htuple => ?_, fun primary _ => ?_, fun hne => absurd h hne,
    fun i index _ _ _ => ?_⟩
  · rw [h] at htuple
    contradiction
  · rw [h]
    exact .nil
  · rw [h]
    exact .nil

theorem Sound.sublist (sound : table.Sound early) {tuples : List Tuple}
    (h : tuples.Sublist table.tuples) : ({ table with tuples } : Table).Sound early where
  floatFree index hindex tuple htuple := sound.floatFree index hindex tuple (h.mem htuple)
  increasing primary hprimary := (sound.increasing primary hprimary).sublist h
  primary hne := sound.primary fun hnil => hne (List.sublist_nil.mp (hnil ▸ h))
  unique i index hindex hearly hunique :=
    (sound.unique i index hindex hearly hunique).sublist h

private theorem Sound.put (sound : table.Sound early) {tuples others : List Tuple}
    (hprimary : table.space.primary? = some primary)
    (increasing : Increasing Value.compareKeys primary.keyOf tuples)
    (perm : tuples.Perm (tuple :: others)) (part : others.Sublist table.tuples)
    (fresh : table.Fresh tuple others) (free : ({ table with tuples } : Table).FloatFree) :
    ({ table with tuples } : Table).Sound early where
  floatFree := free
  increasing other hother := by
    have hsame : other = primary := by
      rw [hprimary] at hother
      exact (Option.some.inj hother).symm
    rw [hsame]
    exact increasing
  primary _ := ⟨primary, hprimary⟩
  unique i index hindex hearly hunique := by
    have hmem : index ∈ table.space.indexes := List.mem_of_getElem? hindex
    have hfree : ∀ other ∈ tuple :: others, Value.floatFreeKey (index.keyOf other) = true :=
      fun other hother => free index hmem other (perm.mem_iff.mpr hother)
    refine Distinct.perm Value.compareKeys_ordersOn hfree perm.symm ?_
    refine List.pairwise_cons.mpr ⟨fun other hother heq => ?_, ?_⟩
    · refine fresh index hmem hunique other hother ?_
      exact (Value.compareKeys_ordersOn.eq_comm (hfree tuple (by simp))
        (hfree other (by simp [hother]))).mp heq
    · exact (sound.unique i index hindex hearly hunique).sublist part

private theorem Sound.find_free (sound : table.Sound early)
    (hprimary : table.space.primary? = some primary) (hkey : Value.floatFreeKey key = true)
    (hfind : table.find primary key = .free position) :
    position ≤ table.tuples.length ∧
      (∀ j other, j < position → table.tuples[j]? = some other →
        Value.compareKeys (primary.keyOf other) key = .lt) ∧
      ∀ j other, position ≤ j → table.tuples[j]? = some other →
        Value.compareKeys (primary.keyOf other) key = .gt :=
  search_free (probes_of_increasing Value.compareKeys_ordersOn (sound.increasing primary hprimary)
    (sound.floatFree primary (Space.primary_mem hprimary)) hkey) hfind

theorem Sound.insertIdx (sound : table.Sound early)
    (hprimary : table.space.primary? = some primary)
    (hfind : table.find primary (primary.keyOf tuple) = .free position)
    (fresh : table.Fresh tuple table.tuples)
    (free : ({ table with tuples := table.tuples.insertIdx position tuple } : Table).FloatFree) :
    ({ table with tuples := table.tuples.insertIdx position tuple } : Table).Sound early := by
  have perm := List.perm_insertIdx tuple table.tuples (search_free_le hfind)
  have hmem : primary ∈ table.space.indexes := Space.primary_mem hprimary
  have hkey : Value.floatFreeKey (primary.keyOf tuple) = true :=
    free primary hmem tuple (perm.mem_iff.mpr (by simp))
  obtain ⟨hle, hbefore, hbehind⟩ := sound.find_free hprimary hkey hfind
  refine sound.put hprimary ?_ perm (.refl _) fresh free
  refine (sound.increasing primary hprimary).insertIdx hle hbefore fun j other hj hother => ?_
  exact (Value.compareKeys_ordersOn.gt_iff_lt
    (sound.floatFree primary hmem other (List.mem_of_getElem? hother)) hkey).mp
    (hbehind j other hj hother)

theorem Sound.set (sound : table.Sound early) (hprimary : table.space.primary? = some primary)
    (hkey : Value.floatFreeKey key = true) (hfind : table.find primary key = .taken position)
    (heq : Value.compareKeys (primary.keyOf tuple) key = .eq)
    (fresh : table.Fresh tuple (table.tuples.eraseIdx position))
    (free : ({ table with tuples := table.tuples.set position tuple } : Table).FloatFree) :
    ({ table with tuples := table.tuples.set position tuple } : Table).Sound early := by
  obtain ⟨old, hold, hprobe⟩ := search_taken hfind
  have hlt := (List.getElem?_eq_some_iff.mp hold).1
  have perm := List.set_perm_cons_eraseIdx hlt tuple
  have hmem : primary ∈ table.space.indexes := Space.primary_mem hprimary
  have hnew : Value.floatFreeKey (primary.keyOf tuple) = true :=
    free primary hmem tuple (perm.mem_iff.mpr (by simp))
  have holdFree : Value.floatFreeKey (primary.keyOf old) = true :=
    sound.floatFree primary hmem old (List.mem_of_getElem? hold)
  have hsame : Value.compareKeys (primary.keyOf old) (primary.keyOf tuple) = .eq := by
    rw [Value.compareKeys_ordersOn.congr_left holdFree hkey hnew hprobe]
    exact (Value.compareKeys_ordersOn.eq_comm hnew hkey).mp heq
  refine sound.put hprimary ?_ perm (List.eraseIdx_sublist ..) fresh free
  exact (sound.increasing primary hprimary).set Value.compareKeys_ordersOn
    (sound.floatFree primary hmem) hnew hold hsame

/-! ## Changes -/

/-- The changes of a table, each with what makes it a harmless one. -/
inductive Change (table : Table) : Table → Prop
  | insert {primary : Index} {position : Nat} {tuple : Tuple}
      (hprimary : table.space.primary? = some primary)
      (hfind : table.find primary (primary.keyOf tuple) = .free position)
      (fresh : table.Fresh tuple table.tuples) :
      Change table { table with tuples := table.tuples.insertIdx position tuple }
  | set {primary : Index} {key : Key} {position : Nat} {tuple : Tuple}
      (hprimary : table.space.primary? = some primary)
      (hkey : Value.floatFreeKey (primary.keyOf tuple) = true →
        Value.floatFreeKey key = true ∧ Value.compareKeys (primary.keyOf tuple) key = .eq)
      (hfind : table.find primary key = .taken position)
      (fresh : table.Fresh tuple (table.tuples.eraseIdx position)) :
      Change table { table with tuples := table.tuples.set position tuple }
  | remove {tuples : List Tuple} (h : tuples.Sublist table.tuples) :
      Change table { table with tuples }
  | format (format : List Field) : Change table { table with space := { table.space with format } }
  | index (index : Index) :
      Change table
        { table with space := { table.space with indexes := table.space.indexes ++ [index] } }

theorem primary?_append {space : Space} (index : Index) (h : space.primary? = some primary) :
    ({ space with indexes := space.indexes ++ [index] } : Space).primary? = some primary := by
  rw [Space.primary?] at h ⊢
  rw [List.find?_append, h]
  rfl

theorem Sound.change (sound : table.Sound early) (change : Change table after)
    (free : after.FloatFree) :
    after.Sound fun i =>
      if i < table.space.indexes.length then early i else table.tuples.isEmpty := by
  have hmarks : ∀ i, i < table.space.indexes.length →
      (if i < table.space.indexes.length then early i else table.tuples.isEmpty) = true →
      early i = true := by
    intro i hi h
    rwa [if_pos hi] at h
  cases change with
  | insert hprimary hfind fresh =>
      exact (sound.insertIdx hprimary hfind fresh free).mono hmarks
  | @set primary key position tuple hprimary hkey hfind fresh =>
      obtain ⟨old, hold, _⟩ := search_taken hfind
      have perm := List.set_perm_cons_eraseIdx (List.getElem?_eq_some_iff.mp hold).1 tuple
      have hnew := free primary (Space.primary_mem hprimary) tuple (perm.mem_iff.mpr (by simp))
      obtain ⟨hkey, heq⟩ := hkey hnew
      exact (sound.set hprimary hkey hfind heq fresh free).mono hmarks
  | remove h => exact (sound.sublist h).mono hmarks
  | format format =>
      exact ⟨sound.floatFree, sound.increasing, sound.primary, fun i index hindex hearly =>
        sound.unique i index hindex
          (hmarks i (List.getElem?_eq_some_iff.mp hindex).1 hearly)⟩
  | index index =>
      by_cases hnil : table.tuples = []
      · exact sound_of_nil hnil
      obtain ⟨primary, hprimary⟩ := sound.primary hnil
      have hafter := primary?_append index hprimary
      refine ⟨free, fun other hother => ?_, fun _ => ⟨primary, hafter⟩,
        fun i other hother hearly hunique => ?_⟩
      · rw [hafter] at hother
        cases hother
        exact sound.increasing primary hprimary
      · by_cases hi : i < table.space.indexes.length
        · rw [List.getElem?_append_left hi] at hother
          exact sound.unique i other hother (hmarks i hi hearly) hunique
        · rw [if_neg hi] at hearly
          exact absurd (List.isEmpty_iff.mp hearly) hnil

/-! ## Operations are changes -/

theorem change_of_insert (h : table.insert tuple = .ok after) : Change table after := by
  obtain ⟨primary, position, hprimary, hfind, fresh, rfl⟩ := insert_eq_ok h
  exact .insert hprimary hfind fresh

theorem change_of_replace (h : table.replace tuple = .ok after) : Change table after := by
  obtain ⟨primary, hprimary, ⟨position, hfind, fresh, rfl⟩ | ⟨position, hfind, fresh, rfl⟩⟩ :=
    replace_eq_ok h
  · exact .insert hprimary hfind fresh
  · exact .set hprimary (fun hkey => ⟨hkey, Value.compareKeys_ordersOn.refl hkey⟩) hfind fresh

theorem change_of_update {operations : List UpdateOperation} {result : Option Tuple}
    (hkey : Value.floatFreeKey key = true)
    (h : table.update key operations = .ok (after, result)) : Change table after := by
  rcases update_eq_ok h with ⟨_, rfl⟩ |
    ⟨primary, position, tuple, _, hprimary, hfind, heq, fresh, rfl⟩
  · exact .remove (.refl _)
  · exact .set hprimary (fun _ => ⟨hkey, heq⟩) hfind fresh

theorem change_of_upsert {operations : List UpdateOperation}
    (hkey : ∀ primary, table.space.primary? = some primary →
      Value.floatFreeKey (primary.keyOf tuple) = true)
    (h : table.upsert tuple operations = .ok after) : Change table after := by
  obtain ⟨primary, hprimary, h⟩ := bind_eq_ok.mp h
  obtain ⟨⟨updated, result⟩, hupdate, h⟩ := bind_eq_ok.mp h
  have hchange := change_of_update (hkey primary (primary_eq_ok hprimary)) hupdate
  cases result with
  | some tuple =>
      cases h
      exact hchange
  | none =>
      rcases update_eq_ok hupdate with ⟨_, hsame⟩ | ⟨_, _, _, hsome, _⟩
      · rw [hsame] at h
        exact change_of_insert h
      · contradiction

theorem change_of_delete {result : Option Tuple} (h : table.delete key = .ok (after, result)) :
    Change table after := by
  obtain ⟨tuples, rfl, hsublist⟩ := delete_eq_ok h
  exact .remove hsublist

/-! ## Filling a table -/

theorem insertAll_grows {tuples : List Tuple}
    (h : tuples.foldlM Table.insert table = .ok after) :
    after.space = table.space ∧ table.tuples ⊆ after.tuples := by
  induction tuples generalizing table with
  | nil =>
      cases h
      exact ⟨rfl, fun _ h => h⟩
  | cons tuple tuples ih =>
      rw [List.foldlM_cons] at h
      obtain ⟨next, hnext, h⟩ := bind_eq_ok.mp h
      obtain ⟨primary, position, _, hfind, _, rfl⟩ := insert_eq_ok hnext
      obtain ⟨hspace, hsubset⟩ := ih h
      refine ⟨hspace, fun other hother => hsubset ?_⟩
      have perm := List.perm_insertIdx tuple table.tuples (search_free_le hfind)
      exact perm.mem_iff.mpr (List.mem_cons_of_mem _ hother)

theorem Sound.insertAll {tuples : List Tuple} (sound : table.Sound early)
    (h : tuples.foldlM Table.insert table = .ok after) (free : after.FloatFree) :
    after.Sound early := by
  induction tuples generalizing table with
  | nil =>
      cases h
      exact sound
  | cons tuple tuples ih =>
      rw [List.foldlM_cons] at h
      obtain ⟨next, hnext, h⟩ := bind_eq_ok.mp h
      obtain ⟨hspace, hsubset⟩ := insertAll_grows h
      have hfree : next.FloatFree := fun index hindex tuple htuple =>
        free index (hspace ▸ hindex) tuple (hsubset htuple)
      obtain ⟨primary, position, hprimary, hfind, fresh, rfl⟩ := insert_eq_ok hnext
      exact ih (sound.insertIdx hprimary hfind fresh hfree) h

end Table

end TupleStore.Database
