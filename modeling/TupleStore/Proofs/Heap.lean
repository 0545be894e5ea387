import TupleStore.Proofs.Requests

/-!
# Tables without order

A heap keeps the tuples of a space in no order and scans all of them on every
call.  A table, which keeps them in primary key order and searches them, cannot be
told from a heap by calls without floating point numbers.
-/

namespace TupleStore.Database

/-- Tuples of a space in no order. -/
structure Heap (space : Space) (primary : Index) where
  tuples : List Tuple
  deriving Repr

namespace Heap

variable {space : Space} {primary : Index}

/-! ## Operations -/

def hasKey (primary : Index) (key : Key) (tuple : Tuple) : Bool :=
  Value.compareKeys (primary.keyOf tuple) key == .eq

def find? (heap : Heap space primary) (key : Key) : Option Tuple :=
  heap.tuples.find? (hasKey primary key)

def others (heap : Heap space primary) (key : Key) : List Tuple :=
  heap.tuples.filter fun tuple => !hasKey primary key tuple

def fills (tuple : Tuple) (entry : Field × Nat) : Bool :=
  !(fieldAt tuple entry.2).isNil || Table.mayBeNil entry.1

def checkFormat (space : Space) (tuple : Tuple) : Except ErrorKind Unit :=
  if space.format.zipIdx.all (fills tuple) then .ok () else .error .tupleConversion

def checkUnique (space : Space) (tuple : Tuple) (others : List Tuple) : Except ErrorKind Unit :=
  if space.indexes.all fun index => !index.unique || others.all fun other =>
      Value.compareKeys (index.keyOf other) (index.keyOf tuple) != .eq then
    .ok ()
  else .error .spaceOperation

/-- The tuple beside others, from whose keys in the unique indexes its own must differ. -/
def put (tuple : Tuple) (others : List Tuple) : Except ErrorKind (Heap space primary) := do
  checkUnique space tuple others
  return ⟨tuple :: others⟩

def insert (heap : Heap space primary) (tuple : Tuple) :
    Except ErrorKind (Heap space primary) := do
  checkFormat space tuple
  if (heap.find? (primary.keyOf tuple)).isSome then throw .spaceOperation
  put tuple heap.tuples

def replace (heap : Heap space primary) (tuple : Tuple) :
    Except ErrorKind (Heap space primary) := do
  checkFormat space tuple
  put tuple (heap.others (primary.keyOf tuple))

def update (heap : Heap space primary) (key : Key) (operations : List UpdateOperation) :
    Except ErrorKind (Heap space primary × Option Tuple) :=
  match heap.find? key with
  | none => return (heap, none)
  | some old => do
      let tuple ← (Table.applyOperations old operations).mapError Fault.kind
      if !hasKey primary key tuple then throw .spaceOperation
      checkFormat space tuple
      return (← put tuple (heap.others key), some tuple)

def upsert (heap : Heap space primary) (tuple : Tuple) (operations : List UpdateOperation) :
    Except ErrorKind (Heap space primary) := do
  match ← heap.update (primary.keyOf tuple) operations with
  | (heap, some _) => return heap
  | (heap, none) => heap.insert tuple

def delete (heap : Heap space primary) (key : Key) : Heap space primary × Option Tuple :=
  (⟨heap.others key⟩, heap.find? key)

/-- The matching tuples are put in primary key order before the window cuts them. -/
def select (heap : Heap space primary) (conditions : Conditions) :
    Except ErrorKind (List Tuple) := do
  let matching ← (conditions.matching space heap.tuples).mapError fun name =>
    (Fault.unknownName name).kind
  return conditions.window (sortBy Value.compareKeys primary.keyOf matching)

end Heap

/-! ## Agreement -/

/-- Both results are related, or both operations fail with errors of one kind. -/
inductive Agree {α β : Type} (R : α → β → Prop) : Except Fault α → Except ErrorKind β → Prop
  | ok {l : α} {r : β} (h : R l r) : Agree R (.ok l) (.ok r)
  | error (fault : Fault) : Agree R (.error fault) (.error fault.kind)

namespace Agree

variable {α β γ δ : Type} {R : α → β → Prop} {S : γ → δ → Prop}

theorem of_mapError (outcome : Except Fault α) :
    Agree Eq outcome (outcome.mapError Fault.kind) := by
  cases outcome with
  | ok _ => exact .ok rfl
  | error fault => exact .error fault

theorem bind {l : Except Fault α} {r : Except ErrorKind β} {f : α → Except Fault γ}
    {g : β → Except ErrorKind δ} (agree : Agree R l r)
    (next : ∀ x y, l = .ok x → R x y → Agree S (f x) (g y)) : Agree S (l >>= f) (r >>= g) := by
  cases agree with
  | ok h => exact next _ _ rfl h
  | error fault => exact .error fault

end Agree

/-! ## Tables and heaps -/

structure Holds {space : Space} {primary : Index} (table : Table) (heap : Heap space primary) :
    Prop where
  space_eq : table.space = space
  primary_eq : space.primary? = some primary
  sound : table.Sound fun _ => false
  perm : heap.tuples.Perm table.tuples

def KeysFloatFree (space : Space) (tuple : Tuple) : Prop :=
  ∀ index ∈ space.indexes, Value.floatFreeKey (index.keyOf tuple) = true

instance (space : Space) (tuple : Tuple) : Decidable (KeysFloatFree space tuple) :=
  inferInstanceAs (Decidable (∀ index ∈ space.indexes, _))

namespace Holds

variable {space : Space} {primary : Index} {table after : Table} {heap : Heap space primary}
variable {tuple : Tuple} {key : Key} {position : Nat}

theorem table_primary? (holds : Holds table heap) : table.space.primary? = some primary := by
  rw [holds.space_eq, holds.primary_eq]

theorem primary_floatFree (holds : Holds table heap) :
    ∀ tuple ∈ table.tuples, Value.floatFreeKey (primary.keyOf tuple) = true :=
  holds.sound.floatFree primary (Space.primary_mem holds.table_primary?)

theorem increasing (holds : Holds table heap) :
    Increasing Value.compareKeys primary.keyOf table.tuples :=
  holds.sound.increasing primary holds.table_primary?

theorem hasKey_iff : Heap.hasKey primary key tuple = true ↔
    Value.compareKeys (primary.keyOf tuple) key = .eq := by
  rw [Heap.hasKey, beq_iff_eq]

/-! ### Searches -/

theorem hasKey_others (holds : Holds table heap) (hkey : Value.floatFreeKey key = true)
    (hget : table.tuples[position]? = some tuple)
    (hprobe : Heap.hasKey primary key tuple = true) :
    ∀ other ∈ table.tuples.eraseIdx position, Heap.hasKey primary key other = false := by
  obtain ⟨hlt, rfl⟩ := List.getElem?_eq_some_iff.mp hget
  have hfree := holds.primary_floatFree
  have hperm := (List.getElem_cons_eraseIdx_perm hlt).symm
  have hdistinct := holds.increasing.distinct.perm Value.compareKeys_ordersOn hfree hperm
  intro other hother
  by_contra hsame
  rw [Bool.not_eq_false, hasKey_iff] at hsame
  refine (List.pairwise_cons.mp hdistinct).1 other hother ?_
  have hmem : other ∈ table.tuples := List.eraseIdx_subset hother
  rw [Value.compareKeys_ordersOn.congr_left (hfree _ (List.getElem_mem hlt)) hkey
    (hfree other hmem) (hasKey_iff.mp hprobe)]
  exact (Value.compareKeys_ordersOn.eq_comm (hfree other hmem) hkey).mp hsame

theorem find_taken (holds : Holds table heap) (hkey : Value.floatFreeKey key = true)
    (hfind : table.find primary key = .taken position) :
    ∃ tuple, table.tuples[position]? = some tuple ∧ heap.find? key = some tuple ∧
      (heap.others key).Perm (table.tuples.eraseIdx position) := by
  obtain ⟨tuple, hget, hprobe⟩ := search_taken hfind
  have hprobe : Heap.hasKey primary key tuple = true := hasKey_iff.mpr hprobe
  have hothers := holds.hasKey_others hkey hget hprobe
  have hperm : heap.tuples.Perm (tuple :: table.tuples.eraseIdx position) := by
    obtain ⟨hlt, rfl⟩ := List.getElem?_eq_some_iff.mp hget
    exact holds.perm.trans (List.getElem_cons_eraseIdx_perm hlt).symm
  refine ⟨tuple, hget, ?_, ?_⟩
  · have hsome : (heap.find? key).isSome :=
      List.find?_isSome.mpr ⟨tuple, hperm.mem_iff.mpr List.mem_cons_self, hprobe⟩
    obtain ⟨found, hfound⟩ := Option.isSome_iff_exists.mp hsome
    rw [hfound]
    rcases List.mem_cons.mp (hperm.mem_iff.mp (List.mem_of_find?_eq_some hfound)) with
      rfl | hother
    · rfl
    · have := List.find?_some hfound
      rw [hothers found hother] at this
      contradiction
  · refine (hperm.filter _).trans ?_
    rw [List.filter_cons_of_neg (by simp [hprobe]),
      List.filter_eq_self.mpr fun other hother => by simp [hothers other hother]]

theorem find_free (holds : Holds table heap) (hkey : Value.floatFreeKey key = true)
    (hfind : table.find primary key = .free position) :
    heap.find? key = none ∧ heap.others key = heap.tuples := by
  obtain ⟨_, hbefore, hbehind⟩ := search_free (probes_of_increasing Value.compareKeys_ordersOn
    holds.increasing holds.primary_floatFree hkey) hfind
  have hnone : ∀ tuple ∈ heap.tuples, Heap.hasKey primary key tuple = false := by
    intro tuple hmem
    obtain ⟨j, hj⟩ := List.getElem?_of_mem (holds.perm.mem_iff.mp hmem)
    rw [Heap.hasKey]
    rcases Nat.lt_or_ge j position with hlt | hge
    · rw [hbefore j tuple hlt hj]
      rfl
    · rw [hbehind j tuple hge hj]
      rfl
  refine ⟨List.find?_eq_none.mpr fun tuple hmem => by simp [hnone tuple hmem],
    List.filter_eq_self.mpr fun tuple hmem => by simp [hnone tuple hmem]⟩

/-! ### Checks -/

theorem checkFields_eq (tuple : Tuple) (position : Nat) (fields : List Field) :
    (Table.checkFields tuple position fields).mapError Fault.kind =
      if (fields.zipIdx position).all (Heap.fills tuple) then .ok ()
      else .error .tupleConversion := by
  induction fields generalizing position with
  | nil => rfl
  | cons field fields ih =>
      have hfills : Heap.fills tuple (field, position) =
          !((fieldAt tuple position).isNil && !Table.mayBeNil field) := by
        rw [Heap.fills, Bool.not_and, Bool.not_not]
      rw [Table.checkFields, List.zipIdx_cons, List.all_cons, hfills]
      split
      next hmissing =>
        rw [hmissing]
        rfl
      next hpresent =>
        rw [Bool.not_eq_true] at hpresent
        rw [ih, hpresent]
        rfl

theorem checkFormat_agrees (holds : Holds table heap) (tuple : Tuple) :
    Agree Eq (table.checkFormat tuple) (Heap.checkFormat space tuple) := by
  rw [Heap.checkFormat, ← checkFields_eq, ← holds.space_eq]
  exact .of_mapError _

theorem checkUnique_agrees (holds : Holds table heap) (tuple : Tuple) {others rest : List Tuple}
    (perm : others.Perm rest) :
    Agree Eq (table.checkUnique tuple rest) (Heap.checkUnique space tuple others) := by
  have hconflicts : ∀ index : Index,
      (others.all fun other =>
        Value.compareKeys (index.keyOf other) (index.keyOf tuple) != .eq) =
        !Table.conflicts index tuple rest := by
    intro index
    rw [perm.all_eq, Table.conflicts, List.not_any_eq_all_not]
    rfl
  unfold Heap.checkUnique Table.checkUnique
  simp only [hconflicts, holds.space_eq]
  cases hfind : space.indexes.find? fun index =>
      index.unique && Table.conflicts index tuple rest with
  | none =>
      have hall : (space.indexes.all fun index =>
          !index.unique || !Table.conflicts index tuple rest) = true := by
        rw [List.all_eq_true]
        intro index hindex
        have := List.find?_eq_none.mp hfind index hindex
        rwa [Bool.not_eq_true, ← Bool.not_eq_true', Bool.not_and] at this
      rw [if_pos hall]
      exact .ok rfl
  | some index =>
      have hnot : ¬ (space.indexes.all fun index =>
          !index.unique || !Table.conflicts index tuple rest) = true := by
        intro hall
        have := List.all_eq_true.mp hall index (List.mem_of_find?_eq_some hfind)
        rw [← Bool.not_and, List.find?_some hfind] at this
        contradiction
      rw [if_neg hnot]
      exact .error (.duplicateKey index.name space.name)

/-! ### Changes -/

theorem change (holds : Holds table heap) {tuples others : List Tuple}
    (change : Table.Change table { table with tuples })
    (perm : (tuple :: others).Perm tuples) (part : ∀ other ∈ others, other ∈ table.tuples)
    (free : KeysFloatFree space tuple) :
    @Holds space primary { table with tuples } ⟨tuple :: others⟩ where
  space_eq := holds.space_eq
  primary_eq := holds.primary_eq
  perm := perm
  sound := by
    refine (holds.sound.change change fun index hindex other hother => ?_).mono
      fun _ _ h => absurd h Bool.false_ne_true
    rcases List.mem_cons.mp (perm.mem_iff.mpr hother) with rfl | hmem
    · exact free index (holds.space_eq ▸ hindex)
    · exact holds.sound.floatFree index hindex other (part other hmem)

theorem insertIdx (holds : Holds table heap) (free : KeysFloatFree space tuple)
    (hfind : table.find primary (primary.keyOf tuple) = .free position)
    (fresh : table.Fresh tuple table.tuples) :
    @Holds space primary { table with tuples := table.tuples.insertIdx position tuple }
      ⟨tuple :: heap.tuples⟩ := by
  refine holds.change (.insert holds.table_primary? hfind fresh) ?_
    (fun other h => holds.perm.mem_iff.mp h) free
  exact (holds.perm.cons tuple).trans
    (List.perm_insertIdx tuple table.tuples (search_free_le hfind)).symm

theorem set (holds : Holds table heap) (free : KeysFloatFree space tuple)
    (hkey : Value.floatFreeKey key = true)
    (heq : Value.compareKeys (primary.keyOf tuple) key = .eq)
    (hfind : table.find primary key = .taken position)
    (fresh : table.Fresh tuple (table.tuples.eraseIdx position)) :
    @Holds space primary { table with tuples := table.tuples.set position tuple }
      ⟨tuple :: heap.others key⟩ := by
  obtain ⟨old, hget, _, hothers⟩ := holds.find_taken hkey hfind
  refine holds.change (.set holds.table_primary? (fun _ => ⟨hkey, heq⟩) hfind fresh) ?_
    (fun other h => List.eraseIdx_subset (hothers.mem_iff.mp h)) free
  exact (hothers.cons tuple).trans
    (List.set_perm_cons_eraseIdx (List.getElem?_eq_some_iff.mp hget).1 tuple).symm

theorem insertIdx_agrees (holds : Holds table heap) (free : KeysFloatFree space tuple)
    (hfind : table.find primary (primary.keyOf tuple) = .free position) :
    Agree (@Holds space primary) (do
      table.checkUnique tuple table.tuples
      return { table with tuples := table.tuples.insertIdx position tuple })
      (Heap.put tuple heap.tuples) :=
  (holds.checkUnique_agrees tuple holds.perm).bind fun _ _ hunique _ =>
    .ok (holds.insertIdx free hfind (Table.fresh_of_checkUnique hunique))

theorem set_agrees (holds : Holds table heap) (free : KeysFloatFree space tuple)
    (hkey : Value.floatFreeKey key = true)
    (heq : Value.compareKeys (primary.keyOf tuple) key = .eq)
    (hfind : table.find primary key = .taken position) :
    Agree (@Holds space primary) (do
      table.checkUnique tuple (table.tuples.eraseIdx position)
      return { table with tuples := table.tuples.set position tuple })
      (Heap.put tuple (heap.others key)) := by
  obtain ⟨_, _, _, hothers⟩ := holds.find_taken hkey hfind
  refine (holds.checkUnique_agrees tuple hothers).bind fun _ _ hunique _ => ?_
  exact .ok (holds.set free hkey heq hfind (Table.fresh_of_checkUnique hunique))

/-! ### Operations -/

theorem key_floatFree (holds : Holds table heap) (free : KeysFloatFree space tuple) :
    Value.floatFreeKey (primary.keyOf tuple) = true :=
  free primary (Space.primary_mem holds.primary_eq)

theorem insert_agrees (holds : Holds table heap) (free : KeysFloatFree space tuple) :
    Agree (@Holds space primary) (table.insert tuple)
      (heap.insert tuple) := by
  have hkey := holds.key_floatFree free
  refine (holds.checkFormat_agrees tuple).bind fun _ _ _ _ => ?_
  rw [Table.primary_bind holds.table_primary?]
  cases hfind : table.find primary (primary.keyOf tuple) with
  | taken position =>
      obtain ⟨_, _, hfound, _⟩ := holds.find_taken hkey hfind
      rw [hfound]
      exact .error (.duplicateKey primary.name table.space.name)
  | free position =>
      rw [(holds.find_free hkey hfind).1]
      exact holds.insertIdx_agrees free hfind

theorem replace_agrees (holds : Holds table heap) (free : KeysFloatFree space tuple) :
    Agree (@Holds space primary) (table.replace tuple)
      (heap.replace tuple) := by
  have hkey := holds.key_floatFree free
  refine (holds.checkFormat_agrees tuple).bind fun _ _ _ _ => ?_
  rw [Table.primary_bind holds.table_primary?]
  cases hfind : table.find primary (primary.keyOf tuple) with
  | taken position =>
      exact holds.set_agrees free hkey (Value.compareKeys_ordersOn.refl hkey) hfind
  | free position =>
      rw [(holds.find_free hkey hfind).2]
      exact holds.insertIdx_agrees free hfind

/-! ### Updates -/

theorem floatFreeKey_iff {key : Key} :
    Value.floatFreeKey key = true ↔ ∀ value ∈ key, value.floatFree = true := by
  induction key with
  | nil => simp [Value.floatFreeKey]
  | cons value key ih => simp [Value.floatFreeKey, ih]

theorem operand_floatFree {operation : UpdateOperation} {old value : Value}
    (h : Table.operand operation old = .ok value) (hvalue : operation.value.floatFree = true) :
    value.floatFree = true := by
  unfold Table.operand at h
  split at h
  · cases h
    exact hvalue
  · split at h <;> cases h
    rfl
  · split at h <;> cases h
    rfl
  · contradiction

theorem fieldAt_padded (tuple : Tuple) (count i : Nat) :
    fieldAt (tuple ++ List.replicate count Value.nil) i = fieldAt tuple i := by
  simp only [fieldAt, List.getD_eq_getElem?_getD, List.getElem?_append,
    List.getElem?_replicate]
  split
  · rfl
  next hge =>
    rw [List.getElem?_eq_none (by omega)]
    split <;> rfl

theorem fieldAt_applyOperation {operation : UpdateOperation} {after : Tuple}
    (h : Table.applyOperation tuple operation = .ok after) :
    ∃ value, Table.operand operation (fieldAt tuple operation.position) = .ok value ∧
      ∀ i, fieldAt after i = if operation.position = i then value else fieldAt tuple i := by
  obtain ⟨value, hvalue, h⟩ := bind_eq_ok.mp h
  cases h
  refine ⟨value, hvalue, fun i => ?_⟩
  split
  next heq =>
    subst heq
    rw [fieldAt, List.getD_eq_getElem?_getD, List.getElem?_set_self (by simp; omega),
      Option.getD_some]
  next hne =>
    rw [fieldAt, List.getD_eq_getElem?_getD, List.getElem?_set_ne hne,
      ← List.getD_eq_getElem?_getD, ← fieldAt, fieldAt_padded]

theorem applyOperations_floatFree {operations : List UpdateOperation} {after : Tuple}
    (h : Table.applyOperations tuple operations = .ok after)
    (hvalues : ∀ operation ∈ operations, operation.value.floatFree = true) {i : Nat}
    (hfield : (fieldAt tuple i).floatFree = true) : (fieldAt after i).floatFree = true := by
  induction operations generalizing tuple with
  | nil =>
      cases h
      exact hfield
  | cons operation operations ih =>
      obtain ⟨hvalue, hvalues⟩ := List.forall_mem_cons.mp hvalues
      obtain ⟨next, hnext, h⟩ := bind_eq_ok.mp h
      obtain ⟨value, hoperand, hfields⟩ := fieldAt_applyOperation hnext
      refine ih h hvalues ?_
      rw [hfields]
      split
      · exact operand_floatFree hoperand hvalue
      · exact hfield

theorem keyOf_applyOperations_floatFree {operations : List UpdateOperation} {after : Tuple}
    {index : Index} (h : Table.applyOperations tuple operations = .ok after)
    (hvalues : ∀ operation ∈ operations, operation.value.floatFree = true)
    (hkey : Value.floatFreeKey (index.keyOf tuple) = true) :
    Value.floatFreeKey (index.keyOf after) = true := by
  rw [floatFreeKey_iff, Index.keyOf, List.forall_mem_map] at hkey ⊢
  exact fun i hi => applyOperations_floatFree h hvalues (hkey i hi)

theorem update_agrees (holds : Holds table heap) {operations : List UpdateOperation}
    (hkey : Value.floatFreeKey key = true)
    (hvalues : ∀ operation ∈ operations, operation.value.floatFree = true) :
    Agree (fun (l : Table × Option Tuple) r => Holds l.1 r.1 ∧ l.2 = r.2)
      (table.update key operations) (heap.update key operations) := by
  rw [Table.update, Table.primary_bind holds.table_primary?, Heap.update]
  cases hfind : table.find primary key with
  | free position =>
      rw [(holds.find_free hkey hfind).1]
      exact .ok ⟨holds, rfl⟩
  | taken position =>
      obtain ⟨old, hget, hfound, _⟩ := holds.find_taken hkey hfind
      have hold : table.tuples.getD position [] = old := by
        rw [List.getD_eq_getElem?_getD, hget, Option.getD_some]
      rw [hfound]
      dsimp only
      rw [hold]
      refine (Agree.of_mapError _).bind fun tuple _ htuple heq => ?_
      subst heq
      have free : KeysFloatFree space tuple := by
        intro index hindex
        refine keyOf_applyOperations_floatFree htuple hvalues ?_
        exact holds.sound.floatFree index (holds.space_eq ▸ hindex) old
          (List.mem_of_getElem? hget)
      by_cases hsame : Value.compareKeys (primary.keyOf tuple) key = .eq
      · rw [if_neg (by simp [hsame]), if_neg (by simp [Heap.hasKey, hsame])]
        refine (holds.checkFormat_agrees tuple).bind fun _ _ _ _ => ?_
        have h := (holds.set_agrees free hkey hsame hfind).bind (S := fun l r =>
          Holds l.1 r.1 ∧ l.2 = r.2) (f := fun table => .ok (table, some tuple))
          (g := fun heap => .ok (heap, some tuple)) fun _ _ _ h => .ok ⟨h, rfl⟩
        rw [bind_assoc] at h
        exact h
      · rw [if_pos (by simp [hsame]), if_pos (by simp [Heap.hasKey, hsame])]
        exact .error (.keyModified table.space.name)

theorem upsert_agrees (holds : Holds table heap) {operations : List UpdateOperation}
    (free : KeysFloatFree space tuple)
    (hvalues : ∀ operation ∈ operations, operation.value.floatFree = true) :
    Agree (@Holds space primary) (table.upsert tuple operations)
      (heap.upsert tuple operations) := by
  rw [Table.upsert, Table.primary_bind holds.table_primary?, Heap.upsert]
  refine (holds.update_agrees (holds.key_floatFree free) hvalues).bind ?_
  rintro ⟨table, result⟩ ⟨heap, _⟩ - ⟨holds, rfl⟩
  cases result with
  | none => exact holds.insert_agrees free
  | some _ => exact .ok holds

theorem delete_agrees (holds : Holds table heap) (hkey : Value.floatFreeKey key = true) :
    ∃ after, table.delete key = .ok (after, (heap.delete key).2) ∧
      Holds after (heap.delete key).1 := by
  rw [Table.delete, Table.primary_bind holds.table_primary?]
  cases hfind : table.find primary key with
  | free position =>
      obtain ⟨hfound, hothers⟩ := holds.find_free hkey hfind
      refine ⟨table, by rw [Heap.delete, hfound]; rfl, ?_⟩
      rw [Heap.delete, hothers]
      exact holds
  | taken position =>
      obtain ⟨old, hget, hfound, hothers⟩ := holds.find_taken hkey hfind
      refine ⟨{ table with tuples := table.tuples.eraseIdx position }, ?_, ?_⟩
      · rw [Heap.delete, hfound, ← hget]
        rfl
      · exact ⟨holds.space_eq, holds.primary_eq,
          holds.sound.sublist (List.eraseIdx_sublist ..), hothers⟩

theorem select_agrees (holds : Holds table heap) (conditions : Conditions) :
    Agree Eq (table.select conditions) (heap.select conditions) := by
  rw [Table.select, Conditions.filter, Heap.select, holds.space_eq]
  rcases Conditions.matching_perm conditions space holds.perm with
    ⟨p, hheap, htable⟩ | ⟨x, hheap, htable⟩
  · have hsort : sortBy Value.compareKeys primary.keyOf (heap.tuples.filter p) =
        table.tuples.filter p :=
      sortBy_eq Value.compareKeys_ordersOn
        (fun tuple h => holds.primary_floatFree tuple (List.mem_of_mem_filter h))
        (holds.perm.filter p) (holds.increasing.sublist List.filter_sublist)
    rw [hheap, htable, ← hsort]
    exact .ok rfl
  · rw [hheap, htable]
    exact .error (.unknownName x)

end Holds

/-! ## Calls -/

inductive Call where
  | insert (tuple : Tuple)
  | replace (tuple : Tuple)
  | update (key : Key) (operations : List UpdateOperation)
  | upsert (tuple : Tuple) (operations : List UpdateOperation)
  | delete (key : Key)
  | truncate
  | select (conditions : Conditions)
  deriving DecidableEq, Repr

namespace Call

abbrev Answer : Type := Except ErrorKind (List Tuple)

def FloatFree (space : Space) : Call → Prop
  | .insert tuple | .replace tuple => KeysFloatFree space tuple
  | .update key operations =>
      Value.floatFreeKey key = true ∧
        ∀ operation ∈ operations, operation.value.floatFree = true
  | .upsert tuple operations =>
      KeysFloatFree space tuple ∧ ∀ operation ∈ operations, operation.value.floatFree = true
  | .delete key => Value.floatFreeKey key = true
  | .truncate | .select _ => True

instance (space : Space) : (call : Call) → Decidable (call.FloatFree space)
  | .insert tuple | .replace tuple => inferInstanceAs (Decidable (KeysFloatFree space tuple))
  | .update .. | .upsert .. => inferInstanceAs (Decidable (_ ∧ _))
  | .delete _ => inferInstanceAs (Decidable (_ = true))
  | .truncate | .select _ => inferInstanceAs (Decidable True)

def reported {α : Type} (rows : α → List Tuple) :
    Except ClientError α × Database → Answer × Database
  | (reply, database) => ((reply.map rows).mapError ClientError.kind, database)

def ask (space : String) : Call → Database → Answer × Database
  | .insert tuple, database => reported id (database.handle (.insert space tuple))
  | .replace tuple, database => reported id (database.handle (.replace space tuple))
  | .update key operations, database =>
      reported id (database.handle (.update space key operations))
  | .upsert tuple operations, database =>
      reported (fun _ => []) (database.handle (.upsert space tuple operations))
  | .delete key, database => reported id (database.handle (.delete space key))
  | .truncate, database => reported (fun _ => []) (database.handle (.truncate space))
  | .select conditions, database => reported id (database.handle (.select space conditions))

variable {space : Space} {primary : Index}

/-- The outcome of a change; a refused one leaves the heap as it was. -/
def settle {α : Type} (heap : Heap space primary) (outcome : Except ErrorKind α)
    (next : α → List Tuple × Heap space primary) : Answer × Heap space primary :=
  match outcome with
  | .error kind => (.error kind, heap)
  | .ok result => (.ok (next result).1, (next result).2)

def answer : Call → Heap space primary → Answer × Heap space primary
  | .insert tuple, heap => settle heap (heap.insert tuple) fun heap => ([tuple], heap)
  | .replace tuple, heap => settle heap (heap.replace tuple) fun heap => ([tuple], heap)
  | .update key operations, heap =>
      settle heap (heap.update key operations) fun (heap, tuple) => (tuple.toList, heap)
  | .upsert tuple operations, heap =>
      settle heap (heap.upsert tuple operations) fun heap => ([], heap)
  | .delete key, heap => (.ok (heap.delete key).2.toList, (heap.delete key).1)
  | .truncate, _ => (.ok [], ⟨[]⟩)
  | .select conditions, heap => (heap.select conditions, heap)

def run {σ : Type} (answer : Call → σ → Answer × σ) : List Call → σ → List Answer × σ
  | [], state => ([], state)
  | call :: calls, state =>
      let first := answer call state
      let rest := run answer calls first.2
      (first.1 :: rest.1, rest.2)

end Call

/-! ## Runs -/

def Mirrors {space : Space} {primary : Index} (database : Database) (name : String)
    (heap : Heap space primary) : Prop :=
  ∃ table, database.table? name = some table ∧ Holds table heap

/-- Both answer the same, and the heap still holds the tuples of the table. -/
def Matches {space : Space} {primary : Index} (name : String)
    (l : Call.Answer × Database) (r : Call.Answer × Heap space primary) : Prop :=
  l.1 = r.1 ∧ Mirrors l.2 name r.2

section

variable {space : Space} {primary : Index} {heap : Heap space primary} {database : Database}
variable {table : Table} {name : String}

theorem reported_onTable {α β γ : Type} {R : α → γ → Prop} {change : Table → Except Fault α}
    {outcome : Except ErrorKind γ} {next : α → β × Table}
    {after : γ → List Tuple × Heap space primary} {rows : β → List Tuple}
    (htable : database.table? name = some table) (holds : Holds table heap)
    (agree : Agree R (change table) outcome)
    (hnext : ∀ l r, R l r → rows (next l).1 = (after r).1 ∧ Holds (next l).2 (after r).2) :
    Matches name (Call.reported rows (database.onTable name change next))
      (Call.settle heap outcome after) := by
  generalize hchange : change table = result at agree
  cases agree with
  | error fault =>
      rw [onTable_error htable hchange]
      exact ⟨rfl, table, htable, holds⟩
  | ok h =>
      obtain ⟨hrows, hafter⟩ := hnext _ _ h
      rw [onTable_ok htable hchange]
      refine ⟨congrArg Except.ok hrows, _, table?_putTable htable ?_, hafter⟩
      rw [hafter.space_eq, holds.space_eq]

theorem ask_matches (call : Call) (mirrors : Mirrors database name heap)
    (free : call.FloatFree space) : Matches name (call.ask name database) (call.answer heap) := by
  obtain ⟨table, htable, holds⟩ := mirrors
  cases call with
  | insert tuple =>
      rw [Call.ask, Database.handle, Call.answer]
      exact reported_onTable htable holds (holds.insert_agrees free)
        fun _ _ h => ⟨rfl, h⟩
  | replace tuple =>
      rw [Call.ask, Database.handle, Call.answer]
      exact reported_onTable htable holds (holds.replace_agrees free)
        fun _ _ h => ⟨rfl, h⟩
  | update key operations =>
      rw [Call.ask, Database.handle, Call.answer]
      refine reported_onTable htable holds (holds.update_agrees free.1 free.2) ?_
      rintro ⟨table, result⟩ ⟨heap, _⟩ ⟨h, rfl⟩
      exact ⟨rfl, h⟩
  | upsert tuple operations =>
      rw [Call.ask, Database.handle, Call.answer]
      exact reported_onTable htable holds (holds.upsert_agrees free.1 free.2)
        fun _ _ h => ⟨rfl, h⟩
  | delete key =>
      obtain ⟨after, hdelete, hafter⟩ := holds.delete_agrees free
      rw [Call.ask, Database.handle, onTable_ok htable hdelete]
      refine ⟨rfl, after, table?_putTable htable ?_, hafter⟩
      rw [hafter.space_eq, holds.space_eq]
  | truncate =>
      have hafter : @Holds space primary { table with tuples := [] }
          ⟨[]⟩ :=
        ⟨holds.space_eq, holds.primary_eq, Table.sound_of_nil rfl, .nil⟩
      refine ⟨?_, _, ?_, hafter⟩
      · rw [Call.ask, Database.handle, Database.truncate, table_of_table? htable]
        rfl
      · rw [Call.ask, Database.handle, Database.truncate, table_of_table? htable]
        exact table?_putTable htable rfl
  | select conditions =>
      have agree := holds.select_agrees conditions
      rw [Call.ask, Database.handle, Call.answer, table_of_table? htable]
      change Matches name (Call.reported id (database.commit (table.select conditions) _)) _
      generalize table.select conditions = l, heap.select conditions = r at agree
      cases agree with
      | error fault => exact ⟨rfl, table, htable, holds⟩
      | ok h => exact ⟨congrArg Except.ok h, table, htable, holds⟩

theorem run_matches {calls : List Call} (mirrors : Mirrors database name heap)
    (free : ∀ call ∈ calls, call.FloatFree space) :
    (Call.run (Call.ask name) calls database).1 = (Call.run Call.answer calls heap).1 ∧
      Mirrors (Call.run (Call.ask name) calls database).2 name
        (Call.run Call.answer calls heap).2 := by
  induction calls generalizing database heap with
  | nil => exact ⟨rfl, mirrors⟩
  | cons call calls ih =>
      obtain ⟨hcall, hcalls⟩ := List.forall_mem_cons.mp free
      obtain ⟨hanswer, hafter⟩ := ask_matches call mirrors hcall
      obtain ⟨hanswers, hlast⟩ := ih hafter hcalls
      exact ⟨congrArg₂ List.cons hanswer hanswers, hlast⟩

end

/--
A reached table with a primary index answers every sequence of calls as a heap
with its tuples does, and both end with the same tuples.
-/
theorem run_eq_heap {operations : List Operation} {table : Table} {name : String}
    {primary : Index} {calls : List Call} {stored : List Tuple}
    (reached : ({} : History).FloatFree operations)
    (htable : (({} : History).run operations).database.table? name = some table)
    (hprimary : table.space.primary? = some primary) (hstored : stored.Perm table.tuples)
    (free : ∀ call ∈ calls, call.FloatFree table.space) :
    let database := (({} : History).run operations).database
    let heap : Heap table.space primary := ⟨stored⟩
    (Call.run (Call.ask name) calls database).1 = (Call.run Call.answer calls heap).1 ∧
      ∃ after, (Call.run (Call.ask name) calls database).2.table? name = some after ∧
        (Call.run Call.answer calls heap).2.tuples.Perm after.tuples := by
  intro database heap
  have sound := (History.ordered_empty.run reached).sound table (table?_mem htable)
  have holds : Holds table heap :=
    ⟨rfl, hprimary, sound.mono fun _ _ h => absurd h Bool.false_ne_true, hstored⟩
  obtain ⟨hanswers, after, hafter, hholds⟩ := run_matches ⟨table, htable, holds⟩ free
  exact ⟨hanswers, after, hafter, hholds.perm⟩

def rearranging : List Call :=
  [.insert [.int 4, .int 40],
    .replace [.int 2, .int 20],
    .insert [.nil, .int 90],
    .upsert [.int 3] [⟨"+", 1, .int 5⟩],
    .upsert [.int 5, .int 50] [],
    .delete [.int 1],
    .delete [.int 1, .int 10],
    .select ((Conditions.any.and "place" .greater (.int 20)).withLimit 1 |>.inOrder true)]

theorem run_eq_heap_rearranging :
    ∃ table, (({} : History).run History.shelving).database.table? "books" = some table ∧
      (Call.run (Call.ask "books") rearranging
        (({} : History).run History.shelving).database).1 =
      (Call.run Call.answer rearranging (⟨[[.int 3, .int 30], [.int 1, .int 10],
        [.int 2, .int 40]]⟩ : Heap table.space ⟨0, "primary", true, [0]⟩)).1 ∧
      (Call.run Call.answer rearranging (⟨[[.int 3, .int 30], [.int 1, .int 10],
        [.int 2, .int 40]]⟩ : Heap table.space ⟨0, "primary", true, [0]⟩)).1 =
      [.error .spaceOperation, .ok [[.int 2, .int 20]], .error .tupleConversion, .ok [], .ok [],
        .ok [[.int 1, .int 10]], .ok [], .ok [[.int 5, .int 50]]] := by
  have htable : (({} : History).run History.shelving).database.table? "books" =
      some ((({} : History).run History.shelving).database.tables.get ⟨0, by decide +kernel⟩) := by
    decide +kernel
  refine ⟨_, htable, (run_eq_heap (by decide +kernel) htable (by decide +kernel)
    (by decide +kernel) (by decide +kernel)).1, by decide +kernel⟩

end TupleStore.Database
