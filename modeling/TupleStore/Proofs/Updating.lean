import Mathlib.Data.List.Nodup
import TupleStore.Proofs.PrimaryKeys
import TupleStore.Proofs.Sweeps
import TupleStore.Sample.Kind

/-!
# Updating selected tuples

An update selects tuples and then updates one after another by its primary key.  It
assigns no field of the primary key, so each selected tuple is found again by its own
key, and the sweep of updates changes each selected tuple where it stands.
-/

namespace TupleStore

theorem set_eq_map_update {α : Type} [DecidableEq α] {items : List α} {position : Nat} {item : α}
    (nodup : items.Nodup) (h : items[position]? = some item) (other : α) :
    items.set position other = items.map (Function.update id item other) := by
  obtain ⟨hlt, rfl⟩ := List.getElem?_eq_some_iff.mp h
  rw [nodup.map_update, if_pos (List.getElem_mem hlt), List.map_id, nodup.idxOf_getElem]

/-! ## Selections -/

namespace Conditions

variable {conditions : Conditions} {space : Space} {tuples selected : List Tuple}

theorem window_sublist (conditions : Conditions) (tuples : List Tuple) :
    (conditions.window tuples).Sublist
      (if conditions.descending then tuples.reverse else tuples) := by
  rw [window]
  have hdrop := List.drop_sublist conditions.offset
    (if conditions.descending then tuples.reverse else tuples)
  cases conditions.limit with
  | none => exact hdrop
  | some limit => exact (List.take_sublist limit _).trans hdrop

theorem window_subset (conditions : Conditions) (tuples : List Tuple) :
    conditions.window tuples ⊆ tuples := by
  intro tuple h
  have hmem := (conditions.window_sublist tuples).mem h
  split at hmem
  · exact List.mem_reverse.mp hmem
  · exact hmem

theorem nodup_window (conditions : Conditions) (nodup : tuples.Nodup) :
    (conditions.window tuples).Nodup := by
  refine List.Nodup.sublist (conditions.window_sublist tuples) ?_
  split
  · exact List.nodup_reverse.mpr nodup
  · exact nodup

theorem filter_eq_ok (h : conditions.filter space tuples = .ok selected) :
    ∃ p, selected = conditions.window (tuples.filter p) := by
  rw [filter] at h
  rcases conditions.matching_perm space (.refl tuples) with ⟨p, hmatching, _⟩ | ⟨x, hfails, _⟩
  · rw [hmatching] at h
    cases h
    exact ⟨p, rfl⟩
  · rw [hfails] at h
    cases h

end Conditions

/-! ## Assignments -/

namespace Database

variable {tuple after written : Tuple} {operations : List UpdateOperation}

theorem fieldAt_applyOperations (h : Table.applyOperations tuple operations = .ok after)
    (position : Nat) (value : Value)
    (assigns : ∀ operation ∈ operations, operation.position = position →
      operation = .assign position value) :
    fieldAt after position =
      if operations.any (·.position == position) then value else fieldAt tuple position := by
  induction operations generalizing tuple with
  | nil =>
      cases h
      rfl
  | cons operation operations ih =>
      obtain ⟨hfirst, hrest⟩ := List.forall_mem_cons.mp assigns
      obtain ⟨next, hnext, h⟩ := bind_eq_ok.mp h
      obtain ⟨result, hresult, hfields⟩ := Holds.fieldAt_applyOperation hnext
      rw [ih h hrest, List.any_cons, hfields]
      by_cases hposition : operation.position = position
      · obtain rfl := hfirst hposition
        cases hresult
        simp [UpdateOperation.assign]
      · simp [hposition]

end Database

namespace Repository

open Template Database

variable {primary : Index} {written tuple after : Tuple}

theorem mem_assignments {operation : UpdateOperation} :
    operation ∈ assignments primary written ↔
      ∃ position, operation = .assign position (fieldAt written position) ∧
        (fieldAt written position).isNil = false ∧ position ∉ primary.parts := by
  simp only [assignments, updateOperations, List.mem_filter, List.mem_map, Prod.exists,
    List.mem_zipIdx_iff_getElem?]
  constructor
  · rintro ⟨⟨value, position, ⟨hget, hvalue⟩, rfl⟩, hpart⟩
    have hfield : fieldAt written position = value := by
      rw [fieldAt, List.getD_eq_getElem?_getD, hget, Option.getD_some]
    refine ⟨position, ?_, ?_, ?_⟩
    · rw [hfield]
    · rw [hfield]
      simpa using hvalue
    · simpa [UpdateOperation.assign] using hpart
  · rintro ⟨position, rfl, hvalue, hpart⟩
    refine ⟨⟨fieldAt written position, position, ⟨?_, by simpa using hvalue⟩, rfl⟩, ?_⟩
    · -- a field which is not nil is not past the end
      cases hget : written[position]? with
      | some value =>
          rw [fieldAt, List.getD_eq_getElem?_getD, hget]
          rfl
      | none =>
          rw [fieldAt, List.getD_eq_getElem?_getD, hget] at hvalue
          cases hvalue
    · simpa [UpdateOperation.assign] using hpart

structure Assigned (primary : Index) (written tuple after : Tuple) : Prop where
  keyOf : primary.keyOf after = primary.keyOf tuple
  assigned : ∀ position, position ∉ primary.parts → (fieldAt written position).isNil = false →
    fieldAt after position = fieldAt written position
  kept : ∀ position, position ∈ primary.parts ∨ (fieldAt written position).isNil = true →
    fieldAt after position = fieldAt tuple position

theorem assigned_of_applyOperations
    (h : Table.applyOperations tuple (assignments primary written) = .ok after) :
    Assigned primary written tuple after := by
  have hfield (position : Nat) := fieldAt_applyOperations h position (fieldAt written position)
    fun operation hmem hposition => by
      obtain ⟨_, rfl, _⟩ := mem_assignments.mp hmem
      cases hposition
      rfl
  have hkept (position : Nat)
      (hnone : position ∈ primary.parts ∨ (fieldAt written position).isNil = true) :
      fieldAt after position = fieldAt tuple position := by
    rw [hfield, if_neg]
    intro hany
    obtain ⟨operation, hmem, hposition⟩ := List.any_eq_true.mp hany
    obtain ⟨_, rfl, hvalue, hpart⟩ := mem_assignments.mp hmem
    cases beq_iff_eq.mp hposition
    rcases hnone with hmem | hnil
    · exact hpart hmem
    · exact absurd (hnil.symm.trans hvalue) (by decide)
  refine ⟨?_, fun position hpart hvalue => ?_, hkept⟩
  · exact List.map_congr_left fun position hmem => hkept position (.inl hmem)
  · rw [hfield, if_pos]
    exact List.any_eq_true.mpr ⟨_, mem_assignments.mpr ⟨position, rfl, hvalue, hpart⟩,
      beq_self_eq_true _⟩

end Repository

/-! ## Updates one after another -/

namespace Database

namespace Table

variable {table after : Table} {primary : Index} {tuple other : Tuple}
variable {operations : List UpdateOperation}

theorem InOrder.nodup_keys (inOrder : table.InOrder)
    (hprimary : table.space.primary? = some primary) :
    (table.tuples.map primary.keyOf).Nodup := by
  have holds := inOrder.holds hprimary
  have increasing : Increasing Value.compareKeys primary.keyOf table.tuples := holds.increasing
  refine List.pairwise_map.mpr (increasing.imp_of_mem fun {l r} hl _ hless hsame => ?_)
  rw [hsame, Value.compareKeys_ordersOn.refl (hsame ▸ holds.primary_floatFree l hl)] at hless
  cases hless

theorem InOrder.eq_of_keyOf (inOrder : table.InOrder)
    (hprimary : table.space.primary? = some primary) (htuple : tuple ∈ table.tuples)
    (hother : other ∈ table.tuples) (h : primary.keyOf tuple = primary.keyOf other) :
    tuple = other :=
  List.inj_on_of_nodup_map (inOrder.nodup_keys hprimary) htuple hother h

theorem find_stored (inOrder : table.InOrder) (hprimary : table.space.primary? = some primary)
    (hmem : tuple ∈ table.tuples) :
    ∃ position, table.find primary (primary.keyOf tuple) = .taken position ∧
      table.tuples[position]? = some tuple := by
  have holds := inOrder.holds hprimary
  have hkey : Value.floatFreeKey (primary.keyOf tuple) = true :=
    holds.primary_floatFree tuple hmem
  have hself : Heap.hasKey primary (primary.keyOf tuple) tuple = true :=
    Holds.hasKey_iff.mpr (Value.compareKeys_ordersOn.refl hkey)
  cases hfind : table.find primary (primary.keyOf tuple) with
  | free position =>
      have hnone := List.find?_eq_none.mp (holds.find_free hkey hfind).1 tuple hmem
      exact absurd hself hnone
  | taken position =>
      refine ⟨position, rfl, ?_⟩
      obtain ⟨old, hget, hprobe⟩ := search_taken hfind
      have hothers := holds.hasKey_others hkey hget (Holds.hasKey_iff.mpr hprobe)
      obtain ⟨hlt, hold⟩ := List.getElem?_eq_some_iff.mp hget
      rcases List.mem_cons.mp ((List.getElem_cons_eraseIdx_perm hlt).mem_iff.mpr hmem) with
        hsame | hother
      · rw [hget, ← hold, hsame]
      · exact absurd hself (by rw [hothers tuple hother]; decide)

theorem update_stored (inOrder : table.InOrder)
    (hprimary : table.space.primary? = some primary) (hmem : tuple ∈ table.tuples)
    {found : Option Tuple}
    (h : table.update (primary.keyOf tuple) operations = .ok (after, found)) :
    ∃ next, found = some next ∧ applyOperations tuple operations = .ok next ∧
      after = { table with tuples := table.tuples.map (Function.update id tuple next) } := by
  obtain ⟨position, hfind, hget⟩ := find_stored inOrder hprimary hmem
  rw [Table.update, primary_bind hprimary, hfind] at h
  dsimp only at h
  rw [List.getD_eq_getElem?_getD, hget, Option.getD_some] at h
  obtain ⟨next, hnext, h⟩ := bind_eq_ok.mp h
  split at h
  next =>
    obtain ⟨_, hthrow, _⟩ := bind_eq_ok.mp h
    cases hthrow
  next =>
    obtain ⟨_, _, h⟩ := bind_eq_ok.mp h
    obtain ⟨_, _, h⟩ := bind_eq_ok.mp h
    cases h
    refine ⟨next, rfl, hnext, ?_⟩
    rw [set_eq_map_update (inOrder.nodup_keys hprimary).of_map hget]

def KeepsKey (primary : Index) (operations : List UpdateOperation) : Prop :=
  ∀ {tuple after}, applyOperations tuple operations = .ok after →
    primary.keyOf after = primary.keyOf tuple

theorem keyOf_update (h : primary.keyOf other = primary.keyOf tuple) (stored : Tuple) :
    primary.keyOf (Function.update id tuple other stored) = primary.keyOf stored := by
  by_cases hsame : stored = tuple
  · rw [hsame, Function.update_self, h]
  · rw [Function.update_of_ne hsame, id]

theorem InOrder.update (inOrder : table.InOrder)
    (hprimary : table.space.primary? = some primary)
    (hkey : primary.keyOf other = primary.keyOf tuple) (change : Change table
      { table with tuples := table.tuples.map (Function.update id tuple other) }) :
    ({ table with tuples := table.tuples.map (Function.update id tuple other) } : Table).InOrder := by
  refine inOrder.change change fun index hindex changed hchanged => ?_
  have hindex := mem_keyed hindex
  cases hprimary.symm.trans hindex
  obtain ⟨stored, hstored, rfl⟩ := List.mem_map.mp hchanged
  rw [keyOf_update hkey]
  exact (inOrder.holds hprimary).primary_floatFree stored hstored

/--
Updates of stored tuples at their own keys, all granted, change these tuples where they
stand and answer with the changed ones.
-/
theorem sweep_updates (inOrder : table.InOrder)
    (hprimary : table.space.primary? = some primary) (keeps : KeepsKey primary operations)
    {pending : List Tuple} (nodup : pending.Nodup) (part : pending ⊆ table.tuples)
    {found : List (Option Tuple)}
    (h : table.sweep (fun table key => table.update key operations)
      (pending.map primary.keyOf) = (.ok found, after)) :
    ∃ renewed : Tuple → Tuple,
      (∀ tuple ∈ pending, applyOperations tuple operations = .ok (renewed tuple)) ∧
      (∀ tuple, tuple ∉ pending → renewed tuple = tuple) ∧
      found = pending.map (some ∘ renewed) ∧
      after = { table with tuples := table.tuples.map renewed } := by
  induction pending generalizing table found with
  | nil =>
      cases h
      exact ⟨id, fun _ h => absurd h List.not_mem_nil, fun _ _ => rfl, rfl, by rw [List.map_id]⟩
  | cons tuple pending ih =>
      obtain ⟨hapart, nodup⟩ := List.nodup_cons.mp nodup
      obtain ⟨hmem, part⟩ := List.cons_subset.mp part
      obtain ⟨changed, answer, answers, hchange, hsweep, rfl⟩ := sweep_cons_ok h
      obtain ⟨next, rfl, hnext, rfl⟩ := update_stored inOrder hprimary hmem hchange
      have hkey := (inOrder.holds hprimary).primary_floatFree tuple hmem
      have hothers : ∀ other ∈ pending, other ≠ tuple := fun other hother hsame =>
        hapart (hsame ▸ hother)
      -- the changed tuple has the key of none which is still to be updated
      have hfresh : next ∉ pending := fun hnextMem =>
        hothers next hnextMem (inOrder.eq_of_keyOf hprimary (part hnextMem) hmem (keeps hnext))
      have hpart : pending ⊆ table.tuples.map (Function.update id tuple next) :=
        fun other hother => List.mem_map.mpr
          ⟨other, part hother, Function.update_of_ne (hothers other hother) ..⟩
      have hafter := inOrder.update hprimary (keeps hnext) (change_of_update hkey hchange)
      obtain ⟨renewed, hrenewed, hkept, rfl, rfl⟩ := ih hafter hprimary nodup hpart hsweep
      refine ⟨Function.update renewed tuple next, ?_, ?_, ?_, ?_⟩
      · intro other hother
        rcases List.mem_cons.mp hother with rfl | hother
        · rw [Function.update_self, hnext]
        · rw [Function.update_of_ne (hothers other hother), hrenewed other hother]
      · intro other hother
        rw [List.mem_cons, not_or] at hother
        obtain ⟨hne, hother⟩ := hother
        rw [Function.update_of_ne hne, hkept other hother]
      · rw [List.map_cons, Function.comp, Function.update_self]
        refine congrArg _ (List.map_congr_left fun other hother => ?_)
        rw [Function.comp, Function.comp, Function.update_of_ne (hothers other hother)]
      · rw [List.map_map, Function.comp_update, Function.comp_id, hkept next hfresh]

end Table

theorem nodup_of_select {table : Table} {conditions : Conditions} {selected : List Tuple}
    (nodup : table.tuples.Nodup) (h : table.select conditions = .ok selected) :
    selected.Nodup ∧ selected ⊆ table.tuples := by
  obtain ⟨p, rfl⟩ := Conditions.filter_eq_ok (mapError_eq_ok.mp h)
  exact ⟨conditions.nodup_window (nodup.filter p),
    List.Subset.trans (conditions.window_subset _) List.filter_sublist.subset⟩

end Database

/-! ## Updates of entities -/

namespace Repository

open Template Database

variable {α : Type} [entity : Entity α]
variable {database : Database} {conditions : Conditions} {origin : Origin} {value : α}

/--
In any database reached without floating point numbers in primary keys, an update which
succeeds changes the selected tuples where they stand: it assigns the fields which the
entity has and which are not in the primary key, and it results in the changed tuples, as
entities, in the order of the selection.
-/
theorem update_selected {operations : List Operation} {results : List α}
    (reached : ({} : History).KeysFloatFree operations) :
    let before := (({} : History).run operations).database
    let updating := outcome embedded (Template.update ⟨origin, {}⟩ conditions value) before
    updating.1 = .ok results →
      ∃ table primary written selected renewed, before.table? entity.space = some table ∧
        table.space.primary? = some primary ∧
        entity.codec.toTuple value table.space = .ok written ∧
        table.select conditions = .ok selected ∧ selected ⊆ table.tuples ∧
        (∀ tuple, tuple ∉ selected → renewed tuple = tuple) ∧
        (∀ tuple ∈ selected, Assigned primary written tuple (renewed tuple)) ∧
        Becomes before entity.space { table with tuples := table.tuples.map renewed }
          updating.2 ∧
        (selected.map renewed).mapM (entity.codec.fromTuple · table.space) = .ok results := by
  intro before updating h
  have follows := (Edit.update ⟨origin, {}⟩ conditions value).follows_plan before
  generalize hplan : (Edit.update ⟨origin, {}⟩ conditions value).plan before = planned at follows
  change Follows before planned updating at follows
  generalize updating = answer at follows h
  cases follows with
  | stopped failure => cases h
  | swept plan becomes =>
      obtain ⟨table, primary, written, selected, htable, hprimary, hwritten, hselect, rfl⟩ :=
        plan_update_eq_ok hplan
      obtain ⟨found, hswept, hresults⟩ := Plan.result_eq_ok h
      have inOrder := History.inOrder_run reached
        (fun table h => absurd h List.not_mem_nil) table (table?_mem htable)
      obtain ⟨nodup, part⟩ := nodup_of_select (inOrder.nodup_keys hprimary).of_map hselect
      obtain ⟨renewed, hrenewed, hkept, rfl, hafter⟩ := Table.sweep_updates inOrder hprimary
        (fun happly => (assigned_of_applyOperations happly).keyOf) nodup part hswept
      rw [hafter] at becomes
      rw [← List.map_map, List.filterMap_map, Function.id_comp, List.filterMap_some] at hresults
      exact ⟨table, primary, written, selected, renewed, htable, hprimary, hwritten, hselect, part,
        hkept, fun tuple h => assigned_of_applyOperations (hrenewed tuple h), becomes, hresults⟩

open Sample

def commented : List Operation :=
  [.createSpace ⟨0, "comment", [⟨"post", "unsigned", false⟩, ⟨"seq", "unsigned", false⟩,
        ⟨"body", "string", true⟩, ⟨"note", "string", true⟩], [⟨0, "primary", true, [0, 1]⟩]⟩
      [[.int 1, .int 1, .text "old", .text "kept"], [.int 1, .int 2],
        [.int 1, .int 3, .text "other"], [.int 2, .int 1, .text "old"]]]

/-- The last two old comments on the first post; the update itself makes the condition false. -/
theorem update_selected_comments :
    let before := (({} : History).run commented).database
    let conditions := (((Conditions.any.and "post" .equal (.int 1)).and "body" .lessOrEqual
      (.text "old")).inOrder true).withLimit 2
    let comment : Comment := ⟨⟨9, 9⟩, "zoo"⟩
    let updating := outcome embedded (Template.update ⟨.embedded, {}⟩ conditions comment) before
    let written := [.int 9, .int 9, .text "zoo", .nil]
    ({} : History).KeysFloatFree commented ∧
      updating.1 = .ok [⟨⟨1, 2⟩, "zoo"⟩, ⟨⟨1, 1⟩, "zoo"⟩] ∧
      ∃ renewed : Tuple → Tuple,
        renewed [.int 2, .int 1, .text "old"] = [.int 2, .int 1, .text "old"] ∧
        (∀ tuple ∈ [[.int 1, .int 2], [.int 1, .int 1, .text "old", .text "kept"]],
          Assigned ⟨0, "primary", true, [0, 1]⟩ written tuple (renewed tuple)) ∧
        (updating.2.table? "comment").map Table.tuples =
          (before.table? "comment").map fun table => table.tuples.map renewed := by
  intro before conditions comment updating written
  have reached : ({} : History).KeysFloatFree commented := by decide +kernel
  have hresults : updating.1 = .ok [⟨⟨1, 2⟩, "zoo"⟩, ⟨⟨1, 1⟩, "zoo"⟩] := by decide +kernel
  obtain ⟨table, primary, tuple, selected, renewed, htable, hprimary, htuple, hselected, -, hkept,
    hassigned, becomes, -⟩ := update_selected reached hresults
  cases htable.symm.trans (show before.table? "comment" =
    some (before.tables.get ⟨0, by decide +kernel⟩) by decide +kernel)
  cases hprimary.symm.trans (show _ = some ⟨0, "primary", true, [0, 1]⟩ by decide +kernel)
  cases htuple.symm.trans (show _ = .ok written by decide +kernel)
  cases hselected.symm.trans (show _ =
    .ok [[.int 1, .int 2], [.int 1, .int 1, .text "old", .text "kept"]] by decide +kernel)
  refine ⟨reached, hresults, renewed, hkept _ (by decide +kernel), hassigned, ?_⟩
  have hbefore : before.table? "comment" = _ := htable
  have hafter : updating.2.table? "comment" = _ := becomes.table?
  rw [hafter, hbefore]
  rfl

/-- Out of order, the selected comment is not found by its key: nothing is updated. -/
theorem not_update_selected_disordered :
    let before := (({} : History).run History.disordering).database
    let conditions := Conditions.any.and "post" .equal (.int 6)
    let comment : Comment := ⟨⟨6, 3⟩, "new"⟩
    before.table? "comment" = some History.disordered ∧ History.disordered.FloatFree ∧
      History.disordered.select conditions = .ok [[.int 6, .int 3, .text "d"]] ∧
      Entity.codec.toTuple comment History.disordered.space =
        .ok [.int 6, .int 3, .text "new"] ∧
      outcome embedded (Template.update ⟨.embedded, {}⟩ conditions comment) before =
        (.ok [], before) := by
  decide +kernel

end Repository

end TupleStore
