import TupleStore.Conditions
import TupleStore.Proofs.Outcomes
import TupleStore.Proofs.ValueOrder

/-!
# The contents of a space

The tuples of a space have different primary keys, so they stand in primary key
order in one way only.  A selection made from this order may be made on part of
the tuples first, in any order, when what is left out does not match.
-/

namespace TupleStore

/-- The tuples in an order in which a walk along the index meets them. -/
structure Index.Walks (index : Index) (forward : Bool) (tuples walked : List Tuple) : Prop where
  perm : walked.Perm tuples
  sorted : Sorted Value.compareKeys index.keyOf (if forward then walked else walked.reverse)

theorem Index.Walks.of_perm {index : Index} {forward : Bool} {tuples others walked : List Tuple}
    (walks : index.Walks forward tuples walked) (perm : tuples.Perm others) :
    index.Walks forward others walked :=
  ⟨walks.perm.trans perm, walks.sorted⟩

/--
Tuples which a space with this primary index can hold: their primary keys differ,
and their indexed fields hold no floating point numbers.
-/
structure Space.Contents (space : Space) (primary : Index) (stored : List Tuple) : Prop where
  primary_eq : space.primary? = some primary
  floatFree : ∀ index ∈ space.indexes, ∀ tuple ∈ stored,
    Value.floatFreeKey (index.keyOf tuple)
  distinct : Distinct Value.compareKeys primary.keyOf stored

namespace Space

theorem primary_mem {space : Space} {primary : Index} (h : space.primary? = some primary) :
    primary ∈ space.indexes := List.mem_of_find?_eq_some h

theorem primary_id {space : Space} {primary : Index} (h : space.primary? = some primary) :
    primary.id = 0 := by
  simpa using List.find?_some h

theorem index_mem {space : Space} {name : String} {index : Index}
    (h : space.index? name = some index) : index ∈ space.indexes := by
  rw [index?, Option.or_eq_some_iff] at h
  rcases h with h | ⟨_, h⟩
  · exact List.mem_of_find?_eq_some h
  · split at h
    · exact primary_mem h
    · contradiction

theorem index_unique {space : Space} (ids : (space.indexes.map Index.id).Nodup)
    {l r : Index} (hl : l ∈ space.indexes) (hr : r ∈ space.indexes) (h : l.id = r.id) :
    l = r := List.inj_on_of_nodup_map ids hl hr h

namespace Contents

variable {space : Space} {primary : Index} {stored ordered others rows : List Tuple}

theorem primary_floatFree (contents : space.Contents primary stored) (tuple : Tuple)
    (h : tuple ∈ stored) : Value.floatFreeKey (primary.keyOf tuple) :=
  contents.floatFree primary (primary_mem contents.primary_eq) tuple h

theorem perm (contents : space.Contents primary stored) (h : stored.Perm ordered) :
    space.Contents primary ordered where
  primary_eq := contents.primary_eq
  floatFree index hindex tuple htuple :=
    contents.floatFree index hindex tuple (h.mem_iff.mpr htuple)
  distinct := contents.distinct.perm Value.compareKeys_ordersOn
    contents.primary_floatFree h

theorem exists_increasing (contents : space.Contents primary stored) :
    ∃ ordered, ordered.Perm stored ∧
      Increasing Value.compareKeys primary.keyOf ordered := by
  have hperm := sortBy_perm Value.compareKeys primary.keyOf stored
  refine ⟨_, hperm, Sorted.increasing ?_ (contents.perm hperm.symm).distinct⟩
  exact sortBy_sorted Value.compareKeys_ordersOn stored contents.primary_floatFree

theorem walked_eq (contents : space.Contents primary ordered)
    (increasing : Increasing Value.compareKeys primary.keyOf ordered)
    (part : others.Sublist ordered) (walks : primary.Walks true others rows) :
    rows = others :=
  Sorted.eq_of_perm Value.compareKeys_ordersOn
    (fun tuple h => contents.primary_floatFree tuple (part.mem h))
    walks.perm walks.sorted (increasing.sublist part)

theorem inPrimaryOrder_eq (contents : space.Contents primary ordered)
    (increasing : Increasing Value.compareKeys primary.keyOf ordered)
    (part : others.Sublist ordered) (perm : rows.Perm others) :
    space.inPrimaryOrder rows = others := by
  rw [inPrimaryOrder, contents.primary_eq]
  exact sortBy_eq Value.compareKeys_ordersOn
    (fun tuple h => contents.primary_floatFree tuple (part.mem h)) perm
    (increasing.sublist part)

end Contents

end Space

theorem mapM_array {ε : Type} {read : Value → Except ε Tuple}
    (h : ∀ tuple, read (.array tuple) = .ok tuple) (tuples : List Tuple) :
    (tuples.map Value.array).mapM read = .ok tuples := by
  rw [mapM_map_ok fun tuple _ => h tuple, List.map_id']

/-! ## Matching tuples -/

namespace Conditions

variable {conditions : Conditions} {space : Space} {tuples : List Tuple}
variable {p : Tuple → Bool}

theorem matching_eq_filter
    (h : ∀ tuple ∈ tuples, conditions.isMatch space tuple = .ok (p tuple)) :
    conditions.matching space tuples = .ok (tuples.filter p) := by
  induction tuples with
  | nil => rfl
  | cons tuple tuples ih =>
      obtain ⟨htuple, htuples⟩ := List.forall_mem_cons.mp h
      rw [matching, htuple, ih htuples, List.filter_cons]
      cases p tuple <;> rfl

theorem matching_filter
    (h : ∀ tuple ∈ tuples, p tuple = false → conditions.isMatch space tuple = .ok false) :
    conditions.matching space (tuples.filter p) = conditions.matching space tuples := by
  induction tuples with
  | nil => rfl
  | cons tuple tuples ih =>
      obtain ⟨htuple, htuples⟩ := List.forall_mem_cons.mp h
      rw [List.filter_cons]
      cases hp : p tuple with
      | true => simp only [if_true, matching, ih htuples]
      | false =>
          rw [matching, htuple hp, ← ih htuples]
          rfl

theorem passesComparisons_error_unique {l r : Tuple} {comparisons : List Comparison}
    {x y : UnknownName} (hl : passesComparisons space l comparisons = .error x)
    (hr : passesComparisons space r comparisons = .error y) : x = y := by
  induction comparisons with
  | nil => contradiction
  | cons comparison comparisons ih =>
      rw [passesComparisons] at hl hr
      split at hl
      next hfield =>
        rw [hfield] at hr
        cases hl
        cases hr
        rfl
      next hfield =>
        rw [hfield] at hr
        dsimp only at hr
        split at hl <;> split at hr <;> first | exact ih hl hr | contradiction

theorem isMatch_error_unique {l r : Tuple} {x y : UnknownName}
    (hl : conditions.isMatch space l = .error x) (hr : conditions.isMatch space r = .error y) :
    x = y := by
  unfold isMatch at hl hr
  split at hl
  next hquery =>
    rw [hquery] at hr
    exact passesComparisons_error_unique hl hr
  next hquery =>
    rw [hquery] at hr
    dsimp only at hr
    split at hl
    next hindex =>
      rw [hindex] at hr
      cases hl
      cases hr
      rfl
    next hindex =>
      rw [hindex] at hr
      dsimp only at hr
      split at hl <;> split at hr <;>
        first | exact passesComparisons_error_unique hl hr | contradiction

theorem matching_eq_error {x : UnknownName} {tuple : Tuple} (hmem : tuple ∈ tuples)
    (h : conditions.isMatch space tuple = .error x) :
    conditions.matching space tuples = .error x := by
  induction tuples with
  | nil => contradiction
  | cons other tuples ih =>
      rw [matching]
      cases hother : conditions.isMatch space other with
      | error y =>
          rw [isMatch_error_unique hother h]
          rfl
      | ok passes =>
          rcases List.mem_cons.mp hmem with rfl | hmem
          · rw [hother] at h
            contradiction
          · rw [ih hmem]
            cases passes <;> rfl

theorem matching_perm (conditions : Conditions) (space : Space) {others : List Tuple}
    (perm : tuples.Perm others) :
    (∃ p, conditions.matching space tuples = .ok (tuples.filter p) ∧
      conditions.matching space others = .ok (others.filter p)) ∨
    ∃ x, conditions.matching space tuples = .error x ∧
      conditions.matching space others = .error x := by
  by_cases hfails : ∃ tuple ∈ tuples, ∃ x, conditions.isMatch space tuple = .error x
  · obtain ⟨tuple, hmem, x, h⟩ := hfails
    exact .inr ⟨x, matching_eq_error hmem h, matching_eq_error (perm.mem_iff.mp hmem) h⟩
  · have hok : ∀ tuple ∈ tuples, conditions.isMatch space tuple =
        .ok ((conditions.isMatch space tuple).toOption.getD false) := by
      intro tuple hmem
      cases h : conditions.isMatch space tuple with
      | ok passes => rfl
      | error x => exact absurd ⟨tuple, hmem, x, h⟩ hfails
    exact .inl ⟨_, matching_eq_filter hok,
      matching_eq_filter fun tuple hmem => hok tuple (perm.mem_iff.mpr hmem)⟩

theorem filter_filter
    (h : ∀ tuple ∈ tuples, p tuple = false → conditions.isMatch space tuple = .ok false) :
    conditions.filter space (tuples.filter p) = conditions.filter space tuples := by
  rw [filter, filter, matching_filter h]

end Conditions

end TupleStore
