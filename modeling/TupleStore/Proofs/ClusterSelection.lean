import TupleStore.Cluster.Routing
import TupleStore.Proofs.Contents
import TupleStore.Proofs.Programs

/-!
# Selections from a cluster

The cluster walks along one index, which it chooses by the names in the
conditions, and stops after the first tuples when it is told how many are wanted.
The check before that looks at the names of indexes.  It does not see that the
cluster also finds an index by the field in front of it, so that a limit can cut
a walk along another index than the primary one.
-/

namespace TupleStore.Cluster

/-! ## What the cluster is sent -/

/-- A condition as it is sent: the operand is the name of an index or of a field. -/
structure Triple where
  operator : Operator
  operand : String
  value : Value

def Triple.toValue (triple : Triple) : Value :=
  .array [.text triple.operator.symbol, .text triple.operand, triple.value]

def queryTriples (space : Space) : Option IndexQuery → List Triple
  | none => []
  | some query =>
      match space.index? query.index with
      | none => []
      | some index => [⟨query.operator, index.name, .array query.key⟩]

def Triple.ofComparison (comparison : Comparison) : Triple :=
  ⟨comparison.operator, comparison.field, comparison.value⟩

def triples (conditions : Conditions) (space : Space) : List Triple :=
  queryTriples space conditions.indexQuery ++ conditions.comparisons.map Triple.ofComparison

structure Known (conditions : Conditions) (space : Space) : Prop where
  query : ∀ query, conditions.indexQuery = some query → ∃ index,
    space.index? query.index = some index
  comparisons : ∀ comparison ∈ conditions.comparisons, ∃ position,
    space.fieldPosition? comparison.field = some position

theorem Known.withLimit {conditions : Conditions} {space : Space}
    (known : Known conditions space) (limit : Option Nat) :
    Known { conditions with limit } space := ⟨known.query, known.comparisons⟩

theorem encodeConditions_eq {conditions : Conditions} {space : Space}
    (known : Known conditions space) :
    encodeConditions conditions space =
      .ok (.array ((triples conditions space).map Triple.toValue)) := by
  have hcomparisons : (conditions.comparisons.map Triple.ofComparison).map Triple.toValue =
      conditions.comparisons.map encodeComparison := by
    rw [List.map_map]
    rfl
  rw [triples, List.map_append, hcomparisons, encodeConditions]
  cases hquery : conditions.indexQuery with
  | none => rfl
  | some query =>
      obtain ⟨index, hindex⟩ := known.query query hquery
      simp only [Option.toList_some, List.mapM_cons, List.mapM_nil, encodeIndexQuery, hindex,
        queryTriples, List.map_cons, List.map_nil]
      rfl

/-! ## What the cluster does -/

/--
Whether an operand leads to an index: it is the name of the index, or else the
name of the field in front of it.
-/
def Addresses (space : Space) (operand : String) (index : Index) : Prop :=
  index ∈ space.indexes ∧
    (index.name = operand ∨
      (∀ other ∈ space.indexes, other.name ≠ operand) ∧
        ∃ position ∈ index.parts.head?, space.fieldPosition? operand = some position)

instance (space : Space) (operand : String) (index : Index) :
    Decidable (Addresses space operand index) :=
  inferInstanceAs (Decidable (_ ∧ (_ ∨ _ ∧ _)))

/--
The index along which the cluster walks, and whether it walks forward: the first
condition whose operand leads to an index decides; without one it is the primary
index.
-/
inductive Chosen (space : Space) : List Triple → Index → Bool → Prop
  | primary {index : Index} (h : space.primary? = some index) : Chosen space [] index true
  | addressed {triple : Triple} {rest : List Triple} {index : Index}
      (h : Addresses space triple.operand index) :
      Chosen space (triple :: rest) index (isForward triple.operator)
  | skipped {triple : Triple} {rest : List Triple} {index : Index} {forward : Bool}
      (h : ∀ other, ¬Addresses space triple.operand other)
      (chosen : Chosen space rest index forward) :
      Chosen space (triple :: rest) index forward

def satisfies (conditions : Conditions) (space : Space) (tuple : Tuple) : Bool :=
  (conditions.isMatch space tuple).toOption.getD false

def stopAfter (options : Value) (tuples : List Tuple) : List Tuple :=
  match (options.get? "first").bind Value.unsigned? with
  | none => tuples
  | some count => tuples.take count

def rowsValue (rows : List Tuple) : Value :=
  .map [(.text "rows", .array (rows.map .array))]

variable {σ : Type} (handle : (op : Op) → σ → op.Reply × σ) (functions : Functions)

/--
A cluster which holds the tuples answers a selection: along the chosen index it
keeps the tuples which satisfy all conditions, and stops when it has enough.
-/
def Serves (space : Space) (stored : List Tuple) (name : String) (conditions : Conditions)
    (state : σ) : Prop :=
  ∃ index forward, Chosen space (triples conditions space) index forward ∧
    ∃ walked, index.Walks forward stored walked ∧
      (handle (.request (.call functions.select
          [.text name, .array ((triples conditions space).map Triple.toValue),
            selectOptions conditions space])) state).1 =
        .ok [rowsValue (stopAfter (selectOptions conditions space)
          (walked.filter (satisfies conditions space)))]

/-- A selection from any cluster which holds tuples of the space is what the conditions mean. -/
def SelectsMatching (space : Space) (conditions : Conditions) : Prop :=
  ∀ {σ : Type} (handle : (op : Op) → σ → op.Reply × σ) (functions : Functions)
    (name : String) (state before : σ) (primary : Index) (stored : List Tuple),
    Program.run handle (Cluster.space functions name) before = (.ok space, state) →
    space.Contents primary stored →
    Serves handle functions space stored name conditions state →
    ∃ ordered, ordered.Perm stored ∧
      Increasing Value.compareKeys primary.keyOf ordered ∧
      (Program.run handle (select functions name conditions) before).1 =
        (conditions.filter space ordered).mapError .unknownName

/-- Two tuples, the first before the second in the walk, however their order is continued. -/
def Precedes (index : Index) (forward : Bool) (l r : Tuple) : Prop :=
  Value.compareKeys (index.keyOf l) (index.keyOf r) = if forward then .lt else .gt

instance (index : Index) (forward : Bool) (l r : Tuple) :
    Decidable (Precedes index forward l r) := inferInstanceAs (Decidable (_ = _))

/--
A limit which is left to the cluster does no harm: if the chosen index is not the
primary one, it orders the tuples which satisfy the conditions as that one does.
-/
def LimitSafe (space : Space) (conditions : Conditions) : Prop :=
  scansPrimary conditions space = true →
  ∀ primary, space.primary? = some primary →
  ∀ index forward, Chosen space (triples conditions space) index forward → index.id ≠ 0 →
  ∀ l r, space.Contents primary [l, r] →
    satisfies conditions space l = true → satisfies conditions space r = true →
    Precedes primary true l r → Precedes index forward l r

/-! ## The chosen index -/

variable {space : Space} {conditions : Conditions} {primary index : Index} {forward : Bool}

theorem index?_of_name (names : (space.indexes.map Index.name).Nodup)
    (h : index ∈ space.indexes) : space.index? index.name = some index := by
  have hfind : space.indexes.find? (fun other => other.name == index.name) = some index := by
    cases hfound : space.indexes.find? (fun other => other.name == index.name) with
    | none => exact absurd (List.find?_eq_none.mp hfound index h) (by simp)
    | some found =>
        have hname : found.name = index.name := by simpa using List.find?_some hfound
        rw [List.inj_on_of_nodup_map names (List.mem_of_find?_eq_some hfound) h hname]
  rw [Space.index?, hfind]
  rfl

private theorem namesKey_of_addresses (names : (space.indexes.map Index.name).Nodup)
    (ids : (space.indexes.map Index.id).Nodup) (hprimary : space.primary? = some primary)
    {operand : String} (addresses : Addresses space operand index) (hid : index.id = 0) :
    namesKey space operand = true := by
  obtain ⟨hmem, rfl | ⟨_, position, hhead, hposition⟩⟩ := addresses
  · rw [namesKey, index?_of_name names hmem]
    rfl
  · have hsame : index = primary :=
      Space.index_unique ids hmem (Space.primary_mem hprimary)
        (hid.trans (Space.primary_id hprimary).symm)
    have hpart : position ∈ primary.parts := hsame ▸ List.mem_of_head? hhead
    rw [namesKey, hprimary, hposition]
    simp [hpart]

private theorem isForward_of_scansPrimary (names : (space.indexes.map Index.name).Nodup)
    (ids : (space.indexes.map Index.id).Nodup) (hprimary : space.primary? = some primary)
    (h : scansPrimary conditions space = true) {triple : Triple}
    (htriple : triple ∈ triples conditions space)
    (addresses : Addresses space triple.operand index) (hid : index.id = 0) :
    isForward triple.operator = true := by
  simp only [scansPrimary, Bool.and_eq_true, List.all_eq_true, Bool.or_eq_true,
    Bool.not_eq_true'] at h
  obtain ⟨⟨_, hquery⟩, hcomparisons⟩ := h
  rcases List.mem_append.mp htriple with hmem | hmem
  · cases hconditions : conditions.indexQuery with
    | none => simp [hconditions, queryTriples] at hmem
    | some query =>
        simp only [hconditions, Option.all_some, Bool.and_eq_true] at hquery
        simp only [hconditions, queryTriples] at hmem
        split at hmem
        · contradiction
        · rw [List.mem_singleton.mp hmem]
          exact hquery.2
  · obtain ⟨comparison, hcomparison, rfl⟩ := List.mem_map.mp hmem
    have hkey : namesKey space comparison.field = true :=
      namesKey_of_addresses names ids hprimary addresses hid
    rcases (hcomparisons comparison hcomparison).2 with hforward | hnot
    · exact hforward
    · simp [hkey] at hnot

private theorem Chosen.forward_eq {sent : List Triple}
    (hforward : ∀ triple ∈ sent, Addresses space triple.operand index →
      isForward triple.operator = true)
    (chosen : Chosen space sent index forward) : forward = true := by
  induction chosen with
  | primary => rfl
  | addressed h => exact hforward _ (by simp) h
  | skipped _ _ ih => exact ih fun triple htriple => hforward triple (by simp [htriple])

theorem Chosen.mem {sent : List Triple} (chosen : Chosen space sent index forward) :
    index ∈ space.indexes := by
  induction chosen with
  | primary h => exact Space.primary_mem h
  | addressed h => exact h.1
  | skipped _ _ ih => exact ih

theorem Chosen.primary_forward (names : (space.indexes.map Index.name).Nodup)
    (ids : (space.indexes.map Index.id).Nodup) (hprimary : space.primary? = some primary)
    (h : scansPrimary conditions space = true)
    (chosen : Chosen space (triples conditions space) index forward) (hid : index.id = 0) :
    index = primary ∧ forward = true := by
  refine ⟨Space.index_unique ids chosen.mem (Space.primary_mem hprimary)
    (hid.trans (Space.primary_id hprimary).symm), ?_⟩
  exact chosen.forward_eq fun triple htriple addresses =>
    isForward_of_scansPrimary names ids hprimary h htriple addresses hid

private theorem Chosen.exists_triple {sent : List Triple}
    (chosen : Chosen space sent index forward) :
    space.primary? = some index ∨ ∃ triple ∈ sent, Addresses space triple.operand index := by
  induction chosen with
  | primary h => exact .inl h
  | addressed h => exact .inr ⟨_, by simp, h⟩
  | skipped _ _ ih =>
      rcases ih with h | ⟨triple, htriple, h⟩
      · exact .inl h
      · exact .inr ⟨triple, by simp [htriple], h⟩

/--
A walk along another index than the primary one which the check lets through comes
from the comparison of a field in front of that index, which does not have its name.
-/
theorem Chosen.exists_comparison (names : (space.indexes.map Index.name).Nodup)
    (h : scansPrimary conditions space = true)
    (chosen : Chosen space (triples conditions space) index forward) (hid : index.id ≠ 0) :
    ∃ comparison ∈ conditions.comparisons, index.name ≠ comparison.field ∧
      ∃ position ∈ index.parts.head?,
        space.fieldPosition? comparison.field = some position := by
  simp only [scansPrimary, namesPrimary, Bool.and_eq_true, List.all_eq_true] at h
  obtain ⟨⟨_, hquery⟩, hcomparisons⟩ := h
  rcases chosen.exists_triple with hprimary | ⟨triple, htriple, hmem, hnames⟩
  · exact absurd (Space.primary_id hprimary) hid
  rcases List.mem_append.mp htriple with htriple | htriple
  · cases hconditions : conditions.indexQuery with
    | none => simp [hconditions, queryTriples] at htriple
    | some query =>
        simp only [hconditions, Option.all_some, Bool.and_eq_true] at hquery
        simp only [hconditions, queryTriples] at htriple
        cases hnamed : space.index? query.index with
        | none => simp [hnamed] at htriple
        | some named =>
            simp only [hnamed, List.mem_singleton] at htriple
            subst htriple
            rcases hnames with hname | ⟨hnone, _⟩
            · have hsame := List.inj_on_of_nodup_map names hmem (Space.index_mem hnamed) hname
              simp [hnamed, ← hsame, hid] at hquery
            · exact absurd rfl (hnone named (Space.index_mem hnamed))
  · obtain ⟨comparison, hcomparison, rfl⟩ := List.mem_map.mp htriple
    rcases hnames with hname | ⟨hnone, hposition⟩
    · have hnames := (hcomparisons comparison hcomparison).1
      have hfound := index?_of_name names hmem
      rw [hname] at hfound
      simp [Triple.ofComparison] at hfound
      simp [hfound, hid] at hnames
    · exact ⟨comparison, hcomparison, hnone index hmem, hposition⟩

/-- The limit is safe when an index with a compared field in front has the name of that field. -/
theorem limitSafe_of_named (names : (space.indexes.map Index.name).Nodup)
    (named : ∀ comparison ∈ conditions.comparisons, ∀ index ∈ space.indexes, index.id ≠ 0 →
      ∀ position ∈ index.parts.head?, space.fieldPosition? comparison.field = some position →
        index.name = comparison.field) : LimitSafe space conditions := by
  intro h primary _ index forward chosen hid
  obtain ⟨comparison, hcomparison, hname, position, hhead, hposition⟩ :=
    chosen.exists_comparison names h hid
  exact absurd (named comparison hcomparison index chosen.mem hid position hhead hposition) hname

/-! ## The result of a selection -/

theorem passesComparisons_ok {comparisons : List Comparison}
    (known : ∀ comparison ∈ comparisons, ∃ position,
      space.fieldPosition? comparison.field = some position) (tuple : Tuple) :
    ∃ passes, Conditions.passesComparisons space tuple comparisons = .ok passes := by
  induction comparisons with
  | nil => exact ⟨true, rfl⟩
  | cons comparison rest ih =>
      obtain ⟨⟨position, hposition⟩, hrest⟩ := List.forall_mem_cons.mp known
      rw [Conditions.passesComparisons, hposition]
      dsimp only
      split
      · exact ih hrest
      · exact ⟨false, rfl⟩

theorem isMatch_eq_satisfies (known : Known conditions space) (tuple : Tuple) :
    conditions.isMatch space tuple = .ok (satisfies conditions space tuple) := by
  have hok : ∃ passes, conditions.isMatch space tuple = .ok passes := by
    unfold Conditions.isMatch
    cases hquery : conditions.indexQuery with
    | none => exact passesComparisons_ok known.comparisons tuple
    | some query =>
        obtain ⟨index, hindex⟩ := known.query query hquery
        simp only [hindex]
        split
        · exact passesComparisons_ok known.comparisons tuple
        · exact ⟨false, rfl⟩
  obtain ⟨passes, hpasses⟩ := hok
  rw [satisfies, hpasses]
  rfl

theorem filter_eq_window (known : Known conditions space) (tuples : List Tuple) :
    conditions.filter space tuples =
      .ok (conditions.window (tuples.filter (satisfies conditions space))) := by
  rw [Conditions.filter,
    Conditions.matching_eq_filter fun tuple _ => isMatch_eq_satisfies known tuple]
  rfl

theorem readRows_rowsValue (rows : List Tuple) : readRows [rowsValue rows] = .ok rows := by
  rw [← mapM_array (fun _ => rfl : ∀ tuple, toTuple (.array tuple) = .ok tuple) rows]
  simp [readRows, checkReport, rowsValue, fieldAt, Value.get?]
  rfl

variable {handle functions} {state before : σ} {name : String} {stored : List Tuple}

private theorem filter_walked_eq (contents : space.Contents primary stored)
    (hindex : index ∈ space.indexes) {p : Tuple → Bool} {walked : List Tuple}
    (precedes : (stored.filter p).Pairwise (Precedes index forward))
    (walks : index.Walks forward stored walked) : walked.filter p = stored.filter p := by
  have hfree : ∀ tuple ∈ stored.filter p, Value.floatFreeKey (index.keyOf tuple) :=
    fun tuple h => contents.floatFree index hindex tuple (List.mem_of_mem_filter h)
  have hperm : (walked.filter p).Perm (stored.filter p) := walks.perm.filter p
  cases forward with
  | true =>
      exact Sorted.eq_of_perm Value.compareKeys_ordersOn hfree hperm
        (walks.sorted.sublist List.filter_sublist) precedes
  | false =>
      have hsorted : Sorted Value.compareKeys index.keyOf (walked.filter p).reverse := by
        rw [← List.filter_reverse]
        exact walks.sorted.sublist List.filter_sublist
      have hincreasing : Increasing Value.compareKeys index.keyOf (stored.filter p).reverse := by
        refine List.pairwise_reverse.mpr (precedes.imp_of_mem ?_)
        intro l r hl hr hlr
        exact (Value.compareKeys_ordersOn.lt_iff_gt (hfree r hr) (hfree l hl)).mpr hlr
      refine List.reverse_injective ?_
      exact Sorted.eq_of_perm Value.compareKeys_ordersOn
        (fun tuple h => hfree tuple (List.mem_reverse.mp h))
        ((List.reverse_perm _).trans (hperm.trans (List.reverse_perm _).symm))
        hsorted hincreasing

private theorem run_select (known : Known conditions space)
    (hprimary : space.primary? = some primary) {rows : List Tuple}
    (hspace : Program.run handle (Cluster.space functions name) before = (.ok space, state))
    (hrows : (handle (.request (.call functions.select
        [.text name, .array ((triples conditions space).map Triple.toValue),
          selectOptions conditions space])) state).1 = .ok [rowsValue rows]) :
    (Program.run handle (select functions name conditions) before).1 =
      .ok (conditions.window (space.inPrimaryOrder rows)) := by
  rw [select, Program.run_bind, hspace]
  simp only [hprimary, Option.isNone_some, Bool.false_eq_true, if_false,
    encodeConditions_eq known, Except.mapError, callForRows, call, request,
    Program.run_bind, Program.run_ofExcept]
  simp only [Program.run, hrows, readRows_rowsValue]
  rfl

private theorem filter_walked_of_limitSafe (names : (space.indexes.map Index.name).Nodup)
    (ids : (space.indexes.map Index.id).Nodup) (safe : LimitSafe space conditions)
    (contents : space.Contents primary stored)
    (increasing : Increasing Value.compareKeys primary.keyOf stored)
    (h : scansPrimary conditions space = true)
    (chosen : Chosen space (triples conditions space) index forward) {walked : List Tuple}
    (walks : index.Walks forward stored walked) :
    walked.filter (satisfies conditions space) =
      stored.filter (satisfies conditions space) := by
  refine filter_walked_eq contents chosen.mem ?_ walks
  have hwanted := increasing.sublist
    (List.filter_sublist (p := satisfies conditions space) (l := stored))
  by_cases hid : index.id = 0
  · obtain ⟨rfl, rfl⟩ := chosen.primary_forward names ids contents.primary_eq h hid
    exact hwanted
  · refine List.Pairwise.imp_of_mem ?_ hwanted
    intro l r hl hr hlr
    obtain ⟨hl, hwantedl⟩ := List.mem_filter.mp hl
    obtain ⟨hr, hwantedr⟩ := List.mem_filter.mp hr
    refine safe h primary contents.primary_eq index forward chosen hid l r ?_ hwantedl hwantedr hlr
    refine ⟨contents.primary_eq, ?_, by simp [Distinct, hlr]⟩
    intro other hother tuple htuple
    rcases List.mem_pair.mp htuple with rfl | rfl
    · exact contents.floatFree other hother tuple hl
    · exact contents.floatFree other hother tuple hr

private theorem stopAfter_selectOptions (conditions : Conditions) (space : Space)
    (tuples : List Tuple) :
    stopAfter (selectOptions conditions space) tuples =
      match scansPrimary conditions space, conditions.limit with
      | true, some limit => tuples.take limit
      | _, _ => tuples := by
  unfold selectOptions
  cases scansPrimary conditions space <;> cases conditions.limit <;>
    simp [stopAfter, Value.get?, Value.nat, Value.unsigned?]

private theorem window_eq_take (h : scansPrimary conditions space = true) {limit : Nat}
    (hlimit : conditions.limit = some limit) (tuples : List Tuple) :
    conditions.window tuples = tuples.take limit := by
  simp only [scansPrimary, Conditions.hasDefaultWindow, Bool.and_eq_true, beq_iff_eq,
    Bool.not_eq_true'] at h
  simp [Conditions.window, h.1.1.1, h.1.1.2, hlimit]

theorem selectsMatching_of_limitSafe (names : (space.indexes.map Index.name).Nodup)
    (ids : (space.indexes.map Index.id).Nodup) (known : Known conditions space)
    (safe : LimitSafe space conditions) : SelectsMatching space conditions := by
  intro σ handle functions name state before primary stored hspace contents serves
  obtain ⟨ordered, hperm, increasing⟩ := contents.exists_increasing
  refine ⟨ordered, hperm, increasing, ?_⟩
  replace contents := contents.perm hperm.symm
  obtain ⟨index, forward, chosen, walked, walks, hrows⟩ := serves
  replace walks := walks.of_perm hperm.symm
  rw [run_select known contents.primary_eq hspace hrows, filter_eq_window known,
    stopAfter_selectOptions]
  -- the cluster stops early only where the check lets the limit through
  split
  next limit h hlimit =>
    have hwalked := filter_walked_of_limitSafe names ids safe contents increasing h chosen walks
    rw [hwalked, contents.inPrimaryOrder_eq increasing
      ((List.take_sublist _ _).trans List.filter_sublist) (.refl _),
      window_eq_take h hlimit, window_eq_take h hlimit, List.take_take, min_self]
    rfl
  next =>
    rw [contents.inPrimaryOrder_eq increasing List.filter_sublist (walks.perm.filter _)]
    rfl

def answerRows (space : Space) (rows : List Tuple) : (op : Op) → Unit → op.Reply × Unit
  | .request (.call ..), _ => (.ok [rowsValue rows], ())
  | .request _, _ => (.error (.noSuchSpace .network space.name), ())
  | .schema, _ => (some [space], ())
  | .setSchema _, _ => ((), ())

theorem run_space_answerRows (space : Space) (rows : List Tuple) :
    Program.run (answerRows space rows) (Cluster.space {} space.name) () = (.ok space, ()) := by
  have hfind : find? [space] space.name = some space := by simp [find?]
  simp [Cluster.space, space?, schema, Program.run_bind, Program.run, answerRows, hfind]

/-- Two tuples in the wrong order, of which the first one is wanted. -/
theorem limitSafe_of_selectsMatching (known : Known conditions space)
    (selects : ∀ limit, SelectsMatching space { conditions with limit }) :
    LimitSafe space conditions := by
  intro h primary hprimary index forward chosen _ l r contents hl hr hlr
  by_contra hnot
  let first := { conditions with limit := some 1 }
  have hfree : ∀ tuple ∈ [l, r], Value.floatFreeKey (index.keyOf tuple) :=
    contents.floatFree index chosen.mem
  have walks : index.Walks forward [l, r] [r, l] := by
    refine ⟨.swap l r [], ?_⟩
    cases forward with
    | true =>
        have hle := mt (Value.compareKeys_ordersOn.gt_iff_lt
          (hfree r (by simp)) (hfree l (by simp))).mp hnot
        simpa [Sorted] using hle
    | false => simpa [Sorted, Precedes] using hnot
  have hrows : stopAfter (selectOptions first space) ([r, l].filter (satisfies first space)) =
      [r] := by
    have hfirst : scansPrimary first space = true := h
    have hwanted : satisfies first space r = true := hr
    rw [stopAfter_selectOptions, hfirst, List.filter_cons_of_pos hwanted]
    rfl
  have serves : Serves (answerRows space [r]) {} space [l, r] space.name first () := by
    refine ⟨index, forward, chosen, [r, l], walks, ?_⟩
    rw [hrows]
    rfl
  obtain ⟨ordered, hperm, increasing, hrun⟩ := selects (some 1) (answerRows space [r]) {}
    space.name () () primary [l, r] (run_space_answerRows space [r]) contents serves
  have hordered : ordered = [l, r] :=
    increasing.eq_of_perm Value.compareKeys_ordersOn
      (fun tuple h => contents.primary_floatFree tuple (hperm.mem_iff.mp h)) hperm
      (List.pairwise_pair.mpr hlr)
  subst hordered
  have hselect := run_select (known.withLimit (some 1)) hprimary
    (run_space_answerRows space [r]) rfl
  have hsorted : space.inPrimaryOrder [r] = [r] :=
    contents.inPrimaryOrder_eq increasing (by simp) (.refl _)
  have hwindow (tuples : List Tuple) : first.window tuples = tuples.take 1 := by
    have hscans : scansPrimary first space = true := h
    exact window_eq_take hscans rfl tuples
  have hfirst : [l, r].filter (satisfies first space) = [l, r] := by
    refine List.filter_eq_self.mpr fun tuple htuple => ?_
    rcases List.mem_pair.mp htuple with rfl | rfl
    · exact hl
    · exact hr
  rw [hselect, hsorted, filter_eq_window (known.withLimit (some 1)), hfirst, hwindow,
    hwindow] at hrun
  have hsame : r = l := by simpa [Except.mapError] using hrun
  rw [hsame, Precedes, Value.compareKeys_ordersOn.refl
    (contents.primary_floatFree l (by simp))] at hlr
  contradiction

/--
Exactly where the limit is safe, every selection with the conditions and any limit
is what the conditions mean.
-/
theorem selectsMatching_iff (names : (space.indexes.map Index.name).Nodup)
    (ids : (space.indexes.map Index.id).Nodup) (known : Known conditions space) :
    (∀ limit, SelectsMatching space { conditions with limit }) ↔ LimitSafe space conditions :=
  ⟨limitSafe_of_selectsMatching known, fun safe limit =>
    selectsMatching_of_limitSafe names ids (known.withLimit limit) safe⟩

def books : Space where
  id := 1
  name := "books"
  format := [{ name := "id" }, { name := "year" }]
  indexes := [⟨0, "primary", true, [0]⟩, ⟨1, "by_year", false, [1]⟩]

def book (id year : Nat) : Tuple := [.nat id, .nat year]

def numberedFrom (id : Nat) : Conditions := { comparisons := [⟨"id", .greaterOrEqual, .nat id⟩] }

def publishedSince (year : Nat) : Conditions :=
  { comparisons := [⟨"year", .greaterOrEqual, .nat year⟩] }

/-- Books may be limited by their numbers, but not by their years. -/
theorem selectsMatching_books :
    (∀ limit, SelectsMatching books { numberedFrom 1 with limit }) ∧
      ¬∀ limit, SelectsMatching books { publishedSince 1900 with limit } := by
  have hnames : (books.indexes.map Index.name).Nodup := by decide
  have hids : (books.indexes.map Index.id).Nodup := by decide
  have hnumbered : Known (numberedFrom 1) books :=
    ⟨nofun, fun comparison h => by rw [List.mem_singleton.mp h]; exact ⟨0, rfl⟩⟩
  have hpublished : Known (publishedSince 1900) books :=
    ⟨nofun, fun comparison h => by rw [List.mem_singleton.mp h]; exact ⟨1, rfl⟩⟩
  rw [selectsMatching_iff hnames hids hnumbered, selectsMatching_iff hnames hids hpublished]
  constructor
  · intro _ primary _ index forward chosen hid
    have honly : ∀ index ∈ books.indexes, Addresses books "id" index → index.id = 0 := by
      decide
    cases chosen with
    | addressed h => exact absurd (honly index h.1 h) hid
    | skipped h =>
        have hprimary : Addresses books "id" books.indexes[0] := by decide
        exact absurd hprimary (h _)
  · intro safe
    have chosen : Chosen books (triples (publishedSince 1900) books) books.indexes[1] true :=
      .addressed (by decide)
    have hprecedes := safe (by decide +kernel) _ rfl _ true chosen (by decide) (book 1 1965)
      (book 2 1950) ⟨rfl, by decide +kernel, by decide +kernel⟩ (by decide +kernel)
      (by decide +kernel) (by decide +kernel)
    revert hprecedes
    decide +kernel

/--
The first book since 1900 by its number is the second one by its year, which is
the one that the cluster returns.
-/
theorem select_first_published :
    let stored := [book 1 1965, book 2 1950]
    let conditions := { publishedSince 1900 with limit := some 1 }
    books.Contents books.indexes[0] stored ∧
      Increasing Value.compareKeys books.indexes[0].keyOf stored ∧
      Serves (answerRows books [book 2 1950]) {} books stored "books" conditions () ∧
      (Program.run (answerRows books [book 2 1950]) (select {} "books" conditions) ()).1 =
        .ok [book 2 1950] ∧
      conditions.filter books stored = .ok [book 1 1965] := by
  intro stored conditions
  have chosen : Chosen books (triples conditions books) books.indexes[1] true :=
    .addressed (by decide)
  have walks : books.indexes[1].Walks true stored [book 2 1950, book 1 1965] :=
    ⟨.swap .., by decide +kernel⟩
  exact ⟨⟨rfl, by decide +kernel, by decide +kernel⟩, by decide +kernel,
    ⟨_, _, chosen, _, walks, rfl⟩, rfl, rfl⟩

end TupleStore.Cluster
