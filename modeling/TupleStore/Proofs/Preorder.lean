import Mathlib.Data.List.Sort
import TupleStore.PrimaryOrder

/-!
# Comparisons which order some of their arguments

A comparison need not order all values of its type: it may be a total preorder
only on the values which satisfy a condition.  `OrdersOn` says so, and the facts
about sorted lists below ask for no more.
-/

namespace TupleStore

/--
The outcomes of comparing `l` with `m`, `m` with `r` and `l` with `r`: along
`l ≤ m ≤ r` the first step which is not an equality decides.
-/
def Chained (lm mr lr : Ordering) : Prop := lm ≠ .gt → mr ≠ .gt → lr = lm.then mr

theorem Chained.of_transOrd {α : Type} [Ord α] [Std.TransOrd α] (l m r : α) :
    Chained (compare l m) (compare m r) (compare l r) := by
  intro hlm hmr
  cases h : compare l m with
  | lt => exact Std.TransCmp.lt_of_lt_of_isLE h (Ordering.isLE_iff_ne_gt.mpr hmr)
  | eq => exact Std.TransCmp.congr_left h
  | gt => exact absurd h hlm

theorem Chained.then {lm mr lr lm' mr' lr' : Ordering} (first : Chained lm mr lr)
    (second : lm = .eq → mr = .eq → Chained lm' mr' lr') :
    Chained (lm.then lm') (mr.then mr') (lr.then lr') := by
  intro hlm hmr
  cases lm with
  | gt => exact absurd rfl hlm
  | lt =>
      cases mr with
      | gt => exact absurd rfl hmr
      | lt | eq => rw [first (by simp) (by simp)]; rfl
  | eq =>
      cases mr with
      | gt => exact absurd rfl hmr
      | lt =>
          rw [first (by simp) (by simp)]
          cases lm' with
          | gt => exact absurd rfl hlm
          | lt | eq => rfl
      | eq =>
          rw [first (by simp) (by simp)]
          exact second rfl rfl hlm hmr

/-- On the values with the property `P` the comparison is a total preorder. -/
structure OrdersOn {κ : Type} (compare : κ → κ → Ordering) (P : κ → Prop) : Prop where
  swap : ∀ {l r}, P l → P r → compare r l = (compare l r).swap
  chained : ∀ {l m r}, P l → P m → P r →
    Chained (compare l m) (compare m r) (compare l r)

namespace OrdersOn

variable {κ : Type} {compare : κ → κ → Ordering} {P : κ → Prop} {l m r : κ}

theorem refl (orders : OrdersOn compare P) (hl : P l) : compare l l = .eq := by
  have h := orders.swap hl hl
  cases hll : compare l l <;> rw [hll] at h <;> simp_all

theorem eq_comm (orders : OrdersOn compare P) (hl : P l) (hr : P r) :
    compare l r = .eq ↔ compare r l = .eq := by
  rw [orders.swap hl hr]
  cases compare l r <;> simp

theorem gt_iff_lt (orders : OrdersOn compare P) (hl : P l) (hr : P r) :
    compare l r = .gt ↔ compare r l = .lt := by
  rw [orders.swap hl hr]
  cases compare l r <;> simp

theorem lt_iff_gt (orders : OrdersOn compare P) (hl : P l) (hr : P r) :
    compare l r = .lt ↔ compare r l = .gt := by
  rw [orders.swap hl hr]
  cases compare l r <;> simp

theorem le_trans (orders : OrdersOn compare P) (hl : P l) (hm : P m) (hr : P r)
    (hlm : compare l m ≠ .gt) (hmr : compare m r ≠ .gt) : compare l r ≠ .gt := by
  rw [orders.chained hl hm hr hlm hmr]
  cases h : compare l m <;> simp_all

theorem congr_left (orders : OrdersOn compare P) (hl : P l) (hm : P m) (hr : P r)
    (h : compare l m = .eq) : compare l r = compare m r := by
  cases hmr : compare m r with
  | lt | eq => rw [orders.chained hl hm hr (by simp [h]) (by simp [hmr]), h, hmr]; rfl
  | gt =>
      have hrm := (orders.gt_iff_lt hm hr).mp hmr
      have hml := (orders.eq_comm hl hm).mp h
      have hrl : compare r l = .lt := by
        rw [orders.chained hr hm hl (by simp [hrm]) (by simp [hml]), hrm]
        rfl
      exact (orders.gt_iff_lt hl hr).mpr hrl

theorem congr_right (orders : OrdersOn compare P) (hl : P l) (hm : P m) (hr : P r)
    (h : compare m r = .eq) : compare l m = compare l r := by
  rw [orders.swap hm hl, orders.swap hr hl, orders.congr_left hm hr hl h]

end OrdersOn

/-! ## Sorted lists -/

variable {α κ : Type} {compare : κ → κ → Ordering} {P : κ → Prop} {key : α → κ}

def Increasing (compare : κ → κ → Ordering) (key : α → κ) (items : List α) : Prop :=
  items.Pairwise fun l r => compare (key l) (key r) = .lt

def Sorted (compare : κ → κ → Ordering) (key : α → κ) (items : List α) : Prop :=
  items.Pairwise fun l r => compare (key l) (key r) ≠ .gt

def Distinct (compare : κ → κ → Ordering) (key : α → κ) (items : List α) : Prop :=
  items.Pairwise fun l r => compare (key l) (key r) ≠ .eq

instance (items : List α) : Decidable (Increasing compare key items) :=
  inferInstanceAs (Decidable (items.Pairwise _))

instance (items : List α) : Decidable (Sorted compare key items) :=
  inferInstanceAs (Decidable (items.Pairwise _))

instance (items : List α) : Decidable (Distinct compare key items) :=
  inferInstanceAs (Decidable (items.Pairwise _))

theorem Increasing.distinct {items : List α} (h : Increasing compare key items) :
    Distinct compare key items :=
  h.imp fun hlr => by simp [hlr]

theorem Increasing.sublist {items others : List α} (h : Increasing compare key items)
    (part : others.Sublist items) : Increasing compare key others :=
  List.Pairwise.sublist part h

theorem Sorted.increasing {items : List α} (sorted : Sorted compare key items)
    (distinct : Distinct compare key items) : Increasing compare key items := by
  refine (List.pairwise_and_iff.mpr ⟨sorted, distinct⟩).imp ?_
  rintro l r ⟨hle, hne⟩
  cases h : compare (key l) (key r) <;> simp_all

theorem Distinct.perm (orders : OrdersOn compare P) {items others : List α}
    (hP : ∀ item ∈ items, P (key item)) (perm : items.Perm others)
    (distinct : Distinct compare key items) : Distinct compare key others := by
  have hboth : items.Pairwise fun l r =>
      compare (key l) (key r) ≠ .eq ∧ compare (key r) (key l) ≠ .eq := by
    refine List.Pairwise.imp_of_mem ?_ distinct
    intro l r hl hr hlr
    exact ⟨hlr, mt (orders.eq_comm (hP r hr) (hP l hl)).mp hlr⟩
  exact (hboth.perm perm fun h => ⟨h.2, h.1⟩).imp And.left

theorem Increasing.eq_of_perm (orders : OrdersOn compare P) {items others : List α}
    (hP : ∀ item ∈ items, P (key item)) (perm : items.Perm others)
    (hitems : Increasing compare key items) (hothers : Increasing compare key others) :
    items = others := by
  refine List.Perm.eq_of_pairwise ?_ hitems hothers perm
  intro l r hl hr hlr hrl
  have hr' := hP r (perm.mem_iff.mpr hr)
  rw [(orders.lt_iff_gt (hP l hl) hr').mp hlr] at hrl
  contradiction

theorem Sorted.eq_of_perm (orders : OrdersOn compare P) {items others : List α}
    (hP : ∀ item ∈ others, P (key item)) (perm : items.Perm others)
    (sorted : Sorted compare key items) (increasing : Increasing compare key others) :
    items = others := by
  have hdistinct := increasing.distinct.perm orders hP perm.symm
  exact (sorted.increasing hdistinct).eq_of_perm orders
    (fun item h => hP item (perm.mem_iff.mp h)) perm increasing

private theorem insertIdx_eq_append (item : α) (items : List α) (i : Nat)
    (hi : i ≤ items.length) : items.insertIdx i item = items.take i ++ item :: items.drop i := by
  induction items generalizing i with
  | nil =>
      obtain rfl := Nat.le_zero.mp hi
      rfl
  | cons other items ih =>
      cases i with
      | zero => rfl
      | succ i =>
          rw [List.insertIdx_succ_cons, ih i (Nat.le_of_succ_le_succ hi)]
          rfl

theorem Increasing.insertIdx {items : List α} (h : Increasing compare key items) {item : α}
    {i : Nat} (hi : i ≤ items.length)
    (before : ∀ j other, j < i → items[j]? = some other → compare (key other) (key item) = .lt)
    (behind : ∀ j other, i ≤ j → items[j]? = some other → compare (key item) (key other) = .lt) :
    Increasing compare key (items.insertIdx i item) := by
  have htake : ∀ other ∈ items.take i, compare (key other) (key item) = .lt := by
    intro other hother
    obtain ⟨j, hj, rfl⟩ := List.mem_take_iff_getElem.mp hother
    exact before j _ (by omega) (List.getElem?_eq_getElem _)
  have hdrop : ∀ other ∈ items.drop i, compare (key item) (key other) = .lt := by
    intro other hother
    obtain ⟨j, hj, rfl⟩ := List.mem_drop_iff_getElem.mp hother
    exact behind _ _ (by omega) (List.getElem?_eq_getElem _)
  rw [insertIdx_eq_append item items i hi]
  have hsplit : Increasing compare key (items.take i ++ items.drop i) := by
    rwa [List.take_append_drop]
  obtain ⟨hfront, hrest, hacross⟩ := List.pairwise_append.mp hsplit
  refine List.pairwise_append.mpr ⟨hfront, List.pairwise_cons.mpr ⟨hdrop, hrest⟩, ?_⟩
  intro l hl r hr
  rcases List.mem_cons.mp hr with rfl | hr
  · exact htake l hl
  · exact hacross l hl r hr

theorem Increasing.set (orders : OrdersOn compare P) {items : List α}
    (h : Increasing compare key items) (hP : ∀ item ∈ items, P (key item)) {old new : α}
    (hnew : P (key new)) {i : Nat} (hold : items[i]? = some old)
    (heq : compare (key old) (key new) = .eq) : Increasing compare key (items.set i new) := by
  obtain ⟨hi, rfl⟩ := List.getElem?_eq_some_iff.mp hold
  have hget := List.pairwise_iff_getElem.mp h
  have hmem : ∀ j (hj : j < items.length), P (key items[j]) :=
    fun j hj => hP _ (List.getElem_mem hj)
  refine List.pairwise_iff_getElem.mpr fun l r hl hr hlr => ?_
  rw [List.length_set] at hl hr
  rw [List.getElem_set, List.getElem_set]
  split
  next hli =>
    subst hli
    rw [if_neg (by omega), ← orders.congr_left (hmem i hi) hnew (hmem r hr) heq]
    exact hget i r hi hr hlr
  next hli =>
    split
    next hri =>
      subst hri
      rw [← orders.congr_right (hmem l hl) (hmem i hi) hnew heq]
      exact hget l i hl hr hlr
    next => exact hget l r hl hr hlr

/-! ## Sorting -/

theorem insertFromEnd_perm (compare : κ → κ → Ordering) (key : α → κ) (item : α)
    (items : List α) : (insertFromEnd compare key item items).Perm (item :: items) := by
  induction items with
  | nil => exact .refl _
  | cons last rest ih =>
      simp only [insertFromEnd]
      split
      · exact (ih.cons last).trans (.swap item last rest)
      · exact .refl _

private theorem insertFromEnd_sorted (orders : OrdersOn compare P) (item : α)
    (items : List α) (hitem : P (key item)) (hP : ∀ other ∈ items, P (key other))
    (sorted : items.Pairwise fun l r => compare (key r) (key l) ≠ .gt) :
    (insertFromEnd compare key item items).Pairwise
      fun l r => compare (key r) (key l) ≠ .gt := by
  induction items with
  | nil => simp [insertFromEnd]
  | cons last rest ih =>
      obtain ⟨hlast, hrest⟩ := List.pairwise_cons.mp sorted
      have hlastP := hP last (by simp)
      simp only [insertFromEnd, beq_iff_eq]
      split
      next hlt =>
        refine List.pairwise_cons.mpr ⟨?_, ih (fun other h => hP other (by simp [h])) hrest⟩
        intro other hother
        rcases List.mem_cons.mp ((insertFromEnd_perm ..).mem_iff.mp hother) with rfl | h
        · simp [hlt]
        · exact hlast other h
      next hnot =>
        have hle : compare (key last) (key item) ≠ .gt :=
          mt (orders.gt_iff_lt hlastP hitem).mp hnot
        refine List.pairwise_cons.mpr ⟨?_, sorted⟩
        intro other hother
        rcases List.mem_cons.mp hother with rfl | h
        · exact hle
        · exact orders.le_trans (hP other hother) hlastP hitem (hlast other h) hle

private theorem foldl_insertFromEnd_perm (compare : κ → κ → Ordering) (key : α → κ)
    (items sorted : List α) :
    (items.foldl (fun sorted item => insertFromEnd compare key item sorted) sorted).Perm
      (items ++ sorted) := by
  induction items generalizing sorted with
  | nil => exact .refl _
  | cons item items ih =>
      exact (ih _).trans
        (((insertFromEnd_perm compare key item sorted).append_left items).trans
          List.perm_middle)

theorem sortBy_perm (compare : κ → κ → Ordering) (key : α → κ) (items : List α) :
    (sortBy compare key items).Perm items := by
  have h := foldl_insertFromEnd_perm compare key items []
  rw [List.append_nil] at h
  exact (List.reverse_perm _).trans h

private theorem foldl_insertFromEnd_sorted (orders : OrdersOn compare P)
    (items sorted : List α) (hitems : ∀ item ∈ items, P (key item))
    (hP : ∀ item ∈ sorted, P (key item))
    (h : sorted.Pairwise fun l r => compare (key r) (key l) ≠ .gt) :
    (items.foldl (fun sorted item => insertFromEnd compare key item sorted) sorted).Pairwise
      fun l r => compare (key r) (key l) ≠ .gt := by
  induction items generalizing sorted with
  | nil => exact h
  | cons item items ih =>
      have hitem := hitems item (by simp)
      refine ih _ (fun other hother => hitems other (by simp [hother])) ?_
        (insertFromEnd_sorted orders item sorted hitem hP h)
      intro other hother
      rcases List.mem_cons.mp ((insertFromEnd_perm ..).mem_iff.mp hother) with rfl | hmem
      · exact hitem
      · exact hP other hmem

theorem sortBy_sorted (orders : OrdersOn compare P) (items : List α)
    (hP : ∀ item ∈ items, P (key item)) :
    Sorted compare key (sortBy compare key items) := by
  refine List.pairwise_reverse.mpr ?_
  exact foldl_insertFromEnd_sorted orders items [] hP (by simp) .nil

theorem sortBy_eq (orders : OrdersOn compare P) {items ordered : List α}
    (hP : ∀ item ∈ ordered, P (key item)) (perm : items.Perm ordered)
    (increasing : Increasing compare key ordered) :
    sortBy compare key items = ordered := by
  have hsorted := sortBy_sorted orders items fun item h => hP item (perm.mem_iff.mp h)
  exact hsorted.eq_of_perm orders hP ((sortBy_perm compare key items).trans perm) increasing

end TupleStore
