import Mathlib.Data.List.Basic
import TupleStore.Database.Table
import TupleStore.Proofs.Preorder

/-!
# Binary search

A search in sorted items finds an item on which the probe is equal, or the place
between the smaller and the greater items.  That the item which it finds is equal
does not depend on their order.
-/

namespace TupleStore.Database

variable {α : Type} {probe : α → Ordering} {items : List α}

/-- Behind an item which is not smaller than the probe all are greater. -/
def Probes (probe : α → Ordering) (items : List α) : Prop :=
  items.Pairwise fun l r => probe l ≠ .lt → probe r = .gt

structure Window (probe : α → Ordering) (items : List α) (base size : Nat) : Prop where
  pos : 0 < size
  le : base + size ≤ items.length
  front : base = 0 ∨ ∃ item, items[base]? = some item ∧ probe item ≠ .gt
  behind : ∀ i item, base + size ≤ i → items[i]? = some item → probe item = .gt

theorem Probes.gt_of_lt (sorted : Probes probe items) {i j : Nat} (hij : i < j) {l r : α}
    (hl : items[i]? = some l) (hr : items[j]? = some r) (h : probe l ≠ .lt) :
    probe r = .gt := by
  obtain ⟨hi, rfl⟩ := List.getElem?_eq_some_iff.mp hl
  obtain ⟨hj, rfl⟩ := List.getElem?_eq_some_iff.mp hr
  exact List.pairwise_iff_getElem.mp sorted i j hi hj hij h

theorem probes_of_increasing {κ : Type} {compare : κ → κ → Ordering} {P : κ → Prop}
    {keyOf : α → κ} {key : κ} (orders : OrdersOn compare P)
    (h : Increasing compare keyOf items) (hP : ∀ item ∈ items, P (keyOf item))
    (hkey : P key) : Probes (fun item => compare (keyOf item) key) items := by
  refine List.Pairwise.imp_of_mem ?_ h
  intro l r hl hr hlr hnot
  have hle : compare key (keyOf l) ≠ .gt :=
    mt (orders.gt_iff_lt hkey (hP l hl)).mp hnot
  refine (orders.gt_iff_lt (hP r hr) hkey).mpr ?_
  rw [orders.chained hkey (hP l hl) (hP r hr) hle (by simp [hlr]), hlr]
  cases hkl : compare key (keyOf l) <;> simp_all

theorem narrow_window (sorted : Probes probe items) (fuel base size : Nat)
    (hfuel : size ≤ fuel + 1) (window : Window probe items base size) :
    Window probe items (narrow probe items fuel base size) 1 := by
  induction fuel generalizing base size with
  | zero =>
      have hsize : size = 1 := by
        have := window.pos
        omega
      subst hsize
      exact window
  | succ fuel ih =>
      rw [narrow]
      split
      next hsize =>
        have hone : size = 1 := by
          have := window.pos
          omega
        subst hone
        exact window
      next hsize =>
        have hle := window.le
        have hmid : base + size / 2 < items.length := by omega
        have hget := List.getElem?_eq_getElem hmid
        dsimp only
        rw [hget]
        simp only [Option.map_some, Option.getD_some, beq_iff_eq]
        refine ih _ _ (by omega) ?_
        split
        next hgt =>
          refine ⟨by omega, by omega, window.front, fun i item hi hitem => ?_⟩
          rcases Nat.lt_or_ge (base + size / 2) i with hlt | hge
          · exact sorted.gt_of_lt hlt hget hitem (by simp [hgt])
          · have hsame : i = base + size / 2 := by omega
            rw [hsame, hget] at hitem
            cases hitem
            exact hgt
        next hnot =>
          refine ⟨by omega, by omega, .inr ⟨_, hget, hnot⟩, fun i item hi hitem => ?_⟩
          exact window.behind i item (by omega) hitem

theorem search_taken {i : Nat} (h : search probe items = .taken i) :
    ∃ item, items[i]? = some item ∧ probe item = .eq := by
  unfold search at h
  dsimp only at h
  split at h
  next => contradiction
  next hprobe =>
    cases h
    exact Option.map_eq_some_iff.mp hprobe
  next => contradiction
  next => contradiction

theorem search_free_le {i : Nat} (h : search probe items = .free i) : i ≤ items.length := by
  unfold search at h
  dsimp only at h
  split at h
  next =>
    cases h
    exact Nat.zero_le _
  next => contradiction
  all_goals
    next hprobe =>
      cases h
      obtain ⟨item, hitem, _⟩ := Option.map_eq_some_iff.mp hprobe
      have := (List.getElem?_eq_some_iff.mp hitem).1
      omega

private theorem search_window (sorted : Probes probe items) (hne : items ≠ []) :
    Window probe items (narrow probe items items.length 0 items.length) 1 := by
  refine narrow_window sorted _ _ _ (by omega) ⟨List.length_pos_iff.mpr hne, by omega,
    .inl rfl, fun i item hi hitem => ?_⟩
  have := (List.getElem?_eq_some_iff.mp hitem).1
  omega

theorem search_free (sorted : Probes probe items) {i : Nat}
    (h : search probe items = .free i) :
    i ≤ items.length ∧ (∀ j item, j < i → items[j]? = some item → probe item = .lt) ∧
      ∀ j item, i ≤ j → items[j]? = some item → probe item = .gt := by
  by_cases hne : items = []
  · subst hne
    cases h
    exact ⟨Nat.le_refl _, nofun, nofun⟩
  have window := search_window sorted hne
  unfold search at h
  dsimp only at h
  generalize narrow probe items items.length 0 items.length = base at *
  have hbase : base < items.length := window.le
  have hget := List.getElem?_eq_getElem hbase
  rw [hget, Option.map_some] at h
  cases hprobe : probe items[base] with
  | eq =>
      rw [hprobe] at h
      contradiction
  | lt =>
      rw [hprobe] at h
      cases h
      refine ⟨hbase, fun j item hj hitem => ?_, window.behind⟩
      -- an item in front which is not smaller would make the last one greater
      by_contra hnot
      rcases Nat.lt_or_eq_of_le (Nat.lt_succ_iff.mp hj) with hlt | rfl
      · have hgt := sorted.gt_of_lt hlt hitem hget hnot
        rw [hprobe] at hgt
        contradiction
      · rw [hget] at hitem
        cases hitem
        exact hnot hprobe
  | gt =>
      rw [hprobe] at h
      cases h
      have hzero : i = 0 := by
        rcases window.front with hzero | ⟨item, hitem, hnot⟩
        · exact hzero
        · rw [hget] at hitem
          cases hitem
          exact absurd hprobe hnot
      refine ⟨Nat.le_of_lt hbase, fun j item hj => by omega, fun j item hj hitem => ?_⟩
      rcases Nat.lt_or_eq_of_le hj with hlt | rfl
      · exact window.behind j item hlt hitem
      · rw [hget] at hitem
        cases hitem
        exact hprobe

end TupleStore.Database
