import TupleStore.Proofs.Preorder

/-!
# The order of values without floating point numbers

Integers compare exactly, but an integer and a floating point number compare as
double precision numbers, so that different integers can be equal to the same
number.  Away from floating point numbers the comparisons of values and of keys
are total preorders.
-/

namespace TupleStore

theorem Bytes.compare_eq (l r : Bytes) : Bytes.compare l r = Ord.compare l r := by
  induction l generalizing r with
  | nil => cases r <;> rfl
  | cons b ls ih =>
      cases r with
      | nil => rfl
      | cons c rs => rw [Bytes.compare, ih, List.compare_cons_cons]

theorem Bytes.compare_swap (l r : Bytes) : Bytes.compare r l = (Bytes.compare l r).swap := by
  rw [Bytes.compare_eq, Bytes.compare_eq]
  exact Std.OrientedOrd.eq_swap

theorem Bytes.compare_chained (l m r : Bytes) :
    Chained (Bytes.compare l m) (Bytes.compare m r) (Bytes.compare l r) := by
  simp only [Bytes.compare_eq]
  exact .of_transOrd l m r

namespace Value

mutual

/--
No floating point number where the order looks.  Maps order by their size alone,
so their entries are not looked at.
-/
def floatFree : Value → Bool
  | .float32 _ | .float64 _ => false
  | .array items => floatFreeKey items
  | _ => true

def floatFreeKey : Key → Bool
  | [] => true
  | value :: key => value.floatFree && floatFreeKey key

end

/-- The comparison of two values of one class; values of different classes are alike. -/
def compareAlike : Value → Value → Ordering
  | .bool l, .bool r => Ord.compare l r
  | .int l, .int r => Ord.compare l r
  | .str l, .str r | .bin l, .bin r => Bytes.compare l r
  | .array l, .array r => compareKeys l r
  | .map l, .map r => Ord.compare l.length r.length
  | .ext lk l, .ext rk r => (Ord.compare lk rk).then (Bytes.compare l r)
  | _, _ => .eq

theorem compare_eq_then {l r : Value} (hl : l.floatFree) (hr : r.floatFree) :
    compare l r = (Ord.compare l.rank r.rank).then (compareAlike l r) := by
  cases l <;> cases r <;> first | rfl | (simp [floatFree] at hl hr)

theorem compare_ext_swap (lk rk : Int8) (l r : Bytes) :
    (Ord.compare rk lk).then (Bytes.compare r l) =
      ((Ord.compare lk rk).then (Bytes.compare l r)).swap := by
  rw [Ordering.swap_then, Bytes.compare_swap l r, ← Std.OrientedOrd.eq_swap]

mutual

theorem compare_swap (l r : Value) (hl : l.floatFree) (hr : r.floatFree) :
    compare r l = (compare l r).swap := by
  rw [compare_eq_then hl hr, compare_eq_then hr hl, Ordering.swap_then,
    ← Std.OrientedOrd.eq_swap (a := r.rank)]
  congr 1
  cases l <;> cases r <;> try rfl
  case bool.bool l r | int.int l r | map.map l r => exact Std.OrientedOrd.eq_swap
  case str.str l r | bin.bin l r => exact Bytes.compare_swap l r
  case array.array l r => exact compareKeys_swap l r hl hr
  case ext.ext lk l rk r => exact compare_ext_swap lk rk l r

theorem compareKeys_swap (l r : Key) (hl : floatFreeKey l) (hr : floatFreeKey r) :
    compareKeys r l = (compareKeys l r).swap := by
  match l, r with
  | [], [] => rfl
  | [], _ :: _ => rfl
  | _ :: _, [] => rfl
  | l :: ls, r :: rs =>
      simp only [floatFreeKey, Bool.and_eq_true] at hl hr
      rw [compareKeys, compareKeys, Ordering.swap_then, compare_swap l r hl.1 hr.1,
        compareKeys_swap ls rs hl.2 hr.2]

end

theorem rank_eq {l m : Value} (h : Ord.compare l.rank m.rank = .eq) :
    l.rank = m.rank := Std.LawfulEqOrd.eq_of_compare h

mutual

theorem compare_chained (l m r : Value) (hl : l.floatFree) (hm : m.floatFree)
    (hr : r.floatFree) : Chained (compare l m) (compare m r) (compare l r) := by
  rw [compare_eq_then hl hm, compare_eq_then hm hr, compare_eq_then hl hr]
  refine (Chained.of_transOrd l.rank m.rank r.rank).then fun hlm hmr => ?_
  replace hlm := rank_eq hlm
  replace hmr := rank_eq hmr
  cases l <;> cases m <;> simp [rank] at hlm <;> cases r <;> simp [rank] at hmr
  -- one of a group of numbers is a floating point number
  all_goals try first
    | exact absurd hl Bool.false_ne_true
    | exact absurd hm Bool.false_ne_true
    | exact absurd hr Bool.false_ne_true
  case nil => intro _ _; rfl
  case bool l m r | int l m r => exact .of_transOrd l m r
  case map l m r => exact .of_transOrd l.length m.length r.length
  case str l m r | bin l m r => exact Bytes.compare_chained l m r
  case array l m r => exact compareKeys_chained l m r hl hm hr
  case ext lk l mk m rk r =>
    exact (Chained.of_transOrd lk mk rk).then fun _ _ => Bytes.compare_chained l m r

theorem compareKeys_chained (l m r : Key) (hl : floatFreeKey l) (hm : floatFreeKey m)
    (hr : floatFreeKey r) :
    Chained (compareKeys l m) (compareKeys m r) (compareKeys l r) := by
  match l, m, r with
  | [], [], _ => intro _ _; rfl
  | [], _ :: _, [] => intro _ h; exact absurd rfl h
  | [], _ :: _, _ :: _ => intro _ _; rfl
  | _ :: _, [], _ => intro h; exact absurd rfl h
  | _ :: _, _ :: _, [] => intro _ h; exact absurd rfl h
  | l :: ls, m :: ms, r :: rs =>
      simp only [floatFreeKey, Bool.and_eq_true] at hl hm hr
      simp only [compareKeys]
      exact (compare_chained l m r hl.1 hm.1 hr.1).then fun _ _ =>
        compareKeys_chained ls ms rs hl.2 hm.2 hr.2

end

theorem compareKeys_ordersOn : OrdersOn compareKeys (fun key => floatFreeKey key) where
  swap hl hr := compareKeys_swap _ _ hl hr
  chained hl hm hr := compareKeys_chained _ _ _ hl hm hr

end Value

end TupleStore
