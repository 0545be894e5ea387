import TupleStore.Proofs.FloatingOrder
import TupleStore.Proofs.ValueOrder

/-!
# The order of values with floating point numbers

An integer compares with a floating point number as the double nearest to it.  So two
large integers can be equal to the same floating point number, and then the order is
not transitive.  It is, and numbers compare as what they are, where the integers and
the floating point numbers which are equal to each other are the same numbers.
-/

namespace TupleStore

/-! ## Comparisons along three values -/

structure Reversible {κ : Type} (compare : κ → κ → Ordering) (P : κ → Prop) : Prop where
  swap : ∀ {l r}, P l → P r → compare r l = (compare l r).swap
  refl : ∀ {l}, P l → compare l l = .eq

def Transitive {κ : Type} (compare : κ → κ → Ordering) (P : κ → Prop) : Prop :=
  ∀ {l m r}, P l → P m → P r → compare l m ≠ .gt → compare m r ≠ .gt → compare l r ≠ .gt

theorem Chained.of_int {a b c d e f : Int} (strict : a ≤ b → c ≤ d → a < b ∨ c < d → e < f)
    (equal : a = b → c = d → e = f) :
    Chained (compare a b) (compare c d) (compare e f) := by
  intro hab hcd
  have hab := Int.not_lt.mp (mt compare_gt_iff_gt.mpr hab)
  have hcd := Int.not_lt.mp (mt compare_gt_iff_gt.mpr hcd)
  rcases Int.lt_or_eq_of_le hab with hlt | heq
  · rw [compare_lt_iff_lt.mpr hlt, compare_lt_iff_lt.mpr (strict hab hcd (.inl hlt))]
    rfl
  · rw [compare_eq_iff_eq.mpr heq]
    rcases Int.lt_or_eq_of_le hcd with hlt | heq'
    · rw [compare_lt_iff_lt.mpr hlt, compare_lt_iff_lt.mpr (strict hab hcd (.inr hlt))]
      rfl
    · rw [compare_eq_iff_eq.mpr heq', compare_eq_iff_eq.mpr (equal heq heq')]
      rfl

namespace Value

open Floating

/-! ## Numbers -/

def isFloat : Value → Bool
  | .float32 _ | .float64 _ => true
  | _ => false

mutual

/--
All numbers where the order looks are numbers with the property `P`, and none is the
floating point datum which is not a number.  Maps order by their size alone, so their
entries are not looked at.
-/
def Over (P : Value → Prop) : Value → Prop
  | .int number => P (.int number)
  | .float32 bits => (datum (.float32 bits)).IsNumber ∧ P (.float32 bits)
  | .float64 bits => (datum (.float64 bits)).IsNumber ∧ P (.float64 bits)
  | .array items => OverKey P items
  | _ => True

def OverKey (P : Value → Prop) : Key → Prop
  | [] => True
  | value :: key => Over P value ∧ OverKey P key

end

/-- The number which a value is; an integer need not be the double it compares as. -/
def exact : Value → Datum
  | .int number => .finite (number < 0) number.natAbs 0
  | value => value.datum

/-- No two integers of `P` are equal to the same floating point number of `P`. -/
def Separated (P : Value → Prop) : Prop :=
  ∀ f, P f → f.isFloat → f.datum.IsNumber → ∀ l r : Int, P (.int l) → P (.int r) →
    compare (.int l) f = .eq → compare (.int r) f = .eq → l = r

/-- An integer of `P` is equal to the same number only among the floating point ones. -/
def Faithful (P : Value → Prop) : Prop :=
  ∀ f, P f → f.isFloat → f.datum.IsNumber → ∀ number : Int, P (.int number) →
    compare (.int number) f = .eq → (exact (.int number)).compare? f.exact = some .eq

variable {P : Value → Prop} {l m r f : Value}

theorem isDouble_datum {value : Value} (h : value.datum.IsNumber) : value.datum.IsDouble := by
  cases value with
  | int number => exact isDouble_ofInteger number
  | float32 bits => exact isDouble_decode (.inl rfl) h
  | float64 bits => exact isDouble_decode (.inr rfl) h
  | _ => exact h.elim

theorem compareNumbers_eq (hl : l.datum.IsNumber) (hr : r.datum.IsNumber) :
    compareNumbers l r = Ord.compare l.datum.units r.datum.units := by
  rw [compareNumbers, Datum.compare?_units (isDouble_datum hl) (isDouble_datum hr),
    Option.getD_some]

theorem compare_of_isFloat (hl : l.datum.IsNumber) (hr : r.datum.IsNumber)
    (h : l.isFloat ∨ r.isFloat) : compare l r = Ord.compare l.datum.units r.datum.units := by
  rw [← compareNumbers_eq hl hr]
  cases l <;> first | exact hl.elim | skip
  all_goals
    cases r <;> first | exact hr.elim | skip
  all_goals
    first
      | rfl
      | simp [isFloat] at h

theorem compare_int (l r : Int) : compare (.int l) (.int r) = Ord.compare l r := rfl

theorem isFloat_or_int {value : Value} (h : value.datum.IsNumber) :
    value.isFloat ∨ ∃ number, value = .int number := by
  cases value with
  | int number => exact .inr ⟨number, rfl⟩
  | float32 | float64 => exact .inl rfl
  | _ => exact h.elim

theorem isNumber_int (number : Int) : (datum (.int number)).IsNumber := by
  have h := isDouble_ofInteger number
  change (ofInteger number).IsNumber
  cases hdatum : ofInteger number <;> rw [hdatum] at h <;> first | exact h.elim | trivial

theorem units_int_mono {l r : Int} (h : l ≤ r) :
    (datum (.int l)).units ≤ (datum (.int r)).units := units_ofInteger_mono h

/-! ### Numbers which are told apart -/

theorem numbers_swap (hl : l.datum.IsNumber) (hr : r.datum.IsNumber) :
    compare r l = (compare l r).swap := by
  have floats (h : l.isFloat ∨ r.isFloat) : compare r l = (compare l r).swap := by
    rw [compare_of_isFloat hl hr h, compare_of_isFloat hr hl h.symm]
    exact Std.OrientedOrd.eq_swap
  rcases isFloat_or_int hl with hfloat | ⟨ln, rfl⟩
  · exact floats (.inl hfloat)
  rcases isFloat_or_int hr with hfloat | ⟨rn, rfl⟩
  · exact floats (.inr hfloat)
  · exact Std.OrientedOrd.eq_swap

theorem eq_of_units (separated : Separated P) (hf : f.datum.IsNumber) (hP : P f)
    (hfloat : f.isFloat) {l r : Int} (hl : P (.int l)) (hr : P (.int r))
    (hleft : (datum (.int l)).units = f.datum.units)
    (hright : (datum (.int r)).units = f.datum.units) : l = r := by
  refine separated f hP hfloat hf l r hl hr ?_ ?_
  · rw [compare_of_isFloat (isNumber_int l) hf (.inr hfloat), hleft]
    exact compare_eq_iff_eq.mpr rfl
  · rw [compare_of_isFloat (isNumber_int r) hf (.inr hfloat), hright]
    exact compare_eq_iff_eq.mpr rfl

theorem numbers_chained (separated : Separated P) (hl : l.datum.IsNumber) (hm : m.datum.IsNumber)
    (hr : r.datum.IsNumber) (hlP : P l) (hmP : P m) (hrP : P r) :
    Chained (compare l m) (compare m r) (compare l r) := by
  -- where no two integers are compared, all three are compared as doubles
  have doubles (hlm : l.isFloat ∨ m.isFloat) (hmr : m.isFloat ∨ r.isFloat)
      (hlr : l.isFloat ∨ r.isFloat) : Chained (compare l m) (compare m r) (compare l r) := by
    rw [compare_of_isFloat hl hm hlm, compare_of_isFloat hm hr hmr, compare_of_isFloat hl hr hlr]
    exact .of_transOrd l.datum.units m.datum.units r.datum.units
  rcases isFloat_or_int hl with hlf | ⟨ln, rfl⟩ <;> rcases isFloat_or_int hm with hmf | ⟨mn, rfl⟩ <;>
    rcases isFloat_or_int hr with hrf | ⟨rn, rfl⟩
  case inl.inl.inl | inl.inl.inr => exact doubles (.inl hlf) (.inl hmf) (.inl hlf)
  case inl.inr.inl => exact doubles (.inl hlf) (.inr hrf) (.inl hlf)
  case inr.inl.inl => exact doubles (.inr hmf) (.inl hmf) (.inr hrf)
  case inl.inr.inr =>
    rw [compare_of_isFloat hl hm (.inl hlf), compare_of_isFloat hl hr (.inl hlf), compare_int]
    have hequal := eq_of_units separated hl hlP hlf hmP hrP
    have hmono := @units_int_mono mn rn
    exact .of_int (by omega) (by rintro h rfl; exact h)
  case inr.inl.inr =>
    rw [compare_of_isFloat hl hm (.inr hmf), compare_of_isFloat hm hr (.inl hmf), compare_int]
    have hequal := eq_of_units separated hm hmP hmf hlP hrP
    have hmono := @units_int_mono rn ln
    exact .of_int (by omega) (by omega)
  case inr.inr.inl =>
    rw [compare_of_isFloat hm hr (.inr hrf), compare_of_isFloat hl hr (.inr hrf), compare_int]
    have hequal := eq_of_units separated hr hrP hrf hlP hmP
    have hmono := @units_int_mono ln mn
    exact .of_int (by omega) (by rintro rfl h; exact h)
  case inr.inr.inr => exact .of_transOrd ln mn rn

/-! ## Values -/

theorem over_number {value : Value} (h : value.rank = 2) :
    Over P value ↔ value.datum.IsNumber ∧ P value := by
  cases value with
  | int number =>
      rw [Over]
      exact (and_iff_right (isNumber_int number)).symm
  | float32 | float64 => rw [Over]
  | _ => simp [rank] at h

theorem compare_of_rank_ne (h : l.rank ≠ r.rank) : compare l r = Ord.compare l.rank r.rank := by
  cases l <;> cases r <;> first | rfl | exact absurd rfl h

theorem compare_rank_then (l r : Value) :
    compare l r = (Ord.compare l.rank r.rank).then (compare l r) := by
  by_cases h : l.rank = r.rank
  · rw [compare_eq_iff_eq.mpr h]
    rfl
  · rw [compare_of_rank_ne h]
    cases Ord.compare l.rank r.rank <;> rfl

mutual

theorem over_swap (l r : Value) (hl : Over P l) (hr : Over P r) :
    compare r l = (compare l r).swap := by
  by_cases hrank : l.rank = r.rank
  · by_cases hnumber : l.rank = 2
    · exact numbers_swap ((over_number hnumber).mp hl).1
        ((over_number (hrank ▸ hnumber)).mp hr).1
    · cases l <;> cases r <;> simp [rank] at hrank hnumber
      case nil => rfl
      case bool.bool l r | map.map l r => exact Std.OrientedOrd.eq_swap
      case str.str l r | bin.bin l r => exact Bytes.compare_swap l r
      case array.array l r => exact overKey_swap l r hl hr
      case ext.ext lk l rk r => exact compare_ext_swap lk rk l r
  · rw [compare_of_rank_ne hrank, compare_of_rank_ne (Ne.symm hrank)]
    exact Std.OrientedOrd.eq_swap

theorem overKey_swap (l r : Key) (hl : OverKey P l) (hr : OverKey P r) :
    compareKeys r l = (compareKeys l r).swap := by
  match l, r with
  | [], [] => rfl
  | [], _ :: _ => rfl
  | _ :: _, [] => rfl
  | l :: ls, r :: rs =>
      rw [OverKey] at hl hr
      rw [compareKeys, compareKeys, Ordering.swap_then, over_swap l r hl.1 hr.1,
        overKey_swap ls rs hl.2 hr.2]

end

mutual

theorem over_chained (separated : Separated P) (l m r : Value) (hl : Over P l) (hm : Over P m)
    (hr : Over P r) : Chained (compare l m) (compare m r) (compare l r) := by
  rw [compare_rank_then l m, compare_rank_then m r, compare_rank_then l r]
  refine (Chained.of_transOrd l.rank m.rank r.rank).then fun hlm hmr => ?_
  replace hlm := rank_eq hlm
  replace hmr := rank_eq hmr
  by_cases hnumber : l.rank = 2
  · obtain ⟨hl, hlP⟩ := (over_number hnumber).mp hl
    obtain ⟨hm, hmP⟩ := (over_number (hlm ▸ hnumber)).mp hm
    obtain ⟨hr, hrP⟩ := (over_number (hmr ▸ hlm ▸ hnumber)).mp hr
    exact numbers_chained separated hl hm hr hlP hmP hrP
  · cases l <;> cases m <;> simp [rank] at hlm hnumber <;> cases r <;> simp [rank] at hmr
    case nil => intro _ _; rfl
    case bool l m r => exact .of_transOrd l m r
    case map l m r => exact .of_transOrd l.length m.length r.length
    case str l m r | bin l m r => exact Bytes.compare_chained l m r
    case array l m r => exact overKey_chained separated l m r hl hm hr
    case ext lk l mk m rk r =>
      exact (Chained.of_transOrd lk mk rk).then fun _ _ => Bytes.compare_chained l m r

theorem overKey_chained (separated : Separated P) (l m r : Key) (hl : OverKey P l)
    (hm : OverKey P m) (hr : OverKey P r) :
    Chained (compareKeys l m) (compareKeys m r) (compareKeys l r) := by
  match l, m, r with
  | [], [], _ => intro _ _; rfl
  | [], _ :: _, [] => intro _ h; exact absurd rfl h
  | [], _ :: _, _ :: _ => intro _ _; rfl
  | _ :: _, [], _ => intro h; exact absurd rfl h
  | _ :: _, _ :: _, [] => intro _ h; exact absurd rfl h
  | l :: ls, m :: ms, r :: rs =>
      rw [OverKey] at hl hm hr
      simp only [compareKeys]
      exact (over_chained separated l m r hl.1 hm.1 hr.1).then fun _ _ =>
        overKey_chained separated ls ms rs hl.2 hm.2 hr.2

end

/-! ## Laws -/

theorem over_ordersOn (separated : Separated P) : OrdersOn compare (Over P) where
  swap hl hr := over_swap _ _ hl hr
  chained hl hm hr := over_chained separated _ _ _ hl hm hr

theorem overKey_ordersOn (separated : Separated P) : OrdersOn compareKeys (OverKey P) where
  swap hl hr := overKey_swap _ _ hl hr
  chained hl hm hr := overKey_chained separated _ _ _ hl hm hr

theorem separated_of_transitive (transitive : Transitive compare (Over P)) : Separated P := by
  intro f hP hfloat hf
  have hover : Over P f := by
    cases f <;> first | exact ⟨hf, hP⟩ | simp [isFloat] at hfloat
  have hnotLess : ∀ {l r : Int}, P (.int l) → P (.int r) → compare (.int l) f = .eq →
      compare (.int r) f = .eq → r ≤ l := by
    intro l r hl hr hlf hrf
    have hfr : compare f (.int r) = .eq := by
      rw [over_swap (.int r) f hr hover, hrf]
      rfl
    have hle := transitive (l := .int r) (m := f) (r := .int l) hr hover hl (by simp [hrf])
      (by rw [over_swap (.int l) f hl hover, hlf]; simp)
    exact Int.not_lt.mp (mt compare_gt_iff_gt.mpr hle)
  intro l r hl hr hlf hrf
  exact Int.le_antisymm (hnotLess hr hl hrf hlf) (hnotLess hl hr hlf hrf)

theorem transitive_iff : Transitive compare (Over P) ↔ Separated P :=
  ⟨separated_of_transitive, fun separated _ _ _ => (over_ordersOn separated).le_trans⟩

theorem compareKeys_singleton (l r : Value) : compareKeys [l] [r] = compare l r := by
  rw [compareKeys, compareKeys]
  cases compare l r <;> rfl

theorem transitive_keys_iff : Transitive compareKeys (OverKey P) ↔ Separated P := by
  constructor
  · intro transitive
    refine separated_of_transitive fun {l m r} hl hm hr hlm hmr => ?_
    have single {value : Value} (h : Over P value) : OverKey P [value] := by
      rw [OverKey]
      exact ⟨h, trivial⟩
    rw [← compareKeys_singleton] at hlm hmr ⊢
    exact transitive (single hl) (single hm) (single hr) hlm hmr
  · intro separated l m r
    exact (overKey_ordersOn separated).le_trans

/-! ## What numbers are -/

/-- The numbers of `P` compare as the numbers they are. -/
def Numeric (P : Value → Prop) : Prop :=
  ∀ l r, l.datum.IsNumber → r.datum.IsNumber → P l → P r →
    l.exact.compare? r.exact = some (compare l r)

theorem exact_of_isFloat (h : f.isFloat) : f.exact = f.datum := by
  cases f <;> first | rfl | simp [isFloat] at h

theorem exact_int_int (l r : Int) :
    (exact (.int l)).compare? (exact (.int r)) = some (compare (.int l) (.int r)) := by
  rw [exact, exact, Datum.compare?_finite (by decide) (by decide), units_whole, units_whole,
    Datum.compare_mul_pos (by exact_mod_cast perOne_pos), compare_int]

theorem exact_int_float (hf : f.datum.IsNumber) (hfloat : f.isFloat) {number : Int}
    (faithful : compare (.int number) f = .eq →
      (exact (.int number)).compare? f.exact = some .eq) :
    (exact (.int number)).compare? f.exact = some (compare (.int number) f) := by
  rw [compare_of_isFloat (isNumber_int number) hf (.inr hfloat)] at faithful ⊢
  rw [exact_of_isFloat hfloat, exact] at faithful ⊢
  change Ord.compare (ofInteger number).units _ = _ → _ at faithful
  change _ = some (Ord.compare (ofInteger number).units _)
  have hdouble := isDouble_datum hf
  have hbounds := Datum.units_bounds (isDouble_ofInteger number)
  generalize f.datum = double at *
  cases hcompare : Ord.compare (ofInteger number).units double.units with
  | eq => exact faithful hcompare
  | lt =>
      have hlt := compare_lt_iff_lt.mp hcompare
      cases double with
      | nan => exact hdouble.elim
      | infinite negative =>
          cases negative with
          | false => rfl
          | true => exact absurd hlt (Int.not_lt.mpr hbounds.1)
      | finite negative significand exponent =>
          have hside := mt (units_ofInteger_side hdouble number).1 (Int.not_le.mpr hlt)
          rw [Datum.compare?_finite (by decide) hdouble.2.1, units_whole]
          exact congrArg some (compare_lt_iff_lt.mpr (Int.not_le.mp hside))
  | gt =>
      have hgt := compare_gt_iff_gt.mp hcompare
      cases double with
      | nan => exact hdouble.elim
      | infinite negative =>
          cases negative with
          | false => exact absurd hgt (Int.not_lt.mpr hbounds.2)
          | true => rfl
      | finite negative significand exponent =>
          have hside := mt (units_ofInteger_side hdouble number).2 (Int.not_le.mpr hgt)
          rw [Datum.compare?_finite (by decide) hdouble.2.1, units_whole]
          exact congrArg some (compare_gt_iff_gt.mpr (Int.not_le.mp hside))

theorem numeric_iff : Numeric P ↔ Faithful P := by
  constructor
  · intro numeric f hP hfloat hf number hnumber heq
    rw [numeric _ _ (isNumber_int number) hf hnumber hP, heq]
  · intro faithful l r hl hr hlP hrP
    have reversed : ∀ {f : Value} {number : Int}, f.datum.IsNumber → f.isFloat → P f →
        P (.int number) → f.exact.compare? (exact (.int number)) = some (compare f (.int number)) := by
      intro f number hf hfloat hP hnumber
      rw [Datum.compare?_swap, exact_int_float hf hfloat (faithful f hP hfloat hf number hnumber),
        numbers_swap (isNumber_int number) hf]
      rfl
    rcases isFloat_or_int hl with hlf | ⟨ln, rfl⟩ <;>
      rcases isFloat_or_int hr with hrf | ⟨rn, rfl⟩
    · rw [exact_of_isFloat hlf, exact_of_isFloat hrf, compare_of_isFloat hl hr (.inl hlf),
        Datum.compare?_units (isDouble_datum hl) (isDouble_datum hr)]
    · exact reversed hl hlf hlP hrP
    · exact exact_int_float hr hrf (faithful r hrP hrf hr ln hlP)
    · exact exact_int_int ln rn

theorem separated_of_faithful (faithful : Faithful P) : Separated P := by
  intro f hP hfloat hf l r hl hr hlf hrf
  have hfl := faithful f hP hfloat hf l hl hlf
  have hfr := faithful f hP hfloat hf r hr hrf
  rw [exact_of_isFloat hfloat, exact] at hfl hfr
  have hdouble := isDouble_datum hf
  generalize f.datum = double at *
  cases double with
  | nan => exact hdouble.elim
  | infinite negative => cases negative <;> cases hfl
  | finite negative significand exponent =>
      rw [Datum.compare?_finite (by decide) hdouble.2.1, units_whole, Option.some_inj,
        compare_eq_iff_eq] at hfl hfr
      exact Int.eq_of_mul_eq_mul_right (by exact_mod_cast perOne_pos.ne') (hfl.trans hfr.symm)

theorem faithful_of_small (small : ∀ number, P (.int number) → number.natAbs ≤ 2 ^ 53) :
    Faithful P := by
  intro f hP hfloat hf number hnumber heq
  have hsmall := small number hnumber
  rw [compare_of_isFloat (isNumber_int number) hf (.inr hfloat), compare_eq_iff_eq] at heq
  change (ofInteger number).units = _ at heq
  rw [units_ofInteger_exact hsmall] at heq
  rw [exact_of_isFloat hfloat, exact]
  have hdouble := isDouble_datum hf
  have hbounds := mul_perOne_lt hsmall
  generalize f.datum = double at *
  cases double with
  | nan => exact hdouble.elim
  | infinite negative =>
      rw [heq] at hbounds
      cases negative with
      | false => exact absurd hbounds.2 (Int.lt_irrefl _)
      | true => exact absurd hbounds.1 (Int.lt_irrefl _)
  | finite negative significand exponent =>
      rw [Datum.compare?_finite (by decide) hdouble.2.1, units_whole, heq]
      exact congrArg some (compare_eq_iff_eq.mpr rfl)

theorem laws_of_small (small : ∀ number, P (.int number) → number.natAbs ≤ 2 ^ 53) :
    OrdersOn compare (Over P) ∧ OrdersOn compareKeys (OverKey P) ∧ Numeric P :=
  have faithful := faithful_of_small small
  have separated := separated_of_faithful faithful
  ⟨over_ordersOn separated, overKey_ordersOn separated, numeric_iff.mpr faithful⟩

/--
Comparisons of values and of keys turn round with their arguments.  They are transitive
over the numbers of `P` just when no two integers of `P` are equal to one floating point
number of `P`, and numbers compare as what they are just when an integer of `P` is equal
to no other floating point number of `P`.
-/
theorem compare_laws_iff (P : Value → Prop) :
    Reversible compare (Over P) ∧ Reversible compareKeys (OverKey P) ∧
      (Transitive compare (Over P) ↔ Separated P) ∧
      (Transitive compareKeys (OverKey P) ↔ Separated P) ∧
      (Numeric P ↔ Faithful P) := by
  have refl_of_swap {order : Ordering} (h : order = order.swap) : order = .eq := by
    cases order <;> first | rfl | cases h
  refine ⟨⟨over_swap _ _, fun hl => refl_of_swap (over_swap _ _ hl hl)⟩,
    ⟨overKey_swap _ _, fun hl => refl_of_swap (overKey_swap _ _ hl hl)⟩,
    transitive_iff, transitive_keys_iff, numeric_iff⟩

/-- Two integers, one of them beyond 53 bits, are equal to the same double. -/
theorem compare_large_integers :
    compare (.int 9007199254740993) (.float64 0x4340000000000000) = .eq ∧
      compare (.float64 0x4340000000000000) (.int 9007199254740992) = .eq ∧
      compare (.int 9007199254740993) (.int 9007199254740992) = .gt ∧
      (exact (.int 9007199254740993)).compare? (exact (.float64 0x4340000000000000)) =
        some .gt := by
  decide +kernel

end Value

end TupleStore
