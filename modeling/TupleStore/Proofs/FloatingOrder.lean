import TupleStore.Proofs.Preorder
import TupleStore.Proofs.Rounding

/-!
# The order of doubles

Every number which double precision has is a multiple of its least positive number,
and numbers compare as these multiples do.  An integer is rounded to a double; the
rounding keeps the order, and it does not pass a double on its way.
-/

namespace TupleStore.Floating

/-! ## Halves -/

theorem roundHalfEven_mono {l r : Nat} (den : Nat) (h : l ≤ r) :
    roundHalfEven l den ≤ roundHalfEven r den := by
  have hquotients := Nat.div_le_div_right (c := den) h
  have hl := Nat.div_add_mod l den
  have hr := Nat.div_add_mod r den
  rcases Nat.lt_or_eq_of_le hquotients with hlt | heq
  · have hupper : roundHalfEven l den ≤ l / den + 1 := by
      rw [roundHalfEven]
      repeat' split
      all_goals omega
    have hlower : r / den ≤ roundHalfEven r den := by
      rw [roundHalfEven]
      repeat' split
      all_goals omega
    omega
  · rw [heq] at hl
    have hrest : l % den ≤ r % den := by omega
    rw [roundHalfEven, roundHalfEven, heq]
    repeat' split
    all_goals omega

theorem roundHalfEven_mul (number : Nat) {den : Nat} (h : 0 < den) :
    roundHalfEven (number * den) den = number :=
  roundHalfEven_eq (by rw [Nat.mul_assoc]; omega) (by rw [Nat.mul_assoc]; omega)

/-! ## Multiples of the least positive double -/

namespace Datum

def IsNumber : Datum → Prop
  | .nan .. => False
  | _ => True

def IsDouble : Datum → Prop
  | .nan .. => False
  | .infinite _ => True
  | .finite _ significand exponent =>
      significand < 2 ^ 53 ∧ -1074 ≤ exponent ∧ exponent ≤ 971

/-- Infinity takes the place of the first power of two which is too large. -/
def tooLarge : Nat := 2 ^ 52 * 2 ^ (2047 - 1)

theorem tooLarge_pos : 0 < tooLarge := by
  rw [tooLarge]
  positivity

/-- How many times the least positive double the number is. -/
def units : Datum → Int
  | .nan .. => 0
  | .infinite negative => if negative then -tooLarge else tooLarge
  | .finite negative significand exponent => inUnits negative significand exponent (-1074)

theorem inUnits_scale {negative : Bool} {significand places : Nat} {exponent unit : Int}
    (h : unit ≤ exponent) :
    inUnits negative significand exponent (unit - places) =
      inUnits negative significand exponent unit * 2 ^ places := by
  have hplaces : (exponent - (unit - places)).toNat = (exponent - unit).toNat + places := by omega
  simp only [inUnits, hplaces, Nat.pow_eq, Nat.pow_add]
  split <;> push_cast <;> ring

theorem compare_mul_pos {l r factor : Int} (h : 0 < factor) :
    Ord.compare (l * factor) (r * factor) = Ord.compare l r := by
  rcases Int.lt_trichotomy l r with hlr | rfl | hlr
  · rw [compare_lt_iff_lt.mpr hlr, compare_lt_iff_lt.mpr (Int.mul_lt_mul_of_pos_right hlr h)]
  · rw [compare_eq_iff_eq.mpr rfl, compare_eq_iff_eq.mpr rfl]
  · rw [compare_gt_iff_gt.mpr hlr, compare_gt_iff_gt.mpr (Int.mul_lt_mul_of_pos_right hlr h)]

theorem compare?_finite {ln rn : Bool} {lm rm : Nat} {le re : Int} (hl : -1074 ≤ le)
    (hr : -1074 ≤ re) :
    compare? (.finite ln lm le) (.finite rn rm re) =
      some (Ord.compare (units (.finite ln lm le)) (units (.finite rn rm re))) := by
  obtain ⟨places, hplaces⟩ : ∃ places : Nat, (-1074 : Int) = min le re - places :=
    ⟨(min le re + 1074).toNat, by omega⟩
  simp only [compare?, units, hplaces, inUnits_scale (Int.min_le_left le re),
    inUnits_scale (Int.min_le_right le re)]
  rw [compare_mul_pos (Int.pow_pos (by decide))]

theorem units_finite {negative : Bool} {significand : Nat} {exponent : Int}
    (h : IsDouble (.finite negative significand exponent)) :
    -(tooLarge : Int) < units (.finite negative significand exponent) ∧
      units (.finite negative significand exponent) < tooLarge := by
  obtain ⟨hsignificand, hlow, hhigh⟩ := h
  have hmagnitude : significand * 2 ^ (exponent - -1074).toNat < tooLarge := by
    calc significand * 2 ^ (exponent - -1074).toNat
        < 2 ^ 53 * 2 ^ (exponent - -1074).toNat :=
          Nat.mul_lt_mul_of_pos_right hsignificand (Nat.two_pow_pos _)
      _ = 2 ^ 52 * 2 ^ ((exponent - -1074).toNat + 1) := by ring
      _ ≤ tooLarge := by
          rw [tooLarge]
          gcongr
          · decide
          · omega
  simp only [units, inUnits, Nat.pow_eq]
  generalize significand * 2 ^ (exponent - -1074).toNat = magnitude, tooLarge = bound at *
  split <;> omega

theorem units_bounds {datum : Datum} (h : datum.IsDouble) :
    -(tooLarge : Int) ≤ datum.units ∧ datum.units ≤ tooLarge := by
  have hpos := tooLarge_pos
  cases datum with
  | nan => exact h.elim
  | infinite negative =>
      rw [units]
      split <;> omega
  | finite negative significand exponent =>
      have := units_finite h
      omega

theorem compare?_swap (l r : Datum) : r.compare? l = (l.compare? r).map Ordering.swap := by
  cases l with
  | nan => cases r <;> rfl
  | infinite ln =>
      cases r with
      | nan => rfl
      | infinite rn => exact congrArg some Std.OrientedOrd.eq_swap
      | finite rn rm re => cases ln <;> rfl
  | finite ln lm le =>
      cases r with
      | nan => rfl
      | infinite rn => cases rn <;> rfl
      | finite rn rm re =>
          simp only [compare?, Int.min_comm re le]
          exact congrArg some Std.OrientedOrd.eq_swap

theorem compare?_units {l r : Datum} (hl : l.IsDouble) (hr : r.IsDouble) :
    l.compare? r = some (Ord.compare l.units r.units) := by
  have hpos := tooLarge_pos
  cases l with
  | nan => exact hl.elim
  | infinite ln =>
      cases r with
      | nan => exact hr.elim
      | infinite rn =>
          have hlt : units (.infinite true) < units (.infinite false) := by
            change -(tooLarge : Int) < tooLarge
            omega
          cases ln <;> cases rn
          · exact congrArg some (compare_eq_iff_eq.mpr rfl).symm
          · exact congrArg some (compare_gt_iff_gt.mpr hlt).symm
          · exact congrArg some (compare_lt_iff_lt.mpr hlt).symm
          · exact congrArg some (compare_eq_iff_eq.mpr rfl).symm
      | finite rn rm re =>
          obtain ⟨hlow, hhigh⟩ := units_finite hr
          cases ln
          · exact congrArg some (compare_gt_iff_gt.mpr hhigh).symm
          · exact congrArg some (compare_lt_iff_lt.mpr hlow).symm
  | finite ln lm le =>
      cases r with
      | nan => exact hr.elim
      | infinite rn =>
          obtain ⟨hlow, hhigh⟩ := units_finite hl
          cases rn
          · exact congrArg some (compare_lt_iff_lt.mpr hhigh).symm
          · exact congrArg some (compare_gt_iff_gt.mpr hlow).symm
      | finite rn rm re => exact compare?_finite hl.2.1 hr.2.1

end Datum

/-! ## Bits -/

theorem isDouble_decode {format : Format} (h : format = single ∨ format = double) {bits : Nat}
    (number : (format.decode bits).IsNumber) : (format.decode bits).IsDouble := by
  have hexponent := Nat.mod_lt (bits / Nat.pow 2 format.fractionBits)
    (Nat.two_pow_pos format.exponentBits)
  have hfraction := Nat.mod_lt bits (Nat.two_pow_pos format.fractionBits)
  rw [Format.decode] at number ⊢
  simp only [Nat.pow_eq] at *
  generalize bits / 2 ^ format.fractionBits % 2 ^ format.exponentBits = exponent,
    bits % 2 ^ format.fractionBits = fraction at *
  split at number
  next htop =>
    rw [if_pos htop]
    split at number
    next hzero =>
      rw [if_pos hzero]
      trivial
    next => exact number.elim
  next htop =>
    rw [if_neg htop]
    rcases h with rfl | rfl
    · have hleast : single.leastExponent = -149 := rfl
      rw [hleast]
      simp only [single] at *
      split
      · exact ⟨by omega, by omega, by omega⟩
      · exact ⟨by omega, by omega, by omega⟩
    · have hleast : double.leastExponent = -1074 := rfl
      rw [hleast]
      simp only [double] at *
      split
      · exact ⟨by omega, by omega, by omega⟩
      · exact ⟨by omega, by omega, by omega⟩

def magnitude (bits : Nat) : Nat :=
  if bits < 2 ^ 52 then bits else (2 ^ 52 + bits % 2 ^ 52) * 2 ^ (bits / 2 ^ 52 - 1)

theorem magnitude_mono : Monotone magnitude := by
  refine monotone_nat_of_le_succ fun bits => ?_
  rw [magnitude, magnitude]
  split
  next hsmall =>
    split
    · omega
    next hlarge =>
      obtain rfl : bits = 2 ^ 52 - 1 := by omega
      decide
  next hlarge =>
    rw [if_neg (by omega)]
    by_cases hcarry : bits % 2 ^ 52 = 2 ^ 52 - 1
    · have hquotient : (bits + 1) / 2 ^ 52 - 1 = bits / 2 ^ 52 - 1 + 1 := by omega
      rw [hquotient, show (bits + 1) % 2 ^ 52 = 0 by omega, hcarry,
        pow_succ 2 (bits / 2 ^ 52 - 1)]
      generalize 2 ^ (bits / 2 ^ 52 - 1) = unit
      omega
    · rw [show (bits + 1) % 2 ^ 52 = bits % 2 ^ 52 + 1 by omega,
        show (bits + 1) / 2 ^ 52 = bits / 2 ^ 52 by omega]
      exact Nat.mul_le_mul_right _ (by omega)

theorem magnitude_normal {exponent significand : Nat} (hlow : 2 ^ 52 ≤ significand)
    (hhigh : significand < 2 ^ 53) :
    magnitude (exponent * 2 ^ 52 + significand) = significand * 2 ^ exponent := by
  rw [magnitude, if_neg (by omega),
    show (exponent * 2 ^ 52 + significand) % 2 ^ 52 = significand - 2 ^ 52 by omega,
    show (exponent * 2 ^ 52 + significand) / 2 ^ 52 - 1 = exponent by omega,
    Nat.add_sub_cancel' hlow]

theorem decode_signed (negative : Bool) {bits : Nat} (h : bits ≤ double.infinity) :
    double.decode ((if negative then double.signBit else 0) + bits) =
      if bits / 2 ^ 52 = 2047 then .infinite negative
      else if bits / 2 ^ 52 = 0 then .finite negative (bits % 2 ^ 52) (-1074)
      else .finite negative (2 ^ 52 + bits % 2 ^ 52) (-1074 + (bits / 2 ^ 52 - 1 : Nat)) := by
  change bits ≤ 2047 * 2 ^ 52 at h
  have hsign : decide (((if negative then double.signBit else 0) + bits) / double.signBit % 2 = 1) =
      negative := by
    change decide (((if negative then 2 ^ 63 else 0) + bits) / 2 ^ 63 % 2 = 1) = negative
    cases negative <;> simp <;> omega
  have hexponent : ((if negative then double.signBit else 0) + bits) /
      Nat.pow 2 double.fractionBits % Nat.pow 2 double.exponentBits = bits / 2 ^ 52 := by
    change ((if negative then 2 ^ 63 else 0) + bits) / 2 ^ 52 % 2 ^ 11 = bits / 2 ^ 52
    split <;> omega
  have hfraction : ((if negative then double.signBit else 0) + bits) %
      Nat.pow 2 double.fractionBits = bits % 2 ^ 52 := by
    change ((if negative then 2 ^ 63 else 0) + bits) % 2 ^ 52 = bits % 2 ^ 52
    split <;> omega
  have htop : Nat.pow 2 double.exponentBits - 1 = 2047 := rfl
  have hunit : Nat.pow 2 double.fractionBits = 2 ^ 52 := rfl
  have hleast : double.leastExponent = -1074 := rfl
  rw [Format.decode]
  simp only [hsign, hexponent, hfraction]
  rw [htop, hunit, hleast]
  split
  next => exact if_pos (by omega)
  next => rfl

theorem decode_number (negative : Bool) {bits : Nat} (h : bits ≤ double.infinity) :
    (double.decode ((if negative then double.signBit else 0) + bits)).IsDouble ∧
      (double.decode ((if negative then double.signBit else 0) + bits)).units =
        if negative then -(magnitude bits : Int) else magnitude bits := by
  rw [decode_signed negative h]
  change bits ≤ 2047 * 2 ^ 52 at h
  have hfraction := Nat.mod_lt bits (show 0 < 2 ^ 52 by decide)
  split
  next htop =>
    obtain rfl : bits = 2047 * 2 ^ 52 := by omega
    have hmagnitude : magnitude (2047 * 2 ^ 52) = Datum.tooLarge := by
      rw [magnitude, if_neg (by decide), Nat.mul_mod_left, Nat.mul_div_cancel _ (by decide),
        Nat.add_zero, Datum.tooLarge]
    refine ⟨trivial, ?_⟩
    simp only [hmagnitude, Datum.units]
  next htop =>
    split
    next hzero =>
      have hmagnitude : magnitude bits = bits % 2 ^ 52 := by
        rw [magnitude, if_pos (by omega), Nat.mod_eq_of_lt (by omega)]
      refine ⟨⟨by omega, by decide, by decide⟩, ?_⟩
      rw [Datum.units, Datum.inUnits, hmagnitude]
      simp
    next hnormal =>
      have hmagnitude : magnitude bits =
          (2 ^ 52 + bits % 2 ^ 52) * 2 ^ (bits / 2 ^ 52 - 1) := by
        rw [magnitude, if_neg (by omega)]
      have hplaces : (-1074 + ((bits / 2 ^ 52 - 1 : Nat) : Int) - -1074).toNat =
          bits / 2 ^ 52 - 1 := by omega
      refine ⟨⟨by omega, by omega, by omega⟩, ?_⟩
      rw [Datum.units, Datum.inUnits, hmagnitude, hplaces]
      rfl

/-! ## Integers as doubles -/

/-- How many times the least positive double goes into one. -/
def perOne : Nat := 2 ^ 1074

theorem perOne_pos : 0 < perOne := by
  rw [perOne]
  positivity

theorem pow_add_perOne (places : Nat) : 2 ^ (places + 1074) = 2 ^ places * perOne := by
  rw [perOne, pow_add 2 places 1074]

theorem pow_le_perOne {places : Nat} (h : places ≤ 1074) : 2 ^ places ≤ perOne := by
  rw [perOne]
  gcongr
  decide

def nearest (number : Nat) : Nat :=
  roundHalfEven (number * 2 ^ (52 - number.log2)) (2 ^ (number.log2 - 52))

theorem floorLog2_one (number : Nat) (h : 0 < number): floorLog2 number 1 = number.log2 := by
  have hle := Nat.log2_self_le (Nat.ne_of_gt h)
  have hone : Nat.log2 1 = 0 := by decide
  rw [floorLog2, hone, if_pos]
  · omega
  · simpa using hle

theorem roundMagnitude_one {number : Nat} (h : 0 < number) :
    double.roundMagnitude number 1 =
      min ((number.log2 + 1022) * 2 ^ 52 + nearest number) double.infinity := by
  have hbits : double.fractionBits = 52 := rfl
  have hleast : double.leastExponent = -1074 := rfl
  rw [Format.roundMagnitude, if_neg (Nat.ne_of_gt h), floorLog2_one number h, hbits, hleast]
  have hunit : max ((number.log2 : Int) - (52 : Nat)) (-1074) = number.log2 - 52 := by omega
  rw [hunit, nearest]
  dsimp only
  rw [show (-((number.log2 : Int) - 52)).toNat = 52 - number.log2 by omega,
    show ((number.log2 : Int) - 52).toNat = number.log2 - 52 by omega,
    show ((number.log2 : Int) - 52 - -1074).toNat = number.log2 + 1022 by omega, Nat.one_mul]
  simp only [Nat.pow_eq]

theorem scaled_bounds {number : Nat} (h : 0 < number) :
    2 ^ 52 * 2 ^ (number.log2 - 52) ≤ number * 2 ^ (52 - number.log2) ∧
      number * 2 ^ (52 - number.log2) < 2 ^ 53 * 2 ^ (number.log2 - 52) := by
  have hlow := Nat.log2_self_le (Nat.ne_of_gt h)
  have hhigh := @Nat.lt_log2_self number
  have hpos := Nat.two_pow_pos (52 - number.log2)
  constructor
  · calc 2 ^ 52 * 2 ^ (number.log2 - 52) = 2 ^ number.log2 * 2 ^ (52 - number.log2) := by
          rw [← Nat.pow_add, ← Nat.pow_add]
          congr 1
          omega
      _ ≤ _ := Nat.mul_le_mul_right _ hlow
  · calc number * 2 ^ (52 - number.log2) < 2 ^ (number.log2 + 1) * 2 ^ (52 - number.log2) :=
          Nat.mul_lt_mul_of_pos_right hhigh hpos
      _ = _ := by
          rw [← Nat.pow_add, ← Nat.pow_add]
          congr 1
          omega

theorem nearest_bounds {number : Nat} (h : 0 < number) :
    2 ^ 52 ≤ nearest number ∧ nearest number ≤ 2 ^ 53 := by
  obtain ⟨hlow, hhigh⟩ := scaled_bounds h
  have hpos := Nat.two_pow_pos (number.log2 - 52)
  constructor
  · rw [← roundHalfEven_mul (2 ^ 52) hpos]
    exact roundHalfEven_mono _ hlow
  · rw [← roundHalfEven_mul (2 ^ 53) hpos]
    exact roundHalfEven_mono _ (Nat.le_of_lt hhigh)

theorem roundMagnitude_mono {l r : Nat} (h : l ≤ r) :
    double.roundMagnitude l 1 ≤ double.roundMagnitude r 1 := by
  rcases Nat.eq_zero_or_pos l with rfl | hl
  · exact Nat.zero_le _
  have hr := Nat.lt_of_lt_of_le hl h
  have hlog : l.log2 ≤ r.log2 := by
    rw [Nat.le_log2 (Nat.ne_of_gt hr)]
    exact (Nat.log2_self_le (Nat.ne_of_gt hl)).trans h
  have hbits : (l.log2 + 1022) * 2 ^ 52 + nearest l ≤ (r.log2 + 1022) * 2 ^ 52 + nearest r := by
    rcases Nat.lt_or_eq_of_le hlog with hlt | heq
    · have := (nearest_bounds hl).2
      have := (nearest_bounds hr).1
      omega
    · rw [nearest, nearest, heq]
      exact Nat.add_le_add_left (roundHalfEven_mono _ (Nat.mul_le_mul_right _ h)) _
  rw [roundMagnitude_one hl, roundMagnitude_one hr]
  omega

theorem magnitude_roundMagnitude {significand places : Nat} (hsignificand : significand < 2 ^ 53)
    (hplaces : places ≤ 971) :
    magnitude (double.roundMagnitude (significand * 2 ^ places) 1) =
      significand * 2 ^ places * perOne := by
  generalize hnumber : significand * 2 ^ places = number
  rcases Nat.eq_zero_or_pos number with rfl | hpos
  · rw [Nat.zero_mul]
    rfl
  have hlog : number.log2 ≤ 52 + places := by
    refine Nat.lt_succ_iff.mp ((Nat.log2_lt (Nat.ne_of_gt hpos)).mpr ?_)
    calc number = significand * 2 ^ places := hnumber.symm
      _ < 2 ^ 53 * 2 ^ places := Nat.mul_lt_mul_of_pos_right hsignificand (Nat.two_pow_pos _)
      _ = 2 ^ (52 + places).succ := by rw [← Nat.pow_add]; congr 1; omega
  have hexact : nearest number * 2 ^ (number.log2 - 52) = number * 2 ^ (52 - number.log2) := by
    rcases Nat.le_total number.log2 52 with hle | hle
    · rw [nearest, Nat.sub_eq_zero_of_le hle, Nat.pow_zero, Nat.mul_one]
      exact (congrArg (roundHalfEven · 1) (Nat.mul_one _).symm).trans
        (roundHalfEven_mul _ Nat.one_pos)
    · have hmultiple : number =
          significand * 2 ^ (places - (number.log2 - 52)) * 2 ^ (number.log2 - 52) := by
        rw [Nat.mul_assoc, ← Nat.pow_add, Nat.sub_add_cancel (by omega), hnumber]
      have hnearest : nearest number = significand * 2 ^ (places - (number.log2 - 52)) := by
        rw [nearest, Nat.sub_eq_zero_of_le hle, Nat.pow_zero, Nat.mul_one]
        conv => lhs; arg 1; rw [hmultiple]
        exact roundHalfEven_mul _ (Nat.two_pow_pos _)
      rw [hnearest, ← hmultiple, Nat.sub_eq_zero_of_le hle, Nat.pow_zero, Nat.mul_one]
  obtain ⟨hlow, hhigh⟩ := scaled_bounds hpos
  have hsmall : nearest number < 2 ^ 53 := by
    rw [← hexact] at hhigh
    exact Nat.lt_of_mul_lt_mul_right hhigh
  have hfinite : (number.log2 + 1022) * 2 ^ 52 + nearest number ≤ double.infinity := by
    change _ ≤ 2047 * 2 ^ 52
    omega
  rw [roundMagnitude_one hpos, Nat.min_eq_left hfinite,
    magnitude_normal (nearest_bounds hpos).1 hsmall]
  calc nearest number * 2 ^ (number.log2 + 1022)
      = nearest number * 2 ^ (number.log2 - 52) * 2 ^ (number.log2 + 1022 - (number.log2 - 52)) := by
        rw [Nat.mul_assoc, ← Nat.pow_add]
        congr 2
        omega
    _ = number * perOne := by
        rw [hexact, Nat.mul_assoc, ← Nat.pow_add, perOne]
        congr 2
        omega

/-- The double nearest to a whole number, counted in the least positive double. -/
def rounded (number : Nat) : Nat := magnitude (double.roundMagnitude number 1)

theorem rounded_mono : Monotone rounded := fun _ _ h => magnitude_mono (roundMagnitude_mono h)

theorem rounded_exact {number : Nat} (h : number ≤ 2 ^ 53) :
    rounded number = number * perOne := by
  rcases Nat.lt_or_eq_of_le h with hlt | rfl
  · have hrounded := magnitude_roundMagnitude hlt (Nat.zero_le 971)
    rwa [Nat.pow_zero, Nat.mul_one] at hrounded
  · have hrounded := magnitude_roundMagnitude (show 1 < 2 ^ 53 by decide) (show 53 ≤ 971 by decide)
    rwa [Nat.one_mul] at hrounded

theorem le_rounded {significand places number : Nat} (hsignificand : significand < 2 ^ 53)
    (hplaces : places ≤ 2045) (h : significand * 2 ^ places ≤ number * perOne) :
    significand * 2 ^ places ≤ rounded number := by
  rcases Nat.le_total 1074 places with hle | hle
  · obtain ⟨extra, rfl⟩ := Nat.exists_eq_add_of_le' hle
    rw [pow_add_perOne, ← Nat.mul_assoc] at h ⊢
    rw [← magnitude_roundMagnitude hsignificand (by omega)]
    exact rounded_mono (Nat.le_of_mul_le_mul_right h perOne_pos)
  · rcases Nat.lt_or_ge number (2 ^ 53) with hsmall | hlarge
    · rwa [rounded_exact (Nat.le_of_lt hsmall)]
    · calc significand * 2 ^ places ≤ (2 ^ 53 - 1) * perOne :=
            Nat.mul_le_mul (by omega) (pow_le_perOne hle)
        _ = rounded (2 ^ 53 - 1) := (rounded_exact (by decide)).symm
        _ ≤ rounded number := rounded_mono (by omega)

theorem rounded_le {significand places number : Nat} (hsignificand : significand < 2 ^ 53)
    (hplaces : places ≤ 2045) (h : number * perOne ≤ significand * 2 ^ places) :
    rounded number ≤ significand * 2 ^ places := by
  rcases Nat.le_total 1074 places with hle | hle
  · obtain ⟨extra, rfl⟩ := Nat.exists_eq_add_of_le' hle
    rw [pow_add_perOne, ← Nat.mul_assoc] at h ⊢
    rw [← magnitude_roundMagnitude hsignificand (by omega)]
    exact rounded_mono (Nat.le_of_mul_le_mul_right h perOne_pos)
  · have hsmall : number ≤ significand := by
      refine Nat.le_of_mul_le_mul_right ?_ perOne_pos
      exact h.trans (Nat.mul_le_mul_left _ (pow_le_perOne hle))
    rw [rounded_exact (hsmall.trans (Nat.le_of_lt hsignificand))]
    exact h

/-! ## Signed integers -/

theorem roundMagnitude_le (format : Format) (num den : Nat) :
    format.roundMagnitude num den ≤ format.infinity := by
  rw [Format.roundMagnitude]
  split
  · exact Nat.zero_le _
  · exact Nat.min_le_right _ _

def ofInteger (number : Int) : Datum := double.decode (double.ofInt number)

theorem isDouble_ofInteger (number : Int) : (ofInteger number).IsDouble :=
  (decode_number (number < 0) (roundMagnitude_le double number.natAbs 1)).1

theorem units_ofInteger (number : Int) :
    (ofInteger number).units =
      if number < 0 then -(rounded number.natAbs : Int) else rounded number.natAbs := by
  refine (decode_number (number < 0) (roundMagnitude_le double number.natAbs 1)).2.trans ?_
  simp only [decide_eq_true_eq, rounded]

theorem units_ofInteger_mono {l r : Int} (h : l ≤ r) :
    (ofInteger l).units ≤ (ofInteger r).units := by
  rw [units_ofInteger, units_ofInteger]
  split
  next hl =>
    split
    next hr =>
      have := rounded_mono (show r.natAbs ≤ l.natAbs by omega)
      omega
    next hr => omega
  next hl =>
    rw [if_neg (by omega)]
    have := rounded_mono (show l.natAbs ≤ r.natAbs by omega)
    omega

theorem mul_perOne (number : Int) :
    number * perOne = if number < 0 then -((number.natAbs * perOne : Nat) : Int)
      else ((number.natAbs * perOne : Nat) : Int) := by
  rw [Nat.cast_mul]
  split
  · rw [← Int.neg_mul]
    congr 1
    omega
  · congr 1
    omega

theorem units_whole (number : Int) :
    Datum.units (.finite (number < 0) number.natAbs 0) = number * perOne := by
  have hpow (places : Nat) : Nat.pow 2 places = 2 ^ places := rfl
  rw [mul_perOne, Datum.units, Datum.inUnits, hpow, show ((0 : Int) - -1074).toNat = 1074 from rfl,
    ← perOne]
  simp only [decide_eq_true_eq]

theorem units_ofInteger_exact {number : Int} (h : number.natAbs ≤ 2 ^ 53) :
    (ofInteger number).units = number * perOne := by
  rw [units_ofInteger, rounded_exact h, mul_perOne]

theorem mul_perOne_lt {number : Int} (h : number.natAbs ≤ 2 ^ 53) :
    -(Datum.tooLarge : Int) < number * perOne ∧ number * perOne < Datum.tooLarge := by
  have hlarge : 2 ^ 53 * perOne < Datum.tooLarge := by decide +kernel
  have hle := Nat.mul_le_mul_right perOne h
  rw [mul_perOne]
  generalize number.natAbs * perOne = units, 2 ^ 53 * perOne = most, Datum.tooLarge = bound at *
  split <;> omega

theorem units_signed {negative : Bool} {significand : Nat} {exponent : Int}
    (h : Datum.IsDouble (.finite negative significand exponent)) :
    ∃ places ≤ 2045, Datum.units (.finite negative significand exponent) =
      if negative then -((significand * 2 ^ places : Nat) : Int)
      else ((significand * 2 ^ places : Nat) : Int) :=
  ⟨(exponent - -1074).toNat, by have := h.2; omega, rfl⟩

theorem units_ofInteger_side {negative : Bool} {significand : Nat} {exponent : Int}
    (hdouble : Datum.IsDouble (.finite negative significand exponent)) (number : Int) :
    (Datum.units (.finite negative significand exponent) ≤ number * perOne →
      Datum.units (.finite negative significand exponent) ≤ (ofInteger number).units) ∧
    (number * perOne ≤ Datum.units (.finite negative significand exponent) →
      (ofInteger number).units ≤ Datum.units (.finite negative significand exponent)) := by
  obtain ⟨places, hplaces, hunits⟩ := units_signed hdouble
  rw [hunits, units_ofInteger, mul_perOne]
  have hbelow := @le_rounded significand places number.natAbs hdouble.1 hplaces
  have habove := @rounded_le significand places number.natAbs hdouble.1 hplaces
  generalize significand * 2 ^ places = bound, number.natAbs * perOne = exact,
    rounded number.natAbs = near at *
  split <;> split <;> omega

end TupleStore.Floating
