import Mathlib.Tactic.Linarith
import Mathlib.Tactic.Ring
import TupleStore.Floating.Format

/-!
# Nearest doubles

A quotient which is not too large and not too small is near the double nearest to
it, so near that the fractions of a second to nine places can be told apart.
-/

namespace TupleStore.Floating

variable {num den : Nat}

/-! ## Halves -/

theorem roundHalfEven_near (num : Nat) (hden : 0 < den) :
    2 * num ≤ 2 * roundHalfEven num den * den + den ∧
      2 * roundHalfEven num den * den ≤ 2 * num + den := by
  have hdiv := Nat.div_add_mod num den
  have hlt := Nat.mod_lt num hden
  have hbelow : 2 * (num / den) * den = 2 * (den * (num / den)) := by ring
  have hnext : 2 * (num / den + 1) * den = 2 * (den * (num / den)) + 2 * den := by ring
  rw [roundHalfEven]
  split
  · omega
  split
  · omega
  · rcases Nat.mod_two_eq_zero_or_one (num / den) with h | h <;> rw [h]
    · rw [Nat.add_zero]
      omega
    · omega

theorem roundHalfEven_eq {number : Nat} (hlow : 2 * number * den < 2 * num + den)
    (hhigh : 2 * num < 2 * number * den + den) : roundHalfEven num den = number := by
  have hden : 0 < den := by
    by_contra h
    obtain rfl : den = 0 := by omega
    omega
  obtain ⟨h₁, h₂⟩ := roundHalfEven_near num hden
  rcases Nat.lt_trichotomy (roundHalfEven num den) number with h | h | h
  · have := Nat.mul_le_mul_right den h
    nlinarith
  · exact h
  · have := Nat.mul_le_mul_right den h
    nlinarith

/-! ## Powers of two -/

theorem floorLog2_spec (hnum : 0 < num) (hden : 0 < den) (hsmall : num < 64 * den) :
    ∃ shift : Nat, floorLog2 num den = 52 - (shift : Int) ∧ 47 ≤ shift ∧
      shift ≤ den.log2 + 53 ∧ 2 ^ 52 * den ≤ num * 2 ^ shift ∧
      num * 2 ^ shift < 2 ^ 53 * den := by
  have hnumLow := Nat.log2_self_le (Nat.ne_of_gt hnum)
  have hnumHigh := @Nat.lt_log2_self num
  have hdenLow := Nat.log2_self_le (Nat.ne_of_gt hden)
  have hdenHigh := @Nat.lt_log2_self den
  rw [floorLog2]
  generalize num.log2 = a, den.log2 = b at *
  have hle : a < b + 7 := by
    refine (Nat.pow_lt_pow_iff_right (show 1 < 2 by decide)).mp ?_
    calc 2 ^ a ≤ num := hnumLow
      _ < 64 * den := hsmall
      _ ≤ 64 * 2 ^ (b + 1) := Nat.mul_le_mul_left _ (Nat.le_of_lt hdenHigh)
      _ = 2 ^ (b + 7) := by ring
  -- both sides of the comparison by the power of two which makes the left one `2 ^ 52 * den`
  have hscaled : den * Nat.pow 2 ((a : Int) - b).toNat ≤ num * Nat.pow 2 (-((a : Int) - b)).toNat ↔
      2 ^ 52 * den ≤ num * 2 ^ (52 + b - a) := by
    have hpos : 0 < 2 ^ (52 - ((a : Int) - b).toNat) := Nat.two_pow_pos _
    have hleft : 2 ^ 52 * den =
        den * Nat.pow 2 ((a : Int) - b).toNat * 2 ^ (52 - ((a : Int) - b).toNat) := by
      rw [Nat.mul_comm, Nat.mul_assoc, Nat.pow_eq, ← Nat.pow_add]
      congr 2
      omega
    have hright : num * 2 ^ (52 + b - a) =
        num * Nat.pow 2 (-((a : Int) - b)).toNat * 2 ^ (52 - ((a : Int) - b).toNat) := by
      rw [Nat.mul_assoc, Nat.pow_eq, ← Nat.pow_add]
      congr 2
      omega
    rw [hleft, hright, Nat.mul_le_mul_right_iff hpos]
  split
  next h =>
    have hlow := hscaled.mp h
    have hne : a ≠ b + 6 := by
      rintro rfl
      rw [show 52 + b - (b + 6) = 46 by omega] at hlow
      omega
    refine ⟨52 + b - a, by omega, by omega, by omega, hlow, ?_⟩
    calc num * 2 ^ (52 + b - a) < 2 ^ (a + 1) * 2 ^ (52 + b - a) :=
          Nat.mul_lt_mul_of_pos_right hnumHigh (Nat.two_pow_pos _)
      _ = 2 ^ 53 * 2 ^ b := by
          rw [← Nat.pow_add, ← Nat.pow_add]
          congr 1
          omega
      _ ≤ 2 ^ 53 * den := Nat.mul_le_mul_left _ hdenLow
  next h =>
    have hhigh := Nat.lt_of_not_le fun hlow => h (hscaled.mpr hlow)
    refine ⟨52 + b - a + 1, by omega, by omega, by omega, ?_, ?_⟩
    · calc 2 ^ 52 * den ≤ 2 ^ 52 * 2 ^ (b + 1) := Nat.mul_le_mul_left _ (Nat.le_of_lt hdenHigh)
        _ = 2 ^ a * 2 ^ (52 + b - a + 1) := by
            rw [← Nat.pow_add, ← Nat.pow_add]
            congr 1
            omega
        _ ≤ num * 2 ^ (52 + b - a + 1) := Nat.mul_le_mul_right _ hnumLow
    · rw [Nat.pow_succ, ← Nat.mul_assoc]
      omega

/-! ## Doubles -/

theorem decode_normal {exponent fraction : Nat} (hexponent : exponent < 2046)
    (hfraction : fraction < 2 ^ 52) :
    double.decode ((exponent + 1) * 2 ^ 52 + fraction) =
      .finite false (2 ^ 52 + fraction) (-1074 + exponent) := by
  have hsign : ((exponent + 1) * 2 ^ 52 + fraction) / double.signBit % 2 = 0 := by
    change ((exponent + 1) * 2 ^ 52 + fraction) / 2 ^ 63 % 2 = 0
    omega
  have hbits : ((exponent + 1) * 2 ^ 52 + fraction) / Nat.pow 2 double.fractionBits %
      Nat.pow 2 double.exponentBits = exponent + 1 := by
    change ((exponent + 1) * 2 ^ 52 + fraction) / 2 ^ 52 % 2 ^ 11 = exponent + 1
    omega
  have hrest : ((exponent + 1) * 2 ^ 52 + fraction) % Nat.pow 2 double.fractionBits = fraction := by
    change ((exponent + 1) * 2 ^ 52 + fraction) % 2 ^ 52 = fraction
    omega
  rw [Format.decode, hsign, hbits, hrest, if_neg (by change exponent + 1 ≠ 2047; omega), if_neg (by omega)]
  rfl

/--
The double nearest to a quotient below 64 with a denominator which is not too large,
as a significand and a number of binary places, and how near it is.
-/
theorem decode_round (hnum : 0 < num) (hden : 0 < den) (hsmall : num < 64 * den)
    (hlog : den.log2 ≤ 900) :
    ∃ significand places : Nat, 46 ≤ places ∧
      double.decode (double.round false num den) = .finite false significand (-(places : Int)) ∧
      2 * (num * 2 ^ places) ≤ 2 * significand * den + den ∧
      2 * significand * den ≤ 2 * (num * 2 ^ places) + den := by
  obtain ⟨shift, hfloor, hshift, hbound, hlow, hhigh⟩ := floorLog2_spec hnum hden hsmall
  obtain ⟨hnear₁, hnear₂⟩ := roundHalfEven_near (num * 2 ^ shift) hden
  generalize hsignificand : roundHalfEven (num * 2 ^ shift) den = significand at hnear₁ hnear₂
  have hleast : 2 ^ 52 ≤ significand := by
    have : 2 ^ 53 * den ≤ (2 * significand + 1) * den := by linarith
    have := Nat.le_of_mul_le_mul_right this hden
    omega
  have hmost : significand ≤ 2 ^ 53 := by
    have : 2 * significand * den < (2 ^ 54 + 1) * den := by linarith
    have := Nat.lt_of_mul_lt_mul_right this
    omega
  have hround : double.round false num den = (1074 - shift) * 2 ^ 52 + significand := by
    have hunit : max (floorLog2 num den - double.fractionBits) double.leastExponent =
        -(shift : Int) := by
      rw [hfloor]
      change max (52 - (shift : Int) - 52) (-1074) = _
      omega
    have hplaces : (-(shift : Int) - double.leastExponent).toNat = 1074 - shift := by
      change (-(shift : Int) - -1074).toNat = _
      omega
    rw [Format.round, Format.roundMagnitude, if_neg (Nat.ne_of_gt hnum), hunit]
    dsimp only
    rw [hplaces, Int.neg_neg, Int.toNat_natCast, Int.toNat_neg_natCast]
    have hbits : double.fractionBits = 52 := rfl
    have hinfinity : double.infinity = 2047 * 2 ^ 52 := rfl
    simp only [Nat.pow_eq, Nat.pow_zero, Nat.mul_one, hsignificand, hbits, hinfinity,
      if_neg Bool.false_ne_true, Nat.zero_add]
    exact Nat.min_eq_left (by omega)
  rw [hround]
  rcases Nat.lt_or_eq_of_le hmost with hlt | rfl
  · refine ⟨significand, shift, by omega, ?_, hnear₁, hnear₂⟩
    rw [show (1074 - shift) * 2 ^ 52 + significand =
        (1074 - shift + 1) * 2 ^ 52 + (significand - 2 ^ 52) by omega,
      decode_normal (by omega) (by omega), Nat.add_sub_cancel' hleast]
    congr 1
    omega
  · -- all bits of the significand are carried
    refine ⟨2 ^ 52, shift - 1, by omega, ?_, ?_⟩
    · rw [show (1074 - shift) * 2 ^ 52 + 2 ^ 53 = (1074 - shift + 1 + 1) * 2 ^ 52 + 0 by omega,
        decode_normal (by omega) (by omega)]
      congr 1
      omega
    · have hhalf : num * 2 ^ shift = 2 * (num * 2 ^ (shift - 1)) := by
        rw [show shift = shift - 1 + 1 by omega, Nat.pow_succ, Nat.add_sub_cancel]
        ring
      omega

end TupleStore.Floating
