import TupleStore.Floating.Format

/-!
# Shortest decimals

The shortest decimal of a finite datum has the fewest digits among the decimals
which lie in the interval of numbers that round to the datum, and of those with
as many digits it is the nearest.  All arithmetic is on natural numbers.
-/

namespace TupleStore.Floating

structure Decimal where
  digits : Nat
  exponent : Int
  deriving DecidableEq, Repr

/-- The least `k` not below `start` with `num / den < 10 ^ k`, within `fuel` steps. -/
def ceilLog10From (num den : Nat) : (fuel : Nat) → (start : Int) → Int
  | 0, k => k
  | fuel + 1, k =>
      if num * Nat.pow 10 (-k).toNat < den * Nat.pow 10 k.toNat then k
      else ceilLog10From num den fuel (k + 1)

/-- The `k` with `10 ^ (k - 1) ≤ num / den < 10 ^ k`. -/
def decimalPlaces (num den : Nat) : Int :=
  ceilLog10From num den 4 (((num.log2 : Int) - (den.log2 : Int) - 1) * 30103 / 100000)

/--
The numbers that round to a datum, in quarters of its unit: from `low` to
`high` around `middle`.  The end points round to it when its significand is even.
-/
structure Interval where
  low : Nat
  middle : Nat
  high : Nat
  closed : Bool

def Format.interval (format : Format) (significand : Nat) (exponent : Int) : Interval where
  low := 4 * significand -
    (if significand = Nat.pow 2 format.fractionBits ∧ format.leastExponent < exponent then 1
      else 2)
  middle := 4 * significand
  high := 4 * significand + 2
  closed := significand % 2 = 0

def Interval.contains (interval : Interval) (num den point : Nat) : Bool :=
  if interval.closed then interval.low * num ≤ point * den ∧ point * den ≤ interval.high * num
  else interval.low * num < point * den ∧ point * den < interval.high * num

/--
The decimal with `count` digits nearest to the middle of the interval, if one
of the two around it lies in the interval.  `tieUp` decides, from the lower one,
whether a tie goes up.
-/
def Interval.decimal? (interval : Interval) (tieUp : Nat → Bool) (num den : Nat)
    (places : Int) (count : Nat) : Option Decimal :=
  let exponent := places - count
  let num := num * Nat.pow 10 (-exponent).toNat
  let den := den * Nat.pow 10 exponent.toNat
  let below := interval.middle * num / den
  let twice := 2 * (interval.middle * num % den)
  match interval.contains num den below, interval.contains num den (below + 1) with
  | false, false => none
  | true, false => some ⟨below, exponent⟩
  | false, true => some ⟨below + 1, exponent⟩
  | true, true =>
      if den < twice ∨ (twice = den ∧ tieUp below) then some ⟨below + 1, exponent⟩
      else some ⟨below, exponent⟩

def Decimal.trim : (fuel : Nat) → Decimal → Decimal
  | 0, decimal => decimal
  | fuel + 1, decimal =>
      if decimal.digits ≠ 0 ∧ decimal.digits % 10 = 0 then
        trim fuel ⟨decimal.digits / 10, decimal.exponent + 1⟩
      else decimal

def Format.shortest (format : Format) (tieUp : Nat → Bool) (significand : Nat)
    (exponent : Int) : Decimal :=
  let interval := format.interval significand exponent
  let (num, den) := Datum.ratio 1 exponent
  let den := 4 * den
  let places := decimalPlaces (interval.middle * num) den
  let found := (List.range 17).findSome? fun n =>
    interval.decimal? tieUp num den places (n + 1)
  (found.getD ⟨0, 0⟩).trim 20

/-! ## Positional text -/

def Decimal.digitText (decimal : Decimal) : List Char := Nat.toDigits 10 decimal.digits

def Decimal.positional (decimal : Decimal) : List Char :=
  let digits := decimal.digitText
  if 0 ≤ decimal.exponent then digits ++ List.replicate decimal.exponent.toNat '0'
  else
    let places := (-decimal.exponent).toNat
    if places < digits.length then
      digits.take (digits.length - places) ++ '.' :: digits.drop (digits.length - places)
    else '0' :: '.' :: List.replicate (places - digits.length) '0' ++ digits

/--
The text of stored bits: shortest digits without an exponent, a tie going up,
and `-0`, `inf`, `-inf` and `NaN` for the data without digits.
-/
def Format.text (format : Format) (bits : Nat) : String :=
  match format.decode bits with
  | .nan .. => "NaN"
  | .infinite negative => if negative then "-inf" else "inf"
  | .finite negative significand exponent =>
      let digits :=
        if significand = 0 then ['0']
        else (format.shortest (fun _ => true) significand exponent).positional
      String.ofList (if negative then '-' :: digits else digits)

end TupleStore.Floating
