/-!
# Binary floating point

A number is stored as the bits of a binary interchange format.  `Datum` is what
the bits denote; a finite datum is an integer times a power of two, so orders
and roundings are computed exactly on natural numbers.
-/

namespace TupleStore.Floating

structure Format where
  fractionBits : Nat
  exponentBits : Nat
  deriving DecidableEq, Repr

def single : Format := ⟨23, 8⟩

def double : Format := ⟨52, 11⟩

/--
A finite datum is `significand * 2 ^ exponent` with its sign.  A datum which is
not a number has a fraction, here always in the 52 bits of double precision.
-/
inductive Datum where
  | nan (negative : Bool) (fraction : Nat)
  | infinite (negative : Bool)
  | finite (negative : Bool) (significand : Nat) (exponent : Int)
  deriving DecidableEq, Repr

namespace Format

def bias (format : Format) : Nat := Nat.pow 2 (format.exponentBits - 1) - 1

def leastExponent (format : Format) : Int :=
  1 - (format.bias : Int) - (format.fractionBits : Int)

def infinity (format : Format) : Nat :=
  (Nat.pow 2 format.exponentBits - 1) * Nat.pow 2 format.fractionBits

def signBit (format : Format) : Nat :=
  Nat.pow 2 (format.exponentBits + format.fractionBits)

def decode (format : Format) (bits : Nat) : Datum :=
  let negative := bits / format.signBit % 2 = 1
  let exponent := bits / Nat.pow 2 format.fractionBits % Nat.pow 2 format.exponentBits
  let fraction := bits % Nat.pow 2 format.fractionBits
  if exponent = Nat.pow 2 format.exponentBits - 1 then
    if fraction = 0 then .infinite negative
    else .nan negative (fraction * Nat.pow 2 (52 - format.fractionBits))
  else if exponent = 0 then
    .finite negative fraction format.leastExponent
  else
    .finite negative (Nat.pow 2 format.fractionBits + fraction)
      (format.leastExponent + (exponent - 1 : Nat))

end Format

/-! ## Order -/

namespace Datum

/-- The value in units of `2 ^ unit`, for a unit not above the exponent. -/
def inUnits (negative : Bool) (significand : Nat) (exponent unit : Int) : Int :=
  let magnitude : Nat := significand * Nat.pow 2 (exponent - unit).toNat
  if negative then -magnitude else magnitude

/-- The numeric order; nothing compares with a value which is not a number. -/
def compare? : Datum → Datum → Option Ordering
  | .nan .., _ | _, .nan .. => none
  | .infinite l, .infinite r => some (Ord.compare r l)
  | .infinite negative, .finite .. => some (if negative then .lt else .gt)
  | .finite .., .infinite negative => some (if negative then .gt else .lt)
  | .finite nl ml el, .finite nr mr er =>
      let unit := min el er
      some (Ord.compare (inUnits nl ml el unit) (inUnits nr mr er unit))

def isZero : Datum → Bool
  | .finite _ significand _ => significand == 0
  | _ => false

def ratio (significand : Nat) (exponent : Int) : Nat × Nat :=
  (significand * Nat.pow 2 exponent.toNat, Nat.pow 2 (-exponent).toNat)

end Datum

/-! ## Rounding -/

def roundHalfEven (num den : Nat) : Nat :=
  let below := num / den
  let twice := 2 * (num % den)
  if twice < den then below
  else if den < twice then below + 1
  else below + below % 2

/-- The largest `k` with `2 ^ k ≤ num / den`, for positive `num` and `den`. -/
def floorLog2 (num den : Nat) : Int :=
  let k : Int := (num.log2 : Int) - (den.log2 : Int)
  if den * Nat.pow 2 k.toNat ≤ num * Nat.pow 2 (-k).toNat then k else k - 1

namespace Format

/--
The bits of the datum nearest to `num / den`, ties to the even significand;
infinity when the quotient rounds past the largest finite datum.
-/
def roundMagnitude (format : Format) (num den : Nat) : Nat :=
  if num = 0 then 0
  else
    let unit := max (floorLog2 num den - format.fractionBits) format.leastExponent
    let significand := roundHalfEven (num * Nat.pow 2 (-unit).toNat) (den * Nat.pow 2 unit.toNat)
    min ((unit - format.leastExponent).toNat * Nat.pow 2 format.fractionBits + significand)
      format.infinity

def round (format : Format) (negative : Bool) (num den : Nat) : Nat :=
  (if negative then format.signBit else 0) + format.roundMagnitude num den

def ofInt (format : Format) (number : Int) : Nat :=
  format.round (number < 0) number.natAbs 1

/--
The datum of `format` nearest to a datum of another format.  A datum which is not
a number keeps the high bits of its fraction and becomes quiet.
-/
def convert (format : Format) : Datum → Nat
  | .nan negative fraction =>
      (if negative then format.signBit else 0) + format.infinity +
        (fraction / Nat.pow 2 (52 - format.fractionBits) ||| Nat.pow 2 (format.fractionBits - 1))
  | .infinite negative => (if negative then format.signBit else 0) + format.infinity
  | .finite negative significand exponent =>
      let (num, den) := Datum.ratio significand exponent
      format.round negative num den

end Format

end TupleStore.Floating
