/-!
# Ranges of code points

A set of characters, such as those with one property, as ranges of code points.
-/

namespace TupleStore.Text

/-- Inclusive ranges of code points, in increasing order. -/
abbrev Ranges := Array (Nat × Nat)

namespace Ranges

/-- Whether the code point `n` lies in one of the ranges `lo .. hi`, halving within `fuel` steps. -/
def search (ranges : Ranges) (n : Nat) : (fuel lo hi : Nat) → Bool
  | 0, _, _ => false
  | fuel + 1, lo, hi =>
      if lo < hi then
        let middle := (lo + hi) / 2
        let (first, last) := ranges.getD middle (0, 0)
        if n < first then search ranges n fuel lo middle
        else if last < n then search ranges n fuel (middle + 1) hi
        else true
      else false

def has (ranges : Ranges) (c : Char) : Bool := search ranges c.toNat 16 0 ranges.size

end Ranges

end TupleStore.Text
