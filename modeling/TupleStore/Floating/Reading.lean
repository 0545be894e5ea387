import TupleStore.Floating.Format
import TupleStore.Text.Cut

/-!
# Reading decimal numbers

An optional sign and decimal digits with at most one point among or beside them,
without an exponent.  The number read is the nearest double.
-/

namespace TupleStore.Floating

def readDouble? (text : List Char) : Option Datum := do
  let (negative, digits) := match text with
    | '-' :: rest => (true, rest)
    | '+' :: rest => (false, rest)
    | _ => (false, text)
  let (whole, fraction) := (Text.splitOnce? '.' digits).getD (digits, [])
  let number ← Text.digits? (whole ++ fraction)
  return double.decode (double.round negative number (Nat.pow 10 fraction.length))

end TupleStore.Floating
