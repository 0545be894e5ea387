import TupleStore.Value
import TupleStore.Floating.Format

/-!
# The order of values

Values order by class first: nil, booleans, numbers, strings, byte strings,
arrays, maps, extensions.  Two integers compare exactly; a comparison with a
floating point number takes both sides as double precision numbers.  Maps
compare by their size only.
-/

namespace TupleStore.Value

def rank : Value → Nat
  | .nil => 0
  | .bool _ => 1
  | .int _ | .float32 _ | .float64 _ => 2
  | .str _ => 3
  | .bin _ => 4
  | .array _ => 5
  | .map _ => 6
  | .ext .. => 7

/-- The number as a double precision datum; not a number for other classes. -/
def datum : Value → Floating.Datum
  | .int number => Floating.double.decode (Floating.double.ofInt number)
  | .float32 bits => Floating.single.decode bits.toNat
  | .float64 bits => Floating.double.decode bits.toNat
  | _ => .nan false 0

/-- The order of numbers; a value which is not a number is equal to every number. -/
def compareNumbers (l r : Value) : Ordering := (l.datum.compare? r.datum).getD .eq

mutual

def compare : Value → Value → Ordering
  | .bool l, .bool r => Ord.compare l r
  | .int l, .int r => Ord.compare l r
  | .str l, .str r | .bin l, .bin r => Bytes.compare l r
  | .array l, .array r => compareKeys l r
  | .map l, .map r => Ord.compare l.length r.length
  | .ext lk l, .ext rk r => (Ord.compare lk rk).then (Bytes.compare l r)
  | l, r =>
      if l.rank = 2 ∧ r.rank = 2 then compareNumbers l r
      else Ord.compare l.rank r.rank

/-- The lexicographic order of keys; a proper initial part comes first. -/
def compareKeys : Key → Key → Ordering
  | [], [] => .eq
  | [], _ :: _ => .lt
  | _ :: _, [] => .gt
  | l :: ls, r :: rs => (compare l r).then (compareKeys ls rs)

end

/-! ## Agreement -/

mutual

/--
Equality with floating point numbers taken as numbers: one which is not a number
agrees with none, itself included, and the two zeros agree.
-/
def agrees : Value → Value → Bool
  | .float32 l, .float32 r =>
      (Floating.single.decode l.toNat).compare? (Floating.single.decode r.toNat) == some .eq
  | .float64 l, .float64 r =>
      (Floating.double.decode l.toNat).compare? (Floating.double.decode r.toNat) == some .eq
  | .array l, .array r => agreesItems l r
  | .map l, .map r => agreesEntries l r
  | l, r => l == r

def agreesItems : List Value → List Value → Bool
  | [], [] => true
  | l :: ls, r :: rs => l.agrees r && agreesItems ls rs
  | _, _ => false

def agreesEntries : List (Value × Value) → List (Value × Value) → Bool
  | [], [] => true
  | (lk, l) :: ls, (rk, r) :: rs => lk.agrees rk && l.agrees r && agreesEntries ls rs
  | _, _ => false

end

end TupleStore.Value
