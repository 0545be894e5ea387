import TupleStore.Bytes

/-!
# Values

The values stored in tuples and passed to stored functions.  There is one kind
of integer, of the signed and unsigned 64-bit ranges together; floating point
numbers are kept as their bits; text is kept as its bytes, which need not be
valid UTF-8; maps keep the order and the repetitions of their entries.
-/

namespace TupleStore

inductive Value where
  | nil
  | bool (truth : Bool)
  | int (number : Int)
  | float32 (bits : UInt32)
  | float64 (bits : UInt64)
  | str (bytes : Bytes)
  | bin (bytes : Bytes)
  | array (items : List Value)
  | map (entries : List (Value × Value))
  | ext (kind : Int8) (bytes : Bytes)
  deriving Inhabited, Repr

abbrev Tuple := List Value

abbrev Key := List Value

namespace Value

def text (text : String) : Value := .str (Bytes.ofString text)

def nat (number : Nat) : Value := .int number

def text? : Value → Option String
  | .str bytes => bytes.text?
  | _ => none

def unsigned? : Value → Option Nat
  | .int (.ofNat number) => some number
  | _ => none

def signed? : Value → Option Int
  | .int number => if number < 0x8000000000000000 then some number else none
  | _ => none

def truth? : Value → Option Bool
  | .bool truth => some truth
  | _ => none

def items? : Value → Option (List Value)
  | .array items => some items
  | _ => none

def isNil : Value → Bool
  | .nil => true
  | _ => false

/-! ## Decidable equality -/

mutual

def decEq : (l r : Value) → Decidable (l = r)
  | .nil, .nil => isTrue rfl
  | .bool l, .bool r => decidable_of_iff (l = r) (by simp)
  | .int l, .int r => decidable_of_iff (l = r) (by simp)
  | .float32 l, .float32 r => decidable_of_iff (l = r) (by simp)
  | .float64 l, .float64 r => decidable_of_iff (l = r) (by simp)
  | .str l, .str r => decidable_of_iff (l = r) (by simp)
  | .bin l, .bin r => decidable_of_iff (l = r) (by simp)
  | .array l, .array r =>
      have := decEqItems l r
      decidable_of_iff (l = r) (by simp)
  | .map l, .map r =>
      have := decEqEntries l r
      decidable_of_iff (l = r) (by simp)
  | .ext lk l, .ext rk r => decidable_of_iff (lk = rk ∧ l = r) (by simp)
  | .nil, .bool _ | .nil, .int _ | .nil, .float32 _ | .nil, .float64 _ | .nil, .str _
  | .nil, .bin _ | .nil, .array _ | .nil, .map _ | .nil, .ext .. => isFalse (by simp)
  | .bool _, .nil | .bool _, .int _ | .bool _, .float32 _ | .bool _, .float64 _
  | .bool _, .str _ | .bool _, .bin _ | .bool _, .array _ | .bool _, .map _
  | .bool _, .ext .. => isFalse (by simp)
  | .int _, .nil | .int _, .bool _ | .int _, .float32 _ | .int _, .float64 _ | .int _, .str _
  | .int _, .bin _ | .int _, .array _ | .int _, .map _ | .int _, .ext .. => isFalse (by simp)
  | .float32 _, .nil | .float32 _, .bool _ | .float32 _, .int _ | .float32 _, .float64 _
  | .float32 _, .str _ | .float32 _, .bin _ | .float32 _, .array _ | .float32 _, .map _
  | .float32 _, .ext .. => isFalse (by simp)
  | .float64 _, .nil | .float64 _, .bool _ | .float64 _, .int _ | .float64 _, .float32 _
  | .float64 _, .str _ | .float64 _, .bin _ | .float64 _, .array _ | .float64 _, .map _
  | .float64 _, .ext .. => isFalse (by simp)
  | .str _, .nil | .str _, .bool _ | .str _, .int _ | .str _, .float32 _ | .str _, .float64 _
  | .str _, .bin _ | .str _, .array _ | .str _, .map _ | .str _, .ext .. => isFalse (by simp)
  | .bin _, .nil | .bin _, .bool _ | .bin _, .int _ | .bin _, .float32 _ | .bin _, .float64 _
  | .bin _, .str _ | .bin _, .array _ | .bin _, .map _ | .bin _, .ext .. => isFalse (by simp)
  | .array _, .nil | .array _, .bool _ | .array _, .int _ | .array _, .float32 _
  | .array _, .float64 _ | .array _, .str _ | .array _, .bin _ | .array _, .map _
  | .array _, .ext .. => isFalse (by simp)
  | .map _, .nil | .map _, .bool _ | .map _, .int _ | .map _, .float32 _ | .map _, .float64 _
  | .map _, .str _ | .map _, .bin _ | .map _, .array _ | .map _, .ext .. => isFalse (by simp)
  | .ext .., .nil | .ext .., .bool _ | .ext .., .int _ | .ext .., .float32 _
  | .ext .., .float64 _ | .ext .., .str _ | .ext .., .bin _ | .ext .., .array _
  | .ext .., .map _ => isFalse (by simp)

def decEqItems : (l r : List Value) → Decidable (l = r)
  | [], [] => isTrue rfl
  | [], _ :: _ | _ :: _, [] => isFalse (by simp)
  | l :: ls, r :: rs =>
      have := decEq l r
      have := decEqItems ls rs
      decidable_of_iff (l = r ∧ ls = rs) (by simp)

def decEqEntries : (l r : List (Value × Value)) → Decidable (l = r)
  | [], [] => isTrue rfl
  | [], _ :: _ | _ :: _, [] => isFalse (by simp)
  | (lk, l) :: ls, (rk, r) :: rs =>
      have := decEq lk rk
      have := decEq l r
      have := decEqEntries ls rs
      decidable_of_iff ((lk = rk ∧ l = r) ∧ ls = rs) (by simp)

end

instance : DecidableEq Value := decEq

def get? (value : Value) (name : String) : Option Value :=
  match value with
  | .map entries => (entries.find? fun entry => entry.1 = .text name).map Prod.snd
  | _ => none

end Value

end TupleStore
