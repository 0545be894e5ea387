import TupleStore.Schema
import TupleStore.Value.Order
import TupleStore.Value.Display

/-!
# Conditions

Conditions select tuples of a space: at most one query on an index, any number
of comparisons of fields, and a window which cuts the result.  Their meaning is
`Conditions.filter`, applied to all tuples of the space in primary key order.
-/

namespace TupleStore

/-! ## Comparisons -/

inductive Operator where
  | equal
  | less
  | lessOrEqual
  | greater
  | greaterOrEqual
  deriving DecidableEq, Repr

namespace Operator

/-- Whether a stored value which compares so with the operand satisfies the operator. -/
def test : Operator → Ordering → Bool
  | .equal, order => order == .eq
  | .less, order => order == .lt
  | .lessOrEqual, order => order != .gt
  | .greater, order => order == .gt
  | .greaterOrEqual, order => order != .lt

def symbol : Operator → String
  | .equal => "=="
  | .less => "<"
  | .lessOrEqual => "<="
  | .greater => ">"
  | .greaterOrEqual => ">="

def ofSymbol? : String → Option Operator
  | "==" => some .equal
  | "<" => some .less
  | "<=" => some .lessOrEqual
  | ">" => some .greater
  | ">=" => some .greaterOrEqual
  | _ => none

theorem ofSymbol?_symbol (operator : Operator) :
    ofSymbol? operator.symbol = some operator := by
  cases operator <;> rfl

end Operator

structure Comparison where
  field : String
  operator : Operator
  value : Value
  deriving DecidableEq, Repr

/-- A comparison of index keys, each cut to the length of `key`. -/
structure IndexQuery where
  index : String
  operator : Operator
  key : Key
  deriving DecidableEq, Repr

inductive UnknownName where
  | index (name space : String)
  | field (name space : String)
  deriving DecidableEq, Repr

structure Conditions where
  indexQuery : Option IndexQuery := none
  comparisons : List Comparison := []
  limit : Option Nat := none
  offset : Nat := 0
  descending : Bool := false
  deriving DecidableEq, Repr

namespace Conditions

/-! ## Building conditions -/

def any : Conditions := {}

/-- Sets the index query; an earlier one is replaced. -/
def andIndex (conditions : Conditions) (index : String) (operator : Operator) (key : Key) :
    Conditions :=
  { conditions with indexQuery := some ⟨index, operator, key⟩ }

def indexEquals (index : String) (key : Key) : Conditions := any.andIndex index .equal key

def primaryKey (key : Key) : Conditions := indexEquals "primary" key

def and (conditions : Conditions) (field : String) (operator : Operator) (value : Value) :
    Conditions :=
  { conditions with comparisons := conditions.comparisons ++ [⟨field, operator, value⟩] }

def withLimit (conditions : Conditions) (limit : Nat) : Conditions :=
  { conditions with limit := some limit }

def withOffset (conditions : Conditions) (offset : Nat) : Conditions :=
  { conditions with offset }

def inOrder (conditions : Conditions) (descending : Bool) : Conditions :=
  { conditions with descending }

def hasDefaultWindow (conditions : Conditions) : Bool :=
  conditions.offset == 0 && !conditions.descending

/-! ## Meaning -/

def IndexQuery.passes (query : IndexQuery) (index : Index) (tuple : Tuple) : Bool :=
  query.operator.test
    (Value.compareKeys ((index.keyOf tuple).take query.key.length) query.key)

def passesComparisons (space : Space) (tuple : Tuple) :
    List Comparison → Except UnknownName Bool
  | [] => .ok true
  | comparison :: rest =>
      match space.fieldPosition? comparison.field with
      | none => .error (.field comparison.field space.name)
      | some position =>
          if comparison.operator.test
              (Value.compare (fieldAt tuple position) comparison.value) then
            passesComparisons space tuple rest
          else .ok false

/--
Whether the tuple satisfies the index query and every comparison.  They are
checked in order, and a name is looked up only when all before it were satisfied.
-/
def isMatch (conditions : Conditions) (space : Space) (tuple : Tuple) :
    Except UnknownName Bool :=
  match conditions.indexQuery with
  | none => passesComparisons space tuple conditions.comparisons
  | some query =>
      match space.index? query.index with
      | none => .error (.index query.index space.name)
      | some index =>
          if IndexQuery.passes query index tuple then
            passesComparisons space tuple conditions.comparisons
          else .ok false

def window {α : Type} (conditions : Conditions) (tuples : List α) : List α :=
  let ordered := if conditions.descending then tuples.reverse else tuples
  let skipped := ordered.drop conditions.offset
  match conditions.limit with
  | none => skipped
  | some limit => skipped.take limit

def matching (conditions : Conditions) (space : Space) :
    List Tuple → Except UnknownName (List Tuple)
  | [] => .ok []
  | tuple :: tuples => do
      if ← conditions.isMatch space tuple then
        return tuple :: (← matching conditions space tuples)
      else matching conditions space tuples

/-- The selected tuples among `tuples`, which are in primary key order. -/
def filter (conditions : Conditions) (space : Space) (tuples : List Tuple) :
    Except UnknownName (List Tuple) :=
  conditions.window <$> conditions.matching space tuples

/-- Equality of conditions, their values taken as numbers where they are numbers. -/
def agrees (l r : Conditions) : Bool :=
  agreesIndex l.indexQuery r.indexQuery && agreesComparisons l.comparisons r.comparisons &&
    l.limit == r.limit && l.offset == r.offset && l.descending == r.descending
where
  agreesIndex : Option IndexQuery → Option IndexQuery → Bool
    | none, none => true
    | some l, some r =>
        l.index == r.index && l.operator == r.operator && Value.agreesItems l.key r.key
    | _, _ => false
  agreesComparisons : List Comparison → List Comparison → Bool
    | [], [] => true
    | l :: ls, r :: rs =>
        l.field == r.field && l.operator == r.operator && l.value.agrees r.value &&
          agreesComparisons ls rs
    | _, _ => false

/-! ## Text -/

def IndexQuery.display (query : IndexQuery) : String :=
  query.index ++ " " ++ query.operator.symbol ++ " " ++ (Value.array query.key).display

def Comparison.display (comparison : Comparison) : String :=
  comparison.field ++ " " ++ comparison.operator.symbol ++ " " ++ comparison.value.display

def display (conditions : Conditions) : String :=
  let parts := (conditions.indexQuery.map IndexQuery.display).toList ++
    conditions.comparisons.map Comparison.display
  let limit := match conditions.limit with
    | none => ""
    | some limit => " limit " ++ toString limit
  let offset :=
    if conditions.offset = 0 then "" else " offset " ++ toString conditions.offset
  (if parts.isEmpty then "any" else " and ".intercalate parts) ++ limit ++ offset ++
    (if conditions.descending then " desc" else "")

end Conditions

/-! ## Order of results -/

inductive Direction where
  | ascending
  | descending
  deriving DecidableEq, Repr

namespace Direction

def apply (direction : Direction) (conditions : Conditions) : Conditions :=
  conditions.inOrder (direction == .descending)

def ofName? (name : String) : Option Direction :=
  match String.ofList (name.toList.map Char.toLower) with
  | "asc" => some .ascending
  | "desc" => some .descending
  | _ => none

end Direction

end TupleStore
