import TupleStore.Json.Class
import TupleStore.Conditions
import TupleStore.Client

/-!
# Exact JSON forms

The exact form of a value is JSON from which the value can be read back: where
JSON has no such value, the form is an object whose only name tells the kind.
Spaces and update operations are arrays and objects of exact forms.  Conditions
are read from the list of the steps which build them.
-/

namespace TupleStore

open ToJson (toJson)
open OfJson (ofJson?)

namespace Json

/-! ## Values -/

mutual

def exact : Value → Json
  | .nil => .null
  | .bool truth => .bool truth
  | .int number => .int number
  | .float32 bits => .object [("f32", toJson (Bytes.bigEndian 4 bits.toNat))]
  | .float64 bits => .object [("f64", toJson (Bytes.bigEndian 8 bits.toNat))]
  | .str bytes =>
      match bytes.text? with
      | some text => .str text
      | none => .object [("str", toJson bytes)]
  | .bin bytes => .object [("bin", toJson bytes)]
  | .array items => .array (exactItems items)
  | .map entries => .object [("map", .array (exactEntries entries))]
  | .ext kind bytes => .object [("ext", .array [.int kind.toInt, toJson bytes])]

def exactItems : List Value → List Json
  | [] => []
  | item :: items => exact item :: exactItems items

def exactEntries : List (Value × Value) → List Json
  | [] => []
  | (key, value) :: entries => .array [exact key, exact value] :: exactEntries entries

end

mutual

def ofExact? : Json → Option Value
  | .null => some .nil
  | .bool truth => some (.bool truth)
  | .int number => some (.int number)
  | .float _ => none
  | .str text => some (.text text)
  | .array items => (ofExactItems? items).map .array
  | .object [("map", .array entries)] => (ofExactEntries? entries).map .map
  | .object [("f32", bits)] =>
      (ofJson? bits).map fun bits => .float32 (UInt32.ofNat (Bytes.toNat bits))
  | .object [("f64", bits)] =>
      (ofJson? bits).map fun bits => .float64 (UInt64.ofNat (Bytes.toNat bits))
  | .object [("str", bytes)] => (ofJson? bytes).map .str
  | .object [("bin", bytes)] => (ofJson? bytes).map .bin
  | .object [("ext", .array [.int kind, bytes])] => (ofJson? bytes).map (.ext (Int8.ofInt kind))
  | .object _ => none

def ofExactItems? : List Json → Option (List Value)
  | [] => some []
  | item :: items => do return (← ofExact? item) :: (← ofExactItems? items)

def ofExactEntries? : List Json → Option (List (Value × Value))
  | [] => some []
  | .array [key, value] :: entries => do
      return (← ofExact? key, ← ofExact? value) :: (← ofExactEntries? entries)
  | _ :: _ => none

end

end Json

instance : ToJson Value := ⟨Json.exact⟩

instance : OfJson Value := ⟨Json.ofExact?⟩

instance : ToJson UpdateOperation := ⟨fun operation => toJson operation.toValue⟩

instance : OfJson UpdateOperation where
  ofJson?
    | .array [operator, position, value] => do
        return ⟨← ofJson? operator, ← ofJson? position, ← ofJson? value⟩
    | _ => none

/-! ## Spaces -/

instance : ToJson Field :=
  ⟨fun field => .array [toJson field.name, toJson field.type, toJson field.nullable]⟩

/-- The type and whether the field is nullable may be left out. -/
instance : OfJson Field where
  ofJson?
    | .array [name] => do return { name := ← ofJson? name }
    | .array [name, type] => do return { name := ← ofJson? name, type := ← ofJson? type }
    | .array [name, type, nullable] => do
        return ⟨← ofJson? name, ← ofJson? type, ← ofJson? nullable⟩
    | _ => none

instance : ToJson Index :=
  ⟨fun index =>
    .array [toJson index.id, toJson index.name, toJson index.unique, toJson index.parts]⟩

instance : OfJson Index where
  ofJson?
    | .array [id, name, unique, parts] => do
        return ⟨← ofJson? id, ← ofJson? name, ← ofJson? unique, ← ofJson? parts⟩
    | _ => none

instance : ToJson Space :=
  ⟨fun space => .object [("id", toJson space.id), ("name", toJson space.name),
    ("format", toJson space.format), ("indexes", toJson space.indexes)]⟩

/-- All but the name may be left out. -/
instance : OfJson Space where
  ofJson? json := do
    return ⟨← json.fieldOr? "id" 0, ← json.field? "name", ← json.fieldOr? "format" [],
      ← json.fieldOr? "indexes" []⟩

/-! ## Conditions -/

instance : ToJson Operator := ⟨fun operator => .str operator.symbol⟩

instance : OfJson Operator where
  ofJson? json := (ofJson? json).bind Operator.ofSymbol?

instance : OfJson Direction where
  ofJson? json := (ofJson? json).bind Direction.ofName?

instance : ToJson IndexQuery :=
  ⟨fun query => .array [toJson query.index, toJson query.operator, toJson query.key]⟩

instance : ToJson Comparison :=
  ⟨fun comparison =>
    .array [toJson comparison.field, toJson comparison.operator, toJson comparison.value]⟩

namespace Conditions

def description (conditions : Conditions) : List (String × Json) :=
  [("display", toJson conditions.display), ("index", toJson conditions.indexQuery),
    ("filters", toJson conditions.comparisons), ("limit", toJson conditions.limit),
    ("offset", toJson conditions.offset), ("descending", toJson conditions.descending),
    ("default_window", toJson conditions.hasDefaultWindow)]

def comparisonStep? : String → Option Operator
  | "and_equals" => some .equal
  | "and_greater_than" => some .greater
  | "and_greater_or_equals" => some .greaterOrEqual
  | "and_less_than" => some .less
  | "and_less_or_equals" => some .lessOrEqual
  | _ => none

def step? (conditions : Conditions) : Json → Option Conditions
  | .array [.str "index_equals", index, key] => do
      return .indexEquals (← ofJson? index) (← ofJson? key)
  | .array [.str "primary_key", key] => Conditions.primaryKey <$> ofJson? key
  | .array [.str "and_index", index, operator, key] => do
      return conditions.andIndex (← ofJson? index) (← ofJson? operator) (← ofJson? key)
  | .array [.str "and", field, operator, value] => do
      return conditions.and (← ofJson? field) (← ofJson? operator) (← ofJson? value)
  | .array [.str "limit", limit] => conditions.withLimit <$> ofJson? limit
  | .array [.str "offset", offset] => conditions.withOffset <$> ofJson? offset
  | .array [.str "ascending"] => some (conditions.inOrder false)
  | .array [.str "descending"] => some (conditions.inOrder true)
  | .array [.str "sort", direction] => do
      let direction : Direction ← ofJson? direction
      return direction.apply conditions
  | .array [.str name, field, value] => do
      return conditions.and (← ofJson? field) (← comparisonStep? name) (← ofJson? value)
  | _ => none

end Conditions

instance : ToJson Conditions := ⟨fun conditions => .object conditions.description⟩

instance : OfJson Conditions where
  ofJson?
    | .array steps => steps.foldlM Conditions.step? .any
    | _ => none

end TupleStore
