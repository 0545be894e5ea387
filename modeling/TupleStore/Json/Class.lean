import TupleStore.Json.Basic

/-!
# Types with a JSON form

`ToJson` gives the values of a type as JSON, and `OfJson` takes them from JSON.
-/

namespace TupleStore

class ToJson (α : Type) where
  toJson : α → Json

class OfJson (α : Type) where
  ofJson? : Json → Option α

open ToJson (toJson)
open OfJson (ofJson?)

variable {α β : Type}

/-! ## Scalars -/

instance : ToJson Json := ⟨id⟩

instance : OfJson Json := ⟨some⟩

instance : ToJson Unit := ⟨fun _ => .null⟩

instance : ToJson Bool := ⟨.bool⟩

instance : OfJson Bool where
  ofJson?
    | .bool truth => some truth
    | _ => none

instance : ToJson String := ⟨.str⟩

instance : OfJson String where
  ofJson?
    | .str text => some text
    | _ => none

instance : ToJson Int := ⟨.int⟩

instance : OfJson Int where
  ofJson?
    | .int number => some number
    | _ => none

instance : ToJson Nat := ⟨fun number => .int number⟩

instance : OfJson Nat where
  ofJson?
    | .int (.ofNat number) => some number
    | _ => none

instance : ToJson UInt32 := ⟨fun number => toJson number.toNat⟩

instance : OfJson UInt32 where
  ofJson? json := ((ofJson? json).filter (· < 0x100000000)).map UInt32.ofNat

/-- Byte strings are written in hexadecimal digits. -/
instance : ToJson Bytes := ⟨fun bytes => .str bytes.toHex⟩

instance : OfJson Bytes where
  ofJson?
    | .str text => Bytes.ofHex? text
    | _ => none

/-! ## Composites -/

instance [ToJson α] : ToJson (Option α) where
  toJson
    | none => .null
    | some value => toJson value

instance [ToJson α] : ToJson (List α) := ⟨fun items => .array (items.map toJson)⟩

instance [OfJson α] : OfJson (List α) where
  ofJson?
    | .array items => items.mapM ofJson?
    | _ => none

instance [ToJson α] [ToJson β] : ToJson (α × β) :=
  ⟨fun pair => .array [toJson pair.1, toJson pair.2]⟩

instance [OfJson α] [OfJson β] : OfJson (α × β) where
  ofJson?
    | .array [first, second] => do return (← ofJson? first, ← ofJson? second)
    | _ => none

namespace Json

def field? [OfJson α] (json : Json) (name : String) : Option α := (json.get? name).bind ofJson?

/-- An entry of an object which may be missing or null. -/
def fieldOr? [OfJson α] (json : Json) (name : String) (default : α) : Option α :=
  match json.given? name with
  | none => some default
  | some value => ofJson? value

end Json

end TupleStore
