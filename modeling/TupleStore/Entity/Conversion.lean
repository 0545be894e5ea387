import TupleStore.Entity.Basic

/-!
# Entities and tuples

An entity is written as a map from field names to values; the format of a space
says where in the tuple each value goes.  Reading pairs the names of the format
with the values of the tuple.
-/

namespace TupleStore

namespace Space

def placeEntries (space : Space) (tuple : Tuple) :
    List (Value × Value) → Except MappingError Tuple
  | [] => .ok tuple
  | (key, value) :: entries =>
      match key.text? with
      | none => .error (.fieldName key)
      | some name =>
          match space.fieldPosition? name with
          | none => .error (.unknownField name space.name)
          | some position => space.placeEntries (tuple.set position value) entries

/-- The tuple of a written entity; fields of the format it does not have are nil. -/
def tupleOf (space : Space) (written : Value) : Except MappingError Tuple :=
  match written with
  | .map entries => space.placeEntries (List.replicate space.format.length .nil) entries
  | value => .error (.notAMap value space.name)

/-- The names of the format with the values of the tuple; values past its end are dropped. -/
def entriesOf (space : Space) (tuple : Tuple) : List (Value × Value) :=
  (space.fieldNames.map Value.text).zip tuple

end Space

namespace Codec

variable {α : Type}

def toTuple (codec : Codec α) (value : α) (space : Space) : Except MappingError Tuple :=
  (codec.store value).mapError .unreadable >>= space.tupleOf

def fromTuple (codec : Codec α) (tuple : Tuple) (space : Space) : Except MappingError α :=
  (codec.load (.map (space.entriesOf tuple))).mapError (.unreadableTuple space.name)

/-- Reads what a stored function returned: an array is a tuple of the space, if there is one. -/
def fromResult (codec : Codec α) (value : Value) (space : Option Space) :
    Except MappingError α :=
  match value, space with
  | .array tuple, some space => codec.fromTuple tuple space
  | value, _ => (codec.load value).mapError .unreadable

end Codec

/-- Assigns each value of the tuple which is not nil. -/
def updateOperations (tuple : Tuple) : List UpdateOperation :=
  (tuple.zipIdx.filter fun (value, _) => !value.isNil).map fun (value, position) =>
    .assign position value

end TupleStore
