import TupleStore.MapId
import TupleStore.Failure

/-!
# Entities

An entity type is stored in a space, one tuple for each entity.  The class says
where entities are stored, which fields make up their key and how they are
written and read.
-/

namespace TupleStore

class Entity (α : Type) where
  Id : Type
  /-- The name of the space that stores the entities. -/
  space : String
  /-- The names of the key fields, in key order. -/
  idFields : List String
  /-- The names of all stored fields. -/
  fields : List String
  codec : Codec α
  idCodec : Codec Id
  id : α → Id
  version? : α → Option Value := fun _ => none

def Value.isNew : Value → Bool
  | .nil => true
  | .int number => number == 0
  | .float32 bits => (Floating.single.decode bits.toNat).isZero
  | .float64 bits => (Floating.double.decode bits.toNat).isZero
  | .array items => items.isEmpty
  | .map entries => entries.isEmpty
  | _ => false

namespace Entity

variable (α : Type) [entity : Entity α]

/--
The key values of an id: the items of an array for a key of several fields, the
values of a map by field name, or the id itself for a key of one field.
-/
def keyOf (id : entity.Id) : Except MappingError Key :=
  match entity.idFields with
  | [] => .error (.noIdFields entity.space)
  | fields =>
      match entity.idCodec.write id with
      | .map entries =>
          fields.mapM fun field =>
            match entries.find? fun entry => entry.1 = .text field with
            | some entry => .ok entry.2
            | none => .error (.missingIdField field entity.space)
      | value =>
          if fields.length = 1 then .ok [value]
          else
            match value with
            | .array items =>
                if items.length = fields.length then .ok items
                else .error (.idParts entity.space items.length fields.length)
            | value => .error (.notComposite value entity.space fields.length)

variable {α}

def key (value : α) : Except MappingError Key := keyOf α (Entity.id value)

/-- Whether the entity is not stored yet, told by its version or else by its id. -/
def isNew (value : α) : Bool :=
  match Entity.version? value with
  | some version => version.isNew
  | none => (entity.idCodec.write (Entity.id value)).isNew

end Entity

end TupleStore
