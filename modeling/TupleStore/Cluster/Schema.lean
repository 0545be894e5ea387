import TupleStore.Cluster.Fault

/-!
# The schema of a cluster

A stored function describes the spaces of the cluster by a map from their names.
Index parts name their fields; the numbers of indexes are their positions.
-/

namespace TupleStore.Cluster

def readField (field : Value) : Except Fault Field :=
  match (field.get? "name").bind Value.text? with
  | none => .error (.noFieldName field)
  | some name =>
      .ok ⟨name, ((field.get? "type").bind Value.text?).getD "any",
        ((field.get? "is_nullable").bind Value.truth?).getD false⟩

def itemsIn (value : Value) (name : String) : List Value :=
  ((value.get? name).bind Value.items?).getD []

def readPart (space : Space) (index : String) (part : Value) : Except Fault Nat :=
  let path := ((part.get? "path").bind Value.text?).getD ""
  match space.fieldPosition? path with
  | some position => .ok position
  | none => .error (.unknownPart index space.name path)

/-- The index at position `id`; only the first one is unique unless they say so. -/
def readIndex (space : Space) (id : Nat) (index : Value) : Except Fault Index := do
  let some name := (index.get? "name").bind Value.text?
    | throw (.noIndexName id space.name)
  let parts ← (itemsIn index "parts").mapM (readPart space name)
  return ⟨.ofNat id, name, ((index.get? "unique").bind Value.truth?).getD (id == 0), parts⟩

def readIndexes (space : Space) : (id : Nat) → List Value → Except Fault (List Index)
  | _, [] => .ok []
  | id, index :: indexes => do
      let first ← readIndex space id index
      return first :: (← readIndexes space (id + 1) indexes)

def readSpace (name : Value) (described : Value) : Except Fault Space := do
  let some name := name.text? | throw (.spaceName name)
  let some (.array fields) := described.get? "format" | throw (.noFormat name)
  let format ← fields.mapM readField
  let id := ((described.get? "id").bind Value.unsigned?).getD 0
  let space : Space := { id := .ofNat id, name, format }
  return { space with indexes := ← readIndexes space 0 (itemsIn described "indexes") }

def readSchema (result : List Value) : Except Fault (List Space) :=
  match result.head?.bind (fun schema => schema.get? "spaces") with
  | some (.map entries) => entries.mapM fun (name, described) => readSpace name described
  | _ => .error .noSpaces

/-- The last space with this name. -/
def find? (schema : List Space) (name : String) : Option Space :=
  schema.reverse.find? fun space => space.name == name

end TupleStore.Cluster
