import TupleStore.Codec.Record
import TupleStore.Named
import TupleStore.Value.Order

/-!
# Identifiers of named values

A `MapId` identifies an entity by named values, when its key has no type of its
own.  The names are distinct and in increasing order.
-/

namespace TupleStore

structure MapId where
  entries : List (String × Value)
  sorted : Named.Sorted entries
  deriving DecidableEq, Repr

namespace MapId

def empty : MapId := ⟨[], .nil⟩

def insert (id : MapId) (name : String) (value : Value) : MapId :=
  ⟨Named.insert name value id.entries, Named.sorted_insert id.sorted⟩

/-- The id with these entries; of entries with one name the last counts. -/
def ofList (entries : List (String × Value)) : MapId :=
  entries.foldl (fun id entry => id.insert entry.1 entry.2) empty

def get? (id : MapId) (name : String) : Option Value :=
  (id.entries.find? fun entry => entry.1 == name).map Prod.snd

def size (id : MapId) : Nat := id.entries.length

def agrees (l r : MapId) : Bool :=
  Value.agreesEntries (l.entries.map fun entry => (.text entry.1, entry.2))
    (r.entries.map fun entry => (.text entry.1, entry.2))

def display (id : MapId) : String :=
  "\x7b " ++ ", ".intercalate (id.entries.map fun (name, value) =>
    name ++ " : " ++ value.display) ++ " \x7d"

/-! ## Codec -/

def write (id : MapId) : List (Value × Value) :=
  id.entries.map fun (name, value) => (.text name, value.clean)

def readKeyed (entries : List (FieldKey × Value)) : Except ReadError MapId := do
  let entries ← entries.mapM fun (key, value) =>
    match key with
    | .name bytes =>
        match bytes.text? with
        | some name => Except.ok (name, value.clean)
        | none => .error (.mismatch "valid UTF-8")
    | _ => .error (.mismatch "a string")
  return ofList entries

def codec : Codec MapId where
  write id := .map id.write
  read
    | .map entries => do
        let (keyed, error) := keyedEntries FieldKey.read entries
        let id ← readKeyed keyed
        if let some error := error then throw error
        return id
    | _ => .error (.mismatch "a map")

end MapId

end TupleStore
