import TupleStore.Codec.Basic

/-!
# Records

A record is written as a map from field names to values.  It is read from a map
in any order of entries, from an array with one item for each field, or from a
byte string with one byte for each field.  Keys of a map are field names, as text
or as byte strings, or positions of fields; other names and positions are skipped.
-/

namespace TupleStore

/-- The fields of a record, whose values make up a row of type `ρ`. -/
inductive Fields : Type → Type 1 where
  | nil : Fields Unit
  | cons {α ρ : Type} (name : String) (codec : Codec α) (rest : Fields ρ) : Fields (α × ρ)

inductive FieldKey where
  | name (bytes : Bytes)
  | position (index : Nat)
  /-- A key which is for no field. -/
  | other
  deriving DecidableEq, Repr

namespace FieldKey

def read : Value → Except ReadError FieldKey
  | .str bytes | .bin bytes => .ok (.name bytes)
  | .int (.ofNat index) => .ok (.position index)
  | _ => .error (.mismatch "a field identifier")

/-- Text and byte strings; other keys without parts are for no field. -/
def readName : Value → Except ReadError FieldKey
  | .str bytes | .bin bytes => .ok (.name bytes)
  | .array _ | .map _ | .ext .. => .error (.mismatch "a field identifier")
  | _ => .ok .other

def isFor (key : FieldKey) (name : String) (position : Nat) : Bool :=
  match key with
  | .name bytes => bytes == Bytes.ofString name
  | .position index => index == position
  | .other => false

end FieldKey

namespace Fields

def checks {ρ : Type} : Fields ρ → List (String × (Value → Except ReadError Unit))
  | nil => []
  | cons name codec rest => (name, fun value => codec.read value *> .ok ()) :: rest.checks

def names {ρ : Type} (fields : Fields ρ) : List String := fields.checks.map Prod.fst

def write {ρ : Type} : Fields ρ → ρ → List (Value × Value)
  | nil, _ => []
  | cons name codec rest, (value, row) => (.text name, codec.write value) :: rest.write row

def find? {ρ : Type} (fields : Fields ρ) (key : FieldKey) :
    Option (Nat × String × (Value → Except ReadError Unit)) :=
  let rec go (position : Nat) :
      List (String × (Value → Except ReadError Unit)) →
        Option (Nat × String × (Value → Except ReadError Unit))
    | [] => none
    | (name, check) :: rest =>
        if key.isFor name position then some (position, name, check) else go (position + 1) rest
  go 0 fields.checks

/--
Goes through the entries in order: every key is read, no field appears twice and
every value reads as a value of its field.  `seen` holds the fields before.
-/
def checkEntries {ρ : Type} (fields : Fields ρ) : (seen : List Nat) →
    List (FieldKey × Value) → Except ReadError Unit
  | _, [] => .ok ()
  | seen, (key, value) :: entries =>
      match fields.find? key with
      | none => checkEntries fields seen entries
      | some (position, name, check) =>
          if position ∈ seen then .error (.duplicateField name)
          else do
            check value
            checkEntries fields (position :: seen) entries

/-- The row of the entries; a field without an entry takes its default, if it has one. -/
def pick {ρ : Type} (entries : List (FieldKey × Value)) : Fields ρ → (position : Nat) →
    Except ReadError ρ
  | nil, _ => .ok ()
  | cons name codec rest, position => do
      let value ←
        match entries.find? fun entry => entry.1.isFor name position with
        | some entry => codec.read entry.2
        | none =>
            match codec.missing with
            | some value => .ok value
            | none => .error (.missingField name)
      return (value, ← rest.pick entries (position + 1))

def readEntries {ρ : Type} (fields : Fields ρ) (entries : List (FieldKey × Value)) :
    Except ReadError ρ := do
  fields.checkEntries [] entries
  fields.pick entries 0

/-- The row of a sequence too short for it, whose fields all have a value for this case. -/
def readBeyond {ρ : Type} : Fields ρ → Except ReadError ρ
  | nil => .ok ()
  | cons _ codec rest =>
      match codec.beyond with
      | some value => do return (value, ← rest.readBeyond)
      | none => .error (.mismatch "one item for each field")

def readItems {ρ : Type} : Fields ρ → List Value → Except ReadError ρ
  | cons _ codec rest, item :: items => do return (← codec.read item, ← rest.readItems items)
  | fields, [] => fields.readBeyond
  | nil, _ :: _ => .error (.mismatch "one item for each field")

/-- The row of a byte string, one byte for each field; bytes after those are ignored. -/
def readBytes {ρ : Type} : Fields ρ → Bytes → Except ReadError ρ
  | cons _ codec rest, byte :: bytes => do
      return (← codec.readByte byte, ← rest.readBytes bytes)
  | fields, [] => fields.readBeyond
  | nil, _ :: _ => .ok ()

end Fields

structure Record (α : Type) where
  {Row : Type}
  fields : Fields Row
  toRow : α → Row
  ofRow : Row → α

/-- The entries of a map with each key read by `readKey`, up to the first bad key. -/
def keyedEntries (readKey : Value → Except ReadError FieldKey) :
    List (Value × Value) → List (FieldKey × Value) × Option ReadError
  | [] => ([], none)
  | (key, value) :: entries =>
      match readKey key with
      | .error error => ([], some error)
      | .ok key =>
          let (keyed, error) := keyedEntries readKey entries
          ((key, value) :: keyed, error)

namespace Record

variable {α : Type}

def write (record : Record α) (value : α) : List (Value × Value) :=
  record.fields.write (record.toRow value)

/-- Reads entries in order; a bad key fails after the entries before it are checked. -/
def readMap (record : Record α) (entries : List (Value × Value)) : Except ReadError α := do
  let (keyed, error) := keyedEntries FieldKey.read entries
  record.fields.checkEntries [] keyed
  if let some error := error then throw error
  return record.ofRow (← record.fields.pick keyed 0)

def codec (record : Record α) : Codec α where
  write value := .map (record.write value)
  read
    | .map entries => record.readMap entries
    | .array items => record.ofRow <$> record.fields.readItems items
    | .bin bytes => record.ofRow <$> record.fields.readBytes bytes
    | _ => .error (.mismatch "a map of fields")

/--
Reads entries of which only those with field names count, such as those which
the fields of an enclosing structure left.
-/
def readNamed (record : Record α) (entries : List (FieldKey × Value)) : Except ReadError α :=
  record.ofRow <$> record.fields.readEntries (entries.filter fun entry =>
    match entry.1 with
    | .name _ => true
    | _ => false)

end Record

/--
A structure with a part whose entries stand among its own: `part` reads the
entries which are for none of the own fields.
-/
structure Flattened (π ρ : Type) where
  own : Fields ρ
  writePart : π → List (Value × Value)
  readPart : List (FieldKey × Value) → Except ReadError π

namespace Flattened

variable {π ρ : Type}

/-- The part is written before the own fields; reading takes maps only. -/
def codec (flattened : Flattened π ρ) : Codec (π × ρ) where
  write pair := .map (flattened.writePart pair.1 ++ flattened.own.write pair.2)
  read
    | .map entries => do
        let (keyed, error) := keyedEntries FieldKey.readName entries
        flattened.own.checkEntries [] keyed
        if let some error := error then throw error
        let row ← flattened.own.pick keyed 0
        let part ← flattened.readPart
          (keyed.filter fun entry => (flattened.own.find? entry.1).isNone)
        return (part, row)
    | _ => .error (.mismatch "a map of fields")

end Flattened

end TupleStore
