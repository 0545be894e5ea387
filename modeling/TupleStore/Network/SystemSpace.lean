import TupleStore.Network.Fault

/-!
# System spaces

The server describes its spaces in tuples of the system space `spaces` and their
indexes in tuples of `indexes`.  `joinSchema` puts both together.
-/

namespace TupleStore.Network

namespace SystemSpace

def spaces : UInt32 := 281

def indexes : UInt32 := 289

end SystemSpace

def readField (field : Value) : Except Fault Field :=
  match (field.get? "name").bind Value.text? with
  | none => .error (.malformedField field)
  | some name =>
      .ok ⟨name, ((field.get? "type").bind Value.text?).getD "any",
        ((field.get? "is_nullable").bind Value.truth?).getD false⟩

/--
A space without its indexes; a format which is not an array is empty.  Of the number the
lowest 32 bits count, here and in the rows of indexes.
-/
def readSpace (tuple : Tuple) : Except Fault Space := do
  let some id := (fieldAt tuple 0).unsigned? | throw (.malformedSpace tuple)
  let some name := (fieldAt tuple 2).text? | throw (.malformedSpace tuple)
  let format ← match fieldAt tuple 6 with
    | .array fields => fields.mapM readField
    | _ => pure []
  return { id := .ofNat id, name, format }

/-- The position of a part, given as the first item of an array or by name. -/
def readPart? : Value → Option Nat
  | .array items => items.head?.bind Value.unsigned?
  | part => (part.get? "field").bind Value.unsigned?

/-- An index and the number of its space; it is unique unless its options say otherwise. -/
def readIndex (tuple : Tuple) : Except Fault (UInt32 × Index) := do
  let some space := (fieldAt tuple 0).unsigned? | throw (.malformedIndex tuple)
  let some id := (fieldAt tuple 1).unsigned? | throw (.malformedIndex tuple)
  let some name := (fieldAt tuple 2).text? | throw (.malformedIndex tuple)
  let unique := (((fieldAt tuple 4).get? "unique").bind Value.truth?).getD true
  let .array parts := fieldAt tuple 5 | throw (.malformedIndex tuple)
  let some parts := parts.mapM readPart? | throw (.malformedIndex tuple)
  return (.ofNat space, ⟨.ofNat id, name, unique, parts⟩)

/-! ## The schema -/

/-- The list with the item in place of one with the same key, or at the end. -/
def putBy {α κ : Type} [BEq κ] (key : α → κ) (items : List α) (item : α) : List α :=
  if items.any fun other => key other == key item then
    items.map fun other => if key other == key item then item else other
  else items ++ [item]

def attachIndexes (indexes : List (UInt32 × Index)) (space : Space) : Space :=
  let own := indexes.filterMap fun (id, index) => if id = space.id then some index else none
  { space with indexes := own.mergeSort fun l r => l.id ≤ r.id }

/--
The spaces by name.  Of spaces with the same number or name the last one counts;
indexes of other spaces are dropped.
-/
def joinSchema (spaces : List Space) (indexes : List (UInt32 × Index)) : List Space :=
  let byId := spaces.foldl (putBy Space.id) []
  (byId.map (attachIndexes indexes)).foldl (putBy Space.name) []

end TupleStore.Network
