import TupleStore.Floating.Format
import TupleStore.Named
import TupleStore.Value

/-!
# JSON values

JSON values keep the entries of an object in the order of the text, with
repetitions.  As a stored value, and from a stored value, an object has its
entries sorted by name, and of entries with one name the last counts.
-/

namespace TupleStore

inductive Json where
  | null
  | bool (truth : Bool)
  | int (number : Int)
  /-- A number which is not an integer, as the bits of a double. -/
  | float (bits : UInt64)
  | str (text : String)
  | array (items : List Json)
  | object (entries : List (String × Json))
  deriving Inhabited, Repr

namespace Json

open Floating (single double)

/-- The value of the last entry with this name, in a value which is an object. -/
def get? (json : Json) (name : String) : Option Json :=
  match json with
  | .object entries => (entries.reverse.find? fun entry => entry.1 == name).map Prod.snd
  | _ => none

def given? (json : Json) (name : String) : Option Json :=
  match json.get? name with
  | some .null => none
  | found => found

/-! ## Stored values -/

mutual

def toValue : Json → Value
  | .null => .nil
  | .bool truth => .bool truth
  | .int number => .int number
  | .float bits => .float64 bits
  | .str text => .text text
  | .array items => .array (toValues items)
  | .object entries =>
      .map ((Named.ofList (toNamed entries)).map fun (name, value) => (.text name, value))

def toValues : List Json → List Value
  | [] => []
  | item :: items => item.toValue :: toValues items

def toNamed : List (String × Json) → List (String × Value)
  | [] => []
  | (name, item) :: entries => (name, item.toValue) :: toNamed entries

end

def firstName? : Value → Option String := Value.text?

/-- The name in a later key of a map: a string, or a byte string which holds text. -/
def laterName? : Value → Option String
  | .bin bytes => bytes.text?
  | key => key.text?

mutual

/--
The value as JSON, if it has no byte strings, extensions, invalid text or keys
without a name.  Numbers which are not finite become null when they are written.
-/
def ofValue? : Value → Option Json
  | .nil => some .null
  | .bool truth => some (.bool truth)
  | .int number => some (.int number)
  | .float32 bits =>
      some (.float (UInt64.ofNat (double.convert (single.decode bits.toNat))))
  | .float64 bits => some (.float bits)
  | .str bytes => bytes.text?.map .str
  | .array items => (ofValues? items).map .array
  | .map entries =>
      (ofEntries? firstName? entries).map fun entries => .object (Named.ofList entries)
  | .bin _ | .ext .. => none

def ofValues? : List Value → Option (List Json)
  | [] => some []
  | item :: items => do return (← ofValue? item) :: (← ofValues? items)

def ofEntries? (name? : Value → Option String) :
    List (Value × Value) → Option (List (String × Json))
  | [] => some []
  | (key, value) :: entries => do
      let name ← name? key
      let item ← ofValue? value
      return (name, item) :: (← ofEntries? laterName? entries)

end

end Json

end TupleStore
