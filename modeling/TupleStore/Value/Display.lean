import TupleStore.Value
import TupleStore.Floating.Shortest
import TupleStore.Text.Quoted

/-!
# The text of values

How values appear in messages: text quoted, byte strings and text which is not
valid UTF-8 as lists of bytes, floating point numbers by their shortest digits.
-/

namespace TupleStore

def Bytes.display (bytes : Bytes) : String :=
  "[" ++ ", ".intercalate (bytes.map fun byte => toString byte.toNat) ++ "]"

namespace Value

mutual

def display : Value → String
  | .nil => "nil"
  | .bool truth => if truth then "true" else "false"
  | .int number => toString number
  | .float32 bits => Floating.single.text bits.toNat
  | .float64 bits => Floating.double.text bits.toNat
  | .str bytes =>
      match bytes.text? with
      | some text => Text.quote text
      | none => bytes.display
  | .bin bytes => bytes.display
  | .array items => "[" ++ ", ".intercalate (displayItems items) ++ "]"
  | .map entries => "\x7b" ++ ", ".intercalate (displayEntries entries) ++ "\x7d"
  | .ext kind bytes => "[" ++ toString kind.toInt ++ ", " ++ bytes.display ++ "]"

def displayItems : List Value → List String
  | [] => []
  | item :: items => item.display :: displayItems items

def displayEntries : List (Value × Value) → List String
  | [] => []
  | (key, value) :: entries =>
      (key.display ++ ": " ++ value.display) :: displayEntries entries

end

end Value

end TupleStore
