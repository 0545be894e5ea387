import TupleStore.Value

/-!
# Reading MessagePack

A reader takes a value off the front of a byte string and leaves the rest.
Every form of every kind is accepted; a reader fails on a byte string that ends
early and on values nested deeper than a limit.  The marker which the format
leaves unassigned reads as nil, or is refused.
-/

namespace TupleStore.MessagePack

abbrev Reader := StateT Bytes Option

namespace Reader

def byte : Reader Nat := do
  match ← get with
  | [] => failure
  | first :: rest =>
      set rest
      return first.toNat

def take (count : Nat) : Reader Bytes := do
  let bytes ← get
  if bytes.length < count then failure
  else
    set (bytes.drop count)
    return bytes.take count

def number (width : Nat) : Reader Nat := return Bytes.toNat (← take width)

def signed (width : Nat) : Reader Int := do
  let number ← number width
  return if number < Nat.pow 2 (8 * width - 1) then number else number - Nat.pow 2 (8 * width)

def many {α : Type} (item : Reader α) : (count : Nat) → Reader (List α)
  | 0 => return []
  | count + 1 => return (← item) :: (← many item count)

def str (length : Nat) : Reader Value := return .str (← take length)

def bin (length : Nat) : Reader Value := return .bin (← take length)

def ext (length : Nat) : Reader Value := do
  let kind ← byte
  return .ext (UInt8.ofNat kind).toInt8 (← take length)

def array (value : Reader Value) (length : Nat) : Reader Value :=
  return .array (← many value length)

def map (value : Reader Value) (length : Nat) : Reader Value :=
  return .map (← many (do return (← value, ← value)) length)

/-- The value behind a marker whose lowest bits hold no number or length. -/
def marked (unassigned value : Reader Value) (marker : Nat) : Reader Value :=
  match marker with
  | 0xc1 => unassigned
  | 0xc2 => return .bool false
  | 0xc3 => return .bool true
  | 0xc4 => do bin (← number 1)
  | 0xc5 => do bin (← number 2)
  | 0xc6 => do bin (← number 4)
  | 0xc7 => do ext (← number 1)
  | 0xc8 => do ext (← number 2)
  | 0xc9 => do ext (← number 4)
  | 0xca => return .float32 (UInt32.ofNat (← number 4))
  | 0xcb => return .float64 (UInt64.ofNat (← number 8))
  | 0xcc => return .int (← number 1)
  | 0xcd => return .int (← number 2)
  | 0xce => return .int (← number 4)
  | 0xcf => return .int (← number 8)
  | 0xd0 => return .int (← signed 1)
  | 0xd1 => return .int (← signed 2)
  | 0xd2 => return .int (← signed 4)
  | 0xd3 => return .int (← signed 8)
  | 0xd4 => ext 1
  | 0xd5 => ext 2
  | 0xd6 => ext 4
  | 0xd7 => ext 8
  | 0xd8 => ext 16
  | 0xd9 => do str (← number 1)
  | 0xda => do str (← number 2)
  | 0xdb => do str (← number 4)
  | 0xdc => do array value (← number 2)
  | 0xdd => do array value (← number 4)
  | 0xde => do map value (← number 2)
  | 0xdf => do map value (← number 4)
  | _ => return .nil

end Reader

open Reader in
/-- A value of at most `levels` levels; a value without parts has one. -/
def value (unassigned : Reader Value) : (levels : Nat) → Reader Value
  | 0 => failure
  | levels + 1 => do
      let marker ← byte
      if marker < 0x80 then return .int marker
      else if marker < 0x90 then map (value unassigned levels) (marker - 0x80)
      else if marker < 0xa0 then array (value unassigned levels) (marker - 0x90)
      else if marker < 0xc0 then str (marker - 0xa0)
      else if 0xe0 ≤ marker then return .int (marker - 256)
      else marked unassigned (value unassigned levels) marker

def maxLevels : Nat := 1024

def decode? (bytes : Bytes) : Option (Value × Bytes) :=
  (value (return .nil) maxLevels).run bytes

/-- The value at the front of `bytes`, in which all markers are assigned. -/
def decodeStrict? (bytes : Bytes) : Option (Value × Bytes) :=
  (value failure maxLevels).run bytes

end TupleStore.MessagePack
