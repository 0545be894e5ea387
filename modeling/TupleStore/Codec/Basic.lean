import TupleStore.Value.Display
import TupleStore.MessagePack.Reader

/-!
# Codecs

A codec writes the values of a type as stored values and reads them back.  This
module has the codecs of the basic types; records are in `TupleStore.Codec.Record`.
-/

namespace TupleStore

inductive ReadError where
  | mismatch (expected : String)
  | missingField (name : String)
  | duplicateField (name : String)
  | timestampRange (millis : Int)
  | notTimeOfDay (nanos : Nat)
  | invalidDuration (text : String)
  | durationOverflow (text : String)
  deriving DecidableEq, Repr

def ReadError.message : ReadError → String
  | .mismatch expected => "expected " ++ expected
  | .missingField name => "missing field `" ++ name ++ "`"
  | .duplicateField name => "duplicate field `" ++ name ++ "`"
  | .timestampRange millis => "timestamp " ++ toString millis ++ " is out of range"
  | .notTimeOfDay nanos => toString nanos ++ "ns is not a time of day"
  | .invalidDuration text => "invalid duration " ++ text
  | .durationOverflow text => "overflow in duration " ++ text

structure Codec (α : Type) where
  write : α → Value
  read : Value → Except ReadError α
  /-- Reads a byte of a byte string which stands for a sequence. -/
  readByte : UInt8 → Except ReadError α := fun byte => read (.int byte.toNat)
  /-- What a missing field of this type reads as. -/
  missing : Option α := none
  /-- What a field reads as for which an array has no item left. -/
  beyond : Option α := none

namespace Value

mutual

/-- The number of levels of a value; a value without parts has one. -/
def levels : Value → Nat
  | .array items => levelsOfItems items + 1
  | .map entries => levelsOfEntries entries + 1
  | _ => 1

def levelsOfItems : List Value → Nat
  | [] => 0
  | item :: items => max item.levels (levelsOfItems items)

def levelsOfEntries : List (Value × Value) → Nat
  | [] => 0
  | (key, value) :: entries => max (max key.levels value.levels) (levelsOfEntries entries)

end

mutual

/-- The number of arrays and maps around the innermost value. -/
def nesting : Value → Nat
  | .array items => nestingOfItems items + 1
  | .map entries => nestingOfEntries entries + 1
  | _ => 0

def nestingOfItems : List Value → Nat
  | [] => 0
  | item :: items => max item.nesting (nestingOfItems items)

def nestingOfEntries : List (Value × Value) → Nat
  | [] => 0
  | (key, value) :: entries => max (max key.nesting value.nesting) (nestingOfEntries entries)

end

mutual

/-- The value with strings which are not valid text as byte strings. -/
def clean : Value → Value
  | .str bytes => if bytes.text?.isSome then .str bytes else .bin bytes
  | .array items => .array (cleanItems items)
  | .map entries => .map (cleanEntries entries)
  | value => value

def cleanItems : List Value → List Value
  | [] => []
  | item :: items => item.clean :: cleanItems items

def cleanEntries : List (Value × Value) → List (Value × Value)
  | [] => []
  | (key, value) :: entries => (key.clean, value.clean) :: cleanEntries entries

end

end Value

namespace Codec

variable {α β : Type}

def load (codec : Codec α) (value : Value) : Except ReadError α :=
  if value.nesting < MessagePack.maxLevels then codec.read value
  else .error (.mismatch "less nesting")

def store (codec : Codec α) (value : α) : Except ReadError Value :=
  let written := codec.write value
  if written.levels ≤ MessagePack.maxLevels then .ok written
  else .error (.mismatch "less nesting")

/-! ## Numbers -/

/-- The integers from `least` below `bound`. -/
def integer (least bound : Int) (ofInt : Int → α) (toInt : α → Int) : Codec α where
  write number := .int (toInt number)
  read
    | .int number =>
        if least ≤ number ∧ number < bound then .ok (ofInt number)
        else .error (.mismatch "an integer in range")
    | _ => .error (.mismatch "an integer")

def uint8 : Codec UInt8 :=
  integer 0 0x100 (fun n => UInt8.ofNat n.toNat) (fun n => n.toNat)

def uint32 : Codec UInt32 :=
  integer 0 0x100000000 (fun n => UInt32.ofNat n.toNat) (fun n => n.toNat)

def uint64 : Codec UInt64 :=
  integer 0 0x10000000000000000 (fun n => UInt64.ofNat n.toNat) (fun n => n.toNat)

def int64 : Codec Int64 := integer (-0x8000000000000000) 0x8000000000000000 Int64.ofInt Int64.toInt

end Codec

structure Single where
  bits : UInt32
  deriving DecidableEq, Repr

structure Double where
  bits : UInt64
  deriving DecidableEq, Repr

namespace Codec

variable {α β : Type}

def single : Codec Single where
  write number := .float32 number.bits
  read
    | .int number => .ok ⟨UInt32.ofNat (Floating.single.ofInt number)⟩
    | .float32 bits => .ok ⟨bits⟩
    | .float64 bits =>
        .ok ⟨UInt32.ofNat (Floating.single.convert (Floating.double.decode bits.toNat))⟩
    | _ => .error (.mismatch "a number")

def double : Codec Double where
  write number := .float64 number.bits
  read
    | .int number => .ok ⟨UInt64.ofNat (Floating.double.ofInt number)⟩
    | .float32 bits =>
        .ok ⟨UInt64.ofNat (Floating.double.convert (Floating.single.decode bits.toNat))⟩
    | .float64 bits => .ok ⟨bits⟩
    | _ => .error (.mismatch "a number")

/-! ## Other scalars -/

def bool : Codec Bool where
  write := .bool
  read
    | .bool truth => .ok truth
    | _ => .error (.mismatch "a boolean")

/-- Text, also from a byte string. -/
def text : Codec String where
  write := .text
  read
    | .str bytes | .bin bytes =>
        match bytes.text? with
        | some text => .ok text
        | none => .error (.mismatch "valid UTF-8")
    | _ => .error (.mismatch "a string")

def value : Codec Value where
  write := Value.clean
  read value := .ok value.clean

/-! ## Composites -/

/-- Nil is no value; no byte of a byte string reads as an optional value. -/
def option (codec : Codec α) : Codec (Option α) where
  write
    | none => .nil
    | some value => codec.write value
  read
    | .nil => .ok none
    | value => some <$> codec.read value
  readByte _ := .error (.mismatch "an optional value")
  missing := some none

/-- The codec of a field which has a value when none is given, also in a short array. -/
def withDefault (codec : Codec α) (value : α) : Codec α :=
  { codec with missing := some value, beyond := some value }

/-- An array, or a byte string as the array of its bytes. -/
def list (codec : Codec α) : Codec (List α) where
  write items := .array (items.map codec.write)
  read
    | .array items => items.mapM codec.read
    | .bin bytes => bytes.mapM codec.readByte
    | _ => .error (.mismatch "an array")

def pair (left : Codec α) (right : Codec β) : Codec (α × β) where
  write pair := .array [left.write pair.1, right.write pair.2]
  read
    | .array [first, second] => do return (← left.read first, ← right.read second)
    | _ => .error (.mismatch "an array of two")

end Codec

end TupleStore
