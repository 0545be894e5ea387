import TupleStore.Value

/-!
# Writing MessagePack

`encode` writes every value in the shortest form of its kind.  Integers which
are not negative take the unsigned forms, negative ones the signed forms; a
string which is not valid text takes the forms of byte strings.
-/

namespace TupleStore.MessagePack

/-- A marker byte and the lowest `width` bytes of a number. -/
def marked (marker : UInt8) (width number : Nat) : Bytes :=
  marker :: Bytes.bigEndian width number

def encodeNat (number : Nat) : Bytes :=
  if number < 0x80 then [UInt8.ofNat number]
  else if number < 0x100 then marked 0xcc 1 number
  else if number < 0x10000 then marked 0xcd 2 number
  else if number < 0x100000000 then marked 0xce 4 number
  else marked 0xcf 8 number

/-- The negative number `-1 - below`, in two's complement. -/
def encodeNegative (below : Nat) : Bytes :=
  if below < 0x20 then [UInt8.ofNat (0xff - below)]
  else if below < 0x80 then marked 0xd0 1 (0xff - below)
  else if below < 0x8000 then marked 0xd1 2 (0xffff - below)
  else if below < 0x80000000 then marked 0xd2 4 (0xffffffff - below)
  else marked 0xd3 8 (0xffffffffffffffff - below)

def encodeInt : Int → Bytes
  | .ofNat number => encodeNat number
  | .negSucc below => encodeNegative below

def strHeader (length : Nat) : Bytes :=
  if length < 0x20 then [UInt8.ofNat (0xa0 + length)]
  else if length < 0x100 then marked 0xd9 1 length
  else if length < 0x10000 then marked 0xda 2 length
  else marked 0xdb 4 length

def binHeader (length : Nat) : Bytes :=
  if length < 0x100 then marked 0xc4 1 length
  else if length < 0x10000 then marked 0xc5 2 length
  else marked 0xc6 4 length

def arrayHeader (length : Nat) : Bytes :=
  if length < 0x10 then [UInt8.ofNat (0x90 + length)]
  else if length < 0x10000 then marked 0xdc 2 length
  else marked 0xdd 4 length

def mapHeader (length : Nat) : Bytes :=
  if length < 0x10 then [UInt8.ofNat (0x80 + length)]
  else if length < 0x10000 then marked 0xde 2 length
  else marked 0xdf 4 length

/-- The marker of an extension and, unless the marker tells it, the length. -/
def extHeader (length : Nat) : Bytes :=
  if length = 1 then [0xd4]
  else if length = 2 then [0xd5]
  else if length = 4 then [0xd6]
  else if length = 8 then [0xd7]
  else if length = 16 then [0xd8]
  else if length < 0x100 then marked 0xc7 1 length
  else if length < 0x10000 then marked 0xc8 2 length
  else marked 0xc9 4 length

mutual

def encode : Value → Bytes
  | .nil => [0xc0]
  | .bool truth => [if truth then 0xc3 else 0xc2]
  | .int number => encodeInt number
  | .float32 bits => marked 0xca 4 bits.toNat
  | .float64 bits => marked 0xcb 8 bits.toNat
  | .str bytes =>
      if bytes.text?.isSome then strHeader bytes.length ++ bytes
      else binHeader bytes.length ++ bytes
  | .bin bytes => binHeader bytes.length ++ bytes
  | .array items => arrayHeader items.length ++ encodeItems items
  | .map entries => mapHeader entries.length ++ encodeEntries entries
  | .ext kind bytes => extHeader bytes.length ++ kind.toUInt8 :: bytes

def encodeItems : List Value → Bytes
  | [] => []
  | item :: items => encode item ++ encodeItems items

def encodeEntries : List (Value × Value) → Bytes
  | [] => []
  | (key, value) :: entries => encode key ++ encode value ++ encodeEntries entries

end

end TupleStore.MessagePack
