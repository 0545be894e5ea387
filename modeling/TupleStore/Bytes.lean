/-!
# Byte strings

Byte strings are lists of bytes.  Text is stored as its UTF-8 bytes, so that
equality and order of stored text are equality and order of bytes, also for
bytes which are not valid UTF-8.
-/

namespace TupleStore

abbrev Bytes := List UInt8

namespace Bytes

def ofString (text : String) : Bytes := text.toByteArray.data.toList

def text? (bytes : Bytes) : Option String :=
  String.fromUTF8? ⟨bytes.toArray⟩

theorem text?_ofString (text : String) : (ofString text).text? = some text := by
  simp only [ofString, text?, String.fromUTF8?, Array.toArray_toList]
  exact dif_pos text.isValidUTF8

/-- The order of byte strings: byte by byte, a proper initial part first. -/
def compare : Bytes → Bytes → Ordering
  | [], [] => .eq
  | [], _ :: _ => .lt
  | _ :: _, [] => .gt
  | l :: ls, r :: rs => (Ord.compare l r).then (compare ls rs)

/-! ## Numbers -/

/-- The lowest `width` bytes of `number`, most significant first. -/
def bigEndian : (width : Nat) → (number : Nat) → Bytes
  | 0, _ => []
  | width + 1, number =>
      UInt8.ofNat (number / Nat.pow 256 width) :: bigEndian width number

def toNat (bytes : Bytes) : Nat :=
  bytes.foldl (fun number byte => number * 256 + byte.toNat) 0

/-! ## Hexadecimal text -/

def hexDigit (n : Nat) : Char :=
  Char.ofNat (if n < 10 then 0x30 + n else 0x57 + n)

def toHex (bytes : Bytes) : String :=
  String.ofList (bytes.flatMap fun byte =>
    [hexDigit (byte.toNat / 16), hexDigit (byte.toNat % 16)])

def hexValue? (c : Char) : Option Nat :=
  if '0' ≤ c ∧ c ≤ '9' then some (c.toNat - 0x30)
  else if 'a' ≤ c ∧ c ≤ 'f' then some (c.toNat - 0x57)
  else if 'A' ≤ c ∧ c ≤ 'F' then some (c.toNat - 0x37)
  else none

def ofHexDigits? : List Char → Option Bytes
  | [] => some []
  | [_] => none
  | high :: low :: rest => do
      let high ← hexValue? high
      let low ← hexValue? low
      let rest ← ofHexDigits? rest
      return UInt8.ofNat (high * 16 + low) :: rest

def ofHex? (text : String) : Option Bytes := ofHexDigits? text.toList

end Bytes

end TupleStore
