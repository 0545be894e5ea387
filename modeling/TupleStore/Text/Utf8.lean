import TupleStore.Bytes

/-!
# Reading damaged UTF-8

`Text.decodeLossy` reads every byte string as text.  The longest beginning of a
character that does not become one is replaced by a replacement character, and
reading goes on at the byte which did not fit.
-/

namespace TupleStore.Text

structure PartialChar where
  /-- The bits read so far. -/
  bits : Nat
  /-- How many bytes are still missing. -/
  missing : Nat
  /-- The range of the next byte. -/
  lowest : Nat := 0x80
  highest : Nat := 0xbf

def replacement : Char := '\uFFFD'

def startChar (byte : Nat) : Except PartialChar Char :=
  if byte < 0x80 then .ok (Char.ofNat byte)
  else if byte < 0xc2 then .ok replacement
  else if byte < 0xe0 then .error ⟨byte - 0xc0, 1, 0x80, 0xbf⟩
  else if byte = 0xe0 then .error ⟨0, 2, 0xa0, 0xbf⟩
  else if byte = 0xed then .error ⟨0xd, 2, 0x80, 0x9f⟩
  else if byte < 0xf0 then .error ⟨byte - 0xe0, 2, 0x80, 0xbf⟩
  else if byte = 0xf0 then .error ⟨0, 3, 0x90, 0xbf⟩
  else if byte < 0xf4 then .error ⟨byte - 0xf0, 3, 0x80, 0xbf⟩
  else if byte = 0xf4 then .error ⟨4, 3, 0x80, 0x8f⟩
  else .ok replacement

def PartialChar.extend (char : PartialChar) (byte : Nat) : Except PartialChar Char :=
  let bits := char.bits * 64 + (byte - 0x80)
  if char.missing ≤ 1 then .ok (Char.ofNat bits)
  else .error { bits, missing := char.missing - 1 }

mutual

/-- Reads on after the bytes of a finished character or of a part of one. -/
def decodeAfter : Except PartialChar Char → Bytes → List Char
  | .ok c, bytes => c :: decodeNext bytes
  | .error _, [] => [replacement]
  | .error char, byte :: bytes =>
      if char.lowest ≤ byte.toNat ∧ byte.toNat ≤ char.highest then
        decodeAfter (char.extend byte.toNat) bytes
      else replacement :: decodeAfter (startChar byte.toNat) bytes
  termination_by _ bytes => (bytes.length, 1)

def decodeNext : Bytes → List Char
  | [] => []
  | byte :: bytes => decodeAfter (startChar byte.toNat) bytes
  termination_by bytes => (bytes.length, 0)

end

def decodeLossy (bytes : Bytes) : String := String.ofList (decodeNext bytes)

end TupleStore.Text
