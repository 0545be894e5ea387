import TupleStore.Bytes

/-!
# Base64

Base64 with the standard alphabet.  Groups of four characters stand for three
bytes; the last group is filled up with `=`, and the bits it does not use are
zero, so every byte string has one form.
-/

namespace TupleStore.Text

def sextet? (c : Char) : Option Nat :=
  if 'A' ≤ c ∧ c ≤ 'Z' then some (c.toNat - 0x41)
  else if 'a' ≤ c ∧ c ≤ 'z' then some (c.toNat - 0x61 + 26)
  else if '0' ≤ c ∧ c ≤ '9' then some (c.toNat - 0x30 + 52)
  else if c = '+' then some 62
  else if c = '/' then some 63
  else none

/-- The last group, of two or three characters of the alphabet and padding. -/
def lastGroup? : List Char → Option Bytes
  | [a, b, '=', '='] => do
      let bits := (← sextet? a) * 64 + (← sextet? b)
      if bits % 16 = 0 then some (Bytes.bigEndian 1 (bits / 16)) else none
  | [a, b, c, '='] => do
      let bits := ((← sextet? a) * 64 + (← sextet? b)) * 64 + (← sextet? c)
      if bits % 4 = 0 then some (Bytes.bigEndian 2 (bits / 4)) else none
  | _ => none

def group? (a b c d : Char) : Option Bytes := do
  let bits := (((← sextet? a) * 64 + (← sextet? b)) * 64 + (← sextet? c)) * 64 + (← sextet? d)
  return Bytes.bigEndian 3 bits

def ofBase64? : List Char → Option Bytes
  | [] => some []
  | a :: b :: c :: d :: rest =>
      match group? a b c d with
      | some bytes => (ofBase64? rest).map (bytes ++ ·)
      | none => lastGroup? (a :: b :: c :: d :: rest)
  | _ => none

end TupleStore.Text
