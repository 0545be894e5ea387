import TupleStore.Digest.Sha1
import TupleStore.Network.Fault
import TupleStore.Text.Base64
import TupleStore.Text.Cut
import TupleStore.Text.Utf8

/-!
# Greetings

A server greets a new connection with two lines of 64 bytes: its version and a
salt.  A client proves that it knows a password by a digest of both.
-/

namespace TupleStore.Network

structure Greeting where
  version : String
  salt : Bytes
  deriving DecidableEq, Repr

namespace Greeting

def size : Nat := 128

/-- The salt in the second line, which takes 44 characters at most. -/
def readSalt? (line : Bytes) : Option Bytes := do
  let text ← Bytes.text? (line.take 44)
  Text.ofBase64? (Text.trim text.toList)

def read (bytes : Bytes) : Except Fault Greeting :=
  if bytes.length < size then .error (.shortGreeting bytes.length)
  else
    let version := String.ofList (Text.trim (Text.decodeLossy (bytes.take 64)).toList)
    match readSalt? (bytes.drop 64) with
    | some salt => .ok ⟨version, salt⟩
    | none => .error .malformedSalt

end Greeting

/--
What proves the password for a salt: the digest of the password, combined with a
digest of the salt's first 20 bytes and the password's double digest.
-/
def scramble (salt : Bytes) (password : String) : Bytes :=
  let once := Digest.sha1 (Bytes.ofString password)
  let salted := Digest.sha1 (salt.take 20 ++ Digest.sha1 once)
  List.zipWith (· ^^^ ·) once salted

end TupleStore.Network
