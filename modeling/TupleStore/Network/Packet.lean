import TupleStore.MessagePack.Reader
import TupleStore.MessagePack.Writer
import TupleStore.Network.Fault

/-!
# Packets

A packet is the length of its payload, in a form of five bytes, and the payload:
a header map and a body map.  The keys of both are small numbers.
-/

namespace TupleStore.Network

def lengthSize : Nat := 5

def maxPayload : Nat := 256 * 1024 * 1024

namespace RequestCode

def select : UInt8 := 1
def insert : UInt8 := 2
def replace : UInt8 := 3
def update : UInt8 := 4
def delete : UInt8 := 5
def authenticate : UInt8 := 7
def eval : UInt8 := 8
def upsert : UInt8 := 9
def call : UInt8 := 10
def ping : UInt8 := 64

end RequestCode

namespace PacketKey

def code : UInt8 := 0x00
def sync : UInt8 := 0x01
def spaceId : UInt8 := 0x10
def indexId : UInt8 := 0x11
def limit : UInt8 := 0x12
def offset : UInt8 := 0x13
def iterator : UInt8 := 0x14
def key : UInt8 := 0x20
def tuple : UInt8 := 0x21
def functionName : UInt8 := 0x22
def userName : UInt8 := 0x23
def expression : UInt8 := 0x27
def operations : UInt8 := 0x28
def data : UInt8 := 0x30
def message : UInt8 := 0x31
def errors : UInt8 := 0x52

end PacketKey

abbrev Body := List (UInt8 × Value)

def bodyMap (body : Body) : Value :=
  .map (body.map fun (key, value) => (.nat key.toNat, value))

def entryAt? (value : Value) (key : UInt8) : Option Value :=
  match value with
  | .map entries =>
      (entries.find? fun entry => entry.1.unsigned? == some key.toNat).map Prod.snd
  | _ => none

def payload (code : UInt8) (sync : UInt64) (body : Body) : Bytes :=
  MessagePack.encode
      (bodyMap [(PacketKey.code, .nat code.toNat), (PacketKey.sync, .nat sync.toNat)]) ++
    MessagePack.encode (bodyMap body)

def encodeRequest (code : UInt8) (sync : UInt64) (body : Body) : Except Fault Bytes :=
  let payload := payload code sync body
  if payload.length < 0x100000000 then .ok (0xce :: Bytes.bigEndian 4 payload.length ++ payload)
  else .error .requestTooLarge

def decodeLength (bytes : Bytes) : Except Fault Nat :=
  match (MessagePack.decode? bytes).bind fun (value, _) => value.unsigned? with
  | none => .error .malformedLength
  | some length => if length ≤ maxPayload then .ok length else .error (.tooLong length maxPayload)

/-! ## Responses -/

structure Response where
  code : Nat
  sync : Nat
  body : Value
  deriving DecidableEq, Repr

namespace Response

/-- Reads a payload; a missing body is an empty map. -/
def decode (payload : Bytes) : Except Fault Response := do
  let some (header, rest) := MessagePack.decode? payload | throw .malformedResponse
  let body ←
    if rest.isEmpty then pure (Value.map [])
    else
      match MessagePack.decode? rest with
      | some (body, _) => pure body
      | none => throw .malformedResponse
  match (entryAt? header PacketKey.code).bind Value.unsigned?,
      (entryAt? header PacketKey.sync).bind Value.unsigned? with
  | some code, some sync => return ⟨code, sync, body⟩
  | _, _ => throw (.malformedHeader header)

def errorBit : Nat := 15

/-- The message of the first error of the stack, or else the plain message. -/
def errorMessage (body : Value) : String :=
  let first := (entryAt? body PacketKey.errors).bind fun errors =>
    match entryAt? errors 0x00 with
    | some (.array (first :: _)) => (entryAt? first 0x03).bind Value.text?
    | _ => none
  (first.or ((entryAt? body PacketKey.message).bind Value.text?)).getD "unknown error"

def result (response : Response) : Except Fault (List Value) :=
  if response.code.testBit errorBit then
    .error (.server (response.code - Nat.pow 2 errorBit) (errorMessage response.body))
  else
    match entryAt? response.body PacketKey.data with
    | some (.array values) => .ok values
    | some data => .error (.unexpectedData data)
    | none => .ok []

end Response

end TupleStore.Network
