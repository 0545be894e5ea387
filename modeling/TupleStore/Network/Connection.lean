import TupleStore.Network.Greeting
import TupleStore.Network.Operation
import TupleStore.Network.Packet

/-!
# Connections

A connection carries one request at a time.  It is opened by reading the
greeting and, for every user but the guest, proving the password.  Every request
has a number, and its response must carry the same number.
-/

namespace TupleStore.Network

structure Config where
  /-- The addresses of the servers, `host:port`. -/
  nodes : List String := ["localhost:3301"]
  user : String := "guest"
  password : String := ""
  /-- The number of connections to each server. -/
  connections : Nat := 1
  /-- Limits in milliseconds. -/
  connectTimeout : Option Nat := none
  readTimeout : Option Nat := none
  requestTimeout : Option Nat := none
  deriving DecidableEq, Repr

namespace Connection

def readResponse (config : Config) (link : Link) (deadlines : List Deadline) :
    Action Response := do
  let deadlines ← Action.withLimit .read config.readTimeout deadlines
  let length ← Program.ofExcept (decodeLength (← Action.receive link lengthSize deadlines))
  let payload ← Action.receive link length deadlines
  Program.ofExcept (Response.decode payload)

def exchange (config : Config) (link : Link) (sync : UInt64) (code : UInt8) (body : Body) :
    Action (List Value) := do
  let packet ← Program.ofExcept (encodeRequest code sync body)
  let deadlines ← Action.withLimit .request config.requestTimeout []
  Action.send link packet deadlines
  let response ← readResponse config link deadlines
  if response.sync ≠ sync.toNat then throw (.mismatch response.sync sync.toNat)
  Program.ofExcept response.result

def request (config : Config) (connection : Connection) (code : UInt8) (body : Body) :
    Action (Except Fault (List Value) × Connection) := do
  let sync := connection.sync + 1
  let result ← (exchange config connection.link sync code body).attempt
  return (result, { connection with sync })

/-! ## Opening -/

/-- A fault of authentication, unless the connection itself failed. -/
def refusal (fault : Fault) : Fault :=
  if fault.isFatal then fault else .authentication fault

def authenticate (config : Config) (connection : Connection) (salt : Bytes) :
    Action Connection := do
  let proof := .array [.text "chap-sha1", .bin (scramble salt config.password)]
  let (result, connection) ← connection.request config RequestCode.authenticate
    [(PacketKey.userName, .text config.user), (PacketKey.tuple, proof)]
  match result with
  | .ok _ => return connection
  | .error fault => throw (refusal fault)

def greet (config : Config) (link : Link) : Action Connection := do
  let deadlines ← Action.withLimit .greeting config.readTimeout []
  let greeting ← Program.ofExcept
    (Greeting.read (← Action.receive link Greeting.size deadlines))
  if config.user = "guest" then return { link }
  else authenticate config { link } greeting.salt

def «open» (config : Config) (address : String) : Action Connection := do
  let deadlines ← Action.withLimit .connect config.connectTimeout []
  let link ← Action.connect address deadlines
  match ← (greet config link).attempt with
  | .ok connection => return connection
  | .error fault => do
      Action.close link
      throw fault

end Connection

end TupleStore.Network
