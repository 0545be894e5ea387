import Std.Async.DNS
import Std.Async.TCP
import Std.Async.Timer
import Std.Time.DateTime.Timestamp
import TupleStore.Network.Transport
import TupleStore.Text.Cut

/-!
# The network of the machine

A transport over TCP.  A link is the number of a stream, which keeps the bytes
that were received but not asked for yet.
-/

namespace TupleStore.Network.Tcp

open Std.Async (Async)
open Std.Net (IPAddr SocketAddress)

structure Stream where
  socket : Std.Async.TCP.Socket.Client
  received : ByteArray := .empty

abbrev Streams := IO.Ref (Array Stream)

def now : IO Nat := do
  return (← Std.Time.Timestamp.now).toMillisecondsSinceUnixEpoch.val.toNat

def earliest? (deadlines : List Deadline) : Option Deadline :=
  deadlines.foldl (fun first deadline => match first with
    | none => some deadline
    | some first => if deadline.moment < first.moment then some deadline else some first) none

def waitUntil {α : Type} (deadlines : List Deadline) (action : Async α) :
    IO (Except Interruption α) := do
  let finished : Async (Option α) := some <$> action
  try
    match earliest? deadlines with
    | none => return .ok (← action.block)
    | some deadline => do
        let left := deadline.moment - (← now)
        let expired : Async (Option α) := do
          Std.Async.sleep ⟨left⟩
          return none
        match ← (Async.race finished expired).block with
        | some result => return .ok result
        | none => return .error (.expired deadline)
  catch error => return .error (.lost (toString error))

def socketAddress (port : UInt16) : IPAddr → SocketAddress
  | .v4 address => .v4 ⟨address, port⟩
  | .v6 address => .v6 ⟨address, port⟩

/-- The host and the port of an address; brackets around the host are left out. -/
def splitAddress? (address : String) : Option (String × UInt16) := do
  let (host, port) ← Text.splitLast? ':' address.toList
  let port ← Text.unsigned? 0x10000 port
  let host := host.filter fun c => c != '[' && c != ']'
  return (String.ofList host, UInt16.ofNat port)

def connectFirst (port : UInt16) : List IPAddr → Async Std.Async.TCP.Socket.Client
  | [] => throw (IO.userError "no address can be reached")
  | address :: addresses => do
      let socket ← Std.Async.TCP.Socket.Client.mk
      try
        socket.connect (socketAddress port address)
        return socket
      catch error =>
        if addresses.isEmpty then throw error else connectFirst port addresses

def connect (streams : Streams) (address : String) (deadlines : List Deadline) :
    IO (Except Interruption Link) := do
  match splitAddress? address with
  | none => return .error (.lost ("malformed address " ++ address))
  | some (host, port) => do
      let connected : Async Std.Async.TCP.Socket.Client := do
        let addresses ← Std.Async.DNS.getAddrInfo host (toString port.toNat)
        connectFirst port addresses.toList
      match ← waitUntil deadlines connected with
      | .error interruption => return .error interruption
      | .ok socket => do
          let link := (← streams.get).size
          streams.modify fun all => all.push { socket }
          return .ok link

def withStream {α : Type} (streams : Streams) (link : Link)
    (use : Stream → IO (Except Interruption α)) : IO (Except Interruption α) := do
  match (← streams.get)[link]? with
  | none => return .error (.lost "not connected")
  | some stream => use stream

def send (streams : Streams) (link : Link) (bytes : Bytes) (deadlines : List Deadline) :
    IO (Except Interruption Unit) :=
  withStream streams link fun stream =>
    waitUntil deadlines (stream.socket.send ⟨bytes.toArray⟩)

partial def fill (stream : Stream) (count : Nat) (deadlines : List Deadline) :
    IO (Except Interruption Stream) := do
  if count ≤ stream.received.size then return .ok stream
  match ← waitUntil deadlines (stream.socket.recv? 65536) with
  | .error interruption => return .error interruption
  | .ok none => return .error (.lost "closed by the server")
  | .ok (some bytes) =>
      fill { stream with received := stream.received ++ bytes } count deadlines

def receive (streams : Streams) (link : Link) (count : Nat) (deadlines : List Deadline) :
    IO (Except Interruption Bytes) :=
  withStream streams link fun stream => do
    match ← fill stream count deadlines with
    | .error interruption => return .error interruption
    | .ok stream => do
        let bytes := stream.received
        let rest := { stream with received := bytes.extract count bytes.size }
        streams.modify fun all => all.setIfInBounds link rest
        return .ok (bytes.extract 0 count).data.toList

def close (streams : Streams) (link : Link) : IO Unit := do
  let _ ← withStream streams link fun stream => waitUntil [] stream.socket.shutdown

def transport (streams : Streams) : Transport IO where
  now := now
  connect := connect streams
  send := send streams
  receive := receive streams
  close := close streams

end TupleStore.Network.Tcp
