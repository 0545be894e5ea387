import TupleStore.Network.Fault
import TupleStore.Program

/-!
# Operations of the network client

The network client is written as programs of operations: on links to servers, on
the pool of connections, and on the schema.  A transport answers the operations
on links; the state of the pool answers the others.
-/

namespace TupleStore.Network

structure Deadline where
  wait : Wait
  milliseconds : Nat
  moment : Nat
  deriving DecidableEq, Repr

abbrev Link := Nat

inductive Interruption where
  | lost (reason : String)
  | expired (deadline : Deadline)
  deriving DecidableEq, Repr

def Interruption.toFault : Interruption → Fault
  | .lost reason => .lost reason
  | .expired deadline => .timedOut deadline.wait deadline.milliseconds

structure Connection where
  link : Link
  sync : UInt64 := 0
  deriving DecidableEq, Repr

inductive Op where
  /-- The time in milliseconds. -/
  | now
  | connect (address : String) (deadlines : List Deadline)
  | send (link : Link) (bytes : Bytes) (deadlines : List Deadline)
  /-- Waits for exactly `count` bytes. -/
  | receive (link : Link) (count : Nat) (deadlines : List Deadline)
  | close (link : Link)
  /-- The number of requests to the pool so far, which is increased by one. -/
  | turn
  /-- Waits until no other caller uses the slot, and takes its connection. -/
  | acquire (slot : Nat)
  /-- Leaves a connection in the slot for other callers. -/
  | release (slot : Nat) (connection : Option Connection)
  | schema
  | setSchema (spaces : List Space)

abbrev Op.Reply : Op → Type
  | .now => Nat
  | .turn => UInt64
  | .connect .. => Except Interruption Link
  | .send .. => Except Interruption Unit
  | .receive .. => Except Interruption Bytes
  | .acquire _ => Option Connection
  | .schema => List Space
  | .close _ | .release .. | .setSchema _ => Unit

abbrev Action (α : Type) := Program Op Op.Reply Fault α

namespace Action

variable {α : Type}

def now : Action Nat := Program.perform Op.now

def ofReply (reply : Except Interruption α) : Action α :=
  .done (reply.mapError Interruption.toFault)

def connect (address : String) (deadlines : List Deadline) : Action Link :=
  .step (.connect address deadlines) ofReply

def send (link : Link) (bytes : Bytes) (deadlines : List Deadline) : Action Unit :=
  .step (.send link bytes deadlines) ofReply

def receive (link : Link) (count : Nat) (deadlines : List Deadline) : Action Bytes :=
  .step (.receive link count deadlines) ofReply

def close (link : Link) : Action Unit := Program.perform (Op.close link)

def turn : Action UInt64 := Program.perform Op.turn

def acquire (slot : Nat) : Action (Option Connection) := Program.perform (Op.acquire slot)

def release (slot : Nat) (connection : Option Connection) : Action Unit :=
  Program.perform (Op.release slot connection)

def schema : Action (List Space) := Program.perform Op.schema

def setSchema (spaces : List Space) : Action Unit := Program.perform (Op.setSchema spaces)

def withLimit (wait : Wait) (limit : Option Nat) (deadlines : List Deadline) :
    Action (List Deadline) :=
  match limit with
  | none => return deadlines
  | some milliseconds => do
      return deadlines ++ [⟨wait, milliseconds, (← now) + milliseconds⟩]

end Action

end TupleStore.Network
