import TupleStore.Network.Pool

/-!
# Transports

A transport carries bytes to servers and back, in a monad.  Over a transport the
network client runs alone, one request after another.
-/

namespace TupleStore.Network

structure Transport (m : Type → Type) where
  now : m Nat
  connect : (address : String) → List Deadline → m (Except Interruption Link)
  send : Link → Bytes → List Deadline → m (Except Interruption Unit)
  receive : Link → (count : Nat) → List Deadline → m (Except Interruption Bytes)
  close : Link → m Unit

variable {m : Type → Type} [Monad m] {α τ : Type}

/-- The transport of a machine without a network: nothing can be reached. -/
def Transport.none : Transport m where
  now := return 0
  connect address _ := return .error (.lost ("cannot reach " ++ address))
  send _ _ _ := return .error (.lost "not connected")
  receive _ _ _ := return .error (.lost "not connected")
  close _ := return ()

structure PoolState where
  turn : UInt64 := 0
  slots : List (Option Connection) := []
  schema : List Space := []
  deriving DecidableEq, Repr

def PoolState.closed (config : Config) : PoolState :=
  { slots := config.slots.map fun _ => none }

def handle (transport : Transport m) : (op : Op) → PoolState → m (op.Reply × PoolState)
  | .now, pool => return (← transport.now, pool)
  | .connect address deadlines, pool => return (← transport.connect address deadlines, pool)
  | .send link bytes deadlines, pool => return (← transport.send link bytes deadlines, pool)
  | .receive link count deadlines, pool =>
      return (← transport.receive link count deadlines, pool)
  | .close link, pool => return (← transport.close link, pool)
  | .turn, pool => return (pool.turn, { pool with turn := pool.turn + 1 })
  | .acquire slot, pool =>
      return (pool.slots.getD slot none, { pool with slots := pool.slots.set slot none })
  | .release slot connection, pool =>
      return ((), { pool with slots := pool.slots.set slot connection })
  | .schema, pool => return (pool.schema, pool)
  | .setSchema schema, pool => return ((), { pool with schema })

def run (transport : Transport m) (action : Action α) :
    StateT PoolState m (Except ClientError α) := do
  return (← Program.runM (handle transport) action).mapError Fault.toClientError

def connect (transport : Transport m) (config : Config) :
    StateT PoolState m (Except ClientError Unit) := do
  set (PoolState.closed config)
  run transport (Pool.connect config)

def request (transport : Transport m) (config : Config) (request : Request) :
    StateT PoolState m request.Reply :=
  run transport (Pool.answer config request)

def client (transport : Transport (StateM τ)) (config : Config) : Client (PoolState × τ) where
  origin := .network
  handle asked := fun (pool, state) =>
    let ((reply, pool), state) := request transport config asked pool state
    (reply, pool, state)

end TupleStore.Network
