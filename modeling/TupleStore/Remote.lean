import TupleStore.Cluster.Routing
import TupleStore.Network.Transport
import TupleStore.Options

/-!
# Remote databases

A remote database is reached over the network.  Its data requests go to the
servers directly or through the functions of their cluster, as the options of the
connection say.
-/

namespace TupleStore

structure Remote where
  config : Network.Config
  /-- The functions of the cluster, if data requests go through them. -/
  functions : Option Cluster.Functions := none
  deriving DecidableEq, Repr

namespace Remote

structure State where
  pool : Network.PoolState := {}
  schema : Option (List Space) := none
  deriving DecidableEq, Repr

def ofOptions (options : ConnectionOptions) : Except UsageError Remote := do
  return {
    config := ← options.toConfig
    functions := if options.usesCluster then some options.functions else none }

def isProxy (remote : Remote) : Bool := remote.functions.isSome

variable {m : Type → Type} [Monad m] {α : Type}

def onPool (action : StateT Network.PoolState m α) : StateT State m α := fun state => do
  let (result, pool) ← action state.pool
  return (result, { state with pool })

def connect (transport : Network.Transport m) (options : ConnectionOptions) :
    ExceptT Failure (StateT State m) Remote := do
  let remote ← (ofOptions options).mapError Failure.usage
  ExceptT.mk do
    return (← onPool (Network.connect transport remote.config)).mapError Failure.client
  return remote

def ping (transport : Network.Transport m) (remote : Remote) :
    StateT State m (Except ClientError Unit) :=
  onPool (Network.run transport (Network.Pool.ping remote.config))

def spaces (transport : Network.Transport m) : StateT State m (Except ClientError (List Space)) :=
  onPool (Network.run transport Network.Pool.spaces)

def request (transport : Network.Transport m) (remote : Remote) (asked : Request) :
    StateT State m asked.Reply :=
  match remote.functions with
  | none => onPool (Network.request transport remote.config asked)
  | some functions => fun state => do
      let ((reply, schema), pool) ←
        (Cluster.requestM (Network.request transport remote.config) .network functions asked
          state.schema).run state.pool
      return (reply, { pool, schema })

end Remote

end TupleStore
