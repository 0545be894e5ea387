import TupleStore.Network.Connection
import TupleStore.Network.SystemSpace
import TupleStore.PrimaryOrder

/-!
# The pool of connections

A pool holds some connections to each server, one in each slot.  Requests go to
the slots in turn.  A connection which fails is dropped, and its slot opens a
new one at its next turn.
-/

namespace TupleStore.Network

def Config.slots (config : Config) : List String :=
  config.nodes.flatMap fun node => List.replicate (max 1 config.connections) node

namespace Pool

def connectionOf (config : Config) (slot : Nat) (idle : Option Connection) :
    Action Connection :=
  match idle with
  | some connection => return connection
  | none => Connection.open config (config.slots.getD slot "")

def afterRequest (connection : Connection) : Except Fault (List Value) →
    Action (Option Connection)
  | .ok _ => return some connection
  | .error fault => do
      if fault.isFatal then
        Action.close connection.link
        return none
      else return some connection

def request (config : Config) (code : UInt8) (body : Body) : Action (List Value) := do
  let slot := (← Action.turn).toNat % config.slots.length
  let idle ← Action.acquire slot
  match ← (connectionOf config slot idle).attempt with
  | .error fault => do
      Action.release slot none
      throw fault
  | .ok connection => do
      let (result, connection) ← connection.request config code body
      Action.release slot (← afterRequest connection result)
      Program.ofExcept result

/-! ## Scans -/

inductive Iterator where
  | equal
  | all
  | less
  | lessOrEqual
  | greaterOrEqual
  | greater
  deriving DecidableEq, Repr

namespace Iterator

def code : Iterator → Nat
  | .equal => 0
  | .all => 2
  | .less => 3
  | .lessOrEqual => 4
  | .greaterOrEqual => 5
  | .greater => 6

def ofOperator : Operator → Iterator
  | .equal => .equal
  | .less => .less
  | .lessOrEqual => .lessOrEqual
  | .greater => .greater
  | .greaterOrEqual => .greaterOrEqual

def isForward : Iterator → Bool
  | .less | .lessOrEqual => false
  | _ => true

end Iterator

structure Scan where
  index : UInt32 := 0
  iterator : Iterator := .all
  key : Key := []
  deriving DecidableEq, Repr

/-- The scan of the index query; without one, all of the primary index. -/
def Scan.of (space : Space) (conditions : Conditions) : Except UnknownName Scan :=
  match conditions.indexQuery with
  | none => .ok {}
  | some query =>
      match space.index? query.index with
      | none => .error (.index query.index space.name)
      | some index => .ok ⟨index.id, .ofOperator query.operator, query.key⟩

def Scan.inPrimaryOrder (scan : Scan) : Bool := scan.index == 0 && scan.iterator.isForward

def noLimit : Nat := 0xffffffff

def toTuple : Value → Except Fault Tuple
  | .array tuple => .ok tuple
  | value => .error (.notATuple value)

def scan (config : Config) (space : UInt32) (scan : Scan) (offset : Nat := 0)
    (limit : Nat := noLimit) : Action (List Tuple) := do
  let rows ← request config RequestCode.select
    [(PacketKey.spaceId, .nat space.toNat), (PacketKey.indexId, .nat scan.index.toNat),
      (PacketKey.iterator, .nat scan.iterator.code), (PacketKey.offset, .nat offset),
      (PacketKey.limit, .nat limit), (PacketKey.key, .array scan.key)]
  Program.ofExcept (rows.mapM toTuple)

/-! ## The schema -/

def loadSchema (config : Config) : Action Unit := do
  let rows ← scan config SystemSpace.spaces {}
  let spaces ← Program.ofExcept (rows.mapM readSpace)
  let rows ← scan config SystemSpace.indexes {}
  let indexes ← Program.ofExcept (rows.mapM readIndex)
  Action.setSchema (joinSchema spaces indexes)

def space? (name : String) : Action (Option Space) := do
  return (← Action.schema).find? fun space => space.name == name

def space (name : String) : Action Space := do
  match ← space? name with
  | some space => return space
  | none => throw (.unknownSpace name)

def spaces : Action (List Space) := do
  return (← Action.schema).mergeSort fun l r => l.id ≤ r.id

def openSlots (config : Config) : (slot : Nat) → (addresses : List String) → Action Unit
  | _, [] => return ()
  | slot, address :: addresses => do
      let connection ← Connection.open config address
      Action.release slot (some connection)
      openSlots config (slot + 1) addresses

def connect (config : Config) : Action Unit := do
  if config.nodes.isEmpty then throw .noNodes
  openSlots config 0 config.slots
  loadSchema config

def ping (config : Config) : Action Unit := do
  let _ ← request config RequestCode.ping []

/-! ## Requests -/

/--
The tuples which the conditions select.  The server applies the window where it
returns the tuples in primary key order and there is nothing else to apply; all
other conditions are applied to the tuples of the scan.
-/
def select (config : Config) (name : String) (conditions : Conditions) :
    Action (List Tuple) := do
  let space ← space name
  let wanted ← Program.ofExcept ((Scan.of space conditions).mapError .unknownName)
  if wanted.inPrimaryOrder && conditions.comparisons.isEmpty && !conditions.descending then
    scan config space.id wanted conditions.offset (conditions.limit.getD noLimit)
  else
    let tuples ← scan config space.id wanted
    let ordered := if wanted.inPrimaryOrder then tuples else space.inPrimaryOrder tuples
    Program.ofExcept ((conditions.filter space ordered).mapError .unknownName)

def write (config : Config) (code : UInt8) (name : String) (body : Body) :
    Action (List Tuple) := do
  let space ← space name
  let rows ← request config code ((PacketKey.spaceId, .nat space.id.toNat) :: body)
  Program.ofExcept (rows.mapM toTuple)

def call (config : Config) (function : String) (arguments : List Value) :
    Action (List Value) :=
  request config RequestCode.call
    [(PacketKey.functionName, .text function), (PacketKey.tuple, .array arguments)]

def operationsValue (operations : List UpdateOperation) : Value :=
  .array (operations.map UpdateOperation.toValue)

def answer (config : Config) : (request : Request) → Action request.Answer
  | .space name => space? name
  | .refreshMetadata => loadSchema config
  | .select space conditions => select config space conditions
  | .insert space tuple =>
      write config RequestCode.insert space [(PacketKey.tuple, .array tuple)]
  | .replace space tuple =>
      write config RequestCode.replace space [(PacketKey.tuple, .array tuple)]
  | .update space key operations =>
      write config RequestCode.update space
        [(PacketKey.indexId, .nat 0), (PacketKey.key, .array key),
          (PacketKey.tuple, operationsValue operations)]
  | .upsert space tuple operations => do
      let _ ← write config RequestCode.upsert space
        [(PacketKey.tuple, .array tuple), (PacketKey.operations, operationsValue operations)]
  | .delete space key =>
      write config RequestCode.delete space
        [(PacketKey.indexId, .nat 0), (PacketKey.key, .array key)]
  | .truncate space => do
      let _ ← call config ("box.space." ++ space ++ ":truncate") []
  | .call function arguments => call config function arguments
  | .eval expression arguments =>
      request config RequestCode.eval
        [(PacketKey.expression, .text expression), (PacketKey.tuple, .array arguments)]

end Pool

end TupleStore.Network
