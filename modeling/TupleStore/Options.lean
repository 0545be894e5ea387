import TupleStore.Cluster.Functions
import TupleStore.Failure
import TupleStore.Json.Basic
import TupleStore.Network.Connection
import TupleStore.Text.Cut

/-!
# Connection options

The options of a connection, as they stand in a configuration file or on a
command line.  `ConnectionOptions.toConfig` checks them.
-/

namespace TupleStore

structure ConnectionOptions where
  /-- The addresses of the servers, `host:port`. -/
  nodes : List String := ["localhost:3301"]
  user : String := "guest"
  password : String := ""
  /-- The number of connections to each server; zero means one. -/
  connections : Nat := 0
  /-- Limits in milliseconds; zero means none. -/
  connectTimeout : Nat := 0
  readTimeout : Nat := 0
  requestTimeout : Nat := 0
  /-- Whether the servers form a cluster. -/
  cluster : Bool := true
  /-- Whether the cluster has stored functions for data requests. -/
  crudAvailable : Bool := true
  functions : Cluster.Functions := {}
  deriving DecidableEq, Repr

namespace ConnectionOptions

def usesCluster (options : ConnectionOptions) : Bool := options.cluster && options.crudAvailable

/-! ## Checking -/

/-- A host and a port below 65536 around the last colon. -/
def isNode (node : String) : Bool :=
  match Text.splitLast? ':' node.toList with
  | none => false
  | some (host, port) => !host.isEmpty && (Text.unsigned? 0x10000 port).isSome

def limit (milliseconds : Nat) : Option Nat :=
  if milliseconds = 0 then none else some milliseconds

def toConfig (options : ConnectionOptions) : Except UsageError Network.Config :=
  if options.nodes.isEmpty then .error .noNodes
  else
    match options.nodes.find? fun node => !isNode node with
    | some node => .error (.malformedNode node)
    | none => .ok {
        nodes := options.nodes
        user := options.user
        password := options.password
        connections := max 1 options.connections
        connectTimeout := limit options.connectTimeout
        readTimeout := limit options.readTimeout
        requestTimeout := limit options.requestTimeout }

/-! ## Reading -/

def readText : Json → Option String
  | .str text => some text
  | _ => none

def readNat : Json → Option Nat
  | .int (.ofNat number) => some number
  | _ => none

def readBool : Json → Option Bool
  | .bool truth => some truth
  | _ => none

def readTexts : Json → Option (List String)
  | .array items => items.mapM readText
  | _ => none

/-- The option with this name, which may stand at most once, or else its default. -/
def readOption {α : Type} (read : Json → Option α) (default : α)
    (entries : List (String × Json)) (name : String) : Option α :=
  match entries.filter fun entry => entry.1 == name with
  | [] => some default
  | [entry] => read entry.2
  | _ => none

def readFunctions (entries : List (String × Json)) : Option Cluster.Functions := do
  let function (default : String) := readOption readText default entries
  let defaults : Cluster.Functions := {}
  return {
    schema := ← function defaults.schema "schema_function"
    select := ← function defaults.select "select_function"
    insert := ← function defaults.insert "insert_function"
    replace := ← function defaults.replace "replace_function"
    update := ← function defaults.update "update_function"
    upsert := ← function defaults.upsert "upsert_function"
    delete := ← function defaults.delete "delete_function"
    truncate := ← function defaults.truncate "truncate_function" }

/-- The options in an object; entries with other names are skipped. -/
def ofJson? : Json → Option ConnectionOptions
  | .object entries => do
      let defaults : ConnectionOptions := {}
      return {
        nodes := ← readOption readTexts defaults.nodes entries "nodes"
        user := ← readOption readText defaults.user entries "user"
        password := ← readOption readText defaults.password entries "password"
        connections := ← readOption readNat defaults.connections entries "connections"
        connectTimeout := ← readOption readNat defaults.connectTimeout entries "connect_timeout"
        readTimeout := ← readOption readNat defaults.readTimeout entries "read_timeout"
        requestTimeout := ← readOption readNat defaults.requestTimeout entries "request_timeout"
        cluster := ← readOption readBool defaults.cluster entries "cluster"
        crudAvailable := ← readOption readBool defaults.crudAvailable entries "crud_available"
        functions := ← readFunctions entries }
  | _ => none

end ConnectionOptions

end TupleStore
