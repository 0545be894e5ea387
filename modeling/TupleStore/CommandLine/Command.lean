import TupleStore.CommandLine.Usage
import TupleStore.Options

/-!
# Commands

The commands of the command line and their arguments.  Every option of a
connection is also a variable of the environment.
-/

namespace TupleStore.CommandLine

/-- Which tuples of a space are wanted; the key is JSON text. -/
structure Selection where
  index : Option String := none
  key : Option String := none
  limit : Option Nat := none
  offset : Nat := 0
  descending : Bool := false
  deriving DecidableEq, Repr

/-- Commands on a cache; keys and values are JSON texts. -/
inductive CacheCommand where
  | get (cache key : String)
  | put (cache key value : String) (seconds : Nat)
  | evict (cache key : String)
  | clear (cache : String)
  deriving DecidableEq, Repr

inductive Command where
  | ping
  | spaces
  | select (space : String) (selection : Selection)
  | call (function : String) (arguments : List String)
  | eval (expression : String) (arguments : List String)
  | truncate (space : String)
  | cache (command : CacheCommand)
  deriving DecidableEq, Repr

structure Invocation where
  command : Command
  options : ConnectionOptions
  deriving DecidableEq, Repr

/-! ## Options of a connection -/

def environmentName (option : String) : String :=
  "TARANTOOL_" ++ option.map fun c => if c = '-' then '_' else c.toUpper

def connectionFlag (name : String) (parameter : Parameter) : Flag :=
  { name, parameter, environment := some (environmentName name) }

def connectionFlags : List Flag :=
  [connectionFlag "nodes" .texts, connectionFlag "user" .text, connectionFlag "password" .text,
    connectionFlag "connections" .number, connectionFlag "connect-timeout" .number,
    connectionFlag "read-timeout" .number, connectionFlag "request-timeout" .number,
    connectionFlag "cluster" .truth, connectionFlag "crud-available" .truth,
    connectionFlag "schema-function" .text, connectionFlag "select-function" .text,
    connectionFlag "insert-function" .text, connectionFlag "replace-function" .text,
    connectionFlag "update-function" .text, connectionFlag "upsert-function" .text,
    connectionFlag "delete-function" .text, connectionFlag "truncate-function" .text]

def functionsOf (given : Given) : Cluster.Functions :=
  let defaults : Cluster.Functions := {}
  { schema := (given.text? "schema-function").getD defaults.schema
    select := (given.text? "select-function").getD defaults.select
    insert := (given.text? "insert-function").getD defaults.insert
    replace := (given.text? "replace-function").getD defaults.replace
    update := (given.text? "update-function").getD defaults.update
    upsert := (given.text? "upsert-function").getD defaults.upsert
    delete := (given.text? "delete-function").getD defaults.delete
    truncate := (given.text? "truncate-function").getD defaults.truncate }

def optionsOf (given : Given) : ConnectionOptions :=
  let defaults : ConnectionOptions := {}
  { nodes := (given.get? "nodes").getD defaults.nodes
    user := (given.text? "user").getD defaults.user
    password := (given.text? "password").getD defaults.password
    connections := (given.number? "connections").getD defaults.connections
    connectTimeout := (given.number? "connect-timeout").getD defaults.connectTimeout
    readTimeout := (given.number? "read-timeout").getD defaults.readTimeout
    requestTimeout := (given.number? "request-timeout").getD defaults.requestTimeout
    cluster := (given.truth? "cluster").getD defaults.cluster
    crudAvailable := (given.truth? "crud-available").getD defaults.crudAvailable
    functions := functionsOf given }

/-! ## Arguments of the commands -/

def selectionFlags : List Flag :=
  [{ name := "index", short := some 'i' }, { name := "key", short := some 'k' },
    { name := "limit", short := some 'l', parameter := .number },
    { name := "offset", parameter := .number }, { name := "desc", parameter := .nothing }]

def selectionOf (given : Given) : Selection :=
  { index := given.text? "index"
    key := given.text? "key"
    limit := given.number? "limit"
    offset := (given.number? "offset").getD 0
    descending := given.isGiven "desc" }

def topUsage : Usage :=
  { commands := ["ping", "spaces", "select", "call", "eval", "truncate", "cache"] }

def usageOf : (command : String) → Usage
  | "ping" | "spaces" => { flags := connectionFlags }
  | "select" => { flags := selectionFlags ++ connectionFlags, required := 1 }
  | "call" | "eval" => { flags := connectionFlags, required := 1, takesMore := true }
  | "truncate" => { flags := connectionFlags, required := 1 }
  | "cache" => { flags := connectionFlags, commands := ["get", "put", "evict", "clear"] }
  | "get" | "evict" => { required := 2 }
  | "put" => { flags := [{ name := "ttl", parameter := .number }], required := 3 }
  | "clear" => { required := 1 }
  | _ => {}

def commandOf? (name : String) (given : Given) : Option Command :=
  match name, given.arguments with
  | "ping", _ => some .ping
  | "spaces", _ => some .spaces
  | "select", space :: _ => some (.select space (selectionOf given))
  | "call", function :: arguments => some (.call function arguments)
  | "eval", expression :: arguments => some (.eval expression arguments)
  | "truncate", space :: _ => some (.truncate space)
  | _, _ => none

def cacheCommandOf? (name : String) (given : Given) : Option CacheCommand :=
  match name, given.arguments with
  | "get", [cache, key] => some (.get cache key)
  | "put", [cache, key, value] => some (.put cache key value ((given.number? "ttl").getD 0))
  | "evict", [cache, key] => some (.evict cache key)
  | "clear", [cache] => some (.clear cache)
  | _, _ => none

/-! ## Reading -/

def helpOn (usage : Usage) : (path : List String) → Misuse
  | [] => .helpWanted
  | name :: path => if usage.isCommand name then helpOn (usageOf name) path else .unknownCommand

def required {α : Type} : Option α → Except Misuse α
  | some value => .ok value
  | none => .error .missingArgument

def readGiven (environment : List (String × String)) (name : String)
    (arguments : List String) : Except Misuse Given := do
  let (progress, _) ← (usageOf name).read {} arguments
  (usageOf name).finish environment progress false

/-- Reads the arguments of the cache command, and of the command in it first. -/
def readCache (environment : List (String × String)) (arguments : List String) :
    Except Misuse Invocation := do
  let usage := usageOf "cache"
  match ← usage.read {} arguments with
  | (progress, none) => do
      let _ ← usage.finish environment progress false
      throw .missingCommand
  | (_, some ("help", path)) => throw (helpOn usage path)
  | (progress, some (name, arguments)) => do
      let command ← required (cacheCommandOf? name (← readGiven environment name arguments))
      return ⟨.cache command, optionsOf (← usage.finish environment progress true)⟩

def parse (environment : List (String × String)) (arguments : List String) :
    Except Misuse Invocation := do
  match ← topUsage.read {} arguments with
  | (progress, none) => do
      let _ ← topUsage.finish environment progress false
      throw .missingCommand
  | (_, some ("help", path)) => throw (helpOn topUsage path)
  | (_, some ("cache", arguments)) => readCache environment arguments
  | (_, some (name, arguments)) => do
      let given ← readGiven environment name arguments
      return ⟨← required (commandOf? name given), optionsOf given⟩

end TupleStore.CommandLine
