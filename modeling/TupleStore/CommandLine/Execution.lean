import TupleStore.Cache.Manager
import TupleStore.CommandLine.Command
import TupleStore.Json.Reader
import TupleStore.Json.Writer
import TupleStore.Remote

/-!
# Execution of commands

A command makes requests and results in lines of JSON.  What it is given is read
before its first request.
-/

namespace TupleStore.CommandLine

inductive CommandError where
  | invalidJson (text : String)
  /-- A result cannot be written as JSON. -/
  | inexpressible
  | client (error : ClientError)
  | failure (failure : Failure)
  deriving DecidableEq, Repr

def CommandError.display : CommandError → String
  | .invalidJson text => "invalid JSON " ++ text
  | .inexpressible => "the value cannot be written as JSON"
  | .client error => error.display
  | .failure cause => cause.display

/-! ## JSON -/

def readJson (text : String) : Except CommandError Json :=
  match Json.parse? text with
  | some json => .ok json
  | none => .error (.invalidJson text)

def readArguments (arguments : List String) : Except CommandError (List Value) :=
  arguments.mapM fun text => Json.toValue <$> readJson text

def toJson (value : Value) : Except CommandError Json :=
  match Json.ofValue? value with
  | some json => .ok json
  | none => .error .inexpressible

def jsonCodec : Codec Json where
  write := Json.toValue
  read value :=
    match Json.ofValue? value with
    | some json => .ok json
    | none => .error (.mismatch "a JSON value")

/-! ## Commands -/

variable {m : Type → Type} [Monad m]

def ofClient {α : Type} (reply : m (Except ClientError α)) : ExceptT CommandError m α :=
  ExceptT.mk do return (← reply).mapError CommandError.client

def ask (request : (request : Request) → m request.Reply) (asked : Request) :
    ExceptT CommandError m asked.Answer :=
  ofClient (request asked)

namespace Selection

/-- The parts of the key; a key which is no array has one part. -/
def keyParts (selection : Selection) : Except CommandError Key :=
  match selection.key with
  | none => .ok []
  | some text => do
      match (← readJson text).toValue with
      | .array parts => return parts
      | part => return [part]

/-- The conditions; an index which is not named is the primary one. -/
def conditions (selection : Selection) : Except CommandError Conditions := do
  let key ← selection.keyParts
  let found :=
    if selection.index.isSome || selection.key.isSome then
      Conditions.any.andIndex (selection.index.getD "primary") .equal key
    else .any
  let limited := match selection.limit with
    | none => found
    | some limit => found.withLimit limit
  return (limited.withOffset selection.offset).inOrder selection.descending

end Selection

def select (request : (request : Request) → m request.Reply) (space : String)
    (conditions : Conditions) : ExceptT CommandError m (List Json) := do
  let tuples ← ask request (.select space conditions)
  tuples.mapM fun tuple => toJson (.array tuple)

def call (request : (request : Request) → m request.Reply) (function : String)
    (arguments : List String) : ExceptT CommandError m (List Json) := do
  let values ← ask request (.call function (← readArguments arguments))
  values.mapM fun value => toJson value

def eval (request : (request : Request) → m request.Reply) (expression : String)
    (arguments : List String) : ExceptT CommandError m (List Json) := do
  let values ← ask request (.eval expression (← readArguments arguments))
  values.mapM fun value => toJson value

namespace CacheCommand

def action : CacheCommand → Except CommandError (Cache.Action (Option Json))
  | .get cache key => do
      let key ← readJson key
      return Cache.get ⟨cache, {}⟩ jsonCodec jsonCodec key
  | .put cache key value seconds => do
      let key ← readJson key
      let value ← readJson value
      let config : Cache.Configuration := { ttl := (Duration.of? seconds 0).getD .zero }
      return do
        Cache.put ⟨cache, config⟩ jsonCodec jsonCodec key value
        return none
  | .evict cache key => do
      let key ← readJson key
      return do
        Cache.evict ⟨cache, {}⟩ jsonCodec key
        return none
  | .clear cache =>
      return do
        Cache.clear ⟨cache, {}⟩
        return none

def run (request : (request : Request) → m request.Reply) (now : m Nat)
    (command : CacheCommand) : ExceptT CommandError m (Option Json) := do
  let action ← command.action
  ExceptT.mk do
    let (result, _) ← StateT.run (Program.runM (Cache.handleM request now) action) {}
    return result.mapError CommandError.failure

end CacheCommand

/-! ## Running -/

structure Host (m : Type → Type) where
  request : (request : Request) → m request.Reply
  ping : m (Except ClientError Unit)
  spaces : m (Except ClientError (List Space))
  /-- The time in milliseconds. -/
  now : m Nat

def spaceLine (space : Space) : String :=
  toString space.id ++ " " ++ space.name ++ " (" ++ ", ".intercalate space.fieldNames ++ ")"

namespace Command

def perform (host : Host m) : Command → ExceptT CommandError m (List String)
  | .ping => do
      ofClient host.ping
      return ["ok"]
  | .spaces => do
      return (← ofClient host.spaces).map spaceLine
  | .select space selection => do
      return (← CommandLine.select host.request space (← selection.conditions)).map Json.text
  | .call function arguments => do
      return (← CommandLine.call host.request function arguments).map Json.text
  | .eval expression arguments => do
      return (← CommandLine.eval host.request expression arguments).map Json.text
  | .truncate space => do
      ask host.request (.truncate space)
      return []
  | .cache command => do
      return ((← command.run host.request host.now).map Json.text).toList

def check : Command → Except CommandError Unit
  | .select _ selection => do
      let _ ← selection.conditions
  | _ => .ok ()

end Command

def Host.ofRemote (transport : Network.Transport m) (remote : Remote) :
    Host (StateT Remote.State m) where
  request := remote.request transport
  ping := remote.ping transport
  spaces := Remote.spaces transport
  now := transport.now

def execute (transport : Network.Transport m) (invocation : Invocation) :
    m (Except CommandError (List String)) := do
  let lines : ExceptT CommandError (StateT Remote.State m) (List String) := do
    invocation.command.check
    let remote ← (Remote.connect transport invocation.options).adapt CommandError.failure
    invocation.command.perform (.ofRemote transport remote)
  let (result, _) ← StateT.run lines.run {}
  return result

end TupleStore.CommandLine
