import TupleStore.Cache.Statistics
import TupleStore.Failure
import TupleStore.Program
import TupleStore.Time

/-!
# Entries of caches

The entries of a cache are tuples of a key, a value and an expiry time; keys and
values are byte strings.  The space is created when it is first used.  An entry
which has expired is deleted when it is read.

The operations are programs, so that calls can be interleaved request by request.
-/

namespace TupleStore.Cache

inductive Op where
  | request (request : Request)
  /-- The time in milliseconds. -/
  | now
  /-- Whether the space is known to exist. -/
  | isKnown (space : String)
  /-- Waits until no other call holds the lock, and takes it. -/
  | lock
  | unlock
  /-- Notes that the space exists. -/
  | remember (space : String)
  | count (cache : String) (occurrence : Occurrence)

abbrev Op.Reply : Op → Type
  | .request asked => asked.Reply
  | .now => Nat
  | .isKnown _ => Bool
  | .lock | .unlock | .remember _ | .count .. => Unit

abbrev Action (α : Type) := Program Op Op.Reply Failure α

namespace Entries

def request (request : Request) : Action request.Answer :=
  .step (.request request) fun reply => .done (reply.mapError fun error => .cache (.client error))

def now : Action Nat := Program.perform Op.now

def isKnown (space : String) : Action Bool := Program.perform (Op.isKnown space)

def lock : Action Unit := Program.perform Op.lock

def unlock : Action Unit := Program.perform Op.unlock

def remember (space : String) : Action Unit := Program.perform (Op.remember space)

def count (space : String) (occurrence : Occurrence) : Action Unit :=
  Program.perform (Op.count space occurrence)

/-! ## The space -/

def callMethod (space method : String) (arguments : List Value) : Action Unit := do
  let _ ← request (.call ("box.space." ++ space ++ ":" ++ method) arguments)

def fieldFormat (name type : String) : Value :=
  .map [(.text "name", .text name), (.text "type", .text type)]

def format : Value :=
  .array [fieldFormat "key" "varbinary", fieldFormat "value" "varbinary",
    fieldFormat "expiry_time" "unsigned"]

def createIndex (space index field : String) (unique : Bool) : Action Unit :=
  callMethod space "create_index"
    [.text index,
      .map [(.text "parts", .array [.text field]), (.text "unique", .bool unique)]]

def formatSpace (space : String) : Action Unit := do
  callMethod space "format" [format]
  createIndex space "primary" "key" true
  createIndex space "expiry_time" "expiry_time" false
  request .refreshMetadata

def dropSpace (space : String) : Action Unit := do
  let _ ← request (.eval ("box.space." ++ space ++ ":drop()") [])

/-- Creates the space; it is dropped again when it cannot be formatted. -/
def createSpace (space : String) : Action Unit := do
  let _ ← request (.eval ("box.schema.space.create('" ++ space ++ "')") [])
  match ← (formatSpace space).attempt with
  | .ok () => return ()
  | .error failure => do
      let _ ← (dropSpace space).attempt
      throw failure

def findOrCreate (space : String) : Action Unit := do
  if !(← isKnown space) then
    if (← request (.space space)).isNone then createSpace space
    remember space

/-- Makes sure that the space exists; one call at a time looks for it. -/
def ensureSpace (space : String) : Action Unit := do
  if !(← isKnown space) then
    lock
    let result ← (findOrCreate space).attempt
    unlock
    Program.ofExcept result

/-! ## Entries -/

def never : Nat := 0x7fffffffffffffff

/-- The expiry time of an entry stored now; parts of a second do not count. -/
def expiryTime (ttl : Duration) (now : Nat) : Nat :=
  if ttl = .zero then never else min (now + ttl.seconds * 1000) never

def readEntry (tuple : Tuple) : Except Failure (Bytes × Nat) :=
  match fieldAt tuple 1, (fieldAt tuple 2).unsigned? with
  | .bin value, some expiry => .ok (value, expiry)
  | _, _ => .error (.cache (.malformedEntry tuple))

def delete (space : String) (key : Bytes) : Action Unit := do
  let _ ← request (.delete space [.bin key])
  count space (.delete 1)

/-- The value of the tuple, unless it has expired; an expired one is deleted. -/
def liveValue (space : String) (key : Bytes) (tuple : Tuple) : Action (Option Bytes) := do
  let (value, expiry) ← Program.ofExcept (readEntry tuple)
  if (← now) < expiry then return some value
  else do
    delete space key
    return none

def get (space : String) (key : Bytes) : Action (Option Bytes) := do
  ensureSpace space
  let tuples ← request (.select space (.primaryKey [.bin key]))
  let value ← match tuples with
    | [] => pure none
    | tuple :: _ => liveValue space key tuple
  count space .get
  count space (if value.isSome then .hit else .miss)
  return value

def put (space : String) (key value : Bytes) (ttl : Duration) : Action Unit := do
  ensureSpace space
  let tuple := [.bin key, .bin value, .nat (expiryTime ttl (← now))]
  let _ ← request (.replace space tuple)
  count space .put

def putIfAbsent (space : String) (key value : Bytes) (ttl : Duration) :
    Action (Option Bytes) := do
  match ← get space key with
  | some existing => return some existing
  | none => do
      put space key value ttl
      return none

def remove (space : String) (key : Bytes) : Action Unit := do
  ensureSpace space
  delete space key

def clear (space : String) : Action Unit := do
  ensureSpace space
  request (.truncate space)

end Entries

/-! ## Running -/

structure Writer where
  known : List String := []
  collector : Collector := .disabled
  deriving DecidableEq, Repr

variable {σ α : Type}

def handleM {m : Type → Type} [Monad m] (request : (request : Request) → m request.Reply)
    (now : m Nat) (op : Op) (writer : Writer) : m (op.Reply × Writer) :=
  match op with
  | .request asked => return (← request asked, writer)
  | .now => return (← now, writer)
  | .isKnown space => return (writer.known.contains space, writer)
  | .lock | .unlock => return ((), writer)
  | .remember space => return ((), { writer with known := space :: writer.known })
  | .count cache occurrence => do
      let collector := writer.collector.count cache (← now) occurrence
      return ((), { writer with collector })

def handle (client : Client σ) (now : Nat) (op : Op) :
    σ × Writer → op.Reply × (σ × Writer) := fun (state, writer) =>
  let ((reply, writer), state) :=
    Id.run (StateT.run (handleM (fun request => client.handle request) (pure now) op writer) state)
  (reply, state, writer)

def run (client : Client σ) (now : Nat) (action : Action α) (state : σ × Writer) :
    Except Failure α × (σ × Writer) :=
  Program.run (handle client now) action state

end TupleStore.Cache
