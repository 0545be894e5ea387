import TupleStore.Network.Transport

/-!
# Callers of a pool side by side

Callers of one pool take turns: a turn is one operation of one caller, who may
also leave at any time.  What becomes of an operation on a link is a choice: it
succeeds as far as the bytes are there, or it is interrupted at any point.  A server
answers the requests on a link in their order, each of them once or never, and its
bytes arrive in any portions or not at all.
-/

namespace TupleStore.Network

/-! ## Links -/

structure Line where
  /-- The packets sent to the server, each with the number of its task. -/
  requests : List (Nat × Bytes) := []
  /-- The payloads of the server's packets, each with the number of the request it answers. -/
  answers : List (Nat × Bytes) := []
  /-- The bytes of the server which wait to be read. -/
  arrived : Bytes := []
  /-- The bytes of the server which are under way. -/
  flying : Bytes := []
  deriving DecidableEq, Repr

namespace Line

def unread (line : Line) : Bytes := line.arrived ++ line.flying

def send (line : Line) (task : Nat) (packet : Bytes) : Line :=
  { line with requests := line.requests ++ [(task, packet)] }

def read (line : Line) (count : Nat) : Line := { line with arrived := line.arrived.drop count }

def awaits (line : Line) (request : Nat) : Bool :=
  request < line.requests.length && line.answers.all fun answer => answer.1 < request

def announces (head payload : Bytes) : Bool :=
  head.length == lengthSize &&
    (MessagePack.decode? head).bind (fun (value, _) => value.unsigned?) == some payload.length

def answer (line : Line) (request : Nat) (head payload : Bytes) : Line :=
  if line.awaits request && announces head payload then
    { line with
      answers := line.answers ++ [(request, payload)]
      flying := line.flying ++ (head ++ payload) }
  else line

def arrive (line : Line) (count : Nat) : Line :=
  { line with
    arrived := line.arrived ++ line.flying.take count
    flying := line.flying.drop count }

end Line

structure Choice where
  time : Nat := 0
  interruption : Option Interruption := none
  /-- What the server of a new link greets with. -/
  greeting : Bytes := []
  /-- How many bytes an interrupted operation has read. -/
  lost : Nat := 0
  deriving DecidableEq, Repr

/--
The links as the task with this number sees them.  An operation which would have
to wait has no outcome.  A packet may have reached the server although its sending
was interrupted.
-/
def wire (task : Nat) (choice : Choice) : Transport (StateT (List Line) Option) where
  now := return choice.time
  connect _ _ :=
    match choice.interruption with
    | some interruption => return .error interruption
    | none => do
        guard (choice.greeting.length = Greeting.size)
        let lines ← get
        set (lines ++ [{ flying := choice.greeting : Line }])
        return .ok lines.length
  send link bytes _ := do
    let lines ← get
    let some line := lines[link]? | failure
    set (lines.set link (line.send task bytes))
    match choice.interruption with
    | some interruption => return .error interruption
    | none => return .ok ()
  receive link count _ := do
    let lines ← get
    let some line := lines[link]? | failure
    match choice.interruption with
    | some interruption => do
        set (lines.set link (line.read choice.lost))
        return .error interruption
    | none => do
        guard (count ≤ line.arrived.length)
        set (lines.set link (line.read count))
        return .ok (line.arrived.take count)
  close _ := return ()

/-! ## Callers -/

/-- What a task is there for: the opening of the pool, or a request. -/
inductive Job where
  | opening
  | request (code : UInt8) (body : Body)
  deriving DecidableEq, Repr

def Job.program (config : Config) : Job → Action (List Value)
  | .opening => do
      Pool.openSlots config 0 config.slots
      return []
  | .request code body => Pool.request config code body

structure Task where
  job : Job
  /-- What is left to do, unless the caller has left. -/
  program : Option (Action (List Value))

structure System where
  pool : PoolState
  lines : List Line := []
  /-- The task which uses each slot of the pool. -/
  holders : List (Option Nat)
  tasks : List Task

inductive Event where
  /-- A new caller. -/
  | call (code : UInt8) (body : Body)
  | turn (task : Nat) (choice : Choice)
  /-- A caller goes away, whatever its request is waiting for. -/
  | leave (task : Nat)
  | answer (link request : Nat) (head payload : Bytes)
  | arrive (link count : Nat)
  deriving DecidableEq, Repr

namespace Op

def waits (holders : List (Option Nat)) : Op → Bool
  | .acquire slot => (holders.getD slot none).isSome
  | _ => false

def holders (task : Nat) (before : List (Option Nat)) : Op → List (Option Nat)
  | .acquire slot => before.set slot (some task)
  | .release slot _ => before.set slot none
  | _ => before

end Op

namespace System

def start (config : Config) : System where
  pool := PoolState.closed config
  holders := config.slots.map fun _ => some 0
  tasks := [⟨.opening, some (Job.opening.program config)⟩]

/-- One operation of a task; nothing happens if the task has ended or has to wait. -/
def turn (system : System) (task : Nat) (choice : Choice) : System :=
  match system.tasks[task]? with
  | some ⟨job, some (.step op next)⟩ =>
      if op.waits system.holders then system
      else
        match (handle (wire task choice) op system.pool).run system.lines with
        | none => system
        | some ((reply, pool), lines) =>
            { pool
              lines
              holders := op.holders task system.holders
              tasks := system.tasks.set task ⟨job, some (next reply)⟩ }
  | _ => system

def leave (system : System) (task : Nat) : System :=
  match system.tasks[task]? with
  | some ⟨job, _⟩ =>
      { system with
        holders := system.holders.map fun holder => if holder = some task then none else holder
        tasks := system.tasks.set task ⟨job, none⟩ }
  | none => system

def onLine (system : System) (link : Link) (change : Line → Line) : System :=
  match system.lines[link]? with
  | none => system
  | some line => { system with lines := system.lines.set link (change line) }

def step (config : Config) (system : System) : Event → System
  | .call code body =>
      { system with
        tasks := system.tasks ++
          [⟨.request code body, some ((Job.request code body).program config)⟩] }
  | .turn task choice => system.turn task choice
  | .leave task => system.leave task
  | .answer link request head payload =>
      system.onLine link fun line => line.answer request head payload
  | .arrive link count => system.onLine link fun line => line.arrive count

def run (config : Config) (system : System) (events : List Event) : System :=
  events.foldl (step config) system

def Ended (system : System) (caller : Nat) (code : UInt8) (body : Body)
    (result : Except Fault (List Value)) : Prop :=
  system.tasks[caller]? = some ⟨.request code body, some (.done result)⟩

end System

end TupleStore.Network
