import TupleStore.Cluster.Functions
import TupleStore.Cluster.Schema
import TupleStore.PrimaryOrder
import TupleStore.Program

/-!
# Requests to a cluster

Data requests become calls of the cluster's functions, through a client of one
of its members; calls and expressions go to that client as they are.  The schema
of the cluster is read when it is first needed.
-/

namespace TupleStore.Cluster

inductive Op where
  /-- A request to the client of a member. -/
  | request (request : Request)
  /-- The schema, if it has been read. -/
  | schema
  | setSchema (schema : List Space)

abbrev Op.Reply : Op → Type
  | .request asked => asked.Reply
  | .schema => Option (List Space)
  | .setSchema _ => Unit

abbrev Action (α : Type) := Program Op Op.Reply Fault α

def request (request : Request) : Action request.Answer :=
  .step (.request request) fun reply => .done (reply.mapError .client)

def call (function : String) (arguments : List Value) : Action (List Value) :=
  request (.call function arguments)

/-! ## Results -/

/-- The message of a reported error: the text in it, or its display. -/
def reportedMessage (error : Value) : String :=
  match ((error.get? "err").or (error.get? "str")).bind Value.text? with
  | some message => message
  | none => error.display

/-- Fails when the second value of a result reports an error. -/
def checkReport (result : List Value) : Except Fault Unit :=
  match fieldAt result 1 with
  | .nil => .ok ()
  | error => .error (.reported (reportedMessage error))

def toTuple : Value → Except Fault Tuple
  | .array tuple => .ok tuple
  | value => .error (.notATuple value)

def readRows (result : List Value) : Except Fault (List Tuple) := do
  checkReport result
  match fieldAt result 0 with
  | .nil => return []
  | data =>
      match data.get? "rows" with
      | some (.array rows) => rows.mapM toTuple
      | _ => throw (.malformedResult data)

def callForRows (function : String) (arguments : List Value) : Action (List Tuple) := do
  Program.ofExcept (readRows (← call function arguments))

/-! ## The schema -/

/-- The schema of the cluster; empty when the cluster has no schema function. -/
def loadSchema (functions : Functions) : Action (List Space) := do
  match ← (call functions.schema []).attempt with
  | .ok result => Program.ofExcept (readSchema result)
  | .error fault => if fault.kind = .noSuchProcedure then return [] else throw fault

def setSchema (schema : List Space) : Action Unit := Program.perform (Op.setSchema schema)

def schema (functions : Functions) : Action (List Space) :=
  .step .schema fun
    | some schema => return schema
    | none => do
        let schema ← loadSchema functions
        setSchema schema
        return schema

/-- The space in the schema of the cluster or else in that of the member. -/
def space? (functions : Functions) (name : String) : Action (Option Space) := do
  match find? (← schema functions) name with
  | some space => return some space
  | none => request (.space name)

def space (functions : Functions) (name : String) : Action Space := do
  match ← space? functions name with
  | some space => return space
  | none => throw (.unknownSpace name)

def refresh (functions : Functions) : Action Unit := do
  request .refreshMetadata
  setSchema (← loadSchema functions)

/-! ## Selecting -/

def encodeIndexQuery (space : Space) (query : IndexQuery) : Except UnknownName Value :=
  match space.index? query.index with
  | none => .error (.index query.index space.name)
  | some index =>
      .ok (.array [.text query.operator.symbol, .text index.name, .array query.key])

def encodeComparison (comparison : Comparison) : Value :=
  .array [.text comparison.operator.symbol, .text comparison.field, comparison.value]

def encodeConditions (conditions : Conditions) (space : Space) : Except UnknownName Value := do
  let query ← conditions.indexQuery.toList.mapM (encodeIndexQuery space)
  return .array (query ++ conditions.comparisons.map encodeComparison)

def namesPrimary (space : Space) (name : String) : Bool :=
  (space.index? name).all fun index => index.id == 0

/-- Whether the name is that of an index or of a field of the primary key. -/
def namesKey (space : Space) (name : String) : Bool :=
  (space.index? name).isSome ||
    match space.primary?, space.fieldPosition? name with
    | some primary, some position => primary.parts.contains position
    | _, _ => false

def isForward : Operator → Bool
  | .less | .lessOrEqual => false
  | _ => true

/--
Whether the cluster walks through the space in primary key order, so that it may
stop after the first tuples.
-/
def scansPrimary (conditions : Conditions) (space : Space) : Bool :=
  conditions.hasDefaultWindow &&
    (conditions.indexQuery.all fun query =>
      namesPrimary space query.index && isForward query.operator) &&
    conditions.comparisons.all fun comparison =>
      namesPrimary space comparison.field &&
        (isForward comparison.operator || !namesKey space comparison.field)

def selectOptions (conditions : Conditions) (space : Space) : Value :=
  match scansPrimary conditions space, conditions.limit with
  | true, some limit => .map [(.text "first", .nat limit)]
  | _, _ => .map []

def select (functions : Functions) (name : String) (conditions : Conditions) :
    Action (List Tuple) := do
  let space ← space functions name
  if space.primary?.isNone then throw (.noPrimary name)
  let encoded ← Program.ofExcept ((encodeConditions conditions space).mapError .unknownName)
  let tuples ← callForRows functions.select
    [.text name, encoded, selectOptions conditions space]
  return conditions.window (space.inPrimaryOrder tuples)

/-! ## Other requests -/

/-- A field by its name, or by its number from one on when the format ends before it. -/
def encodeOperation (space : Space) (operation : UpdateOperation) : Value :=
  let field := match space.format[operation.position]? with
    | some field => .text field.name
    | none => .nat (operation.position + 1)
  .array [.text operation.operator, field, operation.value]

def encodeOperations (space : Space) (operations : List UpdateOperation) : Value :=
  .array (operations.map (encodeOperation space))

def truncate (functions : Functions) (space : String) : Action Unit := do
  let result ← call functions.truncate [.text space]
  Program.ofExcept (checkReport result)
  if fieldAt result 0 ≠ .bool true then throw (.notTruncated space)

def answer (functions : Functions) : (request : Request) → Action request.Answer
  | .space name => space? functions name
  | .refreshMetadata => refresh functions
  | .select name conditions => select functions name conditions
  | .insert space tuple => callForRows functions.insert [.text space, .array tuple]
  | .replace space tuple => callForRows functions.replace [.text space, .array tuple]
  | .update name key operations => do
      let space ← space functions name
      callForRows functions.update
        [.text name, .array key, encodeOperations space operations]
  | .upsert name tuple operations => do
      let space ← space functions name
      let _ ← callForRows functions.upsert
        [.text name, .array tuple, encodeOperations space operations]
  | .delete space key => callForRows functions.delete [.text space, .array key]
  | .truncate space => truncate functions space
  | .call function arguments => call function arguments
  | .eval expression arguments => request (.eval expression arguments)

/-! ## The client -/

variable {σ : Type}

def handleM {m : Type → Type} [Monad m] (ask : (request : Request) → m request.Reply)
    (op : Op) (schema : Option (List Space)) : m (op.Reply × Option (List Space)) :=
  match op with
  | .request asked => return (← ask asked, schema)
  | .schema => return (schema, schema)
  | .setSchema schema => return ((), some schema)

def requestM {m : Type → Type} [Monad m] (ask : (request : Request) → m request.Reply)
    (origin : Origin) (functions : Functions) (asked : Request) :
    StateT (Option (List Space)) m asked.Reply := do
  return (← Program.runM (handleM ask) (answer functions asked)).mapError
    (Fault.toClientError origin)

def client (inner : Client σ) (functions : Functions := {}) :
    Client (σ × Option (List Space)) where
  origin := inner.origin
  isProxy := true
  handle asked := fun (state, schema) =>
    let ((reply, schema), state) :=
      Id.run (StateT.run
        (requestM (fun request => (inner.handle request : StateM σ _)) inner.origin functions
          asked schema) state)
    (reply, state, schema)

end TupleStore.Cluster
