import TupleStore.Database.Table
import TupleStore.Text.Cut

/-!
# The embedded database

A database in memory: tables by name, stored procedures with prepared answers,
and the methods of spaces which change the schema.  A failing request changes
nothing.
-/

namespace TupleStore

namespace Database

namespace Fault

def kind : Fault → ErrorKind
  | .unknownSpace _ => .noSuchSpace
  | .noPrimary _ => .noSuchIndex
  | .unknownName (.index ..) => .noSuchIndex
  | .unknownName (.field ..) => .noSuchField
  | .missingField .. => .tupleConversion
  | .spaceExists _ | .duplicateKey .. | .keyModified _ | .operandType ..
  | .unknownOperator _ => .spaceOperation
  | .malformedArguments _ => .other
  | .undefinedProcedure _ => .noSuchProcedure
  | .unsupportedExpression _ => .function
  | .raised kind _ => kind

def message : Fault → String
  | .unknownSpace space => "space " ++ space ++ " not found"
  | .spaceExists space => "space " ++ space ++ " already exists"
  | .noPrimary space => "space " ++ space ++ " has no primary index"
  | .unknownName name => (ClientError.unknownName .embedded name).message
  | .missingField position name =>
      "tuple field " ++ toString position ++ " (" ++ name ++
        ") required by space format is missing"
  | .duplicateKey index space =>
      "Duplicate key exists in unique index \"" ++ index ++ "\" in space \"" ++ space ++ "\""
  | .keyModified space =>
      "Attempt to modify a tuple field which is part of primary index in space '" ++ space ++ "'"
  | .operandType operator position =>
      "argument type in operation '" ++ operator ++ "' on field " ++ toString position ++
        " does not match field type"
  | .unknownOperator operator => "unknown UPDATE operation '" ++ operator ++ "'"
  | .malformedArguments expectation => expectation
  | .undefinedProcedure name => "Procedure '" ++ name ++ "' is not defined"
  | .unsupportedExpression expression => "unsupported expression in mock DB: " ++ expression
  | .raised _ message => message

def toClientError (fault : Fault) : ClientError := ⟨.embedded, fault.kind, fault.message⟩

end Fault

/-! ## Stored procedures -/

/-- A prepared answer; `echo` answers with the arguments. -/
inductive Outcome where
  | echo
  | values (values : List Value)
  | failure (kind : ErrorKind) (message : String)
  deriving DecidableEq, Repr

/-- A stored procedure answers call after call from a list, whose last answer repeats. -/
structure Procedure where
  name : String
  outcomes : List Outcome
  deriving DecidableEq, Repr

namespace Procedure

def answer (procedure : Procedure) (arguments : List Value) : Except Fault (List Value) :=
  match procedure.outcomes.head? with
  | none => .ok []
  | some .echo => .ok arguments
  | some (.values values) => .ok values
  | some (.failure kind message) => .error (.raised kind message)

def next (procedure : Procedure) : Procedure :=
  match procedure.outcomes with
  | _ :: outcome :: outcomes => { procedure with outcomes := outcome :: outcomes }
  | _ => procedure

end Procedure

end Database

open Database

structure Database where
  tables : List Table := []
  procedures : List Procedure := []
  nextId : UInt32 := 512
  /-- The calls of stored procedures so far. -/
  calls : List (String × List Value) := []
  deriving DecidableEq, Repr

namespace Database

/-! ## Tables by name -/

def table? (database : Database) (name : String) : Option Table :=
  database.tables.find? fun table => table.space.name == name

def table (database : Database) (name : String) : Except Fault Table :=
  match database.table? name with
  | none => .error (.unknownSpace name)
  | some table => .ok table

def putTable (database : Database) (table : Table) : Database :=
  { database with
    tables := database.tables.map fun other =>
      if other.space.name = table.space.name then table else other }

/-- Adds a space with the next number, holding `tuples`.  Behind the last number comes 0. -/
def createSpace (database : Database) (space : Space) (tuples : List Tuple) :
    Except Fault Database := do
  if (database.table? space.name).isSome then throw (.spaceExists space.name)
  let table ← tuples.foldlM Table.insert ⟨{ space with id := database.nextId }, []⟩
  return { database with
    tables := database.tables ++ [table]
    nextId := database.nextId + 1 }

def dropSpace (database : Database) (name : String) : Except Fault Database := do
  let _ ← database.table name
  return { database with
    tables := database.tables.filter fun table => table.space.name != name }

def truncate (database : Database) (name : String) : Except Fault Database := do
  let table ← database.table name
  return database.putTable { table with tuples := [] }

def register (database : Database) (procedure : Procedure) : Database :=
  { database with
    procedures := procedure :: database.procedures.filter fun other =>
      other.name != procedure.name }

/-! ## Methods of spaces -/

def readField (value : Value) : Except Fault Field := do
  let some name := (value.get? "name").bind Value.text?
    | throw (.malformedArguments "field format requires a name")
  let type := ((value.get? "type").bind Value.text?).getD "any"
  return ⟨name, type, value.get? "is_nullable" = some (.bool true)⟩

def readPart (space : Space) (value : Value) : Except Fault Nat := do
  let some name := value.text?
    | throw (.malformedArguments "index parts must be field names")
  match space.fieldPosition? name with
  | none => throw (.unknownName (.field name space.name))
  | some position => return position

/-- An index with the next number; it is unique unless the options say otherwise. -/
def readIndex (space : Space) (name : String) (options : Value) : Except Fault Index := do
  let some (.array parts) := options.get? "parts"
    | throw (.malformedArguments "create_index expects parts")
  let parts ← parts.mapM (readPart space)
  return ⟨.ofNat space.indexes.length, name, options.get? "unique" ≠ some (.bool false), parts⟩

def setFormat (database : Database) (space : String) (arguments : List Value) :
    Except Fault Database := do
  let some (.array fields) := arguments.head?
    | throw (.malformedArguments "format expects an array of fields")
  let format ← fields.mapM readField
  let table ← database.table space
  return database.putTable { table with space := { table.space with format } }

def createIndex (database : Database) (space : String) (arguments : List Value) :
    Except Fault Database := do
  let some name := arguments.head?.bind Value.text?
    | throw (.malformedArguments "create_index expects an index name")
  let table ← database.table space
  let index ← readIndex table.space name (arguments.getD 1 (.map []))
  return database.putTable
    { table with space := { table.space with indexes := table.space.indexes ++ [index] } }

def runMethod (database : Database) (space method : String) (arguments : List Value) :
    Except Fault Database :=
  match method with
  | "truncate" => database.truncate space
  | "drop" => database.dropSpace space
  | "format" => database.setFormat space arguments
  | "create_index" => database.createIndex space arguments
  | _ => .error (.undefinedProcedure ("box.space." ++ space ++ ":" ++ method))

/-- The space and method named by `box.space.SPACE:METHOD`. -/
def spaceMethod? (name : List Char) : Option (String × String) := do
  let rest ← Text.dropPrefix? "box.space.".toList name
  let (space, method) ← Text.splitOnce? ':' rest
  return (String.ofList space, String.ofList method)

/-! ## Calls and expressions -/

def callProcedure (database : Database) (name : String) (arguments : List Value) :
    Except Fault (List Value) × Database :=
  match database.procedures.find? fun procedure => procedure.name == name with
  | none => (.error (.undefinedProcedure name), database)
  | some procedure =>
      (procedure.answer arguments,
        { database with
          procedures := database.procedures.map fun other =>
            if other.name = name then other.next else other
          calls := database.calls ++ [(name, arguments)] })

def createdSpace? (expression : List Char) : Option String := do
  let rest ← Text.dropPrefix? "box.schema.space.create('".toList expression
  return String.ofList (← Text.dropSuffix? "')".toList rest)

def strip (expression : String) : List Char :=
  let trimmed := Text.trim expression.toList
  Text.trim (Text.dropRepeated "return ".toList trimmed.length trimmed)

def evaluate (database : Database) (expression : String) : Except Fault Database :=
  let expression := strip expression
  match createdSpace? expression with
  | some name => database.createSpace { id := 0, name } []
  | none =>
      match (Text.dropSuffix? "()".toList expression).bind spaceMethod? with
      | some (space, method) => database.runMethod space method []
      | none => .error (.unsupportedExpression (String.ofList expression))

/-! ## Requests -/

def commit {α β : Type} (database : Database) (outcome : Except Fault α)
    (next : α → β × Database) : Except ClientError β × Database :=
  match outcome with
  | .error fault => (.error fault.toClientError, database)
  | .ok result =>
      let (answer, database) := next result
      (.ok answer, database)

def onTable {α β : Type} (database : Database) (name : String)
    (change : Table → Except Fault α) (next : α → β × Table) :
    Except ClientError β × Database :=
  database.commit (database.table name >>= change) fun result =>
    let (answer, table) := next result
    (answer, database.putTable table)

def handle : (request : Request) → Database → request.Reply × Database
  | .space name, database => (.ok ((database.table? name).map Table.space), database)
  | .refreshMetadata, database => (.ok (), database)
  | .select space conditions, database =>
      database.commit (database.table space >>= fun table => table.select conditions)
        fun tuples => (tuples, database)
  | .insert space tuple, database =>
      database.onTable space (fun table => table.insert tuple) fun table => ([tuple], table)
  | .replace space tuple, database =>
      database.onTable space (fun table => table.replace tuple) fun table => ([tuple], table)
  | .update space key operations, database =>
      database.onTable space (fun table => table.update key operations)
        fun (table, tuple) => (tuple.toList, table)
  | .upsert space tuple operations, database =>
      database.onTable space (fun table => table.upsert tuple operations)
        fun table => ((), table)
  | .delete space key, database =>
      database.onTable space (fun table => table.delete key)
        fun (table, tuple) => (tuple.toList, table)
  | .truncate space, database =>
      database.commit (database.truncate space) fun database => ((), database)
  | .call function arguments, database =>
      match spaceMethod? function.toList with
      | some (space, method) =>
          database.commit (database.runMethod space method arguments)
            fun database => ([], database)
      | none =>
          let (answer, database) := database.callProcedure function arguments
          (answer.mapError Fault.toClientError, database)
  | .eval expression _, database =>
      database.commit (database.evaluate expression) fun database => ([], database)

end Database

def embedded : Client Database where
  origin := .embedded
  handle := Database.handle

end TupleStore
