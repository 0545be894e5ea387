import TupleStore.Conditions

/-!
# Clients

A client answers requests on spaces.  `Request` lists the requests with the type
of each answer; a `Client` is a handler of requests over a state of its own.  An
embedded database, a cluster behind stored functions and a network connection
are clients, and everything above is written against requests.
-/

namespace TupleStore

/-! ## Errors -/

inductive ErrorKind where
  | connection
  | timeout
  | accessDenied
  | noSuchSpace
  | noSuchIndex
  | noSuchField
  | noSuchProcedure
  | function
  | spaceOperation
  | tupleConversion
  | metadata
  | internal
  | other
  deriving DecidableEq, Repr

namespace ErrorKind

def name : ErrorKind → String
  | .connection => "connection"
  | .timeout => "timeout"
  | .accessDenied => "access denied"
  | .noSuchSpace => "no such space"
  | .noSuchIndex => "no such index"
  | .noSuchField => "no such field"
  | .noSuchProcedure => "no such procedure"
  | .function => "function"
  | .spaceOperation => "space operation"
  | .tupleConversion => "tuple conversion"
  | .metadata => "metadata"
  | .internal => "internal"
  | .other => "other"

def all : List ErrorKind :=
  [.connection, .timeout, .accessDenied, .noSuchSpace, .noSuchIndex, .noSuchField,
    .noSuchProcedure, .function, .spaceOperation, .tupleConversion, .metadata, .internal,
    .other]

def ofName? (name : String) : Option ErrorKind := all.find? fun kind => kind.name == name

def isFatal : ErrorKind → Bool
  | .connection | .timeout => true
  | _ => false

end ErrorKind

/-- Where a client's answers come from. -/
inductive Origin where
  | embedded
  | network
  deriving DecidableEq, Repr

def Origin.label : Origin → String
  | .embedded => "mock DB error"
  | .network => "Tarantool error"

structure ClientError where
  origin : Origin
  kind : ErrorKind
  message : String
  deriving DecidableEq, Repr

namespace ClientError

def display (error : ClientError) : String :=
  error.origin.label ++ " (" ++ error.kind.name ++ "): " ++ error.message

def custom (origin : Origin) (message : String) : ClientError := ⟨origin, .other, message⟩

def noSuchSpace (origin : Origin) (space : String) : ClientError :=
  ⟨origin, .noSuchSpace, "space " ++ space ++ " not found"⟩

def tooManyRows (origin : Origin) (expected : Nat) : ClientError :=
  ⟨origin, .internal, "result has more tuples than the expected " ++ toString expected⟩

def emptyRows (origin : Origin) : ClientError := ⟨origin, .internal, "result is empty"⟩

def unknownName (origin : Origin) : UnknownName → ClientError
  | .index name space =>
      ⟨origin, .noSuchIndex, "index " ++ name ++ " not found in space " ++ space⟩
  | .field name space =>
      ⟨origin, .noSuchField, "field " ++ name ++ " not found in space " ++ space⟩

end ClientError

/-! ## Requests -/

structure UpdateOperation where
  operator : String
  position : Nat
  value : Value
  deriving DecidableEq, Repr

namespace UpdateOperation

def assign (position : Nat) (value : Value) : UpdateOperation := ⟨"=", position, value⟩

def toValue (operation : UpdateOperation) : Value :=
  .array [.text operation.operator, .nat operation.position, operation.value]

end UpdateOperation

inductive Request where
  | space (name : String)
  | refreshMetadata
  | select (space : String) (conditions : Conditions)
  | insert (space : String) (tuple : Tuple)
  | replace (space : String) (tuple : Tuple)
  | update (space : String) (key : Key) (operations : List UpdateOperation)
  | upsert (space : String) (tuple : Tuple) (operations : List UpdateOperation)
  | delete (space : String) (key : Key)
  | truncate (space : String)
  | call (function : String) (arguments : List Value)
  | eval (expression : String) (arguments : List Value)
  deriving DecidableEq, Repr

namespace Request

abbrev Answer : Request → Type
  | .space _ => Option Space
  | .select .. | .insert .. | .replace .. | .update .. | .delete .. => List Tuple
  | .refreshMetadata | .upsert .. | .truncate _ => Unit
  | .call .. | .eval .. => List Value

abbrev Reply (request : Request) : Type := Except ClientError request.Answer

end Request

structure Client (σ : Type) where
  origin : Origin
  /-- Whether data requests go through the stored functions of a cluster. -/
  isProxy : Bool := false
  handle : (request : Request) → σ → request.Reply × σ

end TupleStore
