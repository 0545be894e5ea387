import TupleStore.Client
import TupleStore.Value.Display

/-!
# Faults of the network client

Why a request over the network fails, as causes.  After a fault of kind
`connection` or `timeout` the connection is not used again.
-/

namespace TupleStore.Network

inductive Wait where
  | connect
  | greeting
  | request
  | read
  deriving DecidableEq, Repr

def Wait.name : Wait → String
  | .connect => "connect"
  | .greeting => "greeting"
  | .request => "request"
  | .read => "read"

inductive Fault where
  /-- The connection cannot be opened, or it is closed or broken. -/
  | lost (reason : String)
  | timedOut (wait : Wait) (milliseconds : Nat)
  | shortGreeting (length : Nat)
  | malformedSalt
  | malformedLength
  | tooLong (length limit : Nat)
  | malformedResponse
  | malformedHeader (header : Value)
  | mismatch (response request : Nat)
  /-- The server answers with an error. -/
  | server (code : Nat) (message : String)
  | authentication (cause : Fault)
  | requestTooLarge
  | unexpectedData (data : Value)
  | notATuple (value : Value)
  | malformedSpace (tuple : Tuple)
  | malformedField (field : Value)
  | malformedIndex (tuple : Tuple)
  | unknownSpace (space : String)
  | unknownName (name : UnknownName)
  | noNodes
  deriving DecidableEq, Repr

def errorKind (code : Nat) : ErrorKind :=
  match code with
  | 32 => .function
  | 33 => .noSuchProcedure
  | 35 => .noSuchIndex
  | 36 => .noSuchSpace
  | 42 => .accessDenied
  | _ => .spaceOperation

namespace Fault

def kind : Fault → ErrorKind
  | .lost _ | .shortGreeting _ | .malformedSalt | .malformedLength | .tooLong ..
  | .malformedResponse | .malformedHeader _ | .mismatch .. => .connection
  | .timedOut .. => .timeout
  | .server code _ => errorKind code
  | .authentication _ => .accessDenied
  | .requestTooLarge | .unexpectedData _ => .internal
  | .notATuple _ => .tupleConversion
  | .malformedSpace _ | .malformedField _ | .malformedIndex _ => .metadata
  | .unknownSpace _ => .noSuchSpace
  | .unknownName (.index ..) => .noSuchIndex
  | .unknownName (.field ..) => .noSuchField
  | .noNodes => .other

def message : Fault → String
  | .lost reason => reason
  | .timedOut wait milliseconds =>
      wait.name ++ " timed out after " ++ toString milliseconds ++ "ms"
  | .shortGreeting length => "greeting is too short (" ++ toString length ++ " bytes)"
  | .malformedSalt => "malformed salt: not base64"
  | .malformedLength => "malformed packet length"
  | .tooLong length limit =>
      "packet of " ++ toString length ++ " bytes exceeds the limit of " ++ toString limit
  | .malformedResponse => "malformed response: not a MessagePack value"
  | .malformedHeader header => "malformed response header " ++ header.display
  | .mismatch response request =>
      "response " ++ toString response ++ " does not match request " ++ toString request
  | .server _ message => message
  | .authentication cause =>
      Origin.network.label ++ " (" ++ cause.kind.name ++ "): " ++ cause.message
  | .requestTooLarge => "request is too large"
  | .unexpectedData data => "unexpected response data " ++ data.display
  | .notATuple value => "expected a tuple, got " ++ value.display
  | .malformedSpace tuple => "malformed space " ++ (Value.array tuple).display
  | .malformedField field => "malformed field " ++ field.display
  | .malformedIndex tuple => "malformed index " ++ (Value.array tuple).display
  | .unknownSpace space => (ClientError.noSuchSpace .network space).message
  | .unknownName name => (ClientError.unknownName .network name).message
  | .noNodes => "no Tarantool nodes configured"

def toClientError (fault : Fault) : ClientError := ⟨.network, fault.kind, fault.message⟩

def isFatal (fault : Fault) : Bool := fault.kind.isFatal

end Fault

end TupleStore.Network
