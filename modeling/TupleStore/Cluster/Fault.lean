import TupleStore.Client
import TupleStore.Text.Cut
import TupleStore.Value.Display

/-!
# Faults of the cluster client

Why a request to a cluster fails: its stored functions fail, or what they return
is not understood.
-/

namespace TupleStore.Cluster

inductive Fault where
  /-- The client which calls the functions fails. -/
  | client (error : ClientError)
  /-- A function reports an error. -/
  | reported (message : String)
  | malformedResult (result : Value)
  | notATuple (value : Value)
  | notTruncated (space : String)
  | unknownSpace (space : String)
  | unknownName (name : UnknownName)
  | noPrimary (space : String)
  | noSpaces
  | spaceName (name : Value)
  | noFormat (space : String)
  | noFieldName (field : Value)
  | noIndexName (index : Nat) (space : String)
  | unknownPart (index space path : String)
  deriving DecidableEq, Repr

namespace Fault

def saysMissing (message : String) : Bool :=
  (Text.findWord? "doesn't exist".toList message.toList).isSome

def kind : Fault → ErrorKind
  | .client error => error.kind
  | .reported message => if saysMissing message then .noSuchSpace else .spaceOperation
  | .malformedResult _ | .notATuple _ => .tupleConversion
  | .notTruncated _ => .spaceOperation
  | .unknownSpace _ => .noSuchSpace
  | .unknownName (.index ..) | .noPrimary _ => .noSuchIndex
  | .unknownName (.field ..) => .noSuchField
  | .noSpaces | .spaceName _ | .noFormat _ | .noFieldName _ | .noIndexName ..
  | .unknownPart .. => .metadata

def message (origin : Origin) : Fault → String
  | .client error => error.message
  | .reported message => message
  | .malformedResult result => "malformed crud result " ++ result.display
  | .notATuple value => "expected a tuple, got " ++ value.display
  | .notTruncated space => "failed to truncate space " ++ space
  | .unknownSpace space => (ClientError.noSuchSpace origin space).message
  | .unknownName name => (ClientError.unknownName origin name).message
  | .noPrimary space => "space " ++ space ++ " has no primary index"
  | .noSpaces => "cluster schema has no spaces"
  | .spaceName name => "invalid space name " ++ name.display
  | .noFormat space => "space " ++ space ++ " has no format"
  | .noFieldName field => "field format " ++ field.display ++ " has no name"
  | .noIndexName index space =>
      "index " ++ toString index ++ " of space " ++ space ++ " has no name"
  | .unknownPart index space path =>
      "index " ++ index ++ " of space " ++ space ++ " refers to unknown field " ++ path

def toClientError (origin : Origin) : Fault → ClientError
  | .client error => error
  | fault => ⟨origin, fault.kind, fault.message origin⟩

end Fault

end TupleStore.Cluster
