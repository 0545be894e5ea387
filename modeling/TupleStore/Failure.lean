import TupleStore.Client
import TupleStore.Codec.Basic

/-!
# Failures of data access

Why an operation on entities or caches fails, as causes.  `Failure.category`
sorts them and `Failure.display` words them.
-/

namespace TupleStore

inductive MappingError where
  | unreadable (error : ReadError)
  | notAMap (value : Value) (space : String)
  | fieldName (value : Value)
  | unknownField (field space : String)
  | unreadableTuple (space : String) (error : ReadError)
  | missingSpace (space : String)
  | noIdFields (space : String)
  | idParts (space : String) (given expected : Nat)
  | missingIdField (field space : String)
  | notComposite (value : Value) (space : String) (expected : Nat)
  | notAnArray (function : String) (value : Value)
  deriving DecidableEq, Repr

namespace MappingError

def label : String := "mapping error: "

def message : MappingError → String
  | .unreadable error => error.message
  | .notAMap value space =>
      "cannot store " ++ value.display ++ " in space " ++ space ++ ": expected a map of fields"
  | .fieldName value => "field name " ++ value.display ++ " is not a string"
  | .unknownField field space =>
      "field " ++ field ++ " is not present in the format of space " ++ space
  | .unreadableTuple space error =>
      "cannot read tuple from space " ++ space ++ ": " ++ label ++ error.message
  | .missingSpace space => "Space metadata not found for space " ++ space
  | .noIdFields space => "Can't retrieve id fields from entity " ++ space
  | .idParts space given expected =>
      "id of " ++ space ++ " has " ++ toString given ++ " parts, expected " ++ toString expected
  | .missingIdField field space =>
      "Can't retrieve id field " ++ field ++ " from id of entity " ++ space
  | .notComposite value space expected =>
      "id " ++ value.display ++ " of " ++ space ++ " does not have the " ++ toString expected ++
        " parts of a composite key"
  | .notAnArray function value =>
      "function " ++ function ++ " returned " ++ value.display ++ ", expected an array"

end MappingError

inductive UsageError where
  | notAQuery (method : String)
  | disjunction
  | unknownProperty (part : String)
  | unsupportedKeyword (keyword part : String)
  | parameterCount (method : String) (expected given : Nat)
  | emptyFunctionName
  | noNodes
  | malformedNode (node : String)
  | nilNotCached (cache : String)
  deriving DecidableEq, Repr

def UsageError.message : UsageError → String
  | .notAQuery method => "cannot derive a query from method " ++ method
  | .disjunction => "Tarantool does not support an OR operator"
  | .unknownProperty part => "No property found for part [" ++ part ++ "]"
  | .unsupportedKeyword keyword part =>
      "Unsupported keyword [" ++ keyword ++ "] in part [" ++ part ++ "]"
  | .parameterCount method expected given =>
      "query " ++ method ++ " takes " ++ toString expected ++ " parameters, but " ++
        toString given ++ " were given"
  | .emptyFunctionName => "function name must not be empty"
  | .noNodes => "at least one node is required"
  | .malformedNode node => "node " ++ node ++ " must have host and port parts"
  | .nilNotCached cache =>
      "Cache '" ++ cache ++
        "' does not allow 'null' values; avoid storing null via the cache configuration"

inductive CacheError where
  | client (error : ClientError)
  | malformedEntry (tuple : Tuple)
  | unreadable (error : ReadError)
  | other (message : String)
  deriving DecidableEq, Repr

def CacheError.message : CacheError → String
  | .client error => error.display
  | .malformedEntry tuple => "malformed cache entry " ++ (Value.array tuple).display
  | .unreadable error => error.message
  | .other message => message

inductive Category where
  | serverConnection
  | dataAccess
  | dataRetrieval
  | spaceMetadata
  | mapping
  | invalidUsage
  | cacheAccess
  | uncategorized
  deriving DecidableEq, Repr

def Category.label : Category → String
  | .serverConnection => "failed to communicate with Tarantool: "
  | .dataAccess => "data access error: "
  | .dataRetrieval => "data retrieval error: "
  | .spaceMetadata => "space metadata error: "
  | .mapping => MappingError.label
  | .invalidUsage => "invalid API usage: "
  | .cacheAccess => "cache access error: "
  | .uncategorized => ""

def ErrorKind.category : ErrorKind → Category
  | .connection | .timeout => .serverConnection
  | .noSuchField | .metadata | .spaceOperation | .tupleConversion | .accessDenied => .dataAccess
  | .internal | .function | .noSuchIndex | .noSuchProcedure => .dataRetrieval
  | .noSuchSpace => .spaceMetadata
  | .other => .uncategorized

inductive Failure where
  | client (error : ClientError)
  | mapping (error : MappingError)
  | usage (error : UsageError)
  | cache (error : CacheError)
  /-- The space has no primary index. -/
  | noPrimary (space : String)
  deriving DecidableEq, Repr

namespace Failure

def category : Failure → Category
  | .client error => error.kind.category
  | .mapping _ => .mapping
  | .usage _ => .invalidUsage
  | .cache _ => .cacheAccess
  | .noPrimary _ => .spaceMetadata

def message : Failure → String
  | .client error => error.display
  | .mapping error => error.message
  | .usage error => error.message
  | .cache error => error.message
  | .noPrimary space => "space " ++ space ++ " has no primary index"

def display (failure : Failure) : String := failure.category.label ++ failure.message

end Failure

end TupleStore
