import TupleStore.Failure

/-!
# Queries named by methods

A method query says what to do with the entities it matches, how many of them it
considers, and which conditions they satisfy.  Its parameters are bound to the
conditions in order.
-/

namespace TupleStore

inductive Execution where
  | count
  | exists
  | delete
  | collection
  | single
  deriving DecidableEq, Repr

namespace Execution

def name : Execution → String
  | .count => "Count"
  | .exists => "Exists"
  | .delete => "Delete"
  | .collection => "Collection"
  | .single => "Single"

def all : List Execution := [.count, .exists, .delete, .collection, .single]

end Execution

inductive Keyword where
  | equals
  | greaterThan
  | greaterThanEqual
  | lessThan
  | lessThanEqual
  | between
  | isTrue
  | isFalse
  deriving DecidableEq, Repr

namespace Keyword

def label : Keyword → String
  | .equals => "SIMPLE_PROPERTY"
  | .greaterThan => "GREATER_THAN"
  | .greaterThanEqual => "GREATER_THAN_EQUAL"
  | .lessThan => "LESS_THAN"
  | .lessThanEqual => "LESS_THAN_EQUAL"
  | .between => "BETWEEN"
  | .isTrue => "TRUE"
  | .isFalse => "FALSE"

def parameters : Keyword → Nat
  | .isTrue | .isFalse => 0
  | .between => 2
  | _ => 1

end Keyword

structure Part where
  field : String
  keyword : Keyword
  deriving DecidableEq, Repr

namespace Part

/-- The comparisons of the part, whose parameters are the first of `parameters`. -/
def comparisons (part : Part) (parameters : List Value) : List Comparison :=
  let compare (operator : Operator) (value : Value) : Comparison :=
    ⟨part.field, operator, value⟩
  let first := parameters.headD .nil
  match part.keyword with
  | .equals => [compare .equal first]
  | .greaterThan => [compare .greater first]
  | .greaterThanEqual => [compare .greaterOrEqual first]
  | .lessThan => [compare .less first]
  | .lessThanEqual => [compare .lessOrEqual first]
  | .between =>
      [compare .greaterOrEqual first, compare .lessOrEqual (parameters.tail.headD .nil)]
  | .isTrue => [compare .equal (.bool true)]
  | .isFalse => [compare .equal (.bool false)]

end Part

structure MethodQuery where
  method : String
  execution : Execution
  limit : Option Nat
  parts : List Part
  deriving DecidableEq, Repr

namespace MethodQuery

/-- The query which returns only the first entity, if it returns entities. -/
def single (query : MethodQuery) : MethodQuery :=
  if query.execution = .collection then { query with execution := .single } else query

def parameterCount (query : MethodQuery) : Nat :=
  query.parts.foldr (fun part count => part.keyword.parameters + count) 0

/-- The comparisons of the parts, each with the parameters after those of the parts before. -/
def bindParts : List Part → List Value → List Comparison
  | [], _ => []
  | part :: parts, parameters =>
      part.comparisons parameters ++
        bindParts parts (parameters.drop part.keyword.parameters)

def bind (query : MethodQuery) (parameters : List Value) : Except UsageError Conditions :=
  if parameters.length = query.parameterCount then
    .ok { limit := query.limit, comparisons := bindParts query.parts parameters }
  else
    .error (.parameterCount query.method query.parameterCount parameters.length)

end MethodQuery

end TupleStore
