import TupleStore.MethodQuery.Parser
import TupleStore.Template

/-!
# Repositories

The collection-like operations on all entities of one type: saving, finding and
deleting by id, and queries named by methods or answered by stored functions.
-/

namespace TupleStore

inductive QueryResult (α : Type) where
  | count (number : Nat)
  | exists (found : Bool)
  | deleted (entities : List α)
  | collection (entities : List α)
  | single (entity : Option α)
  deriving DecidableEq, Repr

namespace QueryResult

variable {α : Type}

def toList : QueryResult α → List α
  | .deleted entities | .collection entities => entities
  | .single entity => entity.toList
  | .count _ | .exists _ => []

def size : QueryResult α → Nat
  | .count number => number
  | .exists found => if found then 1 else 0
  | .deleted entities | .collection entities => entities.length
  | .single entity => entity.toList.length

end QueryResult

namespace Repository

open Template (Action)

variable {α : Type} [entity : Entity α]

/-- Inserts a new entity and replaces the stored tuple of any other. -/
def save (template : Template α) (value : α) : Action α α :=
  if Entity.isNew value then template.insert value else template.replace value

def saveAll (template : Template α) (values : List α) : Action α (List α) :=
  Template.forEach (save template) values

def findById (id : entity.Id) : Action α (Option α) := Template.selectById id

def existsById (id : entity.Id) : Action α Bool := do
  return (← findById id).isSome

def findAll : Action α (List α) := Template.selectAll

def findAllSorted (direction : Direction) : Action α (List α) :=
  Template.select (direction.apply .any)

/-- The entities with these ids; ids without an entity are skipped. -/
def findAllById (ids : List entity.Id) : Action α (List α) :=
  if ids.isEmpty then return [] else Template.selectByIds ids

def find (conditions : Conditions) : Action α (List α) := Template.select conditions

def count : Action α Nat := Template.count .any

def deleteById (id : entity.Id) : Action α Unit := do
  let _ ← Template.deleteById id

def delete (value : α) : Action α Unit := do
  let _ ← Template.delete value

def deleteAllById (ids : List entity.Id) : Action α Unit := do
  let _ ← Template.forEach deleteById ids

def deleteAllOf (values : List α) : Action α Unit := do
  let _ ← Template.forEach delete values

def deleteAll : Action α Unit := Template.truncate

/-! ## Queries -/

def liftUsage {β : Type} (result : Except UsageError β) : Action α β :=
  .done (result.mapError .usage)

def query (method : String) : Action α MethodQuery :=
  liftUsage (MethodQuery.parse method entity.fields)

def execute (query : MethodQuery) (parameters : List Value) : Action α (QueryResult α) := do
  let conditions ← liftUsage (query.bind parameters)
  match query.execution with
  | .count => return .count (← Template.count conditions)
  | .exists => return .exists (← Template.selectOne conditions).isSome
  | .delete => return .deleted (← Template.deleteByConditions conditions)
  | .collection => return .collection (← Template.select conditions)
  | .single => return .single (← Template.selectOne conditions)

def findBy (method : String) (parameters : List Value) : Action α (List α) := do
  return (← execute (← query method) parameters).toList

def findOneBy (method : String) (parameters : List Value) : Action α (Option α) := do
  return (← execute (← query method).single parameters).toList.head?

def functionQuery (function : String) (parameters : List Value) : Action α (List α) :=
  if function.isEmpty then throw (.usage .emptyFunctionName)
  else Template.callForEntities function parameters

def functionQueryOne (function : String) (parameters : List Value) : Action α (Option α) :=
  if function.isEmpty then throw (.usage .emptyFunctionName)
  else Template.callForEntity function parameters

end Repository

end TupleStore
