import TupleStore.Entity.Conversion
import TupleStore.Event
import TupleStore.Program

/-!
# Operations on entities

A template turns entities into tuples and back around the requests of a client.
Its operations are programs of requests and published events, so what they do
does not depend on the client that answers.
-/

namespace TupleStore

namespace Template

inductive Op (α : Type) where
  | request (request : Request)
  | publish (space : String) (event : Event α)

abbrev Op.Reply {α : Type} : Op α → Type
  | .request asked => asked.Reply
  | .publish .. => Unit

abbrev Action (α β : Type) := Program (Op α) Op.Reply Failure β

end Template

structure Template (α : Type) where
  origin : Origin
  callbacks : Callbacks α := {}

namespace Template

variable {α β : Type}

/-! ## Steps -/

def publish (space : String) (event : Event α) : Action α Unit :=
  Program.perform (Op.publish space event)

def request (request : Request) : Action α request.Answer :=
  .step (.request request) fun reply => .done (reply.mapError .client)

def liftMapping (result : Except MappingError β) : Action α β :=
  .done (result.mapError .mapping)

def forEach {ι : Type} (action : ι → Action α β) : List ι → Action α (List β)
  | [] => return []
  | item :: items => return (← action item) :: (← forEach action items)

def primaryOf (space : Space) : Action α Index :=
  match space.primary? with
  | some index => return index
  | none => throw (.noPrimary space.name)

def selectTuples (space : Space) (conditions : Conditions) : Action α (List Tuple) :=
  request (.select space.name conditions)

variable [entity : Entity α]

def metadata : Action α Space := do
  match ← request (.space entity.space) with
  | some space => return space
  | none => throw (.mapping (.missingSpace entity.space))

def toEntity (space : Space) (tuple : Tuple) : Action α α := do
  publish space.name (.afterLoad tuple)
  let value ← liftMapping (entity.codec.fromTuple tuple space)
  publish space.name (.afterConvert value tuple)
  return value

def prepareWrite (template : Template α) (value : α) (space : Space) : Action α (α × Tuple) := do
  let value := template.callbacks.runBeforeConvert space.name value
  publish space.name (.beforeConvert value)
  let tuple ← liftMapping (entity.codec.toTuple value space)
  let value := template.callbacks.runBeforeSave space.name tuple value
  publish space.name (.beforeSave value tuple)
  return (value, tuple)

def saved (template : Template α) (value : α) (stored : List Tuple) (space : Space) :
    Action α α :=
  match stored with
  | [] => throw (.client (.emptyRows template.origin))
  | tuple :: _ => do
      publish space.name (.afterSave value tuple)
      toEntity space tuple

def deleteTuple (space : Space) (key : Key) : Action α (Option Tuple) := do
  match ← request (.delete space.name key) with
  | [] => return none
  | tuple :: _ =>
      publish space.name (.afterDelete tuple)
      return some tuple

/-! ## Reading -/

def selectOne (conditions : Conditions) : Action α (Option α) := do
  let space ← metadata
  match ← selectTuples space conditions with
  | [] => return none
  | tuple :: _ => some <$> toEntity space tuple

def selectById (id : entity.Id) : Action α (Option α) := do
  let key ← liftMapping (Entity.keyOf α id)
  selectOne (.primaryKey key)

def selectByIds (ids : List entity.Id) : Action α (List α) := do
  return (← forEach selectById ids).filterMap fun found => found

def select (conditions : Conditions) : Action α (List α) := do
  let space ← metadata
  forEach (toEntity space) (← selectTuples space conditions)

def selectAll : Action α (List α) := select .any

def selectEach (conditions : Conditions) : Action α (List (Except Failure α)) := do
  let selected : Action α (Space × List Tuple) := do
    let space ← metadata
    return (space, ← selectTuples space conditions)
  match ← selected.attempt with
  | .error failure => return [.error failure]
  | .ok (space, tuples) => forEach (fun tuple => (toEntity space tuple).attempt) tuples

def count (conditions : Conditions) : Action α Nat := do
  let space ← metadata
  return (← selectTuples space conditions).length

/-! ## Writing -/

def insert (template : Template α) (value : α) : Action α α := do
  let space ← metadata
  let (value, tuple) ← template.prepareWrite value space
  template.saved value (← request (.insert space.name tuple)) space

def replace (template : Template α) (value : α) : Action α α := do
  let space ← metadata
  let (value, tuple) ← template.prepareWrite value space
  template.saved value (← request (.replace space.name tuple)) space

/-- Assigns the fields of `value` which are neither nil nor in the key to the selected tuples. -/
def update (template : Template α) (conditions : Conditions) (value : α) :
    Action α (List α) := do
  let space ← metadata
  let primary ← primaryOf space
  let (_, tuple) ← template.prepareWrite value space
  let operations := (updateOperations tuple).filter fun operation =>
    !primary.parts.contains operation.position
  let matched ← selectTuples space conditions
  let updated ← forEach (fun tuple =>
    request (.update space.name (primary.keyOf tuple) operations)) matched
  forEach (toEntity space) updated.flatten

/-! ## Deleting -/

def deleteKey (key : Key) : Action α (Option α) := do
  let space ← metadata
  match ← deleteTuple space key with
  | none => return none
  | some tuple => some <$> toEntity space tuple

def delete (value : α) : Action α (Option α) := do
  deleteKey (← liftMapping (Entity.key value))

def deleteById (id : entity.Id) : Action α (Option α) := do
  deleteKey (← liftMapping (Entity.keyOf α id))

/-- Deletes the selected tuples one by one, and then reads all of them as entities. -/
def deleteByConditions (conditions : Conditions) : Action α (List α) := do
  let space ← metadata
  let primary ← primaryOf space
  let deleted ← forEach (fun tuple => deleteTuple space (primary.keyOf tuple))
    (← selectTuples space conditions)
  forEach (toEntity space) (deleted.filterMap fun tuple => tuple)

def truncate : Action α Unit := request (.truncate entity.space)

/-! ## Stored functions -/

omit entity in
def callResult (function : String) (arguments : List Value) : Action α (Option Value) := do
  return (← request (.call function arguments)).head?.filter fun value => !value.isNil

omit entity in
def callResults (function : String) (arguments : List Value) : Action α (List Value) := do
  match ← callResult function arguments with
  | none => return []
  | some (.array values) => return values
  | some value => throw (.mapping (.notAnArray function value))

omit entity in
def readResult (codec : Codec β) (value : Value) : Action α β :=
  liftMapping ((codec.load value).mapError .unreadable)

omit entity in
def call (codec : Codec β) (function : String) (arguments : List Value) :
    Action α (Option β) := do
  match ← callResult function arguments with
  | none => return none
  | some value => some <$> readResult codec value

omit entity in
def callForAll (codec : Codec β) (function : String) (arguments : List Value) :
    Action α (List β) := do
  forEach (readResult codec) (← callResults function arguments)

/-- An array is a tuple of the space; other results are written entities. -/
def resultToEntity (space : Option Space) (value : Value) : Action α α :=
  match value, space with
  | .array tuple, some space => toEntity space tuple
  | value, space => liftMapping (entity.codec.fromResult value space)

def callForEntity (function : String) (arguments : List Value) : Action α (Option α) := do
  match ← callResult function arguments with
  | none => return none
  | some value =>
      let space ← request (.space entity.space)
      some <$> resultToEntity space value

def callForEntities (function : String) (arguments : List Value) : Action α (List α) := do
  let results ← callResults function arguments
  let space ← request (.space entity.space)
  forEach (resultToEntity space) results

/-! ## Running -/

omit entity in
def handle {σ : Type} (client : Client σ) :
    (op : Op α) → σ × List (String × Event α) → op.Reply × (σ × List (String × Event α))
  | .request asked, (state, events) =>
      let (reply, state) := client.handle asked state
      (reply, state, events)
  | .publish space event, (state, events) => ((), state, (space, event) :: events)

omit entity in
def run {σ : Type} (client : Client σ) (action : Action α β) (state : σ) :
    Except Failure β × σ × List (String × Event α) :=
  let (result, state, events) := Program.run (handle client) action (state, [])
  (result, state, events.reverse)

end Template

end TupleStore
