import TupleStore.Entity.Basic
import TupleStore.Time

/-!
# Events and callbacks

Reading and writing an entity publishes an event at each stage.  Callbacks run
at the stages of a write and may replace the entity.
-/

namespace TupleStore

inductive Event (α : Type) where
  | beforeConvert (entity : α)
  | beforeSave (entity : α) (tuple : Tuple)
  | afterSave (entity : α) (tuple : Tuple)
  | afterLoad (tuple : Tuple)
  | afterConvert (entity : α) (tuple : Tuple)
  | afterDelete (tuple : Tuple)
  deriving DecidableEq, Repr

namespace Event

variable {α : Type}

def name : Event α → String
  | .beforeConvert _ => "onBeforeConvert"
  | .beforeSave .. => "onBeforeSave"
  | .afterSave .. => "onAfterSave"
  | .afterLoad _ => "onAfterLoad"
  | .afterConvert .. => "onAfterConvert"
  | .afterDelete _ => "onAfterDelete"

def entity? : Event α → Option α
  | .beforeConvert entity | .beforeSave entity _ | .afterSave entity _
  | .afterConvert entity _ => some entity
  | .afterLoad _ | .afterDelete _ => none

def tuple? : Event α → Option Tuple
  | .beforeSave _ tuple | .afterSave _ tuple | .afterLoad tuple | .afterConvert _ tuple
  | .afterDelete tuple => some tuple
  | .beforeConvert _ => none

end Event

structure Callbacks (α : Type) where
  /-- Each takes the name of the space and the entity. -/
  beforeConvert : List (String → α → α) := []
  /-- Each takes the name of the space, the tuple to be stored and the entity. -/
  beforeSave : List (String → Tuple → α → α) := []

namespace Callbacks

variable {α : Type}

def runBeforeConvert (callbacks : Callbacks α) (space : String) (entity : α) : α :=
  callbacks.beforeConvert.foldl (fun entity callback => callback space entity) entity

def runBeforeSave (callbacks : Callbacks α) (space : String) (tuple : Tuple) (entity : α) : α :=
  callbacks.beforeSave.foldl (fun entity callback => callback space tuple entity) entity

end Callbacks

class Auditable (α : Type) where
  markCreated : Instant → α → α
  markModified : Instant → α → α

def auditing {α : Type} [Entity α] [Auditable α] (now : Instant) : String → α → α :=
  fun _ entity =>
    if Entity.isNew entity then Auditable.markCreated now entity
    else Auditable.markModified now entity

end TupleStore
