import TupleStore.Proofs.OrderlyActions

/-!
# The order of events

What listeners learn from operations on the entities of an embedded database: each tuple
which a deletion takes out and each tuple which a write stores, in order and also when the
operation fails later on; and the events around a conversion follow each other directly.
-/

namespace TupleStore.Template

variable {α : Type}

/-! ## Operations -/

/-- The operations of a template on entities, but for emptying their space and streaming. -/
inductive Operation (α : Type) [entity : Entity α] : Type 1 where
  | metadata
  | selectById (id : entity.Id)
  | selectByIds (ids : List entity.Id)
  | selectOne (conditions : Conditions)
  | select (conditions : Conditions)
  | selectAll
  | count (conditions : Conditions)
  | insert (value : α)
  | replace (value : α)
  | update (conditions : Conditions) (value : α)
  | delete (value : α)
  | deleteById (id : entity.Id)
  | deleteByConditions (conditions : Conditions)
  | call {β : Type} (codec : Codec β) (function : String) (arguments : List Value)
  | callForAll {β : Type} (codec : Codec β) (function : String) (arguments : List Value)
  | callForEntity (function : String) (arguments : List Value)
  | callForEntities (function : String) (arguments : List Value)

namespace Operation

variable [entity : Entity α]

abbrev Result : Operation α → Type
  | .metadata => Space
  | .count _ => Nat
  | .selectById _ | .selectOne _ | .delete _ | .deleteById _ | .callForEntity .. => Option α
  | .insert _ | .replace _ => α
  | .selectByIds _ | .select _ | .selectAll | .update .. | .deleteByConditions _
  | .callForEntities .. => List α
  | @call _ _ β .. => Option β
  | @callForAll _ _ β .. => List β

def action (template : Template α) : (operation : Operation α) → Action α operation.Result
  | .metadata => Template.metadata
  | .selectById id => Template.selectById id
  | .selectByIds ids => Template.selectByIds ids
  | .selectOne conditions => Template.selectOne conditions
  | .select conditions => Template.select conditions
  | .selectAll => Template.selectAll
  | .count conditions => Template.count conditions
  | .insert value => template.insert value
  | .replace value => template.replace value
  | .update conditions value => template.update conditions value
  | .delete value => Template.delete value
  | .deleteById id => Template.deleteById id
  | .deleteByConditions conditions => Template.deleteByConditions conditions
  | .call codec function arguments => Template.call codec function arguments
  | .callForAll codec function arguments => Template.callForAll codec function arguments
  | .callForEntity function arguments => Template.callForEntity function arguments
  | .callForEntities function arguments => Template.callForEntities function arguments

def kind : Operation α → Effect
  | .insert _ | .replace _ => .saves
  | .delete _ | .deleteById _ | .deleteByConditions _ => .deletes
  | _ => .none

theorem orderly (template : Template α) (operation : Operation α) :
    Orderly operation.kind entity.space (operation.action template) := by
  cases operation with
  | metadata => exact .metadata
  | selectById id => exact .selectById id
  | selectByIds ids =>
      apply Orderly.bind (.forEach .selectById ids)
      intro found
      exact .done _
  | selectOne conditions => exact .selectOne conditions
  | select conditions => exact .select conditions
  | selectAll => exact .select .any
  | count conditions =>
      apply Orderly.bind .metadata
      intro space
      apply Orderly.bind (.selectTuples space conditions)
      intro tuples
      exact .done _
  | insert value =>
      apply Orderly.bind .metadata
      intro space
      exact .write (Orderly.stores_insert space.name) value
  | replace value =>
      apply Orderly.bind .metadata
      intro space
      exact .write (Orderly.stores_replace space.name) value
  | update conditions value => exact .update template conditions value
  | delete value =>
      apply Orderly.bind (.done _)
      intro key
      exact .deleteKey key
  | deleteById id =>
      apply Orderly.bind (.done _)
      intro key
      exact .deleteKey key
  | deleteByConditions conditions => exact .deleteByConditions conditions
  | call codec function arguments =>
      apply Orderly.bind (.callResult function arguments)
      intro result
      cases result with
      | none => exact .done _
      | some value => exact .map (.done _) some
  | callForAll codec function arguments =>
      apply Orderly.bind (.callResults function arguments)
      intro results
      exact .forEach (fun value => .done _) results
  | callForEntity function arguments =>
      apply Orderly.bind (.callResult function arguments)
      intro result
      cases result with
      | none => exact .done _
      | some value =>
          apply Orderly.bind (.request (silent_none _))
          intro space
          exact .map (.resultToEntity space value) some
  | callForEntities function arguments =>
      apply Orderly.bind (.callResults function arguments)
      intro results
      apply Orderly.bind (.request (silent_none _))
      intro space
      exact .forEach (.resultToEntity space) results

end Operation

/-! ## Sequences -/

structure Turn where
  Stored : Type
  entity : Entity Stored
  template : Template Stored
  operation : Operation Stored

structure Performance where
  turn : Turn
  database : Database

namespace Performance

variable (performance : Performance)

instance : Entity performance.turn.Stored := performance.turn.entity

def action : Action performance.turn.Stored performance.turn.operation.Result :=
  performance.turn.operation.action performance.turn.template

def result : Except Failure performance.turn.operation.Result :=
  (run embedded performance.action performance.database).1

def left : Database := (run embedded performance.action performance.database).2.1

def log : List (String × Event Unit) :=
  (run embedded performance.action performance.database).2.2.map erase

def removed : List (String × Tuple) :=
  if performance.turn.operation.kind = .deletes then
    (history performance.action performance.database).flatMap
      (Moment.removed performance.turn.entity.space)
  else []

def stored : List (String × Tuple) :=
  if performance.turn.operation.kind = .saves then
    (history performance.action performance.database).flatMap Moment.stored
  else []

theorem orderly : Orderly performance.turn.operation.kind performance.turn.entity.space
    performance.action := performance.turn.operation.orderly performance.turn.template

theorem log_eq : performance.log =
    (events (history performance.action performance.database)).map erase := by
  rw [log, run_eq]

theorem placed : Placed (Unmapped performance.result) performance.log := by
  rw [log_eq, result, run_eq]
  exact (performance.orderly.placed performance.database).erase

theorem deletions_log : deletions performance.log = performance.removed := by
  rw [log_eq, deletions_erase]
  exact (performance.orderly.tracked performance.database).deletions

theorem savings_log : savings performance.log = performance.stored := by
  rw [log_eq, savings_erase]
  exact (performance.orderly.tracked performance.database).savings

end Performance

def performances (database : Database) : List Turn → List Performance
  | [] => []
  | turn :: turns =>
      let performance : Performance := ⟨turn, database⟩
      performance :: performances performance.left turns

variable {performances : List Performance}

theorem deletions_logs : deletions (performances.flatMap Performance.log) =
    performances.flatMap Performance.removed := by
  induction performances with
  | nil => rfl
  | cons performance performances ih =>
      simp [ih, performance.deletions_log]

theorem savings_logs : savings (performances.flatMap Performance.log) =
    performances.flatMap Performance.stored := by
  induction performances with
  | nil => rfl
  | cons performance performances ih =>
      simp [ih, performance.savings_log]

theorem led_logs : ∀ before event after,
    performances.flatMap Performance.log = before ++ event :: after → Led before event := by
  induction performances with
  | nil =>
      intro before event after h
      simp at h
  | cons performance performances ih =>
      rw [List.flatMap_cons]
      exact led_append performance.placed.led ih

/--
Listeners to any operations on entities of an embedded database learn of each tuple which a
deletion takes out and of each which an insertion or a replacement stores, in order; a
saved tuple has just been prepared, a converted one has just been loaded, and a loaded one
is converted at once, unless this is where the operation ends with a mapping error.
-/
theorem log_inOrder (database : Database) (turns : List Turn) :
    let log := (Template.performances database turns).flatMap Performance.log
    deletions log = (Template.performances database turns).flatMap Performance.removed ∧
    savings log = (Template.performances database turns).flatMap Performance.stored ∧
    (∀ before space tuple after, log = before ++ (space, .afterSave () tuple) :: after →
      ∃ earlier,
        before = earlier ++ [(space, .beforeConvert ()), (space, .beforeSave () tuple)]) ∧
    (∀ before space tuple after, log = before ++ (space, .afterConvert () tuple) :: after →
      ∃ earlier, before = earlier ++ [(space, .afterLoad tuple)]) ∧
    ∀ performance ∈ Template.performances database turns, ∀ before space tuple after,
      performance.log = before ++ (space, .afterLoad tuple) :: after →
        (∃ later, after = (space, .afterConvert () tuple) :: later) ∨
          after = [] ∧ ∃ error, performance.result = .error (.mapping error) := by
  intro log
  refine ⟨deletions_logs, savings_logs, ?_, ?_, ?_⟩
  · intro before space tuple after h
    obtain ⟨earlier, _, _, hbefore⟩ := led_logs before (space, .afterSave () tuple) after h
    exact ⟨earlier, hbefore⟩
  · intro before space tuple after h
    exact led_logs before (space, .afterConvert () tuple) after h
  · intro performance _ before space tuple after h
    rcases performance.placed.followed before (space, .afterLoad tuple) after h with
      ⟨_, later, hafter⟩ | ⟨hafter, hunmapped⟩
    · exact .inl ⟨later, hafter⟩
    · refine .inr ⟨hafter, ?_⟩
      cases hresult : performance.result with
      | ok value =>
          rw [hresult] at hunmapped
          contradiction
      | error failure =>
          rw [hresult] at hunmapped
          cases failure with
          | mapping error => exact ⟨error, rfl⟩
          | _ => contradiction

end TupleStore.Template
