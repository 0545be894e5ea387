import Mathlib.Data.List.Perm.Subperm
import TupleStore.Proofs.AllOrNothing
import TupleStore.Proofs.EntityActions

/-!
# Histories of operations on entities

What happens in a run over an embedded database, moment by moment: each request with the
database it finds, and each published event.  A moment tells which tuples leave a space
with it and which tuple is stored.
-/

namespace TupleStore

namespace Database

variable {database : Database} {table after : Table} {name : String} {tuple : Tuple} {key : Key}

def tuplesOf (database : Database) (name : String) : List Tuple :=
  ((database.table? name).map Table.tuples).getD []

theorem tuplesOf_eq (h : database.table? name = some table) :
    database.tuplesOf name = table.tuples := by
  rw [tuplesOf, h]
  rfl

theorem tuplesOf_putTable (h : database.table? name = some table)
    (hspace : after.space = table.space) :
    (database.putTable after).tuplesOf name = after.tuples :=
  tuplesOf_eq (table?_putTable h (congrArg Space.name hspace))

theorem onTable_cases {α β : Type} (database : Database) (name : String)
    (change : Table → Except Fault α) (next : α → β × Table) :
    (∃ error, database.onTable name change next = (.error error, database)) ∨
      ∃ table result, database.table? name = some table ∧ change table = .ok result ∧
        database.onTable name change next =
          (.ok (next result).1, database.putTable (next result).2) := by
  cases htable : database.table? name with
  | none =>
      apply Or.inl
      refine ⟨(Fault.unknownSpace name).toClientError, ?_⟩
      rw [onTable, Database.table, htable]
      rfl
  | some table =>
      cases hchange : change table with
      | error fault => exact .inl ⟨_, onTable_error htable hchange⟩
      | ok result => exact .inr ⟨table, result, rfl, hchange, onTable_ok htable hchange⟩

/-! ## Tuples which leave a space -/

def removed (database : Database) (name : String) (asked : Request) : List Tuple :=
  (database.tuplesOf name).diff ((database.handle asked).2.tuplesOf name)

theorem diff_self (tuples : List Tuple) : tuples.diff tuples = [] := by
  have h := List.subperm_append_diff_self_of_count_le fun tuple (_ : tuple ∈ tuples) =>
    Nat.le_refl (tuples.count tuple)
  simpa using h.length_eq

theorem diff_eraseIdx {tuples : List Tuple} {position : Nat}
    (h : tuples[position]? = some tuple) :
    tuples.diff (tuples.eraseIdx position) = [tuple] := by
  obtain ⟨hlt, hget⟩ := List.getElem?_eq_some_iff.mp h
  have hperm : (tuple :: tuples.eraseIdx position).Perm tuples := by
    rw [← hget]
    exact List.getElem_cons_eraseIdx_perm hlt
  have hdiff : (tuples.eraseIdx position ++ tuples.diff (tuples.eraseIdx position)).Perm tuples :=
    List.subperm_append_diff_self_of_count_le fun other _ =>
      (List.eraseIdx_sublist ..).count_le other
  have hsame := hdiff.trans (hperm.symm.trans (List.perm_append_singleton tuple _).symm)
  exact List.perm_singleton.mp ((List.perm_append_left_iff _).mp hsame)

theorem removed_of_kept {asked : Request} (h : (database.handle asked).2 = database) :
    database.removed name asked = [] := by
  rw [removed, h]
  exact diff_self _

theorem handle_select (database : Database) (name : String) (conditions : Conditions) :
    (database.handle (.select name conditions)).2 = database := by
  simp only [handle, commit]
  cases database.table name >>= fun table => table.select conditions <;> rfl

theorem delete_tuples {found : Option Tuple} (h : table.delete key = .ok (after, found)) :
    after.space = table.space ∧ table.tuples.diff after.tuples = found.toList := by
  obtain ⟨primary, _, h⟩ := bind_eq_ok.mp h
  split at h
  next =>
    cases h
    exact ⟨rfl, diff_self _⟩
  next position hfind =>
    cases h
    obtain ⟨old, hold, _⟩ := search_taken hfind
    refine ⟨rfl, ?_⟩
    rw [hold]
    exact diff_eraseIdx hold

theorem handle_delete (database : Database) (name : String) (key : Key) :
    (∃ error, (database.handle (.delete name key)).1 = .error error ∧
        database.removed name (.delete name key) = []) ∨
      ∃ found : Option Tuple, (database.handle (.delete name key)).1 = .ok found.toList ∧
        database.removed name (.delete name key) = found.toList := by
  rcases onTable_cases database name (fun table => table.delete key)
      (fun result => (result.2.toList, result.1)) with
    ⟨error, h⟩ | ⟨table, ⟨after, found⟩, htable, hdelete, h⟩
  · exact .inl ⟨error, congrArg Prod.fst h, removed_of_kept (congrArg Prod.snd h)⟩
  · obtain ⟨hspace, hdiff⟩ := delete_tuples hdelete
    have hafter : (database.handle (.delete name key)).2 = database.putTable after :=
      congrArg Prod.snd h
    refine .inr ⟨found, congrArg Prod.fst h, ?_⟩
    rw [removed, hafter, tuplesOf_eq htable, tuplesOf_putTable htable hspace, hdiff]

/-! ## Tuples which are stored -/

/-- The tuple of a request to store it which is granted, and which is in the space behind it. -/
def storedBy (name : String) (tuple : Tuple) :
    Except ClientError (List Tuple) × Database → List (String × Tuple)
  | (.error _, _) => []
  | (.ok _, after) => if tuple ∈ after.tuplesOf name then [(name, tuple)] else []

def stored (database : Database) : Request → List (String × Tuple)
  | .insert name tuple => storedBy name tuple (database.handle (.insert name tuple))
  | .replace name tuple => storedBy name tuple (database.handle (.replace name tuple))
  | _ => []

theorem mem_of_insert (h : table.insert tuple = .ok after) : tuple ∈ after.tuples := by
  obtain ⟨_, position, _, hfind, _, rfl⟩ := Table.insert_eq_ok h
  have hperm := List.perm_insertIdx tuple table.tuples (search_free_le hfind)
  exact hperm.mem_iff.mpr (List.mem_cons_self ..)

theorem mem_of_replace (h : table.replace tuple = .ok after) : tuple ∈ after.tuples := by
  obtain ⟨_, _, ⟨position, hfind, _, rfl⟩ | ⟨position, hfind, _, rfl⟩⟩ := Table.replace_eq_ok h
  · have hperm := List.perm_insertIdx tuple table.tuples (search_free_le hfind)
    exact hperm.mem_iff.mpr (List.mem_cons_self ..)
  · obtain ⟨old, hold, _⟩ := search_taken hfind
    exact List.mem_set (List.getElem?_eq_some_iff.mp hold).1 tuple

private theorem onTable_stores {change : Table → Except Fault Table}
    (h : ∀ table after, change table = .ok after →
      tuple ∈ after.tuples ∧ after.space = table.space) :
    let outcome := database.onTable name change fun table => ([tuple], table)
    (∃ error, outcome.1 = .error error ∧ storedBy name tuple outcome = []) ∨
      outcome.1 = .ok [tuple] ∧ storedBy name tuple outcome = [(name, tuple)] := by
  intro outcome
  rcases onTable_cases database name change (fun table => ([tuple], table)) with
    ⟨error, hrefused⟩ | ⟨table, after, htable, hchange, hgranted⟩
  · refine .inl ⟨error, congrArg Prod.fst hrefused, ?_⟩
    rw [show outcome = _ from hrefused, storedBy]
  · obtain ⟨hmem, hspace⟩ := h table after hchange
    refine .inr ⟨congrArg Prod.fst hgranted, ?_⟩
    rw [show outcome = _ from hgranted, storedBy, tuplesOf_putTable htable hspace, if_pos hmem]

theorem handle_insert (database : Database) (name : String) (tuple : Tuple) :
    (∃ error, (database.handle (.insert name tuple)).1 = .error error ∧
        database.stored (.insert name tuple) = []) ∨
      (database.handle (.insert name tuple)).1 = .ok [tuple] ∧
        database.stored (.insert name tuple) = [(name, tuple)] :=
  onTable_stores fun _ _ h => ⟨mem_of_insert h, Table.insert_space h⟩

theorem handle_replace (database : Database) (name : String) (tuple : Tuple) :
    (∃ error, (database.handle (.replace name tuple)).1 = .error error ∧
        database.stored (.replace name tuple) = []) ∨
      (database.handle (.replace name tuple)).1 = .ok [tuple] ∧
        database.stored (.replace name tuple) = [(name, tuple)] :=
  onTable_stores fun _ _ h => ⟨mem_of_replace h, Table.replace_space h⟩

end Database

namespace Template

variable {α β γ : Type}

/-! ## Moments -/

/-- What happens in a run: a request meets a database, or an event is published. -/
inductive Moment (α : Type) where
  | asked (request : Request) (database : Database)
  | published (space : String) (event : Event α)

namespace Moment

def event? : Moment α → Option (String × Event α)
  | .asked .. => none
  | .published space event => some (space, event)

def removed (name : String) : Moment α → List (String × Tuple)
  | .asked request database => (database.removed name request).map fun tuple => (name, tuple)
  | .published .. => []

def stored : Moment α → List (String × Tuple)
  | .asked request database => database.stored request
  | .published .. => []

end Moment

def history : Action α β → Database → List (Moment α)
  | .done _, _ => []
  | .step (.request asked) next, database =>
      .asked asked database ::
        history (next (database.handle asked).1) (database.handle asked).2
  | .step (.publish space event) next, database =>
      .published space event :: history (next ()) database

def events (moments : List (Moment α)) : List (String × Event α) := moments.filterMap Moment.event?

theorem run_eq (action : Action α β) (database : Database) :
    run embedded action database =
      ((outcome embedded action database).1, (outcome embedded action database).2,
        events (history action database)) := by
  have hrun : ∀ (database : Database) (seen : List (String × Event α)),
      (Program.run (handle embedded) action (database, seen)).2.2 =
        (events (history action database)).reverse ++ seen := by
    induction action with
    | done result => exact fun _ _ => rfl
    | step op next ih =>
        intro database seen
        cases op with
        | request asked => exact ih _ _ _
        | publish space event =>
            refine (ih _ _ _).trans ?_
            simp [history, events, Moment.event?]
  have hevents := congrArg List.reverse (hrun database [])
  rw [List.append_nil, List.reverse_reverse] at hevents
  rw [← hevents]
  rfl

theorem history_bind (action : Action α β) (next : β → Action α γ) (database : Database) :
    history (action >>= next) database =
      history action database ++
        match outcome embedded action database with
        | (.error _, _) => []
        | (.ok result, after) => history (next result) after := by
  rw [outcome_eq]
  induction action generalizing database with
  | done result => cases result <;> rfl
  | step op next ih =>
      cases op with
      | request asked => exact congrArg (List.cons _) (ih _ _)
      | publish space event => exact congrArg (List.cons _) (ih _ _)

end Template

end TupleStore
