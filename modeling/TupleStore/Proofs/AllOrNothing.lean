import TupleStore.Proofs.Overwriting

/-!
# All or nothing

A refused operation leaves the embedded database as it was, even where it works in place;
a granted one leaves all spaces but the one it names, and the stored procedures.
-/

namespace TupleStore

namespace Database

def methodSpace? (function : String) : Option String :=
  (spaceMethod? function.toList).map Prod.fst

def expressionSpace? (expression : String) : Option String :=
  match createdSpace? (strip expression) with
  | some name => some name
  | none => ((Text.dropSuffix? "()".toList (strip expression)).bind spaceMethod?).map Prod.fst

end Database

def Request.named? (request : Request) : Option String :=
  match request with
  | .refreshMetadata => none
  | .call function _ => Database.methodSpace? function
  | .eval expression _ => Database.expressionSpace? expression
  | .space name | .select name _ | .insert name _ | .replace name _ | .update name _ _
  | .upsert name _ _ | .delete name _ | .truncate name => some name

namespace Database

/-! ## Operations and their answers -/

namespace Operation

abbrev Answer : Operation → Type
  | .createSpace .. | .register _ => Unit
  | .ask request => request.Answer

def perform (database : Database) :
    (operation : Operation) → Except ClientError operation.Answer × Database
  | .createSpace space tuples =>
      database.commit (database.createSpace space tuples) fun database => ((), database)
  | .register procedure => (.ok (), database.register procedure)
  | .ask request => database.handle request

theorem perform_snd (database : Database) (operation : Operation) :
    (operation.perform database).2 = operation.apply database := by
  cases operation with
  | createSpace space tuples =>
      simp only [perform, apply, commit]
      cases database.createSpace space tuples <;> rfl
  | register procedure => rfl
  | ask request => rfl

def overwrite : (operation : Operation) → InPlace Database operation.Answer
  | .createSpace space tuples => InPlace.createSpace space tuples
  | .register procedure => modify fun database => database.register procedure
  | .ask request => InPlace.handle request

def named? : Operation → Option String
  | .createSpace space _ => some space.name
  | .register _ => none
  | .ask request => request.named?

def sparesProcedures : Operation → Bool
  | .createSpace .. => true
  | .register _ => false
  | .ask (.call function _) => (spaceMethod? function.toList).isSome
  | .ask _ => true

end Operation

/-! ## Changes of one space -/

variable {database after : Database} {table changed : Table} {name : String}
variable {named : Option String} {α β : Type}

def others (database : Database) (named : Option String) : List Table :=
  database.tables.filter fun table => some table.space.name != named

structure OnlyIn (named : Option String) (before after : Database) : Prop where
  others : after.others named = before.others named
  procedures : after.procedures = before.procedures
  calls : after.calls = before.calls
  apart : InPlace.NamesApart before → InPlace.NamesApart after

theorem OnlyIn.refl (named : Option String) (database : Database) :
    OnlyIn named database database := ⟨rfl, rfl, rfl, id⟩

theorem OnlyIn.trans {last : Database} (first : OnlyIn named database after)
    (second : OnlyIn named after last) : OnlyIn named database last where
  others := second.others.trans first.others
  procedures := second.procedures.trans first.procedures
  calls := second.calls.trans first.calls
  apart := second.apart ∘ first.apart

theorem namesApart_putTable (apart : InPlace.NamesApart database) :
    InPlace.NamesApart (database.putTable table) := by
  unfold InPlace.NamesApart
  rw [History.putTable_names]
  exact apart

theorem onlyIn_putTable (h : table.space.name = name) :
    OnlyIn (some name) database (database.putTable table) := by
  refine ⟨?_, rfl, rfl, namesApart_putTable⟩
  unfold others putTable
  induction database.tables with
  | nil => rfl
  | cons other tables ih =>
      by_cases hother : other.space.name = name
      · simpa [hother, h] using ih
      · simpa [hother, h] using ih

theorem onlyIn_dropSpace (h : database.dropSpace name = .ok after) :
    OnlyIn (some name) database after := by
  obtain ⟨_, _, h⟩ := bind_eq_ok.mp h
  cases h
  refine ⟨?_, rfl, rfl, fun apart => apart.sublist (List.filter_sublist.map _)⟩
  unfold others
  rw [List.filter_filter]
  apply List.filter_congr
  intro table _
  simp

theorem onlyIn_createSpace {space : Space} {tuples : List Tuple}
    (h : database.createSpace space tuples = .ok after) :
    OnlyIn (some space.name) database after := by
  unfold createSpace at h
  split at h
  · contradiction
  next hname =>
    obtain ⟨table, hinsert, h⟩ := bind_eq_ok.mp h
    cases h
    have hspace := (Table.insertAll_grows hinsert).1
    constructor
    · simp [others, List.filter_append, hspace]
    · rfl
    · rfl
    · intro apart
      apply History.nodup_map_append apart
      intro other hother
      rw [hspace]
      simp [Database.table?] at hname
      exact hname other hother

theorem onlyIn_truncate (h : database.truncate name = .ok after) :
    OnlyIn (some name) database after := by
  obtain ⟨table, htable, h⟩ := bind_eq_ok.mp h
  cases h
  have hname := table?_name (table_eq_ok htable)
  exact onlyIn_putTable hname

theorem onlyIn_setFormat {arguments : List Value}
    (h : database.setFormat name arguments = .ok after) : OnlyIn (some name) database after := by
  unfold setFormat at h
  split at h
  next =>
    obtain ⟨format, _, h⟩ := bind_eq_ok.mp h
    obtain ⟨table, htable, h⟩ := bind_eq_ok.mp h
    cases h
    have hname := table?_name (table_eq_ok htable)
    exact onlyIn_putTable hname
  next => contradiction

theorem onlyIn_createIndex {arguments : List Value}
    (h : database.createIndex name arguments = .ok after) :
    OnlyIn (some name) database after := by
  unfold createIndex at h
  split at h
  next =>
    obtain ⟨table, htable, h⟩ := bind_eq_ok.mp h
    obtain ⟨index, _, h⟩ := bind_eq_ok.mp h
    cases h
    have hname := table?_name (table_eq_ok htable)
    exact onlyIn_putTable hname
  next => contradiction

theorem onlyIn_runMethod {method : String} {arguments : List Value}
    (h : database.runMethod name method arguments = .ok after) :
    OnlyIn (some name) database after := by
  unfold runMethod at h
  split at h
  · exact onlyIn_truncate h
  · exact onlyIn_dropSpace h
  · exact onlyIn_setFormat h
  · exact onlyIn_createIndex h
  · contradiction

theorem onlyIn_evaluate {expression : String} (h : database.evaluate expression = .ok after) :
    OnlyIn (expressionSpace? expression) database after := by
  unfold evaluate at h
  unfold expressionSpace?
  dsimp only at h
  cases hcreated : createdSpace? (strip expression) with
  | some space =>
      rw [hcreated] at h
      exact onlyIn_createSpace h
  | none =>
      rw [hcreated] at h
      cases hmethod : (Text.dropSuffix? "()".toList (strip expression)).bind spaceMethod? with
      | some method =>
          rw [hmethod] at h
          exact onlyIn_runMethod h
      | none =>
          rw [hmethod] at h
          contradiction

theorem OnlyIn.table? (onlyIn : OnlyIn named database after) (h : named ≠ some name) :
    after.table? name = database.table? name := by
  have hothers : ∀ database : Database,
      database.table? name =
        (database.others named).find? fun table => table.space.name == name := by
    intro database
    unfold Database.others
    rw [List.find?_filter]
    unfold Database.table?
    congr 1
    funext table
    by_cases hname : table.space.name = name
    · simp [hname, h.symm]
    · simp [hname]
  rw [hothers, hothers, onlyIn.others]

/-! ## Refusals and grants -/

/-- After an error everything is as it was, and after a success all but the named space. -/
structure AllOrNothing (named : Option String) (database : Database)
    (result : Except ClientError α × Database) : Prop where
  refused : ∀ error, result.1 = .error error → result.2 = database
  granted : ∀ answer, result.1 = .ok answer → OnlyIn named database result.2

theorem AllOrNothing.onlyIn {result : Except ClientError α × Database}
    (h : AllOrNothing named database result) : OnlyIn named database result.2 := by
  cases hanswer : result.1 with
  | error error =>
      rw [h.refused error hanswer]
      exact .refl named database
  | ok answer => exact h.granted answer hanswer

theorem allOrNothing_granted {answer : α} (h : OnlyIn named database after) :
    AllOrNothing named database (.ok answer, after) := by
  constructor
  · intro error herror
    contradiction
  · intro _ _
    exact h

theorem allOrNothing_commit {outcome : Except Fault α} {next : α → β × Database}
    (h : ∀ result, outcome = .ok result → OnlyIn named database (next result).2) :
    AllOrNothing named database (database.commit outcome next) := by
  cases outcome with
  | error fault =>
      constructor
      · intro error _
        rfl
      · intro answer hanswer
        contradiction
  | ok result => exact allOrNothing_granted (h result rfl)

theorem allOrNothing_onTable {change : Table → Except Fault α} {next : α → β × Table}
    (h : ∀ table result, change table = .ok result → (next result).2.space = table.space) :
    AllOrNothing (some name) database (database.onTable name change next) := by
  apply allOrNothing_commit
  intro result hresult
  obtain ⟨table, htable, hchange⟩ := bind_eq_ok.mp hresult
  apply onlyIn_putTable
  rw [h table result hchange]
  exact table?_name (table_eq_ok htable)

namespace Table

variable {tuple : Tuple} {key : Key} {operations : List UpdateOperation} {result : Option Tuple}

theorem insert_space (h : table.insert tuple = .ok changed) : changed.space = table.space := by
  obtain ⟨_, _, _, _, _, rfl⟩ := insert_eq_ok h
  rfl

theorem replace_space (h : table.replace tuple = .ok changed) : changed.space = table.space := by
  obtain ⟨_, _, ⟨_, _, _, rfl⟩ | ⟨_, _, _, rfl⟩⟩ := replace_eq_ok h
  · rfl
  · rfl

theorem update_space (h : table.update key operations = .ok (changed, result)) :
    changed.space = table.space := by
  rcases update_eq_ok h with ⟨_, rfl⟩ | ⟨_, _, _, _, _, _, _, _, rfl⟩
  · rfl
  · rfl

theorem upsert_space (h : table.upsert tuple operations = .ok changed) :
    changed.space = table.space := by
  obtain ⟨primary, _, h⟩ := bind_eq_ok.mp h
  obtain ⟨⟨updated, result⟩, hupdate, h⟩ := bind_eq_ok.mp h
  cases result with
  | some tuple =>
      cases h
      exact update_space hupdate
  | none => exact (insert_space h).trans (update_space hupdate)

theorem delete_space (h : table.delete key = .ok (changed, result)) :
    changed.space = table.space := by
  obtain ⟨_, rfl, _⟩ := delete_eq_ok h
  rfl

end Table

theorem allOrNothing_handle {request : Request}
    (h : (Operation.ask request).sparesProcedures = true) :
    AllOrNothing request.named? database (database.handle request) := by
  cases request with simp only [Request.named?, handle]
  | space name => exact allOrNothing_granted (.refl (some name) database)
  | refreshMetadata => exact allOrNothing_granted (.refl none database)
  | select space conditions =>
      exact allOrNothing_commit fun _ _ => .refl (some space) database
  | insert space tuple => exact allOrNothing_onTable fun _ _ h => Table.insert_space h
  | replace space tuple => exact allOrNothing_onTable fun _ _ h => Table.replace_space h
  | update space key operations => exact allOrNothing_onTable fun _ _ h => Table.update_space h
  | upsert space tuple operations => exact allOrNothing_onTable fun _ _ h => Table.upsert_space h
  | delete space key => exact allOrNothing_onTable fun _ _ h => Table.delete_space h
  | truncate space => exact allOrNothing_commit fun _ h => onlyIn_truncate h
  | call function arguments =>
      simp only [Operation.sparesProcedures] at h
      unfold methodSpace?
      cases hmethod : spaceMethod? function.toList with
      | none => simp [hmethod] at h
      | some method => exact allOrNothing_commit fun _ h => onlyIn_runMethod h
  | eval expression arguments => exact allOrNothing_commit fun _ h => onlyIn_evaluate h

namespace Operation

theorem reported_overwrite (apart : InPlace.NamesApart database) (operation : Operation) :
    InPlace.reported (operation.overwrite database) = operation.perform database := by
  cases operation with
  | createSpace space tuples =>
      exact InPlace.reported_settled (InPlace.createSpace_eq space tuples database)
  | register procedure => rfl
  | ask request => exact InPlace.reported_handle apart request

theorem allOrNothing_perform {operation : Operation} (h : operation.sparesProcedures = true) :
    AllOrNothing operation.named? database (operation.perform database) := by
  cases operation with
  | createSpace space tuples =>
      simp only [named?, perform]
      exact allOrNothing_commit fun _ h => onlyIn_createSpace h
  | register procedure => contradiction
  | ask request => exact allOrNothing_handle h

theorem perform_tables {operation : Operation} (h : operation.sparesProcedures = false) :
    (operation.perform database).2.tables = database.tables := by
  cases operation with
  | createSpace space tuples => contradiction
  | register procedure => rfl
  | ask request =>
      cases request with
      | call function arguments =>
          simp only [sparesProcedures, Option.isSome_eq_false_iff,
            Option.isNone_iff_eq_none] at h
          simp only [perform, handle, h, callProcedure]
          split <;> rfl
      | _ => contradiction

theorem namesApart_apply (apart : InPlace.NamesApart database) (operation : Operation) :
    InPlace.NamesApart (operation.apply database) := by
  rw [← perform_snd]
  cases h : operation.sparesProcedures with
  | true => exact (allOrNothing_perform h).onlyIn.apart apart
  | false =>
      unfold InPlace.NamesApart
      rw [perform_tables h]
      exact apart

theorem namesApart_run {history : History} (apart : InPlace.NamesApart history.database)
    (operations : List Operation) : InPlace.NamesApart (history.run operations).database := by
  induction operations generalizing history with
  | nil => exact apart
  | cons operation operations ih =>
      refine ih ?_
      rcases history.next_database operation with h | h <;> rw [h]
      · exact apart
      · exact namesApart_apply apart operation

/--
An operation on an embedded database is granted or refused as a whole, also where it works
in place: after an error nothing has changed, after a success only the named space has.
Spaces have different names in every database which operations lead to.
-/
theorem overwrite_allOrNothing {operation : Operation} (database : Database)
    (h : operation.sparesProcedures = true) :
    (InPlace.NamesApart database →
      InPlace.reported (operation.overwrite database) = operation.perform database) ∧
    (∀ operations : List Operation, (({} : History).run operations).database = database →
      InPlace.NamesApart database) ∧
    AllOrNothing operation.named? database (operation.perform database) := by
  refine ⟨fun apart => operation.reported_overwrite apart, ?_, allOrNothing_perform h⟩
  rintro operations rfl
  have apart : InPlace.NamesApart ({} : History).database := List.nodup_nil
  exact namesApart_run apart operations

/-- Books and rooms; an update fails at its second operation, and an expression drops a space. -/
theorem overwrite_allOrNothing_library :
    let books : Space := ⟨512, "books", [⟨"id", "unsigned", false⟩], [⟨0, "primary", true, [0]⟩]⟩
    let database : Database :=
      { tables := [⟨books, [[.int 1, .int 10]]⟩, ⟨⟨513, "rooms", [], []⟩, []⟩], nextId := 514 }
    let update : Operation := .ask (.update "books" [.int 1] [⟨"=", 1, .int 20⟩, ⟨"*", 1, .int 2⟩])
    let drop : Operation := .ask (.eval " return box.space.rooms:drop()" [])
    update.sparesProcedures = true ∧ drop.sparesProcedures = true ∧
      InPlace.reported (update.overwrite database) =
        (.error (Fault.unknownOperator "*").toClientError, database) ∧
      (drop.perform database).1.isOk = true ∧
      OnlyIn (some "rooms") database (drop.perform database).2 := by
  intro books database update drop
  have apart : InPlace.NamesApart database := by
    unfold InPlace.NamesApart
    decide
  obtain ⟨hsame, -, hupdate⟩ := @overwrite_allOrNothing update database rfl
  obtain ⟨-, -, hdrop⟩ := @overwrite_allOrNothing drop database rfl
  have hnamed : drop.named? = some "rooms" := by decide +kernel
  have hrefused : (update.perform database).1 =
      .error (Fault.unknownOperator "*").toClientError := by decide +kernel
  have hkept := hupdate.refused _ hrefused
  refine ⟨rfl, rfl, (hsame apart).trans (Prod.ext hrefused hkept), by decide +kernel, ?_⟩
  rw [← hnamed]
  exact hdrop.onlyIn

end Operation

end Database

end TupleStore
