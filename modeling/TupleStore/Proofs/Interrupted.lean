import TupleStore.Proofs.Histories
import TupleStore.Proofs.Sweeps
import TupleStore.Sample.Kind

/-!
# Interrupted changes

An operation which fails need not leave the stored tuples as they were.  It may stop at a
request which is refused after others have been granted, and it reads the changed or
deleted tuples as entities only after all of its changes.
-/

namespace TupleStore

namespace Repository

open Template Database

variable {α : Type} [entity : Entity α]

/-- A failure after some changes of a plan, with the table which they leave. -/
inductive Plan.Interrupted (α : Type) [entity : Entity α] (plan : Plan) : Failure → Table → Prop
  /-- A request is refused; the ones before it have been granted, and there is one. -/
  | refused {granted rest : List Key} {key : Key} {found : List (Option Tuple)} {left : Table}
      {fault : Fault} (keys : plan.keys = granted ++ key :: rest) (some_granted : granted ≠ [])
      (granted_left : plan.table.sweep plan.change granted = (.ok found, left))
      (refused : plan.change left key = .error fault) :
      Interrupted α plan (.client fault.toClientError) left
  /-- All requests have been granted; a changed or deleted tuple does not read as an entity. -/
  | unreadable {found : List (Option Tuple)} {left : Table} {tuple : Tuple} {error : MappingError}
      (all_granted : plan.swept = (.ok found, left)) (mem : some tuple ∈ found)
      (unreadable : entity.codec.fromTuple tuple plan.table.space = .error error) :
      Interrupted α plan (.mapping error) left

theorem Plan.interrupted_of_error {plan : Plan} {failure : Failure}
    (h : plan.result (α := α) = .error failure) :
    plan.swept.2 = plan.table ∨ plan.Interrupted α failure plan.swept.2 := by
  cases hswept : plan.swept.1 with
  | error fault =>
      cases (Plan.result_of_error hswept).symm.trans h
      obtain ⟨granted, key, rest, found, hkeys, hgranted, hrefused⟩ := Table.sweep_error hswept
      by_cases hnone : granted = []
      · rw [hnone] at hgranted
        exact .inl (congrArg Prod.snd hgranted).symm
      · exact .inr (.refused hkeys hnone hgranted hrefused)
  | ok found =>
      rw [Plan.result_of_ok hswept] at h
      cases hread : (found.filterMap id).mapM (entity.codec.fromTuple · plan.table.space) with
      | ok values =>
          rw [hread] at h
          cases h
      | error error =>
          rw [hread] at h
          cases h
          obtain ⟨tuple, hmem, hunreadable⟩ := mapM_eq_error hread
          obtain ⟨_, hfound, rfl⟩ := List.mem_filterMap.mp hmem
          exact .inr (.unreadable (Prod.ext hswept rfl) hfound hunreadable)

theorem Edit.plan_table {edit : Edit α} {database : Database} {plan : Plan}
    (h : edit.plan database = .ok plan) : database.table? entity.space = some plan.table := by
  cases edit with
  | update template conditions value =>
      obtain ⟨_, _, _, _, htable, _, _, _, rfl⟩ := plan_update_eq_ok h
      exact htable
  | delete value =>
      obtain ⟨_, _, h⟩ := bind_eq_ok.mp h
      obtain ⟨table, htable, h⟩ := bind_eq_ok.mp h
      cases h
      exact storedTable_eq_ok htable
  | deleteById id =>
      obtain ⟨_, _, h⟩ := bind_eq_ok.mp h
      obtain ⟨table, htable, h⟩ := bind_eq_ok.mp h
      cases h
      exact storedTable_eq_ok htable
  | deleteByConditions conditions =>
      obtain ⟨table, htable, h⟩ := bind_eq_ok.mp h
      obtain ⟨_, _, h⟩ := bind_eq_ok.mp h
      obtain ⟨_, _, h⟩ := bind_eq_ok.mp h
      cases h
      exact storedTable_eq_ok htable

/--
An operation which fails leaves the other spaces as they were.  It leaves the stored
tuples as they were too, unless it is interrupted: then the changes which have been
granted before the failure stay, and nothing else has changed.
-/
theorem Edit.tuplesOf_failed {edit : Edit α} {database : Database} {failure : Failure}
    (h : (outcome embedded edit.action database).1 = .error failure) :
    let after := (outcome embedded edit.action database).2
    OnlyIn (some entity.space) database after ∧
      (after.tuplesOf entity.space = database.tuplesOf entity.space ∨
        ∃ plan left, edit.plan database = .ok plan ∧ plan.Interrupted α failure left ∧
          after.tuplesOf entity.space = left.tuples) := by
  have follows := edit.follows_plan database
  generalize hplan : edit.plan database = planned at follows
  generalize outcome embedded edit.action database = reached at follows h
  intro after
  cases follows with
  | stopped failure => exact ⟨.refl _ _, .inl rfl⟩
  | swept plan becomes =>
      refine ⟨becomes.onlyIn, ?_⟩
      rw [tuplesOf_eq becomes.table?, tuplesOf_eq (Edit.plan_table hplan)]
      rcases Plan.interrupted_of_error h with hkept | interrupted
      · exact .inl (congrArg Table.tuples hkept)
      · exact .inr ⟨plan, plan.swept.2, rfl, interrupted, rfl⟩

/-! ## Two interrupted operations -/

open Sample

def people (tuples : List Tuple) : Database where
  tables := [{
    space := ⟨512, "users", [⟨"id", "unsigned", false⟩, ⟨"name", "string", false⟩,
      ⟨"email", "string", true⟩], [⟨0, "primary", true, [0]⟩, ⟨1, "email", true, [2]⟩]⟩
    tuples }]
  nextId := 513

/-- The second user cannot have the address which the first one has got just before. -/
theorem update_interrupted :
    let database := people [[.int 1, .text "ann", .text "ann@old"],
      [.int 2, .text "bob", .text "bob@old"]]
    let edit : Edit User := .update ⟨.embedded, {}⟩ .any ⟨0, "zed", some "zed@new"⟩
    let outcome := outcome embedded edit.action database
    outcome.1 = .error (.client (Fault.duplicateKey "email" "users").toClientError) ∧
      outcome.2.tuplesOf "users" ≠ database.tuplesOf "users" ∧
      outcome.2.tuplesOf "users" = [[.int 1, .text "zed", .text "zed@new"],
        [.int 2, .text "bob", .text "bob@old"]] := by
  decide +kernel

/-- A user whose name is a number is deleted, and then cannot be read. -/
theorem Edit.tuplesOf_failed_unreadable :
    let database := people [[.int 6, .text "ann", .nil], [.int 7, .int 5, .nil]]
    let edit : Edit User := .deleteById (7 : UInt64)
    let failure := Failure.mapping (.unreadableTuple "users" (.mismatch "a string"))
    (outcome embedded edit.action database).1 = .error failure ∧
      ∃ plan left, edit.plan database = .ok plan ∧ plan.Interrupted User failure left ∧
        left.tuples = [[.int 6, .text "ann", .nil]] := by
  intro database edit failure
  have h : (outcome embedded edit.action database).1 = .error failure := by decide +kernel
  have hleft : (outcome embedded edit.action database).2.tuplesOf "users" =
      [[.int 6, .text "ann", .nil]] := by decide +kernel
  obtain ⟨-, hsame | ⟨plan, left, hplan, interrupted, htuples⟩⟩ := Edit.tuplesOf_failed h
  · exact absurd (hleft.symm.trans hsame) (by decide +kernel)
  · exact ⟨h, plan, left, hplan, interrupted, htuples.symm.trans hleft⟩

end Repository

end TupleStore
