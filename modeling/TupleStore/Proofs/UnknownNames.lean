import TupleStore.Proofs.QueryParameters

/-!
# Names which a space does not have

Conditions are clauses, each about an index or a field, which are checked on a tuple one
after the other.  A clause is looked at only if the tuple satisfies all clauses before it,
so a name which the space does not have is reported for tuples which come that far, and
is overlooked for the others.
-/

namespace TupleStore

namespace Conditions

/-! ## Clauses -/

inductive Clause where
  | ofIndex (query : IndexQuery)
  | ofField (comparison : Comparison)
  deriving DecidableEq, Repr

def clauses (conditions : Conditions) : List Clause :=
  (conditions.indexQuery.map Clause.ofIndex).toList ++ conditions.comparisons.map Clause.ofField

namespace Clause

def isKnown (space : Space) : Clause → Bool
  | .ofIndex query => (space.index? query.index).isSome
  | .ofField comparison => decide (comparison.field ∈ space.fieldNames)

def unknownName (space : Space) : Clause → UnknownName
  | .ofIndex query => .index query.index space.name
  | .ofField comparison => .field comparison.field space.name

def admits (space : Space) (tuple : Tuple) : Clause → Bool
  | .ofIndex query =>
      (space.index? query.index).any fun index => IndexQuery.passes query index tuple
  | .ofField comparison => MethodQuery.passes space tuple comparison

/-- Goes through the clauses up to the first which is unknown or does not admit the tuple. -/
def check (space : Space) (tuple : Tuple) : List Clause → Except UnknownName Bool
  | [] => .ok true
  | clause :: rest =>
      if clause.isKnown space then
        if clause.admits space tuple then check space tuple rest else .ok false
      else .error (clause.unknownName space)

variable {space : Space} {tuple : Tuple} {clause : Clause} {rest : List Clause}

theorem check_unknown (h : clause.isKnown space = false) :
    check space tuple (clause :: rest) = .error (clause.unknownName space) := by
  rw [check, h, if_neg Bool.false_ne_true]

theorem check_known (h : clause.isKnown space = true) :
    check space tuple (clause :: rest) =
      if clause.admits space tuple then check space tuple rest else .ok false := by
  rw [check, if_pos h]

theorem check_eq_error_iff {clauses : List Clause} {name : UnknownName} :
    check space tuple clauses = .error name ↔
      (clauses.find? fun clause => !clause.isKnown space).map (unknownName space) = some name ∧
        ∀ clause ∈ clauses.takeWhile (isKnown space), clause.admits space tuple = true := by
  induction clauses with
  | nil => simp [check]
  | cons clause rest ih =>
      cases hknown : clause.isKnown space with
      | false => simp [check_unknown hknown, hknown]
      | true =>
          rw [check_known hknown, List.takeWhile_cons_of_pos hknown, List.forall_mem_cons,
            List.find?_cons_of_neg (by simpa using hknown)]
          cases hadmits : clause.admits space tuple with
          | true => simpa using ih
          | false => simp

end Clause

/-! ## Matching -/

variable {conditions : Conditions} {space : Space} {tuple : Tuple}

theorem passesComparisons_eq_check (comparisons : List Comparison) :
    passesComparisons space tuple comparisons =
      Clause.check space tuple (comparisons.map Clause.ofField) := by
  induction comparisons with
  | nil => rfl
  | cons comparison comparisons ih =>
      rw [passesComparisons, List.map_cons, Clause.check, ih]
      cases hposition : space.fieldPosition? comparison.field with
      | none =>
          have hunknown : comparison.field ∉ space.fieldNames := by
            intro hmem
            obtain ⟨position, hsome⟩ := Space.exists_fieldPosition? hmem
            cases hposition.symm.trans hsome
          simp [Clause.isKnown, Clause.unknownName, hunknown]
      | some position =>
          have hknown : comparison.field ∈ space.fieldNames :=
            List.mem_of_getElem? (Space.fieldPosition?_eq_some hposition)
          simp [Clause.isKnown, Clause.admits, MethodQuery.passes, Space.valueOf, hknown,
            hposition]

theorem isMatch_eq_check (conditions : Conditions) (space : Space) (tuple : Tuple) :
    conditions.isMatch space tuple = Clause.check space tuple conditions.clauses := by
  rw [isMatch, clauses]
  cases conditions.indexQuery with
  | none => exact passesComparisons_eq_check _
  | some query =>
      dsimp only
      rw [Option.map_some, Option.toList_some, List.singleton_append, Clause.check,
        passesComparisons_eq_check]
      cases hindex : space.index? query.index with
      | none => simp [Clause.isKnown, Clause.unknownName, hindex]
      | some index => simp [Clause.isKnown, Clause.admits, hindex]

/-- The conditions refer to an index or a field which the space does not have. -/
def RefersToUnknown (conditions : Conditions) (space : Space) : Prop :=
  ∃ clause ∈ conditions.clauses, clause.isKnown space = false

def leading (conditions : Conditions) (space : Space) : List Clause :=
  conditions.clauses.takeWhile (Clause.isKnown space)

theorem isMatch_fails_iff :
    (∃ name, conditions.isMatch space tuple = .error name) ↔
      conditions.RefersToUnknown space ∧
        ∀ clause ∈ conditions.leading space, clause.admits space tuple = true := by
  simp only [isMatch_eq_check, Clause.check_eq_error_iff, exists_and_right, leading]
  refine and_congr_left fun _ => ?_
  rw [← Option.isSome_iff_exists, Option.isSome_map, List.find?_isSome]
  simp only [RefersToUnknown, Bool.not_eq_true']

/-- Matching fails just for an unknown name, whatever is in the tuple. -/
def FailsForUnknown (conditions : Conditions) (space : Space) (tuple : Tuple) : Prop :=
  (∃ name, conditions.isMatch space tuple = .error name) ↔ conditions.RefersToUnknown space

/--
Unknown names are reported just for the tuples which the clauses in front of the first
unknown name admit.
-/
theorem failsForUnknown_iff (conditions : Conditions) (space : Space) (tuple : Tuple) :
    conditions.FailsForUnknown space tuple ↔
      (conditions.RefersToUnknown space →
        ∀ clause ∈ conditions.leading space, clause.admits space tuple = true) := by
  rw [FailsForUnknown, isMatch_fails_iff]
  exact and_iff_left_iff_imp

/-- Books have no author; one which is not called Emma is passed over all the same. -/
theorem not_failsForUnknown_author :
    let books : Space :=
      { id := 512, name := "books", format := [{ name := "id" }, { name := "title" }] }
    let conditions := (any.and "title" .equal (.text "Emma")).and "author" .equal (.text "Austen")
    conditions.isMatch books [.int 2, .text "Emma"] = .error (.field "author" "books") ∧
      conditions.isMatch books [.int 1, .text "Dune"] = .ok false ∧
      ¬conditions.FailsForUnknown books [.int 1, .text "Dune"] := by
  intro books conditions
  have hpassed : conditions.isMatch books [.int 1, .text "Dune"] = .ok false := by decide +kernel
  refine ⟨by decide +kernel, hpassed, fun fails => ?_⟩
  obtain ⟨name, hname⟩ := fails.mpr ⟨.ofField ⟨"author", .equal, .text "Austen"⟩, by decide +kernel⟩
  cases hpassed.symm.trans hname

end Conditions

end TupleStore
