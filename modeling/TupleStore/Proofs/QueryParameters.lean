import TupleStore.MethodQuery.Basic
import TupleStore.Proofs.Contents
import TupleStore.Proofs.NamedFields

/-!
# Parameters of method queries

The parts of a query take their parameters one after another from one list.  Bound
to the parameters, the query selects the tuples of which every part holds with its
own parameters.
-/

namespace TupleStore

open Conditions

/-! ## Keywords -/

theorem Value.compare_bool_eq_iff {value : Value} {truth : Bool} :
    Value.compare value (.bool truth) = .eq ↔ value = .bool truth := by
  cases value with
  | bool other => simp [Value.compare]
  | _ => simp [Value.compare, Value.rank]

/-- The value is what the keyword asks for, which has just the parameters it takes. -/
def Keyword.Holds (keyword : Keyword) (parameters : List Value) (value : Value) : Prop :=
  match keyword, parameters with
  | .equals, [operand] => Value.compare value operand = .eq
  | .greaterThan, [operand] => Value.compare value operand = .gt
  | .greaterThanEqual, [operand] => Value.compare value operand ≠ .lt
  | .lessThan, [operand] => Value.compare value operand = .lt
  | .lessThanEqual, [operand] => Value.compare value operand ≠ .gt
  | .between, [low, high] => Value.compare value low ≠ .lt ∧ Value.compare value high ≠ .gt
  | .isTrue, [] => value = .bool true
  | .isFalse, [] => value = .bool false
  | _, _ => False

instance (keyword : Keyword) (parameters : List Value) (value : Value) :
    Decidable (keyword.Holds parameters value) := by
  unfold Keyword.Holds
  split <;> infer_instance

/-! ## Parts -/

def Space.valueOf (space : Space) (tuple : Tuple) (field : String) : Value :=
  (space.fieldPosition? field).elim .nil (fieldAt tuple)

namespace Part

def taken : List Part → Nat
  | [] => 0
  | part :: parts => part.keyword.parameters + taken parts

/-- The parameters of the part itself, behind those of the `earlier` parts. -/
def own (part : Part) (earlier : List Part) (parameters : List Value) : List Value :=
  (parameters.drop (taken earlier)).take part.keyword.parameters

theorem own_nil (part : Part) (parameters : List Value) :
    part.own [] parameters = parameters.take part.keyword.parameters := rfl

theorem own_cons (part first : Part) (earlier : List Part) (parameters : List Value) :
    part.own (first :: earlier) parameters =
      part.own earlier (parameters.drop first.keyword.parameters) := by
  rw [own, own, List.drop_drop]
  rfl

end Part

namespace MethodQuery

/-- Every part holds of its field with its own parameters. -/
def AllHold (parts : List Part) (parameters : List Value) (space : Space) (tuple : Tuple) : Prop :=
  ∀ (position : Nat) (part : Part), parts[position]? = some part →
    part.keyword.Holds (part.own (parts.take position) parameters)
      (space.valueOf tuple part.field)

instance (parts : List Part) (parameters : List Value) (space : Space) (tuple : Tuple) :
    Decidable (AllHold parts parameters space tuple) :=
  decidable_of_iff (∀ entry ∈ parts.zipIdx,
      entry.1.keyword.Holds (entry.1.own (parts.take entry.2) parameters)
        (space.valueOf tuple entry.1.field)) (by
    simp only [AllHold, Prod.forall, List.mk_mem_zipIdx_iff_getElem?]
    exact forall_comm)

variable {space : Space} {tuple : Tuple} {part : Part} {parts : List Part}
variable {parameters : List Value}

theorem allHold_nil : AllHold [] parameters space tuple :=
  fun _ _ h => absurd h (by simp)

theorem allHold_cons :
    AllHold (part :: parts) parameters space tuple ↔
      part.keyword.Holds (parameters.take part.keyword.parameters)
          (space.valueOf tuple part.field) ∧
        AllHold parts (parameters.drop part.keyword.parameters) space tuple := by
  rw [AllHold, ← Nat.and_forall_add_one]
  simp only [List.getElem?_cons_zero, List.getElem?_cons_succ, Option.some.injEq, forall_eq',
    List.take_zero, List.take_succ_cons, Part.own_nil, Part.own_cons]
  rfl

/-! ## Matching -/

def passes (space : Space) (tuple : Tuple) (comparison : Comparison) : Bool :=
  comparison.operator.test (Value.compare (space.valueOf tuple comparison.field) comparison.value)

theorem passesComparisons_eq_all {comparisons : List Comparison}
    (known : ∀ comparison ∈ comparisons, comparison.field ∈ space.fieldNames) :
    passesComparisons space tuple comparisons = .ok (comparisons.all (passes space tuple)) := by
  induction comparisons with
  | nil => rfl
  | cons comparison comparisons ih =>
      obtain ⟨hfirst, hrest⟩ := List.forall_mem_cons.mp known
      obtain ⟨position, hposition⟩ := Space.exists_fieldPosition? hfirst
      have hpasses : passes space tuple comparison =
          comparison.operator.test (Value.compare (fieldAt tuple position) comparison.value) := by
        rw [passes, Space.valueOf, hposition]
        rfl
      rw [passesComparisons, hposition, List.all_cons, hpasses]
      dsimp only
      cases comparison.operator.test
          (Value.compare (fieldAt tuple position) comparison.value) with
      | true => exact ih hrest
      | false => rfl

theorem all_comparisons_iff (enough : part.keyword.parameters ≤ parameters.length) :
    (part.comparisons parameters).all (passes space tuple) = true ↔
      part.keyword.Holds (parameters.take part.keyword.parameters)
        (space.valueOf tuple part.field) := by
  obtain ⟨field, keyword⟩ := part
  cases keyword with
  | equals | greaterThan | greaterThanEqual | lessThan | lessThanEqual =>
      obtain ⟨operand, rest, rfl⟩ := List.exists_cons_of_length_pos enough
      simp [Part.comparisons, passes, Keyword.parameters, Keyword.Holds, Operator.test]
  | between =>
      obtain ⟨low, rest, rfl⟩ :=
        List.exists_cons_of_length_pos (Nat.lt_of_lt_of_le Nat.two_pos enough)
      obtain ⟨high, rest, rfl⟩ := List.exists_cons_of_length_pos (Nat.le_of_succ_le_succ enough)
      simp [Part.comparisons, passes, Keyword.parameters, Keyword.Holds, Operator.test]
  | isTrue | isFalse =>
      simp [Part.comparisons, passes, Keyword.parameters, Keyword.Holds, Operator.test,
        Value.compare_bool_eq_iff]

theorem all_bindParts_iff (enough : Part.taken parts ≤ parameters.length) :
    (bindParts parts parameters).all (passes space tuple) = true ↔
      AllHold parts parameters space tuple := by
  induction parts generalizing parameters with
  | nil => exact iff_of_true rfl allHold_nil
  | cons part parts ih =>
      -- the later parts draw from what the first one leaves, which is still enough
      have htaken : part.keyword.parameters + Part.taken parts ≤ parameters.length := enough
      rw [bindParts, List.all_append, Bool.and_eq_true, allHold_cons,
        all_comparisons_iff (by omega), ih (by rw [List.length_drop]; omega)]

/-! ## Binding -/

theorem field_comparisons {comparison : Comparison}
    (h : comparison ∈ part.comparisons parameters) : comparison.field = part.field := by
  obtain ⟨field, keyword⟩ := part
  cases keyword with
  | between =>
      rcases List.mem_pair.mp h with rfl | rfl <;> rfl
  | equals | greaterThan | greaterThanEqual | lessThan | lessThanEqual | isTrue | isFalse =>
      rw [List.mem_singleton.mp h]

theorem known_bindParts (known : ∀ part ∈ parts, part.field ∈ space.fieldNames) :
    ∀ comparison ∈ bindParts parts parameters, comparison.field ∈ space.fieldNames := by
  induction parts generalizing parameters with
  | nil => nofun
  | cons part parts ih =>
      obtain ⟨hpart, hparts⟩ := List.forall_mem_cons.mp known
      intro comparison hcomparison
      rcases List.mem_append.mp hcomparison with hown | hrest
      · rw [field_comparisons hown]
        exact hpart
      · exact ih hparts comparison hrest

theorem isMatch_bindParts {conditions : Conditions} (hquery : conditions.indexQuery = none)
    (hcomparisons : conditions.comparisons = bindParts parts parameters)
    (known : ∀ part ∈ parts, part.field ∈ space.fieldNames)
    (enough : Part.taken parts ≤ parameters.length) (tuple : Tuple) :
    conditions.isMatch space tuple = .ok (decide (AllHold parts parameters space tuple)) := by
  rw [isMatch, hquery, hcomparisons]
  dsimp only
  rw [passesComparisons_eq_all (known_bindParts known), Except.ok.injEq, Bool.eq_iff_iff,
    all_bindParts_iff enough, decide_eq_true_iff]

theorem parameterCount_eq (query : MethodQuery) :
    query.parameterCount = Part.taken query.parts := by
  rw [parameterCount]
  induction query.parts with
  | nil => rfl
  | cons part parts ih => rw [List.foldr_cons, ih, Part.taken]

def upTo {α : Type} (limit : Option Nat) (items : List α) : List α := limit.elim items items.take

/--
Binding fails just when there are not as many parameters as the parts take together.
Otherwise a tuple matches the conditions if every part holds of its field with its own
parameters, and the first of these tuples are selected, up to the limit.
-/
theorem bind_selects (query : MethodQuery) (parameters : List Value) (space : Space)
    (known : ∀ part ∈ query.parts, part.field ∈ space.fieldNames) :
    ((∃ error, query.bind parameters = .error error) ↔
        parameters.length ≠ Part.taken query.parts) ∧
      ∀ conditions, query.bind parameters = .ok conditions →
        (∀ tuple, conditions.isMatch space tuple =
          .ok (decide (AllHold query.parts parameters space tuple))) ∧
        ∀ tuples, conditions.filter space tuples =
          .ok (upTo query.limit
            (tuples.filter fun tuple => AllHold query.parts parameters space tuple)) := by
  rw [bind, parameterCount_eq]
  by_cases hcount : parameters.length = Part.taken query.parts
  · rw [if_pos hcount]
    refine ⟨iff_of_false (by rintro ⟨_, ⟨⟩⟩) (not_not_intro hcount), ?_⟩
    rintro conditions ⟨⟩
    have hmatch := @isMatch_bindParts space query.parts parameters
      { limit := query.limit, comparisons := bindParts query.parts parameters } rfl rfl known
      (Nat.le_of_eq hcount.symm)
    refine ⟨hmatch, fun tuples => ?_⟩
    rw [filter, matching_eq_filter fun tuple _ => hmatch tuple]
    cases query.limit <;> rfl
  · rw [if_neg hcount]
    exact ⟨iff_of_true ⟨_, rfl⟩ hcount, by rintro _ ⟨⟩⟩

def inactiveBobs : MethodQuery where
  method := "findTop2ByAgeBetweenAndActiveFalseAndName"
  execution := .collection
  limit := some 2
  parts := [⟨"age", .between⟩, ⟨"active", .isFalse⟩, ⟨"name", .equals⟩]

def members : Space where
  id := 512
  name := "members"
  format := [{ name := "name" }, { name := "age" }, { name := "active" }]

theorem bind_selects_bobs :
    (∀ part ∈ inactiveBobs.parts, part.field ∈ members.fieldNames) ∧
      ∃ conditions, inactiveBobs.bind [.int 18, .int 65, .text "bob"] = .ok conditions ∧
        conditions.filter members
          [[.text "ann", .int 20, .bool false], [.text "bob", .int 18, .bool false],
            [.text "bob", .int 18, .bool true], [.text "bob", .int 30],
            [.text "bob", .int 65, .bool false], [.text "bob", .int 40, .bool false]] =
          .ok [[.text "bob", .int 18, .bool false], [.text "bob", .int 65, .bool false]] := by
  have known : ∀ part ∈ inactiveBobs.parts, part.field ∈ members.fieldNames := by decide
  have selects := bind_selects inactiveBobs [.int 18, .int 65, .text "bob"] members known
  refine ⟨known, _, rfl, ?_⟩
  rw [(selects.2 _ rfl).2]
  decide

end MethodQuery

end TupleStore
