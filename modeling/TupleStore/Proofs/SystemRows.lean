import Mathlib.Algebra.Group.Nat.Defs
import Mathlib.Data.List.Forall2
import TupleStore.Network.SystemSpace
import TupleStore.Proofs.Outcomes

/-!
# Rows of the system spaces

What a row of a system space describes: a space or an index.  A row can be read just when
it describes something, and is read as that, with numbers cut to 32 bits.
-/

namespace TupleStore

variable {ε α β : Type}

theorem mapM_eq_pure_iff {m : Type → Type} [Monad m] [LawfulMonad m]
    (pure_inj : ∀ {γ : Type} {l r : γ}, (pure l : m γ) = pure r → l = r)
    (bind_eq_pure : ∀ {γ δ : Type} {x : m γ} {f : γ → m δ} {result : δ},
      x >>= f = pure result ↔ ∃ value, x = pure value ∧ f value = pure result)
    {read : α → m β} {items : List α} {results : List β} :
    items.mapM read = pure results ↔
      List.Forall₂ (fun item result => read item = pure result) items results := by
  induction items generalizing results with
  | nil =>
      rw [List.mapM_nil, List.forall₂_nil_left_iff]
      exact ⟨fun h => (pure_inj h).symm, fun h => h ▸ rfl⟩
  | cons item items ih =>
      rw [List.mapM_cons, List.forall₂_cons_left_iff, bind_eq_pure]
      constructor
      · rintro ⟨first, hfirst, h⟩
        obtain ⟨rest, hrest, h⟩ := bind_eq_pure.mp h
        exact ⟨first, rest, hfirst, ih.mp hrest, (pure_inj h).symm⟩
      · rintro ⟨first, rest, hfirst, hrest, rfl⟩
        exact ⟨first, hfirst, bind_eq_pure.mpr ⟨rest, ih.mpr hrest, rfl⟩⟩

theorem mapM_eq_ok_iff {read : α → Except ε β} {items : List α} {results : List β} :
    items.mapM read = .ok results ↔
      List.Forall₂ (fun item result => read item = .ok result) items results :=
  mapM_eq_pure_iff Except.ok.inj bind_eq_ok

theorem mapM_eq_some_iff {read : α → Option β} {items : List α} {results : List β} :
    items.mapM read = some results ↔
      List.Forall₂ (fun item result => read item = some result) items results :=
  mapM_eq_pure_iff Option.some.inj Option.bind_eq_some_iff

theorem exists_mem_of_forall₂ {R : α → β → Prop} {items : List α} {results : List β}
    (h : List.Forall₂ R items results) : ∀ item ∈ items, ∃ result ∈ results, R item result := by
  induction h with
  | nil => exact nofun
  | cons hitem _ ih =>
      refine List.forall_mem_cons.mpr ⟨⟨_, List.mem_cons_self, hitem⟩, fun other hother => ?_⟩
      obtain ⟨result, hresult, h⟩ := ih other hother
      exact ⟨result, List.mem_cons_of_mem _ hresult, h⟩

theorem map_eq_of_forall₂ {R : α → β → Prop} {γ : Type} {f : α → γ} {g : β → γ} {items : List α}
    {results : List β} (h : List.Forall₂ R items results)
    (heq : ∀ item result, R item result → f item = g result) :
    items.map f = results.map g := by
  induction h with
  | nil => rfl
  | cons hitem _ ih => rw [List.map_cons, List.map_cons, heq _ _ hitem, ih]

namespace Network

/-! ## Spaces -/

structure DescribesField (value : Value) (field : Field) : Prop where
  name : (value.get? "name").bind Value.text? = some field.name
  type : field.type = ((value.get? "type").bind Value.text?).getD "any"
  nullable : field.nullable = ((value.get? "is_nullable").bind Value.truth?).getD false

/-- An array describes the fields, each by one item; any other value describes none. -/
def DescribesFormat (value : Value) (format : List Field) : Prop :=
  match value with
  | .array fields => List.Forall₂ DescribesField fields format
  | _ => format = []

structure DescribesSpace (row : Tuple) (id : Nat) (name : String) (format : List Field) : Prop where
  id : (fieldAt row 0).unsigned? = some id
  name : (fieldAt row 2).text? = some name
  format : DescribesFormat (fieldAt row 6) format

theorem readField_eq_ok_iff {value : Value} {field : Field} :
    readField value = .ok field ↔ DescribesField value field := by
  unfold readField
  constructor
  · intro h
    split at h
    next => cases h
    next name hname =>
      cases h
      exact ⟨hname, rfl, rfl⟩
  · intro describes
    rw [describes.name]
    exact congrArg Except.ok
      (congrArg₂ (Field.mk field.name) describes.type describes.nullable).symm

theorem readSpace_eq_ok_iff {row : Tuple} {space : Space} :
    readSpace row = .ok space ↔
      ∃ id, DescribesSpace row id space.name space.format ∧ space.id = .ofNat id ∧
        space.indexes = [] := by
  unfold readSpace
  constructor
  · intro h
    split at h
    next id hid =>
      split at h
      next name hname =>
        -- the fields are read, or there are none
        dsimp only at h
        split at h
        next fields harray =>
          obtain ⟨format, hformat, h⟩ := bind_eq_ok.mp h
          cases h
          refine ⟨id, ⟨hid, hname, ?_⟩, rfl, rfl⟩
          unfold DescribesFormat
          rw [harray]
          exact (mapM_eq_ok_iff.mp hformat).imp fun _ _ h => readField_eq_ok_iff.mp h
        next hother =>
          cases h
          refine ⟨id, ⟨hid, hname, ?_⟩, rfl, rfl⟩
          unfold DescribesFormat
          split
          next fields harray => exact (hother fields harray).elim
          next => rfl
      next => cases h
    next => cases h
  · rintro ⟨id, ⟨hid, hname, hformat⟩, hspace, hindexes⟩
    obtain ⟨_, name, format, _⟩ := space
    dsimp only at hname hformat hspace hindexes
    subst hspace hindexes
    unfold DescribesFormat at hformat
    simp only [hid, hname]
    cases harray : fieldAt row 6 with
    | array fields =>
        rw [harray] at hformat
        have hread := mapM_eq_ok_iff.mpr (hformat.imp fun _ _ h => readField_eq_ok_iff.mpr h)
        simp only [hread]
        rfl
    | _ =>
        rw [harray] at hformat
        cases hformat
        rfl

/-! ## Indexes -/

/-- A part of an index is given as an array, whose first item is the position, or by name. -/
def DescribesPart (part : Value) (position : Nat) : Prop :=
  match part with
  | .array items => ∃ first rest, items = first :: rest ∧ first.unsigned? = some position
  | part => (part.get? "field").bind Value.unsigned? = some position

structure DescribesIndex (row : Tuple) (space id : Nat) (index : Index) : Prop where
  space : (fieldAt row 0).unsigned? = some space
  id : (fieldAt row 1).unsigned? = some id
  name : (fieldAt row 2).text? = some index.name
  unique : index.unique = (((fieldAt row 4).get? "unique").bind Value.truth?).getD true
  parts : ∃ parts, fieldAt row 5 = .array parts ∧ List.Forall₂ DescribesPart parts index.parts

theorem readPart?_eq_some_iff {part : Value} {position : Nat} :
    readPart? part = some position ↔ DescribesPart part position := by
  unfold readPart? DescribesPart
  cases part with
  | array items =>
      cases items with
      | nil => exact ⟨nofun, nofun⟩
      | cons first rest =>
          constructor
          · intro h
            exact ⟨first, rest, rfl, h⟩
          · rintro ⟨_, _, hitems, h⟩
            cases hitems
            exact h
  | _ => exact Iff.rfl

theorem readIndex_eq_ok_iff {row : Tuple} {space : UInt32} {index : Index} :
    readIndex row = .ok (space, index) ↔
      ∃ owner id, DescribesIndex row owner id index ∧ space = .ofNat owner ∧
        index.id = .ofNat id := by
  unfold readIndex
  constructor
  · intro h
    split at h
    next owner howner =>
      split at h
      next id hid =>
        split at h
        next name hname =>
          split at h
          next parts harray =>
            split at h
            next positions hparts =>
              cases h
              have hpositions := (mapM_eq_some_iff.mp hparts).imp
                fun _ _ h => readPart?_eq_some_iff.mp h
              exact ⟨owner, id, ⟨howner, hid, hname, rfl, parts, harray, hpositions⟩, rfl, rfl⟩
            next => cases h
          next => cases h
        next => cases h
      next => cases h
    next => cases h
  · rintro ⟨owner, id, ⟨howner, hid, hname, hunique, parts, harray, hparts⟩, rfl, hindex⟩
    obtain ⟨_, name, unique, positions⟩ := index
    dsimp only at hid hname hunique hparts hindex
    have hpositions : parts.mapM readPart? = some positions :=
      mapM_eq_some_iff.mpr (hparts.imp fun _ _ h => readPart?_eq_some_iff.mpr h)
    subst hindex hunique
    simp only [howner, hid, hname, harray, hpositions]
    rfl

end Network

end TupleStore
