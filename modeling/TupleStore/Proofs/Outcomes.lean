/-!
# Outcomes

A computation which can fail has a result when each of its steps has one, and so
has a walk along a list.
-/

namespace TupleStore

variable {ε α β γ : Type}

theorem ok_bind (value : α) (next : α → Except ε β) : (Except.ok value >>= next) = next value :=
  rfl

theorem bind_eq_ok {outcome : Except ε α} {next : α → Except ε β} {result : β} :
    (outcome >>= next) = .ok result ↔
      ∃ value, outcome = .ok value ∧ next value = .ok result := by
  cases outcome <;> simp [bind, Except.bind]

theorem mapError_eq_ok {φ : Type} {f : ε → φ} {outcome : Except ε α} {value : α} :
    outcome.mapError f = .ok value ↔ outcome = .ok value := by
  cases outcome with
  | ok result =>
      exact ⟨fun h => congrArg _ (Except.ok.inj h), fun h => congrArg _ (Except.ok.inj h)⟩
  | error error => exact ⟨nofun, nofun⟩

/-! ## Lists -/

theorem mapM_map_ok {read : β → Except ε γ} {write : α → β} {result : α → γ} {items : List α}
    (h : ∀ item ∈ items, read (write item) = .ok (result item)) :
    (items.map write).mapM read = .ok (items.map result) := by
  induction items with
  | nil => rfl
  | cons item items ih =>
      obtain ⟨hitem, hitems⟩ := List.forall_mem_cons.mp h
      rw [List.map_cons, List.mapM_cons, hitem, ih hitems]
      rfl

theorem mapM_ok {read : α → Except ε β} {result : α → β} {items : List α}
    (h : ∀ item ∈ items, read item = .ok (result item)) :
    items.mapM read = .ok (items.map result) := by
  have hmap : (items.map id).mapM read = .ok (items.map result) := mapM_map_ok h
  rwa [List.map_id] at hmap

theorem mapM_eq_map {read : α → Except ε β} {result : α → β} {items : List α} {results : List β}
    (h : items.mapM read = .ok results)
    (hread : ∀ item ∈ items, ∀ value, read item = .ok value → value = result item) :
    results = items.map result := by
  induction items generalizing results with
  | nil =>
      cases h
      rfl
  | cons item items ih =>
      rw [List.mapM_cons] at h
      obtain ⟨first, hfirst, h⟩ := bind_eq_ok.mp h
      obtain ⟨rest, hrest, h⟩ := bind_eq_ok.mp h
      obtain ⟨hitem, hitems⟩ := List.forall_mem_cons.mp hread
      cases h
      rw [List.map_cons, ← hitem first hfirst, ← ih hrest hitems]

theorem mapM_eq_error {read : α → Except ε β} {items : List α} {error : ε}
    (h : items.mapM read = .error error) : ∃ item ∈ items, read item = .error error := by
  induction items with
  | nil => cases h
  | cons item items ih =>
      rw [List.mapM_cons] at h
      cases hitem : read item with
      | error first =>
          rw [hitem] at h
          cases h
          exact ⟨item, List.mem_cons_self .., hitem⟩
      | ok value =>
          cases hrest : items.mapM read with
          | error second =>
              rw [hitem, hrest] at h
              cases h
              obtain ⟨other, hmem, hother⟩ := ih hrest
              exact ⟨other, List.mem_cons_of_mem _ hmem, hother⟩
          | ok values =>
              rw [hitem, hrest] at h
              cases h

theorem exists_mapM_ok {read : α → Except ε β} {items : List α}
    (h : ∀ item ∈ items, ∃ value, read item = .ok value) :
    ∃ values, items.mapM read = .ok values := by
  cases hread : items.mapM read with
  | ok values => exact ⟨values, rfl⟩
  | error error =>
      obtain ⟨item, hitem, herror⟩ := mapM_eq_error hread
      obtain ⟨value, hvalue⟩ := h item hitem
      rw [hvalue] at herror
      cases herror

theorem length_of_mapM {read : α → Except ε β} {items : List α} {results : List β}
    (h : items.mapM read = .ok results) : results.length = items.length := by
  induction items generalizing results with
  | nil =>
      cases h
      rfl
  | cons item items ih =>
      rw [List.mapM_cons] at h
      obtain ⟨first, _, h⟩ := bind_eq_ok.mp h
      obtain ⟨rest, hrest, h⟩ := bind_eq_ok.mp h
      cases h
      rw [List.length_cons, List.length_cons, ih hrest]

end TupleStore
