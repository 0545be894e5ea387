import TupleStore.Program

/-!
# Runs of programs

A program runs as its first part and then the rest from the state which the first
part leaves; an error ends the run.
-/

namespace TupleStore.Program

variable {Op : Type} {Reply : Op → Type} {ε α β γ σ : Type}

theorem bind_assoc (program : Program Op Reply ε α) (rest : α → Program Op Reply ε β)
    (last : β → Program Op Reply ε γ) :
    program >>= rest >>= last = program >>= fun result => rest result >>= last := by
  induction program with
  | done result => cases result <;> rfl
  | step op next ih => exact congrArg (Program.step op) (funext ih)

variable (handle : (op : Op) → σ → Reply op × σ)

theorem run_bind (program : Program Op Reply ε α) (rest : α → Program Op Reply ε β)
    (state : σ) :
    run handle (program >>= rest) state =
      match run handle program state with
      | (.ok result, state) => run handle (rest result) state
      | (.error error, state) => (.error error, state) := by
  induction program generalizing state with
  | done result => cases result <;> rfl
  | step op next ih => exact ih _ _

variable {handle} in
theorem run_bind_eq_ok {program : Program Op Reply ε α} {rest : α → Program Op Reply ε β}
    {state after : σ} {result : β} :
    run handle (program >>= rest) state = (.ok result, after) ↔
      ∃ first between, run handle program state = (.ok first, between) ∧
        run handle (rest first) between = (.ok result, after) := by
  rw [run_bind]
  constructor
  · intro h
    split at h
    next first between hfirst => exact ⟨first, between, hfirst, h⟩
    next => cases h
  · rintro ⟨first, between, hfirst, h⟩
    rw [hfirst]
    exact h

theorem run_attempt (program : Program Op Reply ε α) (state : σ) :
    run handle program.attempt state =
      (.ok (run handle program state).1, (run handle program state).2) := by
  induction program generalizing state with
  | done result => rfl
  | step op next ih => exact ih _ _

@[simp] theorem run_perform (op : Op) (state : σ) :
    run handle (perform op : Program Op Reply ε (Reply op)) state =
      (.ok (handle op state).1, (handle op state).2) := rfl

@[simp] theorem run_ofExcept (result : Except ε α) (state : σ) :
    run handle (ofExcept result) state = (result, state) := rfl

@[simp] theorem run_pure (result : α) (state : σ) :
    run handle (pure result : Program Op Reply ε α) state = (.ok result, state) := rfl

end TupleStore.Program
