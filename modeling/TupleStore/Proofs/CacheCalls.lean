import TupleStore.Cache.Basic
import TupleStore.Proofs.Interleaving

/-!
# Calls of caches

Calls run one after another, and the clock goes on between their operations.
-/

namespace TupleStore.Cache

variable {σ α : Type}

/-! ## Time -/

def handleAt (client : Client σ) (clock : Nat → Nat) (op : Op) :
    (σ × Writer) × Nat → op.Reply × ((σ × Writer) × Nat) := fun (shared, tick) =>
  let (reply, shared) := handle client (clock tick) op shared
  (reply, shared, tick + 1)

def runAt (client : Client σ) (clock : Nat → Nat) (action : Action α)
    (state : (σ × Writer) × Nat) : Except Failure α × ((σ × Writer) × Nat) :=
  Program.run (handleAt client clock) action state

/-! ## Calls -/

inductive Call : Type 1 where
  | get {κ α : Type} (keys : Codec κ) (values : Codec α) (key : κ)
  | put {κ α : Type} (keys : Codec κ) (values : Codec α) (key : κ) (value : α)
  | putIfAbsent {κ α : Type} (keys : Codec κ) (values : Codec α) (key : κ) (value : α)
  /-- With what the loader returns. -/
  | getOrLoad {κ α : Type} (keys : Codec κ) (values : Codec α) (key : κ)
      (loaded : Except Failure α)
  | evict {κ : Type} (keys : Codec κ) (key : κ)
  | clear

namespace Call

def Answer : Call → Type
  | @get _ α .. | @putIfAbsent _ α .. => Option α
  | @getOrLoad _ α .. => α × Bool
  | put .. | evict .. | clear => Unit

def action (cache : Cache) : (call : Call) → Action call.Answer
  | get keys values key => cache.get keys values key
  | put keys values key value => cache.put keys values key value
  | putIfAbsent keys values key value => cache.putIfAbsent keys values key value
  | getOrLoad keys values key loaded =>
      cache.getOrLoad keys values key (Program.ofExcept loaded)
  | evict keys key => cache.evict keys key
  | clear => cache.clear

end Call

/-- A call which has been made, with the ticks at which it began and ended. -/
structure Made where
  call : Call
  began : Nat
  ended : Nat
  result : Except Failure call.Answer

def make (client : Client σ) (clock : Nat → Nat) (cache : Cache) (call : Call)
    (state : (σ × Writer) × Nat) : Made × ((σ × Writer) × Nat) :=
  let (result, after) := runAt client clock (call.action cache) state
  (⟨call, state.2, after.2, result⟩, after)

def makeAll (client : Client σ) (clock : Nat → Nat) (cache : Cache) :
    List Call → (σ × Writer) × Nat → List Made
  | [], _ => []
  | call :: calls, state =>
      let (made, state) := make client clock cache call state
      made :: makeAll client clock cache calls state

/-! ## Runs -/

variable {client : Client σ} {clock : Nat → Nat} {shared : σ × Writer} {tick : Nat}

section

variable {β : Type} {action : Action α} {rest : α → Action β} {state after : (σ × Writer) × Nat}

theorem runAt_bind {result : α} (h : runAt client clock action state = (.ok result, after)) :
    runAt client clock (action >>= rest) state = runAt client clock (rest result) after := by
  unfold runAt at h ⊢
  rw [Program.run_bind, h]

theorem runAt_bind_error {failure : Failure}
    (h : runAt client clock action state = (.error failure, after)) :
    runAt client clock (action >>= rest) state = (.error failure, after) := by
  unfold runAt at h ⊢
  rw [Program.run_bind, h]

end

theorem runAt_attempt (action : Action α) (state : (σ × Writer) × Nat) :
    runAt client clock action.attempt state =
      (.ok (runAt client clock action state).1, (runAt client clock action state).2) := by
  unfold runAt
  induction action generalizing state with
  | done result => rfl
  | step op next ih => exact ih _ _

theorem runAt_step (op : Op) (next : op.Reply → Action α) :
    runAt client clock (.step op next) (shared, tick) =
      runAt client clock (next (handle client (clock tick) op shared).1)
        ((handle client (clock tick) op shared).2, tick + 1) := rfl

@[simp] theorem runAt_now :
    runAt client clock Entries.now (shared, tick) = (.ok (clock tick), shared, tick + 1) := rfl

@[simp] theorem runAt_isKnown {space : String} :
    runAt client clock (Entries.isKnown space) (shared, tick) =
      (.ok (shared.2.known.contains space), shared, tick + 1) := rfl

@[simp] theorem runAt_lock :
    runAt client clock Entries.lock (shared, tick) = (.ok (), shared, tick + 1) := rfl

@[simp] theorem runAt_unlock :
    runAt client clock Entries.unlock (shared, tick) = (.ok (), shared, tick + 1) := rfl

theorem runAt_request {asked : Request} {answer : asked.Answer} {after : σ}
    (h : client.handle asked shared.1 = (.ok answer, after)) :
    runAt client clock (Entries.request asked) (shared, tick) =
      (.ok answer, (after, shared.2), tick + 1) := by
  rw [Entries.request, runAt_step, handle_request, h]
  rfl

theorem runAt_count (client : Client σ) (clock : Nat → Nat) (shared : σ × Writer) (tick : Nat)
    (cache : String) (occurrence : Occurrence) : ∃ writer,
      runAt client clock (Entries.count cache occurrence) (shared, tick) =
        (.ok (), (shared.1, writer), tick + 1) := ⟨_, rfl⟩

theorem runAt_of_settles {space : String} {key : Bytes} {store : EntryStore client space key}
    {entry : Option (Bytes × Nat)} {action : Action Unit}
    (settles : Settles store entry action shared) (clock : Nat → Nat) (tick : Nat) :
    ∃ after last, runAt client clock action (shared, tick) = (.ok (), after, last) ∧
      tick ≤ last ∧ space ∈ after.2.known ∧ store.ready after.1 ∧
      store.entry after.1 = entry := by
  induction settles generalizing tick with
  | done known ready h => exact ⟨_, tick, rfl, Nat.le_refl tick, known, ready, h⟩
  | step _ _ ih =>
      obtain ⟨after, last, hrun, hlast, rest⟩ := ih (clock tick) (tick + 1)
      exact ⟨after, last, hrun, by omega, rest⟩

end TupleStore.Cache
