import TupleStore.Cache.Entries
import TupleStore.Proofs.Programs

/-!
# Calls of a cache side by side

Calls on one writer take turns: a turn is one operation of one call, so that every
request to the client is atomic.  The lock on the known spaces is kept: while a
call holds it, the others wait with looking into them.
-/

namespace TupleStore.Cache

variable {σ α : Type}

/-- A request on an entry as the other calls see it. -/
inductive Event where
  | read
  | store
  deriving DecidableEq, Repr

namespace Op

def event? : Op → Option Event
  | .request (.select ..) => some .read
  | .request (.replace ..) => some .store
  | _ => none

def waits : Op → Bool
  | .lock | .isKnown _ => true
  | _ => false

def holder (call : Nat) (before : Option Nat) : Op → Option Nat
  | .lock => some call
  | .unlock => none
  | _ => before

/-- Neither the lock nor the entries are touched. -/
def isQuiet : Op → Bool
  | .lock | .unlock => false
  | op => op.event?.isNone

theorem isQuiet_iff {op : Op} (quiet : op.isQuiet = true) :
    op.event? = none ∧ ∀ call before, op.holder call before = before := by
  cases op with
  | request asked => exact ⟨by simpa [isQuiet] using quiet, fun _ _ => rfl⟩
  | lock | unlock => simp [isQuiet] at quiet
  | now | isKnown | remember | count => exact ⟨rfl, fun _ _ => rfl⟩

end Op

structure System (σ α : Type) where
  shared : σ × Writer
  /-- The call which holds the lock. -/
  holder : Option Nat := none
  calls : List (Action α)
  /-- The reads and stores so far, each with the number of its call. -/
  events : List (Nat × Event) := []

namespace System

/--
One operation of a call, at the time `now`.  Nothing happens if the call has ended
or waits for the lock.
-/
def turn (client : Client σ) (system : System σ α) (call now : Nat) : System σ α :=
  match system.calls[call]? with
  | some (.step op next) =>
      if op.waits && system.holder.any (· != call) then system
      else
        let (reply, shared) := handle client now op system.shared
        { shared
          holder := op.holder call system.holder
          calls := system.calls.set call (next reply)
          events := system.events ++ (op.event?.map fun event => (call, event)).toList }
  | _ => system

def run (client : Client σ) (system : System σ α) (turns : List (Nat × Nat)) : System σ α :=
  turns.foldl (fun system (call, now) => system.turn client call now) system

def results (system : System σ α) : List (Option (Except Failure α)) :=
  system.calls.map fun
    | .done result => some result
    | .step .. => none

variable {client : Client σ} {system : System σ α} {call now : Nat} {op : Op}
variable {next : op.Reply → Action α}

theorem calls_of_results {results : List (Except Failure α)}
    (h : system.results = results.map some) : system.calls = results.map .done := by
  unfold System.results at h
  generalize system.calls = calls at h
  induction calls generalizing results with
  | nil =>
      cases results with
      | nil => rfl
      | cons => contradiction
  | cons call calls ih =>
      cases results with
      | nil => contradiction
      | cons result results =>
          obtain ⟨hcall, hcalls⟩ := List.cons.inj h
          rw [ih hcalls]
          cases call with
          | done other =>
              cases hcall
              rfl
          | step => contradiction

theorem turn_of_none (h : system.calls[call]? = none) : system.turn client call now = system := by
  rw [turn, h]

theorem turn_of_done {result : Except Failure α}
    (h : system.calls[call]? = some (.done result)) :
    system.turn client call now = system := by
  rw [turn, h]

theorem turn_of_waiting (h : system.calls[call]? = some (.step op next))
    (waits : (op.waits && system.holder.any (· != call)) = true) :
    system.turn client call now = system := by
  simp only [turn, h, waits, if_true]

theorem turn_of_step (h : system.calls[call]? = some (.step op next))
    (free : (op.waits && system.holder.any (· != call)) = false) :
    system.turn client call now =
      { shared := (handle client now op system.shared).2
        holder := op.holder call system.holder
        calls := system.calls.set call (next (handle client now op system.shared).1)
        events := system.events ++ (op.event?.map fun event => (call, event)).toList } := by
  simp only [turn, h, free, Bool.false_eq_true, if_false]

end System

def earlyReads (events : List (Nat × Event)) : List Nat :=
  (events.takeWhile fun event => event.2 = .read).map Prod.fst

/-! ## Answers -/

theorem handle_request (client : Client σ) (now : Nat) (asked : Request) (shared : σ × Writer) :
    handle client now (.request asked) shared =
      ((client.handle asked shared.1).1, (client.handle asked shared.1).2, shared.2) := rfl

theorem handle_now (client : Client σ) (now : Nat) (shared : σ × Writer) :
    handle client now .now shared = (now, shared) := rfl

theorem handle_isKnown (client : Client σ) (now : Nat) (space : String) (shared : σ × Writer) :
    handle client now (.isKnown space) shared =
      (shared.2.known.contains space, shared) := rfl

theorem handle_lock (client : Client σ) (now : Nat) (shared : σ × Writer) :
    handle client now .lock shared = ((), shared) := rfl

theorem handle_unlock (client : Client σ) (now : Nat) (shared : σ × Writer) :
    handle client now .unlock shared = ((), shared) := rfl

/-! ## A store of one entry -/

def entryTuple (key : Bytes) (entry : Bytes × Nat) : Tuple :=
  [.bin key, .bin entry.1, .nat entry.2]

/--
What a client is relied on for: once the space is ready, the entry under the key is
read, stored and deleted.  A value is stored with its expiry time.
-/
structure EntryStore (client : Client σ) (space : String) (key : Bytes) where
  ready : σ → Prop
  entry : σ → Option (Bytes × Nat)
  select : ∀ state, ready state →
    ∃ after, client.handle (.select space (.primaryKey [.bin key])) state =
        (.ok ((entry state).toList.map (entryTuple key)), after) ∧
      ready after ∧ entry after = entry state
  replace : ∀ state value expiry, ready state → expiry ≤ Entries.never →
    ∃ rows after, client.handle (.replace space (entryTuple key (value, expiry))) state =
        (.ok rows, after) ∧
      ready after ∧ entry after = some (value, expiry)
  delete : ∀ state, ready state →
    ∃ rows after, client.handle (.delete space [.bin key]) state = (.ok rows, after) ∧
      ready after ∧ entry after = none

/-- The program, run alone, ends with the space known and ready and the entry in it. -/
inductive Settles {client : Client σ} {space : String} {key : Bytes}
    (store : EntryStore client space key) (entry : Option (Bytes × Nat)) :
    Action Unit → σ × Writer → Prop
  | done {shared : σ × Writer} (known : space ∈ shared.2.known) (ready : store.ready shared.1)
      (h : store.entry shared.1 = entry) : Settles store entry (.done (.ok ())) shared
  | step {op : Op} {next : op.Reply → Action Unit} {shared : σ × Writer}
      (quiet : op.isQuiet = true)
      (h : ∀ now, Settles store entry (next (handle client now op shared).1)
        (handle client now op shared).2) :
      Settles store entry (.step op next) shared

/-- The space is known and ready, or the first call to look for it will find or create it. -/
def Begins {client : Client σ} {space : String} {key : Bytes}
    (store : EntryStore client space key) (entry : Option (Bytes × Nat))
    (shared : σ × Writer) : Prop :=
  space ∈ shared.2.known ∧ store.ready shared.1 ∧ store.entry shared.1 = entry ∨
    space ∉ shared.2.known ∧ Settles store entry (Entries.findOrCreate space) shared

end TupleStore.Cache
