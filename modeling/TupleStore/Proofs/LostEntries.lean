import Mathlib.Data.List.Basic
import Mathlib.Logic.Function.Basic
import TupleStore.Proofs.Accesses
import TupleStore.Proofs.EntryRuns
import TupleStore.Proofs.FirstStore
import TupleStore.Proofs.SharedSearch

/-!
# Lost entries

A get looks at the time after it has read, and then deletes by the key.  An entry which
is stored in the meantime is deleted with the expired one that was read; this is the
only way in which gets and puts lose an entry.
-/

namespace TupleStore.Cache

open Entries

variable {σ : Type} {client : Client σ} {space : String} {key : Bytes}

/-! ## Calls -/

inductive Task where
  | get
  | put (value : Bytes) (ttl : Duration)
  deriving DecidableEq, Repr

namespace Task

def call (space : String) (key : Bytes) : Task → Action (Option Bytes)
  | .get => Entries.get space key
  | .put value ttl => Entries.put space key value ttl >>= fun _ => pure none

def rest (space : String) (key : Bytes) : Task → Action (Option Bytes)
  | .get =>
      request (.select space (.primaryKey [.bin key])) >>= fun tuples =>
        valueOf space key tuples >>= countGet space
  | .put value ttl =>
      now >>= fun now =>
        request (.replace space (entryTuple key (value, expiryTime ttl now))) >>= fun _ =>
          count space .put >>= fun _ => pure none

theorem call_eq (space : String) (key : Bytes) (task : Task) :
    task.call space key = ensureSpace space >>= fun _ => task.rest space key := by
  cases task with
  | get => exact get_eq space key
  | put value ttl =>
      rw [call, Entries.put, Program.bind_assoc]
      refine congrArg (ensureSpace space >>= ·) (funext fun _ => ?_)
      rw [Program.bind_assoc]
      exact congrArg (now >>= ·) (funext fun _ => Program.bind_assoc ..)

private theorem delete_free (space : String) (key : Bytes) :
    Only Op.IsFree (Entries.delete space key) := by
  have hdelete : Only Op.IsFree (request (.delete space [.bin key])) :=
    .request ⟨rfl, fun _ _ => rfl⟩
  exact hdelete.bind fun _ => .perform ⟨rfl, fun _ _ => rfl⟩

private theorem liveValue_free (space : String) (key : Bytes) (tuple : Tuple) :
    Only Op.IsFree (liveValue space key tuple) := by
  have hnow : Only Op.IsFree now := .perform ⟨rfl, fun _ _ => rfl⟩
  have hread : Only Op.IsFree (Program.ofExcept (readEntry tuple) : Action (Bytes × Nat)) :=
    .done _
  refine hread.bind fun entry => hnow.bind fun now => ?_
  by_cases live : now < entry.2
  · exact if_pos live ▸ .done _
  · exact if_neg live ▸ (delete_free space key).bind fun _ => .done _

theorem rest_free (space : String) (key : Bytes) (task : Task) :
    Only Op.IsFree (task.rest space key) := by
  have hcount : ∀ occurrence, Only Op.IsFree (count space occurrence) := fun _ =>
    .perform ⟨rfl, fun _ _ => rfl⟩
  cases task with
  | get =>
      have hselect : Only Op.IsFree (request (.select space (.primaryKey [.bin key]))) :=
        .request ⟨rfl, fun _ _ => rfl⟩
      refine hselect.bind fun tuples => Only.bind ?_ fun _ =>
        (hcount _).bind fun _ => (hcount _).bind fun _ => .done _
      cases tuples with
      | nil => exact .done _
      | cons tuple _ => exact liveValue_free space key tuple
  | put value ttl =>
      have hnow : Only Op.IsFree now := .perform ⟨rfl, fun _ _ => rfl⟩
      have hreplace : ∀ tuple, Only Op.IsFree (request (.replace space tuple)) := fun _ =>
        .request ⟨rfl, fun _ _ => rfl⟩
      exact hnow.bind fun _ => (hreplace _).bind fun _ => (hcount _).bind fun _ => .done _

end Task

/-! ## What a call has found -/

inductive Finding where
  | nothing
  /-- It has read an entry with this expiry time, and has to look at the time. -/
  | entry (expiry : Nat)
  /-- The entry which it has read has expired. -/
  | expired (expiry : Nat)

/-- The program of a call which has found this; it deletes an expired entry only. -/
inductive Pursues (space : String) (key : Bytes) : Finding → Action (Option Bytes) → Prop
  | read {next : Except ClientError (List Tuple) → Action (Option Bytes)}
      (none : Pursues space key .nothing (next (.ok [])))
      (some : ∀ entry : Bytes × Nat, Pursues space key (.entry entry.2)
        (next (.ok [entryTuple key entry]))) :
      Pursues space key .nothing (.step (.request (.select space (.primaryKey [.bin key]))) next)
  | check {next : Nat → Action (Option Bytes)} {expiry : Nat}
      (live : ∀ now, now < expiry → Pursues space key .nothing (next now))
      (dead : ∀ now, expiry ≤ now → Pursues space key (.expired expiry) (next now)) :
      Pursues space key (.entry expiry) (.step .now next)
  | delete {next : Except ClientError (List Tuple) → Action (Option Bytes)} {expiry : Nat}
      (h : ∀ rows, Pursues space key .nothing (next (.ok rows))) :
      Pursues space key (.expired expiry) (.step (.request (.delete space [.bin key])) next)
  | stamp {next : Nat → Action (Option Bytes)}
      (h : ∀ now, Pursues space key .nothing (next now)) :
      Pursues space key .nothing (.step .now next)
  | store {next : Except ClientError (List Tuple) → Action (Option Bytes)} {value : Bytes}
      {expiry : Nat} (bound : expiry ≤ never)
      (h : ∀ rows, Pursues space key .nothing (next (.ok rows))) :
      Pursues space key .nothing
        (.step (.request (.replace space (entryTuple key (value, expiry)))) next)
  | count {cache : String} {occurrence : Occurrence} {next : Unit → Action (Option Bytes)}
      (h : Pursues space key .nothing (next ())) :
      Pursues space key .nothing (.step (.count cache occurrence) next)
  | done {result : Except Failure (Option Bytes)} : Pursues space key .nothing (.done result)

private theorem liveValue_pursues {entry : Bytes × Nat}
    {rest : Option Bytes → Action (Option Bytes)}
    (h : ∀ value, Pursues space key .nothing (rest value)) :
    Pursues space key (.entry entry.2) (liveValue space key (entryTuple key entry) >>= rest) := by
  refine .check (fun now hnow => ?_) fun now hnow => ?_
  · change Pursues space key .nothing ((if now < entry.2 then pure (some entry.1)
      else delete space key >>= fun _ => pure none) >>= rest)
    rw [if_pos hnow]
    exact h _
  · change Pursues space key (.expired entry.2) ((if now < entry.2 then pure (some entry.1)
      else delete space key >>= fun _ => pure none) >>= rest)
    rw [if_neg (Nat.not_lt.mpr hnow)]
    exact .delete fun _ => .count (h _)

theorem Task.rest_pursues (task : Task) : Pursues space key .nothing (task.rest space key) := by
  have hcount : ∀ value, Pursues space key .nothing (countGet space value) := fun _ =>
    .count (.count .done)
  cases task with
  | get => exact .read (hcount _) fun _ => liveValue_pursues hcount
  | put value ttl => exact .stamp fun _ => .store (expiryTime_le ..) fun _ => .count .done

/-! ## Turns -/

def Accounts (log : List Access) (call clock : Nat) : Finding → Prop
  | .nothing => True
  | .entry expiry => HasRead log call expiry
  | .expired expiry => HasRead log call expiry ∧ expiry ≤ clock

variable {entry : Option (Bytes × Nat)} {past new log : List Access} {call clock now : Nat}
variable {access : Access}

theorem Accounts.append {finding : Finding} (h : Accounts past call clock finding)
    (new : List Access) (hnow : clock ≤ now) : Accounts (past ++ new) call now finding := by
  cases finding with
  | nothing => trivial
  | entry expiry => exact HasRead.append h new
  | expired expiry => exact ⟨h.1.append new, h.2.trans hnow⟩

theorem handle_of_request {asked : Request} {shared : σ × Writer} {reply : asked.Reply} {after : σ}
    (now : Nat) (h : client.handle asked shared.1 = (reply, after)) :
    handle client now (.request asked) shared = (reply, after, shared.2) := by
  rw [handle_request, h]

structure Recorded (store : EntryStore client space key) (entry : Option (Bytes × Nat))
    (finding : Nat → Finding) (system : System σ (Option Bytes)) (log : List Access)
    (clock : Nat) : Prop where
  ready : store.ready system.shared.1
  entry_eq : store.entry system.shared.1 = last entry log
  coherent : Coherent entry log
  times : ∀ access ∈ log, access.now ≤ clock
  pursues : ∀ i program, system.calls[i]? = some program → Pursues space key (finding i) program
  accounts : ∀ i, Accounts log i clock (finding i)

namespace Recorded

variable {store : EntryStore client space key} {finding : Nat → Finding}
variable {system : System σ (Option Bytes)} {op : Op} {next : op.Reply → Action (Option Bytes)}
variable {shared : σ × Writer} {target : Finding}

theorem later (recorded : Recorded store entry finding system log clock) (hnow : clock ≤ now) :
    Recorded store entry finding system log now where
  ready := recorded.ready
  entry_eq := recorded.entry_eq
  coherent := recorded.coherent
  times access haccess := (recorded.times access haccess).trans hnow
  pursues := recorded.pursues
  accounts i := by simpa using (recorded.accounts i).append [] hnow

private theorem step (recorded : Recorded store entry finding system past clock)
    (hnow : clock ≤ now) (hcall : system.calls[call]? = some (.step op next))
    (free : op.waits = false) {reply : op.Reply}
    (hhandle : handle client now op system.shared = (reply, shared))
    (ready : store.ready shared.1) (hentry : store.entry shared.1 = last entry (past ++ new))
    (coherent : Coherent entry (past ++ new)) (times : ∀ access ∈ new, access.now = now)
    (pursues : Pursues space key target (next reply))
    (accounts : Accounts (past ++ new) call now target) :
    Recorded store entry (Function.update finding call target) (system.turn client call now)
      (past ++ new) now := by
  rw [System.turn_of_step hcall (by simp [free]), hhandle]
  refine ⟨ready, hentry, coherent, fun access haccess => ?_, fun i program hprogram => ?_,
    fun i => ?_⟩
  · rcases List.mem_append.mp haccess with hpast | hnew
    · exact (recorded.times access hpast).trans hnow
    · exact (times access hnew).le
  · refine of_getElem?_set
      (fun i program => Pursues space key (Function.update finding call target i) program) ?_
      (fun i other hi hother => ?_) hprogram
    · rw [Function.update_self]
      exact pursues
    · rw [Function.update_of_ne hi]
      exact recorded.pursues i other hother
  · by_cases hi : i = call
    · subst hi
      rw [Function.update_self]
      exact accounts
    · rw [Function.update_of_ne hi]
      exact (recorded.accounts i).append new hnow

private theorem step_silent (recorded : Recorded store entry finding system log clock)
    (hnow : clock ≤ now) (hcall : system.calls[call]? = some (.step op next))
    (free : op.waits = false) (silent : op.IsSilent)
    {reply : op.Reply} (hhandle : handle client now op system.shared = (reply, shared))
    (hshared : shared.1 = system.shared.1) (pursues : Pursues space key target (next reply))
    (accounts : Accounts log call now target) :
    ∃ finding, Recorded store entry finding (system.turn client call now)
      (log ++ (system.access? store call now).toList) now := by
  rw [System.access?_of_silent hcall silent, Option.toList_none]
  rw [← List.append_nil log] at accounts
  refine ⟨_, recorded.step hnow hcall free hhandle ?_ ?_ ?_ nofun pursues accounts⟩
  · rw [hshared]
    exact recorded.ready
  · rw [hshared, List.append_nil]
    exact recorded.entry_eq
  · rw [List.append_nil]
    exact recorded.coherent

private theorem step_access (recorded : Recorded store entry finding system log clock)
    (hnow : clock ≤ now) (hcall : system.calls[call]? = some (.step op next))
    (free : op.IsFree) {kind : AccessKind} (hkind : op.accessKind? = some kind)
    {reply : op.Reply} (hhandle : handle client now op system.shared = (reply, shared))
    (ready : store.ready shared.1)
    (hentry : store.entry shared.1 =
      Access.left ⟨call, now, kind, store.entry system.shared.1⟩)
    (warranted : kind = .delete → ∃ expiry ≤ now, HasRead log call expiry)
    (pursues : Pursues space key target (next reply))
    (accounts : Accounts (log ++ [⟨call, now, kind, store.entry system.shared.1⟩]) call now
      target) :
    ∃ finding, Recorded store entry finding (system.turn client call now)
      (log ++ (system.access? store call now).toList) now := by
  rw [System.access?_of_free hcall free, hkind, Option.map_some, Option.toList_some]
  refine ⟨_, recorded.step hnow hcall free.1 hhandle ready ?_ ?_ ?_ pursues accounts⟩
  · rw [last_append, hentry]
    rfl
  · exact recorded.coherent.snoc recorded.entry_eq
      (fun other hother => (recorded.times other hother).trans hnow) warranted
  · intro access haccess
    rw [List.mem_singleton.mp haccess]

theorem turn (recorded : Recorded store entry finding system log clock) (call : Nat)
    (hnow : clock ≤ now) :
    ∃ finding, Recorded store entry finding (system.turn client call now)
      (log ++ (system.access? store call now).toList) now := by
  cases hcall : system.calls[call]? with
  | none =>
      refine ⟨finding, ?_⟩
      rw [System.turn_of_none hcall, System.access?, hcall, Option.toList_none, List.append_nil]
      exact recorded.later hnow
  | some program =>
      have pursues := recorded.pursues call program hcall
      have accounts := recorded.accounts call
      generalize finding call = found at pursues accounts
      cases pursues with
      | read absent present =>
          obtain ⟨after, hhandle, ready, hentry⟩ := store.select _ recorded.ready
          have hanswer := handle_of_request now hhandle
          cases hfound : store.entry system.shared.1 with
          | none =>
              rw [hfound] at hanswer
              exact recorded.step_access hnow hcall ⟨rfl, fun _ _ => rfl⟩ rfl hanswer ready hentry
                (by simp) absent trivial
          | some entry =>
              rw [hfound] at hanswer
              refine recorded.step_access hnow hcall ⟨rfl, fun _ _ => rfl⟩ rfl hanswer ready hentry
                (by simp) (present entry) ?_
              exact ⟨_, List.mem_append_right log (List.mem_singleton_self _), rfl, rfl, entry,
                hfound, rfl⟩
      | @check _ expiry live dead =>
          by_cases h : now < expiry
          · exact recorded.step_silent hnow hcall rfl rfl (handle_now ..) rfl (live now h) trivial
          · have expired := Nat.le_of_not_lt h
            exact recorded.step_silent hnow hcall rfl rfl (handle_now ..) rfl (dead now expired)
              ⟨accounts, expired⟩
      | @delete _ expiry h =>
          -- what is deleted may be another entry by now: only the read accounts for it
          obtain ⟨rows, after, hhandle, ready, hentry⟩ := store.delete _ recorded.ready
          exact recorded.step_access hnow hcall ⟨rfl, fun _ _ => rfl⟩ rfl
            (handle_of_request now hhandle) ready hentry
            (fun _ => ⟨expiry, accounts.2.trans hnow, accounts.1⟩) (h rows) trivial
      | stamp h =>
          exact recorded.step_silent hnow hcall rfl rfl (handle_now ..) rfl (h now) trivial
      | @store _ value expiry bound h =>
          obtain ⟨rows, after, hhandle, ready, hentry⟩ :=
            store.replace _ value expiry recorded.ready bound
          exact recorded.step_access hnow hcall ⟨rfl, fun _ _ => rfl⟩ rfl
            (handle_of_request now hhandle) ready hentry (by simp) (h rows) trivial
      | count h => exact recorded.step_silent hnow hcall rfl rfl rfl rfl h trivial
      | done =>
          refine ⟨finding, ?_⟩
          rw [System.turn_of_done hcall, System.access?, hcall]
          simpa using recorded.later hnow

theorem run (recorded : Recorded store entry finding system log clock)
    (turns : List (Nat × Nat)) (forward : turns.Pairwise fun l r => l.2 ≤ r.2)
    (hturns : ∀ turn ∈ turns, clock ≤ turn.2) :
    Coherent entry (log ++ system.accesses store turns) := by
  induction turns generalizing finding system log clock with
  | nil =>
      rw [System.accesses, List.append_nil]
      exact recorded.coherent
  | cons turn turns ih =>
      obtain ⟨call, now⟩ := turn
      obtain ⟨hlater, forward⟩ := List.pairwise_cons.mp forward
      obtain ⟨finding, recorded⟩ := recorded.turn call (hturns _ List.mem_cons_self)
      rw [System.accesses, ← List.append_assoc]
      exact ih recorded forward hlater

end Recorded

/-! ## Runs -/

def working (space : String) (key : Bytes) (tasks : List Task) (shared : σ × Writer) :
    System σ (Option Bytes) where
  shared
  calls := tasks.map (Task.call space key)

theorem working_eq (space : String) (key : Bytes) (tasks : List Task) (shared : σ × Writer) :
    working space key tasks shared =
      searching space (tasks.map (Task.rest space key)) shared := by
  have hcalls : tasks.map (Task.call space key) =
      (tasks.map (Task.rest space key)).map fun rest => ensureSpace space >>= fun _ => rest := by
    rw [List.map_map]
    exact List.map_congr_left fun task _ => task.call_eq space key
  rw [working, hcalls]
  rfl

theorem coherent_working (store : EntryStore client space key) (tasks : List Task)
    {shared : σ × Writer} (begins : Begins store entry shared) (turns : List (Nat × Nat))
    (forward : turns.Pairwise fun l r => l.2 ≤ r.2) :
    Coherent entry ((working space key tasks shared).accesses store turns) := by
  have free : ∀ rest ∈ tasks.map (Task.rest space key), Only Op.IsFree rest :=
    List.forall_mem_map.mpr fun task _ => task.rest_free space key
  rw [working_eq]
  rcases accesses_searching begins free turns with
    hnil | ⟨inside, start, hsublist, ready, hentry, haccesses⟩
  · rw [hnil]
    exact .nil entry
  · have recorded : Recorded store entry (fun _ => .nothing)
        { shared := start, calls := tasks.map (Task.rest space key) } [] 0 := by
      refine ⟨ready, hentry, .nil entry, nofun, fun i program hprogram => ?_, fun _ => trivial⟩
      obtain ⟨task, -, rfl⟩ := List.mem_map.mp (List.mem_of_getElem? hprogram)
      exact task.rest_pursues
    rw [haccesses]
    exact recorded.run inside (forward.sublist hsublist) fun _ _ => Nat.zero_le _

/--
Gets and puts on one key, in any order of turns while the clock does not go back: no get
deletes a live entry, and every entry can be read until it expires or is replaced,
exactly when no get is overtaken by a put.
-/
theorem spares_readable_iff (store : EntryStore client space key) (tasks : List Task)
    (shared : σ × Writer) (turns : List (Nat × Nat)) (begins : Begins store entry shared)
    (forward : turns.Pairwise fun l r => l.2 ≤ r.2) :
    Spares ((working space key tasks shared).accesses store turns) ∧
        Readable ((working space key tasks shared).accesses store turns) ↔
      ¬Overtaken ((working space key tasks shared).accesses store turns) :=
  (coherent_working store tasks begins turns forward).safe_iff

/-- An entry for a second, two gets and an entry for good. -/
def renewal : List Task :=
  [.put [1] ((Duration.of? 1 0).getD .zero), .get, .put [2] .zero, .get]

def renewedAfter : List (Nat × Nat) :=
  List.replicate 30 (0, 100) ++ List.replicate 10 (1, 5000) ++ List.replicate 10 (2, 5000) ++
    List.replicate 10 (3, 5000)

/-- The first get deletes the entry which has expired, before the next one is stored. -/
theorem spares_readable_after :
    (renewedAfter.Pairwise fun l r => l.2 ≤ r.2) ∧
      Spares ((working "cache" [7] renewal ({}, {})).accesses (embeddedEntries "cache" [7])
        renewedAfter) ∧
      Readable ((working "cache" [7] renewal ({}, {})).accesses (embeddedEntries "cache" [7])
        renewedAfter) := by
  have forward : renewedAfter.Pairwise fun l r => l.2 ≤ r.2 := by decide +kernel
  refine ⟨forward, (spares_readable_iff (embeddedEntries "cache" [7]) renewal ({}, {}) renewedAfter
    begins_fresh forward).mpr fun overtaken => ?_⟩
  have hlog : (working "cache" [7] renewal ({}, {})).accesses (embeddedEntries "cache" [7])
      renewedAfter =
      [⟨0, 100, .store [1] 1100, none⟩, ⟨1, 5000, .read, some ([1], 1100)⟩,
        ⟨1, 5000, .delete, some ([1], 1100)⟩, ⟨2, 5000, .store [2] never, none⟩,
        ⟨3, 5000, .read, some ([2], never)⟩] := by decide +kernel
  rw [hlog] at overtaken
  exact absurd overtaken.exists_between (by decide +kernel)

/-- The put comes after the first get has read, and before it looks at the time. -/
def renewedBetween : List (Nat × Nat) :=
  List.replicate 30 (0, 100) ++ List.replicate 2 (1, 5000) ++ List.replicate 10 (2, 5000) ++
    List.replicate 10 (1, 5000) ++ List.replicate 10 (3, 5000)

/-- The get deletes the new entry instead of the one which it has read. -/
theorem not_spares_readable_between :
    Begins (embeddedEntries "cache" [7]) none ({}, {}) ∧
      (renewedBetween.Pairwise fun l r => l.2 ≤ r.2) ∧
      ¬Spares ((working "cache" [7] renewal ({}, {})).accesses (embeddedEntries "cache" [7])
        renewedBetween) ∧
      ¬Readable ((working "cache" [7] renewal ({}, {})).accesses (embeddedEntries "cache" [7])
        renewedBetween) := by
  have hlog : (working "cache" [7] renewal ({}, {})).accesses (embeddedEntries "cache" [7])
      renewedBetween =
      [⟨0, 100, .store [1] 1100, none⟩, ⟨1, 5000, .read, some ([1], 1100)⟩,
        ⟨2, 5000, .store [2] never, some ([1], 1100)⟩, ⟨1, 5000, .delete, some ([2], never)⟩,
        ⟨3, 5000, .read, none⟩] := by decide +kernel
  rw [hlog]
  refine ⟨begins_fresh, by decide +kernel, fun spares => ?_, fun readable => ?_⟩
  · have := spares ⟨1, 5000, .delete, some ([2], never)⟩ (by simp) rfl _ rfl
    exact absurd this (by decide)
  · have := readable [_, _] [_] [] ⟨2, 5000, .store [2] never, _⟩ ⟨3, 5000, .read, none⟩ [2] never
      rfl rfl rfl (by simp [Access.isStore]) (by decide)
    simp at this

end TupleStore.Cache
