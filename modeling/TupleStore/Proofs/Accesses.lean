import Mathlib.Data.List.Basic
import TupleStore.Proofs.Interleaving

/-!
# Accesses to an entry

The requests of all calls on one entry, in their order, each with its time and with the
entry which it meets.  A delete which follows from a read of an expired entry can only
hit an entry that was stored in between.
-/

namespace TupleStore.Cache

/-! ## Accesses -/

inductive AccessKind where
  | read
  | store (value : Bytes) (expiry : Nat)
  | delete
  deriving DecidableEq, Repr

structure Access where
  /-- The number of the call. -/
  call : Nat
  now : Nat
  kind : AccessKind
  /-- The entry before the access. -/
  met : Option (Bytes × Nat)
  deriving DecidableEq, Repr

namespace Access

def isStore (access : Access) : Bool :=
  match access.kind with
  | .store .. => true
  | _ => false

def left (access : Access) : Option (Bytes × Nat) :=
  match access.kind with
  | .read => access.met
  | .store value expiry => some (value, expiry)
  | .delete => none

end Access

def Op.accessKind? : Op → Option AccessKind
  | .request (.select ..) => some .read
  | .request (.replace _ tuple) =>
      match Entries.readEntry tuple with
      | .ok (value, expiry) => some (.store value expiry)
      | .error _ => none
  | .request (.delete ..) => some .delete
  | _ => none

variable {σ α : Type} {client : Client σ} {space : String} {key : Bytes}

namespace System

def access? (store : EntryStore client space key) (system : System σ α) (call now : Nat) :
    Option Access :=
  match system.calls[call]? with
  | some (.step op _) =>
      if op.waits && system.holder.any (· != call) then none
      else op.accessKind?.map fun kind => ⟨call, now, kind, store.entry system.shared.1⟩
  | _ => none

def accesses (store : EntryStore client space key) (system : System σ α) :
    List (Nat × Nat) → List Access
  | [] => []
  | (call, now) :: turns =>
      (system.access? store call now).toList ++ (system.turn client call now).accesses store turns

end System

/-! ## What is wanted of them -/

/-- No delete hits an entry which has not expired. -/
def Spares (log : List Access) : Prop :=
  ∀ access ∈ log, access.kind = .delete → ∀ entry ∈ access.met, entry.2 ≤ access.now

/-- An entry is read from its store on, until another one is stored or it expires. -/
def Readable (log : List Access) : Prop :=
  ∀ (before between after : List Access) (stored read : Access) (value : Bytes) (expiry : Nat),
    log = before ++ stored :: between ++ read :: after → stored.kind = .store value expiry →
      read.kind = .read → (∀ access ∈ between, access.isStore = false) → read.now < expiry →
        read.met = some (value, expiry)

/--
Between the read and the delete of one call an entry is stored which has not expired
when the call deletes, and is not replaced before.
-/
def Overtaken (log : List Access) : Prop :=
  ∃ (before between later after : List Access) (read stored deleted : Access) (value : Bytes)
    (expiry : Nat),
    log = before ++ read :: between ++ stored :: later ++ deleted :: after ∧
      read.kind = .read ∧ stored.kind = .store value expiry ∧ deleted.kind = .delete ∧
      read.call = deleted.call ∧ (∀ access ∈ later, access.isStore = false) ∧
      deleted.now < expiry

theorem Overtaken.exists_between {log : List Access} (h : Overtaken log) :
    ∃ read ∈ log, ∃ stored ∈ log, ∃ deleted ∈ log, [read, stored, deleted].Sublist log ∧
      read.kind = .read ∧ stored.isStore = true ∧ deleted.kind = .delete ∧
      read.call = deleted.call := by
  obtain ⟨before, between, later, after, read, stored, deleted, value, expiry, rfl, hread, hstored,
    hdeleted, hcall, -, -⟩ := h
  have hsublist : [read, stored, deleted].Sublist
      (before ++ read :: between ++ stored :: later ++ deleted :: after) :=
    (((List.singleton_sublist.mpr (by simp)).append (List.singleton_sublist.mpr (by simp))).append
      (List.singleton_sublist.mpr (by simp)) : ([read] ++ [stored] ++ [deleted]).Sublist _)
  refine ⟨read, by simp, stored, by simp, deleted, by simp, hsublist, hread, ?_, hdeleted, hcall⟩
  rw [Access.isStore, hstored]

/-! ## From access to access -/

def Meets : Option (Bytes × Nat) → List Access → Prop
  | _, [] => True
  | entry, access :: log => access.met = entry ∧ Meets access.left log

def last (entry : Option (Bytes × Nat)) (log : List Access) : Option (Bytes × Nat) :=
  log.foldl (fun _ access => access.left) entry

variable {entry : Option (Bytes × Nat)} {log before after : List Access} {access : Access}
variable {value : Bytes} {expiry : Nat}

theorem meets_append : Meets entry (before ++ after) ↔
    Meets entry before ∧ Meets (last entry before) after := by
  induction before generalizing entry with
  | nil => simp [Meets, last]
  | cons access before ih => exact (and_congr_right fun _ => ih).trans and_assoc.symm

theorem last_append (entry : Option (Bytes × Nat)) (before after : List Access) :
    last entry (before ++ after) = last (last entry before) after := List.foldl_append

theorem last_cons (entry : Option (Bytes × Nat)) (access : Access) (log : List Access) :
    last entry (access :: log) = last access.left log := rfl

theorem Access.left_of_read (h : access.kind = .read) : access.left = access.met := by
  rw [Access.left, h]

theorem Access.left_of_store (h : access.kind = .store value expiry) :
    access.left = some (value, expiry) := by
  rw [Access.left, h]

theorem Access.left_of_delete (h : access.kind = .delete) : access.left = none := by
  rw [Access.left, h]

theorem last_eq (meets : Meets entry log) :
    last entry log = none ∨
      ((∀ access ∈ log, access.isStore = false) ∧ last entry log = entry) ∨
      ∃ (before after : List Access) (stored : Access) (value : Bytes) (expiry : Nat),
        log = before ++ stored :: after ∧ stored.kind = .store value expiry ∧
          (∀ access ∈ after, access.isStore = false) ∧
          last entry log = some (value, expiry) := by
  induction log generalizing entry with
  | nil => exact .inr (.inl ⟨nofun, rfl⟩)
  | cons access log ih =>
      obtain ⟨hmet, meets⟩ := meets
      rw [last_cons]
      rcases ih meets with hnone | ⟨unstored, hsame⟩ |
        ⟨before, after, stored, value, expiry, rfl, h⟩
      · exact .inl hnone
      · cases hkind : access.kind with
        | read =>
            refine .inr (.inl ⟨List.forall_mem_cons.mpr ⟨?_, unstored⟩, ?_⟩)
            · rw [Access.isStore, hkind]
            · rw [hsame, Access.left_of_read hkind, hmet]
        | store value expiry =>
            refine .inr (.inr ⟨[], log, access, value, expiry, rfl, hkind, unstored, ?_⟩)
            rw [hsame, Access.left_of_store hkind]
        | delete =>
            refine .inl ?_
            rw [hsame, Access.left_of_delete hkind]
      · exact .inr (.inr ⟨access :: before, after, stored, value, expiry, rfl, h⟩)

/-- An entry which has not expired lasts as long as nothing is stored over it. -/
theorem last_of_spares (meets : Meets (some (value, expiry)) log) (spares : Spares log)
    (unstored : ∀ access ∈ log, access.isStore = false)
    (live : ∀ access ∈ log, access.now < expiry) :
    last (some (value, expiry)) log = some (value, expiry) := by
  induction log with
  | nil => rfl
  | cons access log ih =>
      obtain ⟨hmet, meets⟩ := meets
      obtain ⟨hunstored, unstored⟩ := List.forall_mem_cons.mp unstored
      obtain ⟨hlive, live⟩ := List.forall_mem_cons.mp live
      obtain ⟨hspares, spares⟩ := List.forall_mem_cons.mp spares
      have hleft : access.left = some (value, expiry) := by
        cases hkind : access.kind with
        | read => rw [Access.left_of_read hkind, hmet]
        | store => simp [Access.isStore, hkind] at hunstored
        | delete =>
            have := hspares hkind (value, expiry) hmet
            omega
      rw [hleft] at meets
      change last access.left log = _
      rw [hleft]
      exact ih meets spares unstored live

def HasRead (log : List Access) (call expiry : Nat) : Prop :=
  ∃ read ∈ log, read.kind = .read ∧ read.call = call ∧
    ∃ entry, read.met = some entry ∧ entry.2 = expiry

/-- The accesses fit together, and every delete follows from a read of an expired entry. -/
structure Coherent (entry : Option (Bytes × Nat)) (log : List Access) : Prop where
  meets : Meets entry log
  forward : log.Pairwise fun l r => l.now ≤ r.now
  warranted : ∀ before deleted after, log = before ++ deleted :: after → deleted.kind = .delete →
    ∃ expiry ≤ deleted.now, HasRead before deleted.call expiry

theorem Spares.sublist (spares : Spares log) (h : before.Sublist log) : Spares before :=
  fun access haccess => spares access (h.subset haccess)

theorem HasRead.append {call expiry : Nat} (h : HasRead before call expiry)
    (after : List Access) : HasRead (before ++ after) call expiry := by
  obtain ⟨read, hread, h⟩ := h
  exact ⟨read, List.mem_append_left after hread, h⟩

namespace Coherent

theorem nil (entry : Option (Bytes × Nat)) : Coherent entry [] :=
  ⟨trivial, .nil, fun before => by simp⟩

theorem snoc (coherent : Coherent entry log) (hmet : access.met = last entry log)
    (later : ∀ other ∈ log, other.now ≤ access.now)
    (warranted : access.kind = .delete → ∃ expiry ≤ access.now, HasRead log access.call expiry) :
    Coherent entry (log ++ [access]) where
  meets := meets_append.mpr ⟨coherent.meets, hmet, trivial⟩
  forward := List.pairwise_append.mpr ⟨coherent.forward, List.pairwise_singleton .., by
    simpa using later⟩
  warranted before deleted after hlog hkind := by
    rcases after.eq_nil_or_concat with rfl | ⟨after, other, rfl⟩
    · obtain ⟨rfl, ⟨⟩⟩ := List.append_inj' hlog rfl
      exact warranted hkind
    · rw [List.concat_eq_append, ← List.cons_append, ← List.append_assoc] at hlog
      obtain ⟨rfl, -⟩ := List.append_inj' hlog rfl
      exact coherent.warranted before deleted after rfl hkind

theorem met_of_spares (coherent : Coherent entry log) (spares : Spares log)
    {later : List Access} {stored access : Access}
    (hlog : log = before ++ stored :: later ++ access :: after)
    (hstored : stored.kind = .store value expiry)
    (unstored : ∀ other ∈ later, other.isStore = false) (live : access.now < expiry) :
    access.met = some (value, expiry) := by
  have meets := coherent.meets
  have forward := coherent.forward
  rw [hlog] at meets forward
  obtain ⟨hbefore, hmet, -⟩ := meets_append.mp meets
  obtain ⟨-, -, hlater⟩ := meets_append.mp hbefore
  rw [last_append, last_cons, Access.left_of_store hstored] at hmet
  rw [Access.left_of_store hstored] at hlater
  rw [hmet]
  refine last_of_spares hlater (spares.sublist ?_) unstored fun other hother => ?_
  · rw [hlog, List.append_assoc]
    exact (List.sublist_append_left later _).cons stored |>.trans (List.sublist_append_right ..)
  · have horder := (List.pairwise_append.mp forward).2.2 other (by simp [hother]) access (by simp)
    omega

theorem spares (coherent : Coherent entry log) (h : ¬Overtaken log) : Spares log := by
  intro deleted hdeleted hkind met hmet
  by_contra hlive
  obtain ⟨before, after, hlog⟩ := List.append_of_mem hdeleted
  obtain ⟨_, hexpired, read, hread, hreadKind, hcall, old, hold, rfl⟩ :=
    coherent.warranted before deleted after hlog hkind
  obtain ⟨first, between, rfl⟩ := List.append_of_mem hread
  have meets := coherent.meets
  rw [hlog] at meets
  obtain ⟨hbefore, hlast, -⟩ := meets_append.mp meets
  obtain ⟨-, -, hbetween⟩ := meets_append.mp hbefore
  rw [last_append, last_cons, Access.left_of_read hreadKind, hold, hmet] at hlast
  rw [Access.left_of_read hreadKind, hold] at hbetween
  -- what is deleted is not what was read, as that has expired
  rcases last_eq hbetween with hnone | ⟨-, hsame⟩ |
    ⟨middle, later, stored, value, expiry, rfl, hstored, unstored, hnew⟩
  · rw [hnone] at hlast
    contradiction
  · rw [hsame] at hlast
    cases hlast
    omega
  · rw [hnew] at hlast
    cases hlast
    refine h ⟨first, middle, later, after, read, stored, deleted, value, expiry, ?_, hreadKind,
      hstored, hkind, hcall, unstored, Nat.lt_of_not_le hlive⟩
    rw [hlog]
    simp

theorem safe_iff (coherent : Coherent entry log) :
    Spares log ∧ Readable log ↔ ¬Overtaken log := by
  constructor
  · rintro ⟨spares, -⟩ ⟨before, between, later, after, read, stored, deleted, value, expiry, hlog,
      -, hstored, hdeleted, -, unstored, live⟩
    have hmet := coherent.met_of_spares spares hlog hstored unstored live
    have := spares deleted (by simp [hlog]) hdeleted _ hmet
    omega
  · intro h
    have spares := coherent.spares h
    refine ⟨spares, ?_⟩
    intro before between after stored read value expiry hlog hstored _ unstored live
    exact coherent.met_of_spares spares hlog hstored unstored live

end Coherent

end TupleStore.Cache
