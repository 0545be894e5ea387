import TupleStore.Proofs.EntryRuns
import TupleStore.Proofs.SpaceCreation

/-!
# Searches under the lock

Calls on one cache search for its space, and then work on the tuples in it.  Where a call stands
follows from what it has been answered.  What the lock guards holds in every session, once the
single operations under the lock keep it.
-/

namespace TupleStore.Cache

open Database Entries

variable {σ α β : Type} {client : Client σ} {database : σ → Database} {space : String}

/-! ## After the search -/

def Op.IsAccess (space : String) : Op → Prop
  | .request asked => OnTuples space asked
  | .now | .count .. => True
  | .isKnown _ | .lock | .unlock | .remember _ => False

theorem Op.IsAccess.holder_eq {op : Op} (h : op.IsAccess space) (call : Nat)
    (before : Option Nat) : op.holder call before = before := by
  cases op with
  | request | now | count => rfl
  | isKnown | lock | unlock | remember => exact h.elim

inductive Ready (space : String) : Action α → Prop
  | done (result : Except Failure α) : Ready space (.done result)
  | access {op : Op} {next : op.Reply → Action α} (h : op.IsAccess space)
      (rest : ∀ reply, Ready space (next reply)) : Ready space (.step op next)
  | search {next : Bool → Action α} (rest : Ready space (next true)) :
      Ready space (.step (.isKnown space) next)

namespace Ready

theorem bind {action : Action α} {rest : α → Action β} (first : Ready space action)
    (second : ∀ result, Ready space (rest result)) : Ready space (action >>= rest) := by
  induction first with
  | done result =>
      cases result with
      | ok result => exact second result
      | error failure => exact .done (.error failure)
  | access h _ ih => exact .access h ih
  | search _ ih => exact .search ih

theorem perform {op : Op} (h : op.IsAccess space) :
    Ready space (Program.perform op : Action op.Reply) := .access h fun reply => .done (.ok reply)

theorem request {asked : Request} (h : OnTuples space asked) :
    Ready space (Entries.request asked) := .access h fun _ => .done _

theorem ensureSpace (space : String) : Ready space (ensureSpace space) := .search (.done (.ok ()))

theorem delete (space : String) (key : Bytes) : Ready space (delete space key) :=
  bind (request rfl) fun _ => perform trivial

theorem valueOf (space : String) (key : Bytes) (tuples : List Tuple) :
    Ready space (valueOf space key tuples) := by
  cases tuples with
  | nil => exact .done _
  | cons tuple tuples =>
      refine bind (.done _) fun entry => bind (perform trivial) fun now => ?_
      split
      next => exact .done _
      next => exact (delete space key).bind fun _ => .done _

theorem countGet (space : String) (value : Option Bytes) : Ready space (countGet space value) :=
  .access trivial fun _ => .access trivial fun _ => .done (.ok value)

theorem store (space : String) (key value : Bytes) (ttl : Duration) :
    Ready space (do
      let tuple := [.bin key, .bin value, .nat (expiryTime ttl (← now))]
      let _ ← Entries.request (.replace space tuple)
      count space .put) := by
  have hnow : Ready space now := .perform trivial
  refine hnow.bind fun now => ?_
  have hreplace : Ready space (Entries.request
      (.replace space [.bin key, .bin value, .nat (expiryTime ttl now)])) := .request rfl
  exact hreplace.bind fun _ => .perform trivial

theorem put (space : String) (key value : Bytes) (ttl : Duration) :
    Ready space (Entries.put space key value ttl) :=
  (ensureSpace space).bind fun _ => store space key value ttl

end Ready

theorem get_searches (space : String) (key : Bytes) :
    ∃ body, Entries.get space key = (ensureSpace space >>= fun _ => body) ∧ Ready space body := by
  have hselect : Ready space
      (Entries.request (.select space (.primaryKey [.bin key]))) := .request rfl
  exact ⟨_, get_eq space key, hselect.bind fun tuples =>
    (Ready.valueOf space key tuples).bind (Ready.countGet space)⟩

theorem Use.searches (space : String) (use : Use) :
    ∃ body, use.program space = (ensureSpace space >>= fun _ => body) ∧ Ready space body := by
  cases use with
  | get key => exact get_searches space key
  | put key value ttl =>
      exact ⟨_, Program.bind_assoc (ensureSpace space) _ _,
        (Ready.store space key value ttl).bind fun _ => .done _⟩
  | putIfAbsent key value ttl =>
      obtain ⟨body, hbody, ready⟩ := get_searches space key
      refine ⟨_, (congrArg (· >>= _) hbody).trans (Program.bind_assoc _ _ _),
        ready.bind fun found => ?_⟩
      cases found with
      | some existing => exact .done _
      | none => exact (Ready.put space key value ttl).bind fun _ => .done _
  | remove key =>
      exact ⟨_, Program.bind_assoc (ensureSpace space) _ _,
        (Ready.delete space key).bind fun _ => .done _⟩
  | clear =>
      have htruncate : Ready space (Entries.request (.truncate space)) := .request rfl
      exact ⟨_, Program.bind_assoc (ensureSpace space) _ _, htruncate.bind fun _ => .done _⟩

/-! ## Where a call stands -/

namespace Search

def left (space : String) : Search → Action Unit
  | .entering => ensureSpace space
  | .waiting => lock >>= fun _ => (findOrCreate space).attempt >>= fun result =>
      unlock >>= fun _ => Program.ofExcept result
  | .creating creation => creation.attempt >>= fun result =>
      unlock >>= fun _ => Program.ofExcept result

def creation? : Search → Option (Action Unit)
  | .creating creation => some creation
  | .entering | .waiting => none

theorem left_eq_step (space : String) (search : Search) :
    ∃ op next, search.left space = .step op next := by
  cases search with
  | entering | waiting => exact ⟨_, _, rfl⟩
  | creating creation => cases creation <;> exact ⟨_, _, rfl⟩

end Search

/--
Where a call stands by what it has been answered: it still searches, perhaps with the lock, or
its search has failed, or has found the space, which is known then.
-/
inductive Standing (space : String) (known : Prop) :
    List (Exchange Op.Reply) → Option (Action Unit) → Action α → Prop
  | searching {transcript : List (Exchange Op.Reply)} (search : Search) {body : Action α}
      (ready : Ready space body)
      (h : Program.Leads (ensureSpace space) transcript (search.left space)) :
      Standing space known transcript search.creation? (search.left space >>= fun _ => body)
  | failed {transcript : List (Exchange Op.Reply)} {failure : Failure}
      (h : (ensureSpace space).result? transcript = some (.error failure)) :
      Standing space known transcript none (.done (.error failure))
  | found {transcript : List (Exchange Op.Reply)} {rest : Action α} (there : known)
      (h : (ensureSpace space).result? transcript = some (.ok ())) (ready : Ready space rest) :
      Standing space known transcript none rest

inductive Advances (space : String) (known : Prop) (transcript : List (Exchange Op.Reply)) :
    Option (Action Unit) → (op : Op) → (op.Reply → Action α) → Prop
  | enter {next : Bool → Action α}
      (there : known → Standing space known (transcript ++ [⟨.isKnown space, true⟩]) none
        (next true))
      (missing : ¬known → Standing space known (transcript ++ [⟨.isKnown space, false⟩]) none
        (next false))
      (unended : ¬known →
        (ensureSpace space).result? (transcript ++ [⟨.isKnown space, false⟩]) = none) :
      Advances space known transcript none (.isKnown space) next
  | lock {next : Unit → Action α}
      (rest : Standing space known (transcript ++ [⟨.lock, ()⟩]) (some (findOrCreate space))
        (next ())) :
      Advances space known transcript none .lock next
  | create {op : Op} {creation : op.Reply → Action Unit} {next : op.Reply → Action α}
      (rest : ∀ reply, Standing space known (transcript ++ [⟨op, reply⟩]) (some (creation reply))
        (next reply)) :
      Advances space known transcript (some (.step op creation)) op next
  | unlock {result : Except Failure Unit} {next : Unit → Action α}
      (rest : (result = .ok () → known) →
        Standing space known (transcript ++ [⟨.unlock, ()⟩]) none (next ()))
      (ended : (ensureSpace space).result? (transcript ++ [⟨.unlock, ()⟩]) = some result) :
      Advances space known transcript (some (.done result)) .unlock next
  | access {op : Op} {next : op.Reply → Action α} (there : known) (h : op.IsAccess space)
      (rest : ∀ reply, Standing space known (transcript ++ [⟨op, reply⟩]) none (next reply)) :
      Advances space known transcript none op next

namespace Standing

variable {known : Prop} {transcript : List (Exchange Op.Reply)} {creation : Option (Action Unit)}
variable {rest : Action α}

theorem mono {later : Prop} (h : Standing space known transcript creation rest)
    (hknown : known → later) : Standing space later transcript creation rest := by
  cases h with
  | searching search ready h => exact .searching search ready h
  | failed h => exact .failed h
  | found there h ready => exact .found (hknown there) h ready

theorem of_found (h : Standing space known transcript creation rest)
    (hfound : (ensureSpace space).result? transcript = some (.ok ())) : known := by
  cases h with
  | found there => exact there
  | failed h => cases h.symm.trans hfound
  | searching search ready h =>
      obtain ⟨op, next, hleft⟩ := search.left_eq_step space
      rw [hleft] at h
      cases h.result?_eq_none.symm.trans hfound

theorem unended {left : Action Unit} (h : Standing space known transcript (some left) rest) :
    (ensureSpace space).result? transcript = none := by
  generalize hcreation : some left = creation at h
  cases h with
  | searching search ready h =>
      obtain ⟨op, next, hleft⟩ := search.left_eq_step space
      rw [hleft] at h
      exact h.result?_eq_none
  | failed | found => cases hcreation

theorem advances {op : Op} {next : op.Reply → Action α}
    (h : Standing space known transcript creation (.step op next)) :
    Advances space known transcript creation op next := by
  generalize hrest : Program.step op next = rest at h
  cases h with
  | failed h => cases hrest
  | found there h ready =>
      have hended (exchange : Exchange Op.Reply) := Program.result?_append h [exchange]
      cases ready with
      | done result => cases hrest
      | access haccess rest =>
          cases hrest
          exact .access there haccess fun reply => .found there (hended _) (rest reply)
      | search rest =>
          cases hrest
          exact .enter (fun _ => .found there (hended _) rest) (absurd there) (absurd there)
  | searching search ready h =>
      cases search with
      | entering =>
          cases hrest
          have hwaiting := h.snoc false
          refine .enter (fun there => ?_) (fun _ => ?_) fun _ => ?_
          · exact .found there (h.snoc true).result?_eq ready
          · exact .searching .waiting ready hwaiting
          · exact hwaiting.result?_eq_none
      | waiting =>
          cases hrest
          exact .lock (.searching (.creating (findOrCreate space)) ready (h.snoc ()))
      | creating left =>
          cases left with
          | step op creation =>
              cases hrest
              exact .create fun reply =>
                .searching (.creating (creation reply)) ready (h.snoc reply)
          | done result =>
              cases hrest
              have hended := (h.snoc ()).result?_eq
              refine .unlock (fun there => ?_) hended
              cases result with
              | ok found => exact .found (there rfl) hended ready
              | error failure => exact .failed hended

end Standing

/-! ## The lock -/

/--
What the lock guards: `free` holds while no call has it, and `held` of what is left to do with it
while a call has it.  Exchanges which are excused are not considered.
-/
structure Guards (client : Client σ) (space : String) (excused : Exchange Op.Reply → Bool)
    (free : σ × Writer → Prop) (held : Action Unit → σ × Writer → Prop) : Prop where
  lock (shared : σ × Writer) (h : free shared) : held (findOrCreate space) shared
  step (op : Op) (next : op.Reply → Action Unit) (shared : σ × Writer)
    (h : held (.step op next) shared) :
    op.isQuiet = true ∧ ∀ now, excused ⟨op, (handle client now op shared).1⟩ = false →
      held (next (handle client now op shared).1) (handle client now op shared).2
  unlock (result : Except Failure Unit) (shared : σ × Writer) (h : held (.done result) shared) :
    free shared ∧ (result = .ok () ↔ space ∈ shared.2.known)
  access (op : Op) (now : Nat) (shared : σ × Writer) (h : op.IsAccess space)
    (known : space ∈ shared.2.known) :
    (free shared → free (handle client now op shared).2) ∧
      ∀ creation, held creation shared → held creation (handle client now op shared).2

namespace Session

def HasFound (space : String) (session : Session σ Use (Option Bytes)) : Prop :=
  ∃ call, (ensureSpace space).result? (session.transcript call) = some (.ok ())

def heldBy (session : Session σ Use (Option Bytes)) (creation : Action Unit) (call : Nat) :
    Option (Action Unit) :=
  if session.system.holder = some call then some creation else none

/-- All calls are where they should be, and the lock guards what it should. -/
structure Orderly (space : String) (free : σ × Writer → Prop)
    (held : Action Unit → σ × Writer → Prop) (session : Session σ Use (Option Bytes))
    (creation : Action Unit) : Prop where
  coherent : session.Coherent (Use.program space)
  standing : ∀ call rest, session.system.calls[call]? = some rest →
    Standing space (space ∈ session.system.shared.2.known) (session.transcript call)
      (session.heldBy creation call) rest
  begun : ∀ call, session.system.holder = some call → call < session.begun.length
  free : session.system.holder = none → free session.system.shared ∧
    (space ∈ session.system.shared.2.known → session.HasFound space)
  held : session.system.holder ≠ none → held creation session.system.shared

variable {excused : Exchange Op.Reply → Bool} {free : σ × Writer → Prop}
variable {held : Action Unit → σ × Writer → Prop} {session : Session σ Use (Option Bytes)}
variable {creation : Action Unit}

theorem holder_ne_of_heldBy {call : Nat} (h : session.heldBy creation call = none) :
    session.system.holder ≠ some call := fun hholder => by
  rw [heldBy, if_pos hholder] at h
  cases h

theorem holder_of_heldBy {call : Nat} {left : Action Unit}
    (h : session.heldBy creation call = some left) :
    session.system.holder = some call ∧ creation = left := by
  rw [heldBy] at h
  split at h
  next hholder => exact ⟨hholder, Option.some.inj h⟩
  next => cases h

theorem heldBy_of_ne {call other : Nat} (hholder : session.system.holder = some call)
    (hother : other ≠ call) : session.heldBy creation other = none :=
  if_neg fun h => hother (Option.some.inj (hholder.symm.trans h)).symm

theorem holder_eq_none {op : Op} {call : Nat} (waits : op.waits = true)
    (hfree : (op.waits && session.system.holder.any (· != call)) = false)
    (hnot : session.system.holder ≠ some call) : session.system.holder = none := by
  rw [waits, Bool.true_and] at hfree
  cases hholder : session.system.holder with
  | none => rfl
  | some other =>
      rw [hholder, Option.any_some, bne_eq_false_iff_eq] at hfree
      exact absurd (hholder.trans (congrArg some hfree)) hnot

namespace Orderly

theorem of_step (orderly : Orderly space free held session creation) {call now : Nat} {op : Op}
    {next : op.Reply → Action (Option Bytes)} {later : Action Unit}
    (hcall : session.system.calls[call]? = some (.step op next))
    (hfree : (op.waits && session.system.holder.any (· != call)) = false)
    (hbegun : ∀ other, op.holder call session.system.holder = some other →
      other < session.begun.length)
    (hstanding : Standing space
      (space ∈ (handle client now op session.system.shared).2.2.known)
      (session.transcript call ++ [⟨op, (handle client now op session.system.shared).1⟩])
      (if op.holder call session.system.holder = some call then some later else none)
      (next (handle client now op session.system.shared).1))
    (hothers : ∀ other, other ≠ call →
      (if op.holder call session.system.holder = some other then some later else none) =
        session.heldBy creation other)
    (hnone : op.holder call session.system.holder = none →
      free (handle client now op session.system.shared).2 ∧
        (space ∈ (handle client now op session.system.shared).2.2.known →
          session.HasFound space ∨ (ensureSpace space).result? (session.transcript call ++
            [⟨op, (handle client now op session.system.shared).1⟩]) = some (.ok ())))
    (hheld : op.holder call session.system.holder ≠ none →
      held later (handle client now op session.system.shared).2) :
    Orderly space free held (session.turn client call now) later := by
  have hsystem : (session.turn client call now).system = _ :=
    (congrArg Session.system (turn_of_step hcall hfree)).trans (System.turn_of_step hcall hfree)
  have hlength : (session.turn client call now).begun = session.begun := by
    rw [turn_of_step hcall hfree]
  refine ⟨orderly.coherent.turn call now, fun other rest hrest => ?_, ?_, fun hholder => ?_, ?_⟩
  · rw [hsystem] at hrest
    rw [heldBy, transcript_turn hcall hfree, hsystem]
    by_cases hother : call = other
    · subst hother
      rw [List.getElem?_set_self (List.getElem?_eq_some_iff.mp hcall).1] at hrest
      cases hrest
      rw [if_pos rfl]
      exact hstanding
    · rw [List.getElem?_set_ne hother] at hrest
      rw [if_neg hother, List.append_nil]
      dsimp only
      rw [hothers other (Ne.symm hother)]
      exact (orderly.standing other rest hrest).mono (mem_known_handle now op _)
  · rw [hsystem, hlength]
    exact hbegun
  · rw [hsystem] at hholder ⊢
    refine ⟨(hnone hholder).1, fun hknown => ?_⟩
    rcases (hnone hholder).2 hknown with ⟨other, hfound⟩ | hfound
    · refine ⟨other, ?_⟩
      rw [transcript_turn hcall hfree]
      exact Program.result?_append hfound _
    · refine ⟨call, ?_⟩
      rw [transcript_turn hcall hfree, if_pos rfl]
      exact hfound
  · rw [hsystem]
    exact hheld

theorem turn (orderly : Orderly space free held session creation)
    (guards : Guards client space excused free held) {call now : Nat}
    {new : List (Nat × Exchange Op.Reply)}
    (hlog : (session.turn client call now).log = session.log ++ new)
    (kept : ∀ entry ∈ new, excused entry.2 = false) :
    ∃ later, Orderly space free held (session.turn client call now) later := by
  rcases session.turn_cases call now with hsame | ⟨op, next, hcall, hfree, -⟩
  · rw [hsame]
    exact ⟨creation, orderly⟩
  have hlt : call < session.begun.length :=
    orderly.coherent.length_eq ▸ (List.getElem?_eq_some_iff.mp hcall).1
  replace kept : excused ⟨op, (handle client now op session.system.shared).1⟩ = false :=
    kept _ (log_turn hcall hfree hlog ▸ List.mem_singleton_self _)
  have hadvances := (orderly.standing call _ hcall).advances
  generalize hheldBy : session.heldBy creation call = left at hadvances
  cases hadvances with
  | enter there missing _ =>
      have hnot := holder_ne_of_heldBy hheldBy
      have hholder := holder_eq_none rfl hfree hnot
      refine ⟨creation, orderly.of_step hcall hfree orderly.begun ?_ (fun _ _ => rfl)
        (fun h => ⟨(orderly.free hholder).1, fun hknown => .inl ((orderly.free hholder).2 hknown)⟩)
        orderly.held⟩
      rw [show (if Op.holder call session.system.holder (.isKnown space) = some call then
        some creation else none) = none from if_neg hnot, handle_isKnown]
      cases hknown : session.system.shared.2.known.contains space with
      | true => exact there (List.contains_iff_mem.mp hknown)
      | false => exact missing (by simpa using hknown)
  | lock rest =>
      have hholder := holder_eq_none rfl hfree (holder_ne_of_heldBy hheldBy)
      refine ⟨findOrCreate space, orderly.of_step hcall hfree (fun other h => ?_) ?_
        (fun other hother => ?_) (fun h => by cases h)
        fun _ => guards.lock _ (orderly.free hholder).1⟩
      · exact Option.some.inj h ▸ hlt
      · rw [show (if Op.holder call session.system.holder .lock = some call then
          some (findOrCreate space) else none) = some (findOrCreate space) from if_pos rfl]
        exact rest
      · have hne : some call ≠ some other := fun h => hother (Option.some.inj h).symm
        have hnone : session.system.holder ≠ some other := by simp [hholder]
        exact (if_neg hne).trans (if_neg hnone).symm
  | create rest =>
      obtain ⟨hholder, rfl⟩ := holder_of_heldBy hheldBy
      have hsome : session.system.holder ≠ none := by simp [hholder]
      obtain ⟨quiet, hstep⟩ := guards.step _ _ _ (orderly.held hsome)
      have hsame := (Op.isQuiet_iff quiet).2 call session.system.holder
      refine ⟨_, orderly.of_step hcall hfree ?_ ?_ (fun other hother => ?_) ?_
        fun _ => hstep now kept⟩
      · rw [hsame]
        exact orderly.begun
      · rw [hsame, if_pos hholder]
        exact (rest _).mono (mem_known_handle now op _)
      · rw [hsame]
        exact (heldBy_of_ne hholder hother).trans (heldBy_of_ne hholder hother).symm
      · rw [hsame]
        exact fun h => absurd h hsome
  | unlock rest ended =>
      obtain ⟨hholder, rfl⟩ := holder_of_heldBy hheldBy
      obtain ⟨hfreed, hresult⟩ := guards.unlock _ _ (orderly.held (by simp [hholder]))
      refine ⟨.done (.ok ()), orderly.of_step hcall hfree nofun (rest hresult.mp)
        (fun other hother => (heldBy_of_ne hholder hother).symm) (fun _ => ?_)
        fun h => absurd rfl h⟩
      exact ⟨hfreed, fun hknown => .inr (ended.trans (congrArg some (hresult.mpr hknown)))⟩
  | access there haccess rest =>
      have hnot := holder_ne_of_heldBy hheldBy
      have hsame := haccess.holder_eq call session.system.holder
      obtain ⟨hfreed, hheld⟩ := guards.access op now _ haccess there
      refine ⟨creation, orderly.of_step hcall hfree ?_ ?_ (fun other _ => by rw [hsame]; rfl)
        (fun h => ?_) fun h => ?_⟩
      · rw [hsame]
        exact orderly.begun
      · rw [hsame, if_neg hnot]
        exact (rest _).mono (mem_known_handle now op _)
      · rw [hsame] at h
        exact ⟨hfreed (orderly.free h).1, fun _ => .inl ((orderly.free h).2 there)⟩
      · rw [hsame] at h
        exact hheld creation (orderly.held h)

theorem enter (orderly : Orderly space free held session creation) (use : Use) :
    Orderly space free held (session.enter (Use.program space) use) creation := by
  refine ⟨orderly.coherent.enter use, fun call rest hrest => ?_, fun call hholder => ?_,
    orderly.free, orderly.held⟩
  · change (session.system.calls ++ [use.program space])[call]? = some rest at hrest
    rcases Nat.lt_or_ge call session.system.calls.length with hlt | hge
    · rw [List.getElem?_append_left hlt] at hrest
      exact orderly.standing call rest hrest
    · rw [List.getElem?_append_right hge] at hrest
      obtain rfl := List.mem_singleton.mp (List.mem_of_getElem? hrest)
      have hbegun : session.begun.length ≤ call := orderly.coherent.length_eq ▸ hge
      have hnot : session.system.holder ≠ some call := fun h =>
        absurd (orderly.begun call h) (Nat.not_lt.mpr hbegun)
      obtain ⟨body, hbody, ready⟩ := use.searches space
      change Standing space _ (session.transcript call) (session.heldBy creation call) _
      rw [heldBy, if_neg hnot, orderly.coherent.transcript_of_le hbegun, hbody]
      exact .searching .entering ready (.nil _)
  · change call < (session.begun ++ [use]).length
    rw [List.length_append]
    exact Nat.lt_add_right 1 (orderly.begun call hholder)

theorem run (orderly : Orderly space free held session creation)
    (guards : Guards client space excused free held) {steps : List (Step Use)}
    {new : List (Nat × Exchange Op.Reply)}
    (hlog : (session.run client (Use.program space) steps).log = session.log ++ new)
    (kept : ∀ entry ∈ new, excused entry.2 = false) :
    ∃ later, Orderly space free held (session.run client (Use.program space) steps) later := by
  refine (run_induction (motive := fun session => ∃ later, Orderly space free held session later)
    (p := fun exchange => excused exchange = false) (q := fun _ => True) ?_
    ⟨creation, orderly⟩ hlog kept).1
  rintro session step new ⟨creation, orderly⟩ hlog kept
  refine ⟨?_, fun _ _ => trivial⟩
  cases step with
  | enter use => exact ⟨creation, orderly.enter use⟩
  | turn call now => exact orderly.turn guards hlog kept

end Orderly

end Session

end TupleStore.Cache
