import Mathlib.Data.List.Basic
import TupleStore.Proofs.Interleaving

/-!
# Transcripts

The transcript of a call lists its operations with their answers.  It says how far the call
has come, and how each part of the call has ended.
-/

namespace TupleStore

/-! ## Programs and answers -/

abbrev Exchange {Op : Type} (Reply : Op → Type) := Σ op : Op, Reply op

namespace Program

variable {Op : Type} {Reply : Op → Type} {ε α β : Type}

inductive Leads : Program Op Reply ε α → List (Exchange Reply) → Program Op Reply ε α → Prop
  | nil (program : Program Op Reply ε α) : Leads program [] program
  | step {op : Op} {next : Reply op → Program Op Reply ε α} {reply : Reply op}
      {transcript : List (Exchange Reply)} {rest : Program Op Reply ε α}
      (h : Leads (next reply) transcript rest) :
      Leads (.step op next) (⟨op, reply⟩ :: transcript) rest

namespace Leads

variable {program rest last : Program Op Reply ε α} {transcript more : List (Exchange Reply)}

theorem append (first : Leads program transcript rest) (second : Leads rest more last) :
    Leads program (transcript ++ more) last := by
  induction first with
  | nil => exact second
  | step _ ih => exact .step (ih second)

theorem snoc {op : Op} {next : Reply op → Program Op Reply ε α}
    (h : Leads program transcript (.step op next)) (reply : Reply op) :
    Leads program (transcript ++ [⟨op, reply⟩]) (next reply) := h.append (.step (.nil _))

theorem of_done {result : Except ε α} (h : Leads (.done result) transcript rest) :
    transcript = [] ∧ rest = .done result := by
  cases h
  exact ⟨rfl, rfl⟩

theorem bind_cases {second : α → Program Op Reply ε β} {last : Program Op Reply ε β}
    (h : Leads (program >>= second) transcript last) :
    (∃ rest, Leads program transcript rest ∧ last = (rest >>= second)) ∨
      ∃ result before after, transcript = before ++ after ∧
        Leads program before (.done (.ok result)) ∧ Leads (second result) after last := by
  induction program generalizing transcript with
  | done result =>
      cases result with
      | ok result => exact .inr ⟨result, [], transcript, rfl, .nil _, h⟩
      | error error =>
          obtain ⟨rfl, rfl⟩ := of_done h
          exact .inl ⟨_, .nil _, rfl⟩
  | step op next ih =>
      change Leads (.step op fun reply => next reply >>= second) transcript last at h
      cases h with
      | nil => exact .inl ⟨_, .nil _, rfl⟩
      | step h =>
          rcases ih _ h with ⟨rest, hrest, rfl⟩ | ⟨result, before, after, rfl, hfirst, hsecond⟩
          · exact .inl ⟨rest, .step hrest, rfl⟩
          · exact .inr ⟨result, _ :: before, after, rfl, .step hfirst, hsecond⟩

theorem bind_done {second : α → Program Op Reply ε β} {result : Except ε β}
    (h : Leads (program >>= second) transcript (.done result)) :
    (∃ error, Leads program transcript (.done (.error error)) ∧ result = .error error) ∨
      ∃ value before after, transcript = before ++ after ∧
        Leads program before (.done (.ok value)) ∧ Leads (second value) after (.done result) := by
  rcases h.bind_cases with ⟨stop, hfirst, hlast⟩ | hsecond
  · cases stop with
    | step op next => cases hlast
    | done stopped =>
        cases stopped with
        | error error =>
            cases hlast
            exact .inl ⟨error, hfirst, rfl⟩
        | ok value =>
            exact .inr ⟨value, transcript, [], (List.append_nil _).symm, hfirst, hlast ▸ .nil _⟩
  · exact .inr hsecond

end Leads

variable [DecidableEq Op]

/-- What is left of the program after the answers; those past its end do not count. -/
def after (program : Program Op Reply ε α) : List (Exchange Reply) → Program Op Reply ε α
  | [] => program
  | ⟨asked, reply⟩ :: transcript =>
      match program with
      | .done result => .done result
      | .step op next => if h : asked = op then (next (h ▸ reply)).after transcript else program

def result? (program : Program Op Reply ε α) (transcript : List (Exchange Reply)) :
    Option (Except ε α) :=
  match program.after transcript with
  | .done result => some result
  | .step .. => none

variable {program rest : Program Op Reply ε α} {transcript : List (Exchange Reply)}

theorem after_nil (program : Program Op Reply ε α) : program.after [] = program := by
  cases program <;> rfl

theorem after_done (result : Except ε α) (transcript : List (Exchange Reply)) :
    (.done result : Program Op Reply ε α).after transcript = .done result := by
  cases transcript <;> rfl

theorem result?_append {result : Except ε α} (h : program.result? transcript = some result)
    (more : List (Exchange Reply)) : program.result? (transcript ++ more) = some result := by
  induction transcript generalizing program with
  | nil =>
      cases program with
      | done other => rwa [List.nil_append, result?, after_done]
      | step op next => cases h
  | cons exchange transcript ih =>
      obtain ⟨asked, reply⟩ := exchange
      cases program with
      | done other => exact h
      | step op next =>
          rw [result?, after] at h
          rw [List.cons_append, result?, after]
          by_cases hsame : asked = op
          · rw [dif_pos hsame] at h ⊢
            exact ih h
          · rw [dif_neg hsame] at h
            cases h

theorem Leads.after_append (h : Leads program transcript rest) (more : List (Exchange Reply)) :
    program.after (transcript ++ more) = rest.after more := by
  induction h with
  | nil => rfl
  | step _ ih =>
      rw [List.cons_append, after, dif_pos rfl]
      exact ih

theorem Leads.after_eq (h : Leads program transcript rest) : program.after transcript = rest := by
  have happend := h.after_append []
  rwa [List.append_nil, after_nil] at happend

theorem Leads.result?_eq_some {result : Except ε α} (h : Leads program transcript (.done result))
    (more : List (Exchange Reply)) : program.result? (transcript ++ more) = some result := by
  rw [result?, h.after_append, after_done]

theorem Leads.result?_eq {result : Except ε α} (h : Leads program transcript (.done result)) :
    program.result? transcript = some result := by
  rw [result?, h.after_eq]

theorem Leads.result?_eq_none {op : Op} {next : Reply op → Program Op Reply ε α}
    (h : Leads program transcript (.step op next)) : program.result? transcript = none := by
  rw [result?, h.after_eq]

end Program

/-! ## Sessions -/

namespace Cache

deriving instance DecidableEq for Op

inductive Use where
  | get (key : Bytes)
  | put (key value : Bytes) (ttl : Duration)
  | putIfAbsent (key value : Bytes) (ttl : Duration)
  | remove (key : Bytes)
  | clear
  deriving DecidableEq, Repr

def Use.program (space : String) : Use → Action (Option Bytes)
  | .get key => Entries.get space key
  | .put key value ttl => Entries.put space key value ttl >>= fun _ => pure none
  | .putIfAbsent key value ttl => Entries.putIfAbsent space key value ttl
  | .remove key => Entries.remove space key >>= fun _ => pure none
  | .clear => Entries.clear space >>= fun _ => pure none

/-- Calls which begin one after another and take turns, with what they have been answered. -/
structure Session (σ ι α : Type) where
  system : System σ α
  begun : List ι := []
  /-- The operations with their answers, each with the number of its call. -/
  log : List (Nat × Exchange Op.Reply) := []

namespace Session

variable {σ ι α : Type} (client : Client σ) (program : ι → Action α)

def start (shared : σ × Writer) : Session σ ι α := { system := { shared, calls := [] } }

def enter (session : Session σ ι α) (call : ι) : Session σ ι α :=
  { session with
    system := { session.system with calls := session.system.calls ++ [program call] }
    begun := session.begun ++ [call] }

def answer? (session : Session σ ι α) (call now : Nat) : Option (Exchange Op.Reply) :=
  match session.system.calls[call]? with
  | some (.step op _) =>
      if op.waits && session.system.holder.any (· != call) then none
      else some ⟨op, (handle client now op session.system.shared).1⟩
  | _ => none

def turn (session : Session σ ι α) (call now : Nat) : Session σ ι α :=
  { session with
    system := session.system.turn client call now
    log := session.log ++ ((session.answer? client call now).map fun exchange =>
      (call, exchange)).toList }

inductive Step (ι : Type) where
  | enter (task : ι)
  | turn (call now : Nat)
  deriving DecidableEq, Repr

def advance (session : Session σ ι α) : Step ι → Session σ ι α
  | .enter task => session.enter program task
  | .turn call now => session.turn client call now

def run (session : Session σ ι α) (steps : List (Step ι)) : Session σ ι α :=
  steps.foldl (advance client program) session

def transcript (session : Session σ ι α) (call : Nat) : List (Exchange Op.Reply) :=
  (session.log.filter fun entry => entry.1 = call).map Prod.snd

def records (session : Session σ ι α) : List (ι × List (Exchange Op.Reply)) :=
  session.begun.zipIdx.map fun (task, call) => (task, session.transcript call)

def isIdle (session : Session σ ι α) : Bool := session.system.results.all Option.isSome

structure Coherent (session : Session σ ι α) : Prop where
  length_eq : session.system.calls.length = session.begun.length
  logged : ∀ entry ∈ session.log, entry.1 < session.begun.length
  leads : ∀ call task rest, session.begun[call]? = some task →
    session.system.calls[call]? = some rest →
    Program.Leads (program task) (session.transcript call) rest

variable {client program} {session : Session σ ι α} {call now : Nat}

theorem turn_of_step {op : Op} {next : op.Reply → Action α}
    (hcall : session.system.calls[call]? = some (.step op next))
    (hfree : (op.waits && session.system.holder.any (· != call)) = false) :
    session.turn client call now =
      { session with
        system := session.system.turn client call now
        log := session.log ++ [(call, ⟨op, (handle client now op session.system.shared).1⟩)] } := by
  rw [turn, answer?, hcall]
  dsimp only
  rw [hfree]
  rfl

theorem log_turn {op : Op} {next : op.Reply → Action α}
    {new : List (Nat × Exchange Op.Reply)}
    (hcall : session.system.calls[call]? = some (.step op next))
    (hfree : (op.waits && session.system.holder.any (· != call)) = false)
    (hlog : (session.turn client call now).log = session.log ++ new) :
    new = [(call, ⟨op, (handle client now op session.system.shared).1⟩)] := by
  rw [turn_of_step hcall hfree] at hlog
  exact (List.append_cancel_left hlog).symm

theorem turn_cases (session : Session σ ι α) (call now : Nat) :
    session.turn client call now = session ∨
    ∃ op next, session.system.calls[call]? = some (.step op next) ∧
      (op.waits && session.system.holder.any (· != call)) = false ∧
      session.turn client call now =
        { session with
          system := session.system.turn client call now
          log := session.log ++
            [(call, ⟨op, (handle client now op session.system.shared).1⟩)] } := by
  cases hcall : session.system.calls[call]? with
  | none =>
      left
      rw [turn, System.turn_of_none hcall, answer?, hcall]
      exact congrArg (Session.mk _ _) (List.append_nil _)
  | some rest =>
      cases rest with
      | done result =>
          left
          rw [turn, System.turn_of_done hcall, answer?, hcall]
          exact congrArg (Session.mk _ _) (List.append_nil _)
      | step op next =>
          cases hwaits : op.waits && session.system.holder.any (· != call) with
          | true =>
              left
              rw [turn, System.turn_of_waiting hcall hwaits, answer?, hcall]
              dsimp only
              rw [hwaits]
              exact congrArg (Session.mk _ _) (List.append_nil _)
          | false => exact .inr ⟨op, next, rfl, hwaits, turn_of_step hcall hwaits⟩

theorem transcript_append (session : Session σ ι α) (system : System σ α)
    (call other : Nat) (exchange : Exchange Op.Reply) :
    transcript { session with system, log := session.log ++ [(call, exchange)] } other =
      session.transcript other ++ if call = other then [exchange] else [] := by
  rw [transcript, List.filter_append, List.map_append, ← transcript]
  by_cases h : call = other <;> simp [h]

theorem transcript_turn {op : Op} {next : op.Reply → Action α}
    (hcall : session.system.calls[call]? = some (.step op next))
    (hfree : (op.waits && session.system.holder.any (· != call)) = false) (other : Nat) :
    (session.turn client call now).transcript other = session.transcript other ++
      if call = other then [⟨op, (handle client now op session.system.shared).1⟩] else [] := by
  rw [turn_of_step hcall hfree]
  exact transcript_append session _ call other _

variable (client program) in
theorem log_advance (session : Session σ ι α) (step : Step ι) :
    ∃ new, (session.advance client program step).log = session.log ++ new := by
  cases step with
  | enter task => exact ⟨[], (List.append_nil _).symm⟩
  | turn call now => exact ⟨_, rfl⟩

variable (client program) in
theorem log_run (session : Session σ ι α) (steps : List (Step ι)) :
    ∃ new, (session.run client program steps).log = session.log ++ new := by
  induction steps generalizing session with
  | nil => exact ⟨[], (List.append_nil _).symm⟩
  | cons step steps ih =>
      obtain ⟨first, hfirst⟩ := log_advance client program session step
      obtain ⟨others, hothers⟩ := ih (session.advance client program step)
      exact ⟨first ++ others, hothers.trans (by rw [hfirst, List.append_assoc])⟩

theorem coherent_start (shared : σ × Writer) :
    (start shared : Session σ ι α).Coherent program where
  length_eq := rfl
  logged _ hentry := absurd hentry List.not_mem_nil
  leads := nofun

theorem Coherent.transcript_of_le (coherent : session.Coherent program)
    (h : session.begun.length ≤ call) : session.transcript call = [] := by
  refine List.map_eq_nil_iff.mpr (List.filter_eq_nil_iff.mpr fun entry hentry => ?_)
  have := coherent.logged entry hentry
  rw [decide_eq_true_iff]
  omega

theorem Coherent.enter (coherent : session.Coherent program) (task : ι) :
    (session.enter program task).Coherent program where
  length_eq := by
    change (session.system.calls ++ [program task]).length = (session.begun ++ [task]).length
    rw [List.length_append, List.length_append, coherent.length_eq]
    rfl
  logged entry hentry := by
    change entry.1 < (session.begun ++ [task]).length
    rw [List.length_append]
    exact Nat.lt_add_right 1 (coherent.logged entry hentry)
  leads call other rest hother hrest := by
    change (session.begun ++ [task])[call]? = some other at hother
    change (session.system.calls ++ [program task])[call]? = some rest at hrest
    rcases Nat.lt_or_ge call session.begun.length with hlt | hge
    · rw [List.getElem?_append_left hlt] at hother
      rw [List.getElem?_append_left (coherent.length_eq ▸ hlt)] at hrest
      exact coherent.leads call other rest hother hrest
    · -- only the call which begins is past the others, and it has asked nothing
      rw [List.getElem?_append_right hge] at hother
      rw [List.getElem?_append_right (coherent.length_eq ▸ hge)] at hrest
      obtain rfl := List.mem_singleton.mp (List.mem_of_getElem? hother)
      obtain rfl := List.mem_singleton.mp (List.mem_of_getElem? hrest)
      have hnone : (session.enter program other).transcript call = [] :=
        coherent.transcript_of_le hge
      rw [hnone]
      exact .nil _

theorem Coherent.turn (coherent : session.Coherent program) (call now : Nat) :
    (session.turn client call now).Coherent program := by
  rcases session.turn_cases call now with hsame | ⟨op, next, hcall, hfree, hturn⟩
  · rw [hsame]
    exact coherent
  · rw [hturn, System.turn_of_step hcall hfree]
    have hlt : call < session.begun.length :=
      coherent.length_eq ▸ (List.getElem?_eq_some_iff.mp hcall).1
    constructor
    · rw [List.length_set]
      exact coherent.length_eq
    · intro entry hentry
      rcases List.mem_append.mp hentry with hentry | hentry
      · exact coherent.logged entry hentry
      · rw [List.mem_singleton.mp hentry]
        exact hlt
    · intro other task rest htask hrest
      rw [transcript_append]
      by_cases hother : call = other
      · subst hother
        rw [List.getElem?_set_self (List.getElem?_eq_some_iff.mp hcall).1] at hrest
        cases hrest
        rw [if_pos rfl]
        exact (coherent.leads call task _ htask hcall).snoc _
      · rw [List.getElem?_set_ne hother] at hrest
        rw [if_neg hother, List.append_nil]
        exact coherent.leads other task rest htask hrest

/--
What a step keeps is kept by a run whose exchanges are of one kind; what its exchanges are besides
follows from what is kept.
-/
theorem run_induction {motive : Session σ ι α → Prop} {p q : Exchange Op.Reply → Prop}
    (hstep : ∀ session step new, motive session →
      (session.advance client program step).log = session.log ++ new →
      (∀ entry ∈ new, p entry.2) →
      motive (session.advance client program step) ∧ ∀ entry ∈ new, q entry.2)
    {steps : List (Step ι)} {new : List (Nat × Exchange Op.Reply)} (h : motive session)
    (hlog : (session.run client program steps).log = session.log ++ new)
    (hnew : ∀ entry ∈ new, p entry.2) :
    motive (session.run client program steps) ∧ ∀ entry ∈ new, q entry.2 := by
  induction steps generalizing session new with
  | nil =>
      have hnil : new = [] := List.self_eq_append_right.mp hlog
      exact ⟨h, hnil ▸ List.forall_mem_nil _⟩
  | cons step steps ih =>
      obtain ⟨first, hfirst⟩ := log_advance client program session step
      obtain ⟨others, hothers⟩ :=
        log_run client program (session.advance client program step) steps
      have hsplit : new = first ++ others := by
        have hsame := hothers
        rw [hfirst, List.append_assoc] at hsame
        exact List.append_cancel_left (hlog.symm.trans hsame)
      subst hsplit
      obtain ⟨hleft, hright⟩ := List.forall_mem_append.mp hnew
      obtain ⟨hmotive, hq⟩ := hstep session step first h hfirst hleft
      obtain ⟨hrun, hrest⟩ := ih hmotive hothers hright
      exact ⟨hrun, List.forall_mem_append.mpr ⟨hq, hrest⟩⟩

theorem Coherent.records (coherent : session.Coherent program) :
    ∀ record ∈ session.records, ∃ rest, Program.Leads (program record.1) record.2 rest ∧
      (session.isIdle = true → ∃ result, rest = .done result) := by
  intro record hrecord
  obtain ⟨⟨task, call⟩, htask, rfl⟩ := List.mem_map.mp hrecord
  have htask : session.begun[call]? = some task := List.mem_zipIdx_iff_getElem?.mp htask
  have hlt : call < session.system.calls.length :=
    coherent.length_eq ▸ (List.getElem?_eq_some_iff.mp htask).1
  have hcall := List.getElem?_eq_getElem hlt
  refine ⟨_, coherent.leads call task _ htask hcall, fun hidle => ?_⟩
  have hended := List.all_eq_true.mp hidle _ (List.mem_map_of_mem (List.getElem_mem hlt))
  cases hrest : session.system.calls[call] with
  | done result => exact ⟨result, rfl⟩
  | step op next =>
      rw [hrest] at hended
      contradiction

end Session

end Cache

end TupleStore
