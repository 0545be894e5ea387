import Mathlib.Data.List.Basic
import Mathlib.Logic.Function.Basic
import TupleStore.Proofs.Accesses

/-!
# The search for the space

Calls look for the space of the cache before they access entries.  The accesses of calls
side by side are those of the same calls without the search, started once the space is
there and each given some of its turns.
-/

namespace TupleStore.Cache

open Entries

variable {σ α β : Type} {client : Client σ} {space : String} {key : Bytes}
variable {allowed : Op → Prop}

/-! ## The operations of a program -/

inductive Only (allowed : Op → Prop) : Action α → Prop
  | done (result : Except Failure α) : Only allowed (.done result)
  | step {op : Op} {next : op.Reply → Action α} (h : allowed op)
      (rest : ∀ reply, Only allowed (next reply)) : Only allowed (.step op next)

namespace Only

theorem bind {action : Action α} {rest : α → Action β} (first : Only allowed action)
    (second : ∀ result, Only allowed (rest result)) : Only allowed (action >>= rest) := by
  induction first with
  | done result =>
      cases result with
      | ok result => exact second result
      | error failure => exact .done (.error failure)
  | step h _ ih => exact .step h ih

theorem attempt {action : Action α} (h : Only allowed action) : Only allowed action.attempt := by
  induction h with
  | done result => exact .done (.ok result)
  | step h _ ih => exact .step h ih

theorem perform {op : Op} (h : allowed op) :
    Only allowed (Program.perform op : Action op.Reply) := .step h fun reply => .done (.ok reply)

theorem request {asked : Request} (h : allowed (.request asked)) :
    Only allowed (Entries.request asked) := .step h fun _ => .done _

end Only

theorem Only.mono {other : Op → Prop} {action : Action α} (h : Only allowed action)
    (hallowed : ∀ op, allowed op → other op) : Only other action := by
  induction h with
  | done result => exact .done result
  | step h _ ih => exact .step (hallowed _ h) ih

def Op.IsSilent (op : Op) : Prop := op.accessKind? = none

def Op.IsFree (op : Op) : Prop := op.waits = false ∧ ∀ call before, op.holder call before = before

def Op.IsCreation : Op → Prop
  | .request (.call ..) | .request (.eval ..) | .request .refreshMetadata => True
  | _ => False

def Op.IsSearch : Op → Prop
  | .request (.space _) | .isKnown _ | .lock | .unlock | .remember _ => True
  | op => op.IsCreation

theorem Op.IsCreation.isSearch {op : Op} (h : op.IsCreation) : op.IsSearch := by
  cases op with
  | request asked =>
      cases asked with
      | space => exact trivial
      | refreshMetadata | select | insert | replace | update | upsert | delete | truncate | call
      | eval => exact h
  | now | isKnown | lock | unlock | remember | count => exact h.elim

theorem Op.IsSearch.isSilent {op : Op} (h : op.IsSearch) : op.IsSilent := by
  cases op with
  | request asked =>
      cases asked with
      | space | refreshMetadata | call | eval => exact rfl
      | select | insert | replace | update | upsert | delete | truncate => exact h.elim
  | isKnown | lock | unlock | remember => exact rfl
  | now | count => exact h.elim

theorem callMethod_only (space method : String) (arguments : List Value) :
    Only Op.IsCreation (callMethod space method arguments) := by
  have hcall : Only Op.IsCreation
      (request (.call ("box.space." ++ space ++ ":" ++ method) arguments)) := .request trivial
  exact hcall.bind fun _ => .done _

theorem createSpace_only (space : String) : Only Op.IsCreation (createSpace space) := by
  have hformat : Only Op.IsCreation (formatSpace space) :=
    (callMethod_only ..).bind fun _ => (callMethod_only ..).bind fun _ =>
      (callMethod_only ..).bind fun _ => .request trivial
  have hdrop : Only Op.IsCreation
      (request (.eval ("box.space." ++ space ++ ":drop()") [])) := .request trivial
  have hcreate : Only Op.IsCreation
      (request (.eval ("box.schema.space.create('" ++ space ++ "')") [])) := .request trivial
  refine hcreate.bind fun _ => hformat.attempt.bind fun result => ?_
  cases result with
  | ok _ => exact .done _
  | error failure => exact (hdrop.bind fun _ => .done (.ok ())).attempt.bind fun _ => .done _

theorem findOrCreate_only (space : String) : Only Op.IsSearch (findOrCreate space) := by
  have hknown : Only Op.IsSearch (isKnown space) := .perform trivial
  have hspace : Only Op.IsSearch (request (.space space)) := .request trivial
  have hremember : Only Op.IsSearch (remember space) := .perform trivial
  refine hknown.bind fun known => ?_
  cases known with
  | true => exact .done _
  | false =>
      refine hspace.bind fun found => ?_
      cases found with
      | none =>
          exact ((createSpace_only space).mono fun _ => Op.IsCreation.isSearch).bind fun _ =>
            hremember
      | some _ => exact hremember

theorem findOrCreate_silent (space : String) : Only Op.IsSilent (findOrCreate space) :=
  (findOrCreate_only space).mono fun _ => Op.IsSearch.isSilent

theorem ensureSpace_only (space : String) : Only Op.IsSearch (ensureSpace space) := by
  have hknown : Only Op.IsSearch (isKnown space) := .perform trivial
  have hlock : Only Op.IsSearch lock := .perform trivial
  have hunlock : Only Op.IsSearch unlock := .perform trivial
  refine hknown.bind fun known => ?_
  cases known with
  | true => exact .done _
  | false =>
      refine hlock.bind fun _ => (findOrCreate_only space).attempt.bind fun result => ?_
      exact hunlock.bind fun _ => .done _

theorem findOrCreate_isKnown (space : String) :
    ∃ next, findOrCreate space = .step (.isKnown space) next ∧ next true = .done (.ok ()) :=
  ⟨_, rfl, rfl⟩

/-! ## Stages of the search -/

inductive Search where
  | entering
  | waiting
  /-- The call holds the lock and has this left to do with it. -/
  | creating (creation : Action Unit)

namespace Search

def before (space : String) (rest : Action α) : Search → Action α
  | .entering => ensureSpace space >>= fun _ => rest
  | .waiting =>
      (lock >>= fun _ => (findOrCreate space).attempt >>= fun result =>
        unlock >>= fun _ => Program.ofExcept result) >>= fun _ => rest
  | .creating creation =>
      (creation.attempt >>= fun result =>
        unlock >>= fun _ => Program.ofExcept result) >>= fun _ => rest

variable (space : String) (rest : Action α)

theorem before_entering :
    ∃ next, before space rest .entering = .step (.isKnown space) next ∧
      next true = rest ∧ next false = before space rest .waiting := ⟨_, rfl, rfl, rfl⟩

theorem before_waiting :
    ∃ next, before space rest .waiting = .step .lock next ∧
      next () = before space rest (.creating (findOrCreate space)) := ⟨_, rfl, rfl⟩

theorem before_creating_step (op : Op) (creation : op.Reply → Action Unit) :
    before space rest (.creating (.step op creation)) =
      .step op fun reply => before space rest (.creating (creation reply)) := rfl

theorem before_creating_done :
    ∃ next, before space rest (.creating (.done (.ok ()))) = .step .unlock next ∧
      next () = rest := ⟨_, rfl, rfl⟩

end Search

/-! ## Turns of systems -/

namespace System

variable {system : System σ α} {call now : Nat} {op : Op} {next : op.Reply → Action α}
variable {store : EntryStore client space key}

theorem access?_of_silent (h : system.calls[call]? = some (.step op next)) (silent : op.IsSilent) :
    system.access? store call now = none := by
  unfold access?
  rw [h]
  dsimp only
  rw [show op.accessKind? = none from silent]
  split <;> rfl

theorem access?_of_free (h : system.calls[call]? = some (.step op next)) (free : op.IsFree) :
    system.access? store call now =
      op.accessKind?.map fun kind => ⟨call, now, kind, store.entry system.shared.1⟩ := by
  unfold access?
  rw [h]
  dsimp only
  rw [free.1, Bool.false_and, if_neg Bool.false_ne_true]

end System

theorem mem_known_handle (now : Nat) (op : Op) (shared : σ × Writer) (h : space ∈ shared.2.known) :
    space ∈ (handle client now op shared).2.2.known := by
  cases op with
  | remember other => exact List.mem_cons_of_mem other h
  | request | now | isKnown | lock | unlock | count => exact h

/-! ## Once the space is there -/

def around (space : String) (search : Option Search) (rest : Action α) : Action α :=
  match search with
  | none => rest
  | some search => search.before space rest

/--
The outer system does what the inner one does, but for calls which still search; they
change nothing any more.
-/
structure Trails (space : String) (search : Nat → Option Search) (outer inner : System σ α) :
    Prop where
  shared : outer.shared = inner.shared
  known : space ∈ outer.shared.2.known
  calls : ∀ i : Nat, outer.calls[i]? = (inner.calls[i]?).map (around space (search i))
  free : ∀ (i : Nat) rest, inner.calls[i]? = some rest → Only Op.IsFree rest
  holds : ∀ i creation, search i = some (.creating creation) → outer.holder = some i ∧
    (creation = findOrCreate space ∨ creation = .done (.ok ()))

variable {search : Nat → Option Search} {outer inner : System σ α} {call now : Nat}
variable {store : EntryStore client space key}

private theorem call_of_holder {op : Op} {holder : Option Nat} (waits : op.waits = true)
    (h : (op.waits && holder.any (· != call)) = false) {i : Nat} (hi : holder = some i) :
    i = call := by
  simpa [waits, hi] using h

private theorem set_stage {γ : Type} {stages : Nat → γ} {programs calls : List (Action α)}
    {rest : Action α} (f : γ → Action α → Action α)
    (h : ∀ i : Nat, calls[i]? = (programs[i]?).map (f (stages i)))
    (hrest : programs[call]? = some rest) (target : γ) (i : Nat) :
    (calls.set call (f target rest))[i]? =
      (programs[i]?).map (f (Function.update stages call target i)) := by
  by_cases hi : i = call
  · subst hi
    have hlt : i < calls.length := by
      have := h i
      rw [hrest] at this
      exact (List.getElem?_eq_some_iff.mp this).1
    rw [List.getElem?_set_self hlt, hrest, Function.update_self]
    rfl
  · rw [List.getElem?_set_ne (Ne.symm hi), Function.update_of_ne hi]
    exact h i

theorem of_getElem?_set {item other : β} {items : List β} (P : Nat → β → Prop)
    (hitem : P call item) (hothers : ∀ i other, i ≠ call → items[i]? = some other → P i other)
    {i : Nat} (h : (items.set call item)[i]? = some other) : P i other := by
  by_cases hi : i = call
  · subst hi
    rw [List.getElem?_set_self'] at h
    obtain ⟨-, -, rfl⟩ := Option.map_eq_some_iff.mp h
    exact hitem
  · rw [List.getElem?_set_ne (Ne.symm hi)] at h
    exact hothers i other hi h

private theorem Trails.turn_search (trails : Trails space search outer inner) {rest : Action α}
    (hrest : inner.calls[call]? = some rest) {op : Op} {next : op.Reply → Action α}
    (hcall : outer.calls[call]? = some (.step op next))
    (free : (op.waits && outer.holder.any (· != call)) = false) (target : Option Search)
    (reply : op.Reply) (hhandle : handle client now op outer.shared = (reply, outer.shared))
    (hnext : next reply = around space target rest)
    (hothers : ∀ i, i ≠ call → outer.holder = some i → op.holder call outer.holder = some i)
    (htarget : ∀ creation, target = some (.creating creation) →
      op.holder call outer.holder = some call ∧
        (creation = findOrCreate space ∨ creation = .done (.ok ()))) :
    Trails space (Function.update search call target) (outer.turn client call now) inner := by
  rw [System.turn_of_step hcall free, hhandle, hnext]
  refine ⟨trails.shared, trails.known, set_stage (around space) trails.calls hrest target,
    trails.free, fun i creation hi => ?_⟩
  by_cases hcalls : i = call
  · subst hcalls
    rw [Function.update_self] at hi
    exact htarget creation hi
  · rw [Function.update_of_ne hcalls] at hi
    obtain ⟨hholder, hcreation⟩ := trails.holds i creation hi
    exact ⟨hothers i hcalls hholder, hcreation⟩

private theorem Trails.turn_inside (trails : Trails space search outer inner)
    (hsearch : search call = none) {op : Op} {next : op.Reply → Action α}
    (hcall : inner.calls[call]? = some (.step op next)) :
    outer.access? store call now = inner.access? store call now ∧
      Trails space search (outer.turn client call now) (inner.turn client call now) := by
  have houter : outer.calls[call]? = some (.step op next) := by
    rw [trails.calls, hcall, hsearch]
    rfl
  cases trails.free call _ hcall with
  | step free rest =>
      have hwaits : ∀ holder : Option Nat, (op.waits && holder.any (· != call)) = false := by
        simp [free.1]
      refine ⟨?_, ?_⟩
      · rw [System.access?_of_free houter free, System.access?_of_free hcall free, trails.shared]
      · have hknown := trails.known
        rw [System.turn_of_step houter (hwaits _), System.turn_of_step hcall (hwaits _),
          trails.shared, free.2, free.2]
        rw [trails.shared] at hknown
        refine ⟨rfl, mem_known_handle now op _ hknown, fun i => ?_, fun i other hother => ?_,
          trails.holds⟩
        · by_cases hi : i = call
          · subst hi
            rw [List.getElem?_set_self (List.getElem?_eq_some_iff.mp houter).1,
              List.getElem?_set_self (List.getElem?_eq_some_iff.mp hcall).1, hsearch]
            rfl
          · rw [List.getElem?_set_ne (Ne.symm hi), List.getElem?_set_ne (Ne.symm hi)]
            exact trails.calls i
        · exact of_getElem?_set (fun _ other => Only Op.IsFree other) (rest _)
            (fun i other _ hi => trails.free i other hi) hother

private theorem Trails.turn_stage (trails : Trails space search outer inner)
    (store : EntryStore client space key) {stage : Search} (hsearch : search call = some stage)
    {rest : Action α} (hrest : inner.calls[call]? = some rest) :
    outer.access? store call now = none ∧
      ∃ search, Trails space search (outer.turn client call now) inner := by
  have hcall := trails.calls call
  rw [hrest, Option.map_some, hsearch] at hcall
  have hknown : outer.shared.2.known.contains space = true := by simpa using trails.known
  cases stage with
  | entering =>
      obtain ⟨next, hnext, hrest', -⟩ := Search.before_entering space rest
      replace hcall := hcall.trans (congrArg some hnext)
      refine ⟨System.access?_of_silent hcall rfl, ?_⟩
      cases hwaits : (Op.isKnown space).waits && outer.holder.any (· != call) with
      | true =>
          refine ⟨search, ?_⟩
          rw [System.turn_of_waiting hcall hwaits]
          exact trails
      | false =>
          refine ⟨_, trails.turn_search hrest hcall hwaits none true ?_ hrest' (fun _ _ => id)
            nofun⟩
          rw [handle_isKnown, hknown]
  | waiting =>
      obtain ⟨next, hnext, hcreating⟩ := Search.before_waiting space rest
      replace hcall := hcall.trans (congrArg some hnext)
      refine ⟨System.access?_of_silent hcall rfl, ?_⟩
      cases hwaits : Op.lock.waits && outer.holder.any (· != call) with
      | true =>
          refine ⟨search, ?_⟩
          rw [System.turn_of_waiting hcall hwaits]
          exact trails
      | false =>
          refine ⟨_, trails.turn_search hrest hcall hwaits (some (.creating (findOrCreate space)))
            () (handle_lock ..) hcreating (fun i hi hholder => ?_) fun creation hcreation => ?_⟩
          · exact absurd (call_of_holder rfl hwaits hholder) hi
          · cases hcreation
            exact ⟨rfl, .inl rfl⟩
  | creating creation =>
      obtain ⟨hholder, rfl | rfl⟩ := trails.holds call creation hsearch
      -- with the lock it looks once more, and then gives the lock back
      · obtain ⟨next, hnext, hdone⟩ := findOrCreate_isKnown space
        rw [hnext] at hcall
        refine ⟨System.access?_of_silent hcall rfl, ?_⟩
        refine ⟨_, trails.turn_search hrest hcall (by simp [hholder])
          (some (.creating (.done (.ok ())))) true ?_ ?_ (fun _ _ => id) fun creation h => ?_⟩
        · rw [handle_isKnown, hknown]
        · exact congrArg (fun creation => Search.before space rest (.creating creation)) hdone
        · cases h
          exact ⟨hholder, .inr rfl⟩
      · obtain ⟨next, hnext, hrest'⟩ := Search.before_creating_done space rest
        replace hcall := hcall.trans (congrArg some hnext)
        refine ⟨System.access?_of_silent hcall rfl, ?_⟩
        refine ⟨_, trails.turn_search hrest hcall (by simp [hholder]) none () (handle_unlock ..)
          hrest' (fun i hi hother => ?_) nofun⟩
        exact absurd (Option.some.inj (hother.symm.trans hholder)) hi

theorem Trails.turn (trails : Trails space search outer inner) (store : EntryStore client space key)
    (call now : Nat) :
    ∃ search,
      outer.access? store call now = none ∧
          Trails space search (outer.turn client call now) inner ∨
        outer.access? store call now = inner.access? store call now ∧
          Trails space search (outer.turn client call now) (inner.turn client call now) := by
  cases hrest : inner.calls[call]? with
  | none =>
      have hcall : outer.calls[call]? = none := by rw [trails.calls, hrest, Option.map_none]
      refine ⟨search, .inl ⟨by rw [System.access?, hcall], ?_⟩⟩
      rw [System.turn_of_none hcall]
      exact trails
  | some rest =>
      have hcall := trails.calls call
      rw [hrest, Option.map_some] at hcall
      cases hsearch : search call with
      | none =>
          rw [hsearch] at hcall
          cases rest with
          | done result =>
              refine ⟨search, .inl ⟨?_, ?_⟩⟩
              · rw [System.access?, hcall]
                rfl
              · rw [System.turn_of_done hcall]
                exact trails
          | step op next => exact ⟨search, .inr (trails.turn_inside hsearch hrest)⟩
      | some stage =>
          obtain ⟨hnone, search, trails⟩ := trails.turn_stage store hsearch hrest
          exact ⟨search, .inl ⟨hnone, trails⟩⟩

theorem Trails.accesses (trails : Trails space search outer inner)
    (store : EntryStore client space key) (turns : List (Nat × Nat)) :
    ∃ inside, inside.Sublist turns ∧
      outer.accesses store turns = inner.accesses store inside := by
  induction turns generalizing search outer inner with
  | nil => exact ⟨[], .slnil, rfl⟩
  | cons turn turns ih =>
      obtain ⟨call, now⟩ := turn
      rw [System.accesses]
      rcases trails.turn store call now with ⟨search, ⟨hnone, trails⟩ | ⟨hsame, trails⟩⟩
      · obtain ⟨inside, hsublist, haccesses⟩ := ih trails
        refine ⟨inside, hsublist.cons _, ?_⟩
        rw [hnone, haccesses]
        rfl
      · obtain ⟨inside, hsublist, haccesses⟩ := ih trails
        refine ⟨(call, now) :: inside, hsublist.cons_cons _, ?_⟩
        rw [hsame, haccesses]
        rfl

/-! ## Before the space is there -/

/--
All calls still search; the space is not known yet, or one call holds the lock and is
finding or creating the space.
-/
structure Searches (store : EntryStore client space key) (entry : Option (Bytes × Nat))
    (rests : List (Action α)) (search : Nat → Search) (system : System σ α) : Prop where
  calls : ∀ i : Nat, system.calls[i]? = (rests[i]?).map fun rest => (search i).before space rest
  holder : ∀ i, system.holder = some i ↔ ∃ creation, search i = .creating creation
  unknown : system.holder = none →
    space ∉ system.shared.2.known ∧ Settles store entry (findOrCreate space) system.shared
  creation : ∀ i creation, search i = .creating creation →
    Settles store entry creation system.shared ∧ Only Op.IsSilent creation

variable {entry : Option (Bytes × Nat)} {rests : List (Action α)} {system : System σ α}

namespace Searches

variable {search : Nat → Search} {rest : Action α} {target : Search}

private theorem holder_none (searches : Searches store entry rests search system)
    (idle : ∀ creation, search call ≠ .creating creation)
    (free : system.holder.any (· != call) = false) : system.holder = none := by
  cases hholder : system.holder with
  | none => rfl
  | some i =>
      obtain ⟨creation, hsearch⟩ := (searches.holder i).mp hholder
      obtain rfl : i = call := by simpa [hholder] using free
      exact absurd hsearch (idle creation)

private theorem turn_free (searches : Searches store entry rests search system)
    (hrest : rests[call]? = some rest) {op : Op} {next : op.Reply → Action α}
    (hcall : system.calls[call]? = some (.step op next))
    (hholder : system.holder = none) (hafter : op.holder call none = none)
    (reply : op.Reply) (hhandle : handle client now op system.shared = (reply, system.shared))
    (hnext : next reply = target.before space rest)
    (htarget : ∀ creation, target ≠ .creating creation) :
    Searches store entry rests (Function.update search call target)
      (system.turn client call now) := by
  have idle : ∀ i creation, Function.update search call target i ≠ .creating creation := by
    intro i creation hi
    by_cases hcalls : i = call
    · rw [hcalls, Function.update_self] at hi
      exact htarget creation hi
    · rw [Function.update_of_ne hcalls] at hi
      have := (searches.holder i).mpr ⟨creation, hi⟩
      rw [hholder] at this
      contradiction
  rw [System.turn_of_step hcall (by simp [hholder]), hhandle, hnext, hholder, hafter]
  refine ⟨set_stage (fun (search : Search) rest => search.before space rest) searches.calls hrest
    target, fun i => ?_, fun _ => searches.unknown hholder,
    fun i creation hi => (idle i creation hi).elim⟩
  exact ⟨nofun, fun ⟨creation, hi⟩ => (idle i creation hi).elim⟩

private theorem turn_held (searches : Searches store entry rests search system)
    (hrest : rests[call]? = some rest) {op : Op} {next : op.Reply → Action α}
    (hcall : system.calls[call]? = some (.step op next))
    (hholder : system.holder = none ∨ system.holder = some call)
    (hafter : op.holder call system.holder = some call) {creation : Action Unit}
    (hnext : next (handle client now op system.shared).1 =
      (Search.creating creation).before space rest)
    (settles : Settles store entry creation (handle client now op system.shared).2)
    (silent : Only Op.IsSilent creation) :
    Searches store entry rests (Function.update search call (.creating creation))
      (system.turn client call now) := by
  have free : (op.waits && system.holder.any (· != call)) = false := by
    rcases hholder with h | h <;> simp [h]
  have others : ∀ i, i ≠ call → ∀ creation, search i ≠ .creating creation := by
    intro i hi creation hsearch
    have := (searches.holder i).mpr ⟨creation, hsearch⟩
    rcases hholder with h | h
    · rw [h] at this
      contradiction
    · exact hi (Option.some.inj (this.symm.trans h))
  rw [System.turn_of_step hcall free, hnext, hafter]
  refine ⟨set_stage (fun (search : Search) rest => search.before space rest) searches.calls hrest
    (.creating creation), fun i => ?_, nofun, fun i other hi => ?_⟩
  · by_cases hcalls : i = call
    · subst hcalls
      rw [Function.update_self]
      exact ⟨fun _ => ⟨creation, rfl⟩, fun _ => rfl⟩
    · rw [Function.update_of_ne hcalls]
      exact ⟨fun h => absurd (Option.some.inj h).symm hcalls,
        fun ⟨other, hi⟩ => absurd hi (others i hcalls other)⟩
  · by_cases hcalls : i = call
    · subst hcalls
      rw [Function.update_self] at hi
      cases hi
      exact ⟨settles, silent⟩
    · rw [Function.update_of_ne hcalls] at hi
      exact absurd hi (others i hcalls other)

private theorem turn_last (searches : Searches store entry rests search system)
    (free : ∀ rest ∈ rests, Only Op.IsFree rest) (hrest : rests[call]? = some rest)
    {next : Unit → Action α} (hcall : system.calls[call]? = some (.step .unlock next))
    (hholder : system.holder = some call) (hnext : next () = rest)
    (known : space ∈ system.shared.2.known) :
    Trails space (Function.update (fun i => some (search i)) call none)
      (system.turn client call now) { shared := system.shared, calls := rests } := by
  rw [System.turn_of_step hcall (by simp [hholder]), handle_unlock, hnext]
  refine ⟨rfl, known, ?_, fun i other hi => free other (List.mem_of_getElem? hi),
    fun i creation hi => ?_⟩
  · exact set_stage (around space) searches.calls hrest none
  · have hcalls : i ≠ call := by
      rintro rfl
      rw [Function.update_self] at hi
      contradiction
    rw [Function.update_of_ne hcalls] at hi
    have := (searches.holder i).mpr ⟨creation, Option.some.inj hi⟩
    exact absurd (Option.some.inj (this.symm.trans hholder)) hcalls

theorem turn (searches : Searches store entry rests search system)
    (free : ∀ rest ∈ rests, Only Op.IsFree rest) (call now : Nat) :
    system.access? store call now = none ∧
      ((∃ search, Searches store entry rests search (system.turn client call now)) ∨
        ∃ search start, store.ready start.1 ∧ store.entry start.1 = entry ∧
          Trails space search (system.turn client call now)
            { shared := start, calls := rests }) := by
  cases hrest : rests[call]? with
  | none =>
      have hcall : system.calls[call]? = none := by rw [searches.calls, hrest, Option.map_none]
      refine ⟨by rw [System.access?, hcall], .inl ⟨search, ?_⟩⟩
      rw [System.turn_of_none hcall]
      exact searches
  | some rest =>
      have hcall := searches.calls call
      rw [hrest, Option.map_some] at hcall
      cases hsearch : search call with
      | entering =>
          obtain ⟨next, hnext, -, hwaiting⟩ := Search.before_entering space rest
          rw [hsearch, hnext] at hcall
          refine ⟨System.access?_of_silent hcall rfl, .inl ?_⟩
          cases hwaits : system.holder.any (· != call) with
          | true =>
              rw [System.turn_of_waiting hcall hwaits]
              exact ⟨search, searches⟩
          | false =>
              have hholder := searches.holder_none (by simp [hsearch]) hwaits
              refine ⟨_, searches.turn_free hrest hcall hholder rfl false ?_ hwaiting nofun⟩
              rw [handle_isKnown]
              simpa using (searches.unknown hholder).1
      | waiting =>
          obtain ⟨next, hnext, hcreating⟩ := Search.before_waiting space rest
          rw [hsearch, hnext] at hcall
          refine ⟨System.access?_of_silent hcall rfl, .inl ?_⟩
          cases hwaits : system.holder.any (· != call) with
          | true =>
              rw [System.turn_of_waiting hcall hwaits]
              exact ⟨search, searches⟩
          | false =>
              have hholder := searches.holder_none (by simp [hsearch]) hwaits
              exact ⟨_, searches.turn_held hrest hcall (.inl hholder) rfl hcreating
                (searches.unknown hholder).2 (findOrCreate_silent space)⟩
      | creating creation =>
          obtain ⟨settles, silent⟩ := searches.creation call creation hsearch
          have hholder := (searches.holder call).mpr ⟨creation, hsearch⟩
          cases settles with
          | done known ready hentry =>
              obtain ⟨next, hnext, hrest'⟩ := Search.before_creating_done space rest
              rw [hsearch, hnext] at hcall
              refine ⟨System.access?_of_silent hcall rfl, .inr ⟨_, system.shared, ready, hentry,
                searches.turn_last free hrest hcall hholder hrest' known⟩⟩
          | step quiet settles =>
              rw [hsearch, Search.before_creating_step] at hcall
              cases silent with
              | step silent rest' =>
                  refine ⟨System.access?_of_silent hcall silent, .inl ?_⟩
                  have hafter := ((Op.isQuiet_iff quiet).2 call system.holder).trans hholder
                  exact ⟨_, searches.turn_held hrest hcall (.inr hholder) hafter rfl (settles now)
                    (rest' _)⟩

end Searches

/-! ## All calls -/

def searching (space : String) (rests : List (Action α)) (shared : σ × Writer) :
    System σ α where
  shared
  calls := rests.map fun rest => ensureSpace space >>= fun _ => rest

theorem Searches.accesses {search : Nat → Search}
    (searches : Searches store entry rests search system)
    (free : ∀ rest ∈ rests, Only Op.IsFree rest) (turns : List (Nat × Nat)) :
    system.accesses store turns = [] ∨
      ∃ (inside : List (Nat × Nat)) (start : σ × Writer), inside.Sublist turns ∧
        store.ready start.1 ∧ store.entry start.1 = entry ∧
        system.accesses store turns =
          ({ shared := start, calls := rests } : System σ α).accesses store inside := by
  induction turns generalizing search system with
  | nil => exact .inl rfl
  | cons turn turns ih =>
      obtain ⟨call, now⟩ := turn
      obtain ⟨hnone, ⟨search, searches⟩ | ⟨search, start, ready, hentry, trails⟩⟩ :=
        searches.turn free call now
      all_goals rw [System.accesses, hnone, Option.toList_none, List.nil_append]
      · rcases ih searches with hnil | ⟨inside, start, hsublist, h⟩
        · exact .inl hnil
        · exact .inr ⟨inside, start, hsublist.cons _, h⟩
      · obtain ⟨inside, hsublist, h⟩ := trails.accesses store turns
        exact .inr ⟨inside, start, hsublist.cons _, ready, hentry, h⟩

/-- The search does not show in the accesses, apart from the turns which it takes. -/
theorem accesses_searching {shared : σ × Writer} (begins : Begins store entry shared)
    (free : ∀ rest ∈ rests, Only Op.IsFree rest) (turns : List (Nat × Nat)) :
    (searching space rests shared).accesses store turns = [] ∨
      ∃ (inside : List (Nat × Nat)) (start : σ × Writer), inside.Sublist turns ∧
        store.ready start.1 ∧ store.entry start.1 = entry ∧
        (searching space rests shared).accesses store turns =
          ({ shared := start, calls := rests } : System σ α).accesses store inside := by
  rcases begins with ⟨known, ready, hentry⟩ | ⟨unknown, settles⟩
  · have trails : Trails space (fun _ => some .entering) (searching space rests shared)
        { shared, calls := rests } :=
      ⟨rfl, known, fun i => List.getElem?_map .., fun i rest hi =>
        free rest (List.mem_of_getElem? hi), nofun⟩
    obtain ⟨inside, hsublist, h⟩ := trails.accesses store turns
    exact .inr ⟨inside, shared, hsublist, ready, hentry, h⟩
  · have searches : Searches store entry rests (fun _ => .entering)
        (searching space rests shared) :=
      ⟨fun i => List.getElem?_map .., fun i => ⟨nofun, nofun⟩, fun _ => ⟨unknown, settles⟩, nofun⟩
    exact searches.accesses free turns

end TupleStore.Cache
