import Mathlib.Data.List.TakeWhile
import Mathlib.Logic.Function.Basic
import TupleStore.Proofs.Interleaving

/-!
# Storing unless there is a value
-/

namespace TupleStore.Cache

open Entries

structure Offer where
  value : Bytes
  ttl : Duration
  deriving DecidableEq, Repr

inductive Stage where
  /-- It has not looked whether the space exists. -/
  | entering
  | waiting
  /-- It holds the lock and has this left to do with it. -/
  | creating (creation : Action Unit)
  | reading
  /-- It has read an entry, and has to look at the time. -/
  | checking (value : Bytes) (expiry : Nat)
  /-- It has found no live entry. -/
  | absent
  | stamped (expiry : Nat)
  | stored
  | found (value : Bytes)

namespace Stage

def isOutside : Stage → Bool
  | .entering | .waiting | .creating _ => true
  | _ => false

def hasRead : Stage → Bool
  | .checking .. | .absent | .stamped _ | .stored | .found _ => true
  | _ => false

end Stage

/-- The program of a call at a stage, whatever answers it will get. -/
inductive Follows (space : String) (key : Bytes) (offer : Offer) :
    Stage → Action (Option Bytes) → Prop
  | enter {next : Bool → Action (Option Bytes)}
      (known : Follows space key offer .reading (next true))
      (unknown : Follows space key offer .waiting (next false)) :
      Follows space key offer .entering (.step (.isKnown space) next)
  | lock {next : Unit → Action (Option Bytes)}
      (h : Follows space key offer (.creating (findOrCreate space)) (next ())) :
      Follows space key offer .waiting (.step .lock next)
  | create {creation : Action Unit} (rest : Except Failure Unit → Action (Option Bytes))
      (h : Follows space key offer .reading (rest (.ok ()))) :
      Follows space key offer (.creating creation)
        (creation.attempt.bind fun result => .step .unlock fun _ => rest result)
  | read {next : Except ClientError (List Tuple) → Action (Option Bytes)}
      (none : Follows space key offer .absent (next (.ok [])))
      (some : ∀ entry : Bytes × Nat, Follows space key offer (.checking entry.1 entry.2)
        (next (.ok [entryTuple key entry]))) :
      Follows space key offer .reading
        (.step (.request (.select space (.primaryKey [.bin key]))) next)
  | check {next : Nat → Action (Option Bytes)} {value : Bytes} {expiry : Nat}
      (live : ∀ now, now < expiry → Follows space key offer (.found value) (next now))
      (dead : ∀ now, ¬now < expiry → Follows space key offer .absent (next now)) :
      Follows space key offer (.checking value expiry) (.step .now next)
  | delete {next : Except ClientError (List Tuple) → Action (Option Bytes)}
      (h : ∀ rows, Follows space key offer .absent (next (.ok rows))) :
      Follows space key offer .absent (.step (.request (.delete space [.bin key])) next)
  | ensure {next : Bool → Action (Option Bytes)}
      (h : Follows space key offer .absent (next true)) :
      Follows space key offer .absent (.step (.isKnown space) next)
  | stamp {next : Nat → Action (Option Bytes)}
      (h : ∀ now, Follows space key offer (.stamped (expiryTime offer.ttl now)) (next now)) :
      Follows space key offer .absent (.step .now next)
  | store {next : Except ClientError (List Tuple) → Action (Option Bytes)} {expiry : Nat}
      (bound : expiry ≤ never)
      (h : ∀ rows, Follows space key offer .stored (next (.ok rows))) :
      Follows space key offer (.stamped expiry)
        (.step (.request (.replace space (entryTuple key (offer.value, expiry)))) next)
  | count {stage : Stage} {cache : String} {occurrence : Occurrence}
      {next : Unit → Action (Option Bytes)} (read : stage.hasRead = true)
      (h : Follows space key offer stage (next ())) :
      Follows space key offer stage (.step (.count cache occurrence) next)
  | stored : Follows space key offer .stored (.done (.ok none))
  | found {value : Bytes} : Follows space key offer (.found value) (.done (.ok (some value)))

variable {space : String} {key : Bytes} {offer : Offer}

private theorem ensureSpace_follows {rest : Action (Option Bytes)}
    (h : Follows space key offer .reading rest) :
    Follows space key offer .entering (ensureSpace space >>= fun _ => rest) := by
  have hcreate : Follows space key offer (.creating (findOrCreate space))
      ((findOrCreate space).attempt >>= (fun result => do
        unlock
        Program.ofExcept result) >>= fun _ => rest) := by
    rw [Program.bind_assoc]
    exact .create (fun result => Program.ofExcept result >>= fun _ => rest) h
  exact .enter h (.lock hcreate)

private theorem liveValue_follows {entry : Bytes × Nat}
    {rest : Option Bytes → Action (Option Bytes)}
    (live : Follows space key offer (.found entry.1) (rest (some entry.1)))
    (dead : Follows space key offer .absent (rest none)) :
    Follows space key offer (.checking entry.1 entry.2)
      (liveValue space key (entryTuple key entry) >>= rest) := by
  refine .check (fun now h => ?_) fun now h => ?_
  · change Follows space key offer (.found entry.1) ((if now < entry.2 then pure (some entry.1)
      else delete space key >>= fun _ => pure none) >>= rest)
    rw [if_pos h]
    exact live
  · change Follows space key offer .absent ((if now < entry.2 then pure (some entry.1)
      else delete space key >>= fun _ => pure none) >>= rest)
    rw [if_neg h]
    exact .delete fun _ => .count rfl dead

theorem expiryTime_le (ttl : Duration) (now : Nat) : expiryTime ttl now ≤ never := by
  unfold expiryTime
  split
  · exact Nat.le_refl _
  · exact Nat.min_le_right _ _

private theorem put_follows :
    Follows space key offer .absent
      (Entries.put space key offer.value offer.ttl >>= fun _ => pure none) :=
  .ensure (.stamp fun _ => .store (expiryTime_le ..) fun _ => .count rfl .stored)

theorem putIfAbsent_follows :
    Follows space key offer .entering (Entries.putIfAbsent space key offer.value offer.ttl) := by
  rw [Entries.putIfAbsent, Entries.get, Program.bind_assoc]
  refine ensureSpace_follows (.read ?_ fun entry => ?_)
  · exact .count rfl (.count rfl put_follows)
  · change Follows space key offer (.checking entry.1 entry.2)
      ((liveValue space key (entryTuple key entry) >>= _) >>= _)
    rw [Program.bind_assoc]
    exact liveValue_follows (.count rfl (.count rfl .found)) (.count rfl (.count rfl put_follows))

/-! ## Turns -/

inductive Advance (offer : Offer) (now : Nat) :
    Stage → Option (Bytes × Nat) → Stage → Option (Bytes × Nat) → Option Event → Prop
  | quiet {stage : Stage} {entry : Option (Bytes × Nat)} :
      Advance offer now stage entry stage entry none
  | enter {before after : Stage} {entry : Option (Bytes × Nat)}
      (hbefore : before.hasRead = false) (hafter : after.hasRead = false) :
      Advance offer now before entry after entry none
  | readNone : Advance offer now .reading none .absent none (some .read)
  | readSome {value : Bytes} {expiry : Nat} :
      Advance offer now .reading (some (value, expiry)) (.checking value expiry)
        (some (value, expiry)) (some .read)
  | live {value : Bytes} {expiry : Nat} {entry : Option (Bytes × Nat)} (h : now < expiry) :
      Advance offer now (.checking value expiry) entry (.found value) entry none
  | dead {value : Bytes} {expiry : Nat} {entry : Option (Bytes × Nat)} (h : ¬now < expiry) :
      Advance offer now (.checking value expiry) entry .absent entry none
  | delete {entry : Option (Bytes × Nat)} : Advance offer now .absent entry .absent none none
  | stamp {entry : Option (Bytes × Nat)} :
      Advance offer now .absent entry (.stamped (expiryTime offer.ttl now)) entry none
  | store {expiry : Nat} {entry : Option (Bytes × Nat)} :
      Advance offer now (.stamped expiry) entry .stored (some (offer.value, expiry)) (some .store)

variable {σ : Type} {client : Client σ}

structure Settled (store : EntryStore client space key) (stage : Nat → Stage)
    (shared : σ × Writer) (entry : Option (Bytes × Nat)) : Prop where
  known : space ∈ shared.2.known
  ready : store.ready shared.1
  entry_eq : store.entry shared.1 = entry
  creations : ∀ i creation, stage i = .creating creation →
    creation = findOrCreate space ∨ creation = .done (.ok ())

structure Unsettled (store : EntryStore client space key) (stage : Nat → Stage)
    (holder : Option Nat) (shared : σ × Writer) (entry : Option (Bytes × Nat)) : Prop where
  outside : ∀ i, (stage i).isOutside = true
  free : holder = none →
    space ∉ shared.2.known ∧ Settles store entry (findOrCreate space) shared
  held : ∀ i, holder = some i →
    ∃ creation, stage i = .creating creation ∧ Settles store entry creation shared

structure Simulates (store : EntryStore client space key) (offers : List Offer)
    (system : System σ (Option Bytes)) (stage : Nat → Stage) (entry : Option (Bytes × Nat)) :
    Prop where
  length : system.calls.length = offers.length
  follows : ∀ i offer program, offers[i]? = some offer → system.calls[i]? = some program →
    Follows space key offer (stage i) program
  holds : ∀ i creation, stage i = .creating creation → system.holder = some i
  shared : Settled store stage system.shared entry ∨
    Unsettled store stage system.holder system.shared entry

variable {store : EntryStore client space key} {offers : List Offer}
variable {system : System σ (Option Bytes)} {stage : Nat → Stage}
variable {entry : Option (Bytes × Nat)} {call now : Nat}

private theorem update_eq_creating {after : Stage} {i : Nat} {creation : Action Unit}
    (hafter : ∀ creation, after ≠ .creating creation)
    (h : Function.update stage call after i = .creating creation) :
    i ≠ call ∧ stage i = .creating creation := by
  by_cases hi : i = call
  · subst hi
    rw [Function.update_self] at h
    exact absurd h (hafter creation)
  · exact ⟨hi, by rwa [Function.update_of_ne hi] at h⟩

private theorem creating_update (target creation : Action Unit) (i : Nat)
    (others : ∀ i creation, i ≠ call → stage i ≠ .creating creation)
    (h : Function.update stage call (.creating target) i = .creating creation) :
    i = call ∧ creation = target := by
  by_cases hi : i = call
  · rw [hi, Function.update_self] at h
    exact ⟨hi, (Stage.creating.inj h).symm⟩
  · rw [Function.update_of_ne hi] at h
    exact absurd h (others i creation hi)

private theorem follows_update (sim : Simulates store offers system stage entry)
    {after : Stage} {program : Action (Option Bytes)}
    (h : ∀ offer, offers[call]? = some offer → Follows space key offer after program) :
    ∀ i offer other, offers[i]? = some offer → (system.calls.set call program)[i]? = some other →
      Follows space key offer (Function.update stage call after i) other := by
  intro i offer other hoffer hother
  by_cases hi : i = call
  · subst hi
    rw [Function.update_self]
    rw [List.getElem?_set_self'] at hother
    obtain ⟨_, rfl⟩ : (∃ x, system.calls[i]? = some x) ∧ program = other := by
      simpa using hother
    exact h offer hoffer
  · rw [Function.update_of_ne hi]
    rw [List.getElem?_set_ne (Ne.symm hi)] at hother
    exact sim.follows i offer other hoffer hother

theorem Simulates.settled (sim : Simulates store offers system stage entry) {here : Stage}
    (hstage : stage call = here) (inside : here.isOutside = false) :
    Settled store stage system.shared entry := by
  rcases sim.shared with settled | unsettled
  · exact settled
  · simp [← hstage, unsettled.outside call] at inside

private theorem Settled.update {shared after : σ × Writer} {next : Option (Bytes × Nat)}
    (settled : Settled store stage shared entry) {target : Stage}
    (htarget : ∀ creation, target ≠ .creating creation)
    (known : after.2.known = shared.2.known) (ready : store.ready after.1)
    (hentry : store.entry after.1 = next) :
    Settled store (Function.update stage call target) after next where
  known := by rw [known]; exact settled.known
  ready := ready
  entry_eq := hentry
  creations i creation h :=
    settled.creations i creation (update_eq_creating htarget h).2

def Turned (store : EntryStore client space key) (offers : List Offer)
    (system after : System σ (Option Bytes)) (stage : Nat → Stage)
    (entry : Option (Bytes × Nat)) (call now : Nat) : Prop :=
  ∃ offer, offers[call]? = some offer ∧ ∃ target next event,
    Advance offer now (stage call) entry target next event ∧
      Simulates store offers after (Function.update stage call target) next ∧
      after.events = system.events ++ (event.map fun event => (call, event)).toList

variable {op : Op} {next : op.Reply → Action (Option Bytes)} {offer : Offer}

private theorem Simulates.turn_inside (sim : Simulates store offers system stage entry)
    (hoffer : offers[call]? = some offer)
    (hcall : system.calls[call]? = some (.step op next))
    (free : (op.waits && system.holder.any (· != call)) = false)
    (hholder : op.holder call system.holder = system.holder) {here : Stage}
    (hstage : stage call = here) (inside : here.isOutside = false) (target : Stage)
    (htarget : target.isOutside = false) {reply : op.Reply} {after : σ × Writer}
    (hhandle : handle client now op system.shared = (reply, after))
    (known : after.2.known = system.shared.2.known) (ready : store.ready after.1)
    (hfollows : Follows space key offer target (next reply))
    (advance : Advance offer now here entry target (store.entry after.1) op.event?) :
    Turned store offers system (system.turn client call now) stage entry call now := by
  have hcreating : ∀ creation, target ≠ .creating creation := by
    rintro creation rfl
    contradiction
  refine ⟨offer, hoffer, target, store.entry after.1, op.event?, hstage ▸ advance, ?_, ?_⟩
  · rw [System.turn_of_step hcall free, hhandle]
    refine ⟨by simpa using sim.length, follows_update sim ?_, ?_, .inl ?_⟩
    · intro other hother
      rw [hoffer] at hother
      cases hother
      exact hfollows
    · intro i creation h
      rw [hholder]
      exact sim.holds i creation (update_eq_creating hcreating h).2
    · exact (sim.settled hstage inside).update hcreating known ready rfl
  · rw [System.turn_of_step hcall free]

private theorem Simulates.turn_before (sim : Simulates store offers system stage entry)
    (hoffer : offers[call]? = some offer)
    (hcall : system.calls[call]? = some (.step op next))
    (free : (op.waits && system.holder.any (· != call)) = false)
    (hbefore : (stage call).hasRead = false) {target : Stage} (htarget : target.hasRead = false)
    (hevent : op.event? = none) {reply : op.Reply} {after : σ × Writer}
    (hhandle : handle client now op system.shared = (reply, after))
    (hfollows : Follows space key offer target (next reply))
    (holds : ∀ i creation, Function.update stage call target i = .creating creation →
      op.holder call system.holder = some i)
    (shared : Settled store (Function.update stage call target) after entry ∨
      Unsettled store (Function.update stage call target) (op.holder call system.holder)
        after entry) :
    Turned store offers system (system.turn client call now) stage entry call now := by
  refine ⟨offer, hoffer, target, entry, none, .enter hbefore htarget, ?_, ?_⟩
  · rw [System.turn_of_step hcall free, hhandle]
    refine ⟨by simpa using sim.length, follows_update sim ?_, holds, shared⟩
    intro other hother
    rw [hoffer] at hother
    cases hother
    exact hfollows
  · rw [System.turn_of_step hcall free, hevent]

private theorem Unsettled.update {holder : Option Nat} {shared : σ × Writer}
    (unsettled : Unsettled store stage holder shared entry) {target : Stage}
    (htarget : target.isOutside = true) (i : Nat) :
    (Function.update stage call target i).isOutside = true := by
  by_cases hi : i = call
  · rw [hi, Function.update_self]
    exact htarget
  · rw [Function.update_of_ne hi]
    exact unsettled.outside i

private theorem holder_eq (waits : op.waits = true)
    (free : (op.waits && system.holder.any (· != call)) = false) {i : Nat}
    (h : system.holder = some i) : i = call := by
  simpa [waits, h] using free

private theorem Unsettled.holder_eq_none
    (unsettled : Unsettled store stage system.holder system.shared entry)
    (waits : op.waits = true) (free : (op.waits && system.holder.any (· != call)) = false)
    (hstage : ∀ creation, stage call ≠ .creating creation) : system.holder = none := by
  cases hholder : system.holder with
  | none => rfl
  | some i =>
      obtain ⟨creation, hcreation, _⟩ := unsettled.held i hholder
      rw [holder_eq waits free hholder] at hcreation
      exact absurd hcreation (hstage creation)

private theorem Simulates.turn_enter (sim : Simulates store offers system stage entry)
    (hoffer : offers[call]? = some offer) {next : Bool → Action (Option Bytes)}
    (hcall : system.calls[call]? = some (.step (.isKnown space) next))
    (free : ((Op.isKnown space).waits && system.holder.any (· != call)) = false)
    (hstage : stage call = .entering) (known : Follows space key offer .reading (next true))
    (unknown : Follows space key offer .waiting (next false)) :
    Turned store offers system (system.turn client call now) stage entry call now := by
  have hhandle := handle_isKnown client now space system.shared
  have hbefore : (stage call).hasRead = false := by rw [hstage]; rfl
  rcases sim.shared with settled | unsettled
  · have hreading : ∀ creation, Stage.reading ≠ .creating creation := nofun
    rw [List.contains_iff_mem.mpr settled.known] at hhandle
    exact sim.turn_before hoffer hcall free hbefore rfl rfl hhandle known
      (fun i creation h => sim.holds i creation (update_eq_creating hreading h).2)
      (.inl (settled.update hreading rfl settled.ready settled.entry_eq))
  · have hwaiting : ∀ creation, Stage.waiting ≠ .creating creation := nofun
    have hfree := unsettled.holder_eq_none rfl free (by simp [hstage])
    have hcontains : system.shared.2.known.contains space = false := by
      simpa using (unsettled.free hfree).1
    rw [hcontains] at hhandle
    refine sim.turn_before hoffer hcall free hbefore rfl rfl hhandle unknown
      (fun i creation h => sim.holds i creation (update_eq_creating hwaiting h).2)
      (.inr ⟨unsettled.update rfl, unsettled.free, fun i h => ?_⟩)
    have hsome : system.holder = some i := h
    rw [hfree] at hsome
    contradiction

private theorem Simulates.turn_lock (sim : Simulates store offers system stage entry)
    (hoffer : offers[call]? = some offer) {next : Unit → Action (Option Bytes)}
    (hcall : system.calls[call]? = some (.step .lock next))
    (free : (Op.lock.waits && system.holder.any (· != call)) = false)
    (hstage : stage call = .waiting)
    (hfollows : Follows space key offer (.creating (findOrCreate space)) (next ())) :
    Turned store offers system (system.turn client call now) stage entry call now := by
  have hbefore : (stage call).hasRead = false := by rw [hstage]; rfl
  have hcreating := fun i creation => creating_update (findOrCreate space) creation i
    fun j other hj h => hj (holder_eq rfl free (sim.holds j other h))
  refine sim.turn_before hoffer hcall free hbefore rfl rfl
    (handle_lock client now system.shared) hfollows
    (fun i creation h => congrArg some (hcreating i creation h).1.symm) ?_
  rcases sim.shared with settled | unsettled
  · exact .inl ⟨settled.known, settled.ready, settled.entry_eq,
      fun i creation h => .inl (hcreating i creation h).2⟩
  · have hfree := unsettled.holder_eq_none rfl free (by simp [hstage])
    refine .inr ⟨unsettled.update rfl, nofun, fun i h => ⟨findOrCreate space, ?_,
      (unsettled.free hfree).2⟩⟩
    rw [← Option.some.inj h, Function.update_self]

private theorem Simulates.turn_create (sim : Simulates store offers system stage entry)
    (hoffer : offers[call]? = some offer) {next : op.Reply → Action Unit}
    {rest : Except Failure Unit → Action (Option Bytes)}
    (hcall : system.calls[call]? = some (.step op fun reply =>
      (next reply).attempt.bind fun result => .step .unlock fun _ => rest result))
    (free : (op.waits && system.holder.any (· != call)) = false)
    (hstage : stage call = .creating (.step op next))
    (hfollows : Follows space key offer .reading (rest (.ok ()))) :
    Turned store offers system (system.turn client call now) stage entry call now := by
  have hbefore : (stage call).hasRead = false := by rw [hstage]; rfl
  have hholder := sim.holds call _ hstage
  have hcreating := fun target i creation => creating_update target creation i
    fun j other (hj : j ≠ call) h => by
      have hother := sim.holds j other h
      rw [hholder] at hother
      exact hj (Option.some.inj hother).symm
  rcases sim.shared with settled | unsettled
  · rcases settled.creations call _ hstage with hfind | hdone
    · obtain ⟨search, hsearch, hknown⟩ : ∃ search,
          findOrCreate space = .step (.isKnown space) search ∧ search true = .done (.ok ()) :=
        ⟨_, rfl, rfl⟩
      rw [hsearch] at hfind
      cases hfind
      have hhandle := handle_isKnown client now space system.shared
      rw [List.contains_iff_mem.mpr settled.known] at hhandle
      refine sim.turn_before hoffer hcall free hbefore rfl rfl hhandle (.create rest hfollows)
        (fun i creation h => ?_) (.inl ⟨settled.known, settled.ready, settled.entry_eq, ?_⟩)
      · rw [(hcreating _ i creation h).1]
        exact hholder
      · exact fun i creation h => .inr ((hcreating _ i creation h).2.trans hknown)
    · contradiction
  · obtain ⟨creation, hcreation, settles⟩ := unsettled.held call hholder
    rw [hstage] at hcreation
    cases hcreation
    cases settles with
    | step quiet settles =>
        obtain ⟨hevent, hkeeps⟩ := Op.isQuiet_iff quiet
        refine sim.turn_before hoffer hcall free hbefore rfl hevent rfl
          (.create rest hfollows) (fun i creation h => ?_) (.inr ⟨unsettled.update rfl, ?_, ?_⟩)
        · rw [hkeeps, hholder, (hcreating _ i creation h).1]
        · intro h
          rw [hkeeps, hholder] at h
          contradiction
        · intro i h
          rw [hkeeps, hholder] at h
          cases h
          exact ⟨_, Function.update_self .., settles now⟩

private theorem Simulates.turn_unlock (sim : Simulates store offers system stage entry)
    (hoffer : offers[call]? = some offer) {result : Except Failure Unit}
    {rest : Except Failure Unit → Action (Option Bytes)}
    (hcall : system.calls[call]? = some (.step .unlock fun _ => rest result))
    (hstage : stage call = .creating (.done result))
    (hfollows : Follows space key offer .reading (rest (.ok ()))) :
    Turned store offers system (system.turn client call now) stage entry call now := by
  have hbefore : (stage call).hasRead = false := by rw [hstage]; rfl
  have hreading : ∀ creation, Stage.reading ≠ .creating creation := nofun
  have hholder := sim.holds call _ hstage
  have hothers : ∀ i creation, Function.update stage call .reading i ≠ .creating creation := by
    intro i creation h
    obtain ⟨hi, hcreating⟩ := update_eq_creating hreading h
    have hother := sim.holds i creation hcreating
    rw [hholder] at hother
    exact hi (Option.some.inj hother).symm
  have hsettled : Settled store stage system.shared entry ∧ result = .ok () := by
    rcases sim.shared with settled | unsettled
    · refine ⟨settled, ?_⟩
      rcases settled.creations call _ hstage with hfind | hdone
      · contradiction
      · cases hdone
        rfl
    · obtain ⟨creation, hcreation, settles⟩ := unsettled.held call hholder
      rw [hstage] at hcreation
      cases hcreation
      cases settles with
      | done known ready h =>
          refine ⟨⟨known, ready, h, fun i creation hi => ?_⟩, rfl⟩
          have hother := sim.holds i creation hi
          rw [hholder] at hother
          cases hother
          rw [hstage] at hi
          exact .inr (Stage.creating.inj hi).symm
  obtain ⟨settled, rfl⟩ := hsettled
  exact sim.turn_before hoffer hcall rfl hbefore rfl rfl
    (handle_unlock client now system.shared) hfollows
    (fun i creation h => absurd h (hothers i creation))
    (.inl (settled.update hreading rfl settled.ready settled.entry_eq))

private theorem Simulates.turn_free (sim : Simulates store offers system stage entry)
    (hoffer : offers[call]? = some offer)
    (hcall : system.calls[call]? = some (.step op next))
    (free : (op.waits && system.holder.any (· != call)) = false) :
    Turned store offers system (system.turn client call now) stage entry call now := by
  have hfollows := sim.follows call offer _ hoffer hcall
  generalize hprogram : Program.step op next = program at hfollows
  generalize hstage : stage call = here at hfollows
  cases hfollows with
  | enter known unknown =>
      cases hprogram
      exact sim.turn_enter hoffer hcall free hstage known unknown
  | lock h =>
      cases hprogram
      exact sim.turn_lock hoffer hcall free hstage h
  | @create creation rest h =>
      cases creation with
      | done result =>
          cases hprogram
          exact sim.turn_unlock hoffer hcall hstage h
      | step op next =>
          cases hprogram
          exact sim.turn_create hoffer hcall free hstage h
  | read none some =>
      cases hprogram
      have settled := sim.settled hstage rfl
      obtain ⟨after, hselect, ready, hentry⟩ := store.select _ settled.ready
      have hhandle := handle_request client now _ system.shared |>.trans (by rw [hselect])
      rw [settled.entry_eq] at hhandle hentry
      cases entry with
      | none =>
          refine sim.turn_inside hoffer hcall free rfl hstage rfl .absent rfl hhandle rfl
            ready none ?_
          rw [hentry]
          exact .readNone
      | some entry =>
          refine sim.turn_inside hoffer hcall free rfl hstage rfl
            (.checking entry.1 entry.2) rfl hhandle rfl ready (some entry) ?_
          rw [hentry]
          exact .readSome
  | @check next value expiry live dead =>
      cases hprogram
      have settled := sim.settled hstage rfl
      by_cases h : now < expiry
      · refine sim.turn_inside hoffer hcall free rfl hstage rfl (.found value) rfl
          (handle_now client now system.shared) rfl settled.ready (live now h) ?_
        rw [settled.entry_eq]
        exact .live h
      · refine sim.turn_inside hoffer hcall free rfl hstage rfl .absent rfl
          (handle_now client now system.shared) rfl settled.ready (dead now h) ?_
        rw [settled.entry_eq]
        exact .dead h
  | delete h =>
      cases hprogram
      have settled := sim.settled hstage rfl
      obtain ⟨rows, after, hdelete, ready, hentry⟩ := store.delete _ settled.ready
      have hhandle := handle_request client now _ system.shared |>.trans (by rw [hdelete])
      refine sim.turn_inside hoffer hcall free rfl hstage rfl .absent rfl hhandle rfl
        ready (h rows) ?_
      rw [hentry]
      exact .delete
  | ensure h =>
      cases hprogram
      have settled := sim.settled hstage rfl
      have hhandle := handle_isKnown client now space system.shared
      rw [List.contains_iff_mem.mpr settled.known] at hhandle
      refine sim.turn_inside hoffer hcall free rfl hstage rfl .absent rfl hhandle rfl
        settled.ready h ?_
      rw [settled.entry_eq]
      exact .quiet
  | stamp h =>
      cases hprogram
      have settled := sim.settled hstage rfl
      refine sim.turn_inside hoffer hcall free rfl hstage rfl
        (.stamped (expiryTime offer.ttl now)) rfl
        (handle_now client now system.shared) rfl settled.ready (h now) ?_
      rw [settled.entry_eq]
      exact .stamp
  | @store next expiry bound h =>
      cases hprogram
      have settled := sim.settled hstage rfl
      obtain ⟨rows, after, hreplace, ready, hentry⟩ :=
        store.replace _ offer.value expiry settled.ready bound
      have hhandle := handle_request client now _ system.shared |>.trans (by rw [hreplace])
      refine sim.turn_inside hoffer hcall free rfl hstage rfl .stored rfl hhandle rfl
        ready (h rows) ?_
      rw [hentry]
      exact .store
  | @count here cache occurrence next read h =>
      cases hprogram
      have inside : here.isOutside = false := by
        cases here <;> first | rfl | contradiction
      have settled := sim.settled hstage inside
      refine sim.turn_inside hoffer hcall free rfl hstage inside here inside rfl rfl
        settled.ready h ?_
      change Advance offer now here entry here (store.entry system.shared.1) none
      rw [settled.entry_eq]
      exact .quiet
  | stored | found => contradiction

theorem Simulates.turn (sim : Simulates store offers system stage entry) (call now : Nat) :
    system.turn client call now = system ∨
      Turned store offers system (system.turn client call now) stage entry call now := by
  cases hcall : system.calls[call]? with
  | none => exact .inl (System.turn_of_none hcall)
  | some program =>
      cases program with
      | done result => exact .inl (System.turn_of_done hcall)
      | step op next =>
          have hlt : call < offers.length := by
            rw [← sim.length]
            exact (List.getElem?_eq_some_iff.mp hcall).1
          cases free : (op.waits && system.holder.any (· != call)) with
          | true => exact .inl (System.turn_of_waiting hcall free)
          | false => exact .inr (sim.turn_free (List.getElem?_eq_getElem hlt) hcall free)

end TupleStore.Cache
