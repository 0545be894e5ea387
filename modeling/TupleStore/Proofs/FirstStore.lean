import TupleStore.Proofs.EmbeddedEntries
import TupleStore.Proofs.PutIfAbsent

/-!
# The first store

Calls which read before the first of them stores find nothing, and all of them
store.  When there is only one, the others find what it has stored.
-/

namespace TupleStore.Cache

open Entries

/-! ## Early reads -/

def allReads (events : List (Nat × Event)) : Prop := ∀ event ∈ events, event.2 = .read

theorem earlyReads_append_read {events : List (Nat × Event)} (h : allReads events) (call : Nat) :
    earlyReads (events ++ [(call, .read)]) = earlyReads events ++ [call] := by
  have hp : ∀ event ∈ events, decide (event.2 = .read) = true := fun event hevent => by
    simpa using h event hevent
  rw [earlyReads, earlyReads, List.takeWhile_append_of_pos hp, List.map_append,
    List.takeWhile_eq_self_iff.mpr hp]
  rfl

theorem earlyReads_append_of_store {events : List (Nat × Event)} (h : ¬allReads events)
    (more : List (Nat × Event)) : earlyReads (events ++ more) = earlyReads events := by
  have hne : (events.takeWhile fun event => event.2 = .read).length ≠ events.length := by
    intro hlength
    refine h fun event hevent => ?_
    have hself := (List.takeWhile_prefix (fun event : Nat × Event => decide (event.2 = .read))
      (l := events)).eq_of_length hlength
    rw [← hself] at hevent
    simpa using List.mem_takeWhile_imp hevent
  rw [earlyReads, earlyReads, List.takeWhile_append, if_neg hne]

theorem earlyReads_append_store (events : List (Nat × Event)) (call : Nat) :
    earlyReads (events ++ [(call, .store)]) = earlyReads events := by
  by_cases h : allReads events
  · have hp : ∀ event ∈ events, decide (event.2 = .read) = true := fun event hevent => by
      simpa using h event hevent
    rw [earlyReads, earlyReads, List.takeWhile_append_of_pos hp,
      List.takeWhile_eq_self_iff.mpr hp]
    simp
  · exact earlyReads_append_of_store h _

theorem allReads_append_read {events : List (Nat × Event)} {call : Nat} :
    allReads (events ++ [(call, .read)]) ↔ allReads events :=
  List.forall_mem_append.trans (and_iff_left (by simp))

theorem not_allReads_append_store (events : List (Nat × Event)) (call : Nat) :
    ¬allReads (events ++ [(call, .store)]) :=
  fun h => absurd (h (call, .store) (by simp)) (by simp)

/-! ## What the others find -/

variable {times : Nat → Prop}

/-- The call has found no live entry, or will see that the one it has read is not. -/
def Stage.Misses (times : Nat → Prop) : Stage → Prop
  | .checking _ expiry => ∀ now, times now → ¬now < expiry
  | .absent | .stamped _ | .stored => True
  | _ => False

/-- The call has found a live entry, or will see that the one it has read is. -/
def Stage.Hits (times : Nat → Prop) : Stage → Prop
  | .checking _ expiry => ∀ now, times now → now < expiry
  | .absent | .stamped _ | .stored => False
  | _ => True

def NotLive (times : Nat → Prop) (entry : Option (Bytes × Nat)) : Prop :=
  ∀ value expiry, entry = some (value, expiry) → ∀ now, times now → ¬now < expiry

/-- A call has stored its value, and no other call has stored or is going to. -/
structure Won (times : Nat → Prop) (offers : List Offer) (stage : Nat → Stage)
    (entry : Option (Bytes × Nat)) (winner : Nat) : Prop where
  stored : stage winner = .stored
  entry_eq : ∃ offer expiry, offers[winner]? = some offer ∧
    entry = some (offer.value, expiry) ∧ ∀ now, times now → now < expiry
  others : ∀ i, i ≠ winner → (stage i).Hits times

structure Ordered (times : Nat → Prop) (offers : List Offer) (stage : Nat → Stage)
    (entry : Option (Bytes × Nat)) (events : List (Nat × Event)) : Prop where
  nodup : (earlyReads events).Nodup
  offered : ∀ i ∈ earlyReads events, i < offers.length
  misses : ∀ i ∈ earlyReads events, (stage i).Misses times
  stamps : ∀ i expiry, stage i = .stamped expiry →
    ∃ offer now, offers[i]? = some offer ∧ times now ∧ expiry = expiryTime offer.ttl now
  before : allReads events → NotLive times entry ∧
    ∀ i, (stage i).hasRead = true → i ∈ earlyReads events ∧ stage i ≠ .stored
  after : ¬allReads events → (earlyReads events).length ≤ 1 →
    ∃ winner, Won times offers stage entry winner

theorem Stage.not_misses {stage : Stage} (h : stage.hasRead = false) : ¬stage.Misses times := by
  cases stage <;> simp_all [Stage.hasRead, Stage.Misses]

theorem Stage.hits {stage : Stage} (h : stage.hasRead = false) : stage.Hits times := by
  cases stage <;> simp_all [Stage.hasRead, Stage.Hits]

variable {offers : List Offer} {stage : Nat → Stage} {entry next : Option (Bytes × Nat)}
variable {events : List (Nat × Event)} {call now : Nat} {offer : Offer} {target : Stage}

private theorem Won.update {winner : Nat} (won : Won times offers stage entry winner)
    (hstage : stage call ≠ .stored)
    (hhits : (stage call).Hits times → target.Hits times ∧ next = entry) :
    Won times offers (Function.update stage call target) next winner := by
  have hne : winner ≠ call := by
    rintro rfl
    exact hstage won.stored
  obtain ⟨htarget, rfl⟩ := hhits (won.others call hne.symm)
  refine ⟨by rw [Function.update_of_ne hne]; exact won.stored, won.entry_eq, fun i hi => ?_⟩
  by_cases hcall : i = call
  · rw [hcall, Function.update_self]
    exact htarget
  · rw [Function.update_of_ne hcall]
    exact won.others i hi

private theorem Ordered.turn_quiet (ordered : Ordered times offers stage entry events)
    (hoffer : offers[call]? = some offer) (hstage : stage call ≠ .stored)
    (htarget : target ≠ .stored)
    (hmisses : (stage call).Misses times → target.Misses times)
    (hread : target.hasRead = true → (stage call).hasRead = true)
    (hstamps : ∀ expiry, target = .stamped expiry →
      ∃ now, times now ∧ expiry = expiryTime offer.ttl now)
    (hentry : next = entry ∨ next = none)
    (hhits : (stage call).Hits times → target.Hits times ∧ next = entry) :
    Ordered times offers (Function.update stage call target) next events where
  nodup := ordered.nodup
  offered := ordered.offered
  misses i hi := by
    by_cases hcall : i = call
    · rw [hcall, Function.update_self]
      exact hmisses (hcall ▸ ordered.misses i hi)
    · rw [Function.update_of_ne hcall]
      exact ordered.misses i hi
  stamps i expiry hi := by
    by_cases hcall : i = call
    · rw [hcall, Function.update_self] at hi
      obtain ⟨now, hnow, hexpiry⟩ := hstamps expiry hi
      exact ⟨offer, now, hcall ▸ hoffer, hnow, hexpiry⟩
    · rw [Function.update_of_ne hcall] at hi
      exact ordered.stamps i expiry hi
  before hreads := by
    obtain ⟨hnot, hearly⟩ := ordered.before hreads
    refine ⟨?_, fun i hi => ?_⟩
    · rcases hentry with rfl | rfl
      · exact hnot
      · exact nofun
    · by_cases hcall : i = call
      · rw [hcall, Function.update_self] at hi ⊢
        exact ⟨(hearly call (hread hi)).1, htarget⟩
      · rw [Function.update_of_ne hcall] at hi ⊢
        exact hearly i hi
  after hstores hlength := by
    obtain ⟨winner, won⟩ := ordered.after hstores hlength
    exact ⟨winner, won.update hstage hhits⟩

private theorem Ordered.turn_read (ordered : Ordered times offers stage entry events)
    (hoffer : offers[call]? = some offer) (hstage : stage call = .reading)
    (htarget : target ≠ .stored)
    (hstamped : ∀ expiry, target ≠ .stamped expiry)
    (hmisses : NotLive times entry → target.Misses times)
    (hhits : ∀ value expiry, entry = some (value, expiry) →
      (∀ now, times now → now < expiry) → target.Hits times) :
    Ordered times offers (Function.update stage call target) entry
      (events ++ [(call, .read)]) := by
  have hunread : call ∉ earlyReads events := by
    intro hmem
    have := ordered.misses call hmem
    rw [hstage] at this
    exact this
  have hearly : ∀ i, i ≠ call → i ∈ earlyReads (events ++ [(call, .read)]) →
      i ∈ earlyReads events := by
    intro i hcall hi
    by_cases hreads : allReads events
    · rw [earlyReads_append_read hreads] at hi
      simpa [hcall] using hi
    · rwa [earlyReads_append_of_store hreads] at hi
  refine ⟨?_, fun i hi => ?_, fun i hi => ?_, fun i expiry hi => ?_, fun hreads => ?_,
    fun hstores hlength => ?_⟩
  · by_cases hreads : allReads events
    · rw [earlyReads_append_read hreads]
      exact List.nodup_append.mpr ⟨ordered.nodup, by simp, by
        rintro i hi j hj rfl
        exact hunread (List.mem_singleton.mp hj ▸ hi)⟩
    · rw [earlyReads_append_of_store hreads]
      exact ordered.nodup
  · by_cases hcall : i = call
    · rw [hcall]
      exact (List.getElem?_eq_some_iff.mp hoffer).1
    · exact ordered.offered i (hearly i hcall hi)
  · by_cases hcall : i = call
    · rw [hcall, Function.update_self]
      by_cases hreads : allReads events
      · exact hmisses (ordered.before hreads).1
      · rw [earlyReads_append_of_store hreads, hcall] at hi
        exact absurd hi hunread
    · rw [Function.update_of_ne hcall]
      exact ordered.misses i (hearly i hcall hi)
  · by_cases hcall : i = call
    · rw [hcall, Function.update_self] at hi
      exact absurd hi (hstamped expiry)
    · rw [Function.update_of_ne hcall] at hi
      exact ordered.stamps i expiry hi
  · rw [allReads_append_read] at hreads
    obtain ⟨hnot, hread⟩ := ordered.before hreads
    refine ⟨hnot, fun i hi => ?_⟩
    rw [earlyReads_append_read hreads]
    by_cases hcall : i = call
    · rw [hcall, Function.update_self]
      exact ⟨by simp, htarget⟩
    · rw [Function.update_of_ne hcall] at hi ⊢
      obtain ⟨hmem, hne⟩ := hread i hi
      exact ⟨by simp [hmem], hne⟩
  · rw [allReads_append_read] at hstores
    rw [earlyReads_append_of_store hstores] at hlength
    obtain ⟨winner, won⟩ := ordered.after hstores hlength
    obtain ⟨offer, expiry, _, hentry, hlive⟩ := won.entry_eq
    refine ⟨winner, won.update (by simp [hstage]) fun _ => ⟨?_, rfl⟩⟩
    exact hhits offer.value expiry hentry hlive

private theorem eq_of_mem_of_length_le_one {items : List Nat} (h : items.length ≤ 1) {l r : Nat}
    (hl : l ∈ items) (hr : r ∈ items) : l = r := by
  match items with
  | [] => contradiction
  | [item] => rw [List.mem_singleton.mp hl, List.mem_singleton.mp hr]
  | _ :: _ :: _ => simp at h

/-- A call stores: when it is the only one which has read early, it is the winner. -/
private theorem Ordered.turn_store (ordered : Ordered times offers stage entry events)
    (hoffer : offers[call]? = some offer)
    (lasting : ∀ offer ∈ offers, ∀ now later, times now → times later →
      later < expiryTime offer.ttl now) {expiry : Nat} (hstage : stage call = .stamped expiry) :
    Ordered times offers (Function.update stage call .stored) (some (offer.value, expiry))
      (events ++ [(call, .store)]) := by
  refine ⟨?_, fun i hi => ?_, fun i hi => ?_, fun i other hi => ?_,
    fun hreads => absurd hreads (not_allReads_append_store events call), fun _ hlength => ?_⟩
  · rw [earlyReads_append_store]
    exact ordered.nodup
  · rw [earlyReads_append_store] at hi
    exact ordered.offered i hi
  · rw [earlyReads_append_store] at hi
    by_cases hcall : i = call
    · rw [hcall, Function.update_self]
      trivial
    · rw [Function.update_of_ne hcall]
      exact ordered.misses i hi
  · by_cases hcall : i = call
    · rw [hcall, Function.update_self] at hi
      contradiction
    · rw [Function.update_of_ne hcall] at hi
      exact ordered.stamps i other hi
  · rw [earlyReads_append_store] at hlength
    by_cases hreads : allReads events
    · obtain ⟨_, hearly⟩ := ordered.before hreads
      obtain ⟨other, now, hother, hnow, rfl⟩ := ordered.stamps call expiry hstage
      rw [hoffer] at hother
      cases hother
      have hcall := (hearly call (by rw [hstage]; rfl)).1
      refine ⟨call, Function.update_self .., ⟨offer, _, hoffer, rfl, fun later hlater =>
        lasting offer (List.mem_of_getElem? hoffer) now later hnow hlater⟩, fun i hi => ?_⟩
      rw [Function.update_of_ne hi]
      refine Stage.hits ?_
      by_contra hread
      exact hi (eq_of_mem_of_length_le_one hlength (hearly i (by simpa using hread)).1 hcall)
    · obtain ⟨winner, won⟩ := ordered.after hreads hlength
      have hne : call ≠ winner := by
        rintro rfl
        rw [won.stored] at hstage
        contradiction
      have := won.others call hne
      rw [hstage] at this
      exact this.elim

theorem Ordered.advance (ordered : Ordered times offers stage entry events)
    (hoffer : offers[call]? = some offer) (hnow : times now)
    (lasting : ∀ offer ∈ offers, ∀ now later, times now → times later →
      later < expiryTime offer.ttl now) {event : Option Event}
    (advance : Advance offer now (stage call) entry target next event) :
    Ordered times offers (Function.update stage call target) next
      (events ++ (event.map fun event => (call, event)).toList) := by
  generalize hstage : stage call = here at advance
  cases advance with
  | quiet =>
      rw [← hstage, Function.update_eq_self]
      simpa using ordered
  | enter hbefore hafter =>
      rw [← hstage] at hbefore
      rw [Option.map_none, Option.toList_none, List.append_nil]
      refine ordered.turn_quiet hoffer ?_ ?_ (fun h => absurd h (Stage.not_misses hbefore))
        (by simp [hafter]) ?_ (.inl rfl) (fun _ => ⟨Stage.hits hafter, rfl⟩)
      · rintro h
        rw [h] at hbefore
        contradiction
      · rintro rfl
        contradiction
      · rintro expiry rfl
        contradiction
  | readNone =>
      exact ordered.turn_read hoffer hstage nofun nofun (fun _ => trivial) nofun
  | readSome =>
      exact ordered.turn_read hoffer hstage nofun nofun (fun h => h _ _ rfl) (by
        rintro value expiry ⟨⟩ hlive
        exact hlive)
  | live h =>
      rw [Option.map_none, Option.toList_none, List.append_nil]
      refine ordered.turn_quiet hoffer (by simp [hstage]) nofun ?_ (by simp [hstage, Stage.hasRead])
        nofun (.inl rfl) (fun _ => ⟨trivial, rfl⟩)
      intro hmisses
      rw [hstage] at hmisses
      exact absurd h (hmisses now hnow)
  | dead h =>
      rw [Option.map_none, Option.toList_none, List.append_nil]
      refine ordered.turn_quiet hoffer (by simp [hstage]) nofun (fun _ => trivial)
        (by simp [hstage, Stage.hasRead]) nofun (.inl rfl) ?_
      intro hhits
      rw [hstage] at hhits
      exact absurd (hhits now hnow) h
  | delete =>
      rw [Option.map_none, Option.toList_none, List.append_nil]
      refine ordered.turn_quiet hoffer (by simp [hstage]) nofun (fun _ => trivial)
        (by simp [hstage, Stage.hasRead]) nofun (.inr rfl) ?_
      intro hhits
      rw [hstage] at hhits
      exact hhits.elim
  | stamp =>
      rw [Option.map_none, Option.toList_none, List.append_nil]
      refine ordered.turn_quiet hoffer (by simp [hstage]) nofun (fun _ => trivial)
        (by simp [hstage, Stage.hasRead]) ?_ (.inl rfl) ?_
      · rintro expiry ⟨⟩
        exact ⟨now, hnow, rfl⟩
      · intro hhits
        rw [hstage] at hhits
        exact hhits.elim
  | store => exact ordered.turn_store hoffer lasting hstage

/-! ## Runs -/

variable {space : String} {key : Bytes} {σ : Type} {client : Client σ}
variable {store : EntryStore client space key}

def offering (space : String) (key : Bytes) (offers : List Offer) (shared : σ × Writer) :
    System σ (Option Bytes) where
  shared
  calls := offers.map fun offer => Entries.putIfAbsent space key offer.value offer.ttl

theorem simulates_offering {shared : σ × Writer} (begins : Begins store entry shared) :
    Simulates store offers (offering space key offers shared) (fun _ => .entering) entry where
  length := by simp [offering]
  follows i offer program hoffer hprogram := by
    have hcall : program = Entries.putIfAbsent space key offer.value offer.ttl := by
      simpa [offering, hoffer, eq_comm] using hprogram
    rw [hcall]
    exact putIfAbsent_follows
  holds := nofun
  shared := by
    rcases begins with ⟨known, ready, hentry⟩ | ⟨unknown, settles⟩
    · exact .inl ⟨known, ready, hentry, nofun⟩
    · exact .inr ⟨fun _ => rfl, fun _ => ⟨unknown, settles⟩, nofun⟩

theorem ordered_offering (offers : List Offer) (h : NotLive times entry) :
    Ordered times offers (fun _ => .entering) entry [] where
  nodup := .nil
  offered := nofun
  misses := nofun
  stamps := nofun
  before _ := ⟨h, nofun⟩
  after h := absurd nofun h

theorem exists_ordered (lasting : ∀ offer ∈ offers, ∀ now later, times now → times later →
      later < expiryTime offer.ttl now) (turns : List (Nat × Nat))
    (hturns : ∀ turn ∈ turns, times turn.2) (system : System σ (Option Bytes))
    (sim : Simulates store offers system stage entry)
    (ordered : Ordered times offers stage entry system.events) :
    ∃ stage entry, Simulates store offers (system.run client turns) stage entry ∧
      Ordered times offers stage entry (system.run client turns).events := by
  induction turns generalizing system stage entry with
  | nil => exact ⟨stage, entry, sim, ordered⟩
  | cons turn turns ih =>
      obtain ⟨call, now⟩ := turn
      obtain ⟨hnow, hturns⟩ := List.forall_mem_cons.mp hturns
      have hrun : system.run client ((call, now) :: turns) =
          (system.turn client call now).run client turns := rfl
      rw [hrun]
      rcases sim.turn call now with hsame | ⟨offer, hoffer, target, next, event, advance, sim, he⟩
      · rw [hsame]
        exact ih hturns system sim ordered
      · refine ih hturns _ sim ?_
        rw [he]
        exact ordered.advance hoffer hnow lasting advance

private theorem Follows.of_done {here : Stage} {result : Except Failure (Option Bytes)}
    (h : Follows space key offer here (.done result)) :
    here = .stored ∧ result = .ok none ∨
      ∃ value, here = .found value ∧ result = .ok (some value) := by
  generalize hprogram : Program.done result = program at h
  cases h with
  | @create creation => cases creation <;> contradiction
  | stored =>
      cases hprogram
      exact .inl ⟨rfl, rfl⟩
  | found =>
      cases hprogram
      exact .inr ⟨_, rfl, rfl⟩
  | enter | lock | read | check | delete | ensure | stamp | store | count => contradiction

/-- At most one call returns none, and its value is stored at the end. -/
def Exclusive (store : EntryStore client space key) (offers : List Offer)
    (results : List (Except Failure (Option Bytes))) (state : σ) : Prop :=
  (∀ i j : Nat, results[i]? = some (.ok none) → results[j]? = some (.ok none) → i = j) ∧
    ∀ (i : Nat) (offer : Offer), results[i]? = some (.ok none) → offers[i]? = some offer →
      ∃ expiry, store.entry state = some (offer.value, expiry)

private theorem Simulates.stage_of_result {system : System σ (Option Bytes)}
    {results : List (Except Failure (Option Bytes))}
    (sim : Simulates store offers system stage entry)
    (finished : system.calls = results.map .done) {i : Nat} (hi : i < offers.length) :
    stage i = .stored ∧ results[i]? = some (.ok none) ∨
      ∃ value, stage i = .found value ∧ results[i]? = some (.ok (some value)) := by
  have hlength : results.length = offers.length := by
    rw [← sim.length, finished, List.length_map]
  have hresult := List.getElem?_eq_getElem (hlength ▸ hi)
  have hcall : system.calls[i]? = some (.done results[i]) := by
    rw [finished, List.getElem?_map, hresult]
    rfl
  rcases (sim.follows i _ _ (List.getElem?_eq_getElem hi) hcall).of_done with
    ⟨hstage, h⟩ | ⟨value, hstage, h⟩
  · exact .inl ⟨hstage, by rw [hresult, h]⟩
  · exact .inr ⟨value, hstage, by rw [hresult, h]⟩

variable {system : System σ (Option Bytes)} {results : List (Except Failure (Option Bytes))}

private theorem Simulates.length_earlyReads_le
    (sim : Simulates store offers system stage entry)
    (ordered : Ordered times offers stage entry system.events)
    (finished : system.calls = results.map .done)
    (exclusive : Exclusive store offers results system.shared.1) :
    (earlyReads system.events).length ≤ 1 := by
  have hnone : ∀ i ∈ earlyReads system.events, results[i]? = some (.ok none) := by
    intro i hi
    rcases sim.stage_of_result finished (ordered.offered i hi) with
      ⟨_, hnone⟩ | ⟨value, hstage, _⟩
    · exact hnone
    · have hmisses := ordered.misses i hi
      rw [hstage] at hmisses
      exact hmisses.elim
  have hnodup := ordered.nodup
  match hearly : earlyReads system.events with
  | [] | [_] => simp
  | i :: j :: rest =>
      rw [hearly] at hnone hnodup
      have hsame := exclusive.1 i j (hnone i (by simp)) (hnone j (by simp))
      simp [hsame] at hnodup

private theorem Simulates.exclusive (sim : Simulates store offers system stage entry)
    (ordered : Ordered times offers stage entry system.events)
    (finished : system.calls = results.map .done)
    (hlength : (earlyReads system.events).length ≤ 1) :
    Exclusive store offers results system.shared.1 := by
  have hstored : ∀ i : Nat, results[i]? = some (.ok none) → stage i = .stored := by
    intro i hnone
    have hi : i < offers.length := by
      rw [← sim.length, finished, List.length_map]
      exact (List.getElem?_eq_some_iff.mp hnone).1
    rcases sim.stage_of_result finished hi with ⟨hstage, _⟩ | ⟨value, _, hsome⟩
    · exact hstage
    · rw [hnone] at hsome
      cases hsome
  have hwon : ∀ i : Nat, results[i]? = some (.ok none) →
      ∃ winner, Won times offers stage entry winner := by
    intro i hnone
    refine ordered.after (fun hreads => ?_) hlength
    exact ((ordered.before hreads).2 i (by rw [hstored i hnone]; rfl)).2 (hstored i hnone)
  have hwinner : ∀ winner, Won times offers stage entry winner →
      ∀ i : Nat, results[i]? = some (.ok none) → i = winner := by
    intro winner won i hnone
    by_contra hne
    have hhits := won.others i hne
    rw [hstored i hnone] at hhits
    exact hhits
  refine ⟨fun i j hi hj => ?_, fun i offer hi hoffer => ?_⟩
  · obtain ⟨winner, won⟩ := hwon i hi
    rw [hwinner winner won i hi, hwinner winner won j hj]
  · obtain ⟨winner, won⟩ := hwon i hi
    obtain ⟨other, expiry, hother, hentry, _⟩ := won.entry_eq
    rw [← hwinner winner won i hi, hoffer] at hother
    cases hother
    exact ⟨expiry, (sim.settled (hstored i hi) rfl).entry_eq.trans hentry⟩

/--
Calls on one key which has no live entry, in any order of turns: at most one returns
none, and its value is there at the end, exactly when only one call reads before the
first store.
-/
theorem exclusive_iff (store : EntryStore client space key) (offers : List Offer)
    (shared : σ × Writer) (turns : List (Nat × Nat)) (begins : Begins store entry shared)
    (expired : ∀ value expiry, entry = some (value, expiry) →
      ∀ turn ∈ turns, expiry ≤ turn.2)
    (lasting : ∀ offer ∈ offers, ∀ turn ∈ turns, ∀ later ∈ turns,
      later.2 < expiryTime offer.ttl turn.2)
    (finished : ((offering space key offers shared).run client turns).calls =
      results.map .done) :
    Exclusive store offers results
        ((offering space key offers shared).run client turns).shared.1 ↔
      (earlyReads ((offering space key offers shared).run client turns).events).length ≤ 1 := by
  have hnotLive : NotLive (fun now => ∃ turn ∈ turns, turn.2 = now) entry := by
    rintro value expiry h now ⟨turn, hturn, rfl⟩
    exact Nat.not_lt.mpr (expired value expiry h turn hturn)
  have hlasting : ∀ offer ∈ offers, ∀ now later, (∃ turn ∈ turns, turn.2 = now) →
      (∃ turn ∈ turns, turn.2 = later) → later < expiryTime offer.ttl now := by
    rintro offer hoffer now later ⟨turn, hturn, rfl⟩ ⟨other, hother, rfl⟩
    exact lasting offer hoffer turn hturn other hother
  obtain ⟨stage, last, sim, ordered⟩ := exists_ordered hlasting turns
    (fun turn hturn => ⟨turn, hturn, rfl⟩) _ (simulates_offering begins)
    (ordered_offering offers hnotLive)
  exact ⟨sim.length_earlyReads_le ordered finished, sim.exclusive ordered finished⟩

def twoOffers : List Offer := [⟨[1], .zero⟩, ⟨[2], .zero⟩]

def inSuccession : List (Nat × Nat) := List.replicate 30 (0, 100) ++ List.replicate 30 (1, 200)

def alternating : List (Nat × Nat) := (List.replicate 25 [(0, 100), (1, 100)]).flatten

theorem begins_fresh : Begins (embeddedEntries "cache" [7]) none ({}, {}) :=
  begins_embedded (.inr ⟨⟨by decide +kernel, by decide +kernel, by decide +kernel⟩, rfl,
    List.not_mem_nil⟩)

/-- The second call finds what the first one has stored. -/
theorem exclusive_in_succession :
    ((offering "cache" [7] twoOffers ({}, {})).run embedded inSuccession).calls =
        [.ok none, .ok (some [1])].map .done ∧
      Exclusive (embeddedEntries "cache" [7]) twoOffers [.ok none, .ok (some [1])]
        ((offering "cache" [7] twoOffers ({}, {})).run embedded inSuccession).shared.1 := by
  have finished : ((offering "cache" [7] twoOffers ({}, {})).run embedded inSuccession).calls =
      [.ok none, .ok (some [1])].map .done := System.calls_of_results (by decide +kernel)
  refine ⟨finished, ?_⟩
  exact (exclusive_iff (embeddedEntries "cache" [7]) twoOffers ({}, {}) inSuccession begins_fresh
    nofun (by decide +kernel) finished).mpr (by decide +kernel)

/-- Two calls which both read before either stores both return none. -/
theorem not_exclusive_alternating :
    Begins (embeddedEntries "cache" [7]) none ({}, {}) ∧
      (∀ offer ∈ twoOffers, ∀ turn ∈ alternating, ∀ later ∈ alternating,
        later.2 < expiryTime offer.ttl turn.2) ∧
      ((offering "cache" [7] twoOffers ({}, {})).run embedded alternating).calls =
        [.ok none, .ok none].map .done ∧
      ¬Exclusive (embeddedEntries "cache" [7]) twoOffers [.ok none, .ok none]
        ((offering "cache" [7] twoOffers ({}, {})).run embedded alternating).shared.1 := by
  refine ⟨begins_fresh, by decide +kernel, System.calls_of_results (by decide +kernel),
    fun exclusive => ?_⟩
  have hsame := exclusive.1 0 1 rfl rfl
  contradiction

end TupleStore.Cache
