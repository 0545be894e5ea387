import Mathlib.Algebra.BigOperators.Pi
import Mathlib.Algebra.GroupWithZero.Nat
import TupleStore.Proofs.EntryRuns
import TupleStore.Proofs.SharedSearch
import TupleStore.Proofs.Transcripts

/-!
# Counts of the uses of a cache

What the collector has counted for a cache while calls take turns: at any moment gets are hits,
misses or pending, and when no call is under way the counts are the numbers of gets, puts and
deletions which the calls have completed since the last reset.
-/

namespace TupleStore.Cache

open Entries

variable {σ α β : Type} {client : Client σ} {space : String}

/-! ## What exchanges add -/

inductive Measure where
  | puts
  | gets
  | hits
  | misses
  | deletes
  /-- Delete requests which succeed. -/
  | removals
  deriving DecidableEq, Repr

def Occurrence.adds : Occurrence → Measure → Nat
  | .put, .puts | .get, .gets | .hit, .hits | .miss, .misses => 1
  | .delete count, .deletes => count
  | _, _ => 0

def adds (space : String) : Exchange Op.Reply → Measure → Nat
  | ⟨.count cache occurrence, _⟩ => if cache = space then occurrence.adds else 0
  | ⟨.request (.delete ..), .ok _⟩ => Pi.single .removals 1
  | _ => 0

def tally (space : String) (transcript : List (Exchange Op.Reply)) : Measure → Nat :=
  (transcript.map (adds space)).sum

@[simp] theorem tally_nil (space : String) : tally space [] = 0 := rfl

@[simp] theorem tally_cons (space : String) (exchange : Exchange Op.Reply)
    (transcript : List (Exchange Op.Reply)) :
    tally space (exchange :: transcript) = adds space exchange + tally space transcript :=
  List.sum_cons

@[simp] theorem adds_count_self (space : String) (occurrence : Occurrence)
    (reply : (Op.count space occurrence).Reply) :
    adds space ⟨.count space occurrence, reply⟩ = occurrence.adds := if_pos rfl

theorem tally_append (space : String) (before after : List (Exchange Op.Reply)) :
    tally space (before ++ after) = tally space before + tally space after := by
  rw [tally, List.map_append, List.sum_append]
  rfl

/-! ## Counters -/

structure Counters.Show (counters : Counters) (numbers : Measure → Nat) : Prop where
  puts : counters.puts = numbers .puts
  gets : counters.gets = numbers .gets
  hits : counters.hits = numbers .hits
  misses : counters.misses = numbers .misses
  deletes : counters.deletes = numbers .deletes

theorem Counters.Show.count {counters : Counters} {numbers : Measure → Nat}
    (h : counters.Show numbers) (occurrence : Occurrence) :
    (counters.count occurrence).Show (numbers + occurrence.adds) := by
  obtain ⟨puts, gets, hits, misses, deletes⟩ := h
  cases occurrence <;>
    exact ⟨by simp [Counters.count, Occurrence.adds, puts],
      by simp [Counters.count, Occurrence.adds, gets],
      by simp [Counters.count, Occurrence.adds, hits],
      by simp [Counters.count, Occurrence.adds, misses],
      by simp [Counters.count, Occurrence.adds, deletes]⟩

structure Collector.Shows (collector : Collector) (space : String) (numbers : Measure → Nat) :
    Prop where
  enabled : collector.isEnabled = true
  counters (now : Nat) : (collector.counters space now).Show numbers

namespace Collector

theorem counters_record {collector : Collector} (enabled : collector.isEnabled = true)
    (cache other : String) (now later : Nat) (change : Counters → Counters) :
    (collector.record cache now change).counters other later =
      if cache = other then change (collector.counters cache now)
      else collector.counters other later := by
  cases collector with
  | disabled => contradiction
  | enabled counters =>
      rw [record, Collector.counters, List.find?_cons]
      by_cases h : cache = other
      · rw [if_pos h, beq_iff_eq.mpr h]
        rfl
      · rw [if_neg h, beq_eq_false_iff_ne.mpr h]
        have hfind : (counters.filter fun entry => entry.1 != cache).find?
            (fun entry => entry.1 == other) = counters.find? fun entry => entry.1 == other := by
          rw [List.find?_filter]
          congr 1
          funext entry
          by_cases hentry : entry.1 = other
          · simp [hentry, Ne.symm h]
          · simp [hentry]
        dsimp only
        rw [hfind]
        rfl

theorem isEnabled_record (collector : Collector) (cache : String) (now : Nat)
    (change : Counters → Counters) :
    (collector.record cache now change).isEnabled = collector.isEnabled := by
  cases collector <;> rfl

theorem Shows.count {collector : Collector} {numbers : Measure → Nat}
    (shows : collector.Shows space numbers) (cache : String) (now : Nat)
    (occurrence : Occurrence) :
    (collector.count cache now occurrence).Shows space
      (numbers + if cache = space then occurrence.adds else 0) := by
  refine ⟨(isEnabled_record ..).trans shows.enabled, fun later => ?_⟩
  rw [Collector.count, counters_record shows.enabled]
  by_cases h : cache = space
  · subst h
    rw [if_pos rfl, if_pos rfl]
    exact (shows.counters now).count occurrence
  · rw [if_neg h, if_neg h, add_zero]
    exact shows.counters later

theorem Shows.reset {collector : Collector} (enabled : collector.isEnabled = true) (now : Nat) :
    (collector.reset space now).Shows space 0 := by
  refine ⟨(isEnabled_record ..).trans enabled, fun later => ?_⟩
  rw [Collector.reset, counters_record enabled, if_pos rfl]
  exact ⟨rfl, rfl, rfl, rfl, rfl⟩

end Collector

theorem adds_request (asked : Request) (reply : asked.Reply) {measure : Measure}
    (h : measure ≠ .removals) : adds space ⟨.request asked, reply⟩ measure = 0 := by
  cases asked with
  | delete =>
      cases reply with
      | ok rows => exact Pi.single_eq_of_ne h 1
      | error error => rfl
  | space | refreshMetadata | select | insert | replace | update | upsert | truncate | call
  | eval => rfl

theorem Collector.Shows.handle {shared : σ × Writer} {numbers : Measure → Nat}
    (shows : shared.2.collector.Shows space numbers) (now : Nat) (op : Op) :
    (handle client now op shared).2.2.collector.Shows space
      (numbers + adds space ⟨op, (handle client now op shared).1⟩) := by
  cases op with
  | count cache occurrence => exact shows.count cache now occurrence
  | request asked =>
      -- a deletion shows only when it is counted
      have hsame {measure : Measure} (h : measure ≠ .removals) :
          numbers measure = (numbers + adds space ⟨.request asked,
            (Cache.handle client now (.request asked) shared).1⟩) measure := by
        rw [Pi.add_apply, adds_request asked _ h, add_zero]
      refine ⟨shows.enabled, fun later => ?_⟩
      obtain ⟨puts, gets, hits, misses, deletes⟩ := shows.counters later
      exact ⟨puts.trans (hsame nofun), gets.trans (hsame nofun), hits.trans (hsame nofun),
        misses.trans (hsame nofun), deletes.trans (hsame nofun)⟩
  | now | isKnown | lock | unlock | remember => exact shows

/-! ## What programs add -/

/-- What a program has added on its way, and what it has added in the end, whatever it gets. -/
structure Ensures (space : String) (program : Action α) (during : (Measure → Nat) → Prop)
    (ending : Except Failure α → (Measure → Nat) → Prop) : Prop where
  during (transcript : List (Exchange Op.Reply)) (rest : Action α)
    (h : Program.Leads program transcript rest) : during (tally space transcript)
  ending (transcript : List (Exchange Op.Reply)) (result : Except Failure α)
    (h : Program.Leads program transcript (.done result)) : ending result (tally space transcript)

namespace Ensures

variable {during : (Measure → Nat) → Prop} {program : Action α}

theorem done {result : Except Failure α} {ending : Except Failure α → (Measure → Nat) → Prop}
    (hduring : during 0) (hending : ending result 0) :
    Ensures space (.done result) during ending := by
  constructor
  · intro transcript rest h
    rw [h.of_done.1]
    exact hduring
  · intro transcript other h
    obtain ⟨rfl, hsame⟩ := h.of_done
    cases hsame
    exact hending

theorem bind {second : α → Action β} {middle : Except Failure α → (Measure → Nat) → Prop}
    {ending : Except Failure β → (Measure → Nat) → Prop}
    (first : Ensures space program during middle)
    (rest : ∀ result before, middle (.ok result) before →
      Ensures space (second result) (fun after => during (before + after))
        fun last after => ending last (before + after))
    (error : ∀ error before, middle (.error error) before → ending (.error error) before) :
    Ensures space (program >>= second) during ending := by
  constructor
  · intro transcript last h
    rcases h.bind_cases with ⟨stop, hfirst, -⟩ | ⟨result, before, after, rfl, hfirst, hsecond⟩
    · exact first.during transcript stop hfirst
    · rw [tally_append]
      exact (rest result _ (first.ending before _ hfirst)).during after last hsecond
  · intro transcript last h
    rcases h.bind_done with ⟨failure, hfirst, rfl⟩ | ⟨result, before, after, rfl, hfirst, hsecond⟩
    · exact error failure _ (first.ending transcript _ hfirst)
    · rw [tally_append]
      exact (rest result _ (first.ending before _ hfirst)).ending after last hsecond

theorem mono {weaker : (Measure → Nat) → Prop}
    {ending weakerEnding : Except Failure α → (Measure → Nat) → Prop}
    (h : Ensures space program during ending) (hduring : ∀ numbers, during numbers → weaker numbers)
    (hending : ∀ result numbers, ending result numbers → weakerEnding result numbers) :
    Ensures space program weaker weakerEnding :=
  ⟨fun transcript rest hleads => hduring _ (h.during transcript rest hleads),
    fun transcript result hleads => hending _ _ (h.ending transcript result hleads)⟩

theorem strengthen {ending : Except Failure α → (Measure → Nat) → Prop}
    (h : Ensures space program during ending) :
    Ensures space program during fun result numbers => during numbers ∧ ending result numbers :=
  ⟨h.during, fun transcript result hleads =>
    ⟨h.during transcript _ hleads, h.ending transcript result hleads⟩⟩

theorem step {op : Op} {next : op.Reply → Action α}
    {ending : Except Failure α → (Measure → Nat) → Prop} (hduring : during 0)
    (rest : ∀ reply, Ensures space (next reply)
      (fun after => during (adds space ⟨op, reply⟩ + after))
      fun result after => ending result (adds space ⟨op, reply⟩ + after)) :
    Ensures space (.step op next) during ending := by
  constructor
  · intro transcript last h
    cases h with
    | nil => exact hduring
    | step h =>
        rw [tally_cons]
        exact (rest _).during _ last h
  · intro transcript result h
    cases h with
    | step h =>
        rw [tally_cons]
        exact (rest _).ending _ result h

end Ensures

def Op.IsUncounted (op : Op) : Prop := ∀ space reply, adds space ⟨op, reply⟩ = 0

theorem Only.leads {allowed : Op → Prop} {program rest : Action α}
    {transcript : List (Exchange Op.Reply)} (only : Only allowed program)
    (h : Program.Leads program transcript rest) : ∀ exchange ∈ transcript, allowed exchange.1 := by
  induction h with
  | nil => exact List.forall_mem_nil _
  | step _ ih =>
      cases only with
      | step hop hrest => exact List.forall_mem_cons.mpr ⟨hop, ih (hrest _)⟩

theorem Ensures.of_only {program : Action α} (only : Only Op.IsUncounted program) :
    Ensures space program (· = 0) fun _ numbers => numbers = 0 := by
  have hzero {rest : Action α} {transcript : List (Exchange Op.Reply)}
      (h : Program.Leads program transcript rest) : tally space transcript = 0 := by
    refine List.sum_eq_zero fun numbers hnumbers => ?_
    obtain ⟨⟨op, reply⟩, hexchange, rfl⟩ := List.mem_map.mp hnumbers
    exact only.leads h _ hexchange space reply
  exact ⟨fun _ _ h => hzero h, fun _ _ h => hzero h⟩

theorem Ensures.after_only {program : Action α} {second : α → Action β}
    {during : (Measure → Nat) → Prop} {ending : Except Failure β → (Measure → Nat) → Prop}
    (only : Only Op.IsUncounted program) (hduring : during 0)
    (rest : ∀ result, Ensures space (second result) during ending)
    (error : ∀ error, ending (.error error) 0) :
    Ensures space (program >>= second) during ending := by
  refine ((of_only only).mono (fun numbers h => h ▸ hduring) fun _ _ h => h).bind ?_ ?_
  · rintro result before rfl
    simp only [zero_add]
    exact rest result
  · rintro failure before rfl
    exact error failure

/-! ## Entries -/

theorem Op.IsSearch.isUncounted {op : Op} (h : op.IsSearch) : op.IsUncounted := by
  intro space reply
  cases op with
  | request asked =>
      cases asked with
      | space | refreshMetadata | call | eval => rfl
      | select | insert | replace | update | upsert | delete | truncate => exact h.elim
  | isKnown | lock | unlock | remember => rfl
  | now | count => exact h.elim

theorem ensureSpace_uncounted (space : String) : Only Op.IsUncounted (ensureSpace space) :=
  (ensureSpace_only space).mono fun _ => Op.IsSearch.isUncounted

structure NoGets (numbers : Measure → Nat) : Prop where
  gets : numbers .gets = 0
  hits : numbers .hits = 0
  misses : numbers .misses = 0

structure CountsPuts (puts : Nat) (numbers : Measure → Nat) : Prop extends NoGets numbers where
  puts : numbers .puts = puts
  deletes : numbers .deletes = numbers .removals

/-- A get is counted once, before it is counted as a hit or as a miss. -/
structure Balanced (numbers : Measure → Nat) : Prop where
  resolved : numbers .hits + numbers .misses ≤ numbers .gets
  once : numbers .gets ≤ 1

def isHit : Except Failure (Option Bytes) → Bool
  | .ok (some _) => true
  | _ => false

def isMiss : Except Failure (Option Bytes) → Bool
  | .ok none => true
  | _ => false

/-- What is counted in the end is how a get ends. -/
structure CountsGet (result : Except Failure (Option Bytes)) (numbers : Measure → Nat) :
    Prop where
  puts : numbers .puts = 0
  gets : numbers .gets = result.isOk.toNat
  hits : numbers .hits = (isHit result).toNat
  misses : numbers .misses = (isMiss result).toNat
  deletes : numbers .deletes = numbers .removals

theorem noGets_zero : NoGets 0 := ⟨rfl, rfl, rfl⟩

theorem countsPuts_zero : CountsPuts 0 0 := ⟨noGets_zero, rfl, rfl⟩

theorem Balanced.add {before numbers : Measure → Nat} (h : Balanced before)
    (noGets : NoGets numbers) : Balanced (before + numbers) := by
  obtain ⟨gets, hits, misses⟩ := noGets
  constructor
  · simpa [gets, hits, misses] using h.resolved
  · simpa [gets] using h.once

theorem balanced_zero : Balanced 0 := ⟨Nat.le_refl 0, Nat.zero_le 1⟩

theorem NoGets.balanced {numbers : Measure → Nat} (h : NoGets numbers) : Balanced numbers :=
  zero_add numbers ▸ balanced_zero.add h

theorem ensures_delete (space : String) (key : Bytes) :
    Ensures space (delete space key) NoGets fun _ => CountsPuts 0 := by
  refine .step noGets_zero fun reply => ?_
  cases reply with
  | error failure => exact .done ⟨rfl, rfl, rfl⟩ ⟨⟨rfl, rfl, rfl⟩, rfl, rfl⟩
  | ok rows =>
      have hnumbers (counted : (Op.count space (.delete 1)).Reply) :
          adds space ⟨.request (.delete space [.bin key]), .ok rows⟩ +
              (adds space ⟨.count space (.delete 1), counted⟩ + 0) =
            Pi.single .removals 1 + Occurrence.adds (.delete 1) := by
        rw [adds_count_self, add_zero]
        rfl
      refine .step ⟨rfl, rfl, rfl⟩ fun counted => .done ?_ ?_
      · rw [hnumbers]
        exact ⟨rfl, rfl, rfl⟩
      · rw [hnumbers]
        exact ⟨⟨rfl, rfl, rfl⟩, rfl, rfl⟩

theorem ensures_remove (space : String) (key : Bytes) :
    Ensures space (Entries.remove space key) NoGets fun _ => CountsPuts 0 :=
  .after_only (ensureSpace_uncounted space) noGets_zero (fun _ => ensures_delete space key)
    fun _ => countsPuts_zero

theorem ensures_clear (space : String) :
    Ensures space (Entries.clear space) NoGets fun _ => CountsPuts 0 :=
  .after_only (ensureSpace_uncounted space) noGets_zero
    (fun _ => .step noGets_zero fun _ => .done ⟨rfl, rfl, rfl⟩ ⟨⟨rfl, rfl, rfl⟩, rfl, rfl⟩)
    fun _ => countsPuts_zero

theorem ensures_valueOf (space : String) (key : Bytes) (tuples : List Tuple) :
    Ensures space (valueOf space key tuples) NoGets fun _ => CountsPuts 0 := by
  cases tuples with
  | nil => exact .done noGets_zero countsPuts_zero
  | cons tuple tuples =>
      refine .after_only (.done _) noGets_zero (fun (value, expiry) => ?_) fun _ => countsPuts_zero
      refine .after_only (.perform fun _ _ => rfl) noGets_zero (fun time => ?_)
        fun _ => countsPuts_zero
      split
      next => exact .done noGets_zero countsPuts_zero
      next =>
        refine (ensures_delete space key).bind (fun _ before h => ?_) fun _ _ h => h
        exact .done h.toNoGets h

theorem ensures_countGet (space : String) (value : Option Bytes) :
    Ensures space (countGet space value) Balanced fun result => CountsGet result := by
  refine .step balanced_zero fun _ => .step ?_ fun _ => .done ?_ ?_
  · constructor <;> simp [Occurrence.adds]
  · cases value <;> constructor <;> simp [Occurrence.adds]
  · cases value <;> constructor <;>
      simp [Occurrence.adds, isHit, isMiss, Except.isOk, Except.toBool]

theorem CountsGet.add {before numbers : Measure → Nat} {result : Except Failure (Option Bytes)}
    (first : CountsPuts 0 before) (h : CountsGet result numbers) :
    CountsGet result (before + numbers) := by
  obtain ⟨⟨gets, hits, misses⟩, puts, deletes⟩ := first
  exact ⟨by simp [puts, h.puts], by simp [gets, h.gets], by simp [hits, h.hits],
    by simp [misses, h.misses], by simp [deletes, h.deletes]⟩

theorem CountsPuts.countsGet {numbers : Measure → Nat} (h : CountsPuts 0 numbers)
    (failure : Failure) : CountsGet (.error failure) numbers :=
  ⟨h.puts, h.gets, h.hits, h.misses, h.deletes⟩

theorem ensures_get (space : String) (key : Bytes) :
    Ensures space (Entries.get space key) Balanced CountsGet := by
  rw [get_eq]
  refine .after_only (ensureSpace_uncounted space) balanced_zero (fun _ => ?_)
    countsPuts_zero.countsGet
  refine .after_only (.request fun _ _ => rfl) balanced_zero (fun tuples => ?_)
    countsPuts_zero.countsGet
  have hvalue := (ensures_valueOf space key tuples).mono (fun _ => NoGets.balanced) fun _ _ h => h
  refine hvalue.bind (fun value before h => ?_) fun failure before h => h.countsGet failure
  exact (ensures_countGet space value).mono (fun numbers hnumbers => add_comm numbers before ▸
    hnumbers.add h.toNoGets) fun result numbers => .add h

theorem ensures_put (space : String) (key value : Bytes) (ttl : Duration) :
    Ensures space (Entries.put space key value ttl) NoGets fun result =>
      CountsPuts result.isOk.toNat := by
  refine .after_only (ensureSpace_uncounted space) noGets_zero (fun _ => ?_)
    fun _ => countsPuts_zero
  refine .after_only (.perform fun _ _ => rfl) noGets_zero (fun time => ?_)
    fun _ => countsPuts_zero
  refine .after_only (.request fun _ _ => rfl) noGets_zero (fun rows => ?_)
    fun _ => countsPuts_zero
  refine .step noGets_zero fun _ => .done ?_ ?_
  · constructor <;> simp [Occurrence.adds]
  · exact ⟨⟨by simp [Occurrence.adds], by simp [Occurrence.adds], by simp [Occurrence.adds]⟩,
      by simp [Occurrence.adds, Except.isOk, Except.toBool], by simp [Occurrence.adds]⟩

/-! ## Uses -/

namespace Use

def got? (space : String) (use : Use) (transcript : List (Exchange Op.Reply)) :
    Option (Except Failure (Option Bytes)) :=
  match use with
  | .get key | .putIfAbsent key .. => (Entries.get space key).result? transcript
  | .put .. | .remove _ | .clear => none

/-- Whether the call has completed a put: a call which stores a value ends without one. -/
def hasPut (space : String) (use : Use) (transcript : List (Exchange Op.Reply)) : Bool :=
  match use with
  | .put .. | .putIfAbsent .. => ((use.program space).result? transcript).any isMiss
  | .get _ | .remove _ | .clear => false

def deletions (transcript : List (Exchange Op.Reply)) : Nat :=
  transcript.countP fun
    | ⟨.request (.delete ..), .ok _⟩ => true
    | _ => false

def hasCounted (space : String) (occurrence : Occurrence)
    (transcript : List (Exchange Op.Reply)) : Bool :=
  transcript.any fun exchange => exchange.1 = .count space occurrence

def isPending (space : String) (transcript : List (Exchange Op.Reply)) : Bool :=
  hasCounted space .get transcript &&
    !(hasCounted space .hit transcript || hasCounted space .miss transcript)

structure Counted (space : String) (use : Use) (transcript : List (Exchange Op.Reply)) :
    Prop where
  puts : tally space transcript .puts = (use.hasPut space transcript).toNat
  gets : tally space transcript .gets =
    ((use.got? space transcript).any Except.isOk).toNat
  hits : tally space transcript .hits = ((use.got? space transcript).any isHit).toNat
  misses : tally space transcript .misses = ((use.got? space transcript).any isMiss).toNat
  deletes : tally space transcript .deletes = tally space transcript .removals

variable {use : Use} {transcript : List (Exchange Op.Reply)}

theorem Counted.of_get {result : Except Failure (Option Bytes)}
    (counts : CountsGet result (tally space transcript))
    (hgot : use.got? space transcript = some result) (hput : use.hasPut space transcript = false) :
    Counted space use transcript :=
  ⟨hput ▸ counts.puts, hgot ▸ counts.gets, hgot ▸ counts.hits, hgot ▸ counts.misses,
    counts.deletes⟩

theorem Counted.of_no_get {puts : Nat} (counts : CountsPuts puts (tally space transcript))
    (hgot : use.got? space transcript = none)
    (hput : (use.hasPut space transcript).toNat = puts) : Counted space use transcript :=
  ⟨hput ▸ counts.puts, hgot ▸ counts.gets, hgot ▸ counts.hits, hgot ▸ counts.misses,
    counts.deletes⟩

theorem ensures_use {program : Action Unit}
    (h : Ensures space program NoGets fun _ => CountsPuts 0) :
    Ensures space (program >>= fun _ => pure (none : Option Bytes)) NoGets fun _ => CountsPuts 0 :=
  h.bind (fun _ _ counts => .done counts.toNoGets counts) fun _ _ counts => counts

theorem ensures_balanced (space : String) (use : Use) :
    Ensures space (use.program space) Balanced fun _ _ => True := by
  cases use with
  | get key => exact (ensures_get space key).mono (fun _ h => h) fun _ _ _ => trivial
  | put key value ttl =>
      have hput := (ensures_put space key value ttl).mono (fun _ => NoGets.balanced) fun _ _ h => h
      exact hput.bind (fun _ before h => .done h.toNoGets.balanced trivial) fun _ _ _ => trivial
  | remove key =>
      exact (ensures_use (ensures_remove space key)).mono (fun _ => NoGets.balanced)
        fun _ _ _ => trivial
  | clear =>
      exact (ensures_use (ensures_clear space)).mono (fun _ => NoGets.balanced)
        fun _ _ _ => trivial
  | putIfAbsent key value ttl =>
      refine (ensures_get space key).strengthen.bind (fun found before h => ?_) fun _ _ _ => trivial
      cases found with
      | some existing => exact .done h.1 trivial
      | none =>
          have hput := (ensures_put space key value ttl).mono (fun _ => h.1.add) fun _ _ h => h
          exact hput.strengthen.bind (fun _ numbers h => .done h.1 trivial) fun _ _ _ => trivial

theorem counted (use : Use) {result : Except Failure (Option Bytes)}
    (h : Program.Leads (use.program space) transcript (.done result)) :
    Counted space use transcript := by
  have hresult : (use.program space).result? transcript = some result := h.result?_eq
  cases use with
  | get key => exact .of_get ((ensures_get space key).ending _ _ h) hresult rfl
  | remove key =>
      exact .of_no_get ((ensures_use (ensures_remove space key)).ending _ _ h) rfl rfl
  | clear => exact .of_no_get ((ensures_use (ensures_clear space)).ending _ _ h) rfl rfl
  | put key value ttl =>
      have hput := ensures_put space key value ttl
      rcases h.bind_done with ⟨failure, hfirst, rfl⟩ | ⟨_, before, after, rfl, hfirst, hafter⟩
      · refine .of_no_get (hput.ending _ _ hfirst) rfl ?_
        rw [hasPut, hresult]
        rfl
      · obtain ⟨rfl, hdone⟩ := hafter.of_done
        cases hdone
        rw [List.append_nil] at hresult ⊢
        refine .of_no_get (hput.ending _ _ hfirst) rfl ?_
        rw [hasPut, hresult]
        rfl
  | putIfAbsent key value ttl =>
      have hget := ensures_get space key
      rcases h.bind_done with ⟨failure, hfirst, rfl⟩ | ⟨found, before, after, rfl, hfirst, hafter⟩
      · refine .of_get (hget.ending _ _ hfirst) hfirst.result?_eq ?_
        rw [hasPut, hresult]
        rfl
      · have hgot : got? space (.putIfAbsent key value ttl) (before ++ after) = some (.ok found) :=
          hfirst.result?_eq_some after
        have hcounts := hget.ending _ _ hfirst
        cases found with
        | some existing =>
            obtain ⟨rfl, hdone⟩ := hafter.of_done
            cases hdone
            rw [List.append_nil] at hresult hgot ⊢
            refine .of_get hcounts hgot ?_
            rw [hasPut, hresult]
            rfl
        | none =>
            have hput := ensures_put space key value ttl
            have hsecond : ∃ puts, CountsPuts puts (tally space after) ∧
                puts = (isMiss result).toNat := by
              rcases hafter.bind_done with ⟨failure, hstored, rfl⟩ |
                ⟨_, stored, last, rfl, hstored, hlast⟩
              · exact ⟨_, hput.ending _ _ hstored, rfl⟩
              · obtain ⟨rfl, hdone⟩ := hlast.of_done
                cases hdone
                rw [List.append_nil]
                exact ⟨_, hput.ending _ _ hstored, rfl⟩
            obtain ⟨_, ⟨⟨gets, hits, misses⟩, puts, deletes⟩, rfl⟩ := hsecond
            constructor
            · rw [hasPut, hresult, tally_append, Pi.add_apply, hcounts.puts, puts, zero_add]
              rfl
            · rw [hgot, tally_append, Pi.add_apply, hcounts.gets, gets]
              rfl
            · rw [hgot, tally_append, Pi.add_apply, hcounts.hits, hits]
              rfl
            · rw [hgot, tally_append, Pi.add_apply, hcounts.misses, misses]
              rfl
            · rw [tally_append, Pi.add_apply, Pi.add_apply, hcounts.deletes, deletes]

theorem removals_eq (transcript : List (Exchange Op.Reply)) :
    tally space transcript .removals = deletions transcript := by
  induction transcript with
  | nil => rfl
  | cons exchange transcript ih =>
      have hexchange : adds space exchange .removals = deletions [exchange] := by
        obtain ⟨op, reply⟩ := exchange
        cases op with
        | count cache occurrence =>
            rw [adds]
            split
            next => cases occurrence <;> rfl
            next => rfl
        | request asked =>
            cases asked with
            | delete => cases reply <;> rfl
            | space | refreshMetadata | select | insert | replace | update | upsert | truncate
            | call | eval => rfl
        | now | isKnown | lock | unlock | remember => rfl
      rw [tally_cons, Pi.add_apply, ih, hexchange, deletions, deletions, deletions,
        ← List.countP_append]
      rfl

/-! ### Pending gets -/

theorem hasCounted_eq {occurrence : Occurrence} {measure : Measure} (hmeasure : measure ≠ .removals)
    (h : ∀ other : Occurrence, other = occurrence ↔ 0 < other.adds measure)
    (transcript : List (Exchange Op.Reply)) :
    hasCounted space occurrence transcript = decide (0 < tally space transcript measure) := by
  induction transcript with
  | nil => rfl
  | cons exchange transcript ih =>
      rw [hasCounted, List.any_cons, ← hasCounted, ih, tally_cons, Pi.add_apply,
        Bool.eq_iff_iff, Bool.or_eq_true, decide_eq_true_iff, decide_eq_true_iff,
        decide_eq_true_iff, Nat.add_pos_iff_pos_or_pos]
      refine or_congr_left ?_
      obtain ⟨op, reply⟩ := exchange
      cases op with
      | request asked =>
          rw [adds_request asked reply hmeasure]
          exact ⟨nofun, nofun⟩
      | count cache other =>
          rw [Op.count.injEq, h other, adds]
          by_cases hcache : cache = space
          · rw [if_pos hcache]
            exact and_iff_right hcache
          · rw [if_neg hcache]
            exact ⟨fun both => absurd both.1 hcache, nofun⟩
      | now | isKnown | lock | unlock | remember => exact ⟨nofun, nofun⟩

theorem gets_eq (h : Balanced (tally space transcript)) :
    tally space transcript .gets = tally space transcript .hits + tally space transcript .misses +
      (isPending space transcript).toNat := by
  obtain ⟨resolved, once⟩ := h
  have hget : hasCounted space .get transcript = decide (0 < tally space transcript .gets) :=
    hasCounted_eq (by decide) (fun other => by cases other <;> simp [Occurrence.adds]) _
  have hhit : hasCounted space .hit transcript = decide (0 < tally space transcript .hits) :=
    hasCounted_eq (by decide) (fun other => by cases other <;> simp [Occurrence.adds]) _
  have hmiss : hasCounted space .miss transcript = decide (0 < tally space transcript .misses) :=
    hasCounted_eq (by decide) (fun other => by cases other <;> simp [Occurrence.adds]) _
  rw [isPending, hget, hhit, hmiss]
  by_cases hresolved : 0 < tally space transcript .hits ∨ 0 < tally space transcript .misses
  · rw [← Bool.decide_or, decide_eq_true hresolved, Bool.not_true, Bool.and_false,
      Bool.toNat_false]
    omega
  · rw [not_or, Nat.not_lt, Nat.not_lt, Nat.le_zero, Nat.le_zero] at hresolved
    rw [hresolved.1, hresolved.2]
    rcases Nat.le_one_iff_eq_zero_or_eq_one.mp once with hzero | hone
    · rw [hzero]
      rfl
    · rw [hone]
      rfl

end Use

/-! ## Bounds -/

def Op.CountsOne (op : Op) : Prop := ∀ cache count, op = .count cache (.delete count) → count = 1

theorem Op.CountsOne.adds_le {op : Op} (h : op.CountsOne) (reply : op.Reply) (measure : Measure) :
    adds space ⟨op, reply⟩ measure ≤ 1 := by
  cases op with
  | count cache occurrence =>
      rw [adds]
      split
      next =>
        cases occurrence with
        | delete count =>
            rw [h cache count rfl]
            cases measure <;> simp [Occurrence.adds]
        | put | get | hit | miss => cases measure <;> simp [Occurrence.adds]
      next => exact Nat.zero_le 1
  | request asked =>
      by_cases hmeasure : measure = .removals
      · cases asked with
        | delete =>
            cases reply with
            | ok rows => rw [hmeasure, adds, Pi.single_eq_same]
            | error error => exact Nat.zero_le 1
        | space | refreshMetadata | select | insert | replace | update | upsert | truncate | call
        | eval => exact Nat.zero_le 1
      · rw [adds_request asked reply hmeasure]
        exact Nat.zero_le 1
  | now | isKnown | lock | unlock | remember => exact Nat.zero_le 1

theorem tally_le {transcript : List (Exchange Op.Reply)}
    (h : ∀ exchange ∈ transcript, exchange.1.CountsOne) (measure : Measure) :
    tally space transcript measure ≤ transcript.length := by
  induction transcript with
  | nil => exact Nat.le_refl 0
  | cons exchange transcript ih =>
      obtain ⟨hexchange, htranscript⟩ := List.forall_mem_cons.mp h
      have hadds : adds space exchange measure ≤ 1 := hexchange.adds_le exchange.2 measure
      rw [tally_cons, Pi.add_apply, List.length_cons]
      exact (Nat.add_le_add hadds (ih htranscript)).trans (Nat.add_comm _ _).le

theorem ensureSpace_countsOne (space : String) : Only Op.CountsOne (ensureSpace space) := by
  refine (ensureSpace_only space).mono fun op hop => ?_
  rintro cache count rfl
  exact hop.elim

theorem delete_countsOne (space : String) (key : Bytes) :
    Only Op.CountsOne (Entries.delete space key) := by
  have hdelete : Only Op.CountsOne (request (.delete space [.bin key])) := .request nofun
  refine hdelete.bind fun _ => .perform fun cache count h => ?_
  cases h
  rfl

theorem valueOf_countsOne (space : String) (key : Bytes) (tuples : List Tuple) :
    Only Op.CountsOne (valueOf space key tuples) := by
  cases tuples with
  | nil => exact .done _
  | cons tuple tuples =>
      have hread : Only Op.CountsOne (Program.ofExcept (readEntry tuple) : Action (Bytes × Nat)) :=
        .done _
      have hnow : Only Op.CountsOne now := .perform nofun
      refine hread.bind fun entry => hnow.bind fun time => ?_
      split
      next => exact .done _
      next => exact (delete_countsOne space key).bind fun _ => .done _

theorem get_countsOne (space : String) (key : Bytes) :
    Only Op.CountsOne (Entries.get space key) := by
  have hselect : Only Op.CountsOne (request (.select space (.primaryKey [.bin key]))) :=
    .request nofun
  have hcount (occurrence : Occurrence) (h : ∀ count, occurrence ≠ .delete count) :
      Only Op.CountsOne (count space occurrence) := by
    refine .perform fun cache count hsame => ?_
    cases hsame
    exact absurd rfl (h count)
  rw [get_eq]
  refine (ensureSpace_countsOne space).bind fun _ => hselect.bind fun tuples =>
    (valueOf_countsOne space key tuples).bind fun value => (hcount .get nofun).bind fun _ => ?_
  cases value with
  | none => exact (hcount .miss nofun).bind fun _ => .done _
  | some value => exact (hcount .hit nofun).bind fun _ => .done _

theorem put_countsOne (space : String) (key value : Bytes) (ttl : Duration) :
    Only Op.CountsOne (Entries.put space key value ttl) := by
  have hnow : Only Op.CountsOne now := .perform nofun
  have hreplace (tuple : Tuple) : Only Op.CountsOne (request (.replace space tuple)) :=
    .request nofun
  have hcount : Only Op.CountsOne (count space .put) := .perform nofun
  exact (ensureSpace_countsOne space).bind fun _ => hnow.bind fun _ =>
    (hreplace _).bind fun _ => hcount

theorem Use.countsOne (space : String) (use : Use) : Only Op.CountsOne (use.program space) := by
  cases use with
  | get key => exact get_countsOne space key
  | put key value ttl => exact (put_countsOne space key value ttl).bind fun _ => .done _
  | putIfAbsent key value ttl =>
      refine (get_countsOne space key).bind fun found => ?_
      cases found with
      | some existing => exact .done _
      | none => exact (put_countsOne space key value ttl).bind fun _ => .done _
  | remove key =>
      have hremove : Only Op.CountsOne (Entries.remove space key) :=
        (ensureSpace_countsOne space).bind fun _ => delete_countsOne space key
      exact hremove.bind fun _ => .done _
  | clear =>
      have hclear : Only Op.CountsOne (Entries.clear space) :=
        (ensureSpace_countsOne space).bind fun _ => .request nofun
      exact hclear.bind fun _ => .done _

/-! ## Runs -/

/-- The calls begin and take turns; the counts are reset when no call is under way. -/
inductive UsageStep where
  | step (step : Session.Step Use)
  | reset (now : Nat)
  deriving DecidableEq, Repr

namespace Session

/-- The counts are reset, and the calls so far are put away. -/
def reset (session : Session σ Use (Option Bytes)) (space : String) (now : Nat) :
    Session σ Use (Option Bytes) :=
  let (state, writer) := session.system.shared
  start (state, { writer with collector := writer.collector.reset space now })

def account (client : Client σ) (space : String) (session : Session σ Use (Option Bytes)) :
    UsageStep → Session σ Use (Option Bytes)
  | .step step => session.advance client (Use.program space) step
  | .reset now => if session.isIdle then session.reset space now else session

structure Accounted (space : String) (session : Session σ Use (Option Bytes)) : Prop where
  coherent : session.Coherent (Use.program space)
  shows : session.system.shared.2.collector.Shows space
    (tally space (session.log.map Prod.snd))

theorem Accounted.account {session : Session σ Use (Option Bytes)}
    (h : session.Accounted space) (step : UsageStep) :
    (session.account client space step).Accounted space := by
  rcases step with (use | ⟨call, now⟩) | now
  case step.enter => exact ⟨h.coherent.enter use, h.shows⟩
  case step.turn =>
      refine ⟨h.coherent.turn call now, ?_⟩
      change ((session.turn client call now).system.shared.2.collector).Shows space
        (tally space ((session.turn client call now).log.map Prod.snd))
      rcases session.turn_cases call now with hsame | ⟨op, next, hcall, hfree, hturn⟩
      · rw [hsame]
        exact h.shows
      · rw [hturn, System.turn_of_step hcall hfree]
        dsimp only
        rw [List.map_append, tally_append, List.map_singleton, tally_cons, tally_nil, add_zero]
        exact h.shows.handle now op
  case reset =>
      rw [Session.account]
      split
      next => exact ⟨coherent_start _, .reset h.shows.enabled now⟩
      next => exact h

def usage (client : Client σ) (space : String) (shared : σ × Writer) (steps : List UsageStep) :
    Session σ Use (Option Bytes) :=
  steps.foldl (account client space) (start shared)

theorem accounted_usage {shared : σ × Writer} (fresh : shared.2.collector.Shows space 0)
    (steps : List UsageStep) : (usage client space shared steps).Accounted space := by
  have hrun {session : Session σ Use (Option Bytes)} (h : session.Accounted space) :
      (steps.foldl (account client space) session).Accounted space := by
    induction steps generalizing session with
    | nil => exact h
    | cons step steps ih => exact ih (h.account step)
  exact hrun ⟨coherent_start shared, fresh⟩

theorem length_log_account (session : Session σ Use (Option Bytes)) (step : UsageStep) :
    (session.account client space step).log.length ≤ session.log.length + 1 := by
  rcases step with (use | ⟨call, now⟩) | now
  case step.enter => exact Nat.le_succ _
  case step.turn =>
      change (session.turn client call now).log.length ≤ _
      rcases session.turn_cases call now with hsame | ⟨op, next, -, -, hturn⟩
      · rw [hsame]
        exact Nat.le_succ _
      · rw [hturn, List.length_append]
        exact Nat.le_refl _
  case reset =>
      rw [Session.account]
      split
      next => exact Nat.zero_le _
      next => exact Nat.le_succ _

theorem length_log_usage (shared : σ × Writer) (steps : List UsageStep) :
    (usage client space shared steps).log.length ≤ steps.length := by
  have hrun (session : Session σ Use (Option Bytes)) :
      (steps.foldl (account client space) session).log.length ≤
        session.log.length + steps.length := by
    induction steps generalizing session with
    | nil => exact Nat.le_refl _
    | cons step steps ih =>
        have hstep : (session.account client space step).log.length ≤ session.log.length + 1 :=
          length_log_account session step
        have hsteps := ih (session.account client space step)
        rw [List.foldl_cons, List.length_cons]
        omega
  exact (hrun (start shared)).trans (Nat.zero_add _).le

/-- No measure of what is logged exceeds the number of logged exchanges. -/
theorem tally_log_le {session : Session σ Use (Option Bytes)}
    (coherent : session.Coherent (Use.program space)) (measure : Measure) :
    tally space (session.log.map Prod.snd) measure ≤ session.log.length := by
  refine (tally_le (fun exchange hexchange => ?_) measure).trans (List.length_map _).le
  obtain ⟨⟨call, exchange⟩, hentry, rfl⟩ := List.mem_map.mp hexchange
  have hlt : call < session.begun.length := coherent.logged _ hentry
  have hcalls : call < session.system.calls.length := coherent.length_eq ▸ hlt
  have hleads := coherent.leads call _ _ (List.getElem?_eq_getElem hlt)
    (List.getElem?_eq_getElem hcalls)
  refine (Use.countsOne space _).leads hleads exchange ?_
  exact List.mem_map.mpr ⟨_, List.mem_filter.mpr ⟨hentry, decide_eq_true rfl⟩, rfl⟩

theorem sum_transcripts (space : String) (calls : Nat) {log : List (Nat × Exchange Op.Reply)}
    (h : ∀ entry ∈ log, entry.1 < calls) :
    ∑ call ∈ Finset.range calls,
        tally space ((log.filter fun entry => entry.1 = call).map Prod.snd) =
      tally space (log.map Prod.snd) := by
  induction log with
  | nil => exact Finset.sum_const_zero
  | cons entry log ih =>
      obtain ⟨hentry, hlog⟩ := List.forall_mem_cons.mp h
      have hsplit (call : Nat) :
          tally space (((entry :: log).filter fun entry => entry.1 = call).map Prod.snd) =
            (if entry.1 = call then adds space entry.2 else 0) +
              tally space ((log.filter fun entry => entry.1 = call).map Prod.snd) := by
        rw [List.filter_cons]
        by_cases hcall : entry.1 = call
        · rw [if_pos hcall, if_pos (decide_eq_true hcall), List.map_cons, tally_cons]
        · rw [if_neg hcall, if_neg (fun h => hcall (of_decide_eq_true h)), zero_add]
      rw [Finset.sum_congr rfl fun call _ => hsplit call, Finset.sum_add_distrib,
        Finset.sum_ite_eq, if_pos (Finset.mem_range.mpr hentry), ih hlog, List.map_cons, tally_cons]

theorem sum_records {session : Session σ Use (Option Bytes)}
    (coherent : session.Coherent (Use.program space)) :
    (session.records.map fun record => tally space record.2).sum =
      tally space (session.log.map Prod.snd) := by
  have hcalls : session.records.map (fun record => tally space record.2) =
      (List.range session.begun.length).map fun call => tally space (session.transcript call) := by
    rw [List.range_eq_range', ← List.zipIdx_map_snd, List.map_map, records, List.map_map]
    rfl
  rw [hcalls]
  exact sum_transcripts space _ coherent.logged

end Session

/-! ## Numbers of calls -/

theorem sum_toNat {items : List α} {f : α → Nat} {p : α → Bool}
    (h : ∀ item ∈ items, f item = (p item).toNat) : (items.map f).sum = items.countP p := by
  induction items with
  | nil => rfl
  | cons item items ih =>
      obtain ⟨hitem, hitems⟩ := List.forall_mem_cons.mp h
      rw [List.map_cons, List.sum_cons, ih hitems, hitem, List.countP_cons, Nat.add_comm]
      cases p item <;> rfl

theorem sum_measure (items : List (α × List (Exchange Op.Reply))) (measure : Measure) :
    (items.map fun item => tally space item.2).sum measure =
      (items.map fun item => tally space item.2 measure).sum := by
  rw [Pi.list_sum_apply, List.map_map]
  rfl

/--
In every snapshot the gets are hits, misses or pending, and the pending ones are those which
have been counted, but not as a hit or as a miss.  Where no call is under way the counts are
the numbers of gets, puts and deletions which the calls since the last reset have completed.
No count exceeds the number of steps, so that in less than 2^64 steps counters of 64 bits
count the same.
-/
theorem counters_usage (client : Client σ) (space : String) (shared : σ × Writer)
    (fresh : shared.2.collector.Shows space 0) (steps : List UsageStep) (now : Nat) :
    let session := Session.usage client space shared steps
    let counters := session.system.shared.2.collector.counters space now
    counters.hits + counters.misses + counters.pending = counters.gets ∧
      counters.pending = session.records.countP (fun record => Use.isPending space record.2) ∧
      (session.isIdle = true →
        counters.gets = session.records.countP
          (fun (use, transcript) => (use.got? space transcript).any Except.isOk) ∧
        counters.hits = session.records.countP
          (fun (use, transcript) => (use.got? space transcript).any isHit) ∧
        counters.misses = session.records.countP
          (fun (use, transcript) => (use.got? space transcript).any isMiss) ∧
        counters.puts = session.records.countP
          (fun (use, transcript) => use.hasPut space transcript) ∧
        counters.deletes = (session.records.map fun record => Use.deletions record.2).sum) ∧
      ∀ count ∈ [counters.puts, counters.gets, counters.hits, counters.misses, counters.deletes],
        count ≤ steps.length := by
  intro session counters
  have accounted : session.Accounted space := Session.accounted_usage fresh steps
  have shows := accounted.shows.counters now
  have bounded (measure : Measure) :
      tally space (session.log.map Prod.snd) measure ≤ steps.length :=
    (Session.tally_log_le accounted.coherent measure).trans (Session.length_log_usage shared steps)
  have hbounds : ∀ count ∈
      [counters.puts, counters.gets, counters.hits, counters.misses, counters.deletes],
      count ≤ steps.length := by
    obtain ⟨puts, gets, hits, misses, deletes⟩ := shows
    simp only [List.forall_mem_cons]
    exact ⟨puts ▸ bounded .puts, gets ▸ bounded .gets, hits ▸ bounded .hits,
      misses ▸ bounded .misses, deletes ▸ bounded .deletes, List.forall_mem_nil _⟩
  rw [← Session.sum_records accounted.coherent] at shows
  obtain ⟨puts, gets, hits, misses, deletes⟩ := shows
  rw [sum_measure] at puts gets hits misses deletes
  have hpending : counters.gets = counters.hits + counters.misses +
      session.records.countP fun record => Use.isPending space record.2 := by
    rw [gets, hits, misses, ← sum_toNat (fun _ _ => rfl), ← List.sum_map_add, ← List.sum_map_add]
    refine congrArg List.sum (List.map_congr_left fun record hrecord => ?_)
    obtain ⟨rest, hleads, -⟩ := accounted.coherent.records record hrecord
    exact Use.gets_eq ((Use.ensures_balanced space record.1).during _ _ hleads)
  refine ⟨?_, ?_, fun hidle => ?_, hbounds⟩
  · rw [Counters.pending]
    omega
  · rw [Counters.pending]
    omega
  · have hcounted (record : Use × List (Exchange Op.Reply)) (hrecord : record ∈ session.records) :
        Use.Counted space record.1 record.2 := by
      obtain ⟨rest, hleads, hended⟩ := accounted.coherent.records record hrecord
      obtain ⟨result, rfl⟩ := hended hidle
      exact record.1.counted hleads
    refine ⟨gets.trans (sum_toNat fun record hrecord => (hcounted record hrecord).gets),
      hits.trans (sum_toNat fun record hrecord => (hcounted record hrecord).hits),
      misses.trans (sum_toNat fun record hrecord => (hcounted record hrecord).misses),
      puts.trans (sum_toNat fun record hrecord => (hcounted record hrecord).puts), ?_⟩
    rw [deletes]
    refine congrArg List.sum (List.map_congr_left fun record hrecord => ?_)
    rw [(hcounted record hrecord).deletes, Use.removals_eq]

def sharedUsage : List UsageStep :=
  List.map .step ([.enter (.putIfAbsent [7] [1] .zero), .enter (.get [7])] ++
    (List.range 40).map (fun turn => .turn (turn % 2) 0) ++
    .enter (.remove [7]) :: List.replicate 4 (.turn 2 0))

theorem counters_usage_shared :
    let shared : Database × Writer := ({}, { collector := .create })
    let session := Session.usage embedded "sessions" shared sharedUsage
    let counters := session.system.shared.2.collector.counters "sessions" 0
    shared.2.collector.Shows "sessions" 0 ∧ session.isIdle = true ∧
      counters.pending = 0 ∧ counters.gets = 2 ∧ counters.puts = 1 ∧ counters.deletes = 1 := by
  have fresh : (Collector.create).Shows "sessions" 0 := ⟨rfl, fun _ => ⟨rfl, rfl, rfl, rfl, rfl⟩⟩
  have husage := counters_usage embedded "sessions" ({}, { collector := .create }) fresh
    sharedUsage 0
  have hidle : (Session.usage embedded "sessions" ({}, { collector := .create })
      sharedUsage).isIdle = true := by decide +kernel
  dsimp only at husage ⊢
  obtain ⟨-, hpending, hcounts, -⟩ := husage
  obtain ⟨hgets, -, -, hputs, hdeletes⟩ := hcounts hidle
  rw [hpending, hgets, hputs, hdeletes]
  refine ⟨fresh, hidle, ?_, ?_, ?_, ?_⟩ <;> decide +kernel

end TupleStore.Cache
