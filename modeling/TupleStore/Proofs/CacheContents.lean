import TupleStore.Proofs.EntryRuns
import TupleStore.Proofs.SpaceNames

/-!
# What a cache contains

A cache behaves as a map from keys to values with deadlines.  The map keeps an entry
until it is replaced or removed, and shows it while its deadline has not come; the
space behind the cache loses expired entries whenever they are read.
-/

namespace TupleStore.Cache

open Database Entries

/-! ## The map -/

structure Kept where
  value : Bytes
  /-- An entry without a deadline is kept forever. -/
  deadline : Option Nat
  deriving DecidableEq, Repr

abbrev Contents : Type := Bytes → Option Kept

def deadlineOf (ttl : Duration) (now : Nat) : Option Nat :=
  if ttl = .zero then none
  else
    let sum := now + ttl.totalNanos / 1000000
    if sum < never then some sum else none

def Kept.isPresent (now : Nat) (kept : Kept) : Bool :=
  kept.deadline.all fun deadline => now < deadline

namespace Contents

def present (contents : Contents) (now : Nat) (key : Bytes) : Option Bytes :=
  ((contents key).filter (Kept.isPresent now)).map Kept.value

end Contents

def refuses (cache : Cache) (value : Bytes) : Prop :=
  value = MessagePack.encode .nil ∧ !cache.config.cachesNil

instance (cache : Cache) (value : Bytes) : Decidable (cache.refuses value) :=
  inferInstanceAs (Decidable (_ ∧ _))

def refusal (cache : Cache) : Failure := .usage (.nilNotCached cache.name)

variable {α : Type}

def decode (values : Codec α) (bytes : Bytes) : Except Failure α :=
  (values.ofBytes bytes).mapError fun error => .cache (.unreadable error)

namespace Contents

def insert (contents : Contents) (cache : Cache) (now : Nat) (key value : Bytes) : Contents :=
  Function.update contents key (some ⟨value, deadlineOf cache.config.ttl now⟩)

def get (contents : Contents) (values : Codec α) (now : Nat) (key : Bytes) :
    Except Failure (Option α) :=
  match contents.present now key with
  | some bytes => (decode values bytes).map some
  | none => .ok none

theorem get_of_present {contents : Contents} {now : Nat} {key bytes : Bytes}
    (h : contents.present now key = some bytes) (values : Codec α) :
    contents.get values now key = (decode values bytes).map some := by
  rw [get, h]

theorem get_of_absent {contents : Contents} {now : Nat} {key : Bytes}
    (h : contents.present now key = none) (values : Codec α) :
    contents.get values now key = .ok none := by
  rw [get, h]

def put (contents : Contents) (cache : Cache) (now : Nat) (key value : Bytes) :
    Except Failure Unit × Contents :=
  if cache.refuses value then (.error cache.refusal, contents)
  else (.ok (), contents.insert cache now key value)

/-- Looks for a value at the time `looked`, and stores one at the time `stored`. -/
def putIfAbsent (contents : Contents) (cache : Cache) (values : Codec α) (looked stored : Nat)
    (key value : Bytes) : Except Failure (Option α) × Contents :=
  if cache.refuses value then (.error cache.refusal, contents)
  else
    match contents.present looked key with
    | some bytes => ((decode values bytes).map some, contents)
    | none => (.ok none, contents.insert cache stored key value)

def getOrLoad (contents : Contents) (cache : Cache) (values : Codec α) (looked stored : Nat)
    (key : Bytes) (loaded : Except Failure α) : Except Failure (α × Bool) × Contents :=
  match contents.present looked key with
  | some bytes => ((decode values bytes).map fun value => (value, false), contents)
  | none =>
      match loaded with
      | .error failure => (.error failure, contents)
      | .ok value =>
          let (result, after) := contents.put cache stored key (values.toBytes value)
          (result.map fun () => (value, true), after)

section

variable {contents : Contents} {cache : Cache} {looked stored : Nat} {key bytes : Bytes}

theorem getOrLoad_of_present (h : contents.present looked key = some bytes) (values : Codec α)
    (loaded : Except Failure α) :
    contents.getOrLoad cache values looked stored key loaded =
      ((decode values bytes).map fun value => (value, false), contents) := by
  unfold getOrLoad
  rw [h]

theorem getOrLoad_of_absent (h : contents.present looked key = none) (values : Codec α)
    (loaded : Except Failure α) :
    contents.getOrLoad cache values looked stored key loaded =
      match loaded with
      | .error failure => (.error failure, contents)
      | .ok value =>
          let (result, after) := contents.put cache stored key (values.toBytes value)
          (result.map fun () => (value, true), after) := by
  unfold getOrLoad
  rw [h]

end

end Contents

/--
What a call answers and makes of the map when it looks for a value at the time `looked`
and stores one at the time `stored`.
-/
def Call.onContents (cache : Cache) (looked stored : Nat) (contents : Contents) :
    (call : Call) → Except Failure call.Answer × Contents
  | .get keys values key => (contents.get values looked (keys.toBytes key), contents)
  | .put keys values key value =>
      contents.put cache stored (keys.toBytes key) (values.toBytes value)
  | .putIfAbsent keys values key value =>
      contents.putIfAbsent cache values looked stored (keys.toBytes key) (values.toBytes value)
  | .getOrLoad keys values key loaded =>
      contents.getOrLoad cache values looked stored (keys.toBytes key) loaded
  | .evict keys key => (.ok (), Function.update contents (keys.toBytes key) none)
  | .clear => (.ok (), fun _ => none)

/-- The calls answer as the map does, at times between their beginnings and their ends. -/
inductive Explains (cache : Cache) (clock : Nat → Nat) : Contents → List Made → Prop
  | nil (contents : Contents) : Explains cache clock contents []
  | cons {contents after : Contents} {made : Made} {rest : List Made} (looked stored : Nat)
      (began : made.began ≤ looked) (ordered : looked ≤ stored) (ended : stored ≤ made.ended)
      (answers : made.call.onContents cache (clock looked) (clock stored) contents =
        (made.result, after))
      (h : Explains cache clock after rest) : Explains cache clock contents (made :: rest)

/-! ## Entries and deadlines -/

/-- From now on the entries show what the map does. -/
def Shows (entries : Bytes → Option (Bytes × Nat)) (contents : Contents) (now : Nat) : Prop :=
  ∀ later, now ≤ later → later < never →
    ∀ key, (unexpired later (entries key)).map Prod.fst = contents.present later key

variable {entries : Bytes → Option (Bytes × Nat)} {contents : Contents} {now looked : Nat}

theorem lt_expiryTime_iff {ttl : Duration} (whole : ttl.nanos = 0) (value : Bytes) (now : Nat)
    {later : Nat} (h : later < never) :
    later < expiryTime ttl now ↔ Kept.isPresent later ⟨value, deadlineOf ttl now⟩ = true := by
  have hmillis : ttl.totalNanos / 1000000 = ttl.seconds * 1000 := by
    unfold Duration.totalNanos nanosPerSecond
    omega
  unfold expiryTime deadlineOf Kept.isPresent
  rw [hmillis]
  by_cases hzero : ttl = .zero
  · simp [hzero, h]
  · simp only [hzero, if_false]
    split <;> simp <;> omega

theorem Shows.mono (shows : Shows entries contents now) (h : now ≤ looked) :
    Shows entries contents looked := fun later hlater => shows later (h.trans hlater)

theorem unexpired_unexpired {later : Nat} (h : now ≤ later) (entry : Option (Bytes × Nat)) :
    unexpired later (unexpired now entry) = unexpired later entry := by
  unfold unexpired
  cases entry with
  | none => rfl
  | some entry =>
      by_cases live : now < entry.2
      · simp [Option.filter_some, live]
      · have dead : ¬later < entry.2 := by omega
        simp [Option.filter_some, live, dead]

theorem Shows.pruned (shows : Shows entries contents now) (h : now ≤ looked) (key : Bytes) :
    Shows (Function.update entries key (unexpired looked (entries key))) contents looked := by
  intro later hlater bound other
  rw [← shows later (h.trans hlater) bound other]
  by_cases hkey : other = key
  · rw [hkey, Function.update_self, unexpired_unexpired hlater]
  · rw [Function.update_of_ne hkey]

theorem Shows.update (shows : Shows entries contents now) {key : Bytes}
    {entry : Option (Bytes × Nat)} {kept : Option Kept}
    (h : ∀ later, later < never →
      (unexpired later entry).map Prod.fst = (kept.filter (Kept.isPresent later)).map Kept.value) :
    Shows (Function.update entries key entry) (Function.update contents key kept) now := by
  intro later hlater bound other
  unfold Contents.present
  by_cases hkey : other = key
  · rw [hkey, Function.update_self, Function.update_self]
    exact h later bound
  · rw [Function.update_of_ne hkey, Function.update_of_ne hkey]
    exact shows later hlater bound other

theorem Shows.stored (shows : Shows entries contents now) {ttl : Duration}
    (whole : ttl.nanos = 0) (key value : Bytes) (stored : Nat) :
    Shows (Function.update entries key (some (value, expiryTime ttl stored)))
      (Function.update contents key (some ⟨value, deadlineOf ttl stored⟩)) now := by
  refine shows.update fun later bound => ?_
  have hiff := lt_expiryTime_iff whole value stored bound
  by_cases live : later < expiryTime ttl stored
  · rw [unexpired_of_lt live, Option.filter_some, if_pos (hiff.mp live)]
    rfl
  · rw [unexpired_of_not_lt live, Option.filter_some, if_neg (mt hiff.mpr live)]
    rfl

/-! ## Calls -/

structure Mirrors (space : String) (clock : Nat → Nat) (contents : Contents)
    (state : (Database × Writer) × Nat) : Prop where
  available : Available space state.1
  shows : Shows (entriesIn space state.1.1) contents (clock state.2)

inductive Answers (space : String) (clock : Nat → Nat) (state : (Database × Writer) × Nat)
    (action : Action α) (answer : Nat → Nat → Except Failure α × Contents) : Prop
  | intro {after : (Database × Writer) × Nat} {result : Except Failure α} {contents : Contents}
      (looked stored : Nat) (began : state.2 ≤ looked) (ordered : looked ≤ stored)
      (ended : stored ≤ after.2) (run : runAt embedded clock action state = (result, after))
      (answers : answer (clock looked) (clock stored) = (result, contents))
      (mirrors : Mirrors space clock contents after)

section

variable {space : String} {clock : Nat → Nat} {state after : (Database × Writer) × Nat}
variable {cache : Cache} {key value bytes : Bytes}

theorem Leaves.mirrors {tick : Nat} (leaves : Leaves space entries tick after)
    (shows : Shows entries contents (clock after.2)) : Mirrors space clock contents after :=
  ⟨leaves.available, leaves.holds.entries_eq ▸ shows⟩

theorem Mirrors.run_get (mirrors : Mirrors space clock contents state) (mono : Monotone clock)
    (bound : ∀ tick, clock tick < never) (key : Bytes) :
    ∃ looked after, state.2 ≤ looked ∧ looked ≤ after.2 ∧
      runAt embedded clock (Entries.get space key) state =
        (.ok (contents.present (clock looked) key), after) ∧
      Mirrors space clock contents after := by
  obtain ⟨looked, after, hlooked, hafter, hget, leaves⟩ :=
    Cache.run_get mirrors.available clock state.2 key
  have shows := mirrors.shows.pruned (mono hlooked) key
  refine ⟨looked, after, hlooked, hafter, ?_, leaves.mirrors (shows.mono (mono hafter))⟩
  rw [← mirrors.shows (clock looked) (mono hlooked) (bound looked) key]
  exact hget

theorem Mirrors.run_put (mirrors : Mirrors cache.space clock contents state)
    (mono : Monotone clock) (whole : cache.config.ttl.nanos = 0) (key value : Bytes) :
    ∃ stored after, state.2 ≤ stored ∧ stored ≤ after.2 ∧
      runAt embedded clock (Entries.put cache.space key value cache.config.ttl) state =
        (.ok (), after) ∧
      Mirrors cache.space clock (contents.insert cache (clock stored) key value) after := by
  obtain ⟨stored, after, hstored, hafter, hput, leaves⟩ :=
    Cache.run_put mirrors.available clock state.2 key value cache.config.ttl
  have shows := mirrors.shows.stored whole key value (clock stored)
  exact ⟨stored, after, hstored, hafter, hput,
    leaves.mirrors (shows.mono (mono (hstored.trans hafter)))⟩

theorem writeValue_eq (cache : Cache) (values : Codec α) (value : α) :
    cache.writeValue values value =
      .done (if cache.refuses (values.toBytes value) then .error cache.refusal
        else .ok (values.toBytes value)) := by
  unfold writeValue
  by_cases h : cache.refuses (values.toBytes value)
  · rw [if_pos h]
    exact if_pos h
  · rw [if_neg h]
    exact if_neg h

theorem runAt_readValue {β : Type} (values : Codec α) (bytes : Bytes) (f : α → β) :
    runAt embedded clock (f <$> readValue values bytes) state =
      ((decode values bytes).map f, state) := by
  unfold readValue decode
  cases values.ofBytes bytes <;> rfl

theorem Mirrors.get {κ : Type} (mirrors : Mirrors cache.space clock contents state)
    (mono : Monotone clock) (bound : ∀ tick, clock tick < never) (keys : Codec κ)
    (values : Codec α) (key : κ) :
    ∃ looked after, state.2 ≤ looked ∧ looked ≤ after.2 ∧
      runAt embedded clock (cache.get keys values key) state =
        (contents.get values (clock looked) (keys.toBytes key), after) ∧
      Mirrors cache.space clock contents after := by
  obtain ⟨looked, after, hlooked, hafter, hget, last⟩ :=
    mirrors.run_get mono bound (keys.toBytes key)
  refine ⟨looked, after, hlooked, hafter, ?_, last⟩
  rw [Cache.get, runAt_bind hget]
  unfold Contents.get
  cases contents.present (clock looked) (keys.toBytes key) with
  | none => rfl
  | some bytes => exact runAt_readValue values bytes some

theorem Mirrors.refused (mirrors : Mirrors space clock contents state) (failure : Failure)
    {answer : Nat → Nat → Except Failure α × Contents}
    (h : ∀ looked stored, answer looked stored = (.error failure, contents)) :
    Answers space clock state (.done (.error failure)) answer :=
  .intro state.2 state.2 (Nat.le_refl _) (Nat.le_refl _) (Nat.le_refl _) rfl (h _ _) mirrors

theorem Mirrors.put {κ : Type} (mirrors : Mirrors cache.space clock contents state)
    (mono : Monotone clock) (whole : cache.config.ttl.nanos = 0) (keys : Codec κ)
    (values : Codec α) (key : κ) (value : α) :
    Answers cache.space clock state (cache.put keys values key value) fun _ stored =>
      contents.put cache stored (keys.toBytes key) (values.toBytes value) := by
  rw [Cache.put, writeValue_eq]
  by_cases h : cache.refuses (values.toBytes value)
  · rw [if_pos h]
    exact mirrors.refused cache.refusal fun _ _ => if_pos h
  · rw [if_neg h]
    obtain ⟨stored, after, hstored, hafter, hput, last⟩ :=
      mirrors.run_put mono whole (keys.toBytes key) (values.toBytes value)
    exact .intro stored stored hstored (Nat.le_refl _) hafter hput (if_neg h) last

theorem Mirrors.putIfAbsent {κ : Type} (mirrors : Mirrors cache.space clock contents state)
    (mono : Monotone clock) (bound : ∀ tick, clock tick < never)
    (whole : cache.config.ttl.nanos = 0) (keys : Codec κ) (values : Codec α) (key : κ)
    (value : α) :
    Answers cache.space clock state (cache.putIfAbsent keys values key value)
      fun looked stored => contents.putIfAbsent cache values looked stored (keys.toBytes key)
        (values.toBytes value) := by
  rw [Cache.putIfAbsent, writeValue_eq]
  by_cases h : cache.refuses (values.toBytes value)
  · rw [if_pos h]
    exact mirrors.refused cache.refusal fun _ _ => if_pos h
  rw [if_neg h]
  obtain ⟨looked, found, hlooked, hfound, hget, last⟩ :=
    mirrors.run_get mono bound (keys.toBytes key)
  cases hpresent : contents.present (clock looked) (keys.toBytes key) with
  | some bytes =>
      have hrun : runAt embedded clock (Entries.putIfAbsent cache.space (keys.toBytes key)
          (values.toBytes value) cache.config.ttl) state = (.ok (some bytes), found) := by
        rw [Entries.putIfAbsent, runAt_bind hget, hpresent]
        rfl
      refine .intro looked looked hlooked (Nat.le_refl _) hfound
        ((runAt_bind hrun).trans (runAt_readValue values bytes some)) ?_ last
      rw [Contents.putIfAbsent, if_neg h, hpresent]
  | none =>
      obtain ⟨stored, after, hstored, hafter, hput, last⟩ :=
        last.run_put mono whole (keys.toBytes key) (values.toBytes value)
      have hrun : runAt embedded clock (Entries.putIfAbsent cache.space (keys.toBytes key)
          (values.toBytes value) cache.config.ttl) state = (.ok none, after) := by
        rw [Entries.putIfAbsent, runAt_bind hget, hpresent]
        exact runAt_bind hput
      refine .intro looked stored hlooked (hfound.trans hstored) hafter (runAt_bind hrun) ?_ last
      rw [Contents.putIfAbsent, if_neg h, hpresent]

theorem Mirrors.getOrLoad {κ : Type} (mirrors : Mirrors cache.space clock contents state)
    (mono : Monotone clock) (bound : ∀ tick, clock tick < never)
    (whole : cache.config.ttl.nanos = 0) (keys : Codec κ) (values : Codec α) (key : κ)
    (loaded : Except Failure α) :
    Answers cache.space clock state
      (cache.getOrLoad keys values key (Program.ofExcept loaded))
      fun looked stored =>
        contents.getOrLoad cache values looked stored (keys.toBytes key) loaded := by
  obtain ⟨looked, found, hlooked, hfound, hget, last⟩ := mirrors.get mono bound keys values key
  rw [Cache.getOrLoad]
  cases hpresent : contents.present (clock looked) (keys.toBytes key) with
  | some bytes =>
      rw [Contents.get_of_present hpresent] at hget
      refine .intro looked looked hlooked (Nat.le_refl _) hfound ?_
        (Contents.getOrLoad_of_present hpresent values loaded) last
      cases hdecode : decode values bytes with
      | ok value =>
          rw [hdecode] at hget
          exact runAt_bind hget
      | error failure =>
          rw [hdecode] at hget
          exact runAt_bind_error hget
  | none =>
      rw [Contents.get_of_absent hpresent] at hget
      cases loaded with
      | error failure =>
          exact .intro looked looked hlooked (Nat.le_refl _) hfound (runAt_bind hget)
            (Contents.getOrLoad_of_absent hpresent values (.error failure)) last
      | ok value =>
          obtain @⟨after, result, map, _, stored, hbegan, hordered, hafter, hput, hanswer, last⟩ :=
            last.put mono whole keys values key value
          have hload : contents.getOrLoad cache values (clock looked) (clock stored)
              (keys.toBytes key) (.ok value) = (result.map fun () => (value, true), map) := by
            rw [Contents.getOrLoad_of_absent hpresent]
            dsimp only at hanswer ⊢
            rw [hanswer]
          refine .intro looked stored hlooked (hfound.trans (hbegan.trans hordered)) hafter
            ?_ hload last
          rw [runAt_bind hget]
          change runAt embedded clock (cache.put keys values key value >>= fun _ =>
            pure (value, true)) found = _
          cases result with
          | ok _ => exact runAt_bind hput
          | error failure => exact runAt_bind_error hput

theorem Mirrors.evict (mirrors : Mirrors space clock contents state) (mono : Monotone clock)
    (key : Bytes) :
    Answers space clock state (Entries.remove space key) fun _ _ =>
      (.ok (), Function.update contents key none) := by
  obtain ⟨after, hrun, leaves⟩ := run_remove mirrors.available clock state.2 key
  have shows : Shows (Function.update (entriesIn space state.1.1) key none)
      (Function.update contents key none) (clock state.2) := mirrors.shows.update fun _ _ => rfl
  exact .intro state.2 state.2 (Nat.le_refl _) (Nat.le_refl _) leaves.later hrun rfl
    (leaves.mirrors (shows.mono (mono leaves.later)))

theorem Mirrors.clear (mirrors : Mirrors space clock contents state) :
    Answers space clock state (Entries.clear space) fun _ _ => (.ok (), fun _ => none) := by
  obtain ⟨after, hrun, leaves⟩ := run_clear mirrors.available clock state.2
  exact .intro state.2 state.2 (Nat.le_refl _) (Nat.le_refl _) leaves.later hrun rfl
    (leaves.mirrors fun _ _ _ _ => rfl)

theorem Mirrors.call (mirrors : Mirrors cache.space clock contents state)
    (mono : Monotone clock) (bound : ∀ tick, clock tick < never)
    (whole : cache.config.ttl.nanos = 0) (call : Call) :
    Answers cache.space clock state (call.action cache) fun looked stored =>
      call.onContents cache looked stored contents := by
  cases call with
  | get keys values key =>
      obtain ⟨looked, after, hlooked, hafter, hget, last⟩ := mirrors.get mono bound keys values key
      exact .intro looked looked hlooked (Nat.le_refl _) hafter hget rfl last
  | put keys values key value => exact mirrors.put mono whole keys values key value
  | putIfAbsent keys values key value =>
      exact mirrors.putIfAbsent mono bound whole keys values key value
  | getOrLoad keys values key loaded =>
      exact mirrors.getOrLoad mono bound whole keys values key loaded
  | evict keys key => exact mirrors.evict mono (keys.toBytes key)
  | clear => exact mirrors.clear

theorem Mirrors.explains (mirrors : Mirrors cache.space clock contents state)
    (mono : Monotone clock) (bound : ∀ tick, clock tick < never)
    (whole : cache.config.ttl.nanos = 0) (calls : List Call) :
    Explains cache clock contents (makeAll embedded clock cache calls state) := by
  induction calls generalizing contents state with
  | nil => exact .nil contents
  | cons call calls ih =>
      obtain ⟨looked, stored, hbegan, hordered, hended, hrun, hanswers, last⟩ :=
        mirrors.call mono bound whole call
      rw [makeAll, make, hrun]
      exact .cons looked stored hbegan hordered hended hanswers (ih last)

end

/-- A cache over a new database behaves as a map which is empty at first. -/
theorem explains_calls (cache : Cache) (clock : Nat → Nat) (collector : Collector)
    (calls : List Call) (mono : Monotone clock) (bound : ∀ tick, clock tick < never)
    (whole : cache.config.ttl.nanos = 0) :
    Explains cache clock (fun _ => none)
      (makeAll embedded clock cache calls ((({}, { collector }) : Database × Writer), 0)) := by
  have available : Available cache.space (({}, { collector }) : Database × Writer) :=
    .inr ⟨isPlain_spaceName cache.config cache.name, rfl, List.not_mem_nil⟩
  have shows : Shows (entriesIn cache.space ({} : Database)) (fun _ => none) (clock 0) :=
    fun _ _ _ _ => rfl
  exact Mirrors.explains ⟨available, shows⟩ mono bound whole calls

def sessions : Cache :=
  ⟨"sessions", { ttl := (Duration.of? 60 0).getD .zero, cachesNil := false }⟩

/-- Five seconds from tick to tick, until the clock stops. -/
def fiveSeconds (tick : Nat) : Nat := 5000 * min tick 100

def sessionCalls : List Call :=
  [.put Codec.text Codec.bool "alice" true, .get Codec.text Codec.bool "alice",
    .put Codec.text Codec.value "alice" .nil,
    .putIfAbsent Codec.text Codec.bool "alice" false, .get Codec.text Codec.bool "alice",
    .evict Codec.text "alice", .getOrLoad Codec.text Codec.bool "bob" (.ok true), .clear]

theorem explains_calls_sessions :
    Monotone fiveSeconds ∧ (∀ tick, fiveSeconds tick < never) ∧ sessions.config.ttl.nanos = 0 ∧
      Explains sessions fiveSeconds (fun _ => none) (makeAll embedded fiveSeconds sessions
        sessionCalls ((({}, { collector := .create }) : Database × Writer), 0)) := by
  have mono : Monotone fiveSeconds := fun first second h => by
    unfold fiveSeconds
    omega
  have bound : ∀ tick, fiveSeconds tick < never := fun tick => by
    unfold fiveSeconds never
    omega
  exact ⟨mono, bound, rfl,
    explains_calls sessions fiveSeconds .create sessionCalls mono bound rfl⟩

end TupleStore.Cache
