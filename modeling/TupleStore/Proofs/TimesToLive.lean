import TupleStore.Proofs.CacheIsolation

/-!
# Times to live

An entry is read before its expiry time and not from then on, whatever is done with
other entries and in other spaces.  Only the whole seconds of its time to live count,
so that it lives as long as it was told to just when there is nothing else to count.
-/

namespace TupleStore

def Duration.millis (duration : Duration) : Nat := duration.totalNanos / 1000000

namespace Cache

open Database Entries

variable {space : String} {key : Bytes} {shared before after last : Database × Writer}
variable {α β : Type}

/-! ## Entries left alone -/

/-- The space is still there and the entry under the key is as it was. -/
structure Untouched (space : String) (key : Bytes) (before after : Database × Writer) : Prop where
  holds : HoldsEntries space before.1 → HoldsEntries space after.1
  entry_eq : entryIn space key after.1 = entryIn space key before.1

theorem Untouched.refl (space : String) (key : Bytes) (shared : Database × Writer) :
    Untouched space key shared shared := ⟨id, rfl⟩

theorem Untouched.trans (first : Untouched space key before after)
    (second : Untouched space key after last) : Untouched space key before last :=
  ⟨second.holds ∘ first.holds, second.entry_eq.trans first.entry_eq⟩

theorem Leaves.untouched {other : Bytes} {entry : Option (Bytes × Nat)} {tick : Nat}
    {ended : (Database × Writer) × Nat}
    (leaves : Leaves space (Function.update (entriesIn space shared.1) other entry) tick ended)
    (h : other ≠ key) : Untouched space key shared ended.1 where
  holds _ := leaves.holds.holds
  entry_eq := (congrFun leaves.holds.entries_eq key).trans (Function.update_of_ne h.symm ..)

theorem Agree.untouched (agree : Agree space after before) : Untouched space key before after where
  holds := by
    rintro ⟨table, htable, h⟩
    have hslice := agree.slice_eq.trans (slice_of_table? htable)
    obtain ⟨found, hfound, hsame⟩ := Option.map_eq_some_iff.mp hslice
    have htuples : (found.withId 0).tuples = (table.withId 0).tuples := congrArg Table.tuples hsame
    have hspace : (found.withId 0).space = (table.withId 0).space := congrArg Table.space hsame
    change found.tuples = table.tuples at htuples
    refine ⟨found, hfound, ?_⟩
    exact ⟨(congrArg Space.format hspace).trans h.format,
      (congrArg Space.indexes hspace).trans h.indexes, htuples ▸ h.increasing,
      htuples ▸ h.entries⟩
  entry_eq := by
    have hentry : ∀ database, entryIn space key database =
        (slice space database).bind fun table => entryUnder key table.tuples := by
      intro database
      rw [slice, Option.bind_map]
      rfl
    rw [hentry, hentry, agree.slice_eq]

def Keeps (space : String) (key : Bytes) (action : Action α) : Prop :=
  ∀ (clock : Nat → Nat) (state : (Database × Writer) × Nat), HoldsEntries space state.1.1 →
    Untouched space key state.1 (runAt embedded clock action state).2.1

namespace Keeps

theorem done (result : Except Failure α) : Keeps space key (.done result : Action α) :=
  fun _ state _ => .refl space key state.1

theorem bind {action : Action α} {rest : α → Action β} (first : Keeps space key action)
    (second : ∀ result, Keeps space key (rest result)) : Keeps space key (action >>= rest) := by
  intro clock state holds
  have hfirst := first clock state holds
  rcases hrun : runAt embedded clock action state with ⟨_ | result, ended⟩
  · rw [runAt_bind_error hrun]
    rwa [hrun] at hfirst
  · rw [runAt_bind hrun]
    rw [hrun] at hfirst
    exact hfirst.trans (second result clock ended (hfirst.holds holds))

end Keeps

section

variable {other : Bytes} (h : other ≠ key)

include h

theorem keeps_get : Keeps space key (Entries.get space other) := by
  intro clock state holds
  obtain ⟨looked, ended, -, -, hrun, leaves⟩ := run_get (.inl holds) clock state.2 other
  rw [hrun]
  exact leaves.untouched h

theorem keeps_put (value : Bytes) (ttl : Duration) :
    Keeps space key (Entries.put space other value ttl) := by
  intro clock state holds
  obtain ⟨stored, ended, -, -, hrun, leaves⟩ := run_put (.inl holds) clock state.2 other value ttl
  rw [hrun]
  exact leaves.untouched h

theorem keeps_remove : Keeps space key (Entries.remove space other) := by
  intro clock state holds
  obtain ⟨ended, hrun, leaves⟩ := run_remove (.inl holds) clock state.2 other
  rw [hrun]
  exact leaves.untouched h

end

/-! ## Calls on other keys -/

def Call.Spares (key : Bytes) : Call → Prop
  | .get keys _ other => keys.toBytes other ≠ key
  | .put keys _ other _ => keys.toBytes other ≠ key
  | .putIfAbsent keys _ other _ => keys.toBytes other ≠ key
  | .getOrLoad keys _ other _ => keys.toBytes other ≠ key
  | .evict keys other => keys.toBytes other ≠ key
  | .clear => False

section

variable (cache : Cache)

theorem keeps_writeValue (values : Codec α) (value : α) :
    Keeps space key (cache.writeValue values value) := by
  rw [writeValue_eq]
  exact .done _

theorem keeps_cacheGet {κ : Type} {keys : Codec κ} {other : κ} (h : keys.toBytes other ≠ key)
    (values : Codec α) : Keeps cache.space key (cache.get keys values other) := by
  refine (keeps_get h).bind fun found => ?_
  cases found with
  | none => exact .done _
  | some bytes => exact Keeps.bind (.done _) fun _ => .done _

theorem keeps_cachePut {κ : Type} {keys : Codec κ} {other : κ} (h : keys.toBytes other ≠ key)
    (values : Codec α) (value : α) :
    Keeps cache.space key (cache.put keys values other value) :=
  (cache.keeps_writeValue values value).bind fun bytes => keeps_put h bytes cache.config.ttl

theorem Call.keeps {call : Call} (spares : call.Spares key) :
    Keeps cache.space key (call.action cache) := by
  cases call with
  | get keys values other => exact cache.keeps_cacheGet spares values
  | put keys values other value => exact cache.keeps_cachePut spares values value
  | putIfAbsent keys values other value =>
      refine (cache.keeps_writeValue values value).bind fun bytes => Keeps.bind ?_ fun found => ?_
      · refine (keeps_get spares).bind fun found => ?_
        cases found with
        | some existing => exact .done _
        | none => exact (keeps_put spares bytes _).bind fun _ => .done _
      · cases found with
        | none => exact .done _
        | some existing => exact Keeps.bind (.done _) fun _ => .done _
  | getOrLoad keys values other loaded =>
      refine (cache.keeps_cacheGet spares values).bind fun found => ?_
      cases found with
      | some value => exact .done _
      | none =>
          have hload : Keeps cache.space key (Program.ofExcept loaded) := .done loaded
          exact hload.bind fun value =>
            (cache.keeps_cachePut spares values value).bind fun _ => .done _
  | evict keys other => exact keeps_remove spares
  | clear => exact spares.elim

end

/-! ## Calls in between -/

structure Aside : Type 1 where
  cache : Cache
  clock : Nat → Nat
  call : Call

namespace Aside

/-- The call is in another space or on another key. -/
def Spares (space : String) (key : Bytes) (aside : Aside) : Prop :=
  aside.cache.space ≠ space ∨ aside.call.Spares key

def run (shared : Database × Writer) (aside : Aside) : Database × Writer :=
  (runAt embedded aside.clock (aside.call.action aside.cache) (shared, 0)).2.1

theorem untouched_run {aside : Aside} (spares : aside.Spares space key)
    (holds : HoldsEntries space shared.1) : Untouched space key shared (aside.run shared) := by
  by_cases hspace : aside.cache.space = space
  · have hcall : aside.call.Spares key := spares.resolve_left (not_not_intro hspace)
    subst hspace
    exact Call.keeps aside.cache hcall aside.clock (shared, 0) holds
  · -- what stays in another space leaves all of this one alone, cleared or not
    have hconfined := aside.call.confined aside.cache
    exact (hconfined.run_apart (Ne.symm hspace) shared aside.clock 0).untouched

/-- Whatever calls are made in other spaces and on other keys, the entry stays as it is. -/
theorem untouched_runAll {asides : List Aside} (spare : ∀ aside ∈ asides, aside.Spares space key)
    (holds : HoldsEntries space shared.1) :
    Untouched space key shared (asides.foldl run shared) := by
  induction asides generalizing shared with
  | nil => exact .refl space key shared
  | cons aside asides ih =>
      obtain ⟨hfirst, hrest⟩ := List.forall_mem_cons.mp spare
      have first := untouched_run hfirst holds
      exact first.trans (ih hrest (first.holds holds))

end Aside

/-! ## Lives -/

theorem run_eq_runAt {σ : Type} (client : Client σ) (now : Nat) (action : Action α)
    (state : σ × Writer) (tick : Nat) :
    run client now action state =
      ((runAt client (fun _ => now) action (state, tick)).1,
        (runAt client (fun _ => now) action (state, tick)).2.1) := by
  unfold run runAt
  induction action generalizing state tick with
  | done result => rfl
  | step op next ih => exact ih _ _ (tick + 1)

/--
A value put under the key at the time `stored` is read before the deadline and not from
then on, as long as nothing else happens to the entry.  The clock never comes to `never`.
-/
def LivesUntil (space : String) (key value : Bytes) (ttl : Duration) (stored deadline : Nat) :
    Prop :=
  ∀ shared, Available space shared →
    ∃ after, run embedded stored (Entries.put space key value ttl) shared = (.ok (), after) ∧
      HoldsEntries space after.1 ∧
      ∀ later looked, Untouched space key after later → stored ≤ looked → looked < never →
        (run embedded looked (Entries.get space key) later).1 =
          .ok (if looked < deadline then some value else none)

theorem livesUntil_expiryTime (space : String) (key value : Bytes) (ttl : Duration)
    (stored : Nat) : LivesUntil space key value ttl stored (expiryTime ttl stored) := by
  intro shared available
  obtain ⟨tick, after, -, -, hput, leaves⟩ :=
    run_put available (fun _ => stored) 0 key value ttl
  refine ⟨after.1, by rw [run_eq_runAt _ _ _ _ 0, hput], leaves.holds.holds, ?_⟩
  intro later looked untouched _ _
  have hentry : entryIn space key later.1 = some (value, expiryTime ttl stored) := by
    rw [untouched.entry_eq]
    exact (congrFun leaves.holds.entries_eq key).trans (Function.update_self ..)
  have hready : Available space later := .inl (untouched.holds leaves.holds.holds)
  obtain ⟨tick, ended, -, -, hget, -⟩ := run_get hready (fun _ => looked) 0 key
  rw [run_eq_runAt _ _ _ _ 0, hget, hentry]
  by_cases live : looked < expiryTime ttl stored
  · rw [if_pos live, unexpired_of_lt live]
    rfl
  · rw [if_neg live, unexpired_of_not_lt live]
    rfl

theorem LivesUntil.deadline_iff {value : Bytes} {ttl : Duration} {stored first second : Nat}
    (lives : LivesUntil space key value ttl stored first) :
    LivesUntil space key value ttl stored second ↔
      ∀ looked, stored ≤ looked → looked < never → (looked < first ↔ looked < second) := by
  constructor
  · -- one get shows on which side of a deadline it comes, from any state with the space
    intro other looked hstored bound
    have available : Available space (oneEntry space, {}) := .inl (holds_oneEntry space).1
    obtain ⟨after, hput, -, hlives⟩ := lives _ available
    obtain ⟨again, hsame, -, hother⟩ := other _ available
    cases hput.symm.trans hsame
    have hfirst := hlives after looked (.refl space key after) hstored bound
    have hsecond := hother after looked (.refl space key after) hstored bound
    have hread := Except.ok.inj (hfirst.symm.trans hsecond)
    simpa using congrArg (Option.isSome · = true) hread
  · intro agree shared available
    obtain ⟨after, hput, holds, hlives⟩ := lives shared available
    refine ⟨after, hput, holds, fun later looked untouched hstored bound => ?_⟩
    rw [hlives later looked untouched hstored bound]
    simp only [agree looked hstored bound]

theorem expiryTime_agrees_iff {ttl : Duration} (positive : ttl ≠ .zero)
    (whole : ttl.nanos % 1000000 = 0) (stored : Nat) :
    (∀ looked, stored ≤ looked → looked < never →
        (looked < expiryTime ttl stored ↔ looked < stored + ttl.millis)) ↔
      ttl.nanos = 0 ∨ never ≤ stored + ttl.seconds * 1000 := by
  have hmillis : ttl.millis = ttl.seconds * 1000 + ttl.nanos / 1000000 := by
    unfold Duration.millis Duration.totalNanos nanosPerSecond
    omega
  rw [expiryTime, if_neg positive, hmillis]
  constructor
  · intro agree
    by_contra! hnot
    obtain ⟨hnanos, hbound⟩ := hnot
    -- after its whole seconds the entry is gone, although parts of a second are left
    have hlast := agree (stored + ttl.seconds * 1000) (Nat.le_add_right ..) hbound
    omega
  · intro h looked hstored hlooked
    omega

/--
An entry lives for exactly as long as it was told to, to the millisecond, just when its
time to live has no parts of a second, or its whole seconds go beyond the end of time.
-/
theorem livesUntil_iff {value : Bytes} {ttl : Duration} {stored : Nat} (positive : ttl ≠ .zero)
    (whole : ttl.nanos % 1000000 = 0) :
    LivesUntil space key value ttl stored (stored + ttl.millis) ↔
      ttl.nanos = 0 ∨ never ≤ stored + ttl.seconds * 1000 :=
  (livesUntil_expiryTime space key value ttl stored).deadline_iff.trans
    (expiryTime_agrees_iff positive whole stored)

theorem available_fresh (cache : Cache) :
    Available cache.space (({}, {}) : Database × Writer) :=
  .inr ⟨isPlain_spaceName cache.config cache.name, rfl, List.not_mem_nil⟩

def elsewhere : List Aside :=
  [⟨sessions, fun tick => 70 + tick, .put Codec.bool Codec.bool true true⟩,
    ⟨dashed, fun tick => 80 + tick, .clear⟩]

theorem spares_elsewhere : ∀ aside ∈ elsewhere, aside.Spares sessions.space [7] := by
  have hkey : Call.Spares [7] (.put Codec.bool Codec.bool true true) := by
    unfold Call.Spares
    decide +kernel
  have hspace : dashed.space ≠ sessions.space := by decide +kernel
  refine List.forall_mem_cons.mpr ⟨.inr hkey, List.forall_mem_cons.mpr ⟨.inl hspace, ?_⟩⟩
  exact fun _ h => absurd h List.not_mem_nil

/-- An entry put at 5 for a minute is read at 60004 and not at 60005. -/
theorem livesUntil_minute :
    ∃ after, run embedded 5 (Entries.put sessions.space [7] [1] sessions.config.ttl) ({}, {}) =
        (.ok (), after) ∧
      (run embedded 60004 (Entries.get sessions.space [7]) (elsewhere.foldl Aside.run after)).1 =
        .ok (some [1]) ∧
      (run embedded 60005 (Entries.get sessions.space [7]) (elsewhere.foldl Aside.run after)).1 =
        .ok none := by
  have hdeadline : 5 + sessions.config.ttl.millis = 60005 := by decide
  have lives : LivesUntil sessions.space [7] [1] sessions.config.ttl 5
      (5 + sessions.config.ttl.millis) :=
    (livesUntil_iff (by decide) (by decide)).mpr (.inl (by decide))
  obtain ⟨after, hput, holds, hget⟩ := lives ({}, {}) (available_fresh sessions)
  rw [hdeadline] at hget
  have untouched := Aside.untouched_runAll spares_elsewhere holds
  refine ⟨after, hput, ?_, ?_⟩
  · rw [hget _ 60004 untouched (by decide) (by decide), if_pos (by decide)]
  · rw [hget _ 60005 untouched (by decide) (by decide), if_neg (by decide)]

def halfSecond : Duration := (Duration.of? 0 500000000).getD .zero

/-- An entry put for half a second is gone at once. -/
theorem not_livesUntil_halfSecond :
    ¬LivesUntil sessions.space [7] [1] halfSecond 0 halfSecond.millis := by
  intro lives
  obtain ⟨after, hput, -, hget⟩ := lives ({}, {}) (available_fresh sessions)
  have hread := hget after 0 (.refl sessions.space [7] after) (Nat.le_refl 0) (by decide)
  have hgone : (run embedded 0 (Entries.get sessions.space [7])
      (run embedded 0 (Entries.put sessions.space [7] [1] halfSecond) ({}, {})).2).1 =
        .ok none := by
    decide +kernel
  rw [hput, hread, if_pos (by decide)] at hgone
  cases hgone

end Cache

end TupleStore
