import TupleStore.Cache.Manager
import TupleStore.Proofs.CacheContents
import TupleStore.Proofs.OwnSpaces

/-!
# Caches beside each other

The calls of a cache stay in the space of the cache.  Two caches therefore leave each
other alone exactly when their spaces have different names; names of caches which differ
only in characters that are neither letters nor digits lead to the same space.
-/

namespace TupleStore.Cache

open Database Entries

/-! ## What a cache can see -/

/-- Both states show the same to a cache with the space. -/
structure Agree (space : String) (l r : Database × Writer) : Prop where
  slice_eq : slice space l.1 = slice space r.1
  known_iff : space ∈ l.2.known ↔ space ∈ r.2.known

variable {space other : String} {l r state last : Database × Writer} {α β : Type}

theorem Agree.refl (space : String) (state : Database × Writer) : Agree space state state :=
  ⟨rfl, Iff.rfl⟩

theorem Agree.trans (first : Agree space l r) (second : Agree space r last) :
    Agree space l last :=
  ⟨first.slice_eq.trans second.slice_eq, first.known_iff.trans second.known_iff⟩

def Op.IsOn (space : String) : Op → Prop
  | .request asked => asked.IsOn space
  | .isKnown other | .remember other => other = space
  | .now | .lock | .unlock | .count .. => True

theorem Op.IsOn.handle_agree {op : Op} (own : op.IsOn space) (agree : Agree space l r)
    (now : Nat) :
    (handle embedded now op l).1 = (handle embedded now op r).1 ∧
      Agree space (handle embedded now op l).2 (handle embedded now op r).2 := by
  cases op with
  | request asked =>
      obtain ⟨act, hact⟩ := actsOn_handle own
      have hl := (hact l.1).1
      have hr := (hact r.1).1
      rw [agree.slice_eq, ← hr] at hl
      obtain ⟨hreply, hslice⟩ := Prod.mk.inj hl
      exact ⟨hreply, hslice, agree.known_iff⟩
  | isKnown name =>
      cases own
      refine ⟨?_, agree⟩
      rw [handle_isKnown, handle_isKnown, Bool.eq_iff_iff, List.contains_iff_mem,
        List.contains_iff_mem]
      exact agree.known_iff
  | remember name =>
      cases own
      exact ⟨rfl, agree.slice_eq, iff_of_true List.mem_cons_self List.mem_cons_self⟩
  | now | lock | unlock | count => exact ⟨rfl, agree.slice_eq, agree.known_iff⟩

theorem Op.IsOn.handle_apart {op : Op} (own : op.IsOn space) (hne : other ≠ space)
    (state : Database × Writer) (now : Nat) :
    Agree other (handle embedded now op state).2 state := by
  cases op with
  | request asked =>
      obtain ⟨act, hact⟩ := actsOn_handle own
      exact ⟨(hact state.1).2 other hne, Iff.rfl⟩
  | remember name =>
      cases own
      exact ⟨rfl, List.mem_cons.trans (or_iff_right hne)⟩
  | isKnown | now | lock | unlock | count => exact ⟨rfl, Iff.rfl⟩

/-! ## Confined programs -/

/-- The program stays in the space, and does not look at the description of the space. -/
inductive Confined (space : String) : Action α → Prop
  | done (result : Except Failure α) : Confined space (.done result)
  | look {next : Except ClientError (Option Space) → Action α}
      (alike : ∀ l r : Space, next (.ok (some l)) = next (.ok (some r)))
      (h : ∀ reply, Confined space (next reply)) :
      Confined space (.step (.request (.space space)) next)
  | step {op : Op} {next : op.Reply → Action α} (own : op.IsOn space)
      (h : ∀ reply, Confined space (next reply)) : Confined space (.step op next)

namespace Confined

theorem bind {action : Action α} {rest : α → Action β} (first : Confined space action)
    (second : ∀ result, Confined space (rest result)) : Confined space (action >>= rest) := by
  induction first with
  | done result =>
      cases result with
      | ok result => exact second result
      | error failure => exact .done (.error failure)
  | look alike _ ih => exact .look (fun l r => congrArg (Program.bind · rest) (alike l r)) ih
  | step own _ ih => exact .step own ih

theorem attempt {action : Action α} (h : Confined space action) :
    Confined space action.attempt := by
  induction h with
  | done result => exact .done (.ok result)
  | look alike _ ih => exact .look (fun l r => congrArg Program.attempt (alike l r)) ih
  | step own _ ih => exact .step own ih

theorem perform {op : Op} (own : op.IsOn space) :
    Confined space (Program.perform op : Action op.Reply) :=
  .step own fun reply => .done (.ok reply)

theorem request {asked : Request} (own : asked.IsOn space) :
    Confined space (Entries.request asked) := .step own fun _ => .done _

theorem run_agree {action : Action α} (h : Confined space action) (agree : Agree space l r)
    (clock : Nat → Nat) (tick : Nat) :
    (runAt embedded clock action (l, tick)).1 = (runAt embedded clock action (r, tick)).1 ∧
      Agree space (runAt embedded clock action (l, tick)).2.1
        (runAt embedded clock action (r, tick)).2.1 := by
  induction h generalizing l r tick with
  | done result => exact ⟨rfl, agree⟩
  | @look next alike _ ih =>
      have hslice := agree.slice_eq
      have hnext : next (.ok ((l.1.table? space).map Table.space)) =
          next (.ok ((r.1.table? space).map Table.space)) := by
        unfold slice at hslice
        cases hl : l.1.table? space with
        | none =>
            rw [hl, Option.map_none, eq_comm, Option.map_eq_none_iff] at hslice
            rw [hslice]
        | some table =>
            rw [hl, Option.map_some, eq_comm, Option.map_eq_some_iff] at hslice
            obtain ⟨found, hr, -⟩ := hslice
            rw [hr]
            exact alike table.space found.space
      change (runAt embedded clock (next (.ok ((l.1.table? space).map Table.space)))
        (l, tick + 1)).1 = _ ∧ Agree space (runAt embedded clock (next (.ok ((l.1.table? space).map
          Table.space))) (l, tick + 1)).2.1 _
      rw [hnext]
      exact ih _ agree (tick + 1)
  | step own _ ih =>
      rw [runAt_step, runAt_step]
      obtain ⟨hreply, hagree⟩ := own.handle_agree agree (clock tick)
      rw [hreply]
      exact ih _ hagree (tick + 1)

theorem run_apart {action : Action α} (h : Confined space action) (hne : other ≠ space)
    (state : Database × Writer) (clock : Nat → Nat) (tick : Nat) :
    Agree other (runAt embedded clock action (state, tick)).2.1 state := by
  induction h generalizing state tick with
  | done result => exact .refl other state
  | look _ _ ih => exact ih _ state (tick + 1)
  | step own _ ih => exact (ih _ _ (tick + 1)).trans (own.handle_apart hne state (clock tick))

end Confined

/-! ## Caches are confined -/

theorem isOn_create (space : String) :
    (Request.eval ("box.schema.space.create('" ++ space ++ "')") []).IsOn space :=
  .inl (createdSpace?_append space)

section

variable (named : ':' ∉ space.toList)

include named

theorem isOn_method (method : String) (arguments : List Value) :
    (Request.call ("box.space." ++ space ++ ":" ++ method) arguments).IsOn space :=
  ⟨method, spaceMethod?_append named method⟩

theorem isOn_drop : (Request.eval ("box.space." ++ space ++ ":drop()") []).IsOn space :=
  .inr ⟨(evaluate_drop named).1, "drop", (evaluate_drop named).2⟩

theorem confined_callMethod (method : String) (arguments : List Value) :
    Confined space (callMethod space method arguments) :=
  (Confined.request (isOn_method named method arguments)).bind fun _ => .done _

theorem confined_formatSpace : Confined space (formatSpace space) := by
  unfold formatSpace
  refine (confined_callMethod named "format" _).bind fun _ => ?_
  refine (confined_callMethod named "create_index" _).bind fun _ => ?_
  refine (confined_callMethod named "create_index" _).bind fun _ => ?_
  exact .request True.intro

theorem confined_createSpace : Confined space (Entries.createSpace space) := by
  unfold Entries.createSpace Entries.dropSpace
  refine (Confined.request (isOn_create space)).bind fun _ => ?_
  refine (confined_formatSpace named).attempt.bind fun result => ?_
  cases result with
  | ok _ => exact .done _
  | error failure =>
      have hdrop := (Confined.request (isOn_drop named)).bind fun _ => .done (.ok ())
      exact hdrop.attempt.bind fun _ => .done (.error failure)

theorem confined_findOrCreate : Confined space (findOrCreate space) := by
  have hknown : Confined space (isKnown space) := .perform rfl
  refine hknown.bind fun known => ?_
  cases known with
  | true => exact .done _
  | false =>
      have hremember : Confined space (remember space) := .perform rfl
      refine .look (fun _ _ => rfl) fun reply => ?_
      cases reply with
      | error error => exact .done _
      | ok found =>
          cases found with
          | none => exact (confined_createSpace named).bind fun _ => hremember
          | some space => exact hremember

theorem confined_ensureSpace : Confined space (ensureSpace space) := by
  have hknown : Confined space (isKnown space) := .perform rfl
  have hlock : Confined space lock := .perform True.intro
  have hunlock : Confined space unlock := .perform True.intro
  refine hknown.bind fun known => ?_
  cases known with
  | true => exact .done _
  | false =>
      refine hlock.bind fun _ => ?_
      refine (confined_findOrCreate named).attempt.bind fun result => ?_
      exact hunlock.bind fun _ => .done result

omit named in
theorem confined_delete (space : String) (key : Bytes) :
    Confined space (Entries.delete space key) := by
  have hdelete : Confined space (Entries.request (.delete space [.bin key])) := .request rfl
  exact hdelete.bind fun _ => .perform True.intro

omit named in
theorem confined_liveValue (space : String) (key : Bytes) (tuple : Tuple) :
    Confined space (liveValue space key tuple) := by
  have hread : Confined space (Program.ofExcept (readEntry tuple)) := .done _
  have hnow : Confined space now := .perform True.intro
  refine hread.bind fun entry => hnow.bind fun now => ?_
  split
  · exact .done _
  · exact (confined_delete space key).bind fun _ => .done _

theorem confined_get (key : Bytes) : Confined space (Entries.get space key) := by
  have hselect : Confined space
      (Entries.request (.select space (.primaryKey [.bin key]))) := .request rfl
  have hcount : ∀ value, Confined space (countGet space value) := fun value =>
    .step True.intro fun _ => .step True.intro fun _ => .done (.ok value)
  rw [get_eq]
  refine (confined_ensureSpace named).bind fun _ => hselect.bind fun tuples => ?_
  refine Confined.bind ?_ hcount
  cases tuples with
  | nil => exact .done _
  | cons tuple tuples => exact confined_liveValue space key tuple

theorem confined_put (key value : Bytes) (ttl : Duration) :
    Confined space (Entries.put space key value ttl) := by
  have hnow : Confined space now := .perform True.intro
  refine (confined_ensureSpace named).bind fun _ => hnow.bind fun now => ?_
  have hreplace : Confined space (Entries.request
      (.replace space [.bin key, .bin value, .nat (expiryTime ttl now)])) := .request rfl
  exact hreplace.bind fun _ => .perform True.intro

theorem confined_putIfAbsent (key value : Bytes) (ttl : Duration) :
    Confined space (Entries.putIfAbsent space key value ttl) := by
  refine (confined_get named key).bind fun found => ?_
  cases found with
  | some value => exact .done _
  | none => exact (confined_put named key value ttl).bind fun _ => .done _

theorem confined_remove (key : Bytes) : Confined space (Entries.remove space key) :=
  (confined_ensureSpace named).bind fun _ => confined_delete space key

theorem confined_clear : Confined space (Entries.clear space) :=
  (confined_ensureSpace named).bind fun _ => .request rfl

end

section

variable {κ : Type} (cache : Cache) (keys : Codec κ) (values : Codec α) (key : κ) (value : α)

theorem named_space : ':' ∉ cache.space.toList := not_mem_spaceName cache.config cache.name

theorem confined_cacheGet : Confined cache.space (cache.get keys values key) := by
  refine (confined_get cache.named_space (keys.toBytes key)).bind fun found => ?_
  cases found with
  | none => exact .done _
  | some bytes => exact Confined.bind (.done _) fun _ => .done _

theorem confined_writeValue (space : String) :
    Confined space (cache.writeValue values value) := by
  unfold writeValue
  dsimp only
  split <;> exact .done _

theorem confined_cachePut : Confined cache.space (cache.put keys values key value) :=
  (cache.confined_writeValue values value cache.space).bind fun bytes =>
    confined_put cache.named_space (keys.toBytes key) bytes cache.config.ttl

theorem Call.confined (call : Call) : Confined cache.space (call.action cache) := by
  cases call with
  | get keys values key => exact cache.confined_cacheGet keys values key
  | put keys values key value => exact cache.confined_cachePut keys values key value
  | putIfAbsent keys values key value =>
      refine (cache.confined_writeValue values value cache.space).bind fun bytes => ?_
      refine (confined_putIfAbsent cache.named_space _ bytes _).bind fun found => ?_
      cases found with
      | none => exact .done _
      | some existing => exact Confined.bind (.done _) fun _ => .done _
  | getOrLoad keys values key loaded =>
      refine (cache.confined_cacheGet keys values key).bind fun found => ?_
      cases found with
      | some value => exact .done _
      | none =>
          have hload : Confined cache.space (Program.ofExcept loaded) := .done loaded
          exact hload.bind fun value =>
            (cache.confined_cachePut keys values key value).bind fun _ => .done _
  | evict keys key => exact confined_remove cache.named_space (keys.toBytes key)
  | clear => exact confined_clear cache.named_space

end

/-! ## Isolation -/

structure Visit : Type 1 where
  onFirst : Bool
  clock : Nat → Nat
  call : Call

def Visit.action (first second : Cache) (visit : Visit) : Action visit.call.Answer :=
  visit.call.action (if visit.onFirst then first else second)

def visitAll (first second : Cache) (visits : List Visit) (shared : Database × Writer) :
    Database × Writer :=
  visits.foldl (fun shared visit =>
    (runAt embedded visit.clock (visit.action first second) (shared, 0)).2.1) shared

/--
What a get on the second cache returns does not depend on the calls on the first one,
whatever has happened to both before.
-/
def Isolated (first second : Cache) : Prop :=
  ∀ (shared : Database × Writer) (visits : List Visit) (clock : Nat → Nat) {κ α : Type}
    (keys : Codec κ) (values : Codec α) (key : κ),
    (runAt embedded clock (second.get keys values key)
        (visitAll first second visits shared, 0)).1 =
      (runAt embedded clock (second.get keys values key)
        (visitAll first second (visits.filter (!·.onFirst)) shared, 0)).1

variable {first second : Cache}

theorem visitAll_nil (shared : Database × Writer) : visitAll first second [] shared = shared := rfl

theorem visitAll_cons (visit : Visit) (visits : List Visit) (shared : Database × Writer) :
    visitAll first second (visit :: visits) shared = visitAll first second visits
      (runAt embedded visit.clock (visit.action first second) (shared, 0)).2.1 := rfl

theorem agree_visitAll (h : first.space ≠ second.space) (visits : List Visit)
    (agree : Agree second.space l r) :
    Agree second.space (visitAll first second visits l)
      (visitAll first second (visits.filter (!·.onFirst)) r) := by
  induction visits generalizing l r with
  | nil => exact agree
  | cons visit visits ih =>
      cases hfirst : visit.onFirst with
      | true =>
          rw [List.filter_cons_of_neg (by simp [hfirst]), visitAll_cons]
          refine ih (Agree.trans ?_ agree)
          simp only [Visit.action, hfirst, if_true]
          exact (visit.call.confined first).run_apart h.symm l visit.clock 0
      | false =>
          rw [List.filter_cons_of_pos (by simp [hfirst]), visitAll_cons, visitAll_cons]
          refine ih ?_
          simp only [Visit.action, hfirst, Bool.false_eq_true, if_false]
          exact ((visit.call.confined second).run_agree agree visit.clock 0).2

theorem isolated_of_ne (h : first.space ≠ second.space) : Isolated first second := by
  intro shared visits clock κ α keys values key
  have agree := agree_visitAll h visits (Agree.refl second.space shared)
  exact ((second.confined_cacheGet keys values key).run_agree agree clock 0).1

/-! ## Caches with the same space -/

theorem get_of_entry {cache : Cache} {κ : Type} (keys : Codec κ) (values : Codec α) (key : κ)
    (available : Available cache.space state)
    (lasting : ∀ entry ∈ entryIn cache.space (keys.toBytes key) state.1, entry.2 = never) :
    (runAt embedded (fun _ => 0) (cache.get keys values key) (state, 0)).1 =
      match entryIn cache.space (keys.toBytes key) state.1 with
      | some entry => (decode values entry.1).map some
      | none => .ok none := by
  obtain ⟨looked, after, -, -, hget, -⟩ := run_get available (fun _ => 0) 0 (keys.toBytes key)
  rw [Cache.get, runAt_bind hget]
  cases hentry : entryIn cache.space (keys.toBytes key) state.1 with
  | none => rfl
  | some entry =>
      have live : 0 < entry.2 := by
        rw [lasting entry (Option.mem_def.mpr hentry)]
        decide
      rw [unexpired_of_lt live]
      exact congrArg Prod.fst (runAt_readValue values entry.1 some)

def oneEntry (space : String) : Database :=
  { tables := [⟨⟨512, space, entryFields, [keyIndex, expiryIndex]⟩,
      [entryTuple (Codec.bool.toBytes true) (Codec.bool.toBytes true, never)]⟩] }

theorem holds_oneEntry (space : String) :
    HoldsEntries space (oneEntry space) ∧
      entryIn space (Codec.bool.toBytes true) (oneEntry space) =
        some (Codec.bool.toBytes true, never) := by
  have htable : (oneEntry space).table? space = some ⟨⟨512, space, entryFields,
      [keyIndex, expiryIndex]⟩,
      [entryTuple (Codec.bool.toBytes true) (Codec.bool.toBytes true, never)]⟩ := by
    rw [Database.table?, oneEntry, List.find?_singleton, beq_self_eq_true, if_pos rfl]
  refine ⟨⟨_, htable, rfl, rfl, List.pairwise_singleton _ _, fun tuple htuple => ?_⟩, ?_⟩
  · exact ⟨_, _, List.mem_singleton.mp htuple⟩
  · rw [entryIn, htable]
    rfl

theorem visitAll_evict {κ : Type} (clock : Nat → Nat) (keys : Codec κ) (key : κ)
    (shared : Database × Writer) :
    visitAll first second [⟨true, clock, .evict keys key⟩] shared =
      (runAt embedded clock (Entries.remove first.space (keys.toBytes key)) (shared, 0)).2.1 :=
  rfl

theorem not_isolated_of_eq (h : first.space = second.space) : ¬Isolated first second := by
  intro isolated
  obtain ⟨holds, hentry⟩ := holds_oneEntry second.space
  have available : Available second.space (oneEntry second.space, {}) := .inl holds
  obtain ⟨after, hrun, leaves⟩ := run_remove available (fun _ => 0) 0 (Codec.bool.toBytes true)
  have hgone : entryIn second.space (Codec.bool.toBytes true) after.1.1 = none :=
    (congrFun leaves.holds.entries_eq _).trans (Function.update_self ..)
  have hsame := isolated (oneEntry second.space, {}) [⟨true, fun _ => 0, .evict Codec.bool true⟩]
    (fun _ => 0) Codec.bool Codec.bool true
  rw [visitAll_evict, h, hrun, List.filter_cons_of_neg (by simp), List.filter_nil, visitAll_nil,
    get_of_entry Codec.bool Codec.bool true leaves.available (by simp [hgone]), hgone,
    get_of_entry Codec.bool Codec.bool true available (by simp [hentry]), hentry] at hsame
  have hread : decode Codec.bool (Codec.bool.toBytes true) = .ok true := by rfl
  dsimp only at hsame
  rw [hread] at hsame
  cases hsame

/-- Two caches leave each other alone exactly when their spaces have different names. -/
theorem isolated_iff (first second : Cache) :
    Isolated first second ↔ first.space ≠ second.space :=
  ⟨fun isolated h => not_isolated_of_eq h isolated, isolated_of_ne⟩

def dashed : Cache := ⟨"a-b", {}⟩

def underscored : Cache := ⟨"a_b", {}⟩

def putDashed : List Visit := [⟨true, fun _ => 0, .put Codec.bool Codec.bool true true⟩]

/-- Two caches of one manager whose names become one name: a put on the one is seen by the other. -/
theorem not_isolated_dashed :
    let manager := (Builder.build {}).1
    (manager.cache "a-b").1 = some dashed ∧
      ((manager.cache "a-b").2.cache "a_b").1 = some underscored ∧
      dashed.name ≠ underscored.name ∧ ¬Isolated dashed underscored := by
  refine ⟨by decide +kernel, by decide +kernel, by decide +kernel, fun isolated => ?_⟩
  have hput : (runAt embedded (fun _ => 0) (underscored.get Codec.bool Codec.bool true)
      (visitAll dashed underscored putDashed ({}, {}), 0)).1 = .ok (some true) := by
    decide +kernel
  have hnone : (runAt embedded (fun _ => 0) (underscored.get Codec.bool Codec.bool true)
      (({}, {}), 0)).1 = .ok none := by
    decide +kernel
  have hsame := isolated ({}, {}) putDashed (fun _ => 0) Codec.bool Codec.bool true
  rw [hput] at hsame
  exact absurd (hsame.trans hnone) (by decide)

end TupleStore.Cache
