import TupleStore.Proofs.GuardedSearch

/-!
# First uses of a cache

Calls on a cache whose space is not there yet, on a client which may fail at any request.  The
calls which need the space take turns, and one at a time tries to create it.  Either it is
complete in the end and nobody creates it again, or there is none and the next call tries again.
-/

namespace TupleStore.Cache

open Database Entries

variable {σ α β : Type} {client : Client σ} {database : σ → Database} {space : String}

/-! ## Creations -/

def creates (space : String) : Exchange Op.Reply → Bool
  | ⟨.request (.eval expression _), _⟩ => expression = "box.schema.space.create('" ++ space ++ "')"
  | _ => false

def lookFails (space : String) : Exchange Op.Reply → Bool
  | ⟨.request (.space name), .error _⟩ => name = space
  | _ => false

/-! ### Whether the space is complete -/

theorem Created.access (unreliable : Unreliable client database) {op : Op}
    (h : op.IsAccess space) (now : Nat) {shared : σ × Writer}
    (created : Created space database shared) :
    Created space database (handle client now op shared).2 := by
  cases op with
  | request asked => exact created.request unreliable h
  | now | count => exact ⟨created.known, created.complete⟩
  | isKnown | lock | unlock | remember => exact h.elim

theorem guards_creates (unreliable : Unreliable client database) (named : ':' ∉ space.toList) :
    Guards client space (dropFails space)
      (fun shared => Created space database shared ∨ Missing space database shared)
      (Creates client database space) where
  lock shared h := by
    rcases h with created | missing
    · exact .again created
    · exact .of_missing unreliable named missing
  step op next shared h := h.advance
  unlock result shared h := h.ended
  access op now shared h known := by
    constructor
    · rintro (created | missing)
      · exact .inl (created.access unreliable h now)
      · exact absurd known missing.unknown
    · intro creation hheld
      obtain ⟨created, hlater⟩ := hheld.of_known known
      exact hlater _ (created.access unreliable h now)

/-! ### Once the space is known -/

inductive Notes (space : String) : Action Unit → Prop
  | failed (failure : Failure) : Notes space (.done (.error failure))
  | search {next : Bool → Action Unit} (rest : Notes space (next false)) :
      Notes space (.step (.isKnown space) next)
  | request {asked : Request} {next : asked.Reply → Action Unit}
      (quiet : (Op.request asked).isQuiet = true) (rest : ∀ reply, Notes space (next reply)) :
      Notes space (.step (.request asked) next)
  | remember {next : Unit → Action Unit} (rest : next () = .done (.ok ())) :
      Notes space (.step (.remember space) next)

theorem notes_of_creation {action : Action Unit} (h : Only Op.IsCreation action) :
    Notes space (action >>= fun _ => remember space) := by
  induction h with
  | done result =>
      cases result with
      | ok result => exact .remember rfl
      | error failure => exact .failed failure
  | @step op next h _ ih =>
      cases op with
      | request asked =>
          refine .request ?_ ih
          cases asked with
          | refreshMetadata | call | eval => rfl
          | space | select | insert | replace | update | upsert | delete | truncate =>
              exact h.elim
      | now | isKnown | lock | unlock | remember | count => exact h.elim

theorem notes_findOrCreate (space : String) : Notes space (findOrCreate space) := by
  refine .search (.request rfl fun reply => ?_)
  cases reply with
  | error error => exact .failed _
  | ok found =>
      cases found with
      | none => exact notes_of_creation (createSpace_only space)
      | some described => exact .remember rfl

def IsNoting (space : String) (left : Action Unit) (shared : σ × Writer) : Prop :=
  space ∈ shared.2.known ∧ (left = findOrCreate space ∨ left = .done (.ok ())) ∨
    space ∉ shared.2.known ∧ Notes space left

theorem guards_noting (client : Client σ) (space : String) :
    Guards client space (fun _ => false) (fun _ => True) (IsNoting space) where
  lock shared _ := by
    by_cases known : space ∈ shared.2.known
    · exact .inl ⟨known, .inl rfl⟩
    · exact .inr ⟨known, notes_findOrCreate space⟩
  step op next shared h := by
    obtain ⟨search, hsearch, hdone⟩ := findOrCreate_isKnown space
    generalize hleft : Program.step op next = left at h
    rcases h with ⟨known, rfl | rfl⟩ | ⟨unknown, notes⟩
    · cases hleft.trans hsearch
      have hknown : shared.2.known.contains space = true := by simpa using known
      refine ⟨rfl, fun now _ => .inl ⟨known, .inr ?_⟩⟩
      rw [handle_isKnown, hknown, hdone]
    · cases hleft
    · have hunknown : shared.2.known.contains space = false := by simpa using unknown
      cases notes with
      | failed failure => cases hleft
      | search rest =>
          cases hleft
          refine ⟨rfl, fun now _ => .inr ?_⟩
          rw [handle_isKnown, hunknown]
          exact ⟨unknown, rest⟩
      | request quiet rest =>
          cases hleft
          exact ⟨quiet, fun now _ => .inr ⟨unknown, rest _⟩⟩
      | remember rest =>
          cases hleft
          exact ⟨rfl, fun now _ => .inl ⟨List.mem_cons_self, .inr rest⟩⟩
  unlock result shared h := by
    refine ⟨trivial, ?_⟩
    generalize hleft : Program.done result = left at h
    rcases h with ⟨known, rfl | rfl⟩ | ⟨unknown, notes⟩
    · cases hleft
    · cases hleft
      exact iff_of_true rfl known
    · cases notes with
      | failed failure =>
          cases hleft
          exact iff_of_false nofun unknown
      | search | request | remember => cases hleft
  access op now shared h known := by
    refine ⟨fun _ => trivial, fun creation hheld => ?_⟩
    rcases hheld with ⟨-, hleft⟩ | ⟨unknown, -⟩
    · exact .inl ⟨mem_known_handle now op shared known, hleft⟩
    · exact absurd known unknown

/-! ### Before anybody tries -/

inductive Early (space : String) : Action Unit → Prop
  | isKnown {next : Bool → Action Unit} (rest : Early space (next false)) :
      Early space (.step (.isKnown space) next)
  | look {next : Except ClientError (Option Space) → Action Unit}
      (rest : Early space (next (.ok none))) :
      Early space (.step (.request (.space space)) next)
  | create {next : Except ClientError (List Value) → Action Unit} :
      Early space (.step (.request (.eval ("box.schema.space.create('" ++ space ++ "')") [])) next)

theorem early_findOrCreate (space : String) : Early space (findOrCreate space) :=
  .isKnown (.look .create)

theorem guards_early (unreliable : Unreliable client database) :
    Guards client space (fun exchange => creates space exchange || lookFails space exchange)
      (Missing space database)
      (fun left shared => Early space left ∧ Missing space database shared) where
  lock shared missing := ⟨early_findOrCreate space, missing⟩
  step op next shared h := by
    obtain ⟨early, missing⟩ := h
    generalize hleft : Program.step op next = left at early
    cases early with
    | isKnown rest =>
        cases hleft
        have hunknown : shared.2.known.contains space = false := by simpa using missing.unknown
        refine ⟨rfl, fun now _ => ?_⟩
        rw [handle_isKnown, hunknown]
        exact ⟨rest, missing⟩
    | look rest =>
        cases hleft
        refine ⟨rfl, fun now kept => ?_⟩
        rw [handle_request] at kept ⊢
        rcases unreliable.handle (.space space) shared.1 with hsame | ⟨⟨error, herror⟩, -⟩
        · have hspace : embedded.handle (.space space) (database shared.1) =
              (.ok none, database shared.1) := by
            change Database.handle (.space space) (database shared.1) = _
            rw [Database.handle, missing.absent]
            rfl
          rw [hspace, Prod.mk.injEq] at hsame
          rw [hsame.1]
          exact ⟨rest, missing.unknown, (congrArg (table? · space) hsame.2).trans missing.absent⟩
        · rw [herror] at kept
          simp [lookFails] at kept
    | create =>
        cases hleft
        refine ⟨rfl, fun now kept => ?_⟩
        simp [creates] at kept
  unlock result shared h := nomatch h.1
  access op now shared h known :=
    ⟨fun missing => absurd known missing.unknown, fun _ h => absurd known h.2.unknown⟩

/-! ## Runs -/

theorem Op.IsOn.onlyIn (unreliable : Unreliable client database) {op : Op} (own : op.IsOn space)
    (now : Nat) (shared : σ × Writer) :
    OnlyIn (some space) (database shared.1) (database (handle client now op shared).2.1) := by
  cases op with
  | request asked => exact unreliable.onlyIn own shared.1
  | now | isKnown | lock | unlock | remember | count => exact .refl (some space) _

theorem confined_use (named : ':' ∉ space.toList) (use : Use) :
    Confined space (use.program space) := by
  cases use with
  | get key => exact confined_get named key
  | put key value ttl => exact (confined_put named key value ttl).bind fun _ => .done _
  | putIfAbsent key value ttl => exact confined_putIfAbsent named key value ttl
  | remove key => exact (confined_remove named key).bind fun _ => .done _
  | clear => exact (confined_clear named).bind fun _ => .done _

namespace Session

variable {session : Session σ Use (Option Bytes)} {creation : Action Unit}
variable {steps : List (Step Use)} {new : List (Nat × Exchange Op.Reply)}

theorem confined_turn (unreliable : Unreliable client database)
    (confined : ∀ rest ∈ session.system.calls, Confined space rest) (call now : Nat) :
    (∀ rest ∈ (session.turn client call now).system.calls, Confined space rest) ∧
      OnlyIn (some space) (database session.system.shared.1)
        (database (session.turn client call now).system.shared.1) := by
  rcases session.turn_cases call now with hsame | ⟨op, next, hcall, hfree, hturn⟩
  · rw [hsame]
    exact ⟨confined, .refl (some space) _⟩
  · rw [hturn, System.turn_of_step hcall hfree]
    have hset (rest : Action (Option Bytes)) (h : Confined space rest) :
        ∀ other ∈ session.system.calls.set call rest, Confined space other := by
      intro other hother
      rcases List.mem_or_eq_of_mem_set hother with hold | rfl
      · exact confined other hold
      · exact h
    cases confined _ (List.mem_of_getElem? hcall) with
    | look _ rest =>
        refine ⟨hset _ (rest _), ?_⟩
        rw [handle_request, unreliable.look]
        exact .refl (some space) _
    | step own rest => exact ⟨hset _ (rest _), own.onlyIn unreliable now _⟩

theorem onlyIn_run (unreliable : Unreliable client database) (named : ':' ∉ space.toList)
    (confined : ∀ rest ∈ session.system.calls, Confined space rest) (steps : List (Step Use)) :
    OnlyIn (some space) (database session.system.shared.1)
      (database (session.run client (Use.program space) steps).system.shared.1) := by
  induction steps generalizing session with
  | nil => exact .refl (some space) _
  | cons step steps ih =>
      cases step with
      | enter use =>
          refine @ih (session.enter (Use.program space) use) fun rest hrest => ?_
          rcases List.mem_append.mp hrest with hold | hnew
          · exact confined rest hold
          · rw [List.mem_singleton.mp hnew]
            exact confined_use named use
      | turn call now =>
          obtain ⟨hconfined, honly⟩ := confined_turn unreliable confined call now
          exact honly.trans (ih hconfined)

/-- All is in order while the calls see to it that the space is created. -/
abbrev Creating (client : Client σ) (database : σ → Database) (space : String) :
    Session σ Use (Option Bytes) → Action Unit → Prop :=
  Orderly space (fun shared => Created space database shared ∨ Missing space database shared)
    (Creates client database space)

abbrev Noting (space : String) : Session σ Use (Option Bytes) → Action Unit → Prop :=
  Orderly space (fun _ => True) (IsNoting space)

/-- All is in order, and there is no space, as nobody has tried to create it. -/
abbrev Untried (database : σ → Database) (space : String) :
    Session σ Use (Option Bytes) → Action Unit → Prop :=
  Orderly space (Missing space database)
    (fun left shared => Early space left ∧ Missing space database shared)

/-! ### Known spaces -/

theorem Orderly.not_eval (noting : Noting space session creation)
    (known : space ∈ session.system.shared.2.known) {call : Nat} {op : Op}
    {next : op.Reply → Action (Option Bytes)}
    (hcall : session.system.calls[call]? = some (.step op next)) (expression : String)
    (arguments : List Value) : op ≠ .request (.eval expression arguments) := by
  have hadvances := (noting.standing call _ hcall).advances
  generalize hheldBy : session.heldBy creation call = left at hadvances
  rintro rfl
  cases hadvances with
  | access _ h _ => exact h
  | create rest =>
      obtain ⟨hholder, rfl⟩ := holder_of_heldBy hheldBy
      rcases noting.held (by simp [hholder]) with ⟨-, hleft | hleft⟩ | ⟨unknown, -⟩
      · obtain ⟨search, hsearch, -⟩ := findOrCreate_isKnown space
        cases hleft.trans hsearch
      · cases hleft
      · exact unknown known

theorem not_creates {op : Op} {reply : op.Reply}
    (h : ∀ expression arguments, op ≠ .request (.eval expression arguments)) :
    creates space ⟨op, reply⟩ = false ∧ dropFails space ⟨op, reply⟩ = false := by
  cases op with
  | request asked =>
      cases asked with
      | eval expression arguments => exact absurd rfl (h expression arguments)
      | space | refreshMetadata | select | insert | replace | update | upsert | delete | truncate
      | call => exact ⟨rfl, rfl⟩
  | now | isKnown | lock | unlock | remember | count => exact ⟨rfl, rfl⟩

theorem Orderly.turn_known (noting : Noting space session creation)
    (known : space ∈ session.system.shared.2.known) {call now : Nat}
    (hlog : (session.turn client call now).log = session.log ++ new) :
    space ∈ (session.turn client call now).system.shared.2.known ∧
      ∀ entry ∈ new, creates space entry.2 = false ∧ dropFails space entry.2 = false := by
  rcases session.turn_cases call now with hsame | ⟨op, next, hcall, hfree, -⟩
  · rw [hsame] at hlog ⊢
    have hnil : new = [] := List.self_eq_append_right.mp hlog
    exact ⟨known, hnil ▸ List.forall_mem_nil _⟩
  · rw [log_turn hcall hfree hlog, turn_of_step hcall hfree, System.turn_of_step hcall hfree]
    refine ⟨mem_known_handle now op _ known, fun entry hentry => ?_⟩
    rw [List.mem_singleton.mp hentry]
    exact not_creates (noting.not_eval known hcall)

/-- Once the space is known nobody tries to create it again, or to drop it. -/
theorem Orderly.run_known (noting : Noting space session creation)
    (known : space ∈ session.system.shared.2.known)
    (hlog : (session.run client (Use.program space) steps).log = session.log ++ new) :
    space ∈ (session.run client (Use.program space) steps).system.shared.2.known ∧
      ∀ entry ∈ new, creates space entry.2 = false ∧ dropFails space entry.2 = false := by
  suffices h : ((∃ later, Noting space (session.run client (Use.program space) steps) later) ∧
      space ∈ (session.run client (Use.program space) steps).system.shared.2.known) ∧
      ∀ entry ∈ new, creates space entry.2 = false ∧ dropFails space entry.2 = false from
    ⟨h.1.2, h.2⟩
  refine run_induction
    (motive := fun session => (∃ creation, Noting space session creation) ∧
      space ∈ session.system.shared.2.known)
    (p := fun _ => True)
    (q := fun exchange => creates space exchange = false ∧ dropFails space exchange = false)
    ?_ ⟨⟨creation, noting⟩, known⟩ hlog fun _ _ => trivial
  rintro session step new ⟨⟨creation, noting⟩, known⟩ hlog -
  cases step with
  | enter use =>
      have hnil : new = [] := List.self_eq_append_right.mp hlog
      exact ⟨⟨⟨creation, noting.enter use⟩, known⟩, hnil ▸ List.forall_mem_nil _⟩
  | turn call now =>
      obtain ⟨hknown, hnew⟩ := noting.turn_known known hlog
      exact ⟨⟨noting.turn (guards_noting client space) hlog fun _ _ => rfl, hknown⟩, hnew⟩

theorem Orderly.created (creating : Creating client database space session creation)
    (known : space ∈ session.system.shared.2.known) :
    Created space database session.system.shared := by
  by_cases hholder : session.system.holder = none
  · rcases (creating.free hholder).1 with created | missing
    · exact created
    · exact absurd known missing.unknown
  · exact ((creating.held hholder).of_known known).1

/-! ### Spaces nobody has tried to create -/

theorem Orderly.turn_untried (orderly : Untried database space session creation)
    (unknown : space ∉ session.system.shared.2.known) {call : Nat}
    (hcall : (ensureSpace space).result? (session.transcript call) = none) (other now : Nat) :
    (ensureSpace space).result? ((session.turn client other now).transcript call) = none := by
  rcases session.turn_cases other now with hsame | ⟨op, next, hother, hfree, -⟩
  · rw [hsame]
    exact hcall
  rw [transcript_turn hother hfree]
  by_cases hsame : other = call
  · subst hsame
    rw [if_pos rfl]
    have hadvances := (orderly.standing other _ hother).advances
    generalize hheldBy : session.heldBy creation other = left at hadvances
    cases hadvances with
    | enter _ _ unended =>
        have hunknown : session.system.shared.2.known.contains space = false := by
          simpa using unknown
        rw [handle_isKnown, hunknown]
        exact unended unknown
    | lock rest => exact rest.unended
    | create rest => exact (rest _).unended
    | unlock =>
        obtain ⟨hholder, rfl⟩ := holder_of_heldBy hheldBy
        exact nomatch (orderly.held (by simp [hholder])).1
    | access there => exact absurd there unknown
  · rw [if_neg hsame, List.append_nil]
    exact hcall

theorem Orderly.run_untried (unreliable : Unreliable client database)
    (orderly : Untried database space session creation) {call : Nat}
    (hcall : (ensureSpace space).result? (session.transcript call) = none)
    (hlog : (session.run client (Use.program space) steps).log = session.log ++ new)
    (hnew : ∀ entry ∈ new, (creates space entry.2 || lookFails space entry.2) = false) :
    (ensureSpace space).result? ((session.run client (Use.program space) steps).transcript call) =
      none := by
  refine (run_induction
    (motive := fun session => (∃ creation, Untried database space session creation) ∧
      (ensureSpace space).result? (session.transcript call) = none)
    (p := fun exchange => (creates space exchange || lookFails space exchange) = false)
    (q := fun _ => True) ?_ ⟨⟨creation, orderly⟩, hcall⟩ hlog hnew).1.2
  rintro session step new ⟨⟨creation, orderly⟩, hcall⟩ hlog hnew
  refine ⟨?_, fun _ _ => trivial⟩
  cases step with
  | enter use => exact ⟨⟨creation, orderly.enter use⟩, hcall⟩
  | turn other now =>
      have unknown : space ∉ session.system.shared.2.known := by
        by_cases hholder : session.system.holder = none
        · exact (orderly.free hholder).1.unknown
        · exact (orderly.held hholder).2.unknown
      exact ⟨orderly.turn (guards_early unreliable) hlog hnew,
        orderly.turn_untried unknown hcall other now⟩

/-! ### The beginning -/

theorem orderly_start {free : σ × Writer → Prop} (held : Action Unit → σ × Writer → Prop)
    {shared : σ × Writer} (hfree : free shared) (unknown : space ∉ shared.2.known) :
    Orderly space free held (start shared) (.done (.ok ())) where
  coherent := coherent_start shared
  standing := nofun
  begun := nofun
  free _ := ⟨hfree, fun known => absurd known unknown⟩
  held h := absurd rfl h

theorem Orderly.holder_unended {free : σ × Writer → Prop} {held : Action Unit → σ × Writer → Prop}
    (orderly : Orderly space free held session creation) {call : Nat}
    (h : session.system.holder = some call) :
    (ensureSpace space).result? (session.transcript call) = none := by
  have hlt : call < session.system.calls.length :=
    orderly.coherent.length_eq ▸ orderly.begun call h
  have hstanding := orderly.standing call _ (List.getElem?_eq_getElem hlt)
  rw [heldBy, if_pos h] at hstanding
  exact hstanding.unended

theorem Orderly.known {free : σ × Writer → Prop} {held : Action Unit → σ × Writer → Prop}
    (orderly : Orderly space free held session creation) (found : session.HasFound space) :
    space ∈ session.system.shared.2.known := by
  obtain ⟨call, hfound⟩ := found
  rcases Nat.lt_or_ge call session.begun.length with hlt | hge
  · have hstanding := orderly.standing call _
      (List.getElem?_eq_getElem (orderly.coherent.length_eq ▸ hlt))
    generalize session.heldBy creation call = left at hstanding
    exact hstanding.of_found hfound
  · rw [orderly.coherent.transcript_of_le hge] at hfound
    cases hfound

theorem Orderly.tries (unreliable : Unreliable client database)
    (untried : Untried database space session creation) (use : Use) {more : List (Step Use)}
    (hended : (ensureSpace space).result? (((session.enter (Use.program space) use).run client
      (Use.program space) more).transcript session.begun.length) ≠ none) :
    ∃ entry ∈ ((session.enter (Use.program space) use).run client (Use.program space) more).log.drop
      session.log.length, creates space entry.2 || lookFails space entry.2 := by
  obtain ⟨new, hlog⟩ := log_run client (Use.program space)
    (session.enter (Use.program space) use) more
  have hnew : ((session.enter (Use.program space) use).run client (Use.program space) more).log.drop
      session.log.length = new := by
    rw [hlog]
    exact List.drop_left
  rw [hnew]
  by_contra hnone
  refine hended ((untried.enter use).run_untried unreliable ?_ hlog fun entry hentry => ?_)
  · change (ensureSpace space).result? (session.transcript session.begun.length) = none
    rw [untried.coherent.transcript_of_le (Nat.le_refl _)]
    rfl
  · exact Bool.eq_false_iff.mpr fun htries => hnone ⟨entry, hentry, htries⟩

end Session

/--
A cache is used for the first time, by calls which take turns, on a client that may fail at any
request.  No other space changes, and once a search has ended well nobody tries to create the
space again.  As long as no drop fails, the space is missing while no call has the lock and no
search has ended well, and the next use tries to create it; from the first search which ends well
it is there with its fields and indexes.
-/
theorem first_uses_create_space (unreliable : Unreliable client database)
    (named : ':' ∉ space.toList) {shared : σ × Writer} (missing : Missing space database shared)
    (steps : List (Session.Step Use)) :
    let session := (Session.start shared).run client (Use.program space) steps
    OnlyIn (some space) (database shared.1) (database session.system.shared.1) ∧
      (∀ call, session.system.holder = some call →
        (ensureSpace space).result? (session.transcript call) = none) ∧
      (session.HasFound space → ∀ more,
        let later := session.run client (Use.program space) more
        ∀ entry ∈ later.log.drop session.log.length, creates space entry.2 = false) ∧
      ((∀ entry ∈ session.log, dropFails space entry.2 = false) →
        (session.system.holder = none → ¬session.HasFound space →
          (database session.system.shared.1).table? space = none ∧
          ∀ use more,
            let again := (session.enter (Use.program space) use).run client (Use.program space) more
            (ensureSpace space).result? (again.transcript session.begun.length) ≠ none →
              ∃ entry ∈ again.log.drop session.log.length,
                creates space entry.2 || lookFails space entry.2) ∧
        (session.HasFound space → ∀ more,
          let later := session.run client (Use.program space) more
          HasSpace space (database later.system.shared.1))) := by
  intro session
  have hcalls : ∀ rest ∈ (Session.start shared : Session σ Use (Option Bytes)).system.calls,
      Confined space rest := List.forall_mem_nil _
  have hlog : session.log = (Session.start shared : Session σ Use (Option Bytes)).log ++
      session.log := rfl
  obtain ⟨_, noting⟩ := (Session.orderly_start (IsNoting space) trivial missing.unknown).run
    (guards_noting client space) hlog fun _ _ => rfl
  have hknown (found : session.HasFound space) (more : List (Session.Step Use)) :
      ∃ new, (session.run client (Use.program space) more).log = session.log ++ new ∧
        space ∈ (session.run client (Use.program space) more).system.shared.2.known ∧
        ∀ entry ∈ new, creates space entry.2 = false ∧ dropFails space entry.2 = false := by
    obtain ⟨new, hmore⟩ := Session.log_run client (Use.program space) session more
    exact ⟨new, hmore, noting.run_known (noting.known found) hmore⟩
  refine ⟨Session.onlyIn_run unreliable named hcalls steps, fun call => noting.holder_unended,
    fun found more => ?_, fun kept => ?_⟩
  · obtain ⟨new, hmore, -, hnew⟩ := hknown found more
    dsimp only
    rw [hmore, List.drop_left]
    exact fun entry hentry => (hnew entry hentry).1
  obtain ⟨creation, creating⟩ := (Session.orderly_start (Creates client database space)
    (.inr missing) missing.unknown).run (guards_creates unreliable named) hlog kept
  refine ⟨fun hholder hfound => ?_, fun found more => ?_⟩
  · obtain ⟨created | missing, hfree⟩ := creating.free hholder
    · exact absurd (hfree created.known) hfound
    · have untried : Session.Untried database space session creation :=
        ⟨creating.coherent, creating.standing, creating.begun, fun _ => ⟨missing, hfree⟩,
          fun h => absurd hholder h⟩
      exact ⟨missing.absent, fun use more => untried.tries unreliable use⟩
  · obtain ⟨new, hmore, known, hnew⟩ := hknown found more
    obtain ⟨later, hlater⟩ := creating.run (guards_creates unreliable named) hmore
      fun entry hentry => (hnew entry hentry).2
    exact (hlater.created known).complete

def flaky : Client (Database × List Bool) where
  origin := .embedded
  handle asked := fun
    | (database, true :: script) => (.error (.custom .embedded "no answer"), database, script)
    | (database, script) =>
        let (reply, database) := database.handle asked
        (reply, database, script.tail)

theorem unreliable_flaky : Unreliable flaky Prod.fst := by
  refine ⟨fun asked (database, script) => ?_⟩
  rcases script with _ | ⟨failing, script⟩
  · exact .inl rfl
  · cases failing with
    | true => exact .inr ⟨⟨_, rfl⟩, rfl⟩
    | false => exact .inl rfl

/-- The format is refused, so the space is dropped. -/
def refusedSteps : List (Session.Step Use) := .enter (.get [7]) :: List.replicate 8 (.turn 0 0)

def laterSteps : List (Session.Step Use) :=
  .enter (.put [7] [1] .zero) :: .enter (.get [7]) ::
    (List.range 40).map fun turn => .turn (1 + turn % 2) 0

def lastSteps : List (Session.Step Use) := .enter .clear :: List.replicate 2 (.turn 3 0)

theorem first_uses_create_books :
    let shared : (Database × List Bool) × Writer := (({}, [false, false, true]), {})
    let refused := (Session.start shared).run flaky (Use.program "books") refusedSteps
    let found := (Session.start shared).run flaky (Use.program "books") (refusedSteps ++ laterSteps)
    let last := found.run flaky (Use.program "books") lastSteps
    ':' ∉ "books".toList ∧ Missing "books" Prod.fst shared ∧
      ¬refused.HasFound "books" ∧ refused.system.shared.1.1.table? "books" = none ∧
      found.HasFound "books" ∧ HasSpace "books" last.system.shared.1.1 := by
  have named : ':' ∉ "books".toList := by decide
  have missing : Missing "books" Prod.fst
      (((({}, [false, false, true]), {}) : (Database × List Bool) × Writer)) := ⟨nofun, rfl⟩
  obtain ⟨-, -, -, hrefusal⟩ := first_uses_create_space unreliable_flaky named missing refusedSteps
  obtain ⟨-, -, -, hfinding⟩ :=
    first_uses_create_space unreliable_flaky named missing (refusedSteps ++ laterSteps)
  obtain ⟨hmissing, -⟩ := hrefusal (by decide +kernel)
  obtain ⟨-, hcreated⟩ := hfinding (by decide +kernel)
  dsimp only at hmissing hcreated ⊢
  have hrefused : ¬((Session.start (({}, [false, false, true]), {})).run flaky
      (Use.program "books") refusedSteps).HasFound "books" := by
    rintro ⟨call, hcall⟩
    have hlog : ∀ entry ∈ ((Session.start (({}, [false, false, true]), {})).run flaky
        (Use.program "books") refusedSteps).log, entry.1 = 0 := by decide +kernel
    cases call with
    | zero =>
        have hok := congrArg (Option.any Except.isOk) hcall
        revert hok
        decide +kernel
    | succ other =>
        rw [Session.transcript, List.filter_eq_nil_iff.mpr fun entry hentry => by
          rw [hlog entry hentry]
          simp] at hcall
        cases hcall
  have hfound : ((Session.start (({}, [false, false, true]), {})).run flaky
      (Use.program "books") (refusedSteps ++ laterSteps)).HasFound "books" := by
    have hok (result : Option (Except Failure Unit)) (h : result.any Except.isOk = true) :
        result = some (.ok ()) := by
      rcases result with _ | _ | _
      · cases h
      · cases h
      · rfl
    exact ⟨1, hok _ (by decide +kernel)⟩
  exact ⟨named, missing, hrefused, (hmissing (by decide +kernel) hrefused).1, hfound,
    hcreated hfound lastSteps⟩

end TupleStore.Cache
