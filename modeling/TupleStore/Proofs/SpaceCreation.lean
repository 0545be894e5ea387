import TupleStore.Proofs.AllOrNothing
import TupleStore.Proofs.CacheIsolation
import TupleStore.Proofs.SharedSearch
import TupleStore.Proofs.Transcripts

/-!
# The creation of a space

A cache finds its space, or creates it, formats it and gives it its indexes, by one request
after another.  When one of them fails the space is dropped again; in the end it is there with
all that belongs to it, or not at all, unless dropping it has failed as well.
-/

namespace TupleStore

open Database

variable {σ α : Type} {client : Client σ} {database : σ → Database} {space : String}

/-! ## Clients which may fail -/

/-- The client does what a database does, but any request may fail and change nothing. -/
structure Unreliable (client : Client σ) (database : σ → Database) : Prop where
  handle (asked : Request) (state : σ) :
    ((client.handle asked state).1, database (client.handle asked state).2) =
        embedded.handle asked (database state) ∨
      (∃ error, (client.handle asked state).1 = .error error) ∧
        database (client.handle asked state).2 = database state

namespace Database

theorem sparesProcedures_of_isOn {asked : Request} (own : asked.IsOn space) :
    (Operation.ask asked).sparesProcedures = true := by
  cases asked with
  | call function arguments =>
      obtain ⟨method, hmethod⟩ := own
      exact Option.isSome_iff_exists.mpr ⟨_, hmethod⟩
  | space | refreshMetadata | select | insert | replace | update | upsert | delete | truncate
  | eval => rfl

theorem named?_of_isOn {asked : Request} (own : asked.IsOn space) :
    asked = .refreshMetadata ∨ asked.named? = some space := by
  cases asked with
  | refreshMetadata => exact .inl rfl
  | select | replace | delete | truncate => exact .inr (congrArg some own)
  | call function arguments =>
      obtain ⟨method, hmethod⟩ := own
      exact .inr (congrArg (Option.map Prod.fst) hmethod)
  | eval expression arguments =>
      right
      rw [Request.named?, expressionSpace?]
      rcases own with hcreated | ⟨hcreated, method, hmethod⟩
      · rw [hcreated]
      · rw [hcreated, hmethod]
        rfl
  | space | insert | update | upsert => exact own.elim

theorem onlyIn_handle {asked : Request} (own : asked.IsOn space) (before : Database) :
    OnlyIn (some space) before (embedded.handle asked before).2 := by
  rcases named?_of_isOn own with rfl | hnamed
  · exact .refl (some space) before
  · exact hnamed ▸ (allOrNothing_handle (sparesProcedures_of_isOn own)).onlyIn

end Database

theorem Unreliable.onlyIn (unreliable : Unreliable client database) {asked : Request}
    (own : asked.IsOn space) (state : σ) :
    OnlyIn (some space) (database state) (database (client.handle asked state).2) := by
  rcases unreliable.handle asked state with hsame | ⟨-, hkept⟩
  · have h := onlyIn_handle own (database state)
    rwa [← hsame] at h
  · rw [hkept]
    exact .refl (some space) (database state)

theorem Unreliable.look (unreliable : Unreliable client database) (name : String) (state : σ) :
    database (client.handle (.space name) state).2 = database state := by
  rcases unreliable.handle (.space name) state with hsame | ⟨-, hkept⟩
  · exact congrArg Prod.snd hsame
  · exact hkept

namespace Cache

open Entries

/-! ## The space -/

/-- The space is there with the fields and the indexes which caches give to their spaces. -/
def HasSpace (space : String) (database : Database) : Prop :=
  ∃ table, database.table? space = some table ∧
    table.space.format = entryFields ∧ table.space.indexes = [keyIndex, expiryIndex]

structure Created (space : String) (database : σ → Database) (shared : σ × Writer) : Prop where
  known : space ∈ shared.2.known
  complete : HasSpace space (database shared.1)

structure Missing (space : String) (database : σ → Database) (shared : σ × Writer) : Prop where
  unknown : space ∉ shared.2.known
  absent : (database shared.1).table? space = none

def OnTuples (space : String) : Request → Prop
  | .select other _ | .replace other _ | .delete other _ | .truncate other => other = space
  | _ => False

theorem space_onTable {β γ : Type} {before : Database} {change : Table → Except Fault β}
    {next : β → γ × Table}
    (h : ∀ table result, change table = .ok result → (next result).2.space = table.space) :
    ((before.onTable space change next).2.table? space).map Table.space =
      (before.table? space).map Table.space := by
  cases htable : before.table? space with
  | none =>
      rw [onTable, Database.table, htable]
      exact congrArg (Option.map _) htable
  | some table =>
      cases hchange : change table with
      | error fault =>
          rw [onTable_error htable hchange]
          exact congrArg (Option.map _) htable
      | ok result =>
          have hspace := h table result hchange
          rw [onTable_ok htable hchange, table?_putTable htable (congrArg Space.name hspace)]
          exact congrArg some hspace

theorem space_handle {asked : Request} (h : OnTuples space asked) (before : Database) :
    ((embedded.handle asked before).2.table? space).map Table.space =
      (before.table? space).map Table.space := by
  cases asked with
  | select other conditions =>
      cases h
      change ((before.commit _ _).2.table? space).map Table.space = _
      rw [commit_read_eq]
  | replace other tuple =>
      cases h
      exact space_onTable fun _ _ h => Table.replace_space h
  | delete other key =>
      cases h
      exact space_onTable fun _ _ h => Table.delete_space h
  | truncate other =>
      cases h
      change ((before.commit (before.truncate space) _).2.table? space).map Table.space = _
      cases htable : before.table? space with
      | none =>
          rw [Database.truncate, Database.table, htable]
          exact congrArg (Option.map _) htable
      | some table =>
          rw [Database.truncate, table_of_table? htable]
          have hempty : (before.putTable ⟨table.space, []⟩).table? space =
              some ⟨table.space, []⟩ := table?_putTable htable rfl
          change ((before.putTable ⟨table.space, []⟩).table? space).map Table.space = _
          rw [hempty]
          rfl
  | space | refreshMetadata | insert | update | upsert | call | eval => exact h.elim

theorem Created.request (unreliable : Unreliable client database) {asked : Request}
    (h : OnTuples space asked) {state : σ} {writer : Writer}
    (created : Created space database (state, writer)) :
    Created space database ((client.handle asked state).2, writer) := by
  refine ⟨created.known, ?_⟩
  rcases unreliable.handle asked state with hsame | ⟨-, hkept⟩
  · obtain ⟨table, htable, hfields, hindexes⟩ := created.complete
    have hspace := space_handle h (database state)
    rw [← hsame, htable] at hspace
    obtain ⟨after, hafter, hdescribed⟩ := Option.map_eq_some_iff.mp hspace
    exact ⟨after, hafter, hdescribed ▸ hfields, hdescribed ▸ hindexes⟩
  · exact (congrArg (HasSpace space) hkept).mpr created.complete

/-! ## The creation -/

def dropFails (space : String) : Exchange Op.Reply → Bool
  | ⟨.request (.eval expression _), .error _⟩ =>
      expression = "box.space." ++ space ++ ":drop()"
  | _ => false

/--
What is left of a search, which has the lock, will have created the space or leave none,
whatever fails; only when the space cannot be dropped nothing is said.
-/
inductive Creates (client : Client σ) (database : σ → Database) (space : String) :
    Action Unit → σ × Writer → Prop
  | created {shared : σ × Writer} (h : Created space database shared) :
      Creates client database space (.done (.ok ())) shared
  | failed {shared : σ × Writer} (h : Missing space database shared) (failure : Failure) :
      Creates client database space (.done (.error failure)) shared
  /-- Another call has created the space. -/
  | again {shared : σ × Writer} (h : Created space database shared) :
      Creates client database space (findOrCreate space) shared
  | step {op : Op} {next : op.Reply → Action Unit} {shared : σ × Writer}
      (quiet : op.isQuiet = true) (unknown : space ∉ shared.2.known)
      (h : ∀ now, dropFails space ⟨op, (handle client now op shared).1⟩ = false →
        Creates client database space (next (handle client now op shared).1)
          (handle client now op shared).2) :
      Creates client database space (.step op next) shared

namespace Creates

variable {state : σ} {writer : Writer} {asked : Request} {next : asked.Reply → Action Unit}

theorem request (unreliable : Unreliable client database) (unknown : space ∉ writer.known)
    (quiet : (Op.request asked).isQuiet = true) {reply : asked.Reply} {after : Database}
    (h : embedded.handle asked (database state) = (reply, after))
    (answered : ∀ later, database later = after →
      dropFails space ⟨.request asked, reply⟩ = false →
      Creates client database space (next reply) (later, writer))
    (failed : ∀ error later, database later = database state →
      dropFails space ⟨.request asked, .error error⟩ = false →
      Creates client database space (next (.error error)) (later, writer)) :
    Creates client database space (.step (.request asked) next) (state, writer) := by
  refine .step quiet unknown fun now hkept => ?_
  rw [handle_request] at hkept ⊢
  rcases unreliable.handle asked state with hsame | ⟨⟨error, herror⟩, hdatabase⟩
  · rw [h, Prod.mk.injEq] at hsame
    rw [hsame.1] at hkept ⊢
    exact answered _ hsame.2 hkept
  · rw [herror] at hkept ⊢
    exact failed error _ hdatabase hkept

theorem table?_of_drop (named : ':' ∉ space.toList) {before after : Database} {rows : List Value}
    (h : embedded.handle (.eval ("box.space." ++ space ++ ":drop()") []) before =
      (.ok rows, after)) : after.table? space = none := by
  obtain ⟨hcreated, hmethod⟩ := evaluate_drop named
  simp only [embedded, Database.handle, evaluate, hcreated, hmethod, runMethod] at h
  cases hdrop : before.dropSpace space with
  | error fault =>
      rw [hdrop] at h
      cases h
  | ok dropped =>
      rw [hdrop] at h
      cases h
      obtain ⟨table, -, hdropped⟩ := bind_eq_ok.mp hdrop
      cases hdropped
      refine List.find?_eq_none.mpr fun table htable hname => ?_
      have hother := (List.mem_filter.mp htable).2
      rw [bne, hname] at hother
      cases hother

theorem dropFails_error (space : String) (arguments : List Value) (error : ClientError) :
    dropFails space ⟨.request (.eval ("box.space." ++ space ++ ":drop()") arguments),
      .error error⟩ = true := decide_eq_true rfl

theorem drop (unreliable : Unreliable client database) (named : ':' ∉ space.toList)
    (unknown : space ∉ writer.known) (failure : Failure)
    {next : (Request.eval ("box.space." ++ space ++ ":drop()") []).Reply → Action Unit}
    (hnext : ∀ reply, next reply = .done (.error failure)) :
    Creates client database space
      (.step (.request (.eval ("box.space." ++ space ++ ":drop()") [])) next) (state, writer) := by
  cases hdrop : embedded.handle (.eval ("box.space." ++ space ++ ":drop()") [])
    (database state) with
  | mk reply after =>
      refine .request unreliable unknown rfl hdrop (fun later hlater hkept => ?_)
        fun error later _ hkept => ?_
      · cases reply with
        | ok rows =>
            rw [hnext]
            exact .failed ⟨unknown, hlater ▸ table?_of_drop named hdrop⟩ failure
        | error error =>
            rw [dropFails_error] at hkept
            cases hkept
      · rw [dropFails_error] at hkept
        cases hkept

theorem isKnown (unknown : space ∉ writer.known) {next : Bool → Action Unit}
    (rest : Creates client database space (next false) (state, writer)) :
    Creates client database space (.step (.isKnown space) next) (state, writer) := by
  have hunknown : writer.known.contains space = false := by simpa using unknown
  refine .step rfl unknown fun now _ => ?_
  rw [handle_isKnown, hunknown]
  exact rest

theorem of_missing (unreliable : Unreliable client database) (named : ':' ∉ space.toList)
    (missing : Missing space database (state, writer)) :
    Creates client database space (findOrCreate space) (state, writer) := by
  obtain ⟨unknown, absent⟩ := missing
  have plain := isPlain_of_not_mem named
  have hspace : embedded.handle (.space space) (database state) = (.ok none, database state) := by
    change Database.handle (.space space) (database state) = _
    rw [Database.handle, show (database state).table? space = none from absent]
    rfl
  have failed (failure : Failure) {later : σ} (h : (database later).table? space = none) :
      Creates client database space (.done (.error failure)) (later, writer) := by
    have missing : Missing space database (later, writer) := ⟨unknown, h⟩
    exact .failed missing failure
  refine .isKnown unknown ?_
  refine .request unreliable unknown rfl hspace (fun looked h _ => ?_)
    fun error later h _ => failed _ (h ▸ absent)
  replace absent : (database looked).table? space = none := h ▸ absent
  refine .request unreliable unknown rfl (handle_create plain absent) (fun created h _ => ?_)
    fun error later h _ => failed _ (h ▸ absent)
  -- from here on the drop follows a request which fails
  have hcreated := (congrArg (table? · space) h).trans (table?_append absent _ rfl _)
  refine .request unreliable unknown rfl (handle_format plain hcreated) (fun formatted h _ => ?_)
    fun error later _ _ => .drop unreliable named unknown _ fun reply => by cases reply <;> rfl
  have hformatted := (congrArg (table? · space) h).trans (table?_putTable hcreated rfl)
  refine .request unreliable unknown rfl
    (handle_createIndex "primary" "key" true plain hformatted rfl) (fun keyed h _ => ?_)
    fun error later _ _ => .drop unreliable named unknown _ fun reply => by cases reply <;> rfl
  have hkeyed := (congrArg (table? · space) h).trans (table?_putTable hformatted rfl)
  refine .request unreliable unknown rfl
    (handle_createIndex "expiry_time" "expiry_time" false plain hkeyed rfl) (fun indexed h _ => ?_)
    fun error later _ _ => .drop unreliable named unknown _ fun reply => by cases reply <;> rfl
  have hindexed := (congrArg (table? · space) h).trans (table?_putTable hkeyed rfl)
  refine .request unreliable unknown rfl rfl (fun refreshed h _ => ?_)
    fun error later _ _ => .drop unreliable named unknown _ fun reply => by cases reply <;> rfl
  exact .step rfl unknown fun now _ =>
    .created ⟨List.mem_cons_self, _, h ▸ hindexed, rfl, rfl⟩

theorem advance {op : Op} {rest : op.Reply → Action Unit} {shared : σ × Writer}
    (h : Creates client database space (.step op rest) shared) :
    op.isQuiet = true ∧ ∀ now, dropFails space ⟨op, (handle client now op shared).1⟩ = false →
      Creates client database space (rest (handle client now op shared).1)
        (handle client now op shared).2 := by
  generalize hleft : Program.step op rest = left at h
  cases h with
  | created | failed => cases hleft
  | again created =>
      obtain ⟨search, hsearch, hdone⟩ := findOrCreate_isKnown space
      cases hleft.trans hsearch
      have hknown : shared.2.known.contains space = true := by simpa using created.known
      refine ⟨rfl, fun now _ => ?_⟩
      rw [handle_isKnown, hknown, hdone]
      exact .created created
  | step quiet _ h =>
      cases hleft
      exact ⟨quiet, h⟩

theorem ended {result : Except Failure Unit} {shared : σ × Writer}
    (h : Creates client database space (.done result) shared) :
    (Created space database shared ∨ Missing space database shared) ∧
      (result = .ok () ↔ space ∈ shared.2.known) := by
  generalize hleft : Program.done result = left at h
  cases h with
  | created created =>
      cases hleft
      exact ⟨.inl created, iff_of_true rfl created.known⟩
  | failed missing failure =>
      cases hleft
      exact ⟨.inr missing, iff_of_false nofun missing.unknown⟩
  | again | step => cases hleft

theorem of_known {left : Action Unit} {shared : σ × Writer}
    (h : Creates client database space left shared) (known : space ∈ shared.2.known) :
    Created space database shared ∧ ∀ later, Created space database later →
      Creates client database space left later := by
  cases h with
  | created created => exact ⟨created, fun later => .created⟩
  | again created => exact ⟨created, fun later => .again⟩
  | failed missing => exact absurd known missing.unknown
  | step _ unknown => exact absurd known unknown

end Creates

end Cache

end TupleStore
