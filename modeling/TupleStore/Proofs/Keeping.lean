import Mathlib.Data.Option.Basic
import TupleStore.Proofs.LinkUse

/-!
# In whose hands the links are

A link is in the hands of one task at a time, or in one slot of the pool.  In a slot
all its requests are answered, and everything which its server has written is read.
-/

namespace TupleStore.Network

/-! ## What an operation does -/

def Effect (task : Nat) (pool : PoolState) (lines : List Line) :
    (op : Op) → op.Reply → PoolState → List Line → Prop
  | .connect .., .ok link, after, rest =>
      after.slots = pool.slots ∧ link = lines.length ∧
        ∃ greeting, greeting.length = Greeting.size ∧
          rest = lines ++ [{ flying := greeting : Line }]
  | .send link packet _, _, after, rest =>
      after.slots = pool.slots ∧
        ∃ line, lines[link]? = some line ∧ rest = lines.set link (line.send task packet)
  | .receive link _ _, .error _, after, rest =>
      after.slots = pool.slots ∧
        ∃ line lost, lines[link]? = some line ∧ rest = lines.set link (line.read lost)
  | .receive link count _, .ok bytes, after, rest =>
      after.slots = pool.slots ∧
        ∃ line, lines[link]? = some line ∧ count ≤ line.arrived.length ∧
          bytes = line.arrived.take count ∧ rest = lines.set link (line.read count)
  | .acquire slot, connection, after, rest =>
      connection = pool.slots.getD slot none ∧ after.slots = pool.slots.set slot none ∧
        rest = lines
  | .release slot connection, _, after, rest =>
      after.slots = pool.slots.set slot connection ∧ rest = lines
  | _, _, after, rest => after.slots = pool.slots ∧ rest = lines

theorem guard_pos {m : Type → Type} [Alternative m] {p : Prop} [Decidable p] (h : p) :
    (guard p : m Unit) = pure () := if_pos h

theorem guard_neg {m : Type → Type} [Alternative m] {p : Prop} [Decidable p] (h : ¬ p) :
    (guard p : m Unit) = failure := if_neg h

theorem effect_of_handle {task : Nat} {choice : Choice} {op : Op} {reply : op.Reply}
    {pool after : PoolState} {lines rest : List Line}
    (h : (handle (wire task choice) op pool).run lines = some ((reply, after), rest)) :
    Effect task pool lines op reply after rest := by
  cases op with
  | now | close | turn | schema | setSchema =>
      cases h
      exact ⟨rfl, rfl⟩
  | acquire slot =>
      cases h
      exact ⟨rfl, rfl, rfl⟩
  | release slot connection =>
      cases h
      exact ⟨rfl, rfl⟩
  | connect address deadlines =>
      simp only [handle, wire] at h
      cases hchoice : choice.interruption with
      | some interruption =>
          rw [hchoice] at h
          cases h
          exact ⟨rfl, rfl⟩
      | none =>
          rw [hchoice] at h
          by_cases hsize : choice.greeting.length = Greeting.size
          · rw [guard_pos hsize] at h
            cases h
            exact ⟨rfl, rfl, _, hsize, rfl⟩
          · rw [guard_neg hsize] at h
            cases h
  | send link packet deadlines =>
      simp only [handle, wire, StateT.run_bind, StateT.run_get, pure_bind] at h
      cases hline : lines[link]? with
      | none =>
          rw [hline] at h
          cases h
      | some line =>
          rw [hline] at h
          have hrest : after.slots = pool.slots ∧ rest = lines.set link (line.send task packet) := by
            cases hchoice : choice.interruption <;> rw [hchoice] at h <;> cases h <;>
              exact ⟨rfl, rfl⟩
          cases reply <;> exact ⟨hrest.1, line, hline, hrest.2⟩
  | receive link count deadlines =>
      simp only [handle, wire, StateT.run_bind, StateT.run_get, pure_bind] at h
      cases hline : lines[link]? with
      | none =>
          rw [hline] at h
          cases h
      | some line =>
          rw [hline] at h
          cases hchoice : choice.interruption with
          | some interruption =>
              rw [hchoice] at h
              cases h
              exact ⟨rfl, line, choice.lost, hline, rfl⟩
          | none =>
              rw [hchoice] at h
              dsimp only at h
              by_cases hcount : count ≤ line.arrived.length
              · rw [guard_pos hcount] at h
                cases h
                exact ⟨rfl, line, hline, hcount, rfl, rfl⟩
              · rw [guard_neg hcount] at h
                cases h

/-! ## Lines -/

namespace Line

/-- The server has answered the request with a response which carries its number. -/
def Answered (line : Line) (request : Nat) : Prop :=
  ∃ asked payload, line.requests[request]? = some asked ∧ (request, payload) ∈ line.answers ∧
    Answers asked.2 payload

/-- Nothing is left to be answered or read. -/
structure Quiet (line : Line) : Prop where
  unread : line.unread = []
  answered : ∀ request < line.requests.length, line.Answered request

end Line

inductive Keeper where
  | task (task : Nat)
  | slot (slot : Nat)
  deriving DecidableEq, Repr

inductive Phase.Fits (task : Nat) (line : Line) : Phase → Prop
  | greeting (requests : line.requests = []) (unread : line.unread.length = Greeting.size) :
      Fits task line .greeting
  | quiet (quiet : line.Quiet) : Fits task line .quiet
  | asked {packet : Bytes} {earlier : List (Nat × Bytes)}
      (requests : line.requests = earlier ++ [(task, packet)]) (unread : line.unread = [])
      (below : ∀ answer ∈ line.answers, answer.1 < earlier.length) :
      Fits task line (.asked packet)
  | answered {packet head payload : Bytes} {earlier : List (Nat × Bytes)}
      (requests : line.requests = earlier ++ [(task, packet)])
      (unread : line.unread = head ++ payload) (announced : Line.announces head payload = true)
      (answer : (earlier.length, payload) ∈ line.answers) : Fits task line (.asked packet)
  | reading {packet payload : Bytes} {earlier : List (Nat × Bytes)}
      (requests : line.requests = earlier ++ [(task, packet)]) (unread : line.unread = payload)
      (answer : (earlier.length, payload) ∈ line.answers) : Fits task line (.reading packet payload)
  | broken : Fits task line .broken

theorem Phase.Fits.of_quiet {task : Nat} {line : Line} (fits : Phase.quiet.Fits task line) :
    line.Quiet := by
  cases fits with
  | quiet quiet => exact quiet

/-- All requests but the last are answered; those before the keeper's are of tasks which are done. -/
structure Line.Orderly (line : Line) (clean : Nat → Prop) (keeper : Keeper) : Prop where
  below : ∀ answer ∈ line.answers, answer.1 < line.requests.length
  answered : ∀ request, request + 1 < line.requests.length → line.Answered request
  split : ∃ owner before mine, line.requests = before ++ mine ∧
    (∀ request ∈ before, clean request.1) ∧ (∀ request ∈ mine, request.1 = owner) ∧
    (∀ task, keeper = .task task → owner = task) ∧ ∀ slot, keeper = .slot slot → mine = []

namespace Line

variable {line after : Line} {task request : Nat} {phase : Phase} {clean : Nat → Prop}
variable {keeper : Keeper} {head payload : Bytes}

structure Grows (line after : Line) : Prop where
  requests : line.requests <+: after.requests
  answers : line.answers ⊆ after.answers

theorem Grows.asked (grows : line.Grows after) {asked : Nat × Bytes}
    (h : line.requests[request]? = some asked) : after.requests[request]? = some asked := by
  obtain ⟨tail, htail⟩ := grows.requests
  rw [← htail, List.getElem?_append_left (List.getElem?_eq_some_iff.mp h).1, h]

theorem Answered.mono (h : line.Answered request) (grows : line.Grows after) :
    after.Answered request := by
  obtain ⟨asked, payload, hasked, hmem, answers⟩ := h
  exact ⟨asked, payload, grows.asked hasked, grows.answers hmem, answers⟩

theorem grows_send (line : Line) (task : Nat) (packet : Bytes) :
    line.Grows (line.send task packet) :=
  ⟨List.prefix_append .., List.Subset.refl _⟩

theorem grows_read (line : Line) (count : Nat) : line.Grows (line.read count) :=
  ⟨List.prefix_refl _, List.Subset.refl _⟩

theorem Grows.refl (line : Line) : line.Grows line := ⟨List.prefix_refl _, List.Subset.refl _⟩

theorem grows_answer (line : Line) (request : Nat) (head payload : Bytes) :
    line.Grows (line.answer request head payload) := by
  rw [answer]
  split
  · exact ⟨List.prefix_refl _, List.subset_append_left ..⟩
  · exact ⟨List.prefix_refl _, List.Subset.refl _⟩

/-! ### The server -/

theorem lt_of_awaits (h : line.awaits request = true) :
    request < line.requests.length ∧ ∀ answer ∈ line.answers, answer.1 < request := by
  simpa [awaits] using h

theorem not_awaits (h : line.Answered request) : line.awaits request = false := by
  obtain ⟨_, payload, _, hmem, _⟩ := h
  by_contra hawaits
  exact Nat.lt_irrefl _ ((lt_of_awaits (by simpa using hawaits)).2 _ hmem)

theorem Orderly.answer (orderly : line.Orderly clean keeper) :
    (line.answer request head payload).Orderly clean keeper := by
  have grows := line.grows_answer request head payload
  rw [Line.answer] at grows ⊢
  split at grows
  next h =>
    have hlt := (lt_of_awaits (Bool.and_eq_true_iff.mp h).1).1
    rw [if_pos h]
    refine ⟨fun answer hanswer => ?_, fun request hrequest =>
      (orderly.answered request hrequest).mono grows, orderly.split⟩
    rcases List.mem_append.mp hanswer with hold | hnew
    · exact orderly.below answer hold
    · rw [List.mem_singleton.mp hnew]
      exact hlt
  next h =>
    rw [if_neg h]
    exact orderly

theorem Orderly.fits_answer (orderly : line.Orderly clean keeper) (fits : phase.Fits task line) :
    phase.Fits task (line.answer request head payload) := by
  rw [Line.answer]
  split
  next h =>
    obtain ⟨hawaits, announced⟩ := Bool.and_eq_true_iff.mp h
    obtain ⟨hlt, hafter⟩ := lt_of_awaits hawaits
    cases fits with
    | greeting requests unread =>
        rw [requests] at hlt
        contradiction
    | quiet quiet =>
        rw [not_awaits (quiet.answered request hlt)] at hawaits
        contradiction
    | @asked _ earlier requests unread below =>
        have hlast : request = earlier.length := by
          by_contra hne
          rw [requests, List.length_append, List.length_singleton] at hlt
          rw [not_awaits (orderly.answered request (by rw [requests]; simp; omega))] at hawaits
          contradiction
        subst hlast
        refine .answered requests ?_ announced (List.mem_append_right _ (List.mem_singleton_self _))
        change line.arrived ++ (line.flying ++ (head ++ payload)) = head ++ payload
        rw [← List.append_assoc, show line.arrived ++ line.flying = [] from unread,
          List.nil_append]
    | answered requests _ _ answer | reading requests _ answer =>
        have := hafter _ answer
        rw [requests, List.length_append, List.length_singleton] at hlt
        omega
    | broken => exact .broken
  next => exact fits

/-! ### Bytes under way -/

theorem unread_arrive (line : Line) (count : Nat) : (line.arrive count).unread = line.unread := by
  rw [unread, arrive, List.append_assoc, List.take_append_drop, unread]

theorem grows_arrive (line : Line) (count : Nat) : line.Grows (line.arrive count) :=
  ⟨List.prefix_refl _, List.Subset.refl _⟩

theorem Orderly.of_arrive (orderly : line.Orderly clean keeper) (count : Nat) :
    (line.arrive count).Orderly clean keeper :=
  ⟨orderly.below, orderly.answered, orderly.split⟩

theorem fits_arrive (fits : phase.Fits task line) (count : Nat) :
    phase.Fits task (line.arrive count) := by
  have hunread := line.unread_arrive count
  cases fits with
  | greeting requests unread => exact .greeting requests (hunread.symm ▸ unread)
  | quiet quiet => exact .quiet ⟨hunread.trans quiet.unread, quiet.answered⟩
  | asked requests unread below => exact .asked requests (hunread.trans unread) below
  | answered requests unread announced answer =>
      exact .answered requests (hunread.trans unread) announced answer
  | reading requests unread answer => exact .reading requests (hunread.trans unread) answer
  | broken => exact .broken

/-! ### The task -/

theorem unread_read (line : Line) (count : Nat) :
    line.unread = line.arrived.take count ++ (line.read count).unread := by
  rw [unread, unread, read, ← List.append_assoc, List.take_append_drop]

theorem unread_read_of_length {count : Nat} (hle : count ≤ line.arrived.length)
    (h : line.unread.length = count) : (line.read count).unread = [] := by
  have hlength := congrArg List.length (line.unread_read count)
  rw [List.length_append, List.length_take_of_le hle] at hlength
  exact List.length_eq_zero_iff.mp (by omega)

theorem Quiet.fits_send (quiet : line.Quiet) (orderly : line.Orderly clean keeper) (packet : Bytes) :
    (Phase.asked packet).Fits task (line.send task packet) :=
  .asked rfl quiet.unread orderly.below

theorem Quiet.orderly_send (quiet : line.Quiet) (orderly : line.Orderly clean (.task task))
    (packet : Bytes) : (line.send task packet).Orderly clean (.task task) := by
  obtain ⟨owner, before, mine, hsplit, hbefore, hmine, howner, _⟩ := orderly.split
  obtain rfl := howner task rfl
  refine ⟨fun answer hanswer => ?_, fun request hrequest => ?_, owner, before,
    mine ++ [(owner, packet)], ?_, hbefore, ?_, howner, nofun⟩
  · rw [Line.send, List.length_append]
    exact Nat.lt_add_right _ (orderly.below answer hanswer)
  · rw [Line.send, List.length_append, List.length_singleton] at hrequest
    exact (quiet.answered request (Nat.lt_of_succ_lt_succ hrequest)).mono (line.grows_send ..)
  · rw [Line.send, hsplit, List.append_assoc]
  · intro request hrequest
    rcases List.mem_append.mp hrequest with h | h
    · exact hmine request h
    · rw [List.mem_singleton.mp h]

theorem length_of_announces (h : announces head payload = true) : head.length = lengthSize := by
  rw [announces, Bool.and_eq_true, beq_iff_eq] at h
  exact h.1

theorem Orderly.of_read (orderly : line.Orderly clean keeper) (count : Nat) :
    (line.read count).Orderly clean keeper :=
  ⟨orderly.below, orderly.answered, orderly.split⟩

theorem Orderly.read (orderly : line.Orderly clean keeper) (hold : Hold) (link : Link)
    {count : Nat} (fits : phase.Fits task line)
    (hcount : phase.count? = some count) (hle : count ≤ line.arrived.length) :
    ∃ after next, hold.Reads link (line.arrived.take count) phase after ∧
      after.link = some (link, next) ∧ next.Fits task (line.read count) ∧
      after.returned = hold.returned ∧
      ∀ exchange ∈ after.log, exchange ∈ hold.log ∨ exchange.link = link ∧
        ∃ request, line.requests[request]? = some (task, exchange.packet) ∧
          (request, exchange.payload) ∈ line.answers := by
  have hunread := line.unread_read count
  have htake : (line.arrived.take count).length = count := List.length_take_of_le hle
  cases fits with
  | greeting requests unread =>
      cases hcount
      refine ⟨_, .quiet, rfl, rfl, .quiet ⟨unread_read_of_length hle unread, ?_⟩, rfl,
        fun _ h => .inl h⟩
      intro request hlt
      rw [Line.read, requests] at hlt
      contradiction
  | quiet | broken => contradiction
  | asked requests unread below =>
      cases hcount
      rw [Line.unread, List.append_eq_nil_iff] at unread
      rw [unread.1] at hle
      contradiction
  | @answered packet head payload earlier requests unread announced answer =>
      cases hcount
      rw [unread] at hunread
      obtain ⟨hhead, hpayload⟩ := List.append_inj hunread
        (by rw [htake, length_of_announces announced])
      rw [← hhead]
      exact ⟨_, .reading packet payload, ⟨payload, announced, rfl⟩, rfl,
        .reading requests hpayload.symm answer, rfl, fun _ h => .inl h⟩
  | @reading packet payload earlier requests unread answer =>
      cases hcount
      have hrest := unread_read_of_length hle (congrArg List.length unread)
      rw [unread, hrest, List.append_nil] at hunread
      have hasked : line.requests[earlier.length]? = some (task, packet) := by
        rw [requests, List.getElem?_concat_length]
      have hlog : ∀ exchange ∈ (⟨link, packet, payload⟩ :: hold.log : List Exchange),
          exchange ∈ hold.log ∨ exchange.link = link ∧ ∃ request,
            line.requests[request]? = some (task, exchange.packet) ∧
              (request, exchange.payload) ∈ line.answers := by
        intro exchange hexchange
        rcases List.mem_cons.mp hexchange with rfl | h
        · exact .inr ⟨rfl, earlier.length, hasked, answer⟩
        · exact .inl h
      by_cases answers : Answers packet payload
      · refine ⟨_, .quiet, ⟨hunread.symm, .quiet, answers, rfl⟩, rfl, .quiet ⟨hrest, ?_⟩, rfl, hlog⟩
        intro request hlt
        rw [Line.read, requests, List.length_append, List.length_singleton] at hlt
        rcases Nat.lt_succ_iff_lt_or_eq.mp hlt with h | rfl
        · exact orderly.answered request (by rw [requests]; simp; omega)
        · exact ⟨_, payload, hasked, answer, answers⟩
      · exact ⟨_, .broken, ⟨hunread.symm, .broken, answers, rfl⟩, rfl, .broken, rfl, hlog⟩

end Line

/-! ## The invariant -/

def Clean (holds : Nat → Hold) (task : Nat) : Prop := task = 0 ∨ (holds task).returned = true

/-- The links in the hands of the tasks and in the slots, and what has gone over all links. -/
structure Kept (slots : List (Option Connection)) (lines : List Line) (holds : Nat → Hold)
    (keeper : Link → Keeper) : Prop where
  hand : ∀ task link phase, (holds task).link = some (link, phase) →
    keeper link = .task task ∧ ∃ line, lines[link]? = some line ∧ phase.Fits task line
  idle : ∀ (slot : Nat) connection, slots[slot]? = some (some connection) →
    keeper connection.link = .slot slot ∧
      ∃ line, lines[connection.link]? = some line ∧ line.Quiet
  orderly : ∀ (link : Link) line, lines[link]? = some line →
    line.Orderly (Clean holds) (keeper link)
  log : ∀ task, ∀ exchange ∈ (holds task).log, ∃ line request,
    lines[exchange.link]? = some line ∧ line.requests[request]? = some (task, exchange.packet) ∧
      (request, exchange.payload) ∈ line.answers

theorem Clean.update {holds : Nat → Hold} {other task : Nat} {hold : Hold}
    (clean : Clean holds other)
    (returned : (holds task).returned = true → hold.returned = true) :
    Clean (Function.update holds task hold) other := by
  refine Or.imp_right (fun h => ?_) clean
  by_cases hsame : other = task
  · subst hsame
    rw [Function.update_self]
    exact returned h
  · rwa [Function.update_of_ne hsame]

theorem Line.Orderly.mono {line : Line} {clean clean' : Nat → Prop} {keeper : Keeper}
    (orderly : line.Orderly clean keeper) (h : ∀ task, clean task → clean' task) :
    line.Orderly clean' keeper := by
  obtain ⟨owner, before, mine, hsplit, hbefore, hmine⟩ := orderly.split
  exact ⟨orderly.below, orderly.answered, owner, before, mine, hsplit,
    fun request hrequest => h _ (hbefore request hrequest), hmine⟩

namespace Kept

variable {slots slots' : List (Option Connection)} {lines lines' : List Line}
variable {holds : Nat → Hold} {keeper keeper' : Link → Keeper} {task : Nat} {link : Link}
variable {line line' : Line} {hold : Hold} {phase : Phase}

theorem change (kept : Kept slots lines holds keeper)
    (hkeeper : ∀ other, other ≠ link → keeper' other = keeper other)
    (hlines : ∀ other, other ≠ link → lines'[other]? = lines[other]?)
    (hline : lines'[link]? = some line')
    (hand : ∀ other phase, hold.link = some (other, phase) →
      other = link ∧ keeper' link = .task task ∧ phase.Fits task line')
    (others : ∀ other phase, other ≠ task → (holds other).link ≠ some (link, phase))
    (idle : ∀ (slot : Nat) connection, slots'[slot]? = some (some connection) →
      connection.link = link ∧ keeper' link = .slot slot ∧ line'.Quiet ∨
        connection.link ≠ link ∧ slots[slot]? = some (some connection))
    (returned : (holds task).returned = true → hold.returned = true)
    (orderly : line'.Orderly (Clean (Function.update holds task hold)) (keeper' link))
    (grows : ∀ line, lines[link]? = some line → line.Grows line')
    (log : ∀ exchange ∈ hold.log, exchange ∈ (holds task).log ∨ exchange.link = link ∧
      ∃ request, line'.requests[request]? = some (task, exchange.packet) ∧
        (request, exchange.payload) ∈ line'.answers) :
    Kept slots' lines' (Function.update holds task hold) keeper' := by
  have hlog : ∀ other, ∀ exchange ∈ (holds other).log, ∃ line request,
      lines'[exchange.link]? = some line ∧
        line.requests[request]? = some (other, exchange.packet) ∧
        (request, exchange.payload) ∈ line.answers := by
    intro other exchange hexchange
    obtain ⟨line, request, hline', hrequest, hanswer⟩ := kept.log other exchange hexchange
    by_cases hlink : exchange.link = link
    · rw [hlink] at hline' ⊢
      exact ⟨line', request, hline, (grows line hline').asked hrequest,
        (grows line hline').answers hanswer⟩
    · exact ⟨line, request, (hlines _ hlink).trans hline', hrequest, hanswer⟩
  refine ⟨fun other l phase hother => ?_, fun s connection hconnection => ?_,
    fun l line hl => ?_, fun other exchange hexchange => ?_⟩
  · by_cases hsame : other = task
    · subst hsame
      rw [Function.update_self] at hother
      obtain ⟨rfl, hhand, fits⟩ := hand l phase hother
      exact ⟨hhand, line', hline, fits⟩
    · rw [Function.update_of_ne hsame] at hother
      have hne : l ≠ link := by
        rintro rfl
        exact others other phase hsame hother
      obtain ⟨hhand, line, hl, fits⟩ := kept.hand other l phase hother
      exact ⟨(hkeeper l hne).trans hhand, line, (hlines l hne).trans hl, fits⟩
  · rcases idle s connection hconnection with ⟨rfl, hslot, quiet⟩ | ⟨hne, hold⟩
    · exact ⟨hslot, line', hline, quiet⟩
    · obtain ⟨hslot, line, hl, quiet⟩ := kept.idle s connection hold
      exact ⟨(hkeeper _ hne).trans hslot, line, (hlines _ hne).trans hl, quiet⟩
  · by_cases hlink : l = link
    · subst hlink
      rw [hline] at hl
      cases hl
      exact orderly
    · rw [hlines l hlink] at hl
      rw [hkeeper l hlink]
      exact (kept.orderly l line hl).mono fun other clean => clean.update returned
  · by_cases hsame : other = task
    · subst hsame
      rw [Function.update_self] at hexchange
      rcases log exchange hexchange with h | ⟨rfl, request, hrequest, hanswer⟩
      · exact hlog other exchange h
      · exact ⟨line', request, hline, hrequest, hanswer⟩
    · rw [Function.update_of_ne hsame] at hexchange
      exact hlog other exchange hexchange

theorem still (kept : Kept slots lines holds keeper)
    (hand : hold.link = (holds task).link ∨ hold.link = none)
    (idle : ∀ (slot : Nat) connection, slots'[slot]? = some (some connection) →
      slots[slot]? = some (some connection))
    (returned : hold.returned = (holds task).returned) (log : hold.log = (holds task).log) :
    Kept slots' lines (Function.update holds task hold) keeper := by
  have hsame : ∀ other, (Function.update holds task hold other).returned = (holds other).returned ∧
      (Function.update holds task hold other).log = (holds other).log := by
    intro other
    by_cases h : other = task
    · subst h
      rw [Function.update_self]
      exact ⟨returned, log⟩
    · rw [Function.update_of_ne h]
      exact ⟨rfl, rfl⟩
  refine ⟨fun other link phase hother => kept.hand other link phase ?_,
    fun slot connection h => kept.idle slot connection (idle slot connection h),
    fun link line hline => (kept.orderly link line hline).mono fun other => ?_,
    fun other exchange hexchange => kept.log other exchange ?_⟩
  · by_cases h : other = task
    · subst h
      rw [Function.update_self] at hother
      rcases hand with h | h
      · exact h ▸ hother
      · rw [h] at hother
        contradiction
    · rwa [Function.update_of_ne h] at hother
  · exact Or.imp_right fun h => (hsame other).1.trans h
  · rwa [← (hsame other).2]

theorem use (kept : Kept slots lines holds keeper) {before : Phase}
    (hold_eq : (holds task).link = some (link, before)) (hline : lines[link]? = some line)
    (hand : hold.link = some (link, phase)) (fits : phase.Fits task line')
    (returned : hold.returned = (holds task).returned) (grows : line.Grows line')
    (orderly : line.Orderly (Clean holds) (.task task) → line'.Orderly (Clean holds) (.task task))
    (log : ∀ exchange ∈ hold.log, exchange ∈ (holds task).log ∨ exchange.link = link ∧
      ∃ request, line'.requests[request]? = some (task, exchange.packet) ∧
        (request, exchange.payload) ∈ line'.answers) :
    Kept slots (lines.set link line') (Function.update holds task hold) keeper := by
  have hkeeper := (kept.hand task link before hold_eq).1
  have hlt := (List.getElem?_eq_some_iff.mp hline).1
  refine kept.change (fun _ _ => rfl) (fun other h => List.getElem?_set_ne h.symm)
    (List.getElem?_set_self hlt) ?_ ?_ ?_ (fun h => returned.trans h) ?_ ?_ log
  · intro other _ h
    rw [hand] at h
    cases h
    exact ⟨rfl, hkeeper, fits⟩
  · intro other phase hne h
    have := hkeeper.symm.trans (kept.hand other link phase h).1
    cases this
    exact hne rfl
  · intro slot connection h
    refine .inr ⟨?_, h⟩
    rintro rfl
    have := hkeeper.symm.trans (kept.idle slot connection h).1
    contradiction
  · rw [hkeeper]
    refine (orderly (hkeeper ▸ kept.orderly link line hline)).mono fun other h => ?_
    exact h.update fun h => returned.trans h
  · intro other h
    rw [hline] at h
    cases h
    exact grows

/-! ### Operations -/

variable {pool after : PoolState} {rest : List Line} {deadlines : List Deadline} {slot : Nat}

theorem connect {address : String} {reply : (Op.connect address deadlines).Reply}
    (kept : Kept pool.slots lines holds keeper)
    (effect : Effect task pool lines (.connect address deadlines) reply after rest) :
    ∃ hold keeper', (holds task).Next (.connect address deadlines) reply hold ∧
      Kept after.slots rest (Function.update holds task hold) keeper' := by
  cases reply with
  | error interruption =>
      obtain ⟨hslots, rfl⟩ := effect
      rw [hslots]
      exact ⟨_, keeper, rfl, kept.still (.inl rfl) (fun _ _ h => h) rfl rfl⟩
  | ok link =>
      obtain ⟨hslots, rfl, greeting, hgreeting, rfl⟩ := effect
      have hnone : lines[lines.length]? = none := List.getElem?_eq_none (Nat.le_refl _)
      have hne : ∀ {link line}, lines[link]? = some line → link ≠ lines.length := by
        rintro _ _ h rfl
        rw [hnone] at h
        contradiction
      rw [hslots]
      refine ⟨_, Function.update keeper lines.length (.task task), rfl,
        kept.change (fun _ h => Function.update_of_ne h _ _) (fun other h => ?_)
          List.getElem?_concat_length ?_ ?_ ?_ id ?_ ?_ fun _ h => .inl h⟩
      · rcases Nat.lt_or_ge other lines.length with hlt | hge
        · exact List.getElem?_append_left hlt
        · rw [List.getElem?_eq_none hge, List.getElem?_eq_none]
          rw [List.length_append, List.length_singleton]
          exact Nat.lt_of_le_of_ne hge (Ne.symm h)
      · intro other phase h
        cases h
        exact ⟨rfl, Function.update_self .., .greeting rfl hgreeting⟩
      · intro other phase _ h
        obtain ⟨_, line, hline, _⟩ := kept.hand other _ phase h
        exact hne hline rfl
      · intro slot connection h
        obtain ⟨_, line, hline, _⟩ := kept.idle slot connection h
        exact .inr ⟨hne hline, h⟩
      · rw [Function.update_self]
        refine ⟨nofun, fun _ h => absurd h (Nat.not_lt_zero _), task, [], [], rfl, nofun, nofun, ?_,
          nofun⟩
        rintro _ ⟨⟩
        rfl
      · intro line h
        exact absurd rfl (hne h)

theorem send {packet : Bytes} {reply : (Op.send link packet deadlines).Reply}
    (kept : Kept pool.slots lines holds keeper) (may : (holds task).link = some (link, .quiet))
    (effect : Effect task pool lines (.send link packet deadlines) reply after rest) :
    ∃ hold keeper', (holds task).Next (.send link packet deadlines) reply hold ∧
      Kept after.slots rest (Function.update holds task hold) keeper' := by
  obtain ⟨hkeeper, line, hline, fits⟩ := kept.hand task link .quiet may
  have quiet := fits.of_quiet
  obtain ⟨hslots, _, hline', rfl⟩ := effect
  rw [hline] at hline'
  cases hline'
  rw [hslots]
  have orderly := hkeeper ▸ kept.orderly link line hline
  have sent : ∀ phase : Phase, phase.Fits task (line.send task packet) →
      Kept pool.slots (lines.set link (line.send task packet))
        (Function.update holds task ((holds task).inPhase link phase)) keeper := fun phase fits =>
    kept.use may hline rfl fits rfl (line.grows_send task packet)
      (fun orderly => quiet.orderly_send orderly packet) fun _ h => .inl h
  cases reply with
  | ok _ => exact ⟨_, keeper, rfl, sent _ (quiet.fits_send orderly packet)⟩
  | error interruption => exact ⟨_, keeper, rfl, sent _ .broken⟩

theorem receive {count : Nat} {reply : (Op.receive link count deadlines).Reply}
    (kept : Kept pool.slots lines holds keeper)
    (may : ∃ phase, (holds task).link = some (link, phase) ∧ phase.count? = some count)
    (effect : Effect task pool lines (.receive link count deadlines) reply after rest) :
    ∃ hold keeper', (holds task).Next (.receive link count deadlines) reply hold ∧
      Kept after.slots rest (Function.update holds task hold) keeper' := by
  obtain ⟨phase, hphase, hcount⟩ := may
  obtain ⟨_, line, hline, fits⟩ := kept.hand task link phase hphase
  have orderly := kept.orderly link line hline
  cases reply with
  | error interruption =>
      obtain ⟨hslots, _, lost, hline', rfl⟩ := effect
      rw [hline] at hline'
      cases hline'
      rw [hslots]
      exact ⟨_, keeper, rfl, kept.use hphase hline rfl .broken rfl (line.grows_read lost)
        (fun orderly => orderly.of_read lost) fun _ h => .inl h⟩
  | ok bytes =>
      obtain ⟨hslots, _, hline', hle, rfl, rfl⟩ := effect
      rw [hline] at hline'
      cases hline'
      rw [hslots]
      obtain ⟨hold, next, reads, hlink, fits, returned, log⟩ :=
        orderly.read (holds task) link fits hcount hle
      exact ⟨hold, keeper, ⟨phase, hphase, reads⟩, kept.use hphase hline hlink fits returned
        (line.grows_read count) (fun orderly => orderly.of_read count) log⟩

theorem idle_set {connection : Option Connection} {other : Nat} {idle : Connection}
    (h : (slots.set slot connection)[other]? = some (some idle)) :
    other = slot ∧ connection = some idle ∨ other ≠ slot ∧ slots[other]? = some (some idle) := by
  by_cases hsame : other = slot
  · subst hsame
    have hlt := (List.getElem?_eq_some_iff.mp h).1
    rw [List.length_set] at hlt
    rw [List.getElem?_set_self hlt] at h
    exact .inl ⟨rfl, Option.some.inj h⟩
  · rw [List.getElem?_set_ne (Ne.symm hsame)] at h
    exact .inr ⟨hsame, h⟩

theorem acquire {reply : (Op.acquire slot).Reply} (kept : Kept pool.slots lines holds keeper)
    (effect : Effect task pool lines (.acquire slot) reply after rest) :
    ∃ hold keeper', (holds task).Next (.acquire slot) reply hold ∧
      Kept after.slots rest (Function.update holds task hold) keeper' := by
  obtain ⟨hreply, hslots, rfl⟩ := effect
  rw [hslots]
  have stays : ∀ (other : Nat) connection,
      (pool.slots.set slot none)[other]? = some (some connection) →
        other ≠ slot ∧ pool.slots[other]? = some (some connection) := by
    intro other connection h
    rcases idle_set h with ⟨_, h⟩ | h
    · contradiction
    · exact h
  cases reply with
  | none =>
      exact ⟨_, keeper, rfl, kept.still (.inr rfl) (fun _ _ h => (stays _ _ h).2) rfl rfl⟩
  | some connection =>
      have hconnection : pool.slots[slot]? = some (some connection) := by
        rw [List.getD_eq_getElem?_getD] at hreply
        cases hslot : pool.slots[slot]? with
        | none =>
            rw [hslot] at hreply
            contradiction
        | some idle =>
            rw [hslot] at hreply
            exact congrArg some hreply.symm
      obtain ⟨hkeeper, line, hline, quiet⟩ := kept.idle slot connection hconnection
      have orderly := hkeeper ▸ kept.orderly _ line hline
      refine ⟨_, Function.update keeper connection.link (.task task), rfl,
        kept.change (fun _ h => Function.update_of_ne h _ _) (fun _ _ => rfl) hline
          ?_ ?_ ?_ id ?_ ?_ fun _ h => .inl h⟩
      · intro other phase h
        cases h
        exact ⟨rfl, Function.update_self .., .quiet quiet⟩
      · intro other phase _ h
        have := hkeeper.symm.trans (kept.hand other _ phase h).1
        contradiction
      · intro other idle h
        obtain ⟨hne, h⟩ := stays other idle h
        refine .inr ⟨fun hlink => hne ?_, h⟩
        have := (kept.idle other idle h).1
        rw [hlink, hkeeper] at this
        cases this
        rfl
      · rw [Function.update_self]
        obtain ⟨owner, before, mine, hsplit, hbefore, _, _, hmine⟩ := orderly.split
        obtain rfl := hmine slot rfl
        refine ⟨orderly.below, orderly.answered, task, before, [], hsplit,
          fun request h => (hbefore request h).update id, nofun, ?_, nofun⟩
        rintro _ ⟨⟩
        rfl
      · intro other h
        rw [hline] at h
        cases h
        exact .refl line

theorem release {connection : Option Connection} {reply : (Op.release slot connection).Reply}
    (kept : Kept pool.slots lines holds keeper) (may : (holds task).May (.release slot connection))
    (effect : Effect task pool lines (.release slot connection) reply after rest) :
    ∃ hold keeper', (holds task).Next (.release slot connection) reply hold ∧
      Kept after.slots rest (Function.update holds task hold) keeper' := by
  obtain ⟨hslots, rfl⟩ := effect
  rw [hslots]
  cases connection with
  | none =>
      refine ⟨_, keeper, rfl, kept.still (.inr rfl) (fun _ _ h => ?_) (Bool.or_false _) rfl⟩
      rcases idle_set h with ⟨_, h⟩ | h
      · contradiction
      · exact h.2
  | some connection =>
      obtain ⟨hkeeper, line, hline, fits⟩ := kept.hand task connection.link .quiet may
      have quiet := fits.of_quiet
      have orderly := hkeeper ▸ kept.orderly _ line hline
      refine ⟨_, Function.update keeper connection.link (.slot slot), rfl,
        kept.change (fun _ h => Function.update_of_ne h _ _) (fun _ _ => rfl) hline
          nofun ?_ ?_ (fun _ => Bool.or_true _) ?_ ?_ fun _ h => .inl h⟩
      · intro other phase hne h
        have := hkeeper.symm.trans (kept.hand other _ phase h).1
        cases this
        exact hne rfl
      · intro other idle h
        rcases idle_set h with ⟨rfl, hidle⟩ | ⟨hne, h⟩
        · obtain rfl := Option.some.inj hidle
          exact .inl ⟨rfl, Function.update_self .., quiet⟩
        · refine .inr ⟨fun hlink => ?_, h⟩
          have := (kept.idle other idle h).1
          rw [hlink, hkeeper] at this
          contradiction
      · rw [Function.update_self]
        obtain ⟨owner, before, mine, hsplit, hbefore, hmine, howner, _⟩ := orderly.split
        obtain rfl := howner task rfl
        refine ⟨orderly.below, orderly.answered, owner, before ++ mine, [],
          hsplit.trans (List.append_nil _).symm, fun request h => ?_, nofun, nofun, fun _ _ => rfl⟩
        rcases List.mem_append.mp h with h | h
        · exact (hbefore request h).update fun _ => Bool.or_true _
        · rw [hmine request h]
          exact .inr (by rw [Function.update_self]; exact Bool.or_true _)
      · intro other h
        rw [hline] at h
        cases h
        exact .refl line

theorem turn {op : Op} {reply : op.Reply}
    (kept : Kept pool.slots lines holds keeper) (may : (holds task).May op)
    (effect : Effect task pool lines op reply after rest) :
    ∃ hold keeper', (holds task).Next op reply hold ∧
      Kept after.slots rest (Function.update holds task hold) keeper' := by
  cases op with
  | now | turn | schema | setSchema =>
      obtain ⟨hslots, rfl⟩ := effect
      rw [hslots]
      exact ⟨_, keeper, rfl, kept.still (.inl rfl) (fun _ _ h => h) rfl rfl⟩
  | close link =>
      obtain ⟨hslots, rfl⟩ := effect
      rw [hslots]
      exact ⟨_, keeper, rfl, kept.still (.inr rfl) (fun _ _ h => h) rfl rfl⟩
  | connect address deadlines => exact kept.connect effect
  | send link packet deadlines => exact kept.send may effect
  | receive link count deadlines => exact kept.receive may effect
  | acquire slot => exact kept.acquire effect
  | release slot connection => exact kept.release may effect

end Kept

end TupleStore.Network
