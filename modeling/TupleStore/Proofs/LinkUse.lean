import TupleStore.Proofs.RequestPackets
import TupleStore.Proofs.Traffic

/-!
# How a task uses its link

A task has one link in hand at a time.  It sends a request only when it has read
the answers to all before, reads an answer in two parts, and gives the link back
only in that state; after an interruption it closes the link.
-/

namespace TupleStore.Network

/-! ## The link in hand -/

structure Exchange where
  link : Link
  packet : Bytes
  payload : Bytes
  deriving DecidableEq, Repr

inductive Phase where
  /-- The greeting is to be read. -/
  | greeting
  /-- Everything is read. -/
  | quiet
  | asked (packet : Bytes)
  /-- The length of the payload is read. -/
  | reading (packet payload : Bytes)
  | broken
  deriving DecidableEq, Repr

/-- The payload is a response which carries the number of the request. -/
def Answers (packet payload : Bytes) : Prop :=
  ∃ code sync body response, encodeRequest code sync body = .ok packet ∧
    Response.decode payload = .ok response ∧ response.sync = sync.toNat

def Phase.After (packet payload : Bytes) : Phase → Prop
  | .quiet => Answers packet payload
  | .broken => ¬ Answers packet payload
  | _ => False

def Phase.count? : Phase → Option Nat
  | .greeting => some Greeting.size
  | .asked _ => some lengthSize
  | .reading _ payload => some payload.length
  | .quiet | .broken => none

/-- What a task has in hand, and what it has done so far. -/
structure Hold where
  link : Option (Link × Phase) := none
  /-- Whether a link was given back to the pool. -/
  returned : Bool := false
  log : List Exchange := []
  deriving DecidableEq, Repr

namespace Hold

def inPhase (hold : Hold) (link : Link) (phase : Phase) : Hold :=
  { hold with link := some (link, phase) }

def May (hold : Hold) : Op → Prop
  | .connect .. | .acquire _ => hold.link = none
  | .send link _ _ => hold.link = some (link, .quiet)
  | .receive link count _ => ∃ phase, hold.link = some (link, phase) ∧ phase.count? = some count
  | .close link => ∃ phase, hold.link = some (link, phase)
  | .release _ (some connection) => hold.link = some (connection.link, .quiet)
  | .release _ none => hold.link = none
  | _ => True

def Reads (hold : Hold) (link : Link) (bytes : Bytes) : Phase → Hold → Prop
  | .greeting, after => after = hold.inPhase link .quiet
  | .asked packet, after =>
      ∃ payload, Line.announces bytes payload = true ∧
        after = hold.inPhase link (.reading packet payload)
  | .reading packet payload, after =>
      bytes = payload ∧ ∃ phase : Phase, phase.After packet payload ∧
        after = { hold.inPhase link phase with log := ⟨link, packet, payload⟩ :: hold.log }
  | .quiet, _ | .broken, _ => False

def Next (hold : Hold) : (op : Op) → op.Reply → Hold → Prop
  | .connect .., .ok link, after => after = hold.inPhase link .greeting
  | .connect .., .error _, after => after = hold
  | .send link packet _, .ok _, after => after = hold.inPhase link (.asked packet)
  | .send link .., .error _, after => after = hold.inPhase link .broken
  | .receive link .., .ok bytes, after =>
      ∃ phase, hold.link = some (link, phase) ∧ hold.Reads link bytes phase after
  | .receive link .., .error _, after => after = hold.inPhase link .broken
  | .close _, _, after => after = { hold with link := none }
  | .acquire _, connection, after =>
      after = { hold with link := connection.map fun connection => (connection.link, .quiet) }
  | .release _ connection, _, after =>
      after = { hold with link := none, returned := hold.returned || connection.isSome }
  | _, _, after => after = hold

end Hold

/-! ## Programs -/

/-- Every operation of the program is one for the link in hand, and it ends so. -/
def Ensures {α : Type} (post : Except Fault α → Hold → Prop) : Action α → Hold → Prop
  | .done result, hold => post result hold
  | .step op next, hold =>
      hold.May op ∧ ∀ reply after, hold.Next op reply after → Ensures post (next reply) after

namespace Ensures

variable {α β : Type} {post : Except Fault β → Hold → Prop} {hold : Hold} {link : Link}
variable {deadlines : List Deadline}

theorem bind {program : Action α} {rest : α → Action β}
    (h : Ensures (fun result after => match result with
      | .ok value => Ensures post (rest value) after
      | .error fault => post (.error fault) after) program hold) :
    Ensures post (program >>= rest) hold := by
  induction program generalizing hold with
  | done result =>
      cases result with
      | ok value => exact h
      | error fault => exact h
  | step op next ih => exact ⟨h.1, fun reply after hnext => ih reply (h.2 reply after hnext)⟩

theorem attempt {post : Except Fault (Except Fault β) → Hold → Prop} {program : Action β}
    (h : Ensures (fun result after => post (.ok result) after) program hold) :
    Ensures post program.attempt hold := by
  induction program generalizing hold with
  | done result => exact h
  | step op next ih => exact ⟨h.1, fun reply after hnext => ih reply (h.2 reply after hnext)⟩

theorem mono {pre : Except Fault β → Hold → Prop} {program : Action β}
    (h : Ensures pre program hold) (imp : ∀ result after, pre result after → post result after) :
    Ensures post program hold := by
  induction program generalizing hold with
  | done result => exact imp result hold h
  | step op next ih => exact ⟨h.1, fun reply after hnext => ih reply (h.2 reply after hnext)⟩

theorem perform (op : Op) {rest : op.Reply → Action β} (may : hold.May op)
    (next : ∀ reply after, hold.Next op reply after → Ensures post (rest reply) after) :
    Ensures post (Program.perform op >>= rest) hold := ⟨may, next⟩

theorem ofExcept {outcome : Except Fault α} {rest : α → Action β}
    (h : match outcome with
      | .ok value => Ensures post (rest value) hold
      | .error fault => post (.error fault) hold) :
    Ensures post (Program.ofExcept outcome >>= rest) hold := by
  cases outcome with
  | ok value => exact h
  | error fault => exact h

theorem withLimit {wait : Wait} {limit : Option Nat} {rest : List Deadline → Action β}
    (h : ∀ deadlines, Ensures post (rest deadlines) hold) :
    Ensures post (Action.withLimit wait limit deadlines >>= rest) hold := by
  cases limit with
  | none => exact h deadlines
  | some milliseconds =>
      refine .perform .now trivial ?_
      rintro now _ rfl
      exact h _

theorem connect {address : String} {rest : Link → Action β} (hlink : hold.link = none)
    (ok : ∀ link, Ensures post (rest link) (hold.inPhase link .greeting))
    (error : ∀ fault : Fault, fault.isFatal = true → post (.error fault) hold) :
    Ensures post (Action.connect address deadlines >>= rest) hold := by
  refine ⟨hlink, fun reply after hnext => ?_⟩
  cases reply with
  | ok link =>
      cases hnext
      exact ok link
  | error interruption =>
      cases hnext
      exact error _ (by cases interruption <;> rfl)

theorem send {packet : Bytes} {rest : Unit → Action β} (hlink : hold.link = some (link, .quiet))
    (ok : Ensures post (rest ()) (hold.inPhase link (.asked packet)))
    (error : ∀ fault : Fault, fault.isFatal = true → post (.error fault) (hold.inPhase link .broken)) :
    Ensures post (Action.send link packet deadlines >>= rest) hold := by
  refine ⟨hlink, fun reply after hnext => ?_⟩
  cases reply with
  | ok _ =>
      cases hnext
      exact ok
  | error interruption =>
      cases hnext
      exact error _ (by cases interruption <;> rfl)

theorem receive {phase : Phase} {count : Nat} {rest : Bytes → Action β}
    (hlink : hold.link = some (link, phase)) (hcount : phase.count? = some count)
    (ok : ∀ bytes after, hold.Reads link bytes phase after → Ensures post (rest bytes) after)
    (error : ∀ fault : Fault, fault.isFatal = true → post (.error fault) (hold.inPhase link .broken)) :
    Ensures post (Action.receive link count deadlines >>= rest) hold := by
  refine ⟨⟨phase, hlink, hcount⟩, fun reply after hnext => ?_⟩
  cases reply with
  | ok bytes =>
      obtain ⟨other, hother, reads⟩ := hnext
      rw [hlink] at hother
      cases hother
      exact ok bytes after reads
  | error interruption =>
      cases hnext
      exact error _ (by cases interruption <;> rfl)

end Ensures

/-! ## Requests -/

def drops {α : Type} : Except Fault α → Bool
  | .ok _ => false
  | .error fault => fault.isFatal

def Exchange.Tells (exchange : Exchange) (code : UInt8) (body : Body)
    (result : Except Fault (List Value)) : Prop :=
  ∃ sync response, encodeRequest code sync body = .ok exchange.packet ∧
    Response.decode exchange.payload = .ok response ∧ response.sync = sync.toNat ∧
    response.result = result

variable {hold : Hold} {link : Link} {config : Config} {deadlines : List Deadline}

theorem decodeLength_of_announces {head payload : Bytes}
    (h : Line.announces head payload = true) :
    decodeLength head = if payload.length ≤ maxPayload then .ok payload.length
      else .error (.tooLong payload.length maxPayload) := by
  rw [Line.announces, Bool.and_eq_true, beq_iff_eq, beq_iff_eq] at h
  rw [decodeLength, h.2]

theorem encodeRequest_eq_error {code : UInt8} {sync : UInt64} {body : Body} {fault : Fault}
    (h : encodeRequest code sync body = .error fault) : fault = .requestTooLarge := by
  unfold encodeRequest at h
  dsimp only at h
  split at h
  · contradiction
  · cases h
    rfl

theorem Phase.After.quiet {packet payload : Bytes} {phase : Phase}
    (h : phase.After packet payload) (answers : Answers packet payload) : phase = .quiet := by
  cases phase with
  | quiet => rfl
  | broken => exact absurd answers h
  | _ => contradiction

theorem ensures_readResponse {packet : Bytes} (hlink : hold.link = some (link, .asked packet)) :
    Ensures (fun result after => ∃ phase log,
      after = { hold with link := some (link, phase), log } ∧ hold.log ⊆ log ∧
      (drops result = true ∨ ∃ payload response, result = .ok response ∧
        Response.decode payload = .ok response ∧ ⟨link, packet, payload⟩ ∈ log ∧
        phase.After packet payload))
      (Connection.readResponse config link deadlines) hold := by
  refine .withLimit fun deadlines => .receive hlink rfl ?_
    fun fault hfatal => ⟨.broken, hold.log, rfl, List.Subset.refl _, .inl hfatal⟩
  rintro bytes _ ⟨payload, announced, rfl⟩
  refine .ofExcept ?_
  rw [decodeLength_of_announces announced]
  split
  next value hlength =>
    split at hlength
    · cases hlength
      refine .receive rfl rfl ?_
        fun fault hfatal => ⟨.broken, hold.log, rfl, List.Subset.refl _, .inl hfatal⟩
      rintro answer _ ⟨rfl, phase, hphase, rfl⟩
      refine ⟨phase, _, rfl, List.subset_cons_self .., ?_⟩
      cases hdecode : Response.decode answer with
      | ok response =>
          exact .inr ⟨answer, response, rfl, hdecode, List.mem_cons_self, hphase⟩
      | error fault => exact .inl (isFatal_of_kind (kind_of_decode hdecode))
    · contradiction
  next fault hlength =>
    split at hlength
    · contradiction
    · cases hlength
      exact ⟨_, hold.log, rfl, List.Subset.refl _, .inl rfl⟩

/--
A request on a quiet link has this result: either the connection is to be dropped,
or the link is quiet again and the answer tells the result.  Nothing is sent when
the packet would be too large.
-/
structure Ended (hold : Hold) (link : Link) (code : UInt8) (body : Body)
    (result : Except Fault (List Value)) (after : Hold) : Prop where
  after_eq : ∃ phase log, after = { hold with link := some (link, phase), log } ∧
    hold.log ⊆ log ∧ (drops result = true ∨ phase = .quiet)
  told : drops result = true ∨ result = .error .requestTooLarge ∨
    ∃ exchange ∈ after.log, exchange.Tells code body result

theorem Ended.of_drops {code : UInt8} {body : Body} {phase : Phase} {fault : Fault}
    {log : List Exchange} (hlog : hold.log ⊆ log) (h : fault.isFatal = true) :
    Ended hold link code body (.error fault) { hold with link := some (link, phase), log } :=
  ⟨⟨phase, log, rfl, hlog, .inl h⟩, .inl h⟩

variable {code : UInt8} {body : Body}

theorem ensures_exchange {sync : UInt64} (hlink : hold.link = some (link, .quiet)) :
    Ensures (Ended hold link code body) (Connection.exchange config link sync code body) hold := by
  refine .ofExcept ?_
  split
  next packet hpacket =>
    refine .withLimit fun deadlines => .send hlink ?_
      fun fault h => .of_drops (List.Subset.refl _) h
    refine .bind ((ensures_readResponse rfl).mono ?_)
    rintro result _ ⟨phase, log, rfl, hlog, hresult⟩
    cases result with
    | error fault =>
        rcases hresult with h | ⟨_, _, hok, _⟩
        · exact .of_drops hlog h
        · contradiction
    | ok response =>
        rcases hresult with h | ⟨payload, _, hok, hdecode, hmem, hphase⟩
        · contradiction
        cases hok
        dsimp only
        split
        next => exact .of_drops hlog rfl
        next hsync =>
          have hsync := Decidable.not_not.mp hsync
          have hquiet := hphase.quiet ⟨code, sync, body, response, hpacket, hdecode, hsync⟩
          exact ⟨⟨phase, log, rfl, hlog, .inr hquiet⟩,
            .inr (.inr ⟨_, hmem, sync, response, hpacket, hdecode, hsync, rfl⟩)⟩
  next fault hfault =>
    obtain rfl := encodeRequest_eq_error hfault
    refine ⟨⟨.quiet, hold.log, ?_, List.Subset.refl _, .inr rfl⟩, .inr (.inl rfl)⟩
    rw [← hlink]

theorem ensures_request {connection : Connection}
    (hlink : hold.link = some (connection.link, .quiet)) :
    Ensures (fun result after => ∃ outcome next, result = .ok (outcome, next) ∧
      next.link = connection.link ∧ Ended hold connection.link code body outcome after)
      (connection.request config code body) hold := by
  refine .bind (.attempt ((ensures_exchange hlink).mono fun outcome after ended => ?_))
  exact ⟨outcome, _, rfl, rfl, ended⟩

/-! ## Opening a connection -/

/-- The server has refused the user, or the client has not asked it. -/
def Refused (log : List Exchange) (fault : Fault) : Prop :=
  ∃ cause, fault = .authentication cause ∧ (cause = .requestTooLarge ∨
    ∃ exchange ∈ log, ∃ body, exchange.Tells RequestCode.authenticate body (.error cause))

/-- The link is quiet, or there is a fault and the link is to be closed. -/
def Greeted (hold : Hold) (link : Link) (result : Except Fault Connection) (after : Hold) :
    Prop :=
  ∃ phase log, after = { hold with link := some (link, phase), log } ∧ hold.log ⊆ log ∧
    match result with
    | .ok connection => connection.link = link ∧ phase = .quiet
    | .error fault => fault.isFatal = true ∨ Refused log fault

theorem ensures_authenticate {connection : Connection} {salt : Bytes}
    (hlink : hold.link = some (connection.link, .quiet)) :
    Ensures (Greeted hold connection.link) (Connection.authenticate config connection salt)
      hold := by
  refine .bind ((ensures_request hlink).mono ?_)
  rintro _ _ ⟨outcome, next, rfl, hnext, ⟨phase, log, rfl, hlog, hquiet⟩, told⟩
  cases outcome with
  | ok values => exact ⟨phase, log, rfl, hlog, hnext, hquiet.resolve_left Bool.false_ne_true⟩
  | error fault =>
      have hrefusal : (Connection.refusal fault).isFatal = true ∨
          Refused log (Connection.refusal fault) := by
        rw [Connection.refusal]
        split
        next hfatal => exact .inl hfatal
        next hfatal =>
          refine .inr ⟨fault, rfl, ?_⟩
          rcases told.resolve_left hfatal with h | ⟨exchange, hmem, htells⟩
          · exact .inl (Except.error.inj h)
          · exact .inr ⟨exchange, hmem, _, htells⟩
      exact ⟨phase, log, rfl, hlog, hrefusal⟩

theorem isFatal_of_greeting {bytes : Bytes} {fault : Fault}
    (h : Greeting.read bytes = .error fault) : fault.isFatal = true := by
  unfold Greeting.read at h
  split at h
  · cases h
    rfl
  · dsimp only at h
    split at h
    · contradiction
    · cases h
      rfl

theorem ensures_greet (hlink : hold.link = some (link, .greeting)) :
    Ensures (Greeted hold link) (Connection.greet config link) hold := by
  refine .withLimit fun deadlines => .receive hlink rfl ?_
    fun fault hfatal => ⟨.broken, hold.log, rfl, List.Subset.refl _, .inl hfatal⟩
  rintro bytes _ rfl
  refine .ofExcept ?_
  split
  next greeting _ =>
    split
    next => exact ⟨.quiet, hold.log, rfl, List.Subset.refl _, rfl, rfl⟩
    next =>
      have hquiet : (hold.inPhase link .quiet).link = some (link, .quiet) := rfl
      refine (ensures_authenticate hquiet).mono ?_
      rintro result _ ⟨phase, log, rfl, hlog, hresult⟩
      exact ⟨phase, log, rfl, hlog, hresult⟩
  next fault hfault =>
    exact ⟨.quiet, hold.log, rfl, List.Subset.refl _, .inl (isFatal_of_greeting hfault)⟩

theorem ensures_open {address : String} (hlink : hold.link = none) :
    Ensures (fun result after => ∃ log, hold.log ⊆ log ∧ match result with
      | .ok connection => after = { hold with link := some (connection.link, .quiet), log }
      | .error fault => after = { hold with log } ∧ (fault.isFatal = true ∨ Refused log fault))
      (Connection.open config address) hold := by
  refine .withLimit fun deadlines => .connect hlink (fun link => ?_)
    fun fault hfatal => ⟨hold.log, List.Subset.refl _, rfl, .inl hfatal⟩
  refine .bind (.attempt ((ensures_greet rfl).mono ?_))
  rintro result _ ⟨phase, log, rfl, hlog, hresult⟩
  cases result with
  | ok connection =>
      obtain ⟨rfl, rfl⟩ := hresult
      exact ⟨log, hlog, rfl⟩
  | error fault =>
      refine ⟨⟨phase, rfl⟩, ?_⟩
      rintro _ _ rfl
      refine ⟨log, hlog, ?_, hresult⟩
      rw [← hlink]
      rfl

/-! ## Requests of the pool -/

/-- What a response tells a caller: values, an error of the server, or data of another kind. -/
def speaks : Except Fault (List Value) → Bool
  | .ok _ | .error (.server ..) | .error (.unexpectedData _) => true
  | _ => false

/-- What a response tells is told by the answer to a request of the task's own. -/
structure Own (job : Job) (result : Except Fault (List Value)) (log : List Exchange) : Prop where
  told : ∀ code body, job = .request code body → speaks result = true →
    ∃ exchange ∈ log, exchange.Tells code body result
  refused : ∀ cause, result = .error (.authentication cause) → speaks (.error cause) = true →
    ∃ exchange ∈ log, ∃ auth, exchange.Tells RequestCode.authenticate auth (.error cause)

/-- No caller gives a link back and then ends with a fault for which links are dropped. -/
structure Finished (job : Job) (result : Except Fault (List Value)) (after : Hold) : Prop where
  own : Own job result after.log
  clean : job ≠ .opening → drops result = true → after.returned = false

variable {job : Job} {result : Except Fault (List Value)} {log : List Exchange} {fault : Fault}

theorem drops_of_speaks (h : speaks result = true) : drops result = false := by
  rcases result with fault | values
  · cases fault with
    | server code message =>
        change (errorKind code).isFatal = false
        unfold errorKind
        split <;> rfl
    | unexpectedData => rfl
    | _ => contradiction
  · rfl

theorem Own.of_drops (h : drops result = true) : Own job result log := by
  refine ⟨fun _ _ _ hspeaks => ?_, ?_⟩
  · rw [drops_of_speaks hspeaks] at h
    contradiction
  · rintro cause rfl
    contradiction

theorem Own.of_refused (h : Refused log fault) : Own job (.error fault) log := by
  obtain ⟨cause, rfl, hcause⟩ := h
  refine ⟨fun _ _ _ hspeaks => absurd hspeaks Bool.false_ne_true, ?_⟩
  rintro _ ⟨⟩ hspeaks
  rcases hcause with rfl | hcause
  · contradiction
  · exact hcause

theorem result_ne_authentication (response : Response) (cause : Fault) :
    response.result ≠ .error (.authentication cause) := by
  unfold Response.result
  split
  · nofun
  · split <;> nofun

theorem Own.of_told (h : drops result = true ∨ result = .error .requestTooLarge ∨
    ∃ exchange ∈ log, exchange.Tells code body result) : Own (.request code body) result log := by
  rcases h with h | rfl | ⟨exchange, hmem, htells⟩
  · exact .of_drops h
  · exact ⟨fun _ _ _ hspeaks => absurd hspeaks Bool.false_ne_true, nofun⟩
  · refine ⟨?_, ?_⟩
    · rintro _ _ ⟨⟩ _
      exact ⟨exchange, hmem, htells⟩
    · rintro cause rfl
      obtain ⟨_, response, _, _, _, hresult⟩ := htells
      exact absurd hresult (result_ne_authentication response cause)

theorem ensures_connectionOf {slot : Nat} {idle : Option Connection}
    (hlink : hold.link = idle.map fun connection => (connection.link, .quiet)) :
    Ensures (fun result after => ∃ log, hold.log ⊆ log ∧ match result with
      | .ok connection => after = { hold with link := some (connection.link, .quiet), log }
      | .error fault =>
          after = { hold with link := none, log } ∧ (fault.isFatal = true ∨ Refused log fault))
      (Pool.connectionOf config slot idle) hold := by
  cases idle with
  | some connection =>
      refine ⟨hold.log, List.Subset.refl _, ?_⟩
      change hold = { hold with link := some (connection.link, .quiet) }
      rw [← show hold.link = some (connection.link, .quiet) from hlink]
  | none =>
      refine (ensures_open hlink).mono ?_
      rintro result after ⟨log, hlog, hresult⟩
      cases result with
      | ok connection => exact ⟨log, hlog, hresult⟩
      | error fault =>
          refine ⟨log, hlog, ?_, hresult.2⟩
          rw [hresult.1, ← show hold.link = none from hlink]

theorem ensures_afterRequest {connection : Connection} {outcome : Except Fault (List Value)}
    {phase : Phase} (hlink : hold.link = some (connection.link, phase))
    (hquiet : drops outcome = true ∨ phase = .quiet) :
    Ensures (fun result after => if drops outcome then
        result = .ok none ∧ after = { hold with link := none }
      else result = .ok (some connection) ∧ after = hold)
      (Pool.afterRequest connection outcome) hold := by
  cases outcome with
  | ok values => exact ⟨rfl, rfl⟩
  | error fault =>
      rw [Pool.afterRequest]
      cases hfatal : fault.isFatal with
      | true =>
          rw [if_pos rfl]
          refine .perform (.close _) ⟨phase, hlink⟩ ?_
          rintro _ _ rfl
          rw [drops, hfatal]
          exact ⟨rfl, rfl⟩
      | false =>
          rw [if_neg Bool.false_ne_true, drops, hfatal]
          exact ⟨rfl, rfl⟩

theorem ensures_poolRequest (hlink : hold.link = none) (hreturned : hold.returned = false) :
    Ensures (Finished (.request code body)) (Pool.request config code body) hold := by
  refine .perform .turn trivial ?_
  rintro turn _ rfl
  refine .perform (.acquire _) hlink ?_
  rintro idle _ rfl
  refine .bind (.attempt ((ensures_connectionOf rfl).mono ?_))
  rintro result after ⟨log, hlog, hresult⟩
  cases result with
  | error fault =>
      obtain ⟨rfl, hfault⟩ := hresult
      refine .perform (.release _ none) rfl ?_
      rintro _ _ rfl
      refine ⟨?_, fun _ _ => by rw [hreturned]; rfl⟩
      rcases hfault with h | h
      · exact .of_drops h
      · exact .of_refused h
  | ok connection =>
      subst hresult
      refine .bind ((ensures_request rfl).mono ?_)
      rintro _ _ ⟨outcome, next, rfl, hnext, ⟨phase, log, rfl, _, hquiet⟩, told⟩
      refine .bind ((ensures_afterRequest (by rw [hnext]) hquiet).mono ?_)
      intro result after h
      split at h
      next hdrops =>
        obtain ⟨rfl, rfl⟩ := h
        refine .perform (.release _ none) rfl ?_
        rintro _ _ rfl
        exact ⟨.of_told told, fun _ _ => by rw [hreturned]; rfl⟩
      next hdrops =>
        obtain ⟨rfl, rfl⟩ := h
        obtain rfl := hquiet.resolve_left hdrops
        refine .perform (.release _ (some next)) (by rw [← hnext]; rfl) ?_
        rintro _ _ rfl
        exact ⟨.of_told told, fun _ h => absurd h hdrops⟩

/-! ## The opening of the pool -/

theorem ensures_openSlots {slot : Nat} {addresses : List String} (hlink : hold.link = none) :
    Ensures (fun result after => ∀ fault, result = .error fault →
      fault.isFatal = true ∨ Refused after.log fault)
      (Pool.openSlots config slot addresses) hold := by
  induction addresses generalizing slot hold with
  | nil => exact nofun
  | cons address addresses ih =>
      refine .bind ((ensures_open hlink).mono ?_)
      rintro result after ⟨log, hlog, hresult⟩
      cases result with
      | ok connection =>
          subst hresult
          refine .perform (.release _ (some connection)) rfl ?_
          rintro _ _ rfl
          exact ih rfl
      | error fault =>
          obtain ⟨rfl, hfault⟩ := hresult
          rintro _ ⟨⟩
          exact hfault

theorem ensures_program (config : Config) (job : Job) :
    Ensures (Finished job) (job.program config) {} := by
  cases job with
  | request code body => exact ensures_poolRequest rfl rfl
  | opening =>
      refine .bind ((ensures_openSlots rfl).mono ?_)
      intro result after hresult
      cases result with
      | ok _ => exact ⟨⟨nofun, nofun⟩, fun h => absurd rfl h⟩
      | error fault =>
          refine ⟨?_, fun h => absurd rfl h⟩
          rcases hresult fault rfl with h | h
          · exact .of_drops h
          · exact .of_refused h

end TupleStore.Network
