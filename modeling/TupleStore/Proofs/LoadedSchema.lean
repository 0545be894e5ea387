import Mathlib.Data.List.Nodup
import TupleStore.Network.Transport
import TupleStore.Proofs.Programs
import TupleStore.Proofs.SystemRows

/-!
# The loaded schema

What is known of the spaces of a server after their descriptions are loaded: just what the
rows of the system spaces describe.  Where they cannot be loaded, it is what was known before.
-/

namespace TupleStore

/-! ## Stable sorting -/

/-- The items in increasing order of their keys; those of one key stay in order. -/
structure SortedStably {α : Type} (key : α → Nat) (items sorted : List α) : Prop where
  perm : sorted.Perm items
  increasing : sorted.Pairwise fun l r => key l ≤ key r
  stable (k : Nat) : sorted.filter (key · = k) = items.filter (key · = k)

theorem sortedStably_mergeSort {α : Type} (key : α → Nat) (items : List α) :
    SortedStably key items (items.mergeSort fun l r => key l ≤ key r) := by
  have trans : ∀ a b c : α, decide (key a ≤ key b) = true → decide (key b ≤ key c) = true →
      decide (key a ≤ key c) = true := by
    intro a b c hab hbc
    rw [decide_eq_true_iff] at hab hbc ⊢
    exact Nat.le_trans hab hbc
  have total : ∀ a b : α, (decide (key a ≤ key b) || decide (key b ≤ key a)) = true := by
    intro a b
    rw [Bool.or_eq_true, decide_eq_true_iff, decide_eq_true_iff]
    exact Nat.le_total _ _
  have perm := List.mergeSort_perm items fun l r => decide (key l ≤ key r)
  refine ⟨perm, ?_, fun k => ?_⟩
  · exact (List.pairwise_mergeSort trans total items).imp fun h => of_decide_eq_true h
  · -- the items with the key are in order before, so they stay where they are to each other
    have hordered : (items.filter (key · = k)).Pairwise fun l r => decide (key l ≤ key r) := by
      refine List.pairwise_of_forall_mem_list fun l hl r hr => ?_
      have hl : key l = k := of_decide_eq_true (List.mem_filter.mp hl).2
      have hr : key r = k := of_decide_eq_true (List.mem_filter.mp hr).2
      exact decide_eq_true (Nat.le_of_eq (hl.trans hr.symm))
    have hsublist := (List.sublist_mergeSort trans total hordered List.filter_sublist).filter
      (key · = k)
    rw [List.filter_filter] at hsublist
    simp only [Bool.and_self] at hsublist
    exact (hsublist.eq_of_length (perm.filter _).length_eq.symm).symm

namespace Network

/-! ## Joining rows -/

theorem foldl_putBy {α κ : Type} [BEq κ] [LawfulBEq κ] (key : α → κ) {items put : List α}
    (h : ((put ++ items).map key).Nodup) : items.foldl (putBy key) put = put ++ items := by
  induction items generalizing put with
  | nil => rw [List.foldl_nil, List.append_nil]
  | cons item items ih =>
      have hput : putBy key put item = put ++ [item] := by
        refine if_neg fun hany => ?_
        obtain ⟨other, hother, hkey⟩ := List.any_eq_true.mp hany
        rw [List.map_append, List.nodup_append] at h
        exact h.2.2 _ (List.mem_map_of_mem hother) _ (List.mem_map_of_mem List.mem_cons_self)
          (eq_of_beq hkey)
      rw [List.append_cons] at h ⊢
      rw [List.foldl_cons, hput, ih h]

theorem joinSchema_eq {spaces : List Space} (ids : (spaces.map Space.id).Nodup)
    (names : (spaces.map Space.name).Nodup) (indexes : List (UInt32 × Index)) :
    joinSchema spaces indexes = spaces.map (attachIndexes indexes) := by
  have hnames : ((spaces.map (attachIndexes indexes)).map Space.name).Nodup := by
    rw [List.map_map]
    exact names
  unfold joinSchema
  rw [foldl_putBy Space.id (by exact ids)]
  exact foldl_putBy Space.name hnames

/-! ## Running alone -/

variable {τ α β : Type}

def Transport.perform (transport : Transport (StateM τ)) (op : Op) (state : PoolState × τ) :
    op.Reply × (PoolState × τ) :=
  let ((reply, pool), rest) := Network.handle transport op state.1 state.2
  (reply, pool, rest)

variable {transport : Transport (StateM τ)} {config : Config}

theorem runM_eq (transport : Transport (StateM τ)) (action : Action α) (pool : PoolState)
    (rest : τ) :
    Program.runM (m := StateT PoolState (StateM τ)) (handle transport) action pool rest =
      let (result, pool, rest) := Program.run transport.perform action (pool, rest)
      ((result, pool), rest) := by
  induction action generalizing pool rest with
  | done result => rfl
  | step op next ih => exact ih _ _ _

theorem client_handle (asked : Request) (state : PoolState × τ) :
    (client transport config).handle asked state =
      let (result, state) := Program.run transport.perform (Pool.answer config asked) state
      (result.mapError Fault.toClientError, state) := by
  obtain ⟨pool, rest⟩ := state
  have hrun := runM_eq transport (Pool.answer config asked) pool rest
  simp only [client, request, run, bind, StateT.bind, hrun]
  rfl

/-- However the operations on links are answered, the schema stays as it is. -/
structure KeepsSchema (transport : Transport (StateM τ)) (action : Action α) : Prop where
  schema_eq (state : PoolState × τ) :
    (Program.run transport.perform action state).2.1.schema = state.1.schema

namespace KeepsSchema

theorem done (result : Except Fault α) : KeepsSchema transport (.done result) := ⟨fun _ => rfl⟩

theorem step {op : Op} {next : op.Reply → Action α}
    (h : ∀ state, (transport.perform op state).2.1.schema = state.1.schema)
    (rest : ∀ reply, KeepsSchema transport (next reply)) :
    KeepsSchema transport (.step op next) :=
  ⟨fun state => ((rest _).schema_eq _).trans (h state)⟩

theorem bind {action : Action α} {rest : α → Action β} (first : KeepsSchema transport action)
    (second : ∀ result, KeepsSchema transport (rest result)) :
    KeepsSchema transport (action >>= rest) := by
  refine ⟨fun state => ?_⟩
  have hfirst := first.schema_eq state
  rw [Program.run_bind]
  split
  next result after h =>
    rw [h] at hfirst
    exact ((second result).schema_eq after).trans hfirst
  next error after h =>
    rw [h] at hfirst
    exact hfirst

theorem attempt {action : Action α} (h : KeepsSchema transport action) :
    KeepsSchema transport action.attempt := by
  refine ⟨fun state => ?_⟩
  rw [Program.run_attempt]
  exact h.schema_eq state

theorem perform {op : Op}
    (h : ∀ state, (transport.perform op state).2.1.schema = state.1.schema) :
    KeepsSchema transport (Program.perform op) := .step h fun reply => .done (.ok reply)

/-! ### Requests -/

theorem now : KeepsSchema transport Action.now := .perform fun _ => rfl

theorem withLimit (wait : Wait) (limit : Option Nat) (deadlines : List Deadline) :
    KeepsSchema transport (Action.withLimit wait limit deadlines) := by
  unfold Action.withLimit
  split
  next => exact .done _
  next => exact now.bind fun _ => .done _

theorem receive (link : Link) (count : Nat) (deadlines : List Deadline) :
    KeepsSchema transport (Action.receive link count deadlines) :=
  .step (fun _ => rfl) fun _ => .done _

theorem readResponse (link : Link) (deadlines : List Deadline) :
    KeepsSchema transport (Connection.readResponse config link deadlines) := by
  refine (withLimit ..).bind fun _ => (receive ..).bind fun _ => bind (.done _) fun _ => ?_
  exact (receive ..).bind fun _ => .done _

theorem exchange (link : Link) (sync : UInt64) (code : UInt8) (body : Body) :
    KeepsSchema transport (Connection.exchange config link sync code body) := by
  have hsend (packet : Bytes) (deadlines : List Deadline) :
      KeepsSchema transport (Action.send link packet deadlines) :=
    .step (fun _ => rfl) fun _ => .done _
  refine bind (.done _) fun _ => (withLimit ..).bind fun _ => (hsend ..).bind fun _ =>
    (readResponse ..).bind fun _ => ?_
  split
  next => exact .done _
  next => exact .done _

theorem connectionRequest (connection : Connection) (code : UInt8) (body : Body) :
    KeepsSchema transport (connection.request config code body) :=
  (exchange ..).attempt.bind fun _ => .done _

theorem greet (link : Link) : KeepsSchema transport (Connection.greet config link) := by
  refine (withLimit ..).bind fun _ => (receive ..).bind fun _ => bind (.done _) fun _ => ?_
  split
  next => exact .done _
  next =>
    refine (connectionRequest ..).bind fun (result, _) => ?_
    cases result <;> exact .done _

theorem «open» (address : String) : KeepsSchema transport (Connection.open config address) := by
  have hconnect (deadlines : List Deadline) :
      KeepsSchema transport (Action.connect address deadlines) :=
    .step (fun _ => rfl) fun _ => .done _
  refine (withLimit ..).bind fun _ => (hconnect _).bind fun link => (greet link).attempt.bind ?_
  intro result
  split
  next => exact .done _
  next => exact bind (.perform fun _ => rfl) fun _ => .done _

theorem request (code : UInt8) (body : Body) :
    KeepsSchema transport (Pool.request config code body) := by
  have hrelease (slot : Nat) (connection : Option Connection) :
      KeepsSchema transport (Action.release slot connection) := .perform fun _ => rfl
  have hconnection (slot : Nat) (idle : Option Connection) :
      KeepsSchema transport (Pool.connectionOf config slot idle) := by
    unfold Pool.connectionOf
    split
    next => exact .done _
    next => exact «open» _
  have hafter (connection : Connection) (result : Except Fault (List Value)) :
      KeepsSchema transport (Pool.afterRequest connection result) := by
    unfold Pool.afterRequest
    split
    next => exact .done _
    next =>
      split
      next => exact bind (.perform fun _ => rfl) fun _ => .done _
      next => exact .done _
  refine bind (.perform fun _ => rfl) fun turn => bind (.perform fun _ => rfl) fun idle =>
    (hconnection ..).attempt.bind fun opened => ?_
  dsimp only
  split
  next => exact (hrelease ..).bind fun _ => .done _
  next connection =>
    refine (connectionRequest ..).bind fun answered => ?_
    exact (hafter ..).bind fun _ => (hrelease ..).bind fun _ => .done _

theorem scan (space : UInt32) (scan : Pool.Scan) (offset limit : Nat) :
    KeepsSchema transport (Pool.scan config space scan offset limit) :=
  (request ..).bind fun _ => .done _

end KeepsSchema

/-! ## Loading -/

def systemRows (transport : Transport (StateM τ)) (config : Config) (space : UInt32)
    (state : PoolState × τ) : Except Fault (List Tuple) × (PoolState × τ) :=
  Program.run transport.perform (Pool.scan config space {}) state

/-- Both requests for rows succeed, one after the other, and all rows can be read. -/
structure Loads (transport : Transport (StateM τ)) (config : Config) (state : PoolState × τ)
    (spaceRows indexRows : List Tuple) : Prop where
  answered : ∃ between after,
    systemRows transport config SystemSpace.spaces state = (.ok spaceRows, between) ∧
      systemRows transport config SystemSpace.indexes between = (.ok indexRows, after)
  spaces : ∀ row ∈ spaceRows, ∃ id name format, DescribesSpace row id name format
  indexes : ∀ row ∈ indexRows, ∃ space id index, DescribesIndex row space id index

/-- The schema of the rows, before it takes the place of the one before. -/
def readSchema (config : Config) : Action (List Space) := do
  let rows ← Pool.scan config SystemSpace.spaces {}
  let spaces ← Program.ofExcept (rows.mapM readSpace)
  let rows ← Pool.scan config SystemSpace.indexes {}
  let indexes ← Program.ofExcept (rows.mapM readIndex)
  return joinSchema spaces indexes

theorem loadSchema_eq (config : Config) :
    Pool.loadSchema config = readSchema config >>= Action.setSchema := by
  simp only [readSchema, Program.bind_assoc]
  rfl

theorem KeepsSchema.readSchema : KeepsSchema transport (readSchema config) :=
  (scan ..).bind fun _ => bind (.done _) fun _ => (scan ..).bind fun _ =>
    bind (.done _) fun _ => .done _

theorem exists_readSpace {row : Tuple} :
    (∃ space, readSpace row = .ok space) ↔ ∃ id name format, DescribesSpace row id name format := by
  constructor
  · rintro ⟨space, h⟩
    obtain ⟨id, describes, -⟩ := readSpace_eq_ok_iff.mp h
    exact ⟨id, _, _, describes⟩
  · rintro ⟨id, name, format, describes⟩
    exact ⟨⟨.ofNat id, name, format, []⟩, readSpace_eq_ok_iff.mpr ⟨id, describes, rfl, rfl⟩⟩

theorem exists_readIndex {row : Tuple} :
    (∃ entry, readIndex row = .ok entry) ↔ ∃ space id index, DescribesIndex row space id index := by
  constructor
  · rintro ⟨⟨space, index⟩, h⟩
    obtain ⟨owner, id, describes, -⟩ := readIndex_eq_ok_iff.mp h
    exact ⟨owner, id, _, describes⟩
  · rintro ⟨owner, id, index, hspace, hid, hname, hunique, hparts⟩
    exact ⟨⟨.ofNat owner, { index with id := .ofNat id }⟩,
      readIndex_eq_ok_iff.mpr ⟨owner, id, ⟨hspace, hid, hname, hunique, hparts⟩, rfl, rfl⟩⟩

theorem Loads.run_readSchema {state : PoolState × τ} {spaceRows indexRows : List Tuple}
    (loads : Loads transport config state spaceRows indexRows) {spaces : List Space}
    (hspaces : spaceRows.mapM readSpace = .ok spaces) {indexes : List (UInt32 × Index)}
    (hindexes : indexRows.mapM readIndex = .ok indexes) :
    (Program.run transport.perform (readSchema config) state).1 =
      .ok (joinSchema spaces indexes) := by
  obtain ⟨between, after, hspaceRows, hindexRows⟩ := loads.answered
  have hrun : Program.run transport.perform (readSchema config) state =
      (.ok (joinSchema spaces indexes), after) := by
    refine Program.run_bind_eq_ok.mpr ⟨_, _, hspaceRows, ?_⟩
    refine Program.run_bind_eq_ok.mpr ⟨spaces, between, ?_, ?_⟩
    · rw [Program.run_ofExcept, hspaces]
    refine Program.run_bind_eq_ok.mpr ⟨_, _, hindexRows, ?_⟩
    refine Program.run_bind_eq_ok.mpr ⟨indexes, after, ?_, rfl⟩
    rw [Program.run_ofExcept, hindexes]
  rw [hrun]

theorem exists_loads {state : PoolState × τ} {schema : List Space}
    (h : (Program.run transport.perform (readSchema config) state).1 = .ok schema) :
    ∃ spaceRows indexRows, Loads transport config state spaceRows indexRows := by
  have hrun : Program.run transport.perform (readSchema config) state =
    (.ok schema, (Program.run transport.perform (readSchema config) state).2) := by rw [← h]
  obtain ⟨spaceRows, between, hspaceRows, hrun⟩ := Program.run_bind_eq_ok.mp hrun
  obtain ⟨spaces, _, hspaces, hrun⟩ := Program.run_bind_eq_ok.mp hrun
  rw [Program.run_ofExcept, Prod.mk.injEq] at hspaces
  obtain ⟨hspaces, rfl⟩ := hspaces
  obtain ⟨indexRows, after, hindexRows, hrun⟩ := Program.run_bind_eq_ok.mp hrun
  obtain ⟨indexes, _, hindexes, -⟩ := Program.run_bind_eq_ok.mp hrun
  rw [Program.run_ofExcept, Prod.mk.injEq] at hindexes
  refine ⟨spaceRows, indexRows, ⟨between, after, hspaceRows, hindexRows⟩, ?_, ?_⟩
  · intro row hrow
    obtain ⟨space, -, hspace⟩ := exists_mem_of_forall₂ (mapM_eq_ok_iff.mp hspaces) row hrow
    exact exists_readSpace.mp ⟨space, hspace⟩
  · intro row hrow
    obtain ⟨entry, -, hentry⟩ := exists_mem_of_forall₂ (mapM_eq_ok_iff.mp hindexes.1) row hrow
    exact exists_readIndex.mp ⟨entry, hentry⟩

/-! ## Looking up spaces -/

def lookup (transport : Transport (StateM τ)) (config : Config) (state : PoolState × τ)
    (name : String) : Except ClientError (Option Space) :=
  ((client transport config).handle (.space name) state).1

theorem lookup_eq (state : PoolState × τ) (name : String) :
    lookup transport config state name =
      .ok (state.1.schema.find? fun space => space.name == name) := by
  rw [lookup, client_handle]
  rfl

theorem refreshMetadata_eq (state : PoolState × τ) :
    (client transport config).handle .refreshMetadata state =
      match Program.run transport.perform (readSchema config) state with
      | (.ok schema, after) => (.ok (), { after.1 with schema }, after.2)
      | (.error fault, after) => (.error fault.toClientError, after) := by
  rw [client_handle, Pool.answer, loadSchema_eq, Program.run_bind]
  cases Program.run transport.perform (readSchema config) state with
  | mk result after => cases result <;> rfl

/-- The numbers and names of the spaces are distinct, and the numbers have 32 bits. -/
structure DistinctSpaces (rows : List Tuple) : Prop where
  ids : (rows.map fun row => (fieldAt row 0).unsigned?).Nodup
  names : (rows.map fun row => (fieldAt row 2).text?).Nodup
  small : ∀ row ∈ rows, ∀ id, (fieldAt row 0).unsigned? = some id → id < 2 ^ 32

/-- The numbers of the indexes and their spaces have 32 bits. -/
structure SmallIndexes (rows : List Tuple) : Prop where
  spaces : ∀ row ∈ rows, ∀ space, (fieldAt row 0).unsigned? = some space → space < 2 ^ 32
  indexes : ∀ row ∈ rows, ∀ id, (fieldAt row 1).unsigned? = some id → id < 2 ^ 32

def HasIndexes (rows : List Tuple) (space : UInt32) (indexes : List Index) : Prop :=
  ∃ described, List.Forall₂ (fun row index => DescribesIndex row space.toNat index.id.toNat index)
      (rows.filter fun row => (fieldAt row 0).unsigned? = some space.toNat) described ∧
    SortedStably (fun index => index.id.toNat) described indexes

/-- Every space of the rows is known with its indexes, and no other. -/
structure Knows (transport : Transport (StateM τ)) (config : Config) (state : PoolState × τ)
    (spaceRows indexRows : List Tuple) : Prop where
  known : ∀ row ∈ spaceRows, ∃ space : Space,
    DescribesSpace row space.id.toNat space.name space.format ∧
      HasIndexes indexRows space.id space.indexes ∧
      lookup transport config state space.name = .ok (some space)
  unknown : ∀ name, (∀ row ∈ spaceRows, (fieldAt row 2).text? ≠ some name) →
    lookup transport config state name = .ok none

theorem describes_of_readSpace {row : Tuple} {space : Space} (h : readSpace row = .ok space)
    (small : ∀ id, (fieldAt row 0).unsigned? = some id → id < 2 ^ 32) :
    DescribesSpace row space.id.toNat space.name space.format := by
  obtain ⟨id, describes, hid, -⟩ := readSpace_eq_ok_iff.mp h
  rw [hid, UInt32.toNat_ofNat_of_lt' (small id describes.id)]
  exact describes

theorem describes_of_readIndex {row : Tuple} {space : UInt32} {index : Index}
    (h : readIndex row = .ok (space, index))
    (smallSpace : ∀ space, (fieldAt row 0).unsigned? = some space → space < 2 ^ 32)
    (smallId : ∀ id, (fieldAt row 1).unsigned? = some id → id < 2 ^ 32) :
    DescribesIndex row space.toNat index.id.toNat index := by
  obtain ⟨owner, id, describes, rfl, hid⟩ := readIndex_eq_ok_iff.mp h
  rw [hid, UInt32.toNat_ofNat_of_lt' (smallSpace owner describes.space),
    UInt32.toNat_ofNat_of_lt' (smallId id describes.id)]
  exact describes

theorem forall₂_own {rows : List Tuple} {entries : List (UInt32 × Index)}
    (h : List.Forall₂
      (fun row entry => DescribesIndex row entry.1.toNat entry.2.id.toNat entry.2) rows entries)
    (space : UInt32) :
    List.Forall₂ (fun row index => DescribesIndex row space.toNat index.id.toNat index)
      (rows.filter fun row => (fieldAt row 0).unsigned? = some space.toNat)
      (entries.filterMap fun (id, index) => if id = space then some index else none) := by
  induction h with
  | nil => exact .nil
  | @cons row entry rows entries describes _ ih =>
      rw [List.filter_cons, List.filterMap_cons]
      dsimp only
      by_cases hspace : entry.1 = space
      · have hcolumn : (fieldAt row 0).unsigned? = some space.toNat := hspace ▸ describes.space
        rw [if_pos (decide_eq_true hcolumn), if_pos hspace]
        exact .cons (hspace ▸ describes) ih
      · have hcolumn : (fieldAt row 0).unsigned? ≠ some space.toNat :=
          fun h => hspace (UInt32.toNat_inj.mp (Option.some.inj (describes.space.symm.trans h)))
        rw [if_neg (fun h => hcolumn (of_decide_eq_true h)), if_neg hspace]
        exact ih

theorem hasIndexes_attachIndexes {rows : List Tuple} (small : SmallIndexes rows)
    {indexes : List (UInt32 × Index)} (h : rows.mapM readIndex = .ok indexes) (space : Space) :
    HasIndexes rows space.id (attachIndexes indexes space).indexes := by
  have hread := (List.forall₂_and_left _ _).mpr ⟨fun row hrow =>
    And.intro (small.spaces row hrow) (small.indexes row hrow), mapM_eq_ok_iff.mp h⟩
  have described := hread.imp fun row entry h => describes_of_readIndex h.2 h.1.1 h.1.2
  exact ⟨_, forall₂_own described space.id,
    sortedStably_mergeSort (fun index : Index => index.id.toNat) _⟩

theorem find?_of_nodup {spaces : List Space} (names : (spaces.map Space.name).Nodup)
    {space : Space} (h : space ∈ spaces) :
    (spaces.find? fun other => other.name == space.name) = some space := by
  induction spaces with
  | nil => contradiction
  | cons other spaces ih =>
      obtain ⟨hother, hspaces⟩ := List.nodup_cons.mp names
      rcases List.mem_cons.mp h with rfl | h
      · exact List.find?_cons_of_pos (beq_self_eq_true _)
      · have hne : other.name ≠ space.name := fun hname => hother (hname ▸ List.mem_map_of_mem h)
        rw [List.find?_cons_of_neg (by simpa using hne), ih hspaces h]

theorem knows_joinSchema {state : PoolState × τ} {spaceRows indexRows : List Tuple}
    (distinct : DistinctSpaces spaceRows) (small : SmallIndexes indexRows)
    {spaces : List Space} (hspaces : spaceRows.mapM readSpace = .ok spaces)
    {indexes : List (UInt32 × Index)} (hindexes : indexRows.mapM readIndex = .ok indexes)
    (hschema : state.1.schema = joinSchema spaces indexes) :
    Knows transport config state spaceRows indexRows := by
  have hread := (List.forall₂_and_left _ _).mpr ⟨distinct.small, mapM_eq_ok_iff.mp hspaces⟩
  have described := hread.imp fun row space h => describes_of_readSpace h.2 h.1
  have hids := map_eq_of_forall₂ described fun _ _ describes => describes.id
  have hnames := map_eq_of_forall₂ described fun _ _ describes => describes.name
  have ids : (spaces.map Space.id).Nodup := by
    refine List.Nodup.of_map (fun id => some id.toNat) ?_
    rw [List.map_map]
    exact hids ▸ distinct.ids
  have names : (spaces.map Space.name).Nodup := by
    refine List.Nodup.of_map some ?_
    rw [List.map_map]
    exact hnames ▸ distinct.names
  rw [joinSchema_eq ids names] at hschema
  have hjoined : (state.1.schema.map Space.name) = spaces.map Space.name := by
    rw [hschema, List.map_map]
    rfl
  constructor
  · intro row hrow
    obtain ⟨space, hspace, describes⟩ := exists_mem_of_forall₂ described row hrow
    refine ⟨attachIndexes indexes space, describes, hasIndexes_attachIndexes small hindexes space,
      ?_⟩
    rw [lookup_eq]
    refine congrArg Except.ok (find?_of_nodup (hjoined ▸ names) ?_)
    exact hschema ▸ List.mem_map_of_mem hspace
  · intro name hname
    rw [lookup_eq]
    refine congrArg Except.ok (List.find?_eq_none.mpr fun space hspace heq => ?_)
    have hmem : some name ∈ spaceRows.map fun row => (fieldAt row 2).text? := by
      rw [hschema] at hspace
      obtain ⟨other, hother, rfl⟩ := List.mem_map.mp hspace
      rw [hnames]
      exact List.mem_map.mpr ⟨other, hother, congrArg some (eq_of_beq heq)⟩
    obtain ⟨row, hrow, htext⟩ := List.mem_map.mp hmem
    exact hname row hrow htext

theorem Loads.refreshMetadata {state : PoolState × τ} {spaceRows indexRows : List Tuple}
    (loads : Loads transport config state spaceRows indexRows)
    (distinct : DistinctSpaces spaceRows) (small : SmallIndexes indexRows) :
    ((client transport config).handle .refreshMetadata state).1 = .ok () ∧
      Knows transport config ((client transport config).handle .refreshMetadata state).2
        spaceRows indexRows := by
  obtain ⟨spaces, hspaces⟩ :=
    exists_mapM_ok fun row hrow => exists_readSpace.mpr (loads.spaces row hrow)
  obtain ⟨indexes, hindexes⟩ :=
    exists_mapM_ok fun row hrow => exists_readIndex.mpr (loads.indexes row hrow)
  have hschema := loads.run_readSchema hspaces hindexes
  rw [refreshMetadata_eq]
  split
  next schema after hrun =>
    rw [hrun] at hschema
    exact ⟨rfl, knows_joinSchema distinct small hspaces hindexes (Except.ok.inj hschema)⟩
  next fault after hrun =>
    rw [hrun] at hschema
    cases hschema

theorem refreshMetadata_of_not_loads {state : PoolState × τ}
    (none : ¬∃ spaceRows indexRows, Loads transport config state spaceRows indexRows) :
    (∃ error, ((client transport config).handle .refreshMetadata state).1 = .error error) ∧
      ∀ name, lookup transport config
          ((client transport config).handle .refreshMetadata state).2 name =
        lookup transport config state name := by
  have hkept : (Program.run transport.perform (readSchema config) state).2.1.schema =
      state.1.schema := KeepsSchema.readSchema.schema_eq state
  rw [refreshMetadata_eq]
  split
  next schema after hrun => exact (none (exists_loads (congrArg Prod.fst hrun))).elim
  next fault after hrun =>
    rw [hrun] at hkept
    refine ⟨⟨_, rfl⟩, fun name => ?_⟩
    rw [lookup_eq, lookup_eq, hkept]

/--
Where the rows of the system spaces can be had and read, the spaces which they describe are
known afterwards, and no others; where they cannot, what is known stays as it is.
-/
theorem refreshMetadata_schema (transport : Transport (StateM τ)) (config : Config)
    (state : PoolState × τ) :
    let answered := (client transport config).handle .refreshMetadata state
    (∀ spaceRows indexRows, Loads transport config state spaceRows indexRows →
      DistinctSpaces spaceRows → SmallIndexes indexRows →
      answered.1 = .ok () ∧ Knows transport config answered.2 spaceRows indexRows) ∧
    ((¬∃ spaceRows indexRows, Loads transport config state spaceRows indexRows) →
      (∃ error, answered.1 = .error error) ∧
        ∀ name, lookup transport config answered.2 name = lookup transport config state name) :=
  ⟨fun _ _ loads distinct small => loads.refreshMetadata distinct small,
    refreshMetadata_of_not_loads⟩

/--
A server which answers every request for the rows of a system space.  The state is what it has
still to send.
-/
def describing (spaceRows indexRows : List Tuple) : Transport (StateM Bytes) where
  now := return 0
  connect _ _ := return .ok 0
  send _ packet _ := do
    let .ok asked := Response.decode (packet.drop lengthSize) | return .ok ()
    let space := ((entryAt? asked.body PacketKey.spaceId).bind Value.unsigned?).getD 0
    let rows := if space = SystemSpace.spaces.toNat then spaceRows else indexRows
    let answer := encodeRequest 0 (UInt64.ofNat asked.sync)
      [(PacketKey.data, .array (rows.map .array))]
    set (answer.toOption.getD [])
    return .ok ()
  receive _ count _ := do
    let bytes ← get
    set (bytes.drop count)
    return .ok (bytes.take count)
  close _ := return ()

def nameField (name : String) : Value := .map [(.text "name", .text name)]

def describedSpaces : List Tuple :=
  [[.nat 513, .nat 1, .text "books", .text "memtx", .nat 0, .map [], .array [nameField "id"]],
    [.nat 512, .nat 1, .text "users", .text "memtx", .nat 0, .map [],
      .array [nameField "id", nameField "email"]]]

/-- The rows of three indexes, with both ways to give parts; one is of a space without a row. -/
def describedIndexes : List Tuple :=
  [[.nat 512, .nat 1, .text "email", .text "tree", .map [(.text "unique", .bool false)],
      .array [.array [.nat 1, .text "string"]]],
    [.nat 700, .nat 0, .text "primary", .text "tree", .map [], .array []],
    [.nat 512, .nat 0, .text "primary", .text "tree", .map [],
      .array [.map [(.text "field", .nat 0)]]]]

theorem refreshMetadata_schema_users :
    let transport := describing describedSpaces describedIndexes
    let state : PoolState × Bytes := ({ slots := [some { link := 0 }] }, [])
    Loads transport {} state describedSpaces describedIndexes ∧
      DistinctSpaces describedSpaces ∧ SmallIndexes describedIndexes ∧
      Knows transport {} ((client transport {}).handle .refreshMetadata state).2
        describedSpaces describedIndexes := by
  intro transport state
  have loads : Loads transport {} state describedSpaces describedIndexes := by
    refine ⟨⟨({ turn := 1, slots := [some { link := 0, sync := 1 }] }, []),
      ({ turn := 2, slots := [some { link := 0, sync := 2 }] }, []), ?_, ?_⟩, ?_, ?_⟩
    · decide +kernel
    · decide +kernel
    · have hread : describedSpaces.mapM readSpace = .ok
          [⟨513, "books", [⟨"id", "any", false⟩], []⟩,
            ⟨512, "users", [⟨"id", "any", false⟩, ⟨"email", "any", false⟩], []⟩] := by
        decide +kernel
      intro row hrow
      obtain ⟨space, -, hspace⟩ := exists_mem_of_forall₂ (mapM_eq_ok_iff.mp hread) row hrow
      exact exists_readSpace.mp ⟨space, hspace⟩
    · have hread : describedIndexes.mapM readIndex = .ok
          [(512, ⟨1, "email", false, [1]⟩), (700, ⟨0, "primary", true, []⟩),
            (512, ⟨0, "primary", true, [0]⟩)] := by decide +kernel
      intro row hrow
      obtain ⟨entry, -, hentry⟩ := exists_mem_of_forall₂ (mapM_eq_ok_iff.mp hread) row hrow
      exact exists_readIndex.mp ⟨entry, hentry⟩
  have distinct : DistinctSpaces describedSpaces :=
    ⟨by decide +kernel, by decide +kernel, by decide +kernel⟩
  have small : SmallIndexes describedIndexes := ⟨by decide +kernel, by decide +kernel⟩
  exact ⟨loads, distinct, small,
    ((refreshMetadata_schema transport {} state).1 _ _ loads distinct small).2⟩

end Network

end TupleStore
