import TupleStore.Network.Pool
import TupleStore.Proofs.Contents
import TupleStore.Proofs.Programs

/-!
# Selections over the network

The server applies the window of a selection only where it returns the tuples in
primary key order and nothing but the index query is left to apply.  Everywhere
else it is asked for all tuples of the scan, which are put in order and filtered
here.  Either way the result is what the conditions mean.
-/

namespace TupleStore.Network.Pool

/-! ## The server -/

/-- Whether the server returns tuples whose keys compare so with the key of the request. -/
def Iterator.admits : Iterator → Ordering → Bool
  | .equal, order => order == .eq
  | .all, _ => true
  | .less, order => order == .lt
  | .lessOrEqual, order => order != .gt
  | .greaterOrEqual, order => order != .lt
  | .greater, order => order == .gt

theorem Iterator.admits_ofOperator (operator : Operator) (order : Ordering) :
    (ofOperator operator).admits order = operator.test order := by
  cases operator <;> rfl

/-- Whether the scan returns the tuple, whose key is cut to the length of its own key. -/
def Scan.admits (scan : Scan) (index : Index) (tuple : Tuple) : Bool :=
  scan.iterator.admits
    (Value.compareKeys ((index.keyOf tuple).take scan.key.length) scan.key)

variable {σ : Type} (handle : (op : Op) → σ → op.Reply × σ) (config : Config)

/--
A server which holds the tuples answers the request for a scan: it walks along the
index, skips `offset` tuples and keeps `limit` of the rest.
-/
def Serves (space : Space) (stored : List Tuple) (scan : Scan) (offset limit : Nat)
    (state : σ) : Prop :=
  ∃ index ∈ space.indexes, index.id = scan.index ∧
    ∃ walked, index.Walks scan.iterator.isForward (stored.filter (scan.admits index)) walked ∧
      (Program.run handle
        (request config RequestCode.select
          [(PacketKey.spaceId, .nat space.id.toNat), (PacketKey.indexId, .nat scan.index.toNat),
            (PacketKey.iterator, .nat scan.iterator.code), (PacketKey.offset, .nat offset),
            (PacketKey.limit, .nat limit), (PacketKey.key, .array scan.key)])
        state).1 = .ok (((walked.drop offset).take limit).map .array)

/-! ## Selecting -/

variable {handle config}
variable {space : Space} {primary : Index} {stored : List Tuple} {conditions : Conditions}
variable {wanted : Scan} {state : σ}

theorem run_scan {offset limit : Nat}
    (serves : Serves handle config space stored wanted offset limit state) :
    ∃ index ∈ space.indexes, index.id = wanted.index ∧
      ∃ walked, index.Walks wanted.iterator.isForward
          (stored.filter (wanted.admits index)) walked ∧
        (Program.run handle (scan config space.id wanted offset limit) state).1 =
          .ok ((walked.drop offset).take limit) := by
  obtain ⟨index, hindex, hid, walked, walks, hrun⟩ := serves
  refine ⟨index, hindex, hid, walked, walks, ?_⟩
  rw [scan, Program.run_bind]
  split
  next rows state' h =>
    rw [h] at hrun
    cases hrun
    exact mapM_array (fun _ => rfl) _
  next error state' h =>
    rw [h] at hrun
    cases hrun

theorem isMatch_of_scan (scans : Scan.of space conditions = .ok wanted)
    (ids : (space.indexes.map Index.id).Nodup) {index : Index} (hindex : index ∈ space.indexes)
    (hid : index.id = wanted.index) (tuple : Tuple) :
    conditions.isMatch space tuple =
      if wanted.admits index tuple then
        Conditions.passesComparisons space tuple conditions.comparisons
      else .ok false := by
  unfold Scan.of at scans
  unfold Conditions.isMatch
  cases hquery : conditions.indexQuery with
  | none =>
      rw [hquery] at scans
      cases scans
      rfl
  | some query =>
      rw [hquery] at scans
      cases hnamed : space.index? query.index with
      | none => simp [hnamed] at scans
      | some named =>
          simp only [hnamed, Except.ok.injEq] at scans
          subst scans
          have hsame := Space.index_unique ids hindex (Space.index_mem hnamed) hid
          subst hsame
          simp only [hnamed, Scan.admits, Iterator.admits_ofOperator,
            Conditions.IndexQuery.passes]
          rfl

theorem Serves.of_perm {ordered : List Tuple} {offset limit : Nat}
    (serves : Serves handle config space stored wanted offset limit state)
    (perm : stored.Perm ordered) :
    Serves handle config space ordered wanted offset limit state := by
  obtain ⟨index, hindex, hid, walked, walks, hrun⟩ := serves
  exact ⟨index, hindex, hid, walked, walks.of_perm (perm.filter _), hrun⟩

private theorem walked_eq_filter (contents : space.Contents primary stored)
    (increasing : Increasing Value.compareKeys primary.keyOf stored)
    (ids : (space.indexes.map Index.id).Nodup) {index : Index} (hindex : index ∈ space.indexes)
    (hid : index.id = wanted.index) (hprimary : wanted.inPrimaryOrder = true)
    {walked : List Tuple} (walks : index.Walks wanted.iterator.isForward
      (stored.filter (wanted.admits index)) walked) :
    walked = stored.filter (wanted.admits index) := by
  simp only [Scan.inPrimaryOrder, Bool.and_eq_true, beq_iff_eq] at hprimary
  have hsame : index = primary := by
    refine Space.index_unique ids hindex (Space.primary_mem contents.primary_eq) ?_
    rw [hid, hprimary.1, Space.primary_id contents.primary_eq]
  subst hsame
  rw [hprimary.2] at walks
  exact contents.walked_eq increasing List.filter_sublist walks

private theorem window_eq (ascending : conditions.descending = false) {tuples : List Tuple}
    (few : tuples.length ≤ noLimit) :
    conditions.window tuples =
      (tuples.drop conditions.offset).take (conditions.limit.getD noLimit) := by
  simp only [Conditions.window, ascending, Bool.false_eq_true, if_false]
  cases conditions.limit with
  | some limit => rfl
  | none =>
      have hlength : (tuples.drop conditions.offset).length ≤ noLimit := by
        rw [List.length_drop]
        omega
      exact (List.take_of_length_le hlength).symm

private theorem run_space {name : String}
    (found : (handle .schema state).1.find? (fun space => space.name == name) = some space) :
    Program.run handle (Pool.space name) state = (.ok space, (handle .schema state).2) := by
  rw [Pool.space, Program.run_bind, space?, Program.run_bind, Action.schema,
    Program.run_perform]
  simp only [Program.run_pure, found]

private theorem run_scan_window (contents : space.Contents primary stored)
    (increasing : Increasing Value.compareKeys primary.keyOf stored)
    (ids : (space.indexes.map Index.id).Nodup) (few : stored.length < noLimit)
    (scans : Scan.of space conditions = .ok wanted) (hprimary : wanted.inPrimaryOrder = true)
    (plain : conditions.comparisons = []) (ascending : conditions.descending = false)
    (serves : Serves handle config space stored wanted conditions.offset
      (conditions.limit.getD noLimit) state) :
    (Program.run handle (scan config space.id wanted conditions.offset
        (conditions.limit.getD noLimit)) state).1 =
      (conditions.filter space stored).mapError .unknownName := by
  obtain ⟨index, hindex, hid, walked, walks, hrun⟩ := run_scan serves
  have hwalked := walked_eq_filter contents increasing ids hindex hid hprimary walks
  have hmatch : ∀ tuple ∈ stored,
      conditions.isMatch space tuple = .ok (wanted.admits index tuple) := by
    intro tuple _
    rw [isMatch_of_scan scans ids hindex hid, plain]
    cases wanted.admits index tuple <;> rfl
  have hfew : walked.length ≤ noLimit := by
    have := List.length_filter_le (wanted.admits index) stored
    rw [hwalked]
    omega
  rw [hrun, Conditions.filter, Conditions.matching_eq_filter hmatch, ← hwalked,
    ← window_eq ascending hfew]
  rfl

private theorem run_scan_filter (contents : space.Contents primary stored)
    (increasing : Increasing Value.compareKeys primary.keyOf stored)
    (ids : (space.indexes.map Index.id).Nodup) (few : stored.length < noLimit)
    (scans : Scan.of space conditions = .ok wanted)
    (serves : Serves handle config space stored wanted 0 noLimit state) :
    ∃ tuples, (Program.run handle (scan config space.id wanted) state).1 = .ok tuples ∧
      conditions.filter space
          (if wanted.inPrimaryOrder then tuples else space.inPrimaryOrder tuples) =
        conditions.filter space stored := by
  obtain ⟨index, hindex, hid, walked, walks, hrun⟩ := run_scan serves
  have hfew : walked.length ≤ noLimit := by
    have := List.length_filter_le (wanted.admits index) stored
    rw [walks.perm.length_eq]
    omega
  rw [List.drop_zero, List.take_of_length_le hfew] at hrun
  refine ⟨walked, hrun, ?_⟩
  have hordered : (if wanted.inPrimaryOrder then walked else space.inPrimaryOrder walked) =
      stored.filter (wanted.admits index) := by
    split
    next h => exact walked_eq_filter contents increasing ids hindex hid h walks
    next => exact contents.inPrimaryOrder_eq increasing List.filter_sublist walks.perm
  rw [hordered]
  refine Conditions.filter_filter fun tuple _ hnot => ?_
  rw [isMatch_of_scan scans ids hindex hid, hnot]
  rfl

/--
A selection through the pool from a server which holds the tuples is the meaning of
the conditions on the tuples in primary key order.
-/
theorem select_eq_filter (name : String)
    (found : (handle .schema state).1.find? (fun space => space.name == name) = some space)
    (contents : space.Contents primary stored) (ids : (space.indexes.map Index.id).Nodup)
    (few : stored.length < noLimit) (scans : Scan.of space conditions = .ok wanted)
    (serves_all : Serves handle config space stored wanted 0 noLimit (handle .schema state).2)
    (serves_window : Serves handle config space stored wanted conditions.offset
      (conditions.limit.getD noLimit) (handle .schema state).2) :
    ∃ ordered, ordered.Perm stored ∧
      Increasing Value.compareKeys primary.keyOf ordered ∧
      (Program.run handle (select config name conditions) state).1 =
        (conditions.filter space ordered).mapError .unknownName := by
  obtain ⟨ordered, hperm, increasing⟩ := contents.exists_increasing
  refine ⟨ordered, hperm, increasing, ?_⟩
  replace contents := contents.perm hperm.symm
  replace few : ordered.length < noLimit := by rwa [hperm.length_eq]
  replace serves_all := serves_all.of_perm hperm.symm
  replace serves_window := serves_window.of_perm hperm.symm
  rw [select, Program.run_bind, run_space found]
  simp only [scans, Except.mapError, Program.run_bind, Program.run_ofExcept]
  split
  next h =>
    simp only [Bool.and_eq_true, List.isEmpty_iff, Bool.not_eq_true'] at h
    obtain ⟨⟨hprimary, plain⟩, ascending⟩ := h
    exact run_scan_window contents increasing ids few scans hprimary plain ascending
      serves_window
  next =>
    obtain ⟨tuples, hrun, hfilter⟩ :=
      run_scan_filter contents increasing ids few scans serves_all
    rw [Program.run_bind]
    split
    next tuples' state' h =>
      rw [h] at hrun
      cases hrun
      rw [Program.run_ofExcept, hfilter]
    next error state' h =>
      rw [h] at hrun
      cases hrun

/--
A server for the tuples of one walk, which answers every selection with the window
of the walk that the request asks for.  The state is what it has still to send.
-/
def answerWalk (spaces : List Space) (walked : List Tuple) : (op : Op) → Bytes → op.Reply × Bytes
  | .schema, bytes => (spaces, bytes)
  | .now, bytes | .turn, bytes => (0, bytes)
  | .acquire _, bytes => (some { link := 0 }, bytes)
  | .connect .., bytes => (.ok 0, bytes)
  | .send _ packet _, bytes =>
      match Response.decode (packet.drop lengthSize) with
      | .error _ => (.ok (), bytes)
      | .ok asked =>
          let number key := ((entryAt? asked.body key).bind Value.unsigned?).getD 0
          let rows := (walked.drop (number PacketKey.offset)).take (number PacketKey.limit)
          let answer := encodeRequest 0 (UInt64.ofNat asked.sync)
            [(PacketKey.data, .array (rows.map .array))]
          (.ok (), answer.toOption.getD [])
  | .receive _ count _, bytes => (.ok (bytes.take count), bytes.drop count)
  | .close _, bytes | .release .., bytes | .setSchema _, bytes => ((), bytes)

def people : Space where
  id := 512
  name := "people"
  format := [{ name := "id" }, { name := "name" }, { name := "age" }]
  indexes := [⟨0, "primary", true, [0]⟩, ⟨1, "by_age", false, [2]⟩]

/-- The second of the people below thirty without the name 7, by falling numbers. -/
theorem select_people_below_thirty :
    let person (id name age : Nat) : Tuple := [.nat id, .nat name, .nat age]
    let stored := [person 3 7 20, person 1 5 40, person 4 5 25, person 2 6 20]
    let conditions : Conditions :=
      { indexQuery := some ⟨"by_age", .less, [.nat 30]⟩
        comparisons := [⟨"name", .less, .nat 7⟩]
        limit := some 1, offset := 1, descending := true }
    let walked := [person 4 5 25, person 3 7 20, person 2 6 20]
    ∃ ordered, ordered.Perm stored ∧
      Increasing Value.compareKeys people.indexes[0].keyOf ordered ∧
      (Program.run (answerWalk [people] walked) (select {} "people" conditions) []).1 =
        (conditions.filter people ordered).mapError .unknownName := by
  intro person stored conditions walked
  have walks : people.indexes[1].Walks false
      (stored.filter ((⟨1, .less, [.nat 30]⟩ : Scan).admits people.indexes[1])) walked :=
    ⟨by decide +kernel, by decide +kernel⟩
  have contents : people.Contents people.indexes[0] stored :=
    ⟨rfl, by decide +kernel, by decide +kernel⟩
  have scans : Scan.of people conditions = .ok ⟨1, .less, [.nat 30]⟩ := rfl
  refine select_eq_filter "people" rfl contents (by decide +kernel) (by decide +kernel) scans
    ⟨people.indexes[1], by decide +kernel, rfl, walked, walks, ?_⟩
    ⟨people.indexes[1], by decide +kernel, rfl, walked, walks, ?_⟩
  · decide +kernel
  · decide +kernel

end TupleStore.Network.Pool
