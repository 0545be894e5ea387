import Mathlib.Data.List.Permutation
import TupleStore.Proofs.RoundTrips
import TupleStore.Sample.Kind

/-!
# Rows of the sample entities

Each sample entity is written as entries with the names of its fields, its key
consists of entries, and it is read back from all rows which agree with the entries.
-/

namespace TupleStore

/-! ## Stored entities -/

namespace Entity

variable {α : Type} [entity : Entity α]
variable {names : List String} {row : String → Value} {entries : List (String × Value)}

/--
The entity is written as these entries.  Among fields with these names it is read as
`restored`.
-/
structure Stored (names : List String) (value restored : α) (entries : List (String × Value)) :
    Prop where
  written : entity.codec.write value = .named entries
  fields : (entries.map Prod.fst).Perm entity.fields
  distinct : entity.fields.Nodup
  key : ∀ row, Agrees row entries → Entity.key value = .ok (entity.idFields.map row)
  read : ∀ row, Agrees row entries →
    entity.codec.read (.named (rowEntries names row)) = .ok restored

theorem keyOf_single {id : entity.Id} {name : String} {value : Value}
    (hfields : entity.idFields = [name]) (hwrite : entity.idCodec.write id = value)
    (hmap : ∀ entries, value ≠ .map entries) : keyOf α id = .ok [value] := by
  rw [keyOf, hfields]
  dsimp only
  rw [hwrite]
  cases value with
  | map entries => exact absurd rfl (hmap entries)
  | _ => rfl

theorem keyOf_array {id : entity.Id} {items : List Value} (hfields : 1 < entity.idFields.length)
    (hwrite : entity.idCodec.write id = .array items)
    (hlength : items.length = entity.idFields.length) : keyOf α id = .ok items := by
  rw [keyOf]
  split
  next h =>
    rw [h] at hfields
    contradiction
  next =>
    rw [hwrite]
    dsimp only
    rw [if_neg (Nat.ne_of_gt hfields), if_pos hlength]

theorem find?_named (agrees : Agrees row entries) {name : String}
    (h : name ∈ entries.map Prod.fst) :
    ((entries.map fun entry => (Value.text entry.1, entry.2)).find?
      fun entry => entry.1 = .text name) = some (.text name, row name) := by
  induction entries with
  | nil => contradiction
  | cons entry entries ih =>
      obtain ⟨hentry, hentries⟩ := List.forall_mem_cons.mp agrees
      rw [List.map_cons, List.find?_cons]
      by_cases hsame : entry.1 = name
      · rw [decide_eq_true (congrArg Value.text hsame), ← hsame, hentry]
      · have htext : Value.text entry.1 ≠ .text name := fun heq =>
          hsame (Bytes.ofString_injective (Value.str.inj heq))
        rw [decide_eq_false htext]
        exact ih hentries ((List.mem_cons.mp h).resolve_left (Ne.symm hsame))

theorem keyOf_named {id : entity.Id} (hfields : entity.idFields ≠ [])
    (hwrite : entity.idCodec.write id = .named entries) (agrees : Agrees row entries)
    (part : ∀ name ∈ entity.idFields, name ∈ entries.map Prod.fst) :
    keyOf α id = .ok (entity.idFields.map row) := by
  rw [keyOf]
  split
  next h => exact absurd h hfields
  next =>
    rw [hwrite, Value.named]
    refine mapM_ok fun name hname => ?_
    rw [find?_named agrees (part name hname)]

end Entity

/-! ## Maps of names -/

namespace MapId

theorem readKeyed_keyedRow {names : List String} {row : String → Value} :
    readKeyed (keyedRow names row) =
      .ok (ofList (names.map fun name => (name, (row name).clean))) := by
  rw [readKeyed, keyedRow, mapM_map_ok]
  · rfl
  · intro name _
    dsimp only
    rw [Bytes.text?_ofString]

theorem ofList_pair {id : MapId} {l r : Value} {pairs : List (String × Value)}
    (h : id.entries = [("book", l), ("user", r)])
    (perm : pairs.Perm [("book", l), ("user", r)]) : ofList pairs = id := by
  have hne : "book" ≠ "user" := by decide
  have hlt : "book" < "user" := by decide
  have hnot : ¬ "user" < "book" := by decide
  have hentries : (ofList pairs).entries = id.entries := by
    rw [h]
    rcases List.perm_pair.mp perm with rfl | rfl
    · simp [ofList, empty, insert, Named.insert, hne, hnot]
    · simp [ofList, empty, insert, Named.insert, hne.symm, hlt]
  cases hid : ofList pairs with
  | mk entries sorted =>
      rw [hid] at hentries
      cases id
      cases hentries
      rfl

end MapId

/-! ## Entities stored by records -/

namespace Entity

variable {α : Type} [entity : Entity α]
variable {names : List String} {value restored : α}

theorem Stored.ofRecord (record : Record α) (hcodec : entity.codec = record.codec)
    (hfields : entity.fields = record.fields.names) (apart : entity.fields.Nodup)
    (distinct : names.Nodup) (part : ∀ name ∈ entity.fields, name ∈ names)
    (restores : record.fields.Restores (record.toRow value))
    (inverse : record.ofRow (record.toRow value) = restored)
    (key : ∀ row, Agrees row (record.fields.entries (record.toRow value)) →
      Entity.key value = .ok (entity.idFields.map row)) :
    Stored names value restored (record.fields.entries (record.toRow value)) where
  written := by rw [hcodec, record.write_eq]
  fields := .of_eq (by rw [record.fields.entries_names, hfields])
  distinct := apart
  key := key
  read row agrees := by
    rw [hfields] at part
    rw [hcodec, Record.read_named distinct part (restores.reads agrees), inverse]

theorem Stored.ofKeyed (record : Record α) (name : String) (hcodec : entity.codec = record.codec)
    (hfields : entity.fields = record.fields.names) (apart : entity.fields.Nodup)
    (distinct : names.Nodup) (part : ∀ name ∈ entity.fields, name ∈ names)
    (restores : record.fields.Restores (record.toRow value))
    (inverse : record.ofRow (record.toRow value) = restored)
    (hkey : entity.idFields = [name])
    (h : (name, entity.idCodec.write (Entity.id value)) ∈
      record.fields.entries (record.toRow value))
    (hmap : ∀ entries, entity.idCodec.write (Entity.id value) ≠ .map entries) :
    Stored names value restored (record.fields.entries (record.toRow value)) := by
  refine .ofRecord record hcodec hfields apart distinct part restores inverse fun row agrees => ?_
  rw [Entity.key, keyOf_single hkey rfl hmap, hkey, List.map_singleton, agrees _ h]

end Entity

namespace Sample

open Codec Entity

variable {names : List String}

/-! ## The kinds -/

theorem text_option_restores (value : Option String) : (option text).Restores value :=
  option_restores fun present _ => ⟨text_restores present, Value.noConfusion⟩

theorem bool_option_restores (value : Option Bool) : (option bool).Restores value :=
  option_restores fun present _ => ⟨bool_restores present, Value.noConfusion⟩

theorem address_restores (address : Address) : addressRecord.codec.Restores address :=
  Record.restores (by decide)
    ⟨text_restores _, text_option_restores _, trivial⟩ rfl

theorem stored_comment (comment : Comment) (distinct : names.Nodup)
    (part : ∀ name ∈ Entity.fields Comment, name ∈ names) :
    Stored names comment comment
      (commentKeyRecord.fields.entries (commentKeyRecord.toRow comment.key) ++
        [("body", .text comment.body)]) where
  written := by
    change Value.map (commentKeyRecord.fields.write (commentKeyRecord.toRow comment.key) ++
      commentFlattened.own.write (comment.body, ())) = _
    rw [commentKeyRecord.fields.write_eq, Value.named, List.map_append]
    rfl
  fields := .refl _
  distinct := by decide
  key row agrees :=
    keyOf_named (List.cons_ne_nil _ _) (commentKeyRecord.write_eq comment.key)
      (fun entry h => agrees entry (List.mem_append_left _ h)) fun _ h => h
  read row agrees := by
    have hkey : commentKeyRecord.fields.Reads row (commentKeyRecord.toRow comment.key) :=
      Fields.Restores.reads ⟨uint64_restores _, uint32_restores _, trivial⟩
        fun entry h => agrees entry (List.mem_append_left _ h)
    have hbody : commentFlattened.own.Reads row (comment.body, ()) := by
      refine ⟨?_, trivial⟩
      rw [agrees ("body", _) (List.mem_append_right _ List.mem_cons_self)]
      exact text_restores comment.body
    have hpart : commentFlattened.readPart (keyedRow
        (names.filter fun name => name ∉ commentFlattened.own.names) row) = .ok comment.key := by
      refine Record.readNamed_keyedRow (distinct.filter _) (fun name h => ?_) hkey
      refine List.mem_filter.mpr ⟨part name (List.mem_append_left ["body"] h), ?_⟩
      revert name
      decide
    have hknown : ∀ name ∈ commentFlattened.own.names, name ∈ names :=
      fun name h => part name (List.mem_append_right ["post", "seq"] h)
    change _ <$> commentFlattened.codec.read _ = _
    rw [Flattened.read_named distinct hknown hbody hpart]
    rfl

theorem stored_rating {rating : Rating} {book user : Value}
    (hkey : rating.key.entries = [("book", book), ("user", user)]) (hbook : book.clean = book)
    (huser : user.clean = user) (perm : names.Perm (Entity.fields Rating)) :
    Stored names rating rating
      [("book", book), ("user", user), ("stars", uint8.write rating.stars)] where
  written := by
    change Value.map (rating.key.entries.map _ ++ _) = _
    rw [hkey]
    simp only [List.map_cons, List.map_nil, hbook, huser]
    rfl
  fields := (by decide : ["book", "user", "stars"].Perm ["user", "book", "stars"])
  distinct := by decide
  key row agrees := by
    have hwrite : MapId.codec.write rating.key = .named [("book", book), ("user", user)] := by
      change Value.map (rating.key.entries.map _) = _
      rw [hkey]
      simp only [List.map_cons, List.map_nil, hbook, huser]
      rfl
    refine keyOf_named (List.cons_ne_nil _ _) hwrite (fun entry h => agrees entry ?_)
      (by decide : ∀ name ∈ ["user", "book"], name ∈ ["book", "user"])
    exact List.mem_append_left [("stars", uint8.write rating.stars)] h
  read row agrees := by
    simp only [Agrees, List.forall_mem_cons] at agrees
    obtain ⟨hrowBook, hrowUser, hrowStars, -⟩ := agrees
    have hstars : ratingFlattened.own.Reads row (rating.stars, ()) := by
      refine ⟨?_, trivial⟩
      rw [hrowStars]
      exact uint8_restores rating.stars
    -- what the own field leaves are the two entries of the key, in the order of the format
    have hpart : ratingFlattened.readPart (keyedRow
        (names.filter fun name => name ∉ ratingFlattened.own.names) row) = .ok rating.key := by
      have hnames : (names.filter fun name => name ∉ ratingFlattened.own.names).Perm
          ["user", "book"] := perm.filter _
      change MapId.readKeyed _ = _
      rw [MapId.readKeyed_keyedRow]
      refine congrArg Except.ok (MapId.ofList_pair hkey ?_)
      refine (hnames.map _).trans ?_
      simp only [List.map_cons, List.map_nil, hrowBook, hrowUser, hbook, huser]
      exact .swap _ _ _
    have hknown : ∀ name ∈ ratingFlattened.own.names, name ∈ names :=
      fun name h => perm.mem_iff.mpr (List.mem_append_right ["user", "book"] h)
    change _ <$> ratingFlattened.codec.read _ = _
    rw [Flattened.read_named (perm.nodup_iff.mpr (by decide)) hknown hstars hpart]
    rfl

namespace Kind

/-- The entity as it is read again: what a book caches is not stored. -/
def restored : (kind : Kind) → kind.Carrier → kind.Carrier
  | .book, value => { value with cached := false }
  | .user, value | .translation, value | .comment, value | .rating, value | .post, value
  | .schedule, value | .counter, value | .note, value | .gauge, value | .bag, value
  | .loose, value | .any, value | .orphan, value => value

/--
Whether the codecs keep all of the entity.  The key of a rating has the names of the
key fields and valid text; the times of a schedule are whole milliseconds and not in
a leap second.  A kind whose key is a floating point number or of any form is left out.
-/
def Storable : (kind : Kind) → kind.Carrier → Prop
  | .rating, value => ∃ l r, value.key.entries = [("book", l), ("user", r)] ∧
      l.clean = l ∧ r.clean = r
  | .schedule, value => IsMillis value.created ∧ value.starts.nanos < nanosPerSecond
  | .user, _ | .book, _ | .translation, _ | .comment, _ | .post, _ | .counter, _ | .note, _
  | .bag, _ => True
  | .gauge, _ | .loose, _ | .any, _ | .orphan, _ => False

theorem exists_stored {kind : Kind} {value : kind.Carrier} (storable : kind.Storable value)
    (distinct : names.Nodup) (part : ∀ name ∈ kind.entity.fields, name ∈ names)
    (exact : kind = .rating → ∀ name ∈ names, name ∈ kind.entity.fields) :
    ∃ entries, Stored names value (kind.restored value) entries := by
  cases kind with
  | user =>
      refine ⟨_, .ofKeyed userRecord "id" rfl rfl (by decide) distinct part ?_ rfl rfl
        List.mem_cons_self fun _ => Value.noConfusion⟩
      exact ⟨uint64_restores _, text_restores _, text_option_restores _, trivial⟩
  | book =>
      have hid : ∀ entries, (option uint64).write value.id ≠ .map entries := by
        intro entries
        cases value.id <;> exact Value.noConfusion
      refine ⟨_, .ofKeyed bookRecord "id" rfl rfl (by decide) distinct part ?_ rfl rfl
        List.mem_cons_self hid⟩
      refine ⟨option_restores fun id _ => ?_, text_restores _, uint32_restores _,
        bool_restores _, trivial⟩
      exact ⟨uint64_restores id, Value.noConfusion⟩
  | translation =>
      refine ⟨_, .ofRecord translationRecord rfl rfl (by decide) distinct part ?_ rfl
        fun row agrees => ?_⟩
      · exact ⟨uint64_restores _, text_restores _, text_restores _, uint32_restores _, trivial⟩
      · obtain ⟨hid, hrest⟩ := List.forall_mem_cons.mp agrees
        obtain ⟨hlang, -⟩ := List.forall_mem_cons.mp hrest
        rw [Entity.key, keyOf_array (by decide) rfl rfl]
        exact congrArg Except.ok (congrArg₂ (fun l r => [l, r]) hid.symm hlang.symm)
  | comment => exact ⟨_, stored_comment value distinct part⟩
  | rating =>
      obtain ⟨book, user, hkey, hbook, huser⟩ := storable
      refine ⟨_, stored_rating hkey hbook huser ?_⟩
      exact (List.perm_ext_iff_of_nodup distinct (by decide)).mpr fun name =>
        ⟨exact rfl name, part name⟩
  | post =>
      refine ⟨_, .ofKeyed postRecord "id" rfl rfl (by decide) distinct part ?_ rfl rfl
        List.mem_cons_self fun _ => Value.noConfusion⟩
      refine ⟨uint64_restores _, list_restores fun tag _ => text_restores tag, text_restores _,
        address_restores _, option_restores fun number _ => ?_, trivial⟩
      exact ⟨double_restores number, Value.noConfusion⟩
  | schedule =>
      obtain ⟨hcreated, hstarts⟩ := storable
      refine ⟨_, .ofKeyed scheduleRecord "name" rfl rfl (by decide) distinct part ?_ rfl rfl
        List.mem_cons_self fun _ => Value.noConfusion⟩
      exact ⟨text_restores _, epochMillis_restores hcreated, dateMillis_restores _,
        timeNanos_restores hstarts, durationText_restores _, trivial⟩
  | counter =>
      refine ⟨_, .ofKeyed counterRecord "name" rfl rfl (by decide) distinct part ?_ rfl rfl
        List.mem_cons_self fun _ => Value.noConfusion⟩
      exact ⟨text_restores _, int64_restores _, trivial⟩
  | note =>
      refine ⟨_, .ofKeyed noteRecord "id" rfl rfl (by decide) distinct part ?_ rfl rfl
        List.mem_cons_self fun _ => Value.noConfusion⟩
      exact ⟨uint64_restores _, text_restores _, bool_option_restores _,
        bool_option_restores _, trivial⟩
  | bag =>
      refine ⟨_, .ofKeyed bagRecord "id" rfl rfl (by decide) distinct part ?_ rfl rfl
        List.mem_cons_self fun _ => Value.noConfusion⟩
      exact ⟨list_restores fun number _ => uint64_restores number, text_option_restores _,
        trivial⟩
  | gauge | loose | any | orphan => exact storable.elim

theorem nesting_written {kind : Kind} {value : kind.Carrier} (storable : kind.Storable value)
    (hkind : kind ≠ .rating) : (kind.entity.codec.write value).nesting ≤ 2 := by
  cases kind with
  | user =>
      exact userRecord.within ⟨integer_within, text_within, option_within text_within, trivial⟩
        value
  | book =>
      exact bookRecord.within ⟨option_within integer_within, text_within, integer_within,
        fun _ => Nat.zero_le 1, trivial⟩ value
  | translation =>
      exact translationRecord.within ⟨integer_within, text_within, text_within, integer_within,
        trivial⟩ value
  | comment => exact Nat.le_succ 1
  | rating => contradiction
  | post =>
      exact postRecord.within ⟨integer_within, list_within text_within, text_within,
        addressRecord.within ⟨text_within, option_within text_within, trivial⟩,
        option_within fun _ => Nat.zero_le 1, trivial⟩ value
  | schedule =>
      exact scheduleRecord.within ⟨text_within, fun _ => Nat.zero_le 1, fun _ => Nat.zero_le 1,
        fun _ => Nat.zero_le 1, fun _ => Nat.zero_le 1, trivial⟩ value
  | counter => exact counterRecord.within ⟨text_within, integer_within, trivial⟩ value
  | note =>
      exact noteRecord.within ⟨integer_within, text_within, option_within fun _ => Nat.zero_le 1,
        option_within fun _ => Nat.zero_le 1, trivial⟩ value
  | bag =>
      exact bagRecord.within ⟨list_within integer_within, option_within text_within, trivial⟩
        value
  | gauge | loose | any | orphan => exact storable.elim

end Kind

end Sample

end TupleStore
