import TupleStore.Proofs.EntityTuples
import TupleStore.Proofs.QueryParameters

/-!
# Keys of entities

The key of an entity is taken from its id, and the primary index takes the key of a tuple
from the fields.  Both have the values of the entity under the names of the key fields, with
one exception: an id which is written as a map is searched for the key fields, also where it
is itself the value of the one key field.
-/

namespace TupleStore

/-! ## Values of tuples by name -/

namespace Space

variable {space : Space} {tuple placed : Tuple} {entries : List (String × Value)}

theorem valueOf_set {name : String} {position : Nat} (value : Value)
    (h : space.fieldPosition? name = some position) (hlt : position < tuple.length) :
    space.valueOf (tuple.set position value) =
      Function.update (space.valueOf tuple) name value := by
  funext other
  by_cases hsame : other = name
  · rw [hsame, Function.update_self, valueOf, h, Option.elim_some, fieldAt,
      List.getD_eq_getElem?_getD, List.getElem?_set_self hlt, Option.getD_some]
  · rw [Function.update_of_ne hsame, valueOf, valueOf]
    cases hother : space.fieldPosition? other with
    | none => rfl
    | some place =>
        have hne : position ≠ place := by
          rintro rfl
          have hnames := (fieldPosition?_eq_some hother).symm.trans (fieldPosition?_eq_some h)
          exact hsame (Option.some.inj hnames)
        rw [Option.elim_some, Option.elim_some, fieldAt, fieldAt, List.getD_eq_getElem?_getD,
          List.getElem?_set_ne hne, List.getD_eq_getElem?_getD]

theorem valueOf_placeEntries (hlength : tuple.length = space.format.length)
    (h : space.placeEntries tuple (entries.map fun entry => (.text entry.1, entry.2)) =
      .ok placed) :
    space.valueOf placed = assign (space.valueOf tuple) entries := by
  induction entries generalizing tuple with
  | nil =>
      cases h
      rfl
  | cons entry entries ih =>
      have htext : (Value.text entry.1).text? = some entry.1 := Bytes.text?_ofString entry.1
      rw [List.map_cons, placeEntries, htext] at h
      dsimp only at h
      cases hposition : space.fieldPosition? entry.1 with
      | none =>
          rw [hposition] at h
          cases h
      | some position =>
          rw [hposition] at h
          have hlt : position < tuple.length := by
            obtain ⟨hlt, -⟩ := List.findIdx?_eq_some_iff_getElem.mp hposition
            rwa [hlength]
          rw [ih (by rw [List.length_set, hlength]) h, valueOf_set entry.2 hposition hlt]
          rfl

theorem valueOf_tupleOf (h : space.tupleOf (.named entries) = .ok tuple) :
    space.valueOf tuple = Entity.rowOf entries := by
  have hempty : space.valueOf (List.replicate space.format.length .nil) = fun _ => .nil := by
    funext name
    rw [valueOf]
    cases space.fieldPosition? name with
    | none => rfl
    | some position =>
        rw [Option.elim_some, fieldAt, List.getD_eq_getElem?_getD, List.getElem?_replicate]
        split <;> rfl
  rw [Value.named, tupleOf] at h
  rw [valueOf_placeEntries List.length_replicate h, hempty]
  rfl

end Space

theorem Index.keyOf_eq {index : Index} {space : Space} {names : List String}
    (h : index.parts.map some = names.map space.fieldPosition?) (tuple : Tuple) :
    index.keyOf tuple = names.map (space.valueOf tuple) := by
  have hvalues : names.map (space.valueOf tuple) =
      (names.map space.fieldPosition?).map fun position? =>
        position?.elim .nil (fieldAt tuple) := by
    rw [List.map_map]
    rfl
  rw [hvalues, ← h, List.map_map]
  rfl

/-! ## Maps of names -/

namespace MapId

def cleanEntries (id : MapId) : List (String × Value) :=
  id.entries.map fun entry => (entry.1, entry.2.clean)

theorem write_eq (id : MapId) :
    id.write = id.cleanEntries.map fun entry => (.text entry.1, entry.2) := by
  rw [cleanEntries, List.map_map]
  rfl

theorem cleanEntries_names (id : MapId) :
    id.cleanEntries.map Prod.fst = id.entries.map Prod.fst := by
  rw [cleanEntries, List.map_map]
  rfl

theorem nodup_cleanEntries (id : MapId) : (id.cleanEntries.map Prod.fst).Nodup := by
  rw [cleanEntries_names, List.Nodup, List.pairwise_map]
  refine id.sorted.imp fun {l r} hlt heq => ?_
  rw [heq] at hlt
  exact String.lt_irrefl _ hlt

end MapId

/-! ## Keys of ids -/

namespace Entity

variable {α : Type} [entity : Entity α]
variable {names : List String} {value restored : α} {entries : List (String × Value)}

/-- The entity is written as these entries, and its key has the values of the key fields in them. -/
structure Keyed (value : α) (entries : List (String × Value)) : Prop where
  written : entity.codec.write value = .named entries
  key : Entity.key value = .ok (entity.idFields.map (rowOf entries))

theorem Stored.keyed (stored : Stored names value restored entries) : Keyed value entries where
  written := stored.written
  key := stored.key _ (Space.assign_of_mem (stored.fields.nodup_iff.mpr stored.distinct))

theorem Keyed.ofRecord (record : Record α) (name : String) (hcodec : entity.codec = record.codec)
    (apart : record.fields.names.Nodup) (hkey : entity.idFields = [name])
    (h : (name, entity.idCodec.write (Entity.id value)) ∈
      record.fields.entries (record.toRow value))
    (hmap : ∀ entries, entity.idCodec.write (Entity.id value) ≠ .map entries) :
    Keyed value (record.fields.entries (record.toRow value)) where
  written := by rw [hcodec, record.write_eq]
  key := by
    have agrees : Agrees (rowOf (record.fields.entries (record.toRow value)))
        (record.fields.entries (record.toRow value)) :=
      Space.assign_of_mem (record.fields.entries_names _ ▸ apart)
    rw [Entity.key, keyOf_single hkey rfl hmap, hkey, List.map_singleton, agrees _ h]

theorem keyOf_map_ne {id : entity.Id} {name : String} {stored : List (Value × Value)}
    (hkey : entity.idFields = [name]) (hwrite : entity.idCodec.write id = .map stored) :
    keyOf α id ≠ .ok [.map stored] := by
  rw [keyOf, hkey]
  dsimp only
  rw [hwrite]
  dsimp only
  rw [List.mapM_cons, List.mapM_nil]
  cases hfound : stored.find? fun entry => entry.1 = .text name with
  | none =>
      intro h
      cases h
  | some entry =>
      obtain ⟨key, found⟩ := entry
      intro h
      have hsame : found = .map stored := (List.cons.inj (Except.ok.inj h)).1
      have hsize := List.sizeOf_lt_of_mem (List.mem_of_find?_eq_some hfound)
      rw [hsame, Prod.mk.sizeOf_spec, Value.map.sizeOf_spec] at hsize
      omega

/--
The tuple of the entity in a space whose primary index has the positions of the key fields
as its parts.
-/
structure Placed (value : α) (space : Space) (primary : Index) (tuple : Tuple) : Prop where
  stored : entity.codec.toTuple value space = .ok tuple
  isPrimary : space.primary? = some primary
  parts : primary.parts.map some = entity.idFields.map space.fieldPosition?

theorem Placed.keyOf_eq {space : Space} {primary : Index} {tuple : Tuple}
    (placed : Placed value space primary tuple)
    (written : entity.codec.write value = .named entries) :
    primary.keyOf tuple = entity.idFields.map (rowOf entries) := by
  have htuple := placed.stored
  rw [Codec.toTuple] at htuple
  obtain ⟨stored, hstored, htuple⟩ := bind_eq_ok.mp htuple
  have hwritten : stored = .named entries := by
    rw [mapError_eq_ok, Codec.store] at hstored
    split at hstored
    · rw [← written]
      exact (Except.ok.inj hstored).symm
    · cases hstored
  rw [hwritten] at htuple
  rw [Index.keyOf_eq placed.parts, Space.valueOf_tupleOf htuple]

end Entity

/-! ## The kinds -/

namespace Sample

open Codec Entity

theorem keyed_rating {rating : Rating}
    (named : ∀ name ∈ ["user", "book"], name ∈ rating.key.entries.map Prod.fst) :
    Keyed rating (rating.key.cleanEntries ++ [("stars", uint8.write rating.stars)]) where
  written := by
    change Value.map (MapId.write rating.key ++ _) = _
    rw [rating.key.write_eq, Value.named, List.map_append]
    rfl
  key := by
    have agrees : Agrees (rowOf rating.key.cleanEntries) rating.key.cleanEntries :=
      Space.assign_of_mem rating.key.nodup_cleanEntries
    have hwrite : MapId.codec.write rating.key = .named rating.key.cleanEntries :=
      congrArg Value.map rating.key.write_eq
    have part : ∀ name ∈ ["user", "book"], name ∈ rating.key.cleanEntries.map Prod.fst := by
      rw [MapId.cleanEntries_names]
      exact named
    rw [Entity.key, keyOf_named (List.cons_ne_nil _ _) hwrite agrees part]
    refine congrArg Except.ok (List.map_congr_left fun name hname => ?_)
    -- the stars are set behind the key, but under a name of their own
    have hstars : ∀ name ∈ ["user", "book"], name ∉ ["stars"] := by decide
    rw [rowOf, rowOf, Space.assign_append]
    exact (Space.assign_of_not_mem (hstars name hname)).symm

namespace Kind

/--
The id is made of the key fields as they are stored.  The key of a rating may have more names
than these; the id of a loose entity is only one of its key fields, and an orphan has none.
-/
def Identified : (kind : Kind) → kind.Carrier → Prop
  | .rating, value => ∀ name ∈ ["user", "book"], name ∈ value.key.entries.map Prod.fst
  | .loose, _ | .orphan, _ => False
  | .user, _ | .book, _ | .translation, _ | .comment, _ | .post, _ | .schedule, _ | .counter, _
  | .note, _ | .gauge, _ | .bag, _ | .any, _ => True

def KeyIsMap (kind : Kind) (value : kind.Carrier) : Prop :=
  kind.entity.idFields.length = 1 ∧
    ∃ entries, kind.entity.idCodec.write (kind.entity.id value) = .map entries

theorem exists_keyed {kind : Kind} {value : kind.Carrier} (identified : kind.Identified value)
    (hmap : ¬kind.KeyIsMap value) : ∃ entries, Keyed value entries := by
  have ofStored (storable : kind.Storable value) (distinct : kind.entity.fields.Nodup) :
      ∃ entries, Keyed value entries :=
    (exists_stored storable distinct (fun _ h => h) fun _ _ h => h).imp fun _ => Stored.keyed
  cases kind with
  | user | book | translation | comment | post | counter | note | bag =>
      exact ofStored trivial (by decide)
  | rating => exact ⟨_, keyed_rating identified⟩
  | schedule =>
      exact ⟨_, .ofRecord scheduleRecord "name" rfl (by decide) rfl List.mem_cons_self
        fun _ => Value.noConfusion⟩
  | gauge =>
      exact ⟨_, .ofRecord gaugeRecord "AT_POINT" rfl (by decide) rfl List.mem_cons_self
        fun _ => Value.noConfusion⟩
  | any =>
      exact ⟨_, .ofRecord anyRecord "id" rfl (by decide) rfl List.mem_cons_self
        fun entries h => hmap ⟨rfl, entries, h⟩⟩
  | loose | orphan => exact identified.elim

theorem eq_any_of_keyIsMap {kind : Kind} {value : kind.Carrier} (identified : kind.Identified value)
    (hmap : kind.KeyIsMap value) : kind = .any := by
  obtain ⟨hone, entries, hentries⟩ := hmap
  cases kind with
  | any => rfl
  | user | post | schedule | counter | note | gauge | bag => cases hentries
  | book =>
      change (option uint64).write value.id = _ at hentries
      cases hid : value.id <;> rw [hid] at hentries <;> cases hentries
  | translation | comment | rating => cases hone
  | loose | orphan => exact identified.elim

/--
The key of an entity is the one which the primary index takes from its tuple if and only if
the one key field does not hold a map.
-/
theorem key_eq_iff {kind : Kind} {value : kind.Carrier} {space : Space} {primary : Index}
    {tuple : Tuple} (identified : kind.Identified value)
    (placed : Placed value space primary tuple) :
    Entity.key value = .ok (primary.keyOf tuple) ↔ ¬kind.KeyIsMap value := by
  constructor
  · intro hkey hmap
    obtain rfl := eq_any_of_keyIsMap identified hmap
    obtain ⟨_, entries, hentries⟩ := hmap
    rw [placed.keyOf_eq (anyRecord.write_eq value)] at hkey
    have hid : Value.clean value.id = .map entries := hentries
    change Entity.key value = .ok [value.id.clean] at hkey
    rw [hid] at hkey
    exact keyOf_map_ne rfl hentries hkey
  · intro hmap
    obtain ⟨entries, keyed⟩ := exists_keyed identified hmap
    rw [placed.keyOf_eq keyed.written, keyed.key]

def ratingsByUser : Space where
  id := 512
  name := "ratings"
  format := [⟨"stars", "unsigned", false⟩, ⟨"user", "any", false⟩, ⟨"book", "any", false⟩]
  indexes := [⟨0, "pk", true, [1, 2]⟩]

def fiveStars : Rating := ⟨.ofList [("user", .text "ann"), ("book", .int 7)], 5⟩

theorem key_eq_iff_fiveStars : Identified .rating fiveStars ∧
    Placed fiveStars ratingsByUser ⟨0, "pk", true, [1, 2]⟩ [.int 5, .text "ann", .int 7] ∧
    Entity.key fiveStars = .ok [.text "ann", .int 7] := by
  have identified : Identified .rating fiveStars := by
    rw [Identified]
    decide +kernel
  have placed : Placed fiveStars ratingsByUser ⟨0, "pk", true, [1, 2]⟩
      [.int 5, .text "ann", .int 7] :=
    ⟨by decide +kernel, by decide, by decide⟩
  have hmap : ¬KeyIsMap .rating fiveStars := fun hmap => absurd hmap.1 (by decide)
  exact ⟨identified, placed, (key_eq_iff identified placed).mpr hmap⟩

def anySpace : Space where
  id := 512
  name := "any"
  format := [⟨"id", "any", false⟩, ⟨"data", "any", true⟩]
  indexes := [⟨0, "pk", true, [0]⟩]

def mapped (name : String) : Any := ⟨.map [(.text name, .int 1)], .nil⟩

theorem key_ne_mapped : Identified .any (mapped "a") ∧
    Placed (mapped "a") anySpace ⟨0, "pk", true, [0]⟩ [.map [(.text "a", .int 1)], .nil] ∧
    Entity.key (mapped "a") ≠
      .ok (Index.keyOf ⟨0, "pk", true, [0]⟩ [.map [(.text "a", .int 1)], .nil]) := by
  refine ⟨trivial, ⟨?_, ?_, ?_⟩, ?_⟩ <;> decide +kernel

/-- The map is searched for the name of the key field, which it may happen to have. -/
example : Entity.key (mapped "a") = .error (.missingIdField "id" "any") ∧
    Entity.key (mapped "id") = .ok [.int 1] := by decide +kernel

end Kind

end Sample

end TupleStore
