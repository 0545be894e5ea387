import TupleStore.Proofs.PackedValues
import TupleStore.Proofs.SampleRows

/-!
# Tuples of the sample entities

The tuple of an entity has a value for each field of the format: what is written of the
entity under the names of its fields, and nil under all other names.  The entity is read
back from its tuple, whatever the order of the format is.
-/

namespace TupleStore

namespace Value

/-! ## Levels -/

mutual

theorem levels_le : (value : Value) → value.levels ≤ value.nesting + 1
  | .array items => Nat.succ_le_succ (levelsOfItems_le items)
  | .map entries => Nat.succ_le_succ (levelsOfEntries_le entries)
  | .nil | .bool _ | .int _ | .float32 _ | .float64 _ | .str _ | .bin _ | .ext .. => Nat.le_refl 1

theorem levelsOfItems_le : (items : List Value) → levelsOfItems items ≤ nestingOfItems items + 1
  | [] => Nat.zero_le 1
  | item :: items => by
      have hitem := levels_le item
      have hitems := levelsOfItems_le items
      simp only [levelsOfItems, nestingOfItems]
      omega

theorem levelsOfEntries_le :
    (entries : List (Value × Value)) → levelsOfEntries entries ≤ nestingOfEntries entries + 1
  | [] => Nat.zero_le 1
  | (key, value) :: entries => by
      have hkey := levels_le key
      have hvalue := levels_le value
      have hentries := levelsOfEntries_le entries
      simp only [levelsOfEntries, nestingOfEntries]
      omega

end

end Value

/-! ## Tuples of entities -/

namespace Entity

variable {α : Type} [entity : Entity α]
variable {names : List String} {value restored : α} {entries : List (String × Value)}
variable {space : Space}

/--
The entity is written as these entries, and is read as `restored` among fields with these
names.
-/
structure Kept (names : List String) (value restored : α) (entries : List (String × Value)) :
    Prop where
  written : entity.codec.write value = .named entries
  fields : (entries.map Prod.fst).Perm entity.fields
  distinct : entity.fields.Nodup
  read : ∀ row, Agrees row entries →
    entity.codec.read (.named (rowEntries names row)) = .ok restored

theorem Stored.kept (stored : Stored names value restored entries) :
    Kept names value restored entries :=
  ⟨stored.written, stored.fields, stored.distinct, stored.read⟩

theorem Kept.ofRecord (record : Record α) (hcodec : entity.codec = record.codec)
    (hfields : entity.fields = record.fields.names) (apart : entity.fields.Nodup)
    (distinct : names.Nodup) (part : ∀ name ∈ entity.fields, name ∈ names)
    (restores : record.fields.Restores (record.toRow value))
    (inverse : record.ofRow (record.toRow value) = restored) :
    Kept names value restored (record.fields.entries (record.toRow value)) where
  written := by rw [hcodec, record.write_eq]
  fields := .of_eq (by rw [record.fields.entries_names, hfields])
  distinct := apart
  read row agrees := by
    rw [hfields] at part
    rw [hcodec, Record.read_named distinct part (restores.reads agrees), inverse]

/-- The values of the entity at their names, and nil at the others. -/
def rowOf (entries : List (String × Value)) : String → Value :=
  Space.assign (fun _ => .nil) entries

theorem Kept.agrees (kept : Kept names value restored entries) :
    Agrees (rowOf entries) entries :=
  Space.assign_of_mem (kept.fields.nodup_iff.mpr kept.distinct)

theorem Kept.toTuple_eq (kept : Kept space.fieldNames value restored entries)
    (distinct : space.fieldNames.Nodup) (known : ∀ name ∈ entity.fields, name ∈ space.fieldNames)
    (shallow : (entity.codec.write value).nesting < MessagePack.maxLevels) :
    entity.codec.toTuple value space = .ok (space.fieldNames.map (rowOf entries)) := by
  have hlevels : (entity.codec.write value).levels ≤ MessagePack.maxLevels :=
    (Value.levels_le _).trans shallow
  have hknown : ∀ entry ∈ entries, entry.1 ∈ space.fieldNames := fun entry hentry =>
    known entry.1 (kept.fields.mem_iff.mp (List.mem_map_of_mem hentry))
  rw [Codec.toTuple, Codec.store, if_pos hlevels, kept.written]
  exact Space.tupleOf_named distinct hknown

theorem Kept.fromTuple_eq (kept : Kept space.fieldNames value restored entries)
    (shallow : (entity.codec.write value).nesting < MessagePack.maxLevels) :
    entity.codec.fromTuple (space.fieldNames.map (rowOf entries)) space = .ok restored := by
  have hnesting : (Value.named (rowEntries space.fieldNames (rowOf entries))).nesting <
      MessagePack.maxLevels := by
    refine Nat.lt_of_le_of_lt (Value.nesting_assign_le _ entries) ?_
    rwa [← kept.written]
  rw [Codec.fromTuple, Space.entriesOf_row, Codec.load, if_pos hnesting,
    kept.read _ kept.agrees]
  rfl

/--
The tuple has the length of the format, the values of the entity where the format has their
names and nil where it has other names.
-/
structure Laid (space : Space) (entries : List (String × Value)) (tuple : Tuple) : Prop where
  length : tuple.length = space.format.length
  present : ∀ entry ∈ entries, ∀ position : Nat,
    space.fieldNames[position]? = some entry.1 → tuple[position]? = some entry.2
  absent : ∀ (position : Nat) (name : String), space.fieldNames[position]? = some name →
    name ∉ entries.map Prod.fst → tuple[position]? = some .nil

theorem Kept.laid (kept : Kept names value restored entries) :
    Laid space entries (space.fieldNames.map (rowOf entries)) where
  length := by simp [Space.fieldNames]
  present entry hentry position hname := by
    rw [List.getElem?_map, hname, Option.map_some, kept.agrees entry hentry]
  absent position name hname hother := by
    rw [List.getElem?_map, hname, Option.map_some, rowOf, Space.assign_of_not_mem hother]

end Entity

/-! ## The kinds -/

namespace Sample

open Codec Entity

variable {names : List String}

theorem single_option_restores (value : Option Single) : (option single).Restores value :=
  option_restores fun _ _ => ⟨rfl, Value.noConfusion⟩

theorem value_restores {stored : Value} (h : stored.hasValidText = true) :
    value.Restores stored := by
  have hclean := Value.clean_eq_self stored h
  change Except.ok stored.clean.clean = _
  rw [hclean, hclean]

namespace Kind

/--
What the entity must be for its codec to keep it: strings of values of any form are valid
text, the key of a rating has the names of the key fields, and the times of a schedule
are whole milliseconds and not in a leap second.
-/
def Keepable : (kind : Kind) → kind.Carrier → Prop
  | .rating, value => value.key.entries.map Prod.fst = ["book", "user"] ∧
      ∀ entry ∈ value.key.entries, entry.2.hasValidText = true
  | .schedule, value => IsMillis value.created ∧ value.starts.nanos < nanosPerSecond
  | .loose, value => value.a.hasValidText = true ∧ value.b.hasValidText = true ∧
      value.c.hasValidText = true
  | .any, value => value.id.hasValidText = true ∧ value.data.hasValidText = true
  | .user, _ | .book, _ | .translation, _ | .comment, _ | .post, _ | .counter, _ | .note, _
  | .gauge, _ | .bag, _ | .orphan, _ => True

theorem storable_rating {rating : Rating} (keepable : Keepable .rating rating) :
    Storable .rating rating := by
  obtain ⟨hnames, hvalid⟩ := keepable
  obtain ⟨⟨_, l⟩, rest, hentries, rfl, hrest⟩ := List.map_eq_cons_iff.mp hnames
  obtain ⟨⟨_, r⟩, rest, rfl, rfl, hnil⟩ := List.map_eq_cons_iff.mp hrest
  obtain rfl := List.map_eq_nil_iff.mp hnil
  rw [hentries] at hvalid
  refine ⟨l, r, hentries, ?_, ?_⟩
  · exact Value.clean_eq_self l (hvalid ("book", l) (by simp))
  · exact Value.clean_eq_self r (hvalid ("user", r) (by simp))

theorem exists_kept {kind : Kind} {value : kind.Carrier} (keepable : kind.Keepable value)
    (distinct : names.Nodup) (part : ∀ name ∈ kind.entity.fields, name ∈ names)
    (exact : kind = .rating → ∀ name ∈ names, name ∈ kind.entity.fields) :
    ∃ entries, Kept names value (kind.restored value) entries := by
  have ofStored (storable : kind.Storable value) :
      ∃ entries, Kept names value (kind.restored value) entries :=
    (exists_stored storable distinct part exact).imp fun _ => Stored.kept
  cases kind with
  | user | book | translation | comment | post | counter | note | bag => exact ofStored trivial
  | rating => exact ofStored (storable_rating keepable)
  | schedule => exact ofStored keepable
  | gauge =>
      refine ⟨_, .ofRecord gaugeRecord rfl rfl (by decide) distinct part ?_ rfl⟩
      exact ⟨double_restores _, single_option_restores _, trivial⟩
  | loose =>
      obtain ⟨ha, hb, hc⟩ := keepable
      refine ⟨_, .ofRecord looseRecord rfl rfl (by decide) distinct part ?_ rfl⟩
      exact ⟨value_restores ha, value_restores hb, value_restores hc, trivial⟩
  | any =>
      obtain ⟨hid, hdata⟩ := keepable
      refine ⟨_, .ofRecord anyRecord rfl rfl (by decide) distinct part ?_ rfl⟩
      exact ⟨value_restores hid, value_restores hdata, trivial⟩
  | orphan =>
      refine ⟨_, .ofRecord orphanRecord rfl rfl (by decide) distinct part ?_ rfl⟩
      exact ⟨text_restores _, trivial⟩

/--
An entity has a tuple in every space whose format has the names of its fields: the written
values of the fields stand at their names, nil stands at all others, and the entity is read
back from it, up to fields which are not stored.
-/
theorem exists_toTuple {kind : Kind} {value : kind.Carrier} {space : Space}
    (keepable : kind.Keepable value) (distinct : space.fieldNames.Nodup)
    (known : ∀ name ∈ kind.entity.fields, name ∈ space.fieldNames)
    (only : kind = .rating → ∀ name ∈ space.fieldNames, name ∈ kind.entity.fields)
    (shallow : (kind.entity.codec.write value).nesting < MessagePack.maxLevels) :
    ∃ entries tuple, kind.entity.codec.write value = .named entries ∧
      (entries.map Prod.fst).Perm kind.entity.fields ∧
      kind.entity.codec.toTuple value space = .ok tuple ∧ Laid space entries tuple ∧
      kind.entity.codec.fromTuple tuple space = .ok (kind.restored value) := by
  obtain ⟨entries, kept⟩ := exists_kept keepable distinct known only
  exact ⟨entries, _, kept.written, kept.fields, kept.toTuple_eq distinct known shallow, kept.laid,
    kept.fromTuple_eq shallow⟩

def bucketed : Space :=
  { id := 512, name := "any", format := [⟨"data", "any", true⟩, ⟨"bucket_id", "unsigned", true⟩,
      ⟨"id", "any", false⟩] }

def nested : Any :=
  ⟨.ext 3 [1, 2], .map [(.nil, .array [.text "a", .float64 0x7ff8000000000000]), (.int 7, .nil)]⟩

theorem exists_toTuple_any : Keepable .any nested ∧ bucketed.fieldNames.Nodup ∧
    (Kind.any.entity.codec.write nested).nesting < MessagePack.maxLevels ∧
    Kind.any.entity.codec.toTuple nested bucketed = .ok [nested.data, .nil, nested.id] ∧
    Kind.any.entity.codec.fromTuple [nested.data, .nil, nested.id] bucketed = .ok nested := by
  have keepable : Keepable .any nested := ⟨by decide +kernel, by decide +kernel⟩
  have distinct : bucketed.fieldNames.Nodup := by decide
  have shallow : (Kind.any.entity.codec.write nested).nesting < MessagePack.maxLevels := by
    decide +kernel
  have hplaced : Kind.any.entity.codec.toTuple nested bucketed =
      .ok [nested.data, .nil, nested.id] := by decide +kernel
  obtain ⟨entries, tuple, -, -, htuple, -, hread⟩ :=
    exists_toTuple keepable distinct (by decide) nofun shallow
  obtain rfl := Except.ok.inj (htuple.symm.trans hplaced)
  exact ⟨keepable, distinct, shallow, hplaced, hread⟩

end Kind

end Sample

end TupleStore
