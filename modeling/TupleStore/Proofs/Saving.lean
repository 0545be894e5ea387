import TupleStore.Proofs.EntityActions
import TupleStore.Proofs.SampleRows

/-!
# Saved entities

A saved entity is found by its id until it is deleted, and neither saving nor deleting
it changes what is found by the ids with other keys.
-/

namespace TupleStore

/-! ## Rows and keys -/

namespace Space

variable {space : Space} {row : String → Value}

theorem keyOf_row {parts : List Nat} {names : List String}
    (h : parts.map some = names.map space.fieldPosition?) :
    parts.map (fieldAt (space.fieldNames.map row)) = names.map row := by
  induction parts generalizing names with
  | nil =>
      rw [List.map_nil] at h
      rw [List.map_eq_nil_iff.mp h.symm]
      rfl
  | cons position parts ih =>
      cases names with
      | nil => contradiction
      | cons name names =>
          obtain ⟨hposition, hparts⟩ := List.cons.inj h
          rw [List.map_cons, List.map_cons, fieldAt_row hposition.symm, ih hparts]

end Space

namespace Repository

open Template Database Entity

variable {α : Type} [entity : Entity α]

/--
The format has names of its own, all those of the entity's fields among them, and the
key fields are the parts of the primary index.
-/
@[mk_iff]
structure FitsIn (α : Type) [entity : Entity α] (space : Space) (primary : Index) : Prop where
  distinct : space.fieldNames.Nodup
  fields : ∀ name ∈ entity.fields, name ∈ space.fieldNames
  primary_eq : space.primary? = some primary
  parts : primary.parts.map some = entity.idFields.map space.fieldPosition?
  only : ∀ index ∈ space.indexes, index.name = "primary" → index = primary

/-- If the id has a key, it is another one and has no floating point number in it. -/
def Apart (key : Key) (id : entity.Id) : Prop :=
  ∀ other, Entity.keyOf α id = .ok other →
    Value.floatFreeKey other = true ∧ Value.compareKeys key other ≠ .eq

variable {database after : Database} {table changed : Table} {primary : Index} {key : Key}
variable {id : entity.Id} {value restored : α} {entries : List (String × Value)}
variable {origin : Origin} {tuple : Tuple}

namespace FitsIn

variable {space : Space}

instance : Decidable (FitsIn α space primary) := decidable_of_iff' _ (fitsIn_iff ..)

theorem index? (fits : FitsIn α space primary) : space.index? "primary" = some primary := by
  rw [Space.index?, if_pos rfl, fits.primary_eq]
  cases hfind : space.indexes.find? fun index => index.name == "primary" with
  | none => rfl
  | some index =>
      have hname := List.find?_some hfind
      rw [beq_iff_eq] at hname
      rw [fits.only index (List.mem_of_find?_eq_some hfind) hname]
      rfl

theorem length_parts (fits : FitsIn α space primary) :
    primary.parts.length = entity.idFields.length := by
  have h := congrArg List.length fits.parts
  rwa [List.length_map, List.length_map] at h

theorem tuple_eq (fits : FitsIn α space primary)
    (stored : Stored space.fieldNames value restored entries)
    (h : entity.codec.toTuple value space = .ok tuple) :
    tuple = space.fieldNames.map (Space.assign (fun _ => .nil) entries) := by
  have hknown : ∀ entry ∈ entries, entry.1 ∈ space.fieldNames := fun entry hentry =>
    fits.fields entry.1 (stored.fields.mem_iff.mp (List.mem_map_of_mem hentry))
  rw [Codec.toTuple, Codec.store, stored.written] at h
  split at h
  · change space.tupleOf (.named entries) = .ok tuple at h
    rw [Space.tupleOf_named fits.distinct hknown] at h
    exact (Except.ok.inj h).symm
  · contradiction

theorem agrees (stored : Stored space.fieldNames value restored entries) :
    Agrees (Space.assign (fun _ => .nil) entries) entries :=
  Space.assign_of_mem (stored.fields.nodup_iff.mpr stored.distinct)

theorem keyOf_tuple (fits : FitsIn α space primary)
    (stored : Stored space.fieldNames value restored entries)
    (h : entity.codec.toTuple value space = .ok tuple) (hkey : Entity.key value = .ok key) :
    primary.keyOf tuple = key := by
  rw [stored.key _ (agrees stored)] at hkey
  rw [fits.tuple_eq stored h, Index.keyOf, Space.keyOf_row fits.parts]
  exact Except.ok.inj hkey

theorem read_tuple (fits : FitsIn α space primary)
    (stored : Stored space.fieldNames value restored entries)
    (h : entity.codec.toTuple value space = .ok tuple) {result : α}
    (hread : entity.codec.fromTuple tuple space = .ok result) : result = restored := by
  rw [fits.tuple_eq stored h, Codec.fromTuple, Space.entriesOf_row, Codec.load,
    stored.read _ (agrees stored)] at hread
  split at hread
  · exact (Except.ok.inj hread).symm
  · contradiction

theorem read_tuple_shallow (fits : FitsIn α space primary)
    (stored : Stored space.fieldNames value restored entries)
    (h : entity.codec.toTuple value space = .ok tuple)
    (hnesting : (entity.codec.write value).nesting < MessagePack.maxLevels) :
    entity.codec.fromTuple tuple space = .ok restored := by
  rw [stored.written] at hnesting
  rw [fits.tuple_eq stored h, Codec.fromTuple, Space.entriesOf_row, Codec.load,
    if_pos (Nat.lt_of_le_of_lt (Value.nesting_assign_le _ entries) hnesting),
    stored.read _ (agrees stored)]
  rfl

end FitsIn

/-! ## Found entities -/

def found (id : entity.Id) (database : Database) : Except Failure (Option α) :=
  (outcome embedded (findById id) database).1

theorem found_eq (htable : database.table? entity.space = some table)
    (fits : FitsIn α table.space primary) (hkey : Entity.keyOf α id = .ok key) :
    found (α := α) id database = read table.space (table.lookup primary key) := by
  rw [found, outcome_findById htable fits.index? fits.length_parts hkey]

theorem existsById_eq : (outcome embedded (existsById (α := α) id) database).1 =
    (found (α := α) id database).map Option.isSome := by
  change (outcome embedded (Option.isSome <$> findById id) database).1 = _
  rw [outcome_map]
  rfl

theorem found_onlyAt (htable : database.table? entity.space = some table)
    (hchanged : after.table? entity.space = some changed) (fits : FitsIn α table.space primary)
    (only : table.OnlyAt primary key changed) (apart : Apart (α := α) key id) :
    found (α := α) id after = found id database := by
  cases hid : Entity.keyOf α id with
  | error error =>
      rw [found, found, findById, selectById, hid]
      rfl
  | ok other =>
      obtain ⟨hother, hne⟩ := apart other hid
      rw [found_eq htable fits hid, found_eq hchanged (only.space_eq ▸ fits) hid, only.space_eq,
        only.apart other hother hne]

/-! ## Saving and deleting -/

theorem onlyAt_of_put (inOrder : table.InOrder) (hprimary : table.space.primary? = some primary)
    (hkey : primary.keyOf tuple = key) (free : Value.floatFreeKey key = true)
    (h : put value table tuple = .ok changed) :
    table.OnlyAt primary key changed ∧ changed.lookup primary key = some tuple := by
  subst hkey
  refine Table.onlyAt_of_put inOrder hprimary free ?_
  unfold put at h
  split at h
  · exact .inl h
  · exact .inr h

theorem read_of_fromTuple {space : Space} {result : α}
    (h : entity.codec.fromTuple tuple space = .ok result) :
    read space (some tuple) = .ok (some result) := by
  rw [read, h]
  rfl

theorem outcome_deleteById_stored (htable : database.table? entity.space = some table)
    (inOrder : table.InOrder) (fits : FitsIn α table.space primary)
    (hkey : Entity.key value = .ok key) (free : Value.floatFreeKey key = true)
    (hlookup : table.lookup primary key = some tuple) {result : α}
    (hread : entity.codec.fromTuple tuple table.space = .ok result) :
    ∃ changed, table.OnlyAt primary key changed ∧
      outcome embedded (deleteById (α := α) (Entity.id value)) database =
        (.ok (), database.putTable changed) ∧
      (database.putTable changed).table? entity.space = some changed ∧
      found (Entity.id value) (database.putTable changed) = .ok (none : Option α) := by
  obtain ⟨changed, hdelete, only, hnone⟩ :=
    Table.onlyAt_of_delete inOrder fits.primary_eq free
  have hchanged : (database.putTable changed).table? entity.space = some changed :=
    table?_putTable htable (congrArg Space.name only.space_eq)
  refine ⟨changed, only, ?_, hchanged, ?_⟩
  · rw [outcome_deleteById htable hkey hdelete, hlookup, read_of_fromTuple hread]
    rfl
  · rw [found_eq hchanged (only.space_eq ▸ fits) hkey, hnone]
    rfl

/-- A save changes nothing, or stores the tuple of the entity and then reads it. -/
theorem outcome_save_cases (htable : database.table? entity.space = some table)
    {result : Except Failure α}
    (h : outcome embedded (save ⟨origin, {}⟩ value) database = (result, after)) :
    after = database ∧ (∃ failure, result = .error failure) ∨
      ∃ tuple changed, entity.codec.toTuple value table.space = .ok tuple ∧
        put value table tuple = .ok changed ∧ after = database.putTable changed ∧
        result = (entity.codec.fromTuple tuple table.space).mapError .mapping := by
  rw [outcome_save htable] at h
  cases htuple : entity.codec.toTuple value table.space with
  | error error =>
      rw [htuple] at h
      cases h
      exact .inl ⟨rfl, _, rfl⟩
  | ok tuple =>
      rw [htuple, written] at h
      cases hput : put value table tuple with
      | error fault =>
          rw [hput] at h
          cases h
          exact .inl ⟨rfl, _, rfl⟩
      | ok changed =>
          rw [hput] at h
          cases h
          exact .inr ⟨tuple, changed, rfl, hput, rfl, rfl⟩

theorem outcome_save_ok (htable : database.table? entity.space = some table)
    (inOrder : table.InOrder) (fits : FitsIn α table.space primary)
    (stored : Stored table.space.fieldNames value restored entries)
    (hkey : Entity.key value = .ok key) (free : Value.floatFreeKey key = true) {result : α}
    (h : outcome embedded (save ⟨origin, {}⟩ value) database = (.ok result, after)) :
    result = restored ∧ ∃ changed tuple, table.OnlyAt primary key changed ∧
      after.table? entity.space = some changed ∧ changed.lookup primary key = some tuple ∧
      entity.codec.fromTuple tuple table.space = .ok result := by
  rcases outcome_save_cases htable h with ⟨_, _, hfailed⟩ |
    ⟨tuple, changed, htuple, hput, rfl, hread⟩
  · contradiction
  · have hread : entity.codec.fromTuple tuple table.space = .ok result := by
      cases hresult : entity.codec.fromTuple tuple table.space with
      | error error =>
          rw [hresult] at hread
          contradiction
      | ok read =>
          rw [hresult] at hread
          exact congrArg Except.ok (Except.ok.inj hread).symm
    obtain ⟨only, hlookup⟩ := onlyAt_of_put inOrder fits.primary_eq
      (fits.keyOf_tuple stored htuple hkey) free hput
    exact ⟨fits.read_tuple stored htuple hread, changed, tuple, only,
      table?_putTable htable (congrArg Space.name only.space_eq), hlookup, hread⟩

theorem levels_of_toTuple {space : Space} (h : entity.codec.toTuple value space = .ok tuple) :
    (entity.codec.write value).levels ≤ MessagePack.maxLevels := by
  rw [Codec.toTuple, Codec.store] at h
  split at h
  next hlevels => exact hlevels
  next => contradiction

theorem outcome_save_error (htable : database.table? entity.space = some table)
    (fits : FitsIn α table.space primary)
    (stored : Stored table.space.fieldNames value restored entries)
    (readable : (entity.codec.write value).levels ≤ MessagePack.maxLevels →
      (entity.codec.write value).nesting < MessagePack.maxLevels) {failure : Failure}
    (h : outcome embedded (save ⟨origin, {}⟩ value) database = (.error failure, after)) :
    after = database := by
  rcases outcome_save_cases htable h with ⟨hsame, _⟩ | ⟨tuple, changed, htuple, _, _, hread⟩
  · exact hsame
  · rw [fits.read_tuple_shallow stored htuple (readable (levels_of_toTuple htuple))] at hread
    contradiction

theorem save_stored (htable : database.table? entity.space = some table)
    (inOrder : table.InOrder) (fits : FitsIn α table.space primary)
    (stored : Stored table.space.fieldNames value restored entries)
    (hkey : Entity.key value = .ok key) (free : Value.floatFreeKey key = true) :
    let saving := outcome embedded (save ⟨origin, {}⟩ value) database
    let deleting := outcome embedded (deleteById (α := α) (Entity.id value)) saving.2
    ∀ result, saving.1 = .ok result →
      result = restored ∧
      found (Entity.id value) saving.2 = .ok (some result) ∧
      (outcome embedded (existsById (α := α) (Entity.id value)) saving.2).1 = .ok true ∧
      (∀ id, Apart (α := α) key id → found (α := α) id saving.2 = found id database) ∧
      deleting.1 = .ok () ∧
      found (Entity.id value) deleting.2 = .ok (none : Option α) ∧
      ∀ id, Apart (α := α) key id → found (α := α) id deleting.2 = found id database := by
  intro saving deleting result hresult
  obtain ⟨hrestored, changed, tuple, only, hchanged, hlookup, hread⟩ :=
    outcome_save_ok htable inOrder fits stored hkey free (Prod.ext hresult rfl)
  have hfits : FitsIn α changed.space primary := only.space_eq ▸ fits
  have hfound : found (Entity.id value) saving.2 = .ok (some result) := by
    rw [found_eq hchanged hfits hkey, hlookup, only.space_eq, read_of_fromTuple hread]
  obtain ⟨rest, onlyRest, hdelete, hrest, hgone⟩ := outcome_deleteById_stored hchanged
    only.inOrder hfits hkey free hlookup (only.space_eq ▸ hread)
  have hdeleting : deleting = (.ok (), saving.2.putTable rest) := hdelete
  refine ⟨hrestored, hfound, ?_, fun id apart => found_onlyAt htable hchanged fits only apart,
    ?_, ?_, fun id apart => ?_⟩
  · rw [existsById_eq, hfound]
    rfl
  · rw [hdeleting]
  · rw [hdeleting]
    exact hgone
  · rw [hdeleting]
    exact found_onlyAt htable hrest fits (only.trans onlyRest) apart

end Repository

namespace Sample.Kind

open Template (outcome)
open Database Repository

/-- The format of a space for ratings has no other names than those of the fields. -/
def FitsIn (kind : Kind) (space : Space) (primary : Index) : Prop :=
  Repository.FitsIn kind.Carrier space primary ∧
    (kind = .rating → ∀ name ∈ space.fieldNames, name ∈ kind.entity.fields)

instance (kind : Kind) (space : Space) (primary : Index) :
    Decidable (kind.FitsIn space primary) := inferInstanceAs (Decidable (_ ∧ _))

/--
In any database reached without floating point numbers in primary keys, a saved entity is
as it was given, up to fields which are not stored, and is found by its id until it is
deleted.  The ids with other keys find what they did before, also when the entity is
deleted.  A save which fails changes nothing, unless a rating can be written which is nested
too deeply to be read.
-/
theorem save_found {kind : Kind} {value : kind.Carrier} {operations : List Operation}
    {table : Table} {primary : Index} {key : Key} {origin : Origin}
    (reached : ({} : History).KeysFloatFree operations)
    (htable : (({} : History).run operations).database.table? kind.entity.space = some table)
    (fits : kind.FitsIn table.space primary) (storable : kind.Storable value)
    (hkey : Entity.key value = .ok key) (free : Value.floatFreeKey key = true) :
    let before := (({} : History).run operations).database
    let saving := outcome embedded (save ⟨origin, {}⟩ value) before
    let deleting := outcome embedded
      (deleteById (α := kind.Carrier) (Entity.id value)) saving.2
    (∀ result, saving.1 = .ok result →
      result = kind.restored value ∧
      found (Entity.id value) saving.2 = .ok (some result) ∧
      (outcome embedded (existsById (α := kind.Carrier) (Entity.id value)) saving.2).1 =
        .ok true ∧
      (∀ id, Apart (α := kind.Carrier) key id →
        found (α := kind.Carrier) id saving.2 = found id before) ∧
      deleting.1 = .ok () ∧
      found (Entity.id value) deleting.2 = .ok (none : Option kind.Carrier) ∧
      ∀ id, Apart (α := kind.Carrier) key id →
        found (α := kind.Carrier) id deleting.2 = found id before) ∧
    ∀ failure, saving.1 = .error failure →
      (kind = .rating → (kind.entity.codec.write value).levels ≤ MessagePack.maxLevels →
        (kind.entity.codec.write value).nesting < MessagePack.maxLevels) →
      saving.2 = before := by
  intro before saving deleting
  have inOrder := History.inOrder_run reached
    (fun table h => absurd h List.not_mem_nil) table (table?_mem htable)
  obtain ⟨entries, stored⟩ := exists_stored storable fits.1.distinct fits.1.fields fits.2
  refine ⟨save_stored htable inOrder fits.1 stored hkey free, fun failure h hrating => ?_⟩
  refine outcome_save_error htable fits.1 stored (fun hlevels => ?_) (Prod.ext h rfl)
  by_cases hkind : kind = .rating
  · exact hrating hkind hlevels
  · exact Nat.lt_of_le_of_lt (nesting_written storable hkind) (by decide)

def rated : List Operation :=
  [.createSpace ⟨0, "ratings", [⟨"stars", "unsigned", false⟩, ⟨"book", "unsigned", false⟩,
        ⟨"user", "string", false⟩],
      [⟨0, "primary", true, [2, 1]⟩, ⟨1, "stars", false, [0]⟩]⟩
      [[.int 5, .int 7, .text "eve"], [.int 3, .int 7, .text "bob"]],
    .ask (.delete "ratings" [.text "eve", .int 7])]

def ratingOf (user : String) (book : Int) (stars : UInt8) : Rating :=
  ⟨MapId.ofList [("user", .text user), ("book", .int book)], stars⟩

theorem save_found_rating :
    let before := (({} : History).run rated).database
    let rating := ratingOf "ann" 7 4
    let saving := outcome embedded (save ⟨.embedded, {}⟩ rating) before
    let deleting := outcome embedded (deleteById (α := Rating) rating.key) saving.2
    saving.1 = .ok rating ∧ found rating.key saving.2 = .ok (some rating) ∧
      found (ratingOf "bob" 7 3).key saving.2 = .ok (some (ratingOf "bob" 7 3)) ∧
      found rating.key deleting.2 = .ok (none : Option Rating) ∧
      found (ratingOf "bob" 7 3).key deleting.2 = .ok (some (ratingOf "bob" 7 3)) := by
  intro before rating saving deleting
  have htable : before.table? "ratings" = some (before.tables.get ⟨0, by decide +kernel⟩) := by
    decide +kernel
  have hsaving : saving.1 = .ok rating := by decide +kernel
  have hfits : FitsIn .rating (before.tables.get ⟨0, by decide +kernel⟩).space
      ⟨0, "primary", true, [2, 1]⟩ := by decide +kernel
  have hstorable : Storable .rating rating :=
    ⟨.int 7, .text "ann", by decide +kernel, by decide +kernel, by decide +kernel⟩
  obtain ⟨hsaved, -⟩ := @save_found .rating rating rated _ ⟨0, "primary", true, [2, 1]⟩
    [.text "ann", .int 7] .embedded (by decide +kernel) htable hfits hstorable
    (by decide +kernel) (by decide +kernel)
  obtain ⟨-, hfound, -, hothers, -, hgone, hrest⟩ := hsaved rating hsaving
  have happart : Apart (α := Rating) [.text "ann", .int 7] (ratingOf "bob" 7 3).key := by
    intro other hother
    have hkey : Entity.keyOf Rating (ratingOf "bob" 7 3).key = .ok [.text "bob", .int 7] := by
      decide +kernel
    cases Except.ok.inj (hkey.symm.trans hother)
    decide +kernel
  have hbob : found (ratingOf "bob" 7 3).key before = .ok (some (ratingOf "bob" 7 3)) := by
    decide +kernel
  exact ⟨hsaving, hfound, (hothers _ happart).trans hbob, hgone, (hrest _ happart).trans hbob⟩

def shelf : Space :=
  ⟨0, "book", [⟨"id", "unsigned", false⟩, ⟨"title", "string", false⟩,
    ⟨"publishYear", "unsigned", false⟩, ⟨"inPrint", "boolean", false⟩],
    [⟨0, "primary", true, [0]⟩]⟩

def anyRatings : Space :=
  ⟨0, "ratings", [⟨"stars", "unsigned", false⟩, ⟨"book", "any", false⟩,
    ⟨"user", "string", false⟩], [⟨0, "primary", true, [2, 1]⟩]⟩

/-- An empty array with this many arrays around it. -/
def arrays : Nat → Value
  | 0 => .array []
  | depth + 1 => .array [arrays depth]

/--
A comment which is stored out of order is not deleted, that a book is cached is not kept,
and a rating with a key too deep to be read is stored although its save fails.
-/
theorem not_save_found :
    (let before := (({} : History).run History.disordering).database
      let comment : Comment := ⟨⟨3, 4⟩, "new"⟩
      let saving := outcome embedded (save ⟨.embedded, {}⟩ comment) before
      let deleting := outcome embedded (deleteById (α := Comment) (Entity.id comment)) saving.2
      before.table? "comment" = some History.disordered ∧ History.disordered.FloatFree ∧
        FitsIn .comment History.disordered.space ⟨0, "primary", true, [0, 1]⟩ ∧
        saving.1 = .ok comment ∧ deleting.1 = .ok () ∧
        found (Entity.id comment) deleting.2 = .ok (some comment)) ∧
    (let before := (({} : History).run [.createSpace shelf []]).database
      let book : Book := ⟨some 1, "Dune", 1965, true, true⟩
      FitsIn .book shelf ⟨0, "primary", true, [0]⟩ ∧
        (outcome embedded (save ⟨.embedded, {}⟩ book) before).1 =
          .ok { book with cached := false }) ∧
    (let before := (({} : History).run [.createSpace anyRatings []]).database
      let rating : Rating :=
        ⟨MapId.ofList [("user", .text "ann"), ("book", arrays 1022)], 4⟩
      let saving := outcome embedded (save ⟨.embedded, {}⟩ rating) before
      FitsIn .rating anyRatings ⟨0, "primary", true, [2, 1]⟩ ∧ Storable .rating rating ∧
        saving.1.isOk = false ∧ saving.2 ≠ before) := by
  refine ⟨by decide +kernel, by decide +kernel, by decide +kernel, ?_, by decide +kernel⟩
  exact ⟨arrays 1022, .text "ann", by decide +kernel, by decide +kernel, by decide +kernel⟩

end Sample.Kind

end TupleStore
