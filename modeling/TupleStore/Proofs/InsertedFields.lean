import Mathlib.Data.List.InsertIdx
import TupleStore.Proofs.RoundTrips
import TupleStore.Sample.Kind

/-!
# Inserted fields

An entity passes over the fields of a space which it does not have, wherever they stand
in the format and whatever their values are.  Only a rating does not: its key takes all
named values which are not its stars.
-/

namespace TupleStore

/-! ## Named entries -/

def keyedNames (entries : List (String × Value)) : List (FieldKey × Value) :=
  entries.map fun entry => (.name (Bytes.ofString entry.1), entry.2)

theorem keyedEntries_texts {readKey : Value → Except ReadError FieldKey}
    (h : ∀ name, readKey (.text name) = .ok (.name (Bytes.ofString name)))
    (entries : List (String × Value)) :
    keyedEntries readKey (entries.map fun entry => (.text entry.1, entry.2)) =
      (keyedNames entries, none) := by
  induction entries with
  | nil => rfl
  | cons entry entries ih =>
      rw [List.map_cons, keyedEntries, h]
      dsimp only
      rw [ih]
      rfl

theorem keyedNames_append (before after : List (String × Value)) :
    keyedNames (before ++ after) = keyedNames before ++ keyedNames after := List.map_append

theorem keyedNames_cons (name : String) (value : Value) (entries : List (String × Value)) :
    keyedNames ((name, value) :: entries) =
      (.name (Bytes.ofString name), value) :: keyedNames entries := rfl

namespace Fields

variable {ρ : Type} {fields : Fields ρ} {name : String} {value : Value}
variable {before after : List (FieldKey × Value)}

theorem find?_eq_none_iff (fields : Fields ρ) (name : String) :
    fields.find? (.name (Bytes.ofString name)) = none ↔ name ∉ fields.names := by
  have hfind := fields.find?_name name
  constructor
  · intro hnone
    rw [hnone] at hfind
    exact hfind
  · intro h
    cases hfound : fields.find? (.name (Bytes.ofString name)) with
    | none => rfl
    | some found =>
        rw [hfound] at hfind
        exact absurd (List.mem_map.mpr ⟨_, List.mem_of_getElem? hfind.2, rfl⟩) h

theorem checkEntries_insert (h : name ∉ fields.names) (seen : List Nat) :
    fields.checkEntries seen (before ++ (.name (Bytes.ofString name), value) :: after) =
      fields.checkEntries seen (before ++ after) := by
  induction before generalizing seen with
  | nil =>
      rw [List.nil_append, List.nil_append, checkEntries, (fields.find?_eq_none_iff name).mpr h]
  | cons entry before ih => simp only [List.cons_append, checkEntries, ih]

theorem pick_insert (h : name ∉ fields.names) (position : Nat) :
    fields.pick (before ++ (.name (Bytes.ofString name), value) :: after) position =
      fields.pick (before ++ after) position := by
  induction fields generalizing position with
  | nil => rfl
  | cons other codec rest ih =>
      have hother : name ≠ other := List.ne_of_not_mem_cons h
      have hrest : name ∉ rest.names := List.not_mem_of_not_mem_cons h
      have hfind : (before ++ (FieldKey.name (Bytes.ofString name), value) :: after).find?
            (fun entry => entry.1.isFor other position) =
          (before ++ after).find? fun entry => entry.1.isFor other position := by
        rw [List.find?_append, List.find?_append, List.find?_cons_of_neg]
        rw [isFor_name, decide_eq_true_iff]
        exact hother
      rw [pick, pick, hfind, ih hrest]

end Fields

/-! ## Codecs which pass over a name -/

def Codec.Skips {α : Type} (codec : Codec α) (name : String) : Prop :=
  ∀ (before after : List (String × Value)) (value : Value),
    codec.read (.named (before ++ (name, value) :: after)) = codec.read (.named (before ++ after))

theorem Record.skips {α : Type} (record : Record α) {name : String}
    (h : name ∉ record.fields.names) : record.codec.Skips name := by
  intro before after value
  change record.readMap _ = record.readMap _
  unfold Record.readMap
  rw [keyedEntries_texts (fun _ => rfl), keyedEntries_texts (fun _ => rfl), keyedNames_append,
    keyedNames_append, keyedNames_cons]
  dsimp only
  rw [Fields.checkEntries_insert h, Fields.pick_insert h]

namespace Flattened

variable {π ρ : Type} (flattened : Flattened π ρ)

def left (entries : List (String × Value)) : List (String × Value) :=
  entries.filter fun entry => entry.1 ∉ flattened.own.names

theorem left_append (before after : List (String × Value)) :
    flattened.left (before ++ after) = flattened.left before ++ flattened.left after :=
  List.filter_append ..

theorem left_cons {flattened : Flattened π ρ} {name : String} (h : name ∉ flattened.own.names)
    (value : Value) (entries : List (String × Value)) :
    flattened.left ((name, value) :: entries) = (name, value) :: flattened.left entries :=
  List.filter_cons_of_pos (decide_eq_true h)

theorem read_names (entries : List (String × Value)) :
    flattened.codec.read (.named entries) =
      flattened.own.checkEntries [] (keyedNames entries) >>= fun _ =>
        flattened.own.pick (keyedNames entries) 0 >>= fun row =>
          flattened.readPart (keyedNames (flattened.left entries)) >>= fun part =>
            .ok (part, row) := by
  have hleft : (keyedNames entries).filter (fun entry => (flattened.own.find? entry.1).isNone) =
      keyedNames (flattened.left entries) := by
    rw [keyedNames, keyedNames, left, List.filter_map]
    congr 1
    refine List.filter_congr fun entry _ => ?_
    rw [Function.comp_apply, Bool.eq_iff_iff, Option.isNone_iff_eq_none, decide_eq_true_iff]
    exact flattened.own.find?_eq_none_iff entry.1
  rw [codec, Value.named]
  dsimp only
  rw [keyedEntries_texts (fun _ => rfl)]
  dsimp only
  rw [hleft]
  rfl

variable {flattened}

theorem read_eq_ok_iff {entries : List (String × Value)} {part : π} {row : ρ} :
    flattened.codec.read (.named entries) = .ok (part, row) ↔
      flattened.own.checkEntries [] (keyedNames entries) = .ok () ∧
        flattened.own.pick (keyedNames entries) 0 = .ok row ∧
        flattened.readPart (keyedNames (flattened.left entries)) = .ok part := by
  rw [read_names]
  constructor
  · intro h
    obtain ⟨⟨⟩, hchecked, h⟩ := bind_eq_ok.mp h
    obtain ⟨row, hrow, h⟩ := bind_eq_ok.mp h
    obtain ⟨part, hpart, h⟩ := bind_eq_ok.mp h
    cases h
    exact ⟨hchecked, hrow, hpart⟩
  · rintro ⟨hchecked, hrow, hpart⟩
    rw [hchecked, hrow, hpart]
    rfl

theorem skips {name : String} (h : name ∉ flattened.own.names)
    (hpart : ∀ (before after : List (String × Value)) (value : Value),
      flattened.readPart (keyedNames (before ++ (name, value) :: after)) =
        flattened.readPart (keyedNames (before ++ after))) :
    flattened.codec.Skips name := by
  intro before after value
  rw [read_names, read_names, left_append, left_append, left_cons h, hpart,
    keyedNames_append before after, keyedNames_append before (_ :: after), keyedNames_cons,
    Fields.checkEntries_insert h, Fields.pick_insert h]

end Flattened

theorem Record.readNamed_names {α : Type} (record : Record α) (entries : List (String × Value)) :
    record.readNamed (keyedNames entries) =
      record.ofRow <$> record.fields.readEntries (keyedNames entries) := by
  rw [readNamed, List.filter_eq_self.mpr]
  intro entry hentry
  obtain ⟨_, -, rfl⟩ := List.mem_map.mp hentry
  rfl

theorem Record.readNamed_insert {α : Type} {record : Record α} {name : String}
    (h : name ∉ record.fields.names) (before after : List (String × Value)) (value : Value) :
    record.readNamed (keyedNames (before ++ (name, value) :: after)) =
      record.readNamed (keyedNames (before ++ after)) := by
  rw [readNamed_names, readNamed_names, keyedNames_append, keyedNames_append, keyedNames_cons,
    Fields.readEntries, Fields.readEntries, Fields.checkEntries_insert h, Fields.pick_insert h]

/-! ## Names which a map takes -/

theorem Named.find?_insert {α : Type} (entries : List (String × α)) (name other : String)
    (value : α) :
    (insert name value entries).find? (fun entry => entry.1 == other) =
      if name = other then some (name, value)
      else entries.find? fun entry => entry.1 == other := by
  induction entries with
  | nil => by_cases h : name = other <;> simp [insert, h]
  | cons entry entries ih =>
      rw [insert]
      by_cases hsame : entry.1 = name
      · rw [if_pos hsame, ← hsame]
        by_cases h : entry.1 = other <;> simp [h]
      · rw [if_neg hsame]
        split
        · by_cases h : name = other <;> simp [List.find?_cons, h]
        · rw [List.find?_cons, List.find?_cons, ih]
          by_cases h : name = other
          · have hother : (entry.1 == other) = false := by simpa [← h] using hsame
            rw [hother, if_pos h]
          · rw [if_neg h, if_neg h]

namespace MapId

theorem get?_insert (id : MapId) (name : String) (value : Value) :
    (id.insert name value).get? = Function.update id.get? name (some value) := by
  funext other
  change (Option.map Prod.snd ((Named.insert name value id.entries).find? _)) = _
  rw [Named.find?_insert]
  by_cases h : name = other
  · rw [if_pos h, ← h, Function.update_self]
    rfl
  · rw [if_neg h, Function.update_of_ne (Ne.symm h)]
    rfl

def addAll (values : String → Option Value) (entries : List (String × Value)) :
    String → Option Value :=
  entries.foldl (fun values entry => Function.update values entry.1 (some entry.2)) values

theorem get?_foldl (entries : List (String × Value)) (id : MapId) :
    (entries.foldl (fun id entry => id.insert entry.1 entry.2) id).get? =
      addAll id.get? entries := by
  induction entries generalizing id with
  | nil => rfl
  | cons entry entries ih =>
      rw [List.foldl_cons, ih, get?_insert]
      rfl

theorem addAll_update {name : String} {entries : List (String × Value)}
    (h : name ∉ entries.map Prod.fst) (value : Option Value) (values : String → Option Value) :
    addAll (Function.update values name value) entries =
      Function.update (addAll values entries) name value := by
  induction entries generalizing values with
  | nil => rfl
  | cons entry entries ih =>
      have hentry : name ≠ entry.1 := List.ne_of_not_mem_cons h
      have hentries : name ∉ entries.map Prod.fst := List.not_mem_of_not_mem_cons h
      change addAll (Function.update (Function.update values name value) _ _) entries = _
      rw [Function.update_comm hentry, ih hentries]
      rfl

theorem addAll_apply {name : String} {entries : List (String × Value)}
    (h : name ∉ entries.map Prod.fst) (values : String → Option Value) :
    addAll values entries name = values name := by
  have hsame := addAll_update h (values name) values
  rw [Function.update_eq_self] at hsame
  rw [hsame, Function.update_self]

theorem get?_ofList_eq_none {name : String} {entries : List (String × Value)}
    (h : name ∉ entries.map Prod.fst) : (ofList entries).get? name = none := by
  rw [ofList, get?_foldl, addAll_apply h]
  rfl

theorem readKeyed_names (entries : List (String × Value)) :
    readKeyed (keyedNames entries) =
      .ok (ofList (entries.map fun entry => (entry.1, entry.2.clean))) := by
  rw [readKeyed, keyedNames, mapM_map_ok]
  · rfl
  · intro entry _
    dsimp only
    rw [Bytes.text?_ofString]

theorem get?_ofList_insert {name : String} {before after : List (String × Value)}
    (h : name ∉ after.map Prod.fst) (value : Value) :
    (ofList (before ++ (name, value) :: after)).get? =
      Function.update (ofList (before ++ after)).get? name (some value) := by
  rw [ofList, ofList, get?_foldl, get?_foldl, addAll, addAll, List.foldl_append,
    List.foldl_append, List.foldl_cons]
  exact addAll_update h (some value) _

end MapId

/-! ## Inserted fields -/

namespace Space

def insertField (space : Space) (position : Nat) (field : Field) : Space :=
  { space with format := space.format.insertIdx position field }

variable {space : Space} {tuple : Tuple} {position : Nat}

theorem exists_insertIdx_zip {α β : Type} {l : List α} {r : List β} {i : Nat}
    (hl : i ≤ l.length) (hr : i ≤ r.length) (a : α) (b : β) :
    ∃ before after, l.zip r = before ++ after ∧
      (l.insertIdx i a).zip (r.insertIdx i b) = before ++ (a, b) :: after := by
  induction i generalizing l r with
  | zero => exact ⟨[], l.zip r, rfl, rfl⟩
  | succ i ih =>
      cases l with
      | nil => contradiction
      | cons x l =>
          cases r with
          | nil => contradiction
          | cons y r =>
              obtain ⟨before, after, hzip, hinsert⟩ :=
                ih (Nat.le_of_succ_le_succ hl) (Nat.le_of_succ_le_succ hr)
              refine ⟨(x, y) :: before, after, ?_, ?_⟩
              · rw [List.zip_cons_cons, hzip, List.cons_append]
              · rw [List.insertIdx_succ_cons, List.insertIdx_succ_cons, List.zip_cons_cons,
                  hinsert, List.cons_append]

theorem entriesOf_eq (space : Space) (tuple : Tuple) :
    .map (space.entriesOf tuple) = Value.named (space.fieldNames.zip tuple) := by
  rw [entriesOf, List.zip_map_left, Value.named]
  rfl

end Space

namespace Codec

variable {α : Type} {codec : Codec α} {space : Space} {tuple : Tuple} {entity : α}

theorem fromTuple_eq_ok_iff :
    codec.fromTuple tuple space = .ok entity ↔
      (Value.named (space.fieldNames.zip tuple)).nesting < MessagePack.maxLevels ∧
        codec.read (.named (space.fieldNames.zip tuple)) = .ok entity := by
  rw [fromTuple, mapError_eq_ok, space.entriesOf_eq, load]
  split
  next h => exact ⟨fun hread => ⟨h, hread⟩, And.right⟩
  next h => exact ⟨nofun, fun hread => absurd hread.1 h⟩

theorem exists_fromTuple_insert (reads : codec.fromTuple tuple space = .ok entity)
    (field : Field) {position : Nat} (hformat : position ≤ space.format.length)
    (htuple : position ≤ tuple.length) {value : Value}
    (shallow : value.nesting + 1 < MessagePack.maxLevels) :
    ∃ before after : List (String × Value),
      (∀ entry ∈ before ++ after, entry.1 ∈ space.fieldNames) ∧
        codec.read (.named (before ++ after)) = .ok entity ∧
        ∀ other, codec.fromTuple (tuple.insertIdx position value)
            (space.insertField position field) = .ok other ↔
          codec.read (.named (before ++ (field.name, value) :: after)) = .ok other := by
  obtain ⟨hnesting, hread⟩ := fromTuple_eq_ok_iff.mp reads
  have hnames : position ≤ space.fieldNames.length := by
    rw [Space.fieldNames, List.length_map]
    exact hformat
  obtain ⟨before, after, hzip, hinsert⟩ :=
    Space.exists_insertIdx_zip hnames htuple field.name value
  have hinserted : (space.insertField position field).fieldNames =
      space.fieldNames.insertIdx position field.name :=
    List.map_insertIdx Field.name space.format position field
  have hdepth : ∀ entry ∈ before ++ (field.name, value) :: after,
      entry.2.nesting ≤ MessagePack.maxLevels - 2 := by
    have hold : ∀ entry ∈ before ++ after, entry.2.nesting ≤ MessagePack.maxLevels - 2 := by
      intro entry hentry
      have := Value.nesting_lt_named (hzip ▸ hentry)
      omega
    rw [List.forall_mem_append] at hold
    rw [List.forall_mem_append, List.forall_mem_cons]
    exact ⟨hold.1, Nat.le_sub_of_add_le (Nat.succ_le_of_lt shallow), hold.2⟩
  have hdeep := Nat.lt_of_le_of_lt (Value.nesting_named_le hdepth)
    (by decide : MessagePack.maxLevels - 2 + 1 < MessagePack.maxLevels)
  refine ⟨before, after, fun entry hentry => ?_, hzip ▸ hread, fun other => ?_⟩
  · exact (List.of_mem_zip (hzip ▸ hentry)).1
  · rw [fromTuple_eq_ok_iff, hinserted, hinsert]
    exact and_iff_right hdeep

end Codec

/-! ## The kinds -/

namespace Sample

open Codec

theorem comment_skips {name : String} (h : name ∉ Entity.fields Comment) :
    (Entity.codec : Codec Comment).Skips name := by
  have hkey : name ∉ commentKeyRecord.fields.names :=
    fun hmem => h (List.mem_append_left ["body"] hmem)
  have hbody : name ∉ commentFlattened.own.names :=
    fun hmem => h (List.mem_append_right ["post", "seq"] hmem)
  have hflattened : commentFlattened.codec.Skips name :=
    Flattened.skips hbody (Record.readNamed_insert hkey)
  intro before after value
  change _ <$> commentFlattened.codec.read _ = _ <$> commentFlattened.codec.read _
  rw [hflattened]

theorem rating_insert {rating : Rating} {name : String} {before after : List (String × Value)}
    (h : name ∉ Entity.fields Rating) (fresh : ∀ entry ∈ before ++ after, entry.1 ≠ name)
    (reads : (Entity.codec : Codec Rating).read (.named (before ++ after)) = .ok rating)
    (value : Value) :
    rating.key.get? name = none ∧
    ∃ key : MapId, key.get? = Function.update rating.key.get? name (some value.clean) ∧
      (Entity.codec : Codec Rating).read (.named (before ++ (name, value) :: after)) =
        .ok { rating with key } := by
  have hown : name ∉ ratingFlattened.own.names :=
    fun hmem => h (List.mem_append_right ["user", "book"] hmem)
  change _ <$> ratingFlattened.codec.read _ = _ at reads
  rw [map_eq_pure_bind] at reads
  obtain ⟨⟨key, stars, ⟨⟩⟩, hread, hrating⟩ := bind_eq_ok.mp reads
  obtain rfl : Rating.mk key stars = rating := Except.ok.inj hrating
  obtain ⟨hchecked, hstars, hkey⟩ := Flattened.read_eq_ok_iff.mp hread
  change MapId.readKeyed _ = _ at hkey
  rw [MapId.readKeyed_names, Flattened.left_append] at hkey
  obtain rfl := Except.ok.inj hkey
  let clean (entry : String × Value) : String × Value := (entry.1, entry.2.clean)
  have hfresh : name ∉
      ((ratingFlattened.left before ++ ratingFlattened.left after).map clean).map Prod.fst := by
    rw [← Flattened.left_append, List.map_map]
    intro hmem
    obtain ⟨entry, hentry, hname⟩ := List.mem_map.mp hmem
    exact fresh entry (List.mem_of_mem_filter hentry) hname
  refine ⟨MapId.get?_ofList_eq_none hfresh, ?_⟩
  let entries := ratingFlattened.left before ++ (name, value) :: ratingFlattened.left after
  refine ⟨.ofList (entries.map clean), ?_, ?_⟩
  · rw [List.map_append, List.map_append, List.mem_append, not_or] at hfresh
    simp only [entries, List.map_append, List.map_cons]
    exact MapId.get?_ofList_insert hfresh.2 value.clean
  · have hinserted : ratingFlattened.codec.read (.named (before ++ (name, value) :: after)) =
        .ok (.ofList (entries.map clean), stars, ()) := by
      rw [keyedNames_append] at hchecked hstars
      refine Flattened.read_eq_ok_iff.mpr ⟨?_, ?_, ?_⟩
      · rw [keyedNames_append, keyedNames_cons, Fields.checkEntries_insert hown, hchecked]
      · rw [keyedNames_append, keyedNames_cons, Fields.pick_insert hown, hstars]
      · rw [Flattened.left_append, Flattened.left_cons hown]
        exact MapId.readKeyed_names entries
    change _ <$> ratingFlattened.codec.read _ = _
    rw [hinserted]
    rfl

namespace Kind

variable {kind : Kind}

theorem skips {name : String} (h : name ∉ kind.entity.fields) (hkind : kind ≠ .rating) :
    kind.entity.codec.Skips name := by
  cases kind with
  | comment => exact comment_skips h
  | rating => contradiction
  | user => exact userRecord.skips h
  | book => exact bookRecord.skips h
  | translation => exact translationRecord.skips h
  | post => exact postRecord.skips h
  | schedule => exact scheduleRecord.skips h
  | counter => exact counterRecord.skips h
  | note => exact noteRecord.skips h
  | gauge => exact gaugeRecord.skips h
  | bag => exact bagRecord.skips h
  | loose => exact looseRecord.skips h
  | any => exact anyRecord.skips h
  | orphan => exact orphanRecord.skips h

/--
With a field inserted which is none of its own, a tuple reads as the same entity if and only
if the entity is not a rating.
-/
theorem fromTuple_insertField_iff {space : Space} {tuple : Tuple} {entity : kind.Carrier}
    (reads : kind.entity.codec.fromTuple tuple space = .ok entity) {field : Field}
    (unstored : field.name ∉ kind.entity.fields) (unnamed : field.name ∉ space.fieldNames)
    {position : Nat} (hformat : position ≤ space.format.length)
    (htuple : position ≤ tuple.length) {value : Value}
    (shallow : value.nesting + 1 < MessagePack.maxLevels) :
    kind.entity.codec.fromTuple (tuple.insertIdx position value)
        (space.insertField position field) = .ok entity ↔ kind ≠ .rating := by
  obtain ⟨before, after, hnames, hread, hinserted⟩ :=
    exists_fromTuple_insert reads field hformat htuple shallow
  rw [hinserted]
  constructor
  · rintro hsame rfl
    have fresh : ∀ entry ∈ before ++ after, entry.1 ≠ field.name :=
      fun entry hentry hname => unnamed (hname ▸ hnames entry hentry)
    obtain ⟨hnone, key, hkey, hother⟩ := rating_insert unstored fresh hread value
    have hsame : entity.key = key :=
      congrArg Rating.key (Except.ok.inj (hsame.symm.trans hother))
    rw [hsame, hkey, Function.update_self] at hnone
    cases hnone
  · intro hkind
    rw [kind.skips unstored hkind]
    exact hread

def bucketId : Field := ⟨"bucket_id", "unsigned", false⟩

def commentSpace : Space where
  id := 512
  name := "comment"
  format := [⟨"post", "unsigned", false⟩, ⟨"seq", "unsigned", false⟩, ⟨"body", "string", false⟩]
  indexes := [⟨0, "primary", true, [0, 1]⟩]

theorem fromTuple_insertField_comment :
    (Entity.codec : Codec Comment).fromTuple [.int 3, .int 1, .text "first"] commentSpace =
        .ok ⟨⟨3, 1⟩, "first"⟩ ∧
      (Entity.codec : Codec Comment).fromTuple [.int 3, .int 1, .int 77, .text "first"]
          (commentSpace.insertField 2 bucketId) = .ok ⟨⟨3, 1⟩, "first"⟩ := by
  have reads : Kind.comment.entity.codec.fromTuple [.int 3, .int 1, .text "first"]
      commentSpace = .ok (⟨⟨3, 1⟩, "first"⟩ : Comment) := by decide +kernel
  have hinserted := (fromTuple_insertField_iff reads
    (by decide : bucketId.name ∉ Kind.comment.entity.fields) (by decide)
    (by decide : 2 ≤ commentSpace.format.length) (by decide)
    (by decide : (Value.int 77).nesting + 1 < MessagePack.maxLevels)).mpr (by decide)
  exact ⟨reads, hinserted⟩

def ratingSpace : Space where
  id := 512
  name := "ratings"
  format := [⟨"user", "string", false⟩, ⟨"book", "unsigned", false⟩, ⟨"stars", "unsigned", false⟩]
  indexes := [⟨0, "primary", true, [0, 1]⟩]

/-- With the bucket in the tuple a rating is no longer the one of the user and the book. -/
theorem fromTuple_insertField_rating :
    (Entity.codec : Codec Rating).fromTuple [.text "ann", .int 1, .int 5] ratingSpace =
        .ok ⟨.ofList [("user", .text "ann"), ("book", .int 1)], 5⟩ ∧
      bucketId.name ∉ Entity.fields Rating ∧ bucketId.name ∉ ratingSpace.fieldNames ∧
      (Entity.codec : Codec Rating).fromTuple [.text "ann", .int 1, .int 7, .int 5]
          (ratingSpace.insertField 2 bucketId) =
        .ok ⟨.ofList [("user", .text "ann"), ("book", .int 1), ("bucket_id", .int 7)], 5⟩ ∧
      (⟨.ofList [("user", .text "ann"), ("book", .int 1), ("bucket_id", .int 7)], 5⟩ : Rating) ≠
        ⟨.ofList [("user", .text "ann"), ("book", .int 1)], 5⟩ := by
  decide +kernel

end Kind

end Sample

end TupleStore
