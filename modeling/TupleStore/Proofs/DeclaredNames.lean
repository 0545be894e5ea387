import TupleStore.Proofs.DeclaredOptions
import TupleStore.Proofs.NameStyles

/-!
# Names of declared fields

A record is written by the names which the attributes of its declaration give to the
fields, or else by one rule for all fields.  The names derived from the declaration
are those which are written, unless the rule cuts the name of a field into other
words than its underscores do.
-/

namespace TupleStore

/-! ## Names by one rule for all fields -/

def identifier : List Char → List Char
  | 'r' :: '#' :: name => name
  | name => name

def derivedUnder : Option RenameRule → String → String
  | none, name => name
  | some rule, name => String.ofList (rule.applyTo name.toList)

def writtenUnder : Option RenameRule → String → String
  | none, name => String.ofList (identifier name.toList)
  | some rule, name => String.ofList (rule.written (identifier name.toList))

theorem identifier_plain {name : List Char} (plain : Text.IsPlain name) :
    identifier name = name := by
  unfold identifier
  split
  · have hmark := plain.plain '#' (List.mem_cons_of_mem _ List.mem_cons_self)
    exact absurd hmark (by simp [Text.IsPlainChar])
  · rfl

theorem derivedUnder_eq_iff (rule? : Option RenameRule) {name : String}
    (plain : Text.IsPlain name.toList) :
    derivedUnder rule? name = writtenUnder rule? name ↔
      ∀ rule ∈ rule?, rule.suits name.toList = true := by
  cases rule? with
  | none =>
      refine iff_of_true ?_ nofun
      rw [derivedUnder, writtenUnder, identifier_plain plain, String.ofList_toList]
  | some rule =>
      rw [derivedUnder, writtenUnder, identifier_plain plain, String.ofList_inj,
        rule.applyTo_eq_written_iff plain]
      exact ⟨fun h _ heq => Option.some.inj heq ▸ h, fun h => h rule rfl⟩

namespace FieldDeclaration

def takesRule (field : FieldDeclaration) : Bool :=
  !field.told.skipped && !field.told.flattened && field.told.rename.isNone

def derived (rule? : Option RenameRule) (field : FieldDeclaration) : StoredField :=
  ⟨field.told.rename.getD (derivedUnder rule? field.name), field.type, field.told⟩

/-- The names by which a field is written; the value of a flattened one writes the `inner` names. -/
def writtenNames (rule? : Option RenameRule) (inner : FieldDeclaration → List String)
    (field : FieldDeclaration) : List String :=
  if field.told.skipped then []
  else if field.told.flattened then inner field
  else [field.told.rename.getD (writtenUnder rule? field.name)]

end FieldDeclaration

theorem StoredField.storedName_ok {name result : String} {options : FieldOptions}
    {rule : Option String} (h : storedName name options rule = .ok result) :
    result = options.rename.getD (derivedUnder (rule.bind RenameRule.ofName?) name) := by
  unfold storedName at h
  split at h
  · next hrename =>
      cases h
      rw [hrename]
      rfl
  · next hrename =>
      cases h
      rw [hrename]
      rfl
  · next hrename =>
      split at h
      · next hrule =>
          cases h
          rw [hrename, Option.bind_some, hrule]
          rfl
      · contradiction

theorem StoredField.ofDeclaration_ok {rule : Option String} {field : FieldDeclaration}
    {stored : StoredField} (readable : Attribute.Readable "rename" field.attributes)
    (h : ofDeclaration rule field = .ok stored) :
    stored = field.derived (rule.bind RenameRule.ofName?) := by
  obtain ⟨options, hentity, h⟩ := bind_eq_ok.mp h
  have hserde : Attribute.readLenient "serde" FieldOptions.readSerde field.attributes options =
      field.told := by
    rw [Attribute.readLenient_eq fun head hhead hname item hitem => FieldOptions.readSerde_snd
        ((readable head hhead hname).1 item (List.dropLast_subset _ hitem))
        ((readable head hhead hname).2 item hitem),
      FieldOptions.foldl_readSerde readable.isRegular, FieldOptions.foldlM_readEntity hentity]
    simp [FieldDeclaration.told, Attribute.itemsOf]
  dsimp only at h
  rw [hserde] at h
  split at h
  · contradiction
  · obtain ⟨name, hname, h⟩ := bind_eq_ok.mp h
    cases h
    rw [storedName_ok hname]
    rfl

/-! ## Declarations -/

theorem filter_flatMap_eq {α β : Type} (p : α → Bool) (f : α → List β) (items : List α) :
    (items.filter p).flatMap f = items.flatMap fun item => if p item then f item else [] := by
  induction items with
  | nil => rfl
  | cons item items ih =>
      rw [List.flatMap_cons, ← ih]
      cases h : p item <;> simp [h]

theorem flatMap_eq_flatMap_iff {α β : Type} {f g : α → List β} {items : List α}
    (h : ∀ item ∈ items, (f item).length = (g item).length) :
    items.flatMap f = items.flatMap g ↔ ∀ item ∈ items, f item = g item := by
  induction items with
  | nil => exact iff_of_true rfl nofun
  | cons item items ih =>
      obtain ⟨hitem, hitems⟩ := List.forall_mem_cons.mp h
      rw [List.flatMap_cons, List.flatMap_cons, List.forall_mem_cons, ← ih hitems]
      exact ⟨fun heq => List.append_inj heq hitem, fun heq => congrArg₂ _ heq.1 heq.2⟩

namespace Declaration

def rule? (declaration : Declaration) : Option RenameRule :=
  (Item.lastNewName? "rename_all" (Attribute.itemsOf "serde" declaration.attributes)).bind
    RenameRule.ofName?

def writtenNames (declaration : Declaration) (inner : FieldDeclaration → List String) :
    List String :=
  declaration.fields.flatMap (FieldDeclaration.writtenNames declaration.rule? inner)

structure Readable (declaration : Declaration) : Prop where
  attributes : Attribute.Readable "rename_all" declaration.attributes
  fields : ∀ field ∈ declaration.fields, Attribute.Readable "rename" field.attributes

variable {declaration : Declaration} {description : EntityDescription}

theorem renameRule_eq (readable : declaration.Readable) :
    declaration.renameRule =
      Item.lastNewName? "rename_all" (Attribute.itemsOf "serde" declaration.attributes) := by
  rw [renameRule, Attribute.readLenient_eq]
  · refine Eq.trans ?_ ((foldl_or_eq _ _ none).trans Option.or_none)
    apply List.foldl_ext
    intro rule item hitem
    by_cases hname : item.name = "rename_all"
    · rw [if_pos hname, if_pos hname,
        Item.writtenName?_eq (readable.attributes.isRegular item hitem)]
      cases item.newName? <;> rfl
    · rw [if_neg hname, if_neg hname]
      rfl
  · intro head hhead hname item hitem rule
    obtain ⟨hregular, hnew⟩ := readable.attributes head hhead hname
    have hitem' := hregular item (List.dropLast_subset _ hitem)
    by_cases hname : item.name = "rename_all"
    · obtain ⟨name, hnew⟩ := Option.isSome_iff_exists.mp (hnew item hitem hname)
      rw [if_pos hname, Item.writtenName?_eq hitem', hnew]
    · rw [if_neg hname]
      exact Item.isSkippable_of_isRegular hitem'

def derivedFields (declaration : Declaration) : List StoredField :=
  (declaration.fields.map (FieldDeclaration.derived declaration.rule?)).filter
    fun field => !field.options.skipped

theorem derive_ok (readable : declaration.Readable) (h : declaration.derive = .ok description) :
    description.fields = declaration.derivedFields.flatMap StoredField.names ∧
      idFields (declaration.derivedFields.filter fun field => field.options.isId) =
        .ok description.idFields := by
  obtain ⟨_, _, h⟩ := bind_eq_ok.mp h
  obtain ⟨space, _, h⟩ := bind_eq_ok.mp h
  obtain ⟨fields, hfields, h⟩ := bind_eq_ok.mp h
  obtain ⟨ids, hids, h⟩ := bind_eq_ok.mp h
  have hderived := mapM_eq_map hfields fun field hfield stored hstored =>
    StoredField.ofDeclaration_ok (readable.fields field hfield) hstored
  rw [renameRule_eq readable] at hderived
  cases h
  rw [hderived] at hids ⊢
  exact ⟨rfl, hids⟩

theorem fields_eq_flatMap (readable : declaration.Readable)
    (h : declaration.derive = .ok description) :
    description.fields = declaration.fields.flatMap fun field =>
      if field.told.skipped then [] else (field.derived declaration.rule?).names := by
  rw [(derive_ok readable h).1, derivedFields, filter_flatMap_eq, List.flatMap_map]
  apply List.flatMap_congr
  intro field _
  cases hskipped : field.told.skipped <;> simp [FieldDeclaration.derived, hskipped]

/-- A flattened field has a key, which lists the names its value writes. -/
def Keyed (declaration : Declaration) (inner : FieldDeclaration → List String) : Prop :=
  ∀ field ∈ declaration.fields, field.told.skipped = false → field.told.flattened = true →
    field.told.key = some (inner field)

instance (declaration : Declaration) (inner : FieldDeclaration → List String) :
    Decidable (declaration.Keyed inner) :=
  inferInstanceAs (Decidable (∀ field ∈ declaration.fields, field.told.skipped = false →
    field.told.flattened = true → field.told.key = some (inner field)))

end Declaration

namespace FieldDeclaration

variable {field : FieldDeclaration} {rule? : Option RenameRule}
  {inner : FieldDeclaration → List String}

theorem names_eq (keyed : field.told.flattened = true → field.told.key = some (inner field)) :
    (field.derived rule?).names =
      if field.told.flattened then inner field
      else [field.told.rename.getD (derivedUnder rule? field.name)] := by
  rw [StoredField.names, derived]
  dsimp only
  split
  · next hflattened => rw [keyed hflattened, Option.getD_some]
  · rfl

theorem takesRule_eq_true_iff : field.takesRule = true ↔
    field.told.skipped = false ∧ field.told.flattened = false ∧ field.told.rename = none := by
  simp [takesRule, and_assoc]

theorem names_eq_writtenNames_iff (kept : field.told.skipped = false)
    (keyed : field.told.flattened = true → field.told.key = some (inner field)) :
    (field.derived rule?).names = field.writtenNames rule? inner ↔
      (field.takesRule = true →
        derivedUnder rule? field.name = writtenUnder rule? field.name) := by
  rw [names_eq keyed, writtenNames, if_neg (Bool.eq_false_iff.mp kept), takesRule_eq_true_iff]
  cases hflattened : field.told.flattened with
  | true => exact iff_of_true rfl fun h => absurd h.2.1 Bool.noConfusion
  | false =>
      cases hrename : field.told.rename with
      | some name => exact iff_of_true rfl fun h => absurd h.2.2 (Option.some_ne_none name)
      | none => simp [kept]

theorem length_names_eq (kept : field.told.skipped = false)
    (keyed : field.told.flattened = true → field.told.key = some (inner field)) :
    (field.derived rule?).names.length = (field.writtenNames rule? inner).length := by
  rw [names_eq keyed, writtenNames, if_neg (Bool.eq_false_iff.mp kept)]
  split <;> rfl

end FieldDeclaration

namespace Declaration

variable {declaration : Declaration} {description : EntityDescription}
  {inner : FieldDeclaration → List String}

theorem fields_eq_writtenNames_iff (readable : declaration.Readable)
    (keyed : declaration.Keyed inner) (derived : declaration.derive = .ok description) :
    description.fields = declaration.writtenNames inner ↔
      ∀ field ∈ declaration.fields, field.takesRule = true →
        derivedUnder declaration.rule? field.name = writtenUnder declaration.rule? field.name := by
  have hpieces : ∀ field ∈ declaration.fields,
      let names := if field.told.skipped then [] else (field.derived declaration.rule?).names
      names.length = (field.writtenNames declaration.rule? inner).length ∧
        (names = field.writtenNames declaration.rule? inner ↔ (field.takesRule = true →
          derivedUnder declaration.rule? field.name =
            writtenUnder declaration.rule? field.name)) := by
    intro field hfield
    cases hskipped : field.told.skipped with
    | true =>
        have hnone : field.writtenNames declaration.rule? inner = [] := if_pos hskipped
        rw [hnone]
        refine ⟨rfl, iff_of_true rfl fun h => ?_⟩
        rw [FieldDeclaration.takesRule_eq_true_iff, hskipped] at h
        exact absurd h.1 Bool.noConfusion
    | false =>
        exact ⟨FieldDeclaration.length_names_eq hskipped (keyed field hfield hskipped),
          FieldDeclaration.names_eq_writtenNames_iff hskipped (keyed field hfield hskipped)⟩
  rw [fields_eq_flatMap readable derived, writtenNames,
    flatMap_eq_flatMap_iff fun field hfield => (hpieces field hfield).1]
  exact forall₂_congr fun field hfield => (hpieces field hfield).2

/-! ## Names of the id -/

theorem idNames_subset {field : StoredField}
    (keyed : field.options.flattened = true → field.options.key.isSome = true)
    (plain : field.options.key.isSome = true → field.options.flattened = true) :
    field.idNames ⊆ field.names := by
  rw [StoredField.idNames, StoredField.names]
  cases hkey : field.options.key with
  | some names =>
      rw [if_pos (plain (hkey ▸ rfl))]
      exact List.Subset.refl _
  | none =>
      rw [hkey] at keyed
      rw [if_neg fun hflattened => absurd (keyed hflattened) Bool.false_ne_true]
      exact List.Subset.refl _

theorem idFields_subset {fields : List StoredField} {names : List String}
    (h : idFields fields = .ok names)
    (subset : ∀ field ∈ fields, field.idNames ⊆ field.names) :
    names ⊆ fields.flatMap StoredField.names := by
  cases fields with
  | nil => contradiction
  | cons first rest =>
      cases rest with
      | nil =>
          cases h
          rw [List.flatMap_singleton]
          exact subset first List.mem_cons_self
      | cons second rest =>
          unfold idFields at h
          dsimp only at h
          split at h
          · contradiction
          · next hkeys =>
              cases h
              intro name hname
              obtain ⟨field, hfield, rfl⟩ := List.mem_map.mp hname
              refine List.mem_flatMap.mpr ⟨field, hfield, subset field hfield ?_⟩
              have hkey : field.options.key = none := by
                rw [List.any_eq_true, not_exists] at hkeys
                simpa using not_and.mp (hkeys field) hfield
              rw [StoredField.idNames, hkey]
              exact List.mem_cons_self

theorem idFields_subset_fields (readable : declaration.Readable) (keyed : declaration.Keyed inner)
    (plain : ∀ field ∈ declaration.fields, field.told.isId = true →
      field.told.key.isSome = true → field.told.flattened = true)
    (derived : declaration.derive = .ok description) :
    description.idFields ⊆ description.fields := by
  obtain ⟨hfields, hids⟩ := derive_ok readable derived
  rw [hfields]
  have hsubset : ∀ field ∈ declaration.derivedFields.filter fun field => field.options.isId,
      field.idNames ⊆ field.names := by
    intro stored hstored
    obtain ⟨hstored, hid⟩ := List.mem_filter.mp hstored
    obtain ⟨hstored, hkept⟩ := List.mem_filter.mp hstored
    obtain ⟨field, hfield, rfl⟩ := List.mem_map.mp hstored
    have hkept : field.told.skipped = false := (Bool.not_eq_true' _).mp hkept
    refine idNames_subset (fun hflattened => ?_) (plain field hfield hid)
    exact Option.isSome_iff_exists.mpr ⟨_, keyed field hfield hkept hflattened⟩
  intro name hname
  obtain ⟨field, hfield, hname⟩ := List.mem_flatMap.mp (idFields_subset hids hsubset hname)
  exact List.mem_flatMap.mpr ⟨field, (List.mem_filter.mp hfield).1, hname⟩

/--
The names which are derived for the fields are those which are written, in the same
order, just when each field that takes its name from the rule for all fields gets
the one which is written.  A plain name does so when the rule suits it.  The names
of an id without a key of its own are among those of the fields.
-/
theorem derive_writtenNames (readable : declaration.Readable) (keyed : declaration.Keyed inner)
    (derived : declaration.derive = .ok description) :
    (description.fields = declaration.writtenNames inner ↔
      ∀ field ∈ declaration.fields, field.takesRule = true →
        derivedUnder declaration.rule? field.name = writtenUnder declaration.rule? field.name) ∧
    (∀ field ∈ declaration.fields, Text.IsPlain field.name.toList →
      (derivedUnder declaration.rule? field.name = writtenUnder declaration.rule? field.name ↔
        ∀ rule ∈ declaration.rule?, rule.suits field.name.toList = true)) ∧
    ((∀ field ∈ declaration.fields, field.told.isId = true → field.told.key.isSome = true →
        field.told.flattened = true) →
      description.idFields ⊆ description.fields) :=
  ⟨fields_eq_writtenNames_iff readable keyed derived,
    fun _ _ plain => derivedUnder_eq_iff declaration.rule? plain,
    fun plain => idFields_subset_fields readable keyed plain derived⟩

/-- A type with a field of each kind; its rule has another text for writing than for reading. -/
def remark : Declaration where
  name := "Remark"
  attributes := [⟨"serde", [.word "default", .group "rename_all"
    [.assignment "deserialize" "snake_case", .assignment "serialize" "camelCase"]]⟩]
  fields := [
    ⟨"key", "RemarkKey",
      [⟨"entity", [.word "id", .assignment "key" "book, number"]⟩, ⟨"serde", [.word "flatten"]⟩]⟩,
    ⟨"created_at", "u64", [⟨"entity", [.word "version"]⟩]⟩,
    ⟨"text", "String", [⟨"serde", [.assignment "rename" "body", .word "default"]⟩,
      ⟨"serde", [.group "rename" [.assignment "deserialize" "words"]]⟩]⟩,
    ⟨"draft", "bool", [⟨"serde", [.word "default", .word "skip"]⟩]⟩]

theorem derive_remark : remark.derive = .ok {
    space := "remark"
    idFields := ["book", "number"]
    fields := ["book", "number", "createdAt", "body"]
    idTypes := ["RemarkKey"]
    versioned := true } := by
  decide +kernel

theorem derive_writtenNames_remark :
    remark.Readable ∧ remark.Keyed (fun _ => ["book", "number"]) ∧
      remark.writtenNames (fun _ => ["book", "number"]) =
        ["book", "number", "createdAt", "body"] ∧
      ["book", "number"] ⊆ ["book", "number", "createdAt", "body"] := by
  have readable : remark.Readable := ⟨by decide +kernel, by decide +kernel⟩
  have keyed : remark.Keyed (fun _ => ["book", "number"]) := by decide +kernel
  obtain ⟨hfields, hplain, hids⟩ := derive_writtenNames readable keyed derive_remark
  refine ⟨readable, keyed, (hfields.mpr ?_).symm, hids (by decide +kernel)⟩
  have suited : ∀ field ∈ remark.fields, Text.IsPlain field.name.toList ∧
      ∀ rule ∈ remark.rule?, rule.suits field.name.toList = true := by
    decide +kernel
  exact fun field hfield _ =>
    (hplain field hfield (suited field hfield).1).mpr (suited field hfield).2

/-- A type whose field has a digit in its name, under a rule which writes the name as it is. -/
def line : Declaration where
  name := "Line"
  attributes := [⟨"serde", [.assignment "rename_all" "snake_case"]⟩]
  fields := [⟨"line2", "u64", [⟨"entity", [.word "id"]⟩]⟩]

theorem line_fields_ne_writtenNames :
    line.Readable ∧ line.Keyed (fun _ => []) ∧
      ∃ description, line.derive = .ok description ∧ description.fields = ["line_2"] ∧
        line.writtenNames (fun _ => []) = ["line2"] :=
  ⟨⟨by decide +kernel, by decide +kernel⟩, by decide +kernel,
    { space := "line", idFields := ["line_2"], fields := ["line_2"], idTypes := ["u64"],
      versioned := false }, by decide +kernel, rfl, by decide +kernel⟩

/-- A type with a mark behind a renaming which is for reading only. -/
def page : Declaration where
  name := "Page"
  attributes := []
  fields := [
    ⟨"id", "u64", [⟨"entity", [.word "id"]⟩]⟩,
    ⟨"cached", "bool", [⟨"serde",
      [.group "rename" [.assignment "deserialize" "cache"], .word "skip_serializing"]⟩]⟩]

/-- The mark is missed, so that the field counts as written. -/
theorem page_fields_ne_writtenNames :
    ¬page.Readable ∧ page.Keyed (fun _ => []) ∧
      ∃ description, page.derive = .ok description ∧ description.fields = ["id", "cached"] ∧
        page.writtenNames (fun _ => []) = ["id"] :=
  ⟨fun readable => absurd readable.2 (by decide +kernel), by decide +kernel,
    { space := "page", idFields := ["id"], fields := ["id", "cached"], idTypes := ["u64"],
      versioned := false }, by decide +kernel, rfl, by decide +kernel⟩

end Declaration

end TupleStore
