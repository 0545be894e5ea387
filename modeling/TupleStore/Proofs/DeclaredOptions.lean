import TupleStore.Entity.Declaration
import TupleStore.Proofs.Outcomes

/-!
# What attributes say together

The attributes of a declaration are read in turn, item by item.  Together they say
what one would expect wherever each item stands: the last new name counts, and a
mark counts once it is there.  A reader which stops within an attribute would miss
what follows; that happens only behind an item which renames for reading only.
-/

namespace TupleStore

/-! ## What the attributes say together -/

def Attribute.itemsOf (name : String) (attributes : List Attribute) : List Item :=
  (attributes.filter fun head => head.name = name).flatMap Attribute.items

namespace Item

def textFor? (item : Item) (name : String) : Option String :=
  match item with
  | .assignment other text => if other = name then some text else none
  | .word _ | .group .. => none

/-- The new name for writing: the text of the item, or the last `serialize = "text"` in it. -/
def newName? : Item → Option String
  | .word _ => none
  | .assignment _ text => some text
  | .group _ items => (items.filterMap fun item => item.textFor? "serialize").getLast?

def lastNewName? (name : String) (items : List Item) : Option String :=
  (items.filterMap fun item => if item.name = name then item.newName? else none).getLast?

def skips (item : Item) : Bool := item.name = "skip" || item.name = "skip_serializing"

def flattens (item : Item) : Bool := item.name = "flatten"

def isAssignment : Item → Bool
  | .assignment .. => true
  | .word _ | .group .. => false

/--
Whether the item has the form which goes with its name: a new name is a text or a
group, a mark of a field stands alone, and a group assigns texts to names.
-/
def isRegular (item : Item) : Bool :=
  match item with
  | .word name => name != "rename" && name != "rename_all"
  | .assignment .. => !item.skips && !item.flattens
  | .group _ items => !item.skips && !item.flattens && !items.isEmpty && items.all isAssignment

end Item

def FieldDeclaration.told (field : FieldDeclaration) : FieldOptions :=
  let kept := Attribute.itemsOf "entity" field.attributes
  let written := Attribute.itemsOf "serde" field.attributes
  { isId := kept.any fun item => item.name = "id"
    key := (kept.filterMap fun item => (item.textFor? "key").map FieldOptions.splitKey).getLast?
    isVersion := kept.any fun item => item.name = "version"
    rename := Item.lastNewName? "rename" written
    skipped := written.any Item.skips
    flattened := written.any Item.flattens }

/--
The `serde` attributes are regular, and in each of them nothing follows an item which
renames for reading only.
-/
def Attribute.Readable (name : String) (attributes : List Attribute) : Prop :=
  ∀ head ∈ attributes, head.name = "serde" → (∀ item ∈ head.items, item.isRegular = true) ∧
    ∀ item ∈ head.items.dropLast, item.name = name → item.newName?.isSome = true

instance (name : String) (attributes : List Attribute) :
    Decidable (Attribute.Readable name attributes) :=
  inferInstanceAs (Decidable (∀ head ∈ attributes, head.name = "serde" →
    (∀ item ∈ head.items, item.isRegular = true) ∧
      ∀ item ∈ head.items.dropLast, item.name = name → item.newName?.isSome = true))

/-! ## Reading items in turn -/

theorem foldl_or_eq {α β : Type} (write : α → Option β) (items : List α) (found : Option β) :
    items.foldl (fun found item => (write item).or found) found =
      ((items.filterMap write).getLast?).or found := by
  induction items generalizing found with
  | nil => rfl
  | cons item items ih =>
      rw [List.foldl_cons, ih, List.filterMap_cons]
      cases write item with
      | none => rfl
      | some value =>
          rw [List.getLast?_cons, Option.some_or]
          cases (items.filterMap write).getLast? <;> rfl

namespace Item

theorem serializedIn_eq {items : List Item} (h : items.all isAssignment = true)
    (found : Option String) :
    serializedIn found items =
      ((items.filterMap fun item => item.textFor? "serialize").getLast?).or found := by
  rw [← foldl_or_eq]
  induction items generalizing found with
  | nil => rfl
  | cons item items ih =>
      obtain ⟨hitem, hitems⟩ := Bool.and_eq_true_iff.mp h
      cases item with
      | word name | group name items => contradiction
      | assignment name text =>
          rw [List.foldl_cons, textFor?]
          by_cases hname : name = "serialize"
          · rw [if_pos hname, Option.some_or, ← ih hitems]
            exact if_pos hname
          · rw [if_neg hname, Option.none_or, ← ih hitems]
            exact if_neg hname

theorem writtenName?_eq {item : Item} (h : item.isRegular = true) :
    item.writtenName? = item.newName? := by
  cases item with
  | word name | assignment name text => rfl
  | group name items =>
      rw [writtenName?, newName?, serializedIn_eq (Bool.and_eq_true_iff.mp h).2, Option.or_none]

theorem allSkippable_of_assignments {items : List Item} (h : items.all isAssignment = true) :
    allSkippable items = true := by
  induction items with
  | nil => rfl
  | cons item items ih =>
      obtain ⟨hitem, hitems⟩ := Bool.and_eq_true_iff.mp h
      cases item with
      | word name | group name items => contradiction
      | assignment name text => exact ih hitems

theorem isSkippable_of_isRegular {item : Item} (h : item.isRegular = true) :
    item.isSkippable = true := by
  cases item with
  | word name | assignment name text => rfl
  | group name items =>
      obtain ⟨hnonempty, hitems⟩ := Bool.and_eq_true_iff.mp h
      cases items with
      | nil => simp at hnonempty
      | cons item items => exact allSkippable_of_assignments hitems

theorem checkBare_of_isRegular {item : Item} (h : item.isRegular = true)
    (hmark : (item.skips || item.flattens) = true) : item.checkBare = .ok () := by
  cases item with
  | word name => rfl
  | assignment name text => simp_all [isRegular]
  | group name items => simp_all [isRegular]

end Item

namespace Attribute

variable {σ : Type} {read : Item → σ → σ × Bool}

theorem itemsOf_cons (name : String) (head : Attribute) (attributes : List Attribute) :
    itemsOf name (head :: attributes) =
      if head.name = name then head.items ++ itemsOf name attributes
      else itemsOf name attributes := by
  by_cases hname : head.name = name <;> simp [itemsOf, hname]

theorem readItems_eq {items : List Item}
    (h : ∀ item ∈ items.dropLast, ∀ options, (read item options).2 = true) (options : σ) :
    readItems read items options =
      items.foldl (fun options item => (read item options).1) options := by
  induction items generalizing options with
  | nil => rfl
  | cons item items ih =>
      rw [readItems, List.foldl_cons]
      cases items with
      | nil => exact ite_self _
      | cons next items =>
          rw [List.dropLast_cons_cons, List.forall_mem_cons] at h
          rw [← ih h.2]
          exact if_pos (h.1 options)

theorem readLenient_eq {name : String} {attributes : List Attribute}
    (h : ∀ head ∈ attributes, head.name = name → ∀ item ∈ head.items.dropLast, ∀ options,
      (read item options).2 = true) (options : σ) :
    readLenient name read attributes options =
      (itemsOf name attributes).foldl (fun options item => (read item options).1) options := by
  induction attributes generalizing options with
  | nil => rfl
  | cons head attributes ih =>
      obtain ⟨hhead, hattributes⟩ := List.forall_mem_cons.mp h
      rw [readLenient, List.foldl_cons, ← readLenient, ih hattributes, itemsOf_cons]
      by_cases hname : head.name = name
      · rw [if_pos hname, if_pos hname, readItems_eq (hhead hname), List.foldl_append]
      · rw [if_neg hname, if_neg hname]

theorem Readable.isRegular {name : String} {attributes : List Attribute}
    (readable : Readable name attributes) :
    ∀ item ∈ itemsOf "serde" attributes, item.isRegular = true := by
  intro item hitem
  obtain ⟨head, hhead, hitem⟩ := List.mem_flatMap.mp hitem
  obtain ⟨hmem, hname⟩ := List.mem_filter.mp hhead
  exact (readable head hmem (of_decide_eq_true hname)).1 item hitem

end Attribute

theorem getLast?_filterMap_cons_or {α β : Type} (write : α → Option β) (item : α) (items : List α)
    (found : Option β) :
    (((item :: items).filterMap write).getLast?).or found =
      ((items.filterMap write).getLast?).or ((write item).or found) := by
  rw [← foldl_or_eq, ← foldl_or_eq]
  rfl

namespace FieldOptions

theorem readEntity_ok {options options' : FieldOptions} {item : Item}
    (h : options.readEntity item = .ok options') :
    options' = { options with
      isId := options.isId || item.name = "id"
      key := ((item.textFor? "key").map splitKey).or options.key
      isVersion := options.isVersion || item.name = "version" } := by
  rw [readEntity] at h
  split at h
  · next hname =>
      obtain ⟨_, _, hresult⟩ := bind_eq_ok.mp h
      cases hresult
      cases item <;> simp_all [Item.textFor?, Item.name]
  · next hname =>
      obtain ⟨_, _, hresult⟩ := bind_eq_ok.mp h
      cases hresult
      cases item <;> simp_all [Item.textFor?, Item.name]
  · next hname =>
      obtain ⟨text, htext, hresult⟩ := bind_eq_ok.mp h
      cases hresult
      cases item with
      | word name | group name items => contradiction
      | assignment name text =>
          cases htext
          simp_all [Item.textFor?, Item.name]
  · contradiction

theorem readSerde_fst {item : Item} (h : item.isRegular = true) (options : FieldOptions) :
    (readSerde item options).1 = { options with
      rename := (if item.name = "rename" then item.newName? else none).or options.rename
      skipped := options.skipped || item.skips
      flattened := options.flattened || item.flattens } := by
  rw [readSerde]
  split
  · next hname =>
      rw [Item.writtenName?_eq h]
      cases item.newName? <;> simp [Item.skips, Item.flattens, hname]
  · next hname => simp [Item.skips, Item.flattens, hname]
  · next hname => simp [Item.skips, Item.flattens, hname]
  · next hname => simp [Item.skips, Item.flattens, hname]
  · next hrename hskip hskips hflatten =>
      simp [Item.skips, Item.flattens, if_neg hrename, decide_eq_false hskip,
        decide_eq_false hskips, decide_eq_false hflatten]

theorem readSerde_snd {item : Item} (h : item.isRegular = true)
    (hnew : item.name = "rename" → item.newName?.isSome = true) (options : FieldOptions) :
    (readSerde item options).2 = true := by
  have hbare : (item.skips || item.flattens) = true → item.checkBare.isOk = true :=
    fun hmark => by rw [Item.checkBare_of_isRegular h hmark]; rfl
  rw [readSerde]
  split
  · next hname =>
      obtain ⟨name, hname⟩ := Option.isSome_iff_exists.mp (hnew hname)
      rw [Item.writtenName?_eq h, hname]
  · next hname => exact hbare (by simp [Item.skips, hname])
  · next hname => exact hbare (by simp [Item.skips, hname])
  · next hname => exact hbare (by simp [Item.flattens, hname])
  · exact Item.isSkippable_of_isRegular h

theorem foldlM_readEntity {items : List Item} {options options' : FieldOptions}
    (h : items.foldlM readEntity options = .ok options') :
    options' = { options with
      isId := options.isId || items.any fun item => item.name = "id"
      key := ((items.filterMap fun item =>
        (item.textFor? "key").map splitKey).getLast?).or options.key
      isVersion := options.isVersion || items.any fun item => item.name = "version" } := by
  induction items generalizing options with
  | nil =>
      cases h
      simp
  | cons item items ih =>
      rw [List.foldlM_cons] at h
      obtain ⟨next, hnext, hrest⟩ := bind_eq_ok.mp h
      rw [ih hrest, readEntity_ok hnext, getLast?_filterMap_cons_or]
      simp [Bool.or_assoc]

theorem foldl_readSerde {items : List Item} (h : ∀ item ∈ items, item.isRegular = true)
    (options : FieldOptions) :
    items.foldl (fun options item => (readSerde item options).1) options = { options with
      rename := (Item.lastNewName? "rename" items).or options.rename
      skipped := options.skipped || items.any Item.skips
      flattened := options.flattened || items.any Item.flattens } := by
  induction items generalizing options with
  | nil => simp [Item.lastNewName?]
  | cons item items ih =>
      obtain ⟨hitem, hitems⟩ := List.forall_mem_cons.mp h
      rw [List.foldl_cons, ih hitems, readSerde_fst hitem, Item.lastNewName?, Item.lastNewName?,
        getLast?_filterMap_cons_or]
      simp [Bool.or_assoc]

end FieldOptions

end TupleStore
