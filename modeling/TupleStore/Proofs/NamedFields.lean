import Mathlib.Data.List.Nodup
import TupleStore.Entity.Conversion

/-!
# Fields by name

A written entity is a list of values with distinct names.  Its tuple has them in
the order of the format, with nil under the other names, and a record is read from
the names of the format in whatever order these are.
-/

namespace TupleStore

theorem Bytes.ofString_injective : Function.Injective Bytes.ofString := by
  intro l r h
  exact Option.some.inj (by rw [← Bytes.text?_ofString l, h, Bytes.text?_ofString])

def Value.named (entries : List (String × Value)) : Value :=
  .map (entries.map fun entry => (.text entry.1, entry.2))

def rowEntries (names : List String) (row : String → Value) : List (String × Value) :=
  names.map fun name => (name, row name)

/-! ## Tuples -/

namespace Space

variable {space : Space} {row : String → Value} {entries : List (String × Value)}

def assign (row : String → Value) : List (String × Value) → String → Value
  | [] => row
  | (name, value) :: entries => assign (Function.update row name value) entries

theorem assign_of_not_mem {name : String} (h : name ∉ entries.map Prod.fst) :
    assign row entries name = row name := by
  induction entries generalizing row with
  | nil => rfl
  | cons entry entries ih =>
      rw [List.map_cons, List.mem_cons, not_or] at h
      rw [assign, ih h.2, Function.update_of_ne h.1]

theorem assign_of_mem (distinct : (entries.map Prod.fst).Nodup) :
    ∀ entry ∈ entries, assign row entries entry.1 = entry.2 := by
  induction entries generalizing row with
  | nil => nofun
  | cons entry entries ih =>
      rw [List.map_cons, List.nodup_cons] at distinct
      rintro other hother
      rcases List.mem_cons.mp hother with rfl | hother
      · rw [assign, assign_of_not_mem distinct.1, Function.update_self]
      · exact ih distinct.2 other hother

theorem assign_append (row : String → Value) (l r : List (String × Value)) :
    assign row (l ++ r) = assign (assign row l) r := by
  induction l generalizing row with
  | nil => rfl
  | cons entry l ih => exact ih _

theorem assign_cases (row : String → Value) (entries : List (String × Value)) (name : String) :
    assign row entries name = row name ∨ (name, assign row entries name) ∈ entries := by
  induction entries generalizing row with
  | nil => exact .inl rfl
  | cons entry entries ih =>
      rw [assign]
      rcases ih (Function.update row entry.1 entry.2) with hkept | hmem
      · by_cases hsame : name = entry.1
        · rw [hkept, hsame, Function.update_self]
          exact .inr List.mem_cons_self
        · rw [hkept, Function.update_of_ne hsame]
          exact .inl rfl
      · exact .inr (List.mem_cons_of_mem _ hmem)

theorem fieldPosition?_eq_some {name : String} {position : Nat}
    (h : space.fieldPosition? name = some position) :
    space.fieldNames[position]? = some name := by
  obtain ⟨hlt, hname, _⟩ := List.findIdx?_eq_some_iff_getElem.mp h
  rw [fieldNames, List.getElem?_map, List.getElem?_eq_getElem hlt, Option.map_some,
    beq_iff_eq.mp hname]

theorem exists_fieldPosition? {name : String} (h : name ∈ space.fieldNames) :
    ∃ position, space.fieldPosition? name = some position := by
  obtain ⟨field, hfield, rfl⟩ := List.mem_map.mp h
  rw [← Option.isSome_iff_exists, fieldPosition?, List.findIdx?_isSome, List.any_eq_true]
  exact ⟨field, hfield, beq_self_eq_true _⟩

theorem fieldAt_row {name : String} {position : Nat}
    (h : space.fieldPosition? name = some position) :
    fieldAt (space.fieldNames.map row) position = row name := by
  rw [fieldAt, List.getD_eq_getElem?_getD, List.getElem?_map, fieldPosition?_eq_some h]
  rfl

theorem set_row {name : String} {position : Nat} {value : Value}
    (distinct : space.fieldNames.Nodup) (h : space.fieldPosition? name = some position) :
    (space.fieldNames.map row).set position value =
      space.fieldNames.map (Function.update row name value) := by
  have hposition := fieldPosition?_eq_some h
  obtain ⟨hlt, hname⟩ := List.getElem?_eq_some_iff.mp hposition
  rw [distinct.map_update, if_pos (List.mem_of_getElem? hposition), ← hname,
    distinct.idxOf_getElem]

theorem placeEntries_eq (distinct : space.fieldNames.Nodup)
    (known : ∀ entry ∈ entries, entry.1 ∈ space.fieldNames) :
    space.placeEntries (space.fieldNames.map row)
      (entries.map fun entry => (.text entry.1, entry.2)) =
      .ok (space.fieldNames.map (assign row entries)) := by
  induction entries generalizing row with
  | nil => rfl
  | cons entry entries ih =>
      obtain ⟨hname, hknown⟩ := List.forall_mem_cons.mp known
      obtain ⟨position, hposition⟩ := exists_fieldPosition? hname
      have htext : (Value.text entry.1).text? = some entry.1 := Bytes.text?_ofString entry.1
      rw [List.map_cons, placeEntries, htext]
      dsimp only
      rw [hposition]
      dsimp only
      rw [set_row distinct hposition, ih hknown]
      rfl

theorem tupleOf_named (distinct : space.fieldNames.Nodup)
    (known : ∀ entry ∈ entries, entry.1 ∈ space.fieldNames) :
    space.tupleOf (.named entries) =
      .ok (space.fieldNames.map (assign (fun _ => .nil) entries)) := by
  have hempty : List.replicate space.format.length Value.nil =
      space.fieldNames.map fun _ => .nil := by
    rw [List.map_const', fieldNames, List.length_map]
  rw [Value.named, tupleOf, hempty, placeEntries_eq distinct known]

theorem entriesOf_row : (.map (space.entriesOf (space.fieldNames.map row)) : Value) =
    .named (rowEntries space.fieldNames row) := by
  rw [entriesOf, List.zip_map', Value.named, rowEntries, List.map_map]
  rfl

end Space

/-! ## Records -/

def keyedRow (names : List String) (row : String → Value) : List (FieldKey × Value) :=
  names.map fun name => (.name (Bytes.ofString name), row name)

namespace Fields

variable {ρ : Type} {fields : Fields ρ} {names : List String} {row : String → Value}

def Reads (row : String → Value) : {ρ : Type} → Fields ρ → ρ → Prop
  | _, .nil, _ => True
  | _, .cons name codec rest, (value, values) =>
      codec.read (row name) = .ok value ∧ rest.Reads row values

theorem isFor_name (name other : String) (position : Nat) :
    (FieldKey.name (Bytes.ofString other)).isFor name position = decide (other = name) := by
  rw [FieldKey.isFor, Bool.eq_iff_iff, beq_iff_eq, decide_eq_true_iff]
  exact Bytes.ofString_injective.eq_iff

theorem keyedEntries_named {readKey : Value → Except ReadError FieldKey}
    (h : ∀ name, readKey (.text name) = .ok (.name (Bytes.ofString name)))
    (names : List String) (row : String → Value) :
    keyedEntries readKey ((rowEntries names row).map fun entry => (.text entry.1, entry.2)) =
      (keyedRow names row, none) := by
  induction names with
  | nil => rfl
  | cons name names ih =>
      rw [rowEntries] at ih
      rw [rowEntries, List.map_cons, List.map_cons, keyedEntries, h]
      dsimp only
      rw [ih]
      rfl

theorem find?_keyedRow {name : String} (h : name ∈ names) (position : Nat) :
    (keyedRow names row).find? (fun entry => entry.1.isFor name position) =
      some (.name (Bytes.ofString name), row name) := by
  induction names with
  | nil => contradiction
  | cons other names ih =>
      rw [keyedRow, List.map_cons, List.find?_cons, isFor_name]
      by_cases hsame : other = name
      · rw [decide_eq_true hsame, hsame]
      · rw [decide_eq_false hsame]
        exact ih ((List.mem_cons.mp h).resolve_left (Ne.symm hsame))

theorem find?_go_name {checks : List (String × (Value → Except ReadError Unit))}
    {name : String} {start : Nat} :
    match Fields.find?.go (.name (Bytes.ofString name)) start checks with
    | none => name ∉ checks.map Prod.fst
    | some (position, found, check) =>
        found = name ∧ start ≤ position ∧ checks[position - start]? = some (name, check) := by
  induction checks generalizing start with
  | nil => exact List.not_mem_nil
  | cons entry checks ih =>
      rw [Fields.find?.go, isFor_name]
      by_cases hsame : name = entry.1
      · rw [if_pos (decide_eq_true hsame)]
        refine ⟨hsame.symm, Nat.le_refl _, ?_⟩
        rw [Nat.sub_self, hsame]
        rfl
      · rw [if_neg (by simpa using hsame)]
        have h := @ih (start + 1)
        split at h
        next => exact List.not_mem_cons_of_ne_of_not_mem hsame h
        next position found check _ =>
          obtain ⟨hfound, hle, hget⟩ := h
          refine ⟨hfound, Nat.le_of_succ_le hle, ?_⟩
          rw [show position - start = position - (start + 1) + 1 by omega]
          exact hget

theorem find?_name (fields : Fields ρ) (name : String) :
    match fields.find? (.name (Bytes.ofString name)) with
    | none => name ∉ fields.names
    | some (position, found, check) =>
        found = name ∧ fields.checks[position]? = some (name, check) := by
  have h := @find?_go_name fields.checks name 0
  rw [Fields.find?]
  split at h
  next => exact h
  next => exact ⟨h.1, h.2.2⟩

theorem Reads.check {values : ρ} (reads : fields.Reads row values) :
    ∀ entry ∈ fields.checks, entry.2 (row entry.1) = .ok () := by
  induction fields with
  | nil => nofun
  | cons name codec rest ih =>
      obtain ⟨value, values⟩ := values
      intro entry hentry
      rcases List.mem_cons.mp hentry with rfl | hentry
      · change (codec.read (row name) *> .ok ()) = _
        rw [reads.1]
        rfl
      · exact ih reads.2 entry hentry

theorem Reads.checkEntries {values : ρ} (reads : fields.Reads row values)
    (distinct : names.Nodup) (seen : List Nat)
    (fresh : ∀ position ∈ seen, ∀ name ∈ names, fields.names[position]? ≠ some name) :
    fields.checkEntries seen (keyedRow names row) = .ok () := by
  induction names generalizing seen with
  | nil => rfl
  | cons name names ih =>
      obtain ⟨hname, hrest⟩ := List.nodup_cons.mp distinct
      have hfind := fields.find?_name name
      rw [keyedRow, List.map_cons, Fields.checkEntries]
      split
      next => exact ih hrest seen fun p hp n hn => fresh p hp n (List.mem_cons_of_mem _ hn)
      next position found check heq =>
        rw [heq] at hfind
        obtain ⟨rfl, hget⟩ := hfind
        have hposition : fields.names[position]? = some found := by
          rw [Fields.names, List.getElem?_map, hget]
          rfl
        have hcheck : check (row found) = .ok () :=
          reads.check (found, check) (List.mem_of_getElem? hget)
        rw [if_neg fun h => fresh position h found List.mem_cons_self hposition, hcheck]
        refine ih hrest _ fun p hp n hn => ?_
        rcases List.mem_cons.mp hp with rfl | hp
        · rw [hposition]
          rintro ⟨⟩
          exact hname hn
        · exact fresh p hp n (List.mem_cons_of_mem _ hn)

theorem Reads.pick {values : ρ} (reads : fields.Reads row values)
    (part : ∀ name ∈ fields.names, name ∈ names) (position : Nat) :
    fields.pick (keyedRow names row) position = .ok values := by
  induction fields generalizing position with
  | nil => rfl
  | cons name codec rest ih =>
      obtain ⟨value, values⟩ := values
      rw [Fields.names, Fields.checks, List.map_cons, List.forall_mem_cons] at part
      rw [Fields.pick, find?_keyedRow part.1]
      dsimp only
      rw [reads.1, ih reads.2 part.2]
      rfl

end Fields

variable {α : Type} {names : List String} {row : String → Value}

theorem Record.read_named {record : Record α} {values : record.Row} (distinct : names.Nodup)
    (part : ∀ name ∈ record.fields.names, name ∈ names)
    (reads : record.fields.Reads row values) :
    record.codec.read (.named (rowEntries names row)) = .ok (record.ofRow values) := by
  change record.readMap _ = _
  rw [Record.readMap, Fields.keyedEntries_named (fun _ => rfl)]
  dsimp only
  rw [reads.checkEntries distinct [] nofun, reads.pick part]
  rfl

theorem Record.readNamed_keyedRow {record : Record α} {values : record.Row}
    (distinct : names.Nodup) (part : ∀ name ∈ record.fields.names, name ∈ names)
    (reads : record.fields.Reads row values) :
    record.readNamed (keyedRow names row) = .ok (record.ofRow values) := by
  rw [Record.readNamed, List.filter_eq_self.mpr, Fields.readEntries,
    reads.checkEntries distinct [] nofun]
  · change record.ofRow <$> record.fields.pick _ 0 = _
    rw [reads.pick part]
    rfl
  · intro entry hentry
    obtain ⟨name, _, rfl⟩ := List.mem_map.mp hentry
    rfl

theorem Flattened.read_named {π ρ : Type} {flattened : Flattened π ρ} {values : ρ} {part : π}
    (distinct : names.Nodup) (known : ∀ name ∈ flattened.own.names, name ∈ names)
    (reads : flattened.own.Reads row values)
    (hpart : flattened.readPart (keyedRow
      (names.filter fun name => name ∉ flattened.own.names) row) = .ok part) :
    flattened.codec.read (.named (rowEntries names row)) = .ok (part, values) := by
  have hrest : (keyedRow names row).filter (fun entry => (flattened.own.find? entry.1).isNone) =
      keyedRow (names.filter fun name => name ∉ flattened.own.names) row := by
    rw [keyedRow, keyedRow, List.filter_map]
    congr 1
    refine List.filter_congr fun name _ => ?_
    have hfind := flattened.own.find?_name name
    rw [Function.comp_apply, Bool.eq_iff_iff, Option.isNone_iff_eq_none, decide_eq_true_iff]
    constructor
    · intro hnone
      rw [hnone] at hfind
      exact hfind
    · intro hname
      cases hsome : flattened.own.find? (.name (Bytes.ofString name)) with
      | none => rfl
      | some found =>
          obtain ⟨position, other, check⟩ := found
          rw [hsome] at hfind
          refine absurd (List.mem_map.mpr ⟨_, List.mem_of_getElem? hfind.2, rfl⟩) hname
  rw [Flattened.codec, Value.named]
  dsimp only
  rw [Fields.keyedEntries_named (fun _ => rfl)]
  dsimp only
  rw [reads.checkEntries distinct [] nofun, hrest, hpart, reads.pick known]
  rfl

end TupleStore
