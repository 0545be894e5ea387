import TupleStore.Proofs.DurationText
import TupleStore.Proofs.NamedFields

/-!
# What is written is read

Codecs read back the values they write, the times among them as far as a written
time keeps them.  A record is read back from its entries in any order of its fields,
also among other entries.
-/

namespace TupleStore

namespace Codec

variable {α : Type} {codec : Codec α}

def Restores (codec : Codec α) (value : α) : Prop :=
  codec.read (codec.write value) = .ok value

/-! ## Numbers and text -/

theorem integer_restores {least bound : Int} {ofInt : Int → α} {toInt : α → Int} {number : α}
    (range : least ≤ toInt number ∧ toInt number < bound)
    (inverse : ofInt (toInt number) = number) :
    (integer least bound ofInt toInt).Restores number := by
  change (if least ≤ toInt number ∧ toInt number < bound then Except.ok (ofInt (toInt number))
    else .error (ReadError.mismatch "an integer in range")) = _
  rw [if_pos range, inverse]

theorem uint8_restores (number : UInt8) : uint8.Restores number := by
  refine integer_restores ⟨Int.natCast_nonneg _, ?_⟩ UInt8.ofNat_toNat
  exact_mod_cast number.toNat_lt

theorem uint32_restores (number : UInt32) : uint32.Restores number := by
  refine integer_restores ⟨Int.natCast_nonneg _, ?_⟩ UInt32.ofNat_toNat
  exact_mod_cast number.toNat_lt

theorem uint64_restores (number : UInt64) : uint64.Restores number := by
  refine integer_restores ⟨Int.natCast_nonneg _, ?_⟩ UInt64.ofNat_toNat
  exact_mod_cast number.toNat_lt

theorem int64_restores (number : Int64) : int64.Restores number :=
  integer_restores ⟨number.le_toInt, number.toInt_lt⟩ number.ofInt_toInt

theorem text_restores (value : String) : text.Restores value := text_read value

theorem bool_restores (truth : Bool) : bool.Restores truth := rfl

theorem double_restores (number : Double) : double.Restores number := rfl

/-! ## Composites -/

theorem option_restores {value : Option α}
    (h : ∀ present, value = some present →
      codec.Restores present ∧ codec.write present ≠ .nil) :
    (option codec).Restores value := by
  cases value with
  | none => rfl
  | some present =>
      obtain ⟨restores, hnil⟩ := h present rfl
      rw [Restores] at restores ⊢
      rw [option]
      dsimp only
      generalize codec.write present = written at *
      cases written with
      | nil => contradiction
      | _ =>
          dsimp only
          rw [restores]
          rfl

theorem list_restores {items : List α} (h : ∀ item ∈ items, codec.Restores item) :
    (list codec).Restores items := by
  change (items.map codec.write).mapM codec.read = .ok items
  rw [mapM_map_ok h, List.map_id']

/-! ## Times -/

theorem int64_read {number : Int} (hlow : -0x8000000000000000 ≤ number)
    (hhigh : number < 0x8000000000000000) :
    int64.read (.int number) = .ok (Int64.ofInt number) ∧
      (Int64.ofInt number).toInt = number := by
  refine ⟨?_, Int64.toInt_ofInt_of_le hlow hhigh⟩
  change (if -0x8000000000000000 ≤ number ∧ number < 0x8000000000000000 then
    Except.ok (Int64.ofInt number) else .error (ReadError.mismatch "an integer in range")) = _
  rw [if_pos ⟨hlow, hhigh⟩]

/-- An instant of whole milliseconds which is not in a leap second. -/
def IsMillis (instant : Instant) : Prop :=
  instant.nanos < nanosPerSecond ∧ instant.nanos % 1000000 = 0

theorem epochMillis_restores {instant : Instant} (h : IsMillis instant) :
    epochMillis.Restores instant := by
  obtain ⟨hnanos, hwhole⟩ := h
  have hfirst := instant.first_le
  have hlast := instant.lt_last
  simp only [firstDay, lastDay, secondsPerDay, nanosPerSecond] at hfirst hlast hnanos
  obtain ⟨hread, hmillis⟩ := @int64_read (instant.seconds * 1000 + instant.nanos / 1000000)
    (by omega) (by omega)
  have hseconds : (instant.seconds * 1000 + instant.nanos / 1000000).fdiv 1000 =
      instant.seconds := by
    rw [Int.fdiv_eq_ediv_of_nonneg _ (by decide)]
    omega
  have hrest : ((instant.seconds * 1000 + instant.nanos / 1000000).fmod 1000 * 1000000).toNat =
      instant.nanos := by
    rw [Int.fmod_eq_emod_of_nonneg _ (by decide)]
    omega
  rw [Restores, epochMillis]
  dsimp only
  rw [hread, ok_bind, hmillis, hseconds, hrest, Instant.of?,
    dif_pos ⟨instant.first_le, instant.lt_last, instant.isNanos⟩]
  rfl

theorem dateMillis_restores (date : Date) : dateMillis.Restores date := by
  have hfirst := date.firstDay_le
  have hlast := date.le_lastDay
  simp only [firstDay, lastDay] at hfirst hlast
  obtain ⟨hread, hmillis⟩ := @int64_read (date.day * millisPerDay)
    (by rw [millisPerDay]; omega) (by rw [millisPerDay]; omega)
  have hday : (date.day * millisPerDay).fdiv millisPerDay = date.day :=
    Int.mul_fdiv_cancel _ (by decide)
  rw [Restores, dateMillis]
  dsimp only
  rw [hread, ok_bind, hmillis, hday, Date.ofDay?,
    dif_pos ⟨date.firstDay_le, date.le_lastDay⟩]
  rfl

theorem uint64_read {number : Nat} (h : number < 0x10000000000000000) :
    uint64.read (.nat number) = .ok (UInt64.ofNat number) := by
  have hread : uint64.read (.nat (UInt64.ofNat number).toNat) = .ok (UInt64.ofNat number) :=
    uint64_restores _
  rwa [UInt64.toNat_ofNat_of_lt' h] at hread

theorem timeNanos_read {nanos : Nat} (h : nanos < 0x10000000000000000) :
    timeNanos.read (.nat nanos) =
      match TimeOfDay.of? (nanos / nanosPerSecond) (nanos % nanosPerSecond) with
      | none => .error (.notTimeOfDay nanos)
      | some time => .ok time := by
  rw [timeNanos]
  dsimp only
  rw [uint64_read h, ok_bind, UInt64.toNat_ofNat_of_lt' h]
  rfl

theorem timeNanos_restores {time : TimeOfDay} (h : time.nanos < nanosPerSecond) :
    timeNanos.Restores time := by
  have hlt := time.seconds_lt
  have hseconds : (time.seconds * nanosPerSecond + time.nanos) / nanosPerSecond =
      time.seconds := by
    rw [nanosPerSecond] at h ⊢
    omega
  have hrest : (time.seconds * nanosPerSecond + time.nanos) % nanosPerSecond = time.nanos := by
    rw [nanosPerSecond] at h ⊢
    omega
  have hsize : time.seconds * nanosPerSecond + time.nanos < 0x10000000000000000 := by
    rw [secondsPerDay] at hlt
    rw [nanosPerSecond] at h ⊢
    omega
  rw [Restores, timeNanos]
  exact (timeNanos_read hsize).trans
    (by rw [hseconds, hrest, TimeOfDay.of?, dif_pos ⟨time.seconds_lt, time.isNanos⟩])

theorem durationText_restores (duration : Duration) : durationText.Restores duration :=
  durationText_read duration

end Codec

/-! ## Records -/

def Agrees (row : String → Value) (entries : List (String × Value)) : Prop :=
  ∀ entry ∈ entries, row entry.1 = entry.2

theorem rowEntries_of_agrees {row : String → Value} {entries : List (String × Value)}
    (agrees : Agrees row entries) : rowEntries (entries.map Prod.fst) row = entries := by
  rw [rowEntries, List.map_map]
  conv => rhs; rw [← List.map_id entries]
  exact List.map_congr_left fun entry h => Prod.ext rfl (agrees entry h)

namespace Fields

variable {ρ : Type} {row : String → Value}

def entries {ρ : Type} : Fields ρ → ρ → List (String × Value)
  | nil, _ => []
  | cons name codec rest, (value, values) => (name, codec.write value) :: rest.entries values

theorem write_eq (fields : Fields ρ) (values : ρ) :
    fields.write values = (fields.entries values).map fun entry => (.text entry.1, entry.2) := by
  induction fields with
  | nil => rfl
  | cons name codec rest ih => exact congrArg _ (ih values.2)

theorem entries_names (fields : Fields ρ) (values : ρ) :
    (fields.entries values).map Prod.fst = fields.names := by
  induction fields with
  | nil => rfl
  | cons name codec rest ih => exact congrArg _ (ih values.2)

def Restores {ρ : Type} : Fields ρ → ρ → Prop
  | nil, _ => True
  | cons _ codec rest, (value, values) => codec.Restores value ∧ rest.Restores values

theorem Restores.reads {fields : Fields ρ} {values : ρ} (restores : fields.Restores values)
    (agrees : Agrees row (fields.entries values)) : fields.Reads row values := by
  induction fields with
  | nil => trivial
  | cons name codec rest ih =>
      obtain ⟨value, values⟩ := values
      obtain ⟨hvalue, hvalues⟩ := List.forall_mem_cons.mp agrees
      refine ⟨?_, ih restores.2 hvalues⟩
      rw [hvalue]
      exact restores.1

end Fields

theorem Record.write_eq {α : Type} (record : Record α) (value : α) :
    record.codec.write value = .named (record.fields.entries (record.toRow value)) :=
  congrArg Value.map (record.fields.write_eq _)

theorem Record.restores {α : Type} {record : Record α} {value : α}
    (distinct : record.fields.names.Nodup)
    (restores : record.fields.Restores (record.toRow value))
    (inverse : record.ofRow (record.toRow value) = value) : record.codec.Restores value := by
  have hnames := record.fields.entries_names (record.toRow value)
  have agrees : Agrees (Space.assign (fun _ => .nil) (record.fields.entries (record.toRow value)))
      (record.fields.entries (record.toRow value)) :=
    Space.assign_of_mem (hnames ▸ distinct)
  rw [Codec.Restores, record.write_eq, ← rowEntries_of_agrees agrees, hnames,
    Record.read_named distinct (fun _ h => h) (restores.reads agrees), inverse]

/-! ## Nesting -/

namespace Value

theorem nestingOfItems_le {items : List Value} {depth : Nat}
    (h : ∀ item ∈ items, item.nesting ≤ depth) : nestingOfItems items ≤ depth := by
  induction items with
  | nil => exact Nat.zero_le depth
  | cons item items ih =>
      obtain ⟨hitem, hitems⟩ := List.forall_mem_cons.mp h
      exact Nat.max_le.mpr ⟨hitem, ih hitems⟩

theorem nesting_named_le {entries : List (String × Value)} {depth : Nat}
    (h : ∀ entry ∈ entries, entry.2.nesting ≤ depth) : (named entries).nesting ≤ depth + 1 := by
  refine Nat.succ_le_succ ?_
  induction entries with
  | nil => exact Nat.zero_le depth
  | cons entry entries ih =>
      obtain ⟨hentry, hentries⟩ := List.forall_mem_cons.mp h
      exact Nat.max_le.mpr ⟨Nat.max_le.mpr ⟨Nat.zero_le depth, hentry⟩, ih hentries⟩

theorem nesting_lt_named {entries : List (String × Value)} {entry : String × Value}
    (h : entry ∈ entries) : entry.2.nesting < (named entries).nesting := by
  refine Nat.lt_succ_of_le ?_
  induction entries with
  | nil => contradiction
  | cons other entries ih =>
      rcases List.mem_cons.mp h with rfl | h
      · exact (Nat.le_max_right _ _).trans (Nat.le_max_left _ _)
      · exact (ih h).trans (Nat.le_max_right _ _)

theorem nesting_assign_le (names : List String) (entries : List (String × Value)) :
    (named (rowEntries names (Space.assign (fun _ => .nil) entries))).nesting ≤
      (named entries).nesting := by
  refine nesting_named_le fun entry hentry => ?_
  obtain ⟨name, _, rfl⟩ := List.mem_map.mp hentry
  rcases Space.assign_cases (fun _ => .nil) entries name with hnil | hmem
  · rw [hnil]
    exact Nat.zero_le _
  · exact Nat.le_of_lt_succ (nesting_lt_named hmem)

end Value

namespace Codec

variable {α : Type} {codec : Codec α} {depth : Nat}

/-- No value is written with more arrays and maps around each other. -/
def Within (depth : Nat) (codec : Codec α) : Prop :=
  ∀ value, (codec.write value).nesting ≤ depth

theorem integer_within {least bound : Int} {ofInt : Int → α} {toInt : α → Int} :
    (integer least bound ofInt toInt).Within depth := fun _ => Nat.zero_le depth

theorem text_within : text.Within depth := fun _ => Nat.zero_le depth

theorem option_within (h : codec.Within depth) : (option codec).Within depth
  | none => Nat.zero_le depth
  | some value => h value

theorem list_within (h : codec.Within depth) : (list codec).Within (depth + 1) := by
  intro items
  refine Nat.succ_le_succ (Value.nestingOfItems_le fun item hitem => ?_)
  obtain ⟨value, _, rfl⟩ := List.mem_map.mp hitem
  exact h value

end Codec

namespace Fields

def Within (depth : Nat) : {ρ : Type} → Fields ρ → Prop
  | _, .nil => True
  | _, .cons _ codec rest => codec.Within depth ∧ rest.Within depth

theorem Within.entries {ρ : Type} {fields : Fields ρ} {depth : Nat}
    (h : fields.Within depth) (values : ρ) :
    ∀ entry ∈ fields.entries values, entry.2.nesting ≤ depth := by
  induction fields with
  | nil => nofun
  | cons name codec rest ih =>
      exact List.forall_mem_cons.mpr ⟨h.1 values.1, ih h.2 values.2⟩

end Fields

theorem Record.within {α : Type} (record : Record α) {depth : Nat}
    (h : record.fields.Within depth) : record.codec.Within (depth + 1) := by
  intro value
  rw [record.write_eq]
  exact Value.nesting_named_le (h.entries _)

end TupleStore
