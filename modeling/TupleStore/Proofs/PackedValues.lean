import Mathlib.Tactic.Ring
import TupleStore.Codec.Basic
import TupleStore.MessagePack.Writer

/-!
# Packed values

A reader of MessagePack takes what the writer has written and no byte of what
follows; strings which are not valid text come back as byte strings.  Every width
of every form is a case of one statement about a marker with a number behind it;
values follow by induction.
-/

namespace TupleStore

/-! ## Numbers -/

namespace Bytes

@[simp] theorem length_bigEndian (width number : Nat) :
    (bigEndian width number).length = width := by
  induction width with
  | zero => rfl
  | succ width ih => simp [bigEndian, ih]

private theorem foldl_bigEndian (width number high : Nat) :
    (bigEndian width number).foldl (fun total byte => total * 256 + byte.toNat) high =
      high * 256 ^ width + number % 256 ^ width := by
  induction width generalizing high with
  | zero => simp [bigEndian, Nat.mod_one]
  | succ width ih =>
      have hbyte : (UInt8.ofNat (number / 256 ^ width)).toNat = number / 256 ^ width % 256 :=
        UInt8.toNat_ofNat'
      rw [bigEndian, List.foldl_cons, ih, Nat.pow_eq, hbyte, Nat.pow_succ, Nat.mod_mul]
      ring

theorem toNat_bigEndian {width number : Nat} (h : number < 256 ^ width) :
    toNat (bigEndian width number) = number := by
  rw [toNat, foldl_bigEndian, Nat.zero_mul, Nat.zero_add, Nat.mod_eq_of_lt h]

end Bytes

/-! ## Values which can be written -/

namespace Value

mutual

/-- Every integer is one of 64 bits, with or without sign. -/
def Representable : Value → Prop
  | .int number => -0x8000000000000000 ≤ number ∧ number < 0x10000000000000000
  | .array items => RepresentableItems items
  | .map entries => RepresentableEntries entries
  | _ => True

def RepresentableItems : List Value → Prop
  | [] => True
  | item :: items => item.Representable ∧ RepresentableItems items

def RepresentableEntries : List (Value × Value) → Prop
  | [] => True
  | (key, value) :: entries =>
      (key.Representable ∧ value.Representable) ∧ RepresentableEntries entries

end

/-! ## Valid text -/

mutual

def hasValidText : Value → Bool
  | .str bytes => bytes.text?.isSome
  | .array items => haveValidText items
  | .map entries => entriesHaveValidText entries
  | .nil | .bool _ | .int _ | .float32 _ | .float64 _ | .bin _ | .ext .. => true

def haveValidText : List Value → Bool
  | [] => true
  | item :: items => item.hasValidText && haveValidText items

def entriesHaveValidText : List (Value × Value) → Bool
  | [] => true
  | (key, value) :: entries =>
      key.hasValidText && value.hasValidText && entriesHaveValidText entries

end

mutual

theorem clean_eq_self : (value : Value) → value.hasValidText = true → value.clean = value
  | .str bytes, h => by
      rw [clean]
      exact if_pos h
  | .array items, h => by
      rw [clean, cleanItems_eq_self items h]
  | .map entries, h => by
      rw [clean, cleanEntries_eq_self entries h]
  | .nil, _ | .bool _, _ | .int _, _ | .float32 _, _ | .float64 _, _ | .bin _, _ | .ext .., _ => rfl

theorem cleanItems_eq_self :
    (items : List Value) → haveValidText items = true → cleanItems items = items
  | [], _ => rfl
  | item :: items, h => by
      obtain ⟨hitem, hitems⟩ := Bool.and_eq_true_iff.mp h
      rw [cleanItems, clean_eq_self item hitem, cleanItems_eq_self items hitems]

theorem cleanEntries_eq_self : (entries : List (Value × Value)) →
    entriesHaveValidText entries = true → cleanEntries entries = entries
  | [], _ => rfl
  | (key, value) :: entries, h => by
      obtain ⟨hentry, hentries⟩ := Bool.and_eq_true_iff.mp h
      obtain ⟨hkey, hvalue⟩ := Bool.and_eq_true_iff.mp hentry
      rw [cleanEntries, clean_eq_self key hkey, clean_eq_self value hvalue,
        cleanEntries_eq_self entries hentries]

end

end Value

namespace MessagePack

/-! ## Readers -/

namespace Reader

variable {α β : Type}

/-- The reader takes these bytes and leaves all that follows them. -/
def Takes (reader : Reader α) (bytes : Bytes) (result : α) : Prop :=
  ∀ rest, reader.run (bytes ++ rest) = some (result, rest)

variable {reader : Reader α} {front back : Bytes} {first : α} {result : β}

theorem Takes.bind (head : Takes reader front first) (next : α → Reader β)
    (tail : Takes (next first) back result) : Takes (reader >>= next) (front ++ back) result := by
  intro rest
  rw [StateT.run_bind, List.append_assoc, head]
  exact tail rest

theorem takes_pure (value : α) : Takes (pure value) [] value := fun _ => rfl

theorem Takes.map (head : Takes reader front first) (f : α → β) :
    Takes (do return f (← reader)) front (f first) := by
  have htakes := head.bind (fun value => pure (f value)) (takes_pure (f first))
  rwa [List.append_nil] at htakes

theorem Takes.pair {other : Reader β} (head : Takes reader front first)
    (tail : Takes other back result) :
    Takes (do return (← reader, ← other)) (front ++ back) (first, result) :=
  head.bind _ (tail.map fun last => (first, last))

theorem takes_byte (byte : UInt8) : Takes Reader.byte [byte] byte.toNat := fun _ => rfl

theorem takes_take (bytes : Bytes) : Takes (take bytes.length) bytes bytes := by
  intro rest
  have hlong : ¬(bytes ++ rest).length < bytes.length := by simp
  change (if (bytes ++ rest).length < bytes.length then failure else
    (do set ((bytes ++ rest).drop bytes.length); return (bytes ++ rest).take bytes.length) :
      Reader Bytes).run (bytes ++ rest) = _
  rw [if_neg hlong, List.drop_left, List.take_left]
  rfl

theorem takes_number {width number : Nat} (h : number < 256 ^ width) :
    Takes (Reader.number width) (Bytes.bigEndian width number) number := by
  have htake := takes_take (Bytes.bigEndian width number)
  rw [Bytes.length_bigEndian] at htake
  have hmap := htake.map Bytes.toNat
  rwa [Bytes.toNat_bigEndian h] at hmap

theorem takes_signed (width : Nat) {below : Nat} (hwidth : 0 < width)
    (h : below < 2 ^ (8 * width - 1)) :
    Takes (signed width) (Bytes.bigEndian width (256 ^ width - 1 - below)) (.negSucc below) := by
  have hpow : 256 ^ width = 2 ^ (8 * width) := by rw [Nat.pow_mul]
  have hhalf : 2 ^ (8 * width) = 2 * 2 ^ (8 * width - 1) := by
    rw [← Nat.pow_succ', Nat.succ_eq_add_one, Nat.sub_add_cancel (by omega)]
  have hnumber : 256 ^ width - 1 - below < 256 ^ width := by omega
  have hmap := (takes_number hnumber).map fun number =>
    if number < Nat.pow 2 (8 * width - 1) then (number : Int)
    else number - Nat.pow 2 (8 * width)
  have hresult : (if 256 ^ width - 1 - below < Nat.pow 2 (8 * width - 1)
      then ((256 ^ width - 1 - below : Nat) : Int)
      else ((256 ^ width - 1 - below : Nat) : Int) - (Nat.pow 2 (8 * width) : Nat)) =
        Int.negSucc below := by
    rw [Nat.pow_eq, Nat.pow_eq, if_neg (by omega), hpow]
    omega
  rw [hresult] at hmap
  exact hmap

theorem takes_str (bytes : Bytes) : Takes (str bytes.length) bytes (.str bytes) :=
  (takes_take bytes).map Value.str

theorem takes_bin (bytes : Bytes) : Takes (bin bytes.length) bytes (.bin bytes) :=
  (takes_take bytes).map Value.bin

theorem takes_ext (kind : Int8) (bytes : Bytes) :
    Takes (ext bytes.length) (kind.toUInt8 :: bytes) (.ext kind bytes) := by
  have hkind : (UInt8.ofNat kind.toUInt8.toNat).toInt8 = kind := by
    rw [UInt8.ofNat_toNat, Int8.toInt8_toUInt8]
  have hext := (takes_take bytes).map (Value.ext (UInt8.ofNat kind.toUInt8.toNat).toInt8)
  rw [hkind] at hext
  exact (takes_byte kind.toUInt8).bind _ (by rwa [hkind])

end Reader

/-! ## Markers -/

open Reader

def behind (unassigned value : Reader Value) (marker : Nat) : Reader Value :=
  if marker < 0x80 then return .int marker
  else if marker < 0x90 then map value (marker - 0x80)
  else if marker < 0xa0 then array value (marker - 0x90)
  else if marker < 0xc0 then str (marker - 0xa0)
  else if 0xe0 ≤ marker then return .int ((marker : Int) - 256)
  else Reader.marked unassigned value marker

variable {unassigned : Reader Value} {levels : Nat} {bytes : Bytes} {result : Value}

theorem takes_value {marker : UInt8}
    (tail : Takes (behind unassigned (value unassigned levels) marker.toNat) bytes result) :
    Takes (value unassigned (levels + 1)) (marker :: bytes) result := fun rest => tail rest

theorem takes_short {marker : Nat} (hmarker : marker < 256)
    (tail : Takes (behind unassigned (value unassigned levels) marker) bytes result) :
    Takes (value unassigned (levels + 1)) (UInt8.ofNat marker :: bytes) result := by
  apply takes_value
  rwa [UInt8.toNat_ofNat_of_lt' hmarker]

theorem takes_marked {marker : UInt8} {width number : Nat} (next : Nat → Reader Value)
    (hnext : behind unassigned (value unassigned levels) marker.toNat =
      (Reader.number width >>= next))
    (hnumber : number < 256 ^ width) (tail : Takes (next number) bytes result) :
    Takes (value unassigned (levels + 1)) (marked marker width number ++ bytes) result := by
  apply takes_value
  rw [hnext]
  exact (takes_number hnumber).bind next tail

/-! ## Numbers -/

theorem takes_number_form (marker : UInt8) (width : Nat) {number : Nat} (form : Nat → Value)
    (hform : behind unassigned (value unassigned levels) marker.toNat =
      (do return form (← Reader.number width)))
    (hnumber : number < 256 ^ width) :
    Takes (value unassigned (levels + 1)) (marked marker width number) (form number) := by
  have htakes := takes_marked (fun number => return form number) hform hnumber (takes_pure _)
  rwa [List.append_nil] at htakes

/-- The forms of an unsigned number: in the marker, or in the bytes behind a marker. -/
inductive NumberForm where
  | short
  | uint8
  | uint16
  | uint32
  | uint64
  deriving DecidableEq, Repr

namespace NumberForm

def bound : NumberForm → Nat
  | short => 0x80
  | uint8 => 0x100
  | uint16 => 0x10000
  | uint32 => 0x100000000
  | uint64 => 0x10000000000000000

def write : NumberForm → Nat → Bytes
  | short, number => [UInt8.ofNat number]
  | uint8, number => MessagePack.marked 0xcc 1 number
  | uint16, number => MessagePack.marked 0xcd 2 number
  | uint32, number => MessagePack.marked 0xce 4 number
  | uint64, number => MessagePack.marked 0xcf 8 number

def size : NumberForm → Nat
  | short => 1
  | uint8 => 2
  | uint16 => 3
  | uint32 => 5
  | uint64 => 9

@[simp] theorem length_write (form : NumberForm) (number : Nat) :
    (form.write number).length = form.size := by
  cases form <;> simp [write, MessagePack.marked, size]

end NumberForm

theorem takes_unsigned (form : NumberForm) {number : Nat} (h : number < form.bound) :
    Takes (value unassigned (levels + 1)) (form.write number) (.int number) := by
  cases form with
  | short =>
      have hmarker : number < 0x80 := h
      refine takes_short (by omega) ?_
      rw [behind, if_pos hmarker]
      exact takes_pure _
  | uint8 => exact takes_number_form 0xcc 1 (fun number => .int number) rfl h
  | uint16 => exact takes_number_form 0xcd 2 (fun number => .int number) rfl h
  | uint32 => exact takes_number_form 0xce 4 (fun number => .int number) rfl h
  | uint64 => exact takes_number_form 0xcf 8 (fun number => .int number) rfl h

theorem takes_encodeNat {number : Nat} (h : number < 0x10000000000000000) :
    Takes (value unassigned (levels + 1)) (encodeNat number) (.int number) := by
  unfold encodeNat
  split_ifs with hfixed h8 h16 h32
  · exact takes_unsigned .short hfixed
  · exact takes_unsigned .uint8 h8
  · exact takes_unsigned .uint16 h16
  · exact takes_unsigned .uint32 h32
  · exact takes_unsigned .uint64 h

theorem takes_encodeNegative {below : Nat} (h : below < 0x8000000000000000) :
    Takes (value unassigned (levels + 1)) (encodeNegative below) (.int (.negSucc below)) := by
  unfold encodeNegative
  split_ifs with hfixed h8 h16 h32
  · apply takes_short (by omega)
    rw [behind, if_neg (by omega), if_neg (by omega), if_neg (by omega), if_neg (by omega),
      if_pos (by omega)]
    have hint : ((0xff - below : Nat) : Int) - 256 = .negSucc below := by omega
    rw [hint]
    exact takes_pure _
  · exact takes_value ((takes_signed 1 (by decide) h8).map Value.int)
  · exact takes_value ((takes_signed 2 (by decide) h16).map Value.int)
  · exact takes_value ((takes_signed 4 (by decide) h32).map Value.int)
  · exact takes_value ((takes_signed 8 (by decide) h).map Value.int)

theorem takes_encodeInt {number : Int}
    (h : -0x8000000000000000 ≤ number ∧ number < 0x10000000000000000) :
    Takes (value unassigned (levels + 1)) (encodeInt number) (.int number) := by
  cases number with
  | ofNat number => exact takes_encodeNat (Int.ofNat_lt.mp h.2)
  | negSucc below => exact takes_encodeNegative (by omega)

/-! ## Lengths -/

theorem takes_strHeader {length : Nat} (h : length < 0x100000000)
    (tail : Takes (str length) bytes result) :
    Takes (value unassigned (levels + 1)) (strHeader length ++ bytes) result := by
  unfold strHeader
  split_ifs with hfixed h8 h16
  · apply takes_short (by omega)
    rw [behind, if_neg (by omega), if_neg (by omega), if_neg (by omega), if_pos (by omega),
      Nat.add_sub_cancel_left]
    exact tail
  · exact takes_marked str rfl h8 tail
  · exact takes_marked str rfl h16 tail
  · exact takes_marked str rfl h tail

theorem takes_binHeader {length : Nat} (h : length < 0x100000000)
    (tail : Takes (bin length) bytes result) :
    Takes (value unassigned (levels + 1)) (binHeader length ++ bytes) result := by
  unfold binHeader
  split_ifs with h8 h16
  · exact takes_marked bin rfl h8 tail
  · exact takes_marked bin rfl h16 tail
  · exact takes_marked bin rfl h tail

theorem takes_extHeader {length : Nat} (h : length < 0x100000000)
    (tail : Takes (ext length) bytes result) :
    Takes (value unassigned (levels + 1)) (extHeader length ++ bytes) result := by
  unfold extHeader
  split_ifs with h1 h2 h4 h8 h16 hbyte hword
  · subst h1
    exact takes_value tail
  · subst h2
    exact takes_value tail
  · subst h4
    exact takes_value tail
  · subst h8
    exact takes_value tail
  · subst h16
    exact takes_value tail
  · exact takes_marked ext rfl hbyte tail
  · exact takes_marked ext rfl hword tail
  · exact takes_marked ext rfl h tail

theorem takes_arrayHeader {length : Nat} (h : length < 0x100000000)
    (tail : Takes (array (value unassigned levels) length) bytes result) :
    Takes (value unassigned (levels + 1)) (arrayHeader length ++ bytes) result := by
  unfold arrayHeader
  split_ifs with hfixed h16
  · apply takes_short (by omega)
    rw [behind, if_neg (by omega), if_neg (by omega), if_pos (by omega),
      Nat.add_sub_cancel_left]
    exact tail
  · exact takes_marked (array (value unassigned levels)) rfl h16 tail
  · exact takes_marked (array (value unassigned levels)) rfl h tail

theorem takes_mapHeader {length : Nat} (h : length < 0x100000000)
    (tail : Takes (map (value unassigned levels) length) bytes result) :
    Takes (value unassigned (levels + 1)) (mapHeader length ++ bytes) result := by
  unfold mapHeader
  split_ifs with hfixed h16
  · apply takes_short (by omega)
    rw [behind, if_neg (by omega), if_pos (by omega), Nat.add_sub_cancel_left]
    exact tail
  · exact takes_marked (map (value unassigned levels)) rfl h16 tail
  · exact takes_marked (map (value unassigned levels)) rfl h tail

/-! ## Values -/

theorem encode_length_pos (value : Value) : 0 < (encode value).length := by
  cases value with
  | nil | bool | float32 | float64 => simp [encode, marked]
  | int number =>
      cases number <;> simp only [encode, encodeInt, encodeNat, encodeNegative] <;>
        split_ifs <;> simp [marked]
  | str => simp only [encode, strHeader, binHeader]; split_ifs <;> simp [marked]
  | bin => simp only [encode, binHeader]; split_ifs <;> simp [marked]
  | array => simp only [encode, arrayHeader]; split_ifs <;> simp [marked]
  | map => simp only [encode, mapHeader]; split_ifs <;> simp [marked]
  | ext => simp [encode]

theorem length_le_encodeItems (items : List Value) : items.length ≤ (encodeItems items).length := by
  induction items with
  | nil => exact Nat.le_refl _
  | cons item items ih =>
      have hitem := encode_length_pos item
      rw [encodeItems, List.length_cons, List.length_append]
      omega

theorem length_le_encodeEntries (entries : List (Value × Value)) :
    entries.length ≤ (encodeEntries entries).length := by
  induction entries with
  | nil => exact Nat.le_refl _
  | cons entry entries ih =>
      have hkey := encode_length_pos entry.1
      rw [encodeEntries, List.length_cons, List.length_append, List.length_append]
      omega

mutual

theorem takes_encode (item : Value) (levels : Nat) (representable : item.Representable)
    (shallow : item.levels ≤ levels) (short : (encode item).length < 0x100000000) :
    Takes (value unassigned levels) (encode item) item.clean := by
  match levels, item with
  | 0, item => cases item <;> simp [Value.levels] at shallow
  | levels + 1, .nil => exact takes_value (takes_pure _)
  | levels + 1, .bool truth => cases truth <;> exact takes_value (takes_pure _)
  | levels + 1, .int number => exact takes_encodeInt representable
  | levels + 1, .float32 bits =>
      have htakes : Takes (value unassigned (levels + 1)) (marked 0xca 4 bits.toNat)
          (.float32 (UInt32.ofNat bits.toNat)) :=
        takes_number_form 0xca 4 (fun number => .float32 (UInt32.ofNat number)) rfl bits.toNat_lt
      rwa [UInt32.ofNat_toNat] at htakes
  | levels + 1, .float64 bits =>
      have htakes : Takes (value unassigned (levels + 1)) (marked 0xcb 8 bits.toNat)
          (.float64 (UInt64.ofNat bits.toNat)) :=
        takes_number_form 0xcb 8 (fun number => .float64 (UInt64.ofNat number)) rfl bits.toNat_lt
      rwa [UInt64.ofNat_toNat] at htakes
  | levels + 1, .str bytes =>
      rw [encode] at short ⊢
      rw [Value.clean]
      split at short
      next valid =>
        rw [List.length_append] at short
        rw [if_pos valid, if_pos valid]
        exact takes_strHeader (by omega) (takes_str bytes)
      next invalid =>
        rw [List.length_append] at short
        rw [if_neg invalid, if_neg invalid]
        exact takes_binHeader (by omega) (takes_bin bytes)
  | levels + 1, .bin bytes =>
      rw [encode, List.length_append] at short
      exact takes_binHeader (by omega) (takes_bin bytes)
  | levels + 1, .array items =>
      rw [encode, List.length_append] at short
      have hlength := length_le_encodeItems items
      refine takes_arrayHeader (by omega) (Takes.map ?_ Value.array)
      exact takes_encodeItems items levels representable (Nat.le_of_succ_le_succ shallow)
        (by omega)
  | levels + 1, .map entries =>
      rw [encode, List.length_append] at short
      have hlength := length_le_encodeEntries entries
      refine takes_mapHeader (by omega) (Takes.map ?_ Value.map)
      exact takes_encodeEntries entries levels representable (Nat.le_of_succ_le_succ shallow)
        (by omega)
  | levels + 1, .ext kind bytes =>
      rw [encode, List.length_append, List.length_cons] at short
      exact takes_extHeader (by omega) (takes_ext kind bytes)

theorem takes_encodeItems (items : List Value) (levels : Nat)
    (representable : Value.RepresentableItems items)
    (shallow : Value.levelsOfItems items ≤ levels)
    (short : (encodeItems items).length < 0x100000000) :
    Takes (many (value unassigned levels) items.length) (encodeItems items)
      (Value.cleanItems items) := by
  match items with
  | [] => exact takes_pure []
  | item :: items =>
      rw [encodeItems, List.length_append] at short
      rw [Value.levelsOfItems] at shallow
      obtain ⟨hitem, hitems⟩ := representable
      exact (takes_encode item levels hitem (by omega) (by omega)).bind _
        ((takes_encodeItems items levels hitems (by omega) (by omega)).map (List.cons item.clean))

theorem takes_encodeEntries (entries : List (Value × Value)) (levels : Nat)
    (representable : Value.RepresentableEntries entries)
    (shallow : Value.levelsOfEntries entries ≤ levels)
    (short : (encodeEntries entries).length < 0x100000000) :
    Takes (many (do return (← value unassigned levels, ← value unassigned levels))
      entries.length) (encodeEntries entries) (Value.cleanEntries entries) := by
  match entries with
  | [] => exact takes_pure []
  | (key, item) :: entries =>
      rw [encodeEntries, List.length_append, List.length_append] at short
      rw [Value.levelsOfEntries] at shallow
      obtain ⟨⟨hkey, hitem⟩, hentries⟩ := representable
      have hentry := (takes_encode key levels hkey (by omega) (by omega)).pair
        (takes_encode item levels hitem (by omega) (by omega))
      exact hentry.bind _
        ((takes_encodeEntries entries levels hentries (by omega) (by omega)).map
          (List.cons (key.clean, item.clean)))

end

end MessagePack

end TupleStore
