import TupleStore.Network.Connection
import TupleStore.Proofs.Programs
import TupleStore.Proofs.RequestPackets

/-!
# Streams of responses

A stream is one packet after another, each a length in any form of an unsigned
integer and a payload.  The reader takes five bytes for the length, whatever its form:
a length of nine bytes is refused, but behind one of up to three bytes the reader has
lost some of the payload and takes as many bytes of the packets after it.
-/

namespace TupleStore.Network

open MessagePack

/-! ## Lengths -/

variable {form : NumberForm}

theorem size_le_iff : form.size ≤ lengthSize ↔ form ≠ .uint64 := by
  cases form <;> decide

theorem size_lt_iff : form.size < lengthSize ↔ form ≠ .uint32 ∧ form ≠ .uint64 := by
  cases form <;> decide

theorem bound_le_of_size_lt (h : form.size < lengthSize) : form.bound ≤ maxPayload := by
  cases form with
  | short | uint8 | uint16 => simp [NumberForm.bound, maxPayload]
  | uint32 | uint64 => simp [NumberForm.size, lengthSize] at h

theorem decode?_cut {bytes : Bytes} (h : bytes.length < 8) : decode? (0xcf :: bytes) = none := by
  change (do return Value.int (← Reader.number 8) : Reader Value).run bytes = none
  simp [Reader.number, Reader.take, h]

/-! ## Packets -/

structure Packet where
  form : NumberForm
  payload : Bytes
  response : Response
  fits : payload.length < form.bound
  decodes : Response.decode payload = .ok response

namespace Packet

variable (packet : Packet) (rest : Bytes)

def bytes : Bytes := packet.form.write packet.payload.length ++ packet.payload

def stream (packets : List Packet) : Bytes := packets.flatMap bytes

@[simp] theorem length_bytes :
    packet.bytes.length = packet.form.size + packet.payload.length := by
  rw [bytes, List.length_append, NumberForm.length_write]

theorem payload_ne_nil : packet.payload ≠ [] := by
  intro h
  have hdecodes := packet.decodes
  rw [h] at hdecodes
  cases hdecodes

/-- What the reader takes for the payload, with `rest` behind the packet. -/
def window : Bytes := ((packet.bytes ++ rest).drop lengthSize).take packet.payload.length

def Plain : Prop := packet.form = .uint32 ∧ packet.payload.length ≤ maxPayload

/--
The length takes less than five bytes, and what begins behind the fifth byte and is as
long as the payload holds a response too.
-/
def Straddles : Prop :=
  packet.form.size < lengthSize ∧ (packet.window rest).length = packet.payload.length ∧
    ∃ response, Response.decode (packet.window rest) = .ok response

variable {packet rest}

theorem take_bytes (h : packet.form.size ≤ lengthSize) :
    (packet.bytes ++ rest).take lengthSize =
      packet.form.write packet.payload.length ++
        (packet.payload ++ rest).take (lengthSize - packet.form.size) := by
  rw [bytes, List.append_assoc, List.take_append, NumberForm.length_write,
    List.take_of_length_le (by rwa [NumberForm.length_write])]

theorem decodeLength_uint64 (h : packet.form = .uint64) :
    decodeLength ((packet.bytes ++ rest).take lengthSize) = .error .malformedLength := by
  have hcut : (packet.bytes ++ rest).take lengthSize =
      0xcf :: (Bytes.bigEndian 8 packet.payload.length ++ (packet.payload ++ rest)).take 4 := by
    rw [bytes, h, List.append_assoc]
    rfl
  rw [hcut, decodeLength, decode?_cut (by rw [List.length_take]; omega)]
  rfl

theorem decodeLength_bytes {length : Nat} :
    decodeLength ((packet.bytes ++ rest).take lengthSize) = .ok length ↔
      packet.form ≠ .uint64 ∧ packet.payload.length ≤ maxPayload ∧
        packet.payload.length = length := by
  by_cases hform : packet.form = .uint64
  · rw [decodeLength_uint64 hform]
    exact ⟨nofun, fun h => absurd hform h.1⟩
  · rw [take_bytes (size_le_iff.mpr hform), decodeLength_write packet.fits]
    split_ifs with hlimit
    · simp [hform, hlimit]
    · simp [hlimit]

theorem length_window_eq_iff :
    (packet.window rest).length = packet.payload.length ↔
      packet.payload.length ≤ ((packet.bytes ++ rest).drop lengthSize).length := by
  rw [window, List.length_take]
  omega

theorem Plain.drop_bytes (plain : packet.Plain) :
    (packet.bytes ++ rest).drop lengthSize = packet.payload ++ rest := by
  rw [bytes, List.append_assoc, List.drop_left']
  rw [NumberForm.length_write, plain.1]
  rfl

theorem Plain.window (plain : packet.Plain) : packet.window rest = packet.payload := by
  rw [Packet.window, plain.drop_bytes, List.take_left]

theorem Plain.not_straddles (plain : packet.Plain) : ¬packet.Straddles rest := by
  rintro ⟨hsize, -⟩
  rw [plain.1] at hsize
  exact absurd hsize (by decide)

end Packet

/-! ## The reader -/

variable (time : Nat) (reason : String)

/-- Answers from bytes which have arrived; behind the last of them the link is closed. -/
def fromUnread : (op : Op) → Bytes → op.Reply × Bytes
  | .now, unread => (time, unread)
  | .connect .., unread => (.error (.lost reason), unread)
  | .send .., unread => (.ok (), unread)
  | .receive _ count _, unread =>
      if unread.length < count then (.error (.lost reason), [])
      else (.ok (unread.take count), unread.drop count)
  | .close _, unread => ((), unread)
  | .turn, unread => (0, unread)
  | .acquire _, unread => (none, unread)
  | .release .., unread => ((), unread)
  | .schema, unread => ([], unread)
  | .setSchema _, unread => ((), unread)

variable (config : Config) (link : Link) (deadlines : List Deadline)

def readNext (unread : Bytes) : Except Fault Response × Bytes :=
  (Connection.readResponse config link deadlines).run (fromUnread time reason) unread

theorem run_receive (count : Nat) (unread : Bytes) :
    (Action.receive link count deadlines).run (fromUnread time reason) unread =
      if unread.length < count then (.error (.lost reason), [])
      else (.ok (unread.take count), unread.drop count) := by
  simp only [Action.receive, Program.run, fromUnread]
  split_ifs <;> rfl

theorem run_withLimit (wait : Wait) (limit : Option Nat) (unread : Bytes) :
    ∃ limited, (Action.withLimit wait limit deadlines).run (fromUnread time reason) unread =
      (.ok limited, unread) := by
  cases limit with
  | none => exact ⟨_, rfl⟩
  | some milliseconds => exact ⟨_, rfl⟩

theorem readNext_eq (unread : Bytes) :
    readNext time reason config link deadlines unread =
      if unread.length < lengthSize then (.error (.lost reason), [])
      else
        match decodeLength (unread.take lengthSize) with
        | .error fault => (.error fault, unread.drop lengthSize)
        | .ok length =>
            if (unread.drop lengthSize).length < length then (.error (.lost reason), [])
            else (Response.decode ((unread.drop lengthSize).take length),
              (unread.drop lengthSize).drop length) := by
  obtain ⟨limited, hlimited⟩ := run_withLimit time reason deadlines .read config.readTimeout unread
  simp only [readNext, Connection.readResponse, Program.run_bind, hlimited, run_receive]
  split_ifs with hshort
  · rfl
  · simp only [Program.run_ofExcept]
    cases decodeLength (unread.take lengthSize) with
    | error fault => rfl
    | ok length =>
        dsimp only
        split_ifs <;> rfl

variable {time reason config link deadlines}

theorem kind_of_readNext {unread after : Bytes} {fault : Fault}
    (h : readNext time reason config link deadlines unread = (.error fault, after)) :
    fault.kind = .connection := by
  rw [readNext_eq] at h
  split_ifs at h with hshort
  · cases h
    rfl
  · split at h
    next other hlength =>
      cases h
      exact kind_of_decodeLength hlength
    next length hlength =>
      split_ifs at h with hcut
      · cases h
        rfl
      · exact kind_of_decode (congrArg Prod.fst h)

theorem readNext_eq_ok_iff {unread after : Bytes} {response : Response} :
    readNext time reason config link deadlines unread = (.ok response, after) ↔
      lengthSize ≤ unread.length ∧ ∃ length,
        decodeLength (unread.take lengthSize) = .ok length ∧
        length ≤ (unread.drop lengthSize).length ∧
        Response.decode ((unread.drop lengthSize).take length) = .ok response ∧
        after = (unread.drop lengthSize).drop length := by
  rw [readNext_eq]
  constructor
  · intro h
    split_ifs at h with hshort
    · cases h
    · split at h
      next => cases h
      next length hlength =>
        split_ifs at h with hcut
        · cases h
        · obtain ⟨hdecode, hafter⟩ := Prod.mk.inj h
          exact ⟨not_lt.mp hshort, length, hlength, not_lt.mp hcut, hdecode, hafter.symm⟩
  · rintro ⟨hlong, length, hlength, hrest, hdecode, rfl⟩
    rw [if_neg (not_lt.mpr hlong), hlength]
    dsimp only
    rw [if_neg (not_lt.mpr hrest), hdecode]

/-! ## Streams -/

section Streams

variable {packet : Packet} {rest after : Bytes} {response : Response}

theorem readNext_packet_eq_ok_iff :
    readNext time reason config link deadlines (packet.bytes ++ rest) = (.ok response, after) ↔
      packet.form ≠ .uint64 ∧ packet.payload.length ≤ maxPayload ∧
        (packet.window rest).length = packet.payload.length ∧
        Response.decode (packet.window rest) = .ok response ∧
        after = ((packet.bytes ++ rest).drop lengthSize).drop packet.payload.length := by
  rw [readNext_eq_ok_iff]
  constructor
  · rintro ⟨-, length, hlength, hrest, hdecode, hafter⟩
    obtain ⟨hform, hlimit, rfl⟩ := Packet.decodeLength_bytes.mp hlength
    exact ⟨hform, hlimit, Packet.length_window_eq_iff.mpr hrest, hdecode, hafter⟩
  · rintro ⟨hform, hlimit, hwindow, hdecode, hafter⟩
    have hrest := Packet.length_window_eq_iff.mp hwindow
    have hpayload := List.length_pos_iff.mpr packet.payload_ne_nil
    refine ⟨?_, _, Packet.decodeLength_bytes.mpr ⟨hform, hlimit, rfl⟩, hrest, hdecode, hafter⟩
    rw [List.length_drop] at hrest
    omega

theorem readNext_plain (plain : packet.Plain) :
    readNext time reason config link deadlines (packet.bytes ++ rest) =
      (.ok packet.response, rest) := by
  rw [readNext_packet_eq_ok_iff, plain.window, plain.drop_bytes, List.drop_left]
  refine ⟨?_, plain.2, rfl, packet.decodes, rfl⟩
  rw [plain.1]
  decide

theorem readNext_ok_iff_straddles (plain : ¬packet.Plain) :
    (∃ response after, readNext time reason config link deadlines (packet.bytes ++ rest) =
      (.ok response, after)) ↔ packet.Straddles rest := by
  constructor
  · rintro ⟨response, after, h⟩
    obtain ⟨hform, hlimit, hwindow, hdecode, -⟩ := readNext_packet_eq_ok_iff.mp h
    have hplain : packet.form ≠ .uint32 := fun h => plain ⟨h, hlimit⟩
    exact ⟨size_lt_iff.mpr ⟨hplain, hform⟩, hwindow, response, hdecode⟩
  · rintro ⟨hsize, hwindow, response, hdecode⟩
    have hlimit := packet.fits.le.trans (bound_le_of_size_lt hsize)
    exact ⟨response, _, readNext_packet_eq_ok_iff.mpr
      ⟨(size_lt_iff.mp hsize).2, hlimit, hwindow, hdecode, rfl⟩⟩

theorem length_lt_of_readNext
    (h : readNext time reason config link deadlines (packet.bytes ++ rest) = (.ok response, after))
    (hsize : packet.form.size < lengthSize) : after.length < rest.length := by
  obtain ⟨-, -, hwindow, -, rfl⟩ := readNext_packet_eq_ok_iff.mp h
  have henough := Packet.length_window_eq_iff.mp hwindow
  have hpayload := List.length_pos_iff.mpr packet.payload_ne_nil
  simp only [List.length_drop, List.length_append, Packet.length_bytes] at henough ⊢
  omega

/--
Each packet is read as its response, with all bytes of the packets after it left, up to
the first which is refused as a fault of the connection.
-/
inductive Framed (read : Bytes → Except Fault Response × Bytes) : List Packet → Prop where
  | done : Framed read []
  | returned {packet : Packet} {packets : List Packet}
      (exact : read (Packet.stream (packet :: packets)) =
        (.ok packet.response, Packet.stream packets))
      (framed : Framed read packets) : Framed read (packet :: packets)
  | rejected {packet : Packet} {packets : List Packet} {fault : Fault} {after : Bytes}
      (refused : read (Packet.stream (packet :: packets)) = (.error fault, after))
      (connection : fault.kind = .connection) : Framed read (packet :: packets)

variable {packets : List Packet}

theorem framed_cons_of_plain (plain : packet.Plain) :
    Framed (readNext time reason config link deadlines) (packet :: packets) ↔
      Framed (readNext time reason config link deadlines) packets := by
  have hread : readNext time reason config link deadlines (Packet.stream (packet :: packets)) =
      (.ok packet.response, Packet.stream packets) := readNext_plain plain
  constructor
  · intro h
    cases h with
    | returned exact framed => exact framed
    | rejected refused connection =>
        rw [hread] at refused
        cases refused
  · exact .returned hread

theorem framed_cons_of_not_plain (plain : ¬packet.Plain) :
    Framed (readNext time reason config link deadlines) (packet :: packets) ↔
      ¬packet.Straddles (Packet.stream packets) := by
  constructor
  · intro h straddles
    obtain ⟨response, after, hread⟩ := (readNext_ok_iff_straddles plain).mpr straddles
    change readNext time reason config link deadlines (Packet.stream (packet :: packets)) = _
      at hread
    cases h with
    | returned exact framed =>
        exact absurd (length_lt_of_readNext exact straddles.1) (lt_irrefl _)
    | rejected refused connection =>
        rw [hread] at refused
        cases refused
  · intro straddles
    cases hread : readNext time reason config link deadlines
        (Packet.stream (packet :: packets)) with
    | mk result after =>
        cases result with
        | ok response =>
            exact absurd ((readNext_ok_iff_straddles plain).mp ⟨response, after, hread⟩) straddles
        | error fault => exact .rejected hread (kind_of_readNext hread)

/-- With lengths of five bytes, which servers send, all packets are kept apart. -/
theorem framed_of_uint32 (h : ∀ packet ∈ packets, packet.form = .uint32) :
    Framed (readNext time reason config link deadlines) packets := by
  induction packets with
  | nil => exact .done
  | cons packet packets ih =>
      obtain ⟨hform, hforms⟩ := List.forall_mem_cons.mp h
      by_cases plain : packet.Plain
      · exact (framed_cons_of_plain plain).mpr (ih hforms)
      · exact (framed_cons_of_not_plain plain).mpr fun straddles =>
          (size_lt_iff.mp straddles.1).1 hform

end Streams

variable (time reason config link deadlines)

/--
The packets of a stream are kept apart just if the first which is not plain does not
straddle the bytes after it.
-/
theorem framed_iff (packets : List Packet) :
    Framed (readNext time reason config link deadlines) packets ↔
      ∀ before packet after, packets = before ++ packet :: after →
        (∀ earlier ∈ before, earlier.Plain) → ¬packet.Straddles (Packet.stream after) := by
  induction packets with
  | nil =>
      refine ⟨fun _ before packet after h => ?_, fun _ => .done⟩
      simp at h
  | cons first packets ih =>
      by_cases hfirst : first.Plain
      -- A plain packet is returned, and the first which is not plain is behind it.
      · rw [framed_cons_of_plain hfirst, ih]
        constructor
        · intro h before packet after heq hplain
          cases before with
          | nil =>
              obtain ⟨rfl, rfl⟩ := List.cons.inj heq
              exact hfirst.not_straddles
          | cons earlier before =>
              obtain ⟨rfl, rfl⟩ := List.cons.inj heq
              exact h before packet after rfl (List.forall_mem_cons.mp hplain).2
        · rintro h before packet after rfl hplain
          exact h (first :: before) packet after rfl (List.forall_mem_cons.mpr ⟨hfirst, hplain⟩)
      · rw [framed_cons_of_not_plain hfirst]
        constructor
        · intro h before packet after heq hplain
          cases before with
          | nil =>
              obtain ⟨rfl, rfl⟩ := List.cons.inj heq
              exact h
          | cons earlier before =>
              obtain ⟨rfl, -⟩ := List.cons.inj heq
              exact absurd (hplain first (List.mem_cons_self ..)) hfirst
        · exact fun h => h [] first packets rfl nofun

/-- A response with the number 1 and, from the fifth byte of its header, one with the number 7. -/
def nestedPacket : Packet where
  form := .short
  payload := [0x84, 0x02, 0x00, 0x03, 0x82, 0x00, 0x00, 0x01, 0x07, 0x00, 0x00, 0x01, 0x01]
  response := ⟨0, 1, .map []⟩
  fits := by decide
  decodes := by decide +kernel

/-- The inner response is returned, and the first four bytes of the next packet are gone. -/
theorem not_framed_nestedPacket :
    readNext 0 "closed" {} 0 [] (Packet.stream [nestedPacket, nestedPacket]) =
        (.ok ⟨0, 7, .int 0⟩, (Packet.stream [nestedPacket]).drop 4) ∧
      ¬Framed (readNext 0 "closed" {} 0 []) [nestedPacket, nestedPacket] := by
  have hread : readNext 0 "closed" {} 0 [] (Packet.stream [nestedPacket, nestedPacket]) =
      (.ok ⟨0, 7, .int 0⟩, (Packet.stream [nestedPacket]).drop 4) := by
    decide +kernel
  refine ⟨hread, fun h => ?_⟩
  cases h with
  | returned exact framed =>
      rw [hread] at exact
      exact absurd (congrArg Prod.fst exact) (by decide)
  | rejected refused connection =>
      rw [hread] at refused
      cases refused

end TupleStore.Network
