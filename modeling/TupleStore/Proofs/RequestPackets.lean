import Mathlib.Data.List.Basic
import TupleStore.Network.Packet
import TupleStore.Proofs.PackedValues

/-!
# Packets of requests

A packet tells the length of its payload, and the payload is read as a response
with the code, the number and the body of the request.  Bytes which do not read so are
a fault of the connection.
-/

namespace TupleStore.Network

open MessagePack

variable {body : Body}

/-! ## Bodies and lengths -/

theorem representable_bodyMap (h : ∀ entry ∈ body, entry.2.Representable) :
    (bodyMap body).Representable := by
  change Value.RepresentableEntries (body.map fun entry => (.nat entry.1.toNat, entry.2))
  induction body with
  | nil => exact True.intro
  | cons entry body ih =>
      obtain ⟨hentry, hbody⟩ := List.forall_mem_cons.mp h
      have hkey := entry.1.toNat_lt
      refine ⟨⟨⟨?_, ?_⟩, hentry⟩, ih hbody⟩ <;> omega

theorem levels_bodyMap {levels : Nat} (hlevels : 0 < levels)
    (h : ∀ entry ∈ body, entry.2.levels ≤ levels) : (bodyMap body).levels ≤ levels + 1 := by
  refine Nat.succ_le_succ ?_
  change Value.levelsOfEntries (body.map fun entry => (.nat entry.1.toNat, entry.2)) ≤ levels
  induction body with
  | nil => exact Nat.zero_le _
  | cons entry body ih =>
      obtain ⟨hentry, hbody⟩ := List.forall_mem_cons.mp h
      exact Nat.max_le.mpr ⟨Nat.max_le.mpr ⟨hlevels, hentry⟩, ih hbody⟩

def cleanBody (body : Body) : Body := body.map fun entry => (entry.1, entry.2.clean)

theorem clean_bodyMap (body : Body) : (bodyMap body).clean = bodyMap (cleanBody body) := by
  refine congrArg Value.map ?_
  induction body with
  | nil => rfl
  | cons entry body ih => exact congrArg (_ :: ·) ih

theorem cleanBody_eq_self (h : ∀ entry ∈ body, entry.2.hasValidText = true) :
    cleanBody body = body := by
  have hentries : ∀ entry ∈ body, (entry.1, entry.2.clean) = entry := fun entry hentry =>
    congrArg (entry.1, ·) (entry.2.clean_eq_self (h entry hentry))
  rw [cleanBody, List.map_congr_left hentries, List.map_id']

theorem decode?_bodyMap (body : Body)
    (representable : ∀ entry ∈ body, entry.2.Representable)
    (shallow : ∀ entry ∈ body, entry.2.levels < maxLevels)
    (short : (encode (bodyMap body)).length < 0x100000000) (rest : Bytes) :
    decode? (encode (bodyMap body) ++ rest) = some (bodyMap (cleanBody body), rest) := by
  have hlevels : (bodyMap body).levels ≤ maxLevels :=
    levels_bodyMap (by decide) fun entry hentry => Nat.le_of_lt_succ (shallow entry hentry)
  rw [← clean_bodyMap]
  exact takes_encode _ maxLevels (representable_bodyMap representable) hlevels short rest

theorem decodeLength_write {form : NumberForm} {length : Nat} (h : length < form.bound)
    (rest : Bytes) :
    decodeLength (form.write length ++ rest) =
      if length ≤ maxPayload then .ok length else .error (.tooLong length maxPayload) := by
  have htakes : Reader.Takes (value (pure .nil) maxLevels) (form.write length) (.int length) :=
    takes_unsigned form h
  have hdecode : decode? (form.write length ++ rest) = some (.int length, rest) := htakes rest
  rw [decodeLength, hdecode]
  rfl

theorem decodeLength_marked {length : Nat} (h : length ≤ maxPayload) :
    decodeLength (marked 0xce 4 length) = .ok length := by
  have hbound : length < NumberForm.uint32.bound := h.trans_lt (by decide)
  have hdecode := decodeLength_write hbound []
  rwa [List.append_nil, if_pos h] at hdecode

/-! ## Refused bytes -/

theorem kind_of_decodeLength {bytes : Bytes} {fault : Fault}
    (h : decodeLength bytes = .error fault) : fault.kind = .connection := by
  rw [decodeLength] at h
  split at h
  · cases h
    rfl
  · split_ifs at h
    cases h
    rfl

theorem kind_of_decode {payload : Bytes} {fault : Fault}
    (h : Response.decode payload = .error fault) : fault.kind = .connection := by
  rw [Response.decode] at h
  cases hpayload : decode? payload with
  | none =>
      rw [hpayload] at h
      cases h
      rfl
  | some decoded =>
      obtain ⟨header, rest⟩ := decoded
      rw [hpayload] at h
      dsimp only at h
      generalize (entryAt? header PacketKey.code).bind Value.unsigned? = code at h
      generalize (entryAt? header PacketKey.sync).bind Value.unsigned? = sync at h
      split_ifs at h
      · cases code <;> cases sync <;> cases h <;> rfl
      · cases hbody : decode? rest with
        | none =>
            rw [hbody] at h
            cases h
            rfl
        | some body =>
            rw [hbody] at h
            cases code <;> cases sync <;> cases h <;> rfl

theorem isFatal_of_kind {fault : Fault} (h : fault.kind = .connection) : fault.isFatal = true := by
  rw [Fault.isFatal, h]
  rfl

/-! ## Requests -/

def header (code : UInt8) (sync : UInt64) : Body :=
  [(PacketKey.code, .nat code.toNat), (PacketKey.sync, .nat sync.toNat)]

theorem representable_nat {number : Nat} (h : number < 0x10000000000000000) :
    (Value.nat number).Representable :=
  ⟨by omega, by omega⟩

theorem decode?_header (code : UInt8) (sync : UInt64)
    (short : (encode (bodyMap (header code sync))).length < 0x100000000) (rest : Bytes) :
    decode? (encode (bodyMap (header code sync)) ++ rest) =
      some (bodyMap (header code sync), rest) := by
  refine decode?_bodyMap _ (fun entry hentry => ?_) (fun entry hentry => ?_) short rest
  · have hcode := code.toNat_lt
    rcases List.mem_pair.mp hentry with rfl | rfl
    · exact representable_nat (by omega)
    · exact representable_nat sync.toNat_lt
  · rcases List.mem_pair.mp hentry with rfl | rfl
    · exact (by decide : 1 < maxLevels)
    · exact (by decide : 1 < maxLevels)

theorem decode_payload (code : UInt8) (sync : UInt64) (body : Body)
    (representable : ∀ entry ∈ body, entry.2.Representable)
    (shallow : ∀ entry ∈ body, entry.2.levels < maxLevels)
    (short : (payload code sync body).length < 0x100000000) :
    Response.decode (payload code sync body) =
      .ok ⟨code.toNat, sync.toNat, bodyMap (cleanBody body)⟩ := by
  change (encode (bodyMap (header code sync)) ++ encode (bodyMap body)).length < _ at short
  rw [List.length_append] at short
  have hheader := decode?_header code sync (by omega) (encode (bodyMap body))
  have hbody := decode?_bodyMap body representable shallow (by omega) []
  rw [List.append_nil] at hbody
  have hne : (encode (bodyMap body)).isEmpty = false :=
    List.isEmpty_eq_false_iff.mpr (List.ne_nil_of_length_pos (encode_length_pos _))
  change Response.decode (encode (bodyMap (header code sync)) ++ encode (bodyMap body)) = _
  simp only [Response.decode, hheader, hbody, hne]
  rfl

/--
The length in front of a packet is that of its payload, and the payload is read as a
response with the code, the number and the entries of the request.  A string which is not
valid text, and so no string of MessagePack, is written as the byte string it comes back as.
-/
theorem decode_encodeRequest (code : UInt8) (sync : UInt64) (body : Body)
    (representable : ∀ entry ∈ body, entry.2.Representable)
    (shallow : ∀ entry ∈ body, entry.2.levels < maxLevels)
    (fits : (payload code sync body).length ≤ maxPayload) :
    ∃ packet, encodeRequest code sync body = .ok packet ∧ lengthSize ≤ packet.length ∧
      decodeLength (packet.take lengthSize) = .ok (packet.length - lengthSize) ∧
      ((∀ entry ∈ body, entry.2.hasValidText = true) →
        Response.decode (packet.drop lengthSize) = .ok
          ⟨code.toNat, sync.toNat, .map (body.map fun entry => (.nat entry.1.toNat, entry.2))⟩) ∧
      Response.decode (packet.drop lengthSize) = .ok ⟨code.toNat, sync.toNat,
        .map (body.map fun entry => (.nat entry.1.toNat, entry.2.clean))⟩ := by
  have hmax : maxPayload < 0x100000000 := by decide
  have hlength : (marked 0xce 4 (payload code sync body).length).length = lengthSize := by
    rw [marked, List.length_cons, Bytes.length_bigEndian]
    rfl
  have hdecode := decode_payload code sync body representable shallow (by omega)
  refine ⟨marked 0xce 4 (payload code sync body).length ++ payload code sync body,
    ?_, ?_, ?_, fun valid => ?_, ?_⟩
  · exact if_pos (by omega)
  · rw [List.length_append]
    omega
  · rw [List.take_left' hlength, List.length_append, hlength, Nat.add_sub_cancel_left]
    exact decodeLength_marked fits
  · rw [List.drop_left' hlength]
    rwa [cleanBody_eq_self valid] at hdecode
  · rw [List.drop_left' hlength, hdecode, bodyMap, cleanBody, List.map_map]
    rfl

/-- A call with an argument of two levels, the greatest and the least integer among them. -/
def callBody : Body :=
  [(PacketKey.functionName, .text "echo"),
    (PacketKey.tuple, .array [.nat 0xffffffffffffffff, .int (-0x8000000000000000),
      .map [(.bin [1, 0xff], .float64 0x7ff8000000000001), (.text "é", .ext (-1) [0])]])]

/-- A body of values of many kinds, with a number which takes eight bytes. -/
theorem decode_encodeRequest_call :
    (payload RequestCode.call 0x100000000 callBody).length ≤ maxPayload ∧
      ∃ packet, encodeRequest RequestCode.call 0x100000000 callBody = .ok packet ∧
        lengthSize ≤ packet.length ∧
        decodeLength (packet.take lengthSize) = .ok (packet.length - lengthSize) ∧
        Response.decode (packet.drop lengthSize) = .ok ⟨10, 0x100000000, .map
          [(.nat 0x22, .text "echo"),
            (.nat 0x21, .array [.nat 0xffffffffffffffff, .int (-0x8000000000000000),
              .map [(.bin [1, 0xff], .float64 0x7ff8000000000001),
                (.text "é", .ext (-1) [0])]])]⟩ := by
  have fits : (payload RequestCode.call 0x100000000 callBody).length ≤ maxPayload := by
    decide +kernel
  have valid : ∀ entry ∈ callBody, entry.2.hasValidText = true := by decide +kernel
  have representable : ∀ entry ∈ callBody, entry.2.Representable := by
    intro entry hentry
    rcases List.mem_pair.mp hentry with rfl | rfl
    · exact True.intro
    · simp [Value.Representable, Value.RepresentableItems, Value.RepresentableEntries, Value.nat,
        Value.text]
  have shallow : ∀ entry ∈ callBody, entry.2.levels < maxLevels := by
    intro entry hentry
    rcases List.mem_pair.mp hentry with rfl | rfl
    · exact (by decide +kernel : 1 < maxLevels)
    · exact (by decide +kernel : 3 < maxLevels)
  obtain ⟨packet, hpacket, hsize, hlength, hdecode, -⟩ :=
    decode_encodeRequest RequestCode.call 0x100000000 callBody representable shallow fits
  exact ⟨fits, packet, hpacket, hsize, hlength, hdecode valid⟩

end TupleStore.Network
