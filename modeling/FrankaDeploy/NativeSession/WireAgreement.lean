import FrankaDeploy.NativeSession.WireFormat
import FrankaDeploy.Servo.PacketRoundTrip

/-! # Both halves of the protocol read the same bytes

The struct formats of the parent are the packed structs of the child, name for name, and the two
codecs write and accept the same byte strings. The only difference is that the parent also refuses
a packet whose header time is zero. -/

namespace FrankaDeploy.NativeSession

open FrankaDeploy.Foundation FrankaDeploy.Servo

/-! ## Layouts -/

theorem structLayout_headerFormat : structLayout headerFormat = PacketHeader.layout := by
  decide +kernel

theorem structPayloadLayout_eq (kind : MessageKind) :
    structPayloadLayout kind = payloadLayout kind := by
  cases kind <;> decide +kernel

example : structPayloadLayout .heartbeat = [.unsigned 8] := by decide +kernel

def indexed (first : ℕ) : List WireField → List TupleField
  | [] => []
  | f :: fields => ⟨f.name, first, f.count⟩ :: indexed (first + f.count) fields

/-- **Every name of the parent stands for the values of its struct member.** -/
theorem tupleFields_eq_indexed (kind : MessageKind) :
    ((tupleFields kind).map fun f => { f with name := memberName kind f.name }) =
      indexed 0 (payloadFields kind) := by
  cases kind <;> decide +kernel

theorem nativePayloadBytes_eq (kind : MessageKind) :
    nativePayloadBytes kind = (payloadLayout kind).size := by
  cases kind <;> decide +kernel

/-! ## Payloads -/

variable {kind : MessageKind} {packetSequence monotonicNs : UInt64} {nonce : Vec 16 UInt8}
  {payload : Bytes}

theorem structPack_of_fits {L : Layout} {vs : List WireValue} (h : L.Fits vs) :
    structPack L vs = .ok (L.pack vs) := by
  have hitems : List.zipWith structItem L vs = vs := by
    induction h with
    | nil => rfl
    | @cons t v L vs hv _ ih =>
      rw [List.zipWith_cons_cons, ih]
      cases t with
      | raw width =>
        obtain ⟨bytes, hlen, rfl⟩ := WireType.fits_raw hv
        rw [structItem, ← hlen, List.take_left' rfl]
      | _ => rfl
  rw [structPack, hitems, if_pos ⟨h.length_eq.symm, h⟩]

theorem packPayload_values (record : PayloadRecord kind) :
    packPayload kind record.values = .ok record.bytes := by
  rw [packPayload, structPayloadLayout_eq]
  exact structPack_of_fits record.fits

theorem unpackStopProof_eq {payload : Bytes}
    (h : payload.length = (structPayloadLayout .stopProof).size) :
    unpackStopProof payload = .ok ((structPayloadLayout .stopProof).unpack payload) := by
  have hcounters : (structLayout stopProofPrefixFormat).size = 112 := by decide +kernel
  have hsample : (structLayout stopSampleFormat).size = 72 := by decide +kernel
  have hsize : (structPayloadLayout .stopProof).size = 488 := by decide +kernel
  rw [hsize] at h
  have hread : ∀ (L : Layout) (offset : ℕ), offset + L.size ≤ 488 →
      structUnpackFrom L payload offset = .ok (L.unpack (payload.drop offset)) := by
    intro L offset hle
    rw [structUnpackFrom, if_pos (by omega)]
  have hdetail : (payload.drop 328).take 160 = payload.drop 328 :=
    List.take_of_length_le (by rw [List.length_drop]; omega)
  have hlayout : (structPayloadLayout .stopProof).unpack payload =
      (structLayout stopProofPrefixFormat).unpack payload ++
      (structLayout stopSampleFormat).unpack (payload.drop 112) ++
      (structLayout stopSampleFormat).unpack (payload.drop 184) ++
      (structLayout stopSampleFormat).unpack (payload.drop 256) ++
      [.raw (payload.drop 328)] := by
    simp only [structPayloadLayout, payloadFormat, Layout.unpack_append, Layout.size_append,
      hcounters, hsample, Layout.unpack, WireType.get, WireType.width, hdetail]
  simp only [unpackStopProof, hcounters, hsample]
  rw [hread _ 0 (by omega), hread _ 112 (by omega), hread _ 184 (by omega), hread _ 256 (by omega),
    hlayout]
  rfl

/-- **The parent reads the values of the child's struct.** -/
theorem unpackPayload_bytes (record : PayloadRecord kind) :
    unpackPayload kind record.bytes = .ok record.values := by
  have hvalues : (structPayloadLayout kind).unpack record.bytes = record.values := by
    rw [structPayloadLayout_eq, record.unpack_bytes]
  have hlen : record.bytes.length = (structPayloadLayout kind).size := by
    rw [structPayloadLayout_eq, record.length_bytes]
  have hunpack : structUnpack (structPayloadLayout kind) record.bytes = .ok record.values := by
    rw [structUnpack, if_pos hlen, hvalues]
  cases kind with
  | stopProof =>
    show unpackStopProof record.bytes = _
    rw [unpackStopProof_eq hlen, hvalues]
  | _ => exact hunpack

/-! ## Packets -/

def parentHeader (packetSequence monotonicNs : UInt64) (nonce : Vec 16 UInt8) : PacketHeader :=
  ⟨packetSequence.toNat, monotonicNs.toNat, List.ofFn nonce⟩

theorem crc32_cleared (header : Servo.PacketHeader) (payload : Bytes) :
    (crc32 (header.cleared.toBytes ++ payload)).toNat = (packetCrc header payload).toNat := by
  rw [← protocolCrc32_eq_crc32]
  rfl

/-- **The parent writes the packets that the child writes.** -/
theorem encodeBytes_eq (h : payload.length = (payloadLayout kind).size) :
    encodeBytes kind (parentHeader packetSequence monotonicNs nonce) payload =
      .ok (packetBytes kind packetSequence monotonicNs nonce payload) := by
  have hmax := packet_le_maximum kind
  have hlarge : ¬nativeMaxPacketBytes <
      (packetBytes kind packetSequence monotonicNs nonce payload).length := by
    rw [length_packetBytes, h]
    exact not_lt.mpr hmax
  have hcount : (UInt32.ofNat payload.length).toNat = payload.length := by
    have hbuffer : maximumPacketBytes < UInt32.size := by decide
    exact UInt32.toNat_ofNat_of_lt' (by omega)
  have hkind : kind.wire.toNat = kind.code := by cases kind <;> rfl
  have hvalues : [WireValue.unsigned nativeProtocolMagic, .unsigned nativeProtocolVersion,
      .unsigned kind.code, .unsigned payload.length, .unsigned 0, .unsigned packetSequence.toNat,
      .unsigned monotonicNs.toNat, .raw (List.ofFn nonce), .unsigned 0, .unsigned 0] =
      (encodedHeader kind.wire packetSequence monotonicNs nonce payload 0).toValues := by
    rw [Servo.PacketHeader.toValues]
    simp only [encodedHeader, hkind, hcount]
    rfl
  have hhead : structPack (structLayout headerFormat)
      (encodedHeader kind.wire packetSequence monotonicNs nonce payload 0).toValues =
      .ok (encodedHeader kind.wire packetSequence monotonicNs nonce payload 0).toBytes := by
    rw [structLayout_headerFormat]
    exact structPack_of_fits (Servo.PacketHeader.fits_toValues _)
  have hcrc : overwrite 48 (leBytes 4 (crc32 ((encodedHeader kind.wire packetSequence monotonicNs
      nonce payload 0).toBytes ++ payload)).toNat) ((encodedHeader kind.wire packetSequence
      monotonicNs nonce payload 0).toBytes ++ payload) =
      packetBytes kind packetSequence monotonicNs nonce payload := by
    have hclear : (encodedHeader kind.wire packetSequence monotonicNs nonce payload 0).toBytes =
        (encodedHeader kind.wire packetSequence monotonicNs nonce payload 0).cleared.toBytes := rfl
    rw [hclear, crc32_cleared, ← hclear]
    exact Servo.PacketHeader.overwrite_crc _ _ _
  simp only [encodeBytes, parentHeader]
  rw [if_neg (by rw [nativePayloadBytes_eq]; exact not_not.mpr h), hvalues, hhead, except_ok_bind,
    hcrc, if_neg hlarge]

theorem unpack_headerFormat {packet : Bytes} (h : Servo.PacketHeader.size ≤ packet.length) :
    (structLayout headerFormat).unpack packet = (Servo.PacketHeader.ofBytes packet).toValues := by
  rw [structLayout_headerFormat, Servo.PacketHeader.ofBytes,
    Servo.PacketHeader.toValues_ofValues (Layout.fits_unpack h)]

/-- **The parent reads the packets of the protocol**, except that it refuses a header time of
zero. -/
theorem decodeBytes_packetBytes (h : payload.length = (payloadLayout kind).size) :
    decodeBytes (packetBytes kind packetSequence monotonicNs nonce payload) =
      if monotonicNs = 0 then
        .error (sessionError "native packet monotonic_ns must be positive")
      else .ok (kind, parentHeader packetSequence monotonicNs nonce, payload) := by
  have hmax := packet_le_maximum kind
  have hsize : (structLayout headerFormat).size = Servo.PacketHeader.size := by
    rw [structLayout_headerFormat]
    rfl
  have hlength : (packetBytes kind packetSequence monotonicNs nonce payload).length =
      Servo.PacketHeader.size + payload.length := length_packetBytes
  have hcount : (UInt32.ofNat payload.length).toNat = nativePayloadBytes kind := by
    have hbuffer : maximumPacketBytes < UInt32.size := by decide
    rw [UInt32.toNat_ofNat_of_lt' (by omega), h, nativePayloadBytes_eq]
  have hkind : nativeMessageKind? kind.wire.toNat = some kind := by cases kind <;> rfl
  have hunpack := @unpack_headerFormat
    (packetBytes kind packetSequence monotonicNs nonce payload) (by omega)
  have hzero : overwrite 48 (List.replicate 4 0)
      (packetBytes kind packetSequence monotonicNs nonce payload) =
      (packetHeader kind packetSequence monotonicNs nonce payload).cleared.toBytes ++ payload :=
    Servo.PacketHeader.overwrite_zero _ _
  have hcrc : (crc32 ((packetHeader kind packetSequence monotonicNs nonce payload).cleared.toBytes
      ++ payload)).toNat = (packetHeader kind packetSequence monotonicNs nonce payload).crc32.toNat :=
    crc32_cleared _ _
  have hdrop : (packetBytes kind packetSequence monotonicNs nonce payload).drop
      Servo.PacketHeader.size = payload :=
    List.drop_left' (Servo.PacketHeader.length_toBytes _)
  have hbounds : ¬((packetBytes kind packetSequence monotonicNs nonce payload).length <
      Servo.PacketHeader.size ∨ nativeMaxPacketBytes <
      (packetBytes kind packetSequence monotonicNs nonce payload).length) := by
    rw [hlength, h]
    exact not_or.mpr ⟨by omega, not_lt.mpr hmax⟩
  rw [decodeBytes, hunpack, hsize, if_neg hbounds, packetBytes,
    Servo.PacketHeader.ofBytes_toBytes]
  rw [packetBytes] at hzero hdrop hlength
  simp only [Servo.PacketHeader.toValues]
  have hwire : (packetHeader kind packetSequence monotonicNs nonce payload).kind = kind.wire := rfl
  have hbytes : (packetHeader kind packetSequence monotonicNs nonce payload).payloadBytes =
      .ofNat payload.length := rfl
  have hgood : ¬((packetHeader kind packetSequence monotonicNs nonce payload).magic.toNat ≠
      nativeProtocolMagic ∨ (packetHeader kind packetSequence monotonicNs nonce
      payload).version.toNat ≠ nativeProtocolVersion) := by
    exact not_or.mpr ⟨not_not.mpr rfl, not_not.mpr rfl⟩
  have hclean : ¬((packetHeader kind packetSequence monotonicNs nonce payload).flags.toNat ≠ 0 ∨
      (packetHeader kind packetSequence monotonicNs nonce payload).reserved.toNat ≠ 0) := by
    exact not_or.mpr ⟨not_not.mpr rfl, not_not.mpr rfl⟩
  rw [hwire, hkind]
  simp only
  rw [if_neg hgood, if_neg hclean, hbytes, hcount, hlength, hzero, hcrc, hdrop,
    if_neg (by rw [h, nativePayloadBytes_eq]; simp), if_neg (not_not.mpr rfl)]
  have htime : (packetHeader kind packetSequence monotonicNs nonce payload).monotonicNs =
    monotonicNs := rfl
  rw [htime]
  by_cases h0 : monotonicNs = 0
  · rw [if_pos h0, if_pos (by rw [h0]; rfl)]
  · have hpos : ¬monotonicNs.toNat = 0 := fun hz => h0 (UInt64.toNat_inj.mp hz)
    rw [if_neg h0, if_neg hpos]
    rfl

/-! ## The wire contract -/

/-- **The wire codec is exact in both languages.** A struct that is encoded under a sequence other
than zero is decoded to the same kind, header and struct, and nothing else is accepted. Header and
payloads have the same types at the same offsets in the packed structs and in the struct formats,
and every name of the parent stands for the values of its struct member; so each side reads from
the packets of the other the values that were written. -/
theorem wire_codec_exact :
    (∀ (kind : MessageKind) (packetSequence monotonicNs : UInt64) (nonce : Vec 16 UInt8)
      (record : PayloadRecord kind), packetSequence ≠ 0 →
      ∃ bytes packet, encodePayload kind packetSequence monotonicNs nonce record = .ok bytes ∧
        decodePacket bytes packetSequence nonce = .ok packet ∧
        packet.header.magic = protocolMagic ∧ packet.header.version = protocolVersion ∧
        packet.header.kind = kind.wire ∧
        packet.header.payloadBytes.toNat = (payloadLayout kind).size ∧
        packet.header.flags = 0 ∧ packet.header.packetSequence = packetSequence ∧
        packet.header.monotonicNs = monotonicNs ∧ packet.header.sessionNonce = nonce ∧
        packet.header.reserved = 0 ∧ packet.payload = record.bytes ∧
        copyPayload kind packet = .ok record) ∧
    (∀ (bytes : Bytes) (packetSequence : UInt64) (nonce : Vec 16 UInt8),
      (∃ packet, decodePacket bytes packetSequence nonce = .ok packet) ↔
        ∃ kind monotonicNs, ∃ record : PayloadRecord kind,
          encodePayload kind packetSequence monotonicNs nonce record = .ok bytes) ∧
    ((structLayout headerFormat).placed 0 = (Layout.ofFields packetHeaderFields).placed 0 ∧
      ∀ kind, (structPayloadLayout kind).placed 0 =
          (Layout.ofFields (payloadFields kind)).placed 0 ∧
        ((tupleFields kind).map fun f => { f with name := memberName kind f.name }) =
          indexed 0 (payloadFields kind)) ∧
    (∀ (kind : MessageKind) (packetSequence monotonicNs : UInt64) (nonce : Vec 16 UInt8)
      (record : PayloadRecord kind) (bytes : Bytes),
      encodePayload kind packetSequence monotonicNs nonce record = .ok bytes →
      decodeBytes bytes = (if monotonicNs = 0 then
        .error (sessionError "native packet monotonic_ns must be positive")
        else .ok (kind, parentHeader packetSequence monotonicNs nonce, record.bytes)) ∧
      unpackPayload kind record.bytes = .ok record.values) ∧
    (∀ (kind : MessageKind) (packetSequence monotonicNs : UInt64) (nonce : Vec 16 UInt8)
      (record : PayloadRecord kind), packetSequence ≠ 0 →
      ∃ payload bytes packet, packPayload kind record.values = .ok payload ∧
        encodeBytes kind (parentHeader packetSequence monotonicNs nonce) payload = .ok bytes ∧
        decodePacket bytes packetSequence nonce = .ok packet ∧
        packet.header.kind = kind.wire ∧ packet.header.monotonicNs = monotonicNs ∧
        copyPayload kind packet = .ok record) := by
  have hdecode : ∀ (kind : MessageKind) (packetSequence monotonicNs : UInt64)
      (nonce : Vec 16 UInt8) (record : PayloadRecord kind), packetSequence ≠ 0 →
      decodePacket (packetBytes kind packetSequence monotonicNs nonce record.bytes)
        packetSequence nonce =
        .ok ⟨packetHeader kind packetSequence monotonicNs nonce record.bytes, record.bytes⟩ := by
    intro kind packetSequence monotonicNs nonce record hseq
    exact decodePacket_eq_ok_iff.mpr
      ⟨hseq, kind, monotonicNs, record.bytes, record.length_bytes, rfl, rfl⟩
  refine ⟨?_, ?_, ⟨?_, ?_⟩, ?_, ?_⟩
  · intro kind packetSequence monotonicNs nonce record hseq
    have hcount : (UInt32.ofNat record.bytes.length).toNat = (payloadLayout kind).size := by
      have hmax := packet_le_maximum kind
      have hbuffer : maximumPacketBytes < UInt32.size := by decide
      rw [record.length_bytes, UInt32.toNat_ofNat_of_lt' (by omega)]
    exact ⟨_, _, encodePayload_eq_ok_iff.mpr ⟨hseq, rfl⟩,
      hdecode kind packetSequence monotonicNs nonce record hseq, rfl, rfl, rfl, hcount, rfl, rfl,
      rfl, rfl, rfl, rfl, copyPayload_bytes _ record⟩
  · intro bytes packetSequence nonce
    exact decodePacket_accepts_iff
  · rw [structLayout_headerFormat]
    rfl
  · intro kind
    rw [structPayloadLayout_eq]
    exact ⟨rfl, tupleFields_eq_indexed kind⟩
  · intro kind packetSequence monotonicNs nonce record bytes h
    obtain ⟨-, rfl⟩ := encodePayload_eq_ok_iff.mp h
    exact ⟨decodeBytes_packetBytes record.length_bytes, unpackPayload_bytes record⟩
  · intro kind packetSequence monotonicNs nonce record hseq
    exact ⟨record.bytes, _, _, packPayload_values record, encodeBytes_eq record.length_bytes,
      hdecode kind packetSequence monotonicNs nonce record hseq, rfl, rfl,
      copyPayload_bytes _ record⟩

theorem heartbeat_wire_exact :
    (Layout.Fits (payloadLayout .heartbeat) [.unsigned 5] ∧ (1 : UInt64) ≠ 0) ∧
      ∃ payload bytes packet, packPayload .heartbeat [.unsigned 5] = .ok payload ∧
        encodeBytes .heartbeat (parentHeader 1 7 fun _ => 9) payload = .ok bytes ∧
        decodePacket bytes 1 (fun _ => 9) = .ok packet ∧
        packet.header.kind = MessageKind.heartbeat.wire ∧ packet.header.monotonicNs = 7 ∧
        copyPayload .heartbeat packet = .ok ⟨[.unsigned 5], by decide⟩ :=
  ⟨by decide, wire_codec_exact.2.2.2.2 .heartbeat 1 7 (fun _ => 9) ⟨[.unsigned 5], by decide⟩
    (by decide)⟩

end FrankaDeploy.NativeSession
