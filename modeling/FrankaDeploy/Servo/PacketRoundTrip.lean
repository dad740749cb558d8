import FrankaDeploy.Foundation.Python
import FrankaDeploy.Servo.PacketCodec

/-! # What the child's codec accepts

`encode_packet` and `decode_packet` are inverse to each other, and `decode_packet` accepts nothing
that `encode_packet` does not write. Both facts come from one description of a packet: a header
whose checksum is that of the packet with the checksum cleared, followed by the payload. -/

namespace FrankaDeploy.Servo

open FrankaDeploy.Foundation

namespace PacketHeader

def front (h : PacketHeader) : Bytes := Layout.pack (layout.take 8) (h.toValues.take 8)

@[simp] theorem length_front (h : PacketHeader) : h.front.length = crcOffset := by
  have hfits : Layout.Fits (layout.take 8) (h.toValues.take 8) := List.forall₂_take 8 h.fits_toValues
  rw [front, Layout.length_pack hfits]
  rfl

theorem toBytes_eq_front (h : PacketHeader) :
    h.toBytes = h.front ++ (leBytes 4 h.crc32.toNat ++ leBytes 4 h.reserved.toNat) := by
  have hsplit := @Layout.pack_append (layout.take 8) (h.toValues.take 8) rfl
    (layout.drop 8) (h.toValues.drop 8)
  rw [List.take_append_drop, List.take_append_drop] at hsplit
  rw [toBytes, hsplit, front]
  rfl

def cleared (h : PacketHeader) : PacketHeader := { h with crc32 := 0 }

/-- **Writing a checksum** into a packet changes that member of its header only. -/
theorem overwrite_crc (h : PacketHeader) (crc : UInt32) (payload : Bytes) :
    overwrite crcOffset (leBytes 4 crc.toNat) (h.toBytes ++ payload) =
      ({ h with crc32 := crc } : PacketHeader).toBytes ++ payload := by
  have hfront : ({ h with crc32 := crc } : PacketHeader).front = h.front := rfl
  have hlen : (leBytes 4 h.crc32.toNat).length = (leBytes 4 crc.toNat).length := by simp
  rw [toBytes_eq_front, toBytes_eq_front, hfront, ← h.length_front, List.append_assoc,
    List.append_assoc, overwrite_append hlen, List.append_assoc, List.append_assoc]

theorem overwrite_zero (h : PacketHeader) (payload : Bytes) :
    overwrite crcOffset (List.replicate 4 0) (h.toBytes ++ payload) =
      h.cleared.toBytes ++ payload :=
  overwrite_crc h 0 payload

end PacketHeader

/-! ## Packets -/

def packetCrc (h : PacketHeader) (payload : Bytes) : UInt32 :=
  .ofBitVec (protocolCrc32 (h.cleared.toBytes ++ payload))

/-- **The header of a packet** of the protocol. -/
def packetHeader (kind : MessageKind) (packetSequence monotonicNs : UInt64)
    (nonce : Vec 16 UInt8) (payload : Bytes) : PacketHeader :=
  let header := encodedHeader kind.wire packetSequence monotonicNs nonce payload 0
  { header with crc32 := packetCrc header payload }

/-- **The bytes of a packet** of the protocol. -/
def packetBytes (kind : MessageKind) (packetSequence monotonicNs : UInt64)
    (nonce : Vec 16 UInt8) (payload : Bytes) : Bytes :=
  (packetHeader kind packetSequence monotonicNs nonce payload).toBytes ++ payload

variable {kind : MessageKind} {packetSequence monotonicNs : UInt64} {nonce : Vec 16 UInt8}
  {payload : Bytes}

theorem length_packetBytes :
    (packetBytes kind packetSequence monotonicNs nonce payload).length =
      PacketHeader.size + payload.length := by
  rw [packetBytes, List.length_append, PacketHeader.length_toBytes]

/-- **What is written**: the packet of the payload, when the sequence is not zero and the payload
has the size of its struct. -/
theorem encodePacket_eq_ok_iff {bytes : Bytes} :
    encodePacket kind.wire packetSequence monotonicNs nonce payload = .ok bytes ↔
      packetSequence ≠ 0 ∧ payload.length = (payloadLayout kind).size ∧
        bytes = packetBytes kind packetSequence monotonicNs nonce payload := by
  have hknown : messageKindIsKnown kind.wire = true :=
    (messageKindIsKnown_iff _).mpr ⟨kind, rfl⟩
  have hhost : hostIsLittleEndian = true := rfl
  have hmax := packet_le_maximum kind
  simp only [encodePacket, hhost, hknown, Bool.not_true, Bool.false_eq_true, if_false,
    expectedPayloadSize_wire]
  by_cases hbad : packetSequence = 0 ∨ payload.length ≠ (payloadLayout kind).size
  · rw [if_pos hbad]
    constructor
    · intro h
      cases h
    · rintro ⟨hseq, hlen, -⟩
      exact (hbad.elim hseq fun h => h hlen).elim
  · rw [not_or, not_not] at hbad
    obtain ⟨hseq, hlen⟩ := hbad
    have hcrc : (protocolCrc32 ((encodedHeader kind.wire packetSequence monotonicNs nonce payload
        0).toBytes ++ payload)).toNat = (packetCrc (encodedHeader kind.wire packetSequence
        monotonicNs nonce payload 0) payload).toNat := rfl
    rw [if_neg (by tauto), if_neg (by omega), hcrc, PacketHeader.overwrite_crc]
    exact ⟨fun h => ⟨hseq, hlen, (Except.ok.inj h).symm⟩, fun h => congrArg Except.ok h.2.2.symm⟩

/-- **What is accepted**: exactly the packets of payloads of their struct's size, under the
expected sequence and nonce, and what is returned is their header and payload. -/
theorem decodePacket_eq_ok_iff {bytes : Bytes} {out : DecodedPacket} :
    decodePacket bytes packetSequence nonce = .ok out ↔
      packetSequence ≠ 0 ∧ ∃ kind monotonicNs payload,
        payload.length = (payloadLayout kind).size ∧
        bytes = packetBytes kind packetSequence monotonicNs nonce payload ∧
        out = ⟨packetHeader kind packetSequence monotonicNs nonce payload, payload⟩ := by
  simp only [decodePacket, ite_error_eq_ok]
  constructor
  · rintro ⟨-, htrunc, hmagic, hversion, hkind, hflags, hreserved, hsize, hexact, hseq, hnonce,
      -, hcrc, hout⟩
    rw [not_lt] at htrunc
    rw [not_not] at hmagic hversion hflags hreserved hsize hexact hcrc
    rw [not_or, not_not] at hseq
    rw [Bool.not_eq_true', Bool.not_eq_false] at hkind hnonce
    obtain ⟨kind, hkind⟩ := (messageKindIsKnown_iff _).mp hkind
    rw [hkind, expectedPayloadSize_wire] at hsize
    generalize hheader : PacketHeader.ofBytes bytes = header at *
    generalize hpayload : bytes.drop PacketHeader.size = payload at *
    have hbytes : bytes = header.toBytes ++ payload := by
      rw [← hheader, ← hpayload, PacketHeader.toBytes_ofBytes htrunc, List.take_append_drop]
    have hlen : payload.length = (payloadLayout kind).size := by
      rw [← hpayload, List.length_drop]
      omega
    have hcount : header.payloadBytes = .ofNat payload.length := by
      rw [hlen, ← hsize, UInt32.ofNat_toNat]
    rw [hbytes, PacketHeader.overwrite_zero] at hcrc
    have hform : header =
        packetHeader kind packetSequence header.monotonicNs nonce payload := by
      have hcleared : header.cleared =
          encodedHeader kind.wire packetSequence header.monotonicNs nonce payload 0 :=
        PacketHeader.ext hmagic hversion hkind hcount hflags hseq.1 rfl
          ((nonceEqual_iff _ _).mp hnonce) rfl hreserved
      have hsum : header.crc32 = packetCrc header payload :=
        UInt32.toNat_inj.mp hcrc.symm
      show header = { encodedHeader kind.wire packetSequence header.monotonicNs nonce payload 0 with
        crc32 := packetCrc (encodedHeader kind.wire packetSequence header.monotonicNs nonce payload 0)
          payload }
      rw [← hcleared, show packetCrc header.cleared payload = packetCrc header payload from rfl,
        ← hsum]
      rfl
    refine ⟨hseq.2, kind, header.monotonicNs, payload, hlen, ?_, ?_⟩
    · rw [packetBytes, ← hform, hbytes]
    · rw [← hform]
      exact (Except.ok.inj hout).symm
  · rintro ⟨hseq, kind, monotonicNs, payload, hlen, rfl, rfl⟩
    have hmax := packet_le_maximum kind
    have hcount : (UInt32.ofNat payload.length).toNat = (payloadLayout kind).size := by
      have hbuffer : maximumPacketBytes < UInt32.size := by decide
      rw [UInt32.toNat_ofNat_of_lt' (by omega), hlen]
    have hknown : messageKindIsKnown kind.wire = true :=
      (messageKindIsKnown_iff _).mpr ⟨kind, rfl⟩
    have hheader : PacketHeader.ofBytes (packetBytes kind packetSequence monotonicNs nonce payload)
        = packetHeader kind packetSequence monotonicNs nonce payload :=
      PacketHeader.ofBytes_toBytes _ _
    have hzero : overwrite crcOffset (List.replicate 4 0)
        (packetBytes kind packetSequence monotonicNs nonce payload) =
        (packetHeader kind packetSequence monotonicNs nonce payload).cleared.toBytes ++ payload :=
      PacketHeader.overwrite_zero _ _
    have hdrop : (packetBytes kind packetSequence monotonicNs nonce payload).drop
        PacketHeader.size = payload :=
      List.drop_left' (PacketHeader.length_toBytes _)
    rw [hheader, hzero, hdrop, length_packetBytes]
    refine ⟨by decide, by omega, fun h => h rfl, fun h => h rfl, ?_, fun h => h rfl,
      fun h => h rfl, ?_, ?_, ?_, ?_, ?_, fun h => h rfl, rfl⟩
    · show ¬(!messageKindIsKnown kind.wire) = true
      rw [hknown]
      decide
    · show ¬(UInt32.ofNat payload.length).toNat ≠ expectedPayloadSize kind.wire
      rw [hcount, expectedPayloadSize_wire]
      exact fun h => h rfl
    · show ¬PacketHeader.size + payload.length ≠
        PacketHeader.size + (UInt32.ofNat payload.length).toNat
      rw [hcount, hlen]
      exact fun h => h rfl
    · rintro (h | h)
      · exact h rfl
      · exact hseq h
    · have hnonce : nonceEqual nonce nonce = true := (nonceEqual_iff _ _).mpr rfl
      show ¬(!nonceEqual nonce nonce) = true
      rw [hnonce]
      decide
    · omega

/-! ## Structs in packets -/

/-- **A value of the struct that a kind carries**: its scalar values in declaration order. -/
@[ext] structure PayloadRecord (kind : MessageKind) where
  values : List WireValue
  fits : (payloadLayout kind).Fits values

namespace PayloadRecord

def bytes (record : PayloadRecord kind) : Bytes := (payloadLayout kind).pack record.values

@[simp] theorem length_bytes (record : PayloadRecord kind) :
    record.bytes.length = (payloadLayout kind).size :=
  Layout.length_pack record.fits

def ofBytes (b : Bytes) (h : b.length = (payloadLayout kind).size) : PayloadRecord kind :=
  ⟨(payloadLayout kind).unpack b, Layout.fits_unpack h.ge⟩

theorem bytes_ofBytes (b : Bytes) (h : b.length = (payloadLayout kind).size) :
    (ofBytes b h).bytes = b :=
  Layout.pack_unpack_self h

theorem unpack_bytes (record : PayloadRecord kind) :
    (payloadLayout kind).unpack record.bytes = record.values := by
  have h := Layout.unpack_pack record.fits []
  rw [List.append_nil] at h
  exact h

end PayloadRecord

def encodePayload (kind : MessageKind) (packetSequence monotonicNs : UInt64)
    (nonce : Vec 16 UInt8) (record : PayloadRecord kind) : Except CodecError Bytes :=
  encodePacket kind.wire packetSequence monotonicNs nonce record.bytes

def copyPayload (kind : MessageKind) (packet : DecodedPacket) :
    Except CodecError (PayloadRecord kind) :=
  if h : packet.payload.length = (payloadLayout kind).size then .ok (.ofBytes packet.payload h)
  else .error .payloadSize

theorem copyPayload_bytes (header : PacketHeader) (record : PayloadRecord kind) :
    copyPayload kind ⟨header, record.bytes⟩ = .ok record := by
  rw [copyPayload, dif_pos record.length_bytes]
  exact congrArg Except.ok (PayloadRecord.ext record.unpack_bytes)

theorem encodePayload_eq_ok_iff {record : PayloadRecord kind} {bytes : Bytes} :
    encodePayload kind packetSequence monotonicNs nonce record = .ok bytes ↔
      packetSequence ≠ 0 ∧
        bytes = packetBytes kind packetSequence monotonicNs nonce record.bytes := by
  rw [encodePayload, encodePacket_eq_ok_iff]
  simp

theorem decodePacket_accepts_iff {bytes : Bytes} :
    (∃ packet, decodePacket bytes packetSequence nonce = .ok packet) ↔
      ∃ kind monotonicNs, ∃ record : PayloadRecord kind,
        encodePayload kind packetSequence monotonicNs nonce record = .ok bytes := by
  constructor
  · rintro ⟨packet, h⟩
    obtain ⟨hseq, kind, monotonicNs, payload, hlen, hbytes, -⟩ := decodePacket_eq_ok_iff.mp h
    refine ⟨kind, monotonicNs, .ofBytes payload hlen, encodePayload_eq_ok_iff.mpr ⟨hseq, ?_⟩⟩
    rw [PayloadRecord.bytes_ofBytes, hbytes]
  · rintro ⟨kind, monotonicNs, record, h⟩
    obtain ⟨hseq, hbytes⟩ := encodePayload_eq_ok_iff.mp h
    exact ⟨_, decodePacket_eq_ok_iff.mpr
      ⟨hseq, kind, monotonicNs, record.bytes, record.length_bytes, hbytes, rfl⟩⟩

end FrankaDeploy.Servo
