import FrankaDeploy.Servo.WirePacket
import Mathlib.Data.List.GetD

/-! # The child's packet codec

`encode_packet` and `decode_packet` of `protocol.cpp`, on a little-endian host. Null pointers do
not occur; the output buffer is the returned byte string. -/

namespace FrankaDeploy.Servo

open FrankaDeploy.Foundation

/-! ## Header -/

/-- **`PacketHeader`.** -/
@[ext] structure PacketHeader where
  magic : UInt32
  version : UInt16
  kind : UInt16
  payloadBytes : UInt32
  flags : UInt32
  packetSequence : UInt64
  monotonicNs : UInt64
  sessionNonce : Vec 16 UInt8
  crc32 : UInt32
  reserved : UInt32

namespace PacketHeader

def layout : Layout := Layout.ofFields packetHeaderFields

def size : ℕ := layout.size

def toValues (h : PacketHeader) : List WireValue :=
  [.unsigned h.magic.toNat, .unsigned h.version.toNat, .unsigned h.kind.toNat,
    .unsigned h.payloadBytes.toNat, .unsigned h.flags.toNat, .unsigned h.packetSequence.toNat,
    .unsigned h.monotonicNs.toNat, .raw (List.ofFn h.sessionNonce), .unsigned h.crc32.toNat,
    .unsigned h.reserved.toNat]

def ofValues : List WireValue → PacketHeader
  | [.unsigned magic, .unsigned version, .unsigned kind, .unsigned payloadBytes, .unsigned flags,
      .unsigned packetSequence, .unsigned monotonicNs, .raw sessionNonce, .unsigned crc32,
      .unsigned reserved] =>
      { magic := .ofNat magic, version := .ofNat version, kind := .ofNat kind,
        payloadBytes := .ofNat payloadBytes, flags := .ofNat flags,
        packetSequence := .ofNat packetSequence, monotonicNs := .ofNat monotonicNs,
        sessionNonce := fun i => sessionNonce.getD i 0, crc32 := .ofNat crc32,
        reserved := .ofNat reserved }
  | _ => ⟨0, 0, 0, 0, 0, 0, 0, fun _ => 0, 0, 0⟩

def toBytes (h : PacketHeader) : Bytes := layout.pack h.toValues

/-- `memcpy(&header, packet, sizeof(header))`. -/
def ofBytes (b : Bytes) : PacketHeader := ofValues (layout.unpack b)

theorem fits_toValues (h : PacketHeader) : layout.Fits h.toValues := by
  have h16 : ∀ x : UInt16, x.toNat < 256 ^ 2 := fun x => x.toNat_lt
  have h32 : ∀ x : UInt32, x.toNat < 256 ^ 4 := fun x => x.toNat_lt
  have h64 : ∀ x : UInt64, x.toNat < 256 ^ 8 := fun x => x.toNat_lt
  refine .cons (h32 _) (.cons (h16 _) (.cons (h16 _) (.cons (h32 _) (.cons (h32 _)
    (.cons (h64 _) (.cons (h64 _) (.cons ?_ (.cons (h32 _) (.cons (h32 _) .nil)))))))))
  exact List.length_ofFn

theorem ofValues_toValues (h : PacketHeader) : ofValues h.toValues = h := by
  apply PacketHeader.ext <;>
    simp only [toValues, ofValues, UInt16.ofNat_toNat, UInt32.ofNat_toNat, UInt64.ofNat_toNat]
  funext i
  rw [List.getD_eq_getElem _ _ (by rw [List.length_ofFn]; exact i.2), List.getElem_ofFn]

theorem ofBytes_toBytes (h : PacketHeader) (rest : Bytes) : ofBytes (h.toBytes ++ rest) = h := by
  rw [ofBytes, toBytes, Layout.unpack_pack h.fits_toValues, ofValues_toValues]

@[simp] theorem length_toBytes (h : PacketHeader) : h.toBytes.length = size :=
  Layout.length_pack h.fits_toValues

theorem toValues_ofValues {vs : List WireValue} (h : layout.Fits vs) :
    (ofValues vs).toValues = vs := by
  have hlayout : layout = [.unsigned 4, .unsigned 2, .unsigned 2, .unsigned 4, .unsigned 4,
    .unsigned 8, .unsigned 8, .raw 16, .unsigned 4, .unsigned 4] := rfl
  rw [hlayout] at h
  obtain _ | ⟨h₁, _ | ⟨h₂, _ | ⟨h₃, _ | ⟨h₄, _ | ⟨h₅, _ | ⟨h₆, _ | ⟨h₇, _ | ⟨h₈, _ | ⟨h₉,
    _ | ⟨h₁₀, ⟨⟩⟩⟩⟩⟩⟩⟩⟩⟩⟩⟩ := h
  obtain ⟨magic, hmagic, rfl⟩ := WireType.fits_unsigned h₁
  obtain ⟨version, hversion, rfl⟩ := WireType.fits_unsigned h₂
  obtain ⟨kind, hkind, rfl⟩ := WireType.fits_unsigned h₃
  obtain ⟨payloadBytes, hpayloadBytes, rfl⟩ := WireType.fits_unsigned h₄
  obtain ⟨flags, hflags, rfl⟩ := WireType.fits_unsigned h₅
  obtain ⟨packetSequence, hpacketSequence, rfl⟩ := WireType.fits_unsigned h₆
  obtain ⟨monotonicNs, hmonotonicNs, rfl⟩ := WireType.fits_unsigned h₇
  obtain ⟨sessionNonce, hsessionNonce, rfl⟩ := WireType.fits_raw h₈
  obtain ⟨crc32, hcrc32, rfl⟩ := WireType.fits_unsigned h₉
  obtain ⟨reserved, hreserved, rfl⟩ := WireType.fits_unsigned h₁₀
  have hnonce : List.ofFn (fun i : Fin 16 => sessionNonce.getD i 0) = sessionNonce := by
    apply List.ext_getElem
    · rw [List.length_ofFn, hsessionNonce]
    · intro i hi₁ hi₂
      rw [List.getElem_ofFn, List.getD_eq_getElem _ _ hi₂]
  simp only [ofValues, toValues, hnonce, UInt32.toNat_ofNat_of_lt' hmagic,
    UInt16.toNat_ofNat_of_lt' hversion, UInt16.toNat_ofNat_of_lt' hkind,
    UInt32.toNat_ofNat_of_lt' hpayloadBytes, UInt32.toNat_ofNat_of_lt' hflags,
    UInt64.toNat_ofNat_of_lt' hpacketSequence, UInt64.toNat_ofNat_of_lt' hmonotonicNs,
    UInt32.toNat_ofNat_of_lt' hcrc32, UInt32.toNat_ofNat_of_lt' hreserved]

theorem toBytes_ofBytes {b : Bytes} (h : size ≤ b.length) : (ofBytes b).toBytes = b.take size := by
  rw [toBytes, ofBytes, toValues_ofValues (Layout.fits_unpack h), Layout.pack_unpack h]
  rfl

end PacketHeader

/-! ## Errors and kinds -/

/-- **`CodecError`.** -/
inductive CodecError where
  | hostNotLittleEndian
  | invalidKind
  | payloadSize
  | packetTooLarge
  | truncated
  | magic
  | version
  | flags
  | reserved
  | sequence
  | nonce
  | crc
deriving DecidableEq, Repr

def codecErrorName : CodecError → String
  | .hostNotLittleEndian => "host_not_little_endian"
  | .invalidKind => "invalid_kind"
  | .payloadSize => "payload_size"
  | .packetTooLarge => "packet_too_large"
  | .truncated => "truncated"
  | .magic => "magic"
  | .version => "version"
  | .flags => "flags"
  | .reserved => "reserved"
  | .sequence => "sequence"
  | .nonce => "nonce"
  | .crc => "crc"

def protocolMagic : UInt32 := 0x46343956

def protocolVersion : UInt16 := 4

def maximumPacketBytes : ℕ := 1024

/-- `kCrcOffset`: the offset of `crc32` in the header. -/
def crcOffset : ℕ := (Layout.ofFields (packetHeaderFields.takeWhile (·.name ≠ "crc32"))).size

/-- `host_is_little_endian`: the first byte of a one in memory. -/
def hostIsLittleEndian : Bool := (leBytes 2 1).headD 0 = 1

def messageKind? (code : UInt16) : Option MessageKind :=
  [.arm, .heartbeat, .target, .stop, .hello, .ipcReady, .state, .ack, .fault, .stopProof,
    MessageKind.actionReady].find? fun kind => kind.code = code.toNat

def expectedPayloadSize (kind : UInt16) : ℕ :=
  match messageKind? kind with
  | some kind => (payloadLayout kind).size
  | none => 0

def messageKindIsKnown (kind : UInt16) : Bool := expectedPayloadSize kind ≠ 0

def MessageKind.wire (kind : MessageKind) : UInt16 := .ofNat kind.code

@[simp] theorem messageKind?_wire (kind : MessageKind) : messageKind? kind.wire = some kind := by
  cases kind <;> rfl

@[simp] theorem expectedPayloadSize_wire (kind : MessageKind) :
    expectedPayloadSize kind.wire = (payloadLayout kind).size := by
  rw [expectedPayloadSize, messageKind?_wire]

theorem size_payloadLayout_pos (kind : MessageKind) : 0 < (payloadLayout kind).size := by
  cases kind <;> decide

theorem packet_le_maximum (kind : MessageKind) :
    PacketHeader.size + (payloadLayout kind).size ≤ maximumPacketBytes := by
  cases kind <;> decide

theorem messageKindIsKnown_iff (code : UInt16) :
    messageKindIsKnown code = true ↔ ∃ kind : MessageKind, code = kind.wire := by
  constructor
  · intro h
    cases hfound : messageKind? code with
    | none => simp [messageKindIsKnown, expectedPayloadSize, hfound] at h
    | some kind =>
      refine ⟨kind, ?_⟩
      have hcode := List.find?_some hfound
      rw [MessageKind.wire, of_decide_eq_true hcode, UInt16.ofNat_toNat]
  · rintro ⟨kind, rfl⟩
    have hpos := size_payloadLayout_pos kind
    simp only [messageKindIsKnown, expectedPayloadSize_wire, decide_eq_true_eq]
    omega

/-! ## Checksum and nonce -/

/-- One turn of the inner loop of `protocol_crc32`. -/
def protocolCrcBit (crc : BitVec 32) : BitVec 32 :=
  (crc >>> 1) ^^^ (0xEDB88320#32 &&& -(crc &&& 1#32))

/-- **`protocol_crc32`.** -/
def protocolCrc32 (data : Bytes) : BitVec 32 :=
  ~~~ data.foldl
    (fun crc byte => protocolCrcBit^[8] (crc ^^^ byte.toBitVec.setWidth 32)) 0xFFFFFFFF#32

theorem protocolCrcBit_eq_crcShift (crc : BitVec 32) : protocolCrcBit crc = crcShift crc := by
  have hmask : crc &&& 1#32 = if crc.getLsbD 0 then 1#32 else 0#32 := by
    rw [BitVec.and_one_eq_setWidth_ofBool_getLsbD]
    cases crc.getLsbD 0 <;> rfl
  rw [protocolCrcBit, crcShift, hmask]
  cases crc.getLsbD 0 <;> rfl

theorem protocolCrc32_eq_crc32 (data : Bytes) : protocolCrc32 data = crc32 data := by
  have hbit : protocolCrcBit = crcShift := by
    funext crc
    exact protocolCrcBit_eq_crcShift crc
  rw [protocolCrc32, hbit, crc32_eq_bits]
  rfl

/-- `nonce_equal`: the differing bits of all bytes, collected. -/
def nonceEqual (actual expected : Vec 16 UInt8) : Bool :=
  (List.finRange 16).foldl (fun difference i => difference ||| (actual i ^^^ expected i)) 0 = 0

theorem nonceEqual_iff (actual expected : Vec 16 UInt8) :
    nonceEqual actual expected = true ↔ actual = expected := by
  have hor : ∀ x y : UInt8, x ||| y = 0 ↔ x = 0 ∧ y = 0 := by
    intro x y
    exact UInt8.or_eq_zero_iff
  have hfold : ∀ (l : List (Fin 16)) (start : UInt8),
      l.foldl (fun difference i => difference ||| (actual i ^^^ expected i)) start = 0 ↔
        start = 0 ∧ ∀ i ∈ l, actual i = expected i := by
    intro l
    induction l with
    | nil => simp
    | cons i l ih =>
      intro start
      rw [List.foldl_cons, ih, hor, UInt8.xor_eq_zero_iff, List.forall_mem_cons, and_assoc]
  rw [nonceEqual, decide_eq_true_eq, hfold]
  simp [funext_iff]

/-! ## Encoding and decoding -/

/-- The header that `encode_packet` builds, with the checksum of the finished packet. -/
def encodedHeader (kind : UInt16) (packetSequence monotonicNs : UInt64) (nonce : Vec 16 UInt8)
    (payload : Bytes) (crc : UInt32) : PacketHeader :=
  { magic := protocolMagic
    version := protocolVersion
    kind := kind
    payloadBytes := .ofNat payload.length
    flags := 0
    packetSequence := packetSequence
    monotonicNs := monotonicNs
    sessionNonce := nonce
    crc32 := crc
    reserved := 0 }

/-- **`encode_packet`.** -/
def encodePacket (kind : UInt16) (packetSequence monotonicNs : UInt64) (nonce : Vec 16 UInt8)
    (payload : Bytes) : Except CodecError Bytes :=
  if !hostIsLittleEndian then .error .hostNotLittleEndian
  else if !messageKindIsKnown kind then .error .invalidKind
  else if packetSequence = 0 ∨ payload.length ≠ expectedPayloadSize kind then .error .payloadSize
  else if maximumPacketBytes < PacketHeader.size + payload.length then .error .packetTooLarge
  else
    let bytes :=
      (encodedHeader kind packetSequence monotonicNs nonce payload 0).toBytes ++ payload
    .ok (overwrite crcOffset (leBytes 4 (protocolCrc32 bytes).toNat) bytes)

structure DecodedPacket where
  header : PacketHeader
  payload : Bytes

/-- **`decode_packet`.** -/
def decodePacket (packet : Bytes) (expectedPacketSequence : UInt64)
    (expectedNonce : Vec 16 UInt8) : Except CodecError DecodedPacket :=
  let header := PacketHeader.ofBytes packet
  if !hostIsLittleEndian then .error .hostNotLittleEndian
  else if packet.length < PacketHeader.size then .error .truncated
  else if header.magic ≠ protocolMagic then .error .magic
  else if header.version ≠ protocolVersion then .error .version
  else if !messageKindIsKnown header.kind then .error .invalidKind
  else if header.flags ≠ 0 then .error .flags
  else if header.reserved ≠ 0 then .error .reserved
  else if header.payloadBytes.toNat ≠ expectedPayloadSize header.kind then .error .payloadSize
  else if packet.length ≠ PacketHeader.size + header.payloadBytes.toNat then .error .truncated
  else if header.packetSequence ≠ expectedPacketSequence ∨ expectedPacketSequence = 0 then
    .error .sequence
  else if !nonceEqual header.sessionNonce expectedNonce then .error .nonce
  else if maximumPacketBytes < packet.length then .error .packetTooLarge
  else if (protocolCrc32 (overwrite crcOffset (List.replicate 4 0) packet)).toNat ≠
      header.crc32.toNat then .error .crc
  else .ok ⟨header, packet.drop PacketHeader.size⟩

end FrankaDeploy.Servo
