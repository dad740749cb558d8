import FrankaDeploy.Servo.PacketRoundTrip
import Mathlib.Tactic.IntervalCases

/-! # Single bits flipped in a packet

`decode_packet` recomputes the checksum of a packet with the checksum's own bytes cleared. What the
parts of an accepted byte string have to meet is stated on its bytes (`Checked`): a byte replaced
inside the checksum changes what it is compared with, any other one changes what is computed. -/

namespace FrankaDeploy.Servo

open FrankaDeploy.Foundation

/-- **A byte string with one bit flipped**, the lowest bit of the first byte being the first. -/
def flipBit (i : ℕ) (bytes : Bytes) : Bytes :=
  bytes.set (i / 8) (bytes.getD (i / 8) 0 ^^^ (1 <<< UInt8.ofNat (i % 8)))

theorem flipped_ne (byte : UInt8) (i : ℕ) : byte ^^^ (1 <<< UInt8.ofNat (i % 8)) ≠ byte := by
  intro h
  have hmask : (1 : UInt8) <<< UInt8.ofNat (i % 8) = 0 := by
    refine (UInt8.xor_right_inj byte).mp ?_
    rw [h, UInt8.xor_zero]
  have hbound : i % 8 < 8 := Nat.mod_lt _ (by decide)
  interval_cases i % 8 <;> exact absurd hmask (by decide)

/-- **The checksum of a byte string holds**: the string is a front, the checksum and the rest, and
the checksum is that of the string with the checksum cleared. -/
def Checked (bytes : Bytes) : Prop :=
  ∃ front sum back, bytes = front ++ (sum ++ back) ∧ front.length = crcOffset ∧ sum.length = 4 ∧
    (crc32 (front ++ (List.replicate 4 0 ++ back))).toNat = leValue sum

theorem toBytes_cleared (h : PacketHeader) :
    h.cleared.toBytes = h.front ++ (List.replicate 4 0 ++ leBytes 4 h.reserved.toNat) := by
  have hfront : h.cleared.front = h.front := rfl
  have hzero : leBytes 4 h.cleared.crc32.toNat = List.replicate 4 0 := by
    show leBytes 4 (0 : UInt32).toNat = _
    decide
  rw [PacketHeader.toBytes_eq_front, hfront, hzero]
  rfl

theorem checked_of_decodePacket {bytes : Bytes} {packetSequence : UInt64} {nonce : Vec 16 UInt8}
    {out : DecodedPacket} (h : decodePacket bytes packetSequence nonce = .ok out) :
    Checked bytes := by
  obtain ⟨-, kind, monotonicNs, payload, -, hbytes, -⟩ := decodePacket_eq_ok_iff.mp h
  set header := packetHeader kind packetSequence monotonicNs nonce payload with hheader
  refine ⟨header.front, leBytes 4 header.crc32.toNat, leBytes 4 header.reserved.toNat ++ payload,
    ?_, header.length_front, length_leBytes _ _, ?_⟩
  · rw [hbytes, packetBytes, ← hheader, header.toBytes_eq_front]
    simp only [List.append_assoc]
  · rw [leValue_leBytes_of_lt header.crc32.toNat_lt, ← protocolCrc32_eq_crc32]
    have hcleared : header.cleared.toBytes ++ payload =
        header.front ++ (List.replicate 4 0 ++ (leBytes 4 header.reserved.toNat ++ payload)) := by
      rw [toBytes_cleared]
      simp only [List.append_assoc]
    rw [← hcleared]
    rfl

/-- **A byte replaced** in a checked byte string leaves one that is not. -/
theorem Checked.not_set {bytes : Bytes} (h : Checked bytes) {n : ℕ} {byte : UInt8}
    (hn : n < bytes.length) (hbyte : byte ≠ bytes.getD n 0) : ¬Checked (bytes.set n byte) := by
  obtain ⟨front, sum, back, rfl, hfront, hsum, hcrc⟩ := h
  rintro ⟨front', sum', back', hset, hfront', hsum', hcrc'⟩
  rw [List.length_append, List.length_append] at hn
  rw [List.set_append] at hset
  split_ifs at hset with hinFront
  · -- in front of the checksum
    obtain ⟨rfl, hrest⟩ := List.append_inj hset (by rw [List.length_set, hfront, hfront'])
    obtain ⟨rfl, rfl⟩ := List.append_inj hrest (by rw [hsum, hsum'])
    rw [List.getD_append _ _ _ _ hinFront] at hbyte
    have hne : crc32 ((front ++ (List.replicate 4 0 ++ back)).set n byte) ≠
        crc32 (front ++ (List.replicate 4 0 ++ back)) :=
      crc32_set_ne (by rw [List.length_append]; omega)
        (by rwa [List.getD_append _ _ _ _ hinFront])
    rw [List.set_append_left _ _ hinFront] at hne
    exact hne (BitVec.eq_of_toNat_eq (hcrc'.trans hcrc.symm))
  · rw [List.getD_append_right _ _ _ _ (by omega)] at hbyte
    rw [List.set_append] at hset
    split_ifs at hset with hinSum
    · -- inside the checksum
      obtain ⟨rfl, hrest⟩ := List.append_inj hset (by rw [hfront, hfront'])
      obtain ⟨rfl, rfl⟩ := List.append_inj hrest (by rw [List.length_set, hsum, hsum'])
      rw [List.getD_append _ _ _ _ hinSum] at hbyte
      have hsame : (sum.set (n - front.length) byte) = sum := by
        rw [← leBytes_leValue (sum.set _ _), ← hcrc', hcrc, List.length_set, leBytes_leValue]
      refine hbyte ?_
      rw [← hsame, List.getD_eq_getElem _ _ (by rw [List.length_set]; exact hinSum),
        List.getElem_set_self]
    · -- behind the checksum
      obtain ⟨rfl, hrest⟩ := List.append_inj hset (by rw [hfront, hfront'])
      obtain ⟨rfl, rfl⟩ := List.append_inj hrest (by rw [hsum, hsum'])
      rw [List.getD_append_right _ _ _ _ (by omega)] at hbyte
      have hzeros : (List.replicate 4 (0 : UInt8)).length = sum.length := by
        rw [hsum, List.length_replicate]
      have hne : crc32 ((front ++ (List.replicate 4 0 ++ back)).set n byte) ≠
          crc32 (front ++ (List.replicate 4 0 ++ back)) := by
        refine crc32_set_ne ?_ ?_
        · rw [List.length_append, List.length_append, hzeros]
          exact hn
        · rwa [List.getD_append_right _ _ _ _ (by omega),
            List.getD_append_right _ _ _ _ (by omega), hzeros]
      rw [List.set_append_right _ _ (by omega), List.set_append_right _ _ (by omega), hzeros] at hne
      exact hne (BitVec.eq_of_toNat_eq (hcrc'.trans hcrc.symm))

/-- **No packet with one byte replaced is accepted**, whatever sequence and nonce are expected. -/
theorem decodePacket_set {bytes : Bytes} (h : Checked bytes) {n : ℕ} {byte : UInt8}
    (hn : n < bytes.length) (hbyte : byte ≠ bytes.getD n 0) (packetSequence : UInt64)
    (nonce : Vec 16 UInt8) :
    ∃ e, decodePacket (bytes.set n byte) packetSequence nonce = .error e := by
  cases hdecoded : decodePacket (bytes.set n byte) packetSequence nonce with
  | error e => exact ⟨e, rfl⟩
  | ok out => exact absurd (checked_of_decodePacket hdecoded) (h.not_set hn hbyte)

/-- **Single-bit corruption is rejected.** Whatever packet is encoded, with any one bit of its bytes
flipped it is not decoded under the sequence and the nonce it was encoded with. -/
theorem flipped_packet_is_rejected {kind : UInt16} {packetSequence monotonicNs : UInt64}
    {nonce : Vec 16 UInt8} {payload bytes : Bytes}
    (h : encodePacket kind packetSequence monotonicNs nonce payload = .ok bytes) {i : ℕ}
    (hi : i < 8 * bytes.length) :
    ∃ e, decodePacket (flipBit i bytes) packetSequence nonce = .error e := by
  have hknown : messageKindIsKnown kind = true := by
    by_contra hunknown
    rw [encodePacket, if_neg (by decide), if_pos (by simpa using hunknown)] at h
    cases h
  obtain ⟨kind, rfl⟩ := (messageKindIsKnown_iff _).mp hknown
  obtain ⟨hseq, hlen, hbytes⟩ := encodePacket_eq_ok_iff.mp h
  -- what was encoded is accepted, so its checksum holds
  have hdecoded : decodePacket bytes packetSequence nonce =
      .ok ⟨packetHeader kind packetSequence monotonicNs nonce payload, payload⟩ :=
    decodePacket_eq_ok_iff.mpr ⟨hseq, kind, monotonicNs, payload, hlen, hbytes, rfl⟩
  exact decodePacket_set (checked_of_decodePacket hdecoded) (by omega) (flipped_ne _ i) _ _

theorem flipped_heartbeat_is_rejected :
    ∃ e, decodePacket (flipBit 260 (packetBytes .heartbeat 1 5 (fun _ => 7)
      [1, 0, 0, 0, 0, 0, 0, 0])) 1 (fun _ => 7) = .error e :=
  flipped_packet_is_rejected
    (encodePacket_eq_ok_iff.mpr ⟨by decide, by decide, rfl⟩) (by rw [length_packetBytes]; decide)

end FrankaDeploy.Servo
