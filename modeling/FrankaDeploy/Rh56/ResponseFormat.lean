import FrankaDeploy.Rh56.Wire
import Mathlib.Algebra.BigOperators.Group.List.Basic

/-! # The format of the hand's responses

`parse_response` accepts one byte string for each hand, command, address and data, the canonical
frame, so that no frame with one byte changed is accepted in its place. -/

namespace FrankaDeploy.Rh56

open FrankaDeploy.Foundation

/-! ## The parser for any integers -/

/-- **`parse_response`** with the integers of its arguments. -/
def parseResponseOf (frame : Bytes) (handId command address expectedDataLength : ℤ) :
    Except PyException Bytes :=
  let wireLength := (byteAt frame 3).toNat
  let data := (frame.drop 7).dropLast
  if frame.length < 8 ∨ frame.take 2 ≠ responseHeader then
    .error (rh56Error s!"invalid response header: {hexBytes frame}")
  else if frame.length ≠ wireLength + 5 then
    .error (rh56Error s!"invalid response length: field={wireLength}, bytes={frame.length}")
  else if checksum frame.dropLast ≠ byteAt frame (frame.length - 1) then
    .error (rh56Error s!"bad response checksum: {hexBytes frame}")
  else if ((byteAt frame 2).toNat : ℤ) ≠ handId then
    .error (rh56Error s!"response ID {(byteAt frame 2).toNat} does not match requested ID {handId}")
  else if ((byteAt frame 4).toNat : ℤ) ≠ command then
    .error (rh56Error s!"unexpected response command 0x{hexByte (byteAt frame 4)}")
  else if (addressOf frame : ℤ) ≠ address then
    .error (rh56Error s!"response address {addressOf frame} does not match {address}")
  else if (data.length : ℤ) ≠ expectedDataLength then
    .error (rh56Error s!"expected {expectedDataLength} data bytes, received {data.length}")
  else .ok data

theorem parseResponseOf_natCast (frame : Bytes) (handId command : UInt8)
    (address expectedDataLength : ℕ) (data : Bytes) :
    parseResponseOf frame handId.toNat command.toNat address expectedDataLength = .ok data ↔
      parseResponse frame handId command address expectedDataLength = .ok data := by
  unfold parseResponseOf parseResponse
  simp only [ite_error_eq_ok, ne_eq, not_not, Nat.cast_inj, UInt8.toNat_inj]

/-! ## Canonical frames -/

/-- **The canonical response frame**: header, hand, length, command, address low byte first, data
and checksum. -/
def canonicalResponse (handId command : UInt8) (address : ℕ) (data : Bytes) : Bytes :=
  withChecksum (responseHeader ++ [handId, UInt8.ofNat (data.length + 3), command] ++
    leBytes 2 address ++ data)

/-- **A frame is the canonical one** for a hand, a command, an address and data. -/
structure IsCanonical (frame : Bytes) (handId command address : ℤ) (data : Bytes) : Prop where
  length_le : data.length ≤ 252
  address_within : 0 ≤ address ∧ address < 65536
  frame : ∃ hand order : UInt8, (hand.toNat : ℤ) = handId ∧ (order.toNat : ℤ) = command ∧
    frame = canonicalResponse hand order address.toNat data

variable {handId command : UInt8} {address : ℕ} {data : Bytes}

theorem canonicalResponse_eq (handId command : UInt8) (address : ℕ) (data : Bytes) :
    canonicalResponse handId command address data =
      [0x90, 0xEB, handId, UInt8.ofNat (data.length + 3), command, UInt8.ofNat (address % 256),
        UInt8.ofNat (address / 256 % 256)] ++ data ++
        [checksum ([0x90, 0xEB, handId, UInt8.ofNat (data.length + 3), command,
          UInt8.ofNat (address % 256), UInt8.ofNat (address / 256 % 256)] ++ data)] := rfl

theorem data_canonicalResponse :
    ((canonicalResponse handId command address data).drop 7).dropLast = data := by
  rw [canonicalResponse_eq]
  exact List.dropLast_concat

theorem byteAt_last (frame : Bytes) (last : UInt8) :
    byteAt (frame ++ [last]) ((frame ++ [last]).length - 1) = last := by
  have hlast : (frame ++ [last]).length - 1 = frame.length := by
    rw [List.length_append, List.length_singleton]
    omega
  rw [hlast, byteAt, List.getD_eq_getElem?_getD, List.getElem?_concat_length]
  rfl

theorem checksum_canonicalResponse :
    checksum (canonicalResponse handId command address data).dropLast =
      byteAt (canonicalResponse handId command address data)
        ((canonicalResponse handId command address data).length - 1) := by
  rw [canonicalResponse, withChecksum, List.dropLast_concat, byteAt_last]

theorem parseResponse_canonicalResponse (hdata : data.length ≤ 252) (haddress : address < 65536) :
    parseResponse (canonicalResponse handId command address data) handId command address
      data.length = .ok data := by
  let r : Response := ⟨0, ⟨handId, command, address⟩, data, hdata, haddress⟩
  have hframe : canonicalResponse handId command address data = r.frame := rfl
  have hlength : r.frame.length = data.length + 8 := r.length_frame
  have hwire : (byteAt r.frame 3).toNat = data.length + 3 := r.wireLength_frame
  have hheader : r.frame.take 2 = responseHeader := by
    rw [r.frame_eq]
    rfl
  unfold parseResponse
  dsimp only
  rw [data_canonicalResponse, checksum_canonicalResponse, hframe, if_neg (by simp [hheader, hlength]),
    if_neg (by omega), if_neg (by simp), if_neg (by rw [r.handId_frame]; simp [r]),
    if_neg (by rw [r.command_frame]; simp [r]), if_neg (by rw [r.addressOf_frame]; simp [r]),
    if_neg (by simp)]

theorem frame_parts {frame : Bytes} (h : 8 ≤ frame.length) :
    ∃ b0 b1 b2 b3 b4 b5 b6 last, ∃ data : Bytes,
      frame = [b0, b1, b2, b3, b4, b5, b6] ++ data ++ [last] := by
  match frame, h with
  | b0 :: b1 :: b2 :: b3 :: b4 :: b5 :: b6 :: b7 :: rest, _ =>
    refine ⟨b0, b1, b2, b3, b4, b5, b6, (b7 :: rest).getLast (List.cons_ne_nil b7 rest),
      (b7 :: rest).dropLast, ?_⟩
    rw [List.append_assoc, List.dropLast_append_getLast (List.cons_ne_nil b7 rest)]
    rfl

theorem leBytes_addressOf (b5 b6 : UInt8) : leBytes 2 (b5.toNat ||| b6.toNat <<< 8) = [b5, b6] := by
  have hvalue : b5.toNat ||| b6.toNat <<< 8 = leValue [b5, b6] := by
    have hlt := b5.toNat_lt
    rw [Nat.lor_comm, ← Nat.shiftLeft_add_eq_or_of_lt (b := b5.toNat) (i := 8) (by omega),
      Nat.shiftLeft_eq]
    simp only [leValue]
    omega
  rw [hvalue]
  exact leBytes_leValue [b5, b6]

theorem canonical_of_parseResponse {frame : Bytes} {expectedDataLength : ℕ}
    (h : parseResponse frame handId command address expectedDataLength = .ok data) :
    frame = canonicalResponse handId command address data ∧ data.length = expectedDataLength ∧
      data.length ≤ 252 ∧ address < 65536 := by
  unfold parseResponse at h
  simp only [ite_error_eq_ok, ne_eq, not_not, not_or, Nat.not_lt, Except.ok.injEq] at h
  obtain ⟨⟨hlong, hheader⟩, hlength, hchecksum, hhand, hcommand, haddress, hexpected, hdata⟩ := h
  obtain ⟨b0, b1, b2, b3, b4, b5, b6, last, body, rfl⟩ := frame_parts hlong
  have hbody : body = data := by
    rw [← hdata]
    exact List.dropLast_concat.symm
  subst hbody
  obtain ⟨rfl, rfl⟩ : b0 = 0x90 ∧ b1 = 0xEB := by simpa [responseHeader] using hheader
  obtain rfl : b2 = handId := hhand
  obtain rfl : b4 = command := hcommand
  have hwire : b3.toNat = body.length + 3 := by
    have hcount : body.length + 8 = b3.toNat + 5 := by
      simpa [byteAt] using hlength
    omega
  have hlt := b3.toNat_lt
  have hb3 : UInt8.ofNat (body.length + 3) = b3 := by rw [← hwire, UInt8.ofNat_toNat]
  have hbytes : leBytes 2 address = [b5, b6] := by
    rw [← haddress]
    exact leBytes_addressOf b5 b6
  rw [List.dropLast_concat, byteAt_last] at hchecksum
  refine ⟨?_, ?_, by omega, ?_⟩
  · rw [canonicalResponse, withChecksum, hb3, hbytes, ← hchecksum]
    rfl
  · rw [← hexpected, hdata]
  · rw [← haddress]
    have hlow := b5.toNat_lt
    have hhigh := b6.toNat_lt
    show b5.toNat ||| b6.toNat <<< 8 < 65536
    rw [Nat.lor_comm, ← Nat.shiftLeft_add_eq_or_of_lt (b := b5.toNat) (i := 8) (by omega),
      Nat.shiftLeft_eq]
    omega

theorem parseResponseOf_eq_ok_iff (frame : Bytes)
    (handId command address expectedDataLength : ℤ) (data : Bytes) :
    parseResponseOf frame handId command address expectedDataLength = .ok data ↔
      IsCanonical frame handId command address data ∧ (data.length : ℤ) = expectedDataLength := by
  constructor
  · intro h
    -- the frame's own bytes are the hand and the command, and its address the address
    have hfields : ((byteAt frame 2).toNat : ℤ) = handId ∧ ((byteAt frame 4).toNat : ℤ) = command ∧
        (addressOf frame : ℤ) = address ∧ (data.length : ℤ) = expectedDataLength := by
      unfold parseResponseOf at h
      simp only [ite_error_eq_ok, ne_eq, not_not, Except.ok.injEq] at h
      obtain ⟨-, -, -, hhand, hcommand, haddress, hexpected, hdata⟩ := h
      exact ⟨hhand, hcommand, haddress, by rw [← hexpected, hdata]⟩
    obtain ⟨rfl, rfl, rfl, rfl⟩ := hfields
    obtain ⟨hframe, -, hdata, haddress⟩ :=
      canonical_of_parseResponse ((parseResponseOf_natCast ..).mp h)
    exact ⟨⟨hdata, ⟨by omega, by omega⟩, _, _, rfl, rfl, hframe⟩, rfl⟩
  · rintro ⟨⟨hdata, ⟨hnonneg, haddress⟩, hand, order, rfl, rfl, rfl⟩, rfl⟩
    obtain ⟨k, rfl⟩ := Int.eq_ofNat_of_zero_le hnonneg
    refine (parseResponseOf_natCast ..).mpr ?_
    exact parseResponse_canonicalResponse hdata (by omega)

/-! ## One byte changed -/

def byteSum (bytes : Bytes) : ℕ := (bytes.map UInt8.toNat).sum

theorem byteSum_set (bytes : Bytes) (b : UInt8) (i : ℕ) (h : i < bytes.length) :
    byteSum (bytes.set i b) + bytes[i].toNat = byteSum bytes + b.toNat := by
  induction bytes generalizing i with
  | nil => cases h
  | cons x bytes ih =>
    cases i with
    | zero =>
      simp only [byteSum, List.set_cons_zero, List.map_cons, List.sum_cons,
        List.getElem_cons_zero]
      omega
    | succ i =>
      have hrest := ih i (Nat.lt_of_succ_lt_succ h)
      simp only [byteSum, List.set_cons_succ, List.map_cons, List.sum_cons,
        List.getElem_cons_succ] at hrest ⊢
      omega

theorem checksum_append {head body : Bytes} (h : 2 ≤ head.length) :
    checksum (head ++ body) = UInt8.ofNat ((byteSum (head.drop 2) + byteSum body) % 256) := by
  rw [checksum, List.drop_append_of_le_length h, List.map_append, List.sum_append]
  rfl

/-- **One byte changed in the data** changes the checksum. -/
theorem checksum_set_ne {head body : Bytes} (h : 2 ≤ head.length) {i : ℕ} (hi : i < body.length)
    {b : UInt8} (hb : b ≠ body[i]) : checksum (head ++ body.set i b) ≠ checksum (head ++ body) := by
  rw [checksum_append h, checksum_append h]
  intro heq
  have hmod := congrArg UInt8.toNat heq
  rw [UInt8.toNat_ofNat', UInt8.toNat_ofNat'] at hmod
  have hsum := byteSum_set body b i hi
  have hold := body[i].toNat_lt
  have hnew := b.toNat_lt
  have hne : b.toNat ≠ body[i].toNat := fun hsame => hb (UInt8.toNat_inj.mp hsame)
  omega

/-- **Frames that differ in one byte** are not both canonical with data of one length: a byte before
the data is fixed, a byte of the data changes the checksum, and the data fix the checksum. -/
theorem canonicalResponse_set_ne {data' : Bytes} (hsame : data'.length = data.length) {i : ℕ}
    {b : UInt8} (hi : i < (canonicalResponse handId command address data).length)
    (hb : b ≠ (canonicalResponse handId command address data)[i]) :
    (canonicalResponse handId command address data).set i b ≠
      canonicalResponse handId command address data' := by
  intro heq
  have hchanged : (canonicalResponse handId command address data')[i]? = some b := by
    rw [← heq, List.getElem?_set_self hi]
  have hb' : (canonicalResponse handId command address data)[i]? ≠ some b := by
    rw [List.getElem?_eq_getElem hi]
    intro h
    exact hb (Option.some.inj h).symm
  have hlength := hi
  rw [canonicalResponse_eq] at heq hb' hlength
  rw [canonicalResponse_eq, hsame] at heq hchanged
  generalize hhead : [0x90, 0xEB, handId, UInt8.ofNat (data.length + 3), command,
    UInt8.ofNat (address % 256), UInt8.ofNat (address / 256 % 256)] = head at *
  have hseven : head.length = 7 := by rw [← hhead]; rfl
  rw [List.append_assoc] at heq hb' hchanged
  simp only [List.length_append, hseven, List.length_singleton] at hlength
  by_cases hfixed : i < 7
  · rw [List.getElem?_append_left (by omega)] at hb' hchanged
    exact hb' hchanged
  rw [List.append_assoc, List.set_append_right _ _ (by omega), List.append_cancel_left_eq] at heq
  by_cases hinside : i - head.length < data.length
  · rw [List.set_append_left _ _ hinside] at heq
    obtain ⟨hdata, hsum⟩ := List.append_inj heq (by rw [List.length_set, hsame])
    rw [List.getElem?_append_right (by omega), List.getElem?_append_left hinside,
      List.getElem?_eq_getElem hinside] at hb'
    have hne : checksum (head ++ data.set (i - head.length) b) ≠ checksum (head ++ data) :=
      checksum_set_ne (by omega) hinside fun h => hb' (congrArg some h.symm)
    refine hne ?_
    rw [hdata]
    exact (List.singleton_inj.mp hsum).symm
  · rw [List.set_append_right _ _ (by omega)] at heq
    obtain ⟨hdata, hlast⟩ := List.append_inj heq hsame.symm
    rw [List.getElem?_append_right (by omega), ← hdata] at hchanged
    rw [List.getElem?_append_right (by omega)] at hb'
    exact hb' hchanged

/-- **The parser is exact, and it rejects a frame with one byte changed.** -/
theorem parseResponse_exact (frame : Bytes) (handId command address expectedDataLength : ℤ) :
    (∀ data, parseResponseOf frame handId command address expectedDataLength = .ok data ↔
      IsCanonical frame handId command address data ∧ (data.length : ℤ) = expectedDataLength) ∧
    ∀ data, parseResponseOf frame handId command address expectedDataLength = .ok data →
      ∀ i, (hi : i < frame.length) → ∀ b, b ≠ frame[i] →
        ∃ e, parseResponseOf (frame.set i b) handId command address expectedDataLength =
          .error e := by
  refine ⟨parseResponseOf_eq_ok_iff frame handId command address expectedDataLength, ?_⟩
  intro data h i hi b hb
  cases hchanged : parseResponseOf (frame.set i b) handId command address expectedDataLength with
  | error e => exact ⟨e, rfl⟩
  | ok data' =>
    exfalso
    obtain ⟨⟨-, -, hand, order, hhand, horder, hframe⟩, hlength⟩ :=
      (parseResponseOf_eq_ok_iff ..).mp h
    obtain ⟨⟨-, -, hand', order', hhand', horder', hframe'⟩, hlength'⟩ :=
      (parseResponseOf_eq_ok_iff ..).mp hchanged
    obtain rfl : hand' = hand := UInt8.toNat_inj.mp (by omega)
    obtain rfl : order' = order := UInt8.toNat_inj.mp (by omega)
    subst hframe
    exact canonicalResponse_set_ne (by omega) hi hb hframe'

end FrankaDeploy.Rh56
