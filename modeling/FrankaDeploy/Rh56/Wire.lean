import FrankaDeploy.Foundation.ByteLayout
import FrankaDeploy.Foundation.Python
import Mathlib.Data.Nat.Bitwise

/-! # The hand's serial frames

Requests and responses of the RH56 serial protocol and the functions that build, parse and
recognise them. A frame is a two-byte header, the hand, the number of bytes from the command to the
data, the command, the register address low byte first, the data and a checksum.

`Response.bytes` is the frame a device answers with; the lemmas after it say what the recognisers
make of such a frame. -/

namespace FrankaDeploy.Rh56

open FrankaDeploy.Foundation

/-! ## Constants -/

def requestHeader : Bytes := [0xEB, 0x90]

def responseHeader : Bytes := [0x90, 0xEB]

def readCommand : UInt8 := 0x11

def writeCommand : UInt8 := 0x12

def rh56Error (message : String) : PyException := ⟨.ordinary, "RH56Error", message⟩

/-! ## Building and parsing -/

def hexDigit (n : ℕ) : Char := "0123456789ABCDEF".toList.getD n '0'

def hexByte (b : UInt8) : String :=
  String.ofList [hexDigit (b.toNat / 16), hexDigit (b.toNat % 16)]

def hexBytes (data : Bytes) : String := " ".intercalate (data.map hexByte)

/-- `checksum`: the low byte of the sum, without the two-byte header. -/
def checksum (frameWithoutChecksum : Bytes) : UInt8 :=
  UInt8.ofNat (((frameWithoutChecksum.drop 2).map UInt8.toNat).sum % 256)

def byteAt (frame : Bytes) (index : ℕ) : UInt8 := frame.getD index 0

def addressOf (frame : Bytes) : ℕ := (byteAt frame 5).toNat ||| ((byteAt frame 6).toNat <<< 8)

def addressBytes (address : ℕ) : Bytes :=
  [UInt8.ofNat (address % 256), UInt8.ofNat (address / 256 % 256)]

def withChecksum (frame : Bytes) : Bytes := frame ++ [checksum frame]

/-- The frame of `build_read_frame` for arguments that it accepts. -/
def buildReadFrame (handId : UInt8) (address : ℕ) (length : UInt8) : Bytes :=
  withChecksum (requestHeader ++ [handId, 0x04, readCommand] ++ addressBytes address ++ [length])

/-- The frame of `build_write_frame` for arguments that it accepts. -/
def buildWriteFrame (handId : UInt8) (address : ℕ) (data : Bytes) : Bytes :=
  withChecksum (requestHeader ++ [handId, UInt8.ofNat (data.length + 3), writeCommand] ++
    addressBytes address ++ data)

def parseResponse (frame : Bytes) (handId command : UInt8) (address expectedDataLength : ℕ) :
    Except PyException Bytes :=
  let wireLength := (byteAt frame 3).toNat
  let data := (frame.drop 7).dropLast
  if frame.length < 8 ∨ frame.take 2 ≠ responseHeader then
    .error (rh56Error s!"invalid response header: {hexBytes frame}")
  else if frame.length ≠ wireLength + 5 then
    .error (rh56Error s!"invalid response length: field={wireLength}, bytes={frame.length}")
  else if checksum frame.dropLast ≠ byteAt frame (frame.length - 1) then
    .error (rh56Error s!"bad response checksum: {hexBytes frame}")
  else if byteAt frame 2 ≠ handId then
    .error (rh56Error (s!"response ID {(byteAt frame 2).toNat} does not match requested ID " ++
      s!"{handId.toNat}"))
  else if byteAt frame 4 ≠ command then
    .error (rh56Error s!"unexpected response command 0x{hexByte (byteAt frame 4)}")
  else if addressOf frame ≠ address then
    .error (rh56Error s!"response address {addressOf frame} does not match {address}")
  else if data.length ≠ expectedDataLength then
    .error (rh56Error s!"expected {expectedDataLength} data bytes, received {data.length}")
  else .ok data

/-! ## Recognising frames -/

structure RequestIdentity where
  handId : UInt8
  command : UInt8
  address : ℕ
deriving DecidableEq, Repr

/-- A key of `_pending_late_write_acks`: a hand and a register. -/
abbrev AckKey := UInt8 × ℕ

def ValidHand (handId : UInt8) : Prop := 1 ≤ handId.toNat ∧ handId.toNat ≤ 254

instance (handId : UInt8) : Decidable (ValidHand handId) := inferInstanceAs (Decidable (_ ∧ _))

def requestIdentity (frame : Bytes) : Option RequestIdentity :=
  let wireLength := (byteAt frame 3).toNat
  let command := byteAt frame 4
  if frame.length < 8 ∨ frame.take 2 ≠ requestHeader ∨ frame.length ≠ wireLength + 5 ∨
      checksum frame.dropLast ≠ byteAt frame (frame.length - 1) then none
  else if ¬ValidHand (byteAt frame 2) then none
  else if command ≠ readCommand ∧ command ≠ writeCommand then none
  else if (command = readCommand ∧ wireLength ≠ 4) ∨ (command = writeCommand ∧ wireLength < 4) then
    none
  else some ⟨byteAt frame 2, command, addressOf frame⟩

/-- `_exact_write_ack_identity`: only a complete successful write acknowledgement has one. -/
def exactWriteAckIdentity (frame : Bytes) : Option AckKey :=
  if frame.length ≠ 9 ∨ frame.take 2 ≠ responseHeader ∨ (byteAt frame 3).toNat ≠ 4 ∨
      checksum frame.dropLast ≠ byteAt frame (frame.length - 1) ∨ ¬ValidHand (byteAt frame 2) ∨
      byteAt frame 4 ≠ writeCommand ∨ byteAt frame 7 ≠ 0x01 then none
  else some (byteAt frame 2, addressOf frame)

def isExactReadResponse (frame : Bytes) (handId : UInt8) (address expectedDataLength : ℕ) : Bool :=
  match parseResponse frame handId readCommand address expectedDataLength with
  | .ok _ => true
  | .error _ => false

/-- **`write_key`** of an exchange: the hand and the register of a write request. -/
def writeKey (request : Bytes) : Option AckKey :=
  match requestIdentity request with
  | some identity =>
    if identity.command = writeCommand then some (identity.handId, identity.address) else none
  | none => none

/-- The conditions under which an exchange takes a response for the answer to its read request. -/
def answersRead (request response : Bytes) : Bool :=
  match requestIdentity request with
  | some identity =>
    decide (identity.command = readCommand) && decide (9 ≤ request.length) &&
      isExactReadResponse response identity.handId identity.address (byteAt request 7).toNat
  | none => false

/-! ## Responses of the device -/

/-- **A byte on its way from the device.** The driver sees its value only; the number of the request
it answers is known to the model. -/
structure WireByte where
  value : UInt8
  request : ℕ
deriving DecidableEq, Repr

def values (bytes : List WireByte) : Bytes := bytes.map WireByte.value

@[simp] theorem values_nil : values [] = [] := rfl

@[simp] theorem values_append (xs ys : List WireByte) : values (xs ++ ys) = values xs ++ values ys :=
  List.map_append

@[simp] theorem length_values (bytes : List WireByte) : (values bytes).length = bytes.length :=
  List.length_map _

/-- **A response**: the device's answer to one request. -/
structure Response where
  request : ℕ
  identity : RequestIdentity
  data : Bytes
  length_le : data.length ≤ 252
  address_lt : identity.address < 65536
deriving DecidableEq

namespace Response

variable (r : Response)

def body : Bytes :=
  responseHeader ++ [r.identity.handId, UInt8.ofNat (r.data.length + 3), r.identity.command] ++
    addressBytes r.identity.address ++ r.data

def frame : Bytes := withChecksum r.body

def bytes : List WireByte := r.frame.map fun value => ⟨value, r.request⟩

def ackKey : Option AckKey := exactWriteAckIdentity r.frame

@[simp] theorem values_bytes : values r.bytes = r.frame := by
  simp [values, bytes, Function.comp_def]

theorem frame_eq : r.frame = 0x90 :: 0xEB :: r.identity.handId :: UInt8.ofNat (r.data.length + 3) ::
    r.identity.command :: UInt8.ofNat (r.identity.address % 256) ::
    UInt8.ofNat (r.identity.address / 256 % 256) :: (r.data ++ [checksum r.body]) := by
  simp [frame, withChecksum, body, responseHeader, addressBytes]

theorem length_frame : r.frame.length = r.data.length + 8 := by
  rw [frame_eq]
  simp

theorem length_bytes : r.bytes.length = r.data.length + 8 := by
  rw [bytes, List.length_map, length_frame]

theorem wireLength_frame : (byteAt r.frame 3).toNat = r.data.length + 3 := by
  have h := r.length_le
  rw [frame_eq]
  show (UInt8.ofNat (r.data.length + 3)).toNat = _
  rw [UInt8.toNat_ofNat']
  omega

theorem handId_frame : byteAt r.frame 2 = r.identity.handId := by
  rw [frame_eq]
  rfl

theorem command_frame : byteAt r.frame 4 = r.identity.command := by
  rw [frame_eq]
  rfl

theorem addressOf_frame : addressOf r.frame = r.identity.address := by
  have h := r.address_lt
  have hlow : (byteAt r.frame 5).toNat = r.identity.address % 256 := by
    rw [frame_eq]
    show (UInt8.ofNat (r.identity.address % 256)).toNat = _
    rw [UInt8.toNat_ofNat']
    omega
  have hhigh : (byteAt r.frame 6).toNat = r.identity.address / 256 := by
    rw [frame_eq]
    show (UInt8.ofNat (r.identity.address / 256 % 256)).toNat = _
    rw [UInt8.toNat_ofNat']
    omega
  rw [addressOf, hlow, hhigh, Nat.lor_comm,
    ← Nat.shiftLeft_add_eq_or_of_lt (b := r.identity.address % 256) (i := 8) (by omega),
    Nat.shiftLeft_eq]
  omega

theorem of_ackKey {key : AckKey} (h : r.ackKey = some key) :
    r.identity.command = writeCommand ∧ key = (r.identity.handId, r.identity.address) := by
  unfold ackKey exactWriteAckIdentity at h
  split_ifs at h with hbad
  push Not at hbad
  obtain ⟨-, -, -, -, -, hcommand, -⟩ := hbad
  rw [command_frame] at hcommand
  rw [handId_frame, addressOf_frame] at h
  exact ⟨hcommand, (Option.some.inj h).symm⟩

theorem of_isExactReadResponse {handId : UInt8} {address length : ℕ}
    (h : isExactReadResponse r.frame handId address length = true) :
    r.identity.handId = handId ∧ r.identity.command = readCommand ∧ r.identity.address = address ∧
      r.data.length = length := by
  unfold isExactReadResponse parseResponse at h
  have hdata : ((r.frame.drop 7).dropLast).length = r.data.length := by
    rw [List.length_dropLast, List.length_drop, length_frame]
    omega
  simp only [handId_frame, command_frame, addressOf_frame, hdata] at h
  split at h
  · rename_i data hok
    split_ifs at hok with h1 h2 h3 h4 h5 h6 h7
    exact ⟨not_not.mp h4, not_not.mp h5, not_not.mp h6, not_not.mp h7⟩
  · cases h

end Response

end FrankaDeploy.Rh56
