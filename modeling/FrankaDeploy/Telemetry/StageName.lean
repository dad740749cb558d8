import FrankaDeploy.Foundation.FloatArith
import FrankaDeploy.Foundation.Utf8

/-! # Stage names

The stage name of a telemetry sample (`native/telemetry/src/telemetry.cpp`): the hand-written UTF-8
decoder, the writer that stores a name in its fixed field and the validators that the reader and the
writer run over a whole sample. A pair of a pointer and a size is a list of bytes. -/

namespace FrankaDeploy.Telemetry

open FrankaDeploy.Foundation
open FrankaDeploy.Foundation.FloatArith (isFinite ofRat)
open scoped FrankaDeploy.Foundation.FloatArith

/-! ## `valid_utf8` -/

/-- What a lead byte above 0x7f announces: the continuation count, the payload it carries and the
minimum value. -/
def leadForm (first : UInt8) : Option (ℕ × UInt32 × UInt32) :=
  if first &&& 0xe0 = 0xc0 then some (1, (first &&& 0x1f).toUInt32, 0x80)
  else if first &&& 0xf0 = 0xe0 then some (2, (first &&& 0x0f).toUInt32, 0x800)
  else if first &&& 0xf8 = 0xf0 then some (3, (first &&& 0x07).toUInt32, 0x10000)
  else none

def appendContinuation (bytes : List UInt8) (index : ℕ) (value : UInt32) (offset : ℕ) :
    Option UInt32 :=
  let next := bytes.getD (index + offset) 0
  if next &&& 0xc0 ≠ 0x80 then none else some (value <<< 6 ||| (next &&& 0x3f).toUInt32)

/-- The body of the outer loop: the index after the sequence that starts at `index`, nothing when
it is refused. -/
def sequenceEnd (bytes : List UInt8) (index : ℕ) : Option ℕ :=
  let first := bytes.getD index 0
  if first = 0 then none
  else if first ≤ 0x7f then some (index + 1)
  else
    match leadForm first with
    | none => none
    | some (continuationCount, value, minimum) =>
      if index + continuationCount ≥ bytes.length then none
      else
        match (List.range' 1 continuationCount).foldlM (appendContinuation bytes index) value with
        | none => none
        | some value =>
          if value < minimum ∨ value > 0x10ffff ∨ (value ≥ 0xd800 ∧ value ≤ 0xdfff) then none
          else some (index + (continuationCount + 1))

theorem lt_of_sequenceEnd {bytes : List UInt8} {index next : ℕ}
    (h : sequenceEnd bytes index = some next) : index < next := by
  unfold sequenceEnd at h
  dsimp only at h
  split_ifs at h
  · cases h
    exact Nat.lt_succ_self index
  split at h
  · cases h
  · split_ifs at h
    split at h
    · cases h
    · split_ifs at h
      cases h
      omega

/-- The outer loop of `valid_utf8`, from an index on. -/
def validUtf8From (bytes : List UInt8) (index : ℕ) : Bool :=
  if index < bytes.length then
    match h : sequenceEnd bytes index with
    | none => false
    | some next =>
      have := lt_of_sequenceEnd h
      validUtf8From bytes next
  else true
termination_by bytes.length - index

def validUtf8 (bytes : List UInt8) : Bool := validUtf8From bytes 0

/-! ## The fixed field -/

def stageNameBytes : ℕ := 32

/-- `char stage_name[kStageNameBytes]`. -/
@[ext] structure StageName where
  bytes : List UInt8
  length_eq : bytes.length = stageNameBytes

/-- `fixed_string_length`, over a whole field. -/
def fixedStringLength : List UInt8 → ℕ
  | [] => 0
  | b :: bytes => if b ≠ 0 then fixedStringLength bytes + 1 else 0

/-- `fixed_string_valid`, over a whole field. -/
def fixedStringValid (bytes : List UInt8) (requireNonempty : Bool) : Bool :=
  let length := fixedStringLength bytes
  if length = bytes.length ∨ (requireNonempty ∧ length = 0) then false
  else (bytes.drop (length + 1)).all (· == 0)

/-- `stage_name_hash`, of bytes that are there. -/
def stageNameHash (bytes : List UInt8) : UInt64 :=
  bytes.foldl (fun hash b => (hash ^^^ b.toUInt64) * 1099511628211) 14695981039346656037

/-- `set_stage_name`: what it stores, nothing when it returns false. The null pointer is `none`. -/
def setStageName : Option (List UInt8) → Option StageName
  | none => none
  | some bytes =>
    if h : bytes.length ≠ 0 ∧ bytes.length < stageNameBytes ∧ validUtf8 bytes then
      some ⟨bytes ++ List.replicate (stageNameBytes - bytes.length) 0, by
        rw [List.length_append, List.length_replicate]
        exact Nat.add_sub_cancel' h.2.1.le⟩
    else none

/-! ## Samples -/

/-- The fields that `ArmSample` and `HandSample` share, as far as the validators read them. -/
structure SampleHead where
  timestampMonotonicNs : UInt64
  timestampUnixNs : UInt64
  stageEpoch : UInt64
  stageNameHash64 : UInt64
  validityFlags : UInt32
  source : UInt16
  measurementKind : UInt16
  stageName : StageName

def commonSampleValid (sample : SampleHead) : Bool :=
  if sample.validityFlags &&& 1 = 0 ∨ sample.timestampMonotonicNs = 0 ∨
      sample.timestampUnixNs = 0 ∨ sample.stageEpoch = 0 ∨
      ¬fixedStringValid sample.stageName.bytes true then false
  else
    let name := sample.stageName.bytes.take (fixedStringLength sample.stageName.bytes)
    validUtf8 name && sample.stageNameHash64 == stageNameHash name

/-- `Source` and `MeasurementKind` of a measured sample, or of a synthetic one. -/
def originValid (sample : SampleHead) (measuredSource : UInt16) : Bool :=
  (sample.source == measuredSource && sample.measurementKind == 1) ||
    (sample.source == 32767 && sample.measurementKind == 32767)

/-- `ArmSample`, as far as its validator reads it. -/
structure ArmSample (F : Type) extends SampleHead where
  oTEe : Vec 16 F
  q : Vec 7 F
  dq : Vec 7 F
  controlCommandSuccessRate : F

/-- `HandSample`, as far as its validator reads it. -/
abbrev HandSample : Type := SampleHead

variable {F : Type} [FloatArith F]

/-- `arm_sample_valid`. The flags are `kArmTimestampValid` 1, `kArmPoseValid` 2, `kArmQValid` 4,
`kArmDqValid` 8 and `kArmSuccessRateValid` 16. -/
def armSampleValid (sample : ArmSample F) : Bool :=
  if ¬commonSampleValid sample.toSampleHead ∨ sample.validityFlags &&& ~~~0x1f ≠ 0 ∨
      sample.validityFlags &&& 2 = 0 then false
  else if ¬originValid sample.toSampleHead 1 then false
  else if ∃ i, ¬isFinite (sample.oTEe i) then false
  else if sample.validityFlags &&& 4 ≠ 0 ∧ ∃ i, ¬isFinite (sample.q i) then false
  else if sample.validityFlags &&& 8 ≠ 0 ∧ ∃ i, ¬isFinite (sample.dq i) then false
  else decide (sample.validityFlags &&& 16 = 0) ||
    (isFinite sample.controlCommandSuccessRate &&
      decide (ofRat 0 ≤ sample.controlCommandSuccessRate) &&
      decide (sample.controlCommandSuccessRate ≤ ofRat 1))

/-- `hand_sample_valid`. The flags are `kHandTimestampValid` 1, `kHandAnglesValid` 2 and six more. -/
def handSampleValid (sample : HandSample) : Bool :=
  if ¬commonSampleValid sample ∨ sample.validityFlags &&& ~~~0xff ≠ 0 ∨
      sample.validityFlags &&& 2 = 0 then false
  else originValid sample 2

end FrankaDeploy.Telemetry
