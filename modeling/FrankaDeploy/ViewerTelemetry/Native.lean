import FrankaDeploy.ViewerTelemetry.Reader

/-! # Native reads

What the adapter makes of the plain mappings that the native reader returns: the immutable header,
the envelope of a read, and the samples of the two streams with the stage and the bundle sequence
beside them. -/

namespace FrankaDeploy.ViewerTelemetry

open FrankaDeploy.Foundation
open FrankaDeploy.PersistentSession (NdArray Matrix)
open scoped FloatArith

/-! ## Texts -/

def utf8Bytes (text : String) : List ℕ :=
  text.toList.flatMap fun c => (String.utf8EncodeChar c).map UInt8.toNat

def containsNul (text : String) : Bool := text.toList.any fun c => c.toNat = 0

def fnv1a64OffsetBasis : ℕ := 14695981039346656037

def fnv1a64Prime : ℕ := 1099511628211

/-- `fnv1a_stage_name_hash64` of a name that its caller has checked. -/
def fnv1aStageNameHash64 (name : String) : ℕ :=
  (utf8Bytes name).foldl (fun value byte => (value ^^^ byte) * fnv1a64Prime % 2 ^ 64)
    fnv1a64OffsetBasis

/-! ## Stages and reads -/

/-- **`NativeTelemetryStage`.** -/
structure NativeTelemetryStage where
  name : String
  epoch : ℕ
  nameHash64 : ℕ
deriving DecidableEq, Repr

inductive NativeReadCode where
  | ok
  | noData
  | contended
deriving DecidableEq, Repr

def nativeReadCode : ℕ → Option NativeReadCode
  | 0 => some .ok
  | 1 => some .noData
  | 2 => some .contended
  | _ => none

/-- What `_native_read_envelope` returns. -/
structure NativeEnvelope (D : Type) where
  code : NativeReadCode
  sequence : ℕ
  attempts : ℕ
  sample : Option (PyMapping D)

/-- **What a stable read carries**: `sample`, `stage` and `bundle_sequence`. -/
structure StableSample (C : Type) where
  sample : TelemetrySample C
  stage : NativeTelemetryStage
  bundleSequence : ℕ
deriving DecidableEq

/-- **`NativeArmRead` and `NativeHandRead`**: a sample with its stage, or an unavailable result. -/
inductive NativeRead (C : Type) where
  | unavailable (contended : Bool) (sequence attempts : ℕ)
  | stable (attempts : ℕ) (content : StableSample C)

section Parse

variable {D Digest : Type} [FloatArith D] (lib : Library D Digest)

/-! ## The header -/

def requireHeaderText (mapping : PyMapping D) (field : String) (maximumBytes : ℕ) :
    Except Raised Unit :=
  let malformed := telemetryError ("native telemetry header " ++ field ++ " is invalid")
  match item mapping field with
  | .str text =>
    raiseIf (text = "" ∨ containsNul text ∨ (utf8Bytes text).length > maximumBytes) malformed
  | _ => .error malformed

/-- **`telemetry_identity_from_native_header`**: the identity and the creation times. -/
def telemetryIdentityFromNativeHeader (value : PyValue D) :
    Except Raised (TelemetryIdentity × ℕ × ℕ) := do
  let mapping ← asObject value "native telemetry header"
  exactKeys mapping "native telemetry header"
    (identityFields ++ ["created_unix_ns", "created_monotonic_ns", "producer_name", "robot_id"]) []
  requireHeaderText mapping "producer_name" 47
  requireHeaderText mapping "robot_id" 31
  let identity ← identityOf mapping
  let createdUnixNs ← nonnegativeInteger (item mapping "created_unix_ns") "created_unix_ns"
  let createdMonotonicNs ← nonnegativeInteger (item mapping "created_monotonic_ns")
    "created_monotonic_ns"
  return (identity, createdUnixNs, createdMonotonicNs)

/-! ## The envelope of a read -/

/-- The constructor of `NativeTelemetryStage`. -/
def makeNativeStage (name epoch nameHash64 : PyValue D) : Except Raised NativeTelemetryStage :=
  match name with
  | .str name => do
    raiseIf (name = "") (telemetryError "native stage name must not be empty")
    raiseIf (containsNul name) (telemetryError "native stage name contains NUL")
    raiseIf ((utf8Bytes name).length > 31) (telemetryError "native stage name exceeds char[32]")
    let epoch ← nonnegativeInteger epoch "native stage epoch"
    let hash64 ← nonnegativeInteger nameHash64 "native stage name_hash64"
    raiseIf (hash64 > 2 ^ 64 - 1) (telemetryError "native stage name_hash64 exceeds uint64")
    raiseIf (hash64 ≠ fnv1aStageNameHash64 name)
      (telemetryError "native stage name_hash64 does not match UTF-8 FNV-1a")
    return ⟨name, epoch, hash64⟩
  | _ => .error (telemetryError "native stage name must be text")

def nativeStageFromMapping (value : PyValue D) (name : String) :
    Except Raised NativeTelemetryStage := do
  let mapping ← asObject value name
  exactKeys mapping name ["name", "epoch", "name_hash64"] []
  makeNativeStage (item mapping "name") (item mapping "epoch") (item mapping "name_hash64")

def availableOf (value : PyValue D) (name : String) : Except Raised Bool :=
  match value with
  | .bool b => .ok b
  | _ => .error (tornError (name ++ " available must be boolean"))

/-- The code of a read, known and in agreement with `available`. -/
def codeOf (available : Bool) (value : PyValue D) (name : String) :
    Except Raised NativeReadCode := do
  let number ← nonnegativeInteger value (name ++ " code")
  match nativeReadCode number with
  | none => .error (tornError (name ++ " code is unknown"))
  | some code =>
    if available ≠ decide (code = .ok) then
      .error (tornError (name ++ " available/code fields disagree"))
    else .ok code

def sampleOf (available : Bool) (value : PyValue D) (name : String) :
    Except Raised (Option (PyMapping D)) :=
  if available then some <$> asObject value (name ++ " sample")
  else
    match value with
    | .none => .ok none
    | _ => .error (tornError (name ++ " unavailable read must not carry a sample"))

/-- **`_native_read_envelope`.** -/
def nativeReadEnvelope (value : PyValue D) (name : String) :
    Except Raised (NativeEnvelope D) := do
  let mapping ← asObject value name
  exactKeys mapping name ["available", "code", "sequence", "attempts", "sample"] []
  let available ← availableOf (item mapping "available") name
  let code ← codeOf available (item mapping "code") name
  let sequence ← nonnegativeInteger (item mapping "sequence") (name ++ " sequence")
  let attempts ← nonnegativeInteger (item mapping "attempts") (name ++ " attempts")
  let sample ← sampleOf available (item mapping "sample") name
  return ⟨code, sequence, attempts, sample⟩

def NativeEnvelope.readWith {C : Type} (envelope : NativeEnvelope D)
    (parse : PyMapping D → Except Raised (StableSample C)) : Except Raised (NativeRead C) :=
  match envelope.sample with
  | none =>
    .ok (.unavailable (decide (envelope.code = .contended)) envelope.sequence envelope.attempts)
  | some sample => .stable envelope.attempts <$> parse sample

/-! ## Samples -/

def nativeCommonSampleFields : List String :=
  ["timestamp_unix_ns", "timestamp_monotonic_ns", "stage", "bundle_sequence", "source",
    "source_code", "measurement_kind", "measurement_kind_code"]

def requireMeasured (sample : PyMapping D) (stream source : String) (expectedCode : ℕ)
    (message : String) : Except Raised Unit := do
  let sourceCode ← nonnegativeInteger (item sample "source_code")
    ("native " ++ stream ++ " source_code")
  let kindCode ← nonnegativeInteger (item sample "measurement_kind_code")
    ("native " ++ stream ++ " measurement_kind_code")
  raiseIf (isText (item sample "source") source = false ∨ sourceCode ≠ expectedCode ∨
      isText (item sample "measurement_kind") "measured" = false ∨ kindCode ≠ 1)
    (telemetryError message)

def finiteVector (value : PyValue D) (length : ℕ) (name : String) :
    Except Raised (NdArray D) := do
  let array ← lib.asarray value
  raiseIf (array.shape ≠ [length] ∨ array.allFinite = false)
    (telemetryError (name ++ " must contain " ++ toString length ++ " finite values"))
  return array

/-- A check of a field that may be `None`. -/
def optionalField (value : PyValue D) (check : PyValue D → Except Raised Unit) :
    Except Raised Unit :=
  match value with
  | .none => .ok ()
  | value => check value

/-- The check of `control_command_success_rate`. -/
def requireSuccessRate (value : PyValue D) : Except Raised Unit :=
  match value with
  | .bool _ =>
    .error (telemetryError "native arm control_command_success_rate must be numeric")
  | value => do
    let rate ← lib.float value
    raiseIf (FloatArith.isFinite rate = false ∨
        ¬(FloatArith.ofRat 0 ≤ rate ∧ rate ≤ FloatArith.ofRat 1))
      (telemetryError "native arm control_command_success_rate must be in [0,1]")

def reshapeColumnMajor (flat : NdArray D) : NdArray D :=
  ⟨[4, 4], List.ofFn fun k : Fin 16 => flat.entry (k.1 % 4 * 4 + k.1 / 4)⟩

/-- The sample of `native_arm_read_from_mapping`. -/
def nativeArmSample (sequence : ℕ) (sample : PyMapping D) :
    Except Raised (StableSample (Matrix 4 D)) := do
  exactKeys sample "native arm sample"
    (nativeCommonSampleFields ++ ["O_T_EE", "q", "dq", "control_command_success_rate"]) []
  requireMeasured sample "arm" armSource 1
    "native arm sample is not measured Franka RobotState.O_T_EE"
  let flatPose ← finiteVector lib (item sample "O_T_EE") 16 "native arm O_T_EE"
  optionalField (item sample "q") fun q => (fun _ => ()) <$> finiteVector lib q 7 "native arm q"
  optionalField (item sample "dq") fun dq =>
    (fun _ => ()) <$> finiteVector lib dq 7 "native arm dq"
  optionalField (item sample "control_command_success_rate") (requireSuccessRate lib)
  let stage ← nativeStageFromMapping (item sample "stage") "native arm stage"
  let bundleSequence ← nonnegativeInteger (item sample "bundle_sequence")
    "native arm bundle_sequence"
  let arm ← makeArmSample lib (.int sequence) (.int stage.epoch) (item sample "timestamp_unix_ns")
    (item sample "timestamp_monotonic_ns") (reshapeColumnMajor flatPose) "robot_base"
    armMeasurementKind armSource
  return ⟨arm, stage, bundleSequence⟩

/-- **`native_arm_read_from_mapping`.** -/
def nativeArmReadFromMapping (value : PyValue D) :
    Except Raised (NativeRead (Matrix 4 D)) := do
  let envelope ← nativeReadEnvelope value "native arm read"
  envelope.readWith (nativeArmSample lib envelope.sequence)

def handOptionalVectors : List (String × String × Option ℤ × Option ℤ) :=
  [("angle_targets", "native hand ANGLE_SET", some (-1), some 1000),
    ("current_mA", "native hand current_mA", none, none),
    ("force_g", "native hand force_g", none, none),
    ("temperature_c", "native hand temperature_c", some (-32768), some 32767),
    ("status", "native hand status", some 0, some 255),
    ("errors", "native hand errors", some 0, some 255)]

/-- The sample of `native_hand_read_from_mapping`. -/
def nativeHandSample (sequence : ℕ) (sample : PyMapping D) :
    Except Raised (StableSample HandAngles) := do
  exactKeys sample "native hand sample"
    (nativeCommonSampleFields ++ ["angles", "angle_targets", "current_mA", "force_g",
      "temperature_c", "status", "errors"]) []
  requireMeasured sample "hand" handSource 2
    "native hand sample is not measured Inspire RH56 ANGLE_ACT readback"
  let angles ← sixNativeIntegers (item sample "angles") "native hand ANGLE_ACT" (some 0)
    (some 1000)
  handOptionalVectors.forM fun (field, label, minimum, maximum) =>
    optionalField (item sample field) fun value =>
      (fun _ => ()) <$> sixNativeIntegers value label minimum maximum
  let stage ← nativeStageFromMapping (item sample "stage") "native hand stage"
  let bundleSequence ← nonnegativeInteger (item sample "bundle_sequence")
    "native hand bundle_sequence"
  let hand ← makeHandSample (.int sequence) (.int stage.epoch) (item sample "timestamp_unix_ns")
    (item sample "timestamp_monotonic_ns") (.tuple (angles.map .int)) handMeasurementKind
    handSource
  return ⟨hand, stage, bundleSequence⟩

/-- **`native_hand_read_from_mapping`.** -/
def nativeHandReadFromMapping (value : PyValue D) : Except Raised (NativeRead HandAngles) := do
  let envelope ← nativeReadEnvelope value "native hand read"
  envelope.readWith (nativeHandSample envelope.sequence)

end Parse

/-! ## What a parsed sample guarantees -/

section Laws

variable {D Digest : Type} [FloatArith D] {lib : Library D Digest}

/-- **A stable sample that carries the epoch of its stage.** -/
def StableSample.Coherent {C : Type} (content : StableSample C) : Prop :=
  content.sample.stageEpoch = content.stage.epoch

omit [FloatArith D] in
theorem nonnegativeInteger_natCast (n : ℕ) (name : String) :
    nonnegativeInteger (.int n : PyValue D) name = .ok n := by
  have hn : ¬(n : ℤ) < 0 := by omega
  unfold nonnegativeInteger
  dsimp only
  rw [if_neg hn, Int.toNat_natCast]

omit [FloatArith D] in
theorem stageEpoch_of_sampleHeader {stream : String} {sequence epoch : ℕ}
    {unixNs monotonicNs : PyValue D} {header : TelemetrySample Unit}
    (h : sampleHeader stream (.int sequence) (.int epoch) unixNs monotonicNs = .ok header) :
    header.stageEpoch = epoch := by
  unfold sampleHeader at h
  obtain ⟨_, -, h⟩ := except_bind_eq_ok.mp h
  obtain ⟨found, hfound, h⟩ := except_bind_eq_ok.mp h
  iterate 2 obtain ⟨_, -, h⟩ := except_bind_eq_ok.mp h
  cases h
  rw [nonnegativeInteger_natCast] at hfound
  cases hfound
  rfl

/-- **The arm sample of a native read carries the epoch of its stage.** -/
theorem nativeArmSample_coherent {sequence : ℕ} {sample : PyMapping D}
    {content : StableSample (Matrix 4 D)} (h : nativeArmSample lib sequence sample = .ok content) :
    content.Coherent := by
  unfold nativeArmSample at h
  iterate 6 obtain ⟨_, -, h⟩ := except_bind_eq_ok.mp h
  obtain ⟨stage, -, h⟩ := except_bind_eq_ok.mp h
  obtain ⟨_, -, h⟩ := except_bind_eq_ok.mp h
  obtain ⟨arm, harm, h⟩ := except_bind_eq_ok.mp h
  cases h
  obtain ⟨header, hheader, harm⟩ := except_bind_eq_ok.mp harm
  iterate 3 obtain ⟨_, -, harm⟩ := except_bind_eq_ok.mp harm
  cases harm
  exact stageEpoch_of_sampleHeader hheader

omit [FloatArith D] in
/-- **The hand sample of a native read carries the epoch of its stage.** -/
theorem nativeHandSample_coherent {sequence : ℕ} {sample : PyMapping D}
    {content : StableSample HandAngles} (h : nativeHandSample sequence sample = .ok content) :
    content.Coherent := by
  unfold nativeHandSample at h
  iterate 4 obtain ⟨_, -, h⟩ := except_bind_eq_ok.mp h
  obtain ⟨stage, -, h⟩ := except_bind_eq_ok.mp h
  obtain ⟨_, -, h⟩ := except_bind_eq_ok.mp h
  obtain ⟨hand, hhand, h⟩ := except_bind_eq_ok.mp h
  cases h
  obtain ⟨header, hheader, hhand⟩ := except_bind_eq_ok.mp hhand
  iterate 2 obtain ⟨_, -, hhand⟩ := except_bind_eq_ok.mp hhand
  cases hhand
  exact stageEpoch_of_sampleHeader hheader

end Laws

end FrankaDeploy.ViewerTelemetry
