import FrankaDeploy.ViewerTelemetry.Values

/-! # Samples and bundles

The samples of the two streams and `continuous_telemetry_from_mapping`, which makes a bundle of a
mapping or rejects it. The samples of a bundle carry the epoch of its stage, because the parser
compares the repeated fields (`bundle_coherent`). -/

namespace FrankaDeploy.ViewerTelemetry

open FrankaDeploy.Foundation
open FrankaDeploy.PersistentSession (NdArray Matrix)

def maxFutureSkewNs : ℕ := 50000000

def armMeasurementKind : String := "measured_robot_state"

def armSource : String := "franka_robot_state.O_T_EE"

def handMeasurementKind : String := "measured_register_readback"

def handSource : String := "inspire_rh56.ANGLE_ACT"

/-! ## Samples -/

/-- **A measured sample** of a stream; the constant fields of its class are left out. -/
structure TelemetrySample (C : Type) where
  sampleSequence : ℕ
  stageEpoch : ℕ
  timestampUnixNs : ℕ
  timestampMonotonicNs : ℕ
  content : C
deriving DecidableEq

abbrev ArmTelemetrySample (D : Type) := TelemetrySample (Matrix 4 D)

abbrev HandTelemetrySample := TelemetrySample HandAngles

/-- What `_sample_fingerprint` digests. -/
inductive SampleKey (D : Type) where
  | arm (sample : ArmTelemetrySample D)
  | hand (sample : HandTelemetrySample)

/-- What `_native_envelope_fingerprint` digests. -/
structure EnvelopeKey (Digest : Type) where
  sampleSha256 : Digest
  stageName : String
  stageEpoch : ℕ
  stageNameHash64 : ℕ
  bundleSequence : ℕ

abbrev Library (D Digest : Type) := TelemetryLibrary D Digest (SampleKey D) (EnvelopeKey Digest)

structure TelemetryStage (D : Type) where
  name : String
  epoch : ℕ
  target : Option (Matrix 4 D)

/-- **`ContinuousTelemetryBundle`.** -/
structure ContinuousTelemetryBundle (D : Type) where
  identity : TelemetryIdentity
  bundleSequence : ℕ
  publishedUnixNs : ℕ
  publishedMonotonicNs : ℕ
  stage : TelemetryStage D
  arm : Option (ArmTelemetrySample D)
  hand : Option HandTelemetrySample

section Parse

variable {D Digest : Type} [FloatArith D] (lib : Library D Digest)

def textOf (value : PyValue D) : String :=
  match value with
  | .str text => text
  | value => lib.str value

/-! ## Constructors -/

def sampleHeader (stream : String) (sequence epoch unixNs monotonicNs : PyValue D) :
    Except Raised (TelemetrySample Unit) := do
  let sequence ← nonnegativeInteger sequence (stream ++ " sample_sequence")
  let epoch ← nonnegativeInteger epoch (stream ++ " stage_epoch")
  let unixNs ← nonnegativeInteger unixNs (stream ++ " timestamp_unix_ns")
  let monotonicNs ← nonnegativeInteger monotonicNs (stream ++ " timestamp_monotonic_ns")
  return ⟨sequence, epoch, unixNs, monotonicNs, ()⟩

def TelemetrySample.withContent {C : Type} (header : TelemetrySample Unit) (content : C) :
    TelemetrySample C :=
  { header with content := content }

/-- The constructor of `ArmTelemetrySample`. -/
def makeArmSample (sequence epoch unixNs monotonicNs : PyValue D) (pose : NdArray D)
    (referenceFrame measurementKind source : String) :
    Except Raised (ArmTelemetrySample D) := do
  let header ← sampleHeader "arm" sequence epoch unixNs monotonicNs
  raiseIf (referenceFrame ≠ "robot_base")
    (telemetryError "arm reference_frame must be 'robot_base'")
  raiseIf (measurementKind ≠ armMeasurementKind ∨ source ≠ armSource)
    (telemetryError "arm feedback is not measured Franka RobotState.O_T_EE")
  let pose ← validateRigidTransform lib pose "continuous arm T_reference_EE"
  return header.withContent pose

/-- The constructor of `HandTelemetrySample`. -/
def makeHandSample (sequence epoch unixNs monotonicNs angles : PyValue D)
    (measurementKind source : String) : Except Raised HandTelemetrySample := do
  let header ← sampleHeader "hand" sequence epoch unixNs monotonicNs
  raiseIf (measurementKind ≠ handMeasurementKind ∨ source ≠ handSource)
    (telemetryError "hand feedback is not measured Inspire RH56 ANGLE_ACT readback")
  let angles ← sixAngleAct angles
  return header.withContent angles

/-- The constructor of `TelemetryStage`. -/
def makeStage (name : String) (epoch : PyValue D) (target : Option (NdArray D)) :
    Except Raised (TelemetryStage D) := do
  let name := pyStrip name
  raiseIf (name = "") (telemetryError "telemetry stage name must not be empty")
  let epoch ← nonnegativeInteger epoch "telemetry stage epoch"
  match target with
  | none => return ⟨name, epoch, none⟩
  | some target =>
    let target ← validateRigidTransform lib target
      "continuous telemetry commanded target T_reference_EE"
    return ⟨name, epoch, some target⟩

/-! ## Parsers -/

def isText (value : PyValue D) (text : String) : Bool :=
  match value with
  | .str s => s = text
  | _ => false

/-- A value that equals an integer and is no `bool`: an `int` or a `float`. -/
def isNumber (value : PyValue D) (n : ℤ) : Bool :=
  match value with
  | .int m => m = n
  | .float x => FloatArith.eqv x (FloatArith.ofRat n)
  | _ => false

def targetFromMapping (value : PyValue D) : Except Raised (NdArray D) := do
  let target ← asObject value "telemetry stage target"
  exactKeys target "telemetry stage target" ["kind", "reference_frame", "T_reference_EE"] []
  raiseIf (isText (item target "kind") "commanded_target" = false)
    (telemetryError "telemetry stage target kind must be 'commanded_target'")
  raiseIf (isText (item target "reference_frame") "robot_base" = false)
    (telemetryError "telemetry stage target reference_frame must be 'robot_base'")
  lib.asarray (item target "T_reference_EE")

def stageFromMapping (value : PyValue D) : Except Raised (TelemetryStage D) := do
  let mapping ← asObject value "telemetry stage"
  exactKeys mapping "telemetry stage" ["name", "epoch"] ["target"]
  let target ←
    if hasKey mapping "target" then some <$> targetFromMapping lib (item mapping "target")
    else .ok none
  makeStage lib (textOf lib (item mapping "name")) (item mapping "epoch") target

def streamEnvelopeFields : List String :=
  ["identity", "bundle_sequence", "stage_epoch", "sample_sequence", "timestamp_unix_ns",
    "timestamp_monotonic_ns", "measurement_kind", "source"]

def armFromMapping (value : PyValue D) :
    Except Raised (ArmTelemetrySample D × TelemetryIdentity × ℕ) := do
  let mapping ← asObject value "arm telemetry"
  exactKeys mapping "arm telemetry"
    (streamEnvelopeFields ++ ["reference_frame", "T_reference_EE"]) []
  let pose ← lib.asarray (item mapping "T_reference_EE")
  let sample ← makeArmSample lib (item mapping "sample_sequence") (item mapping "stage_epoch")
    (item mapping "timestamp_unix_ns") (item mapping "timestamp_monotonic_ns") pose
    (textOf lib (item mapping "reference_frame")) (textOf lib (item mapping "measurement_kind"))
    (textOf lib (item mapping "source"))
  let identity ← identityFromMapping (item mapping "identity") "arm telemetry identity"
  let bundle ← nonnegativeInteger (item mapping "bundle_sequence") "arm bundle_sequence"
  return (sample, identity, bundle)

def handFromMapping (value : PyValue D) :
    Except Raised (HandTelemetrySample × TelemetryIdentity × ℕ) := do
  let mapping ← asObject value "hand telemetry"
  exactKeys mapping "hand telemetry" (streamEnvelopeFields ++ ["angles"]) []
  let sample ← makeHandSample (item mapping "sample_sequence") (item mapping "stage_epoch")
    (item mapping "timestamp_unix_ns") (item mapping "timestamp_monotonic_ns")
    (item mapping "angles") (textOf lib (item mapping "measurement_kind"))
    (textOf lib (item mapping "source"))
  let identity ← identityFromMapping (item mapping "identity") "hand telemetry identity"
  let bundle ← nonnegativeInteger (item mapping "bundle_sequence") "hand bundle_sequence"
  return (sample, identity, bundle)

def optionalStream {S : Type} (mapping : PyMapping D) (key : String)
    (parse : PyValue D → Except Raised S) : Except Raised (Option S) :=
  if hasKey mapping key then some <$> parse (item mapping key) else .ok none

def requireCommitted {C : Type} (name : String) (identity : TelemetryIdentity)
    (bundleSequence epoch : ℕ) :
    Option (TelemetrySample C × TelemetryIdentity × ℕ) →
      Except Raised (Option (TelemetrySample C))
  | none => .ok none
  | some (sample, streamIdentity, streamSequence) =>
    if streamIdentity ≠ identity ∨ streamSequence ≠ bundleSequence ∨
        sample.stageEpoch ≠ epoch then
      .error (tornError (name ++ " telemetry does not match the committed envelope"))
    else .ok (some sample)

def requirePublished {C : Type} (name : String) (publishedUnixNs publishedMonotonicNs : ℕ) :
    Option (TelemetrySample C) → Except Raised Unit
  | none => .ok ()
  | some sample =>
    if sample.timestampUnixNs > publishedUnixNs + maxFutureSkewNs then
      .error (tornError (name ++ " sample is newer than its publication wall clock"))
    else if sample.timestampMonotonicNs > publishedMonotonicNs + maxFutureSkewNs then
      .error (tornError (name ++ " sample is newer than its publication monotonic clock"))
    else .ok ()

/-- **`continuous_telemetry_from_mapping`.** -/
def continuousTelemetryFromMapping (payload : PyValue D) :
    Except Raised (ContinuousTelemetryBundle D) := do
  let mapping ← asObject payload "continuous telemetry"
  exactKeys mapping "continuous telemetry"
    ["schema_version", "contract", "identity", "bundle_sequence", "published_unix_ns",
      "published_monotonic_ns", "stage", "commit"] ["arm", "hand"]
  raiseIf (isNumber (item mapping "schema_version") 2 = false)
    (telemetryError "continuous telemetry schema_version must be 2")
  raiseIf (isText (item mapping "contract") "fr3_rh56_continuous_viewer_v1" = false)
    (telemetryError
      "continuous telemetry contract must be 'fr3_rh56_continuous_viewer_v1'")
  let identity ← identityFromMapping (item mapping "identity") "telemetry identity"
  let bundleSequence ← nonnegativeInteger (item mapping "bundle_sequence") "bundle_sequence"
  let stage ← stageFromMapping lib (item mapping "stage")
  let commit ← asObject (item mapping "commit") "telemetry commit"
  exactKeys commit "telemetry commit" ["identity", "bundle_sequence", "stage_epoch"] []
  let commitIdentity ← identityFromMapping (item commit "identity") "telemetry commit identity"
  let commitSequence ← nonnegativeInteger (item commit "bundle_sequence")
    "telemetry commit bundle_sequence"
  let commitEpoch ← nonnegativeInteger (item commit "stage_epoch") "telemetry commit stage_epoch"
  raiseIf (commitIdentity ≠ identity ∨ commitSequence ≠ bundleSequence ∨
      commitEpoch ≠ stage.epoch)
    (tornError "continuous telemetry commit does not match its envelope")
  let arm ← optionalStream mapping "arm" (armFromMapping lib)
  let hand ← optionalStream mapping "hand" (handFromMapping lib)
  let arm ← requireCommitted "arm" identity bundleSequence stage.epoch arm
  let hand ← requireCommitted "hand" identity bundleSequence stage.epoch hand
  let publishedUnixNs ← nonnegativeInteger (item mapping "published_unix_ns") "published_unix_ns"
  let publishedMonotonicNs ← nonnegativeInteger (item mapping "published_monotonic_ns")
    "published_monotonic_ns"
  requirePublished "arm" publishedUnixNs publishedMonotonicNs arm
  requirePublished "hand" publishedUnixNs publishedMonotonicNs hand
  raiseIf (arm.isNone ∧ hand.isNone)
    (telemetryError "continuous telemetry bundle must contain arm or hand feedback")
  return ⟨identity, bundleSequence, publishedUnixNs, publishedMonotonicNs, stage, arm, hand⟩

end Parse

/-! ## What a parsed bundle guarantees -/

/-- **A bundle whose samples carry the epoch of its stage.** -/
structure ContinuousTelemetryBundle.Coherent {D : Type} (bundle : ContinuousTelemetryBundle D) :
    Prop where
  arm : ∀ sample, bundle.arm = some sample → sample.stageEpoch = bundle.stage.epoch
  hand : ∀ sample, bundle.hand = some sample → sample.stageEpoch = bundle.stage.epoch

theorem stageEpoch_of_requireCommitted {C : Type} {name : String} {identity : TelemetryIdentity}
    {bundleSequence epoch : ℕ} {stream : Option (TelemetrySample C × TelemetryIdentity × ℕ)}
    {result : Option (TelemetrySample C)}
    (h : requireCommitted name identity bundleSequence epoch stream = .ok result) :
    ∀ sample, result = some sample → sample.stageEpoch = epoch := by
  rintro sample rfl
  cases stream with
  | none => cases h
  | some fields =>
    obtain ⟨found, streamIdentity, streamSequence⟩ := fields
    unfold requireCommitted at h
    obtain ⟨hagree, hfound⟩ := ite_error_eq_ok.mp h
    cases hfound
    by_contra hne
    exact hagree (.inr (.inr hne))

theorem bundle_coherent {D Digest : Type} [FloatArith D] {lib : Library D Digest}
    {payload : PyValue D} {bundle : ContinuousTelemetryBundle D}
    (h : continuousTelemetryFromMapping lib payload = .ok bundle) : bundle.Coherent := by
  unfold continuousTelemetryFromMapping at h
  -- The envelope: the mapping, its keys, the schema, the contract, the identity, the sequence.
  iterate 6 obtain ⟨_, -, h⟩ := except_bind_eq_ok.mp h
  obtain ⟨stage, -, h⟩ := except_bind_eq_ok.mp h
  -- The commit and the raw streams.
  iterate 8 obtain ⟨_, -, h⟩ := except_bind_eq_ok.mp h
  obtain ⟨arm, harm, h⟩ := except_bind_eq_ok.mp h
  obtain ⟨hand, hhand, h⟩ := except_bind_eq_ok.mp h
  iterate 5 obtain ⟨_, -, h⟩ := except_bind_eq_ok.mp h
  cases h
  exact ⟨stageEpoch_of_requireCommitted harm, stageEpoch_of_requireCommitted hhand⟩

end FrankaDeploy.ViewerTelemetry
