import FrankaDeploy.Foundation.HighWater
import FrankaDeploy.Foundation.Triple
import FrankaDeploy.ViewerTelemetry.Bundle

/-! # The continuous telemetry reader

`ContinuousTelemetryReader`: the replay and freshness gates of one stream and the checks of a bundle
as a whole. A gate keeps the largest sample sequence with its fingerprint even when the sample is
too old to be shown. -/

namespace FrankaDeploy.ViewerTelemetry

open FrankaDeploy.Foundation
open FrankaDeploy.Foundation.Program
open FloatArith (ofRat isFinite fixedText)
open scoped FloatArith

inductive StreamName where
  | arm
  | hand
deriving DecidableEq, Repr

def StreamName.text : StreamName → String
  | .arm => "arm"
  | .hand => "hand"

variable {D Digest C : Type} [FloatArith D] [DecidableEq Digest]

/-! ## Fingerprints and freshness -/

/-- **A stream**: its name and how its samples are digested. -/
structure StreamKind (D C : Type) where
  name : StreamName
  key : TelemetrySample C → SampleKey D

def armKind : StreamKind D (PersistentSession.Matrix 4 D) := ⟨.arm, .arm⟩

def handKind : StreamKind D HandAngles := ⟨.hand, .hand⟩

def sampleFingerprint (lib : Library D Digest) (kind : StreamKind D C)
    (sample : TelemetrySample C) : Except Raised Digest :=
  lib.sampleDigest (kind.key sample)

def secondsOf (D : Type) [FloatArith D] (n : ℤ) : Except Raised D :=
  let x : D := ofRat n
  if isFinite x then .ok (x / ofRat (10 ^ 9))
  else .error ⟨.other, "OverflowError", "int too large to convert to float"⟩

structure ViewerClocks where
  unixNs : ℕ
  monotonicNs : ℕ

/-- **`_freshness_status`**: why a sample is not current. -/
def freshnessStatus (D : Type) [FloatArith D] (sample : TelemetrySample C) (name : StreamName)
    (maxAgeNs : ℕ) (now : ViewerClocks) : Except Raised (Option String) :=
  let wallDelta : ℤ := now.unixNs - sample.timestampUnixNs
  let monotonicDelta : ℤ := now.monotonicNs - sample.timestampMonotonicNs
  if wallDelta < -maxFutureSkewNs ∨ monotonicDelta < -maxFutureSkewNs then
    .ok (some (name.text ++ " timestamp is in the future"))
  else
    let ageNs := max 0 (max wallDelta monotonicDelta)
    if ageNs > maxAgeNs then do
      let age ← secondsOf D ageNs
      let limit ← secondsOf D maxAgeNs
      return some (name.text ++ " stale: age=" ++ fixedText 3 age ++ "s > " ++
        fixedText 3 limit ++ "s")
    else .ok none

def replayStatus (previous : Option (HighWater Digest)) (sequence : ℕ) (fingerprint : Digest)
    (back changed : String) : Option String :=
  match previous with
  | none => none
  | some mark =>
    if sequence < mark.key then some back
    else if sequence = mark.key ∧ fingerprint ≠ mark.tag then some changed
    else none

/-! ## The reader -/

/-- **The state of a `ContinuousTelemetryReader`.** -/
structure ReaderState (Digest : Type) where
  lastBundleSequence : Option ℕ
  lastBundleDigest : Option Digest
  lastStageEpoch : Option ℕ
  stageNames : List (ℕ × String)
  streamState : StreamName → Option (HighWater Digest)

def ReaderState.initial : ReaderState Digest where
  lastBundleSequence := none
  lastBundleDigest := none
  lastStageEpoch := none
  stageNames := []
  streamState := fun _ => none

structure ReaderConfig where
  expectedIdentity : TelemetryIdentity
  armMaxAgeNs : ℕ
  handMaxAgeNs : ℕ

structure TelemetryVisibility (D : Type) where
  bundle : ContinuousTelemetryBundle D
  arm : Option (ArmTelemetrySample D)
  hand : Option HandTelemetrySample
  armStatus : String
  handStatus : String

abbrev ReaderMethod (Digest α : Type) := Program (ReaderState Digest) Empty Raised α

def ReaderState.setStream (s : ReaderState Digest) (name : StreamName)
    (mark : Option (HighWater Digest)) : ReaderState Digest :=
  { s with streamState := Function.update s.streamState name mark }

def gateFreshness {σ S : Type} (D : Type) [FloatArith D] (name : StreamName) (shown : S)
    (sample : TelemetrySample C) (maxAgeNs : ℕ) (now : ViewerClocks) :
    Program σ Empty Raised (Option S × String) := do
  let status ← ofExcept (freshnessStatus D sample name maxAgeNs now)
  match status with
  | some status => return (none, status)
  | none => return (some shown, name.text ++ " fresh measured feedback")

/-- **`_gate_stream`.** -/
def gateStream (lib : Library D Digest) (kind : StreamKind D C)
    (sample : Option (TelemetrySample C)) (maxAgeNs : ℕ) (now : ViewerClocks) :
    ReaderMethod Digest (Option (TelemetrySample C) × String) :=
  let name := kind.name
  match sample with
  | none => return (none, name.text ++ " unavailable")
  | some sample => do
    let fingerprint ← ofExcept (sampleFingerprint lib kind sample)
    let s ← read
    match replayStatus (s.streamState name) sample.sampleSequence fingerprint
        (name.text ++ " sample_sequence moved backwards")
        (name.text ++ " changed under the same sample_sequence") with
    | some status => return (none, status)
    | none => do
      update fun s => s.setStream name
        (HighWater.raise (s.streamState name) sample.sampleSequence fingerprint)
      gateFreshness D name sample sample maxAgeNs now

/-- The checks of `_accept` before the gates. -/
def checkBundle (config : ReaderConfig) (bundle : ContinuousTelemetryBundle D)
    (bundleDigest : Digest) (nowUnixNs nowMonotonicNs : PyValue D) (s : ReaderState Digest) :
    Except Raised ViewerClocks := do
  raiseIf (bundle.identity ≠ config.expectedIdentity)
    (identityError "continuous telemetry run UUID/artifact hashes do not match this viewer")
  let nowWall ← nonnegativeInteger nowUnixNs "now_unix_ns"
  let nowMono ← nonnegativeInteger nowMonotonicNs "now_monotonic_ns"
  raiseIf (s.lastBundleSequence.any fun last => decide (bundle.bundleSequence < last))
    (replayError "continuous telemetry bundle_sequence moved backwards")
  raiseIf (s.lastBundleSequence = some bundle.bundleSequence ∧
      s.lastBundleDigest ≠ some bundleDigest)
    (replayError "continuous telemetry changed under the same bundle_sequence")
  raiseIf (s.lastStageEpoch.any fun last => decide (bundle.stage.epoch < last))
    (replayError "continuous telemetry stage_epoch moved backwards")
  raiseIf ((s.stageNames.lookup bundle.stage.epoch).any fun known =>
      decide (known ≠ bundle.stage.name))
    (tornError "continuous telemetry stage name changed without a new stage_epoch")
  return ⟨nowWall, nowMono⟩

def ReaderState.commit (s : ReaderState Digest) (bundle : ContinuousTelemetryBundle D)
    (bundleDigest : Digest) : ReaderState Digest :=
  { s with
    lastBundleSequence := some bundle.bundleSequence
    lastBundleDigest := some bundleDigest
    lastStageEpoch := some bundle.stage.epoch
    stageNames := (bundle.stage.epoch, bundle.stage.name) :: s.stageNames }

/-- The gates and the commit of `_accept`. -/
def gateBundle (lib : Library D Digest) (config : ReaderConfig)
    (bundle : ContinuousTelemetryBundle D) (bundleDigest : Digest) (now : ViewerClocks) :
    ReaderMethod Digest (TelemetryVisibility D) := do
  let (arm, armStatus) ← gateStream lib armKind bundle.arm config.armMaxAgeNs now
  let (hand, handStatus) ← gateStream lib handKind bundle.hand config.handMaxAgeNs now
  update fun s => s.commit bundle bundleDigest
  return ⟨bundle, arm, hand, armStatus, handStatus⟩

/-- **`_accept`.** -/
def accept (lib : Library D Digest) (config : ReaderConfig)
    (bundle : ContinuousTelemetryBundle D) (bundleDigest : Digest)
    (nowUnixNs nowMonotonicNs : PyValue D) : ReaderMethod Digest (TelemetryVisibility D) := do
  let s ← read
  let now ← ofExcept (checkBundle config bundle bundleDigest nowUnixNs nowMonotonicNs s)
  gateBundle lib config bundle bundleDigest now

/-- **A call of `read_mapping`.** The clocks are the arguments, or the clock readings where they
are `None`; `rawDigest` is a digest that is neither `None` nor empty. -/
structure ReadCall (D Digest : Type) where
  payload : PyValue D
  nowUnixNs : PyValue D
  nowMonotonicNs : PyValue D
  rawDigest : Option Digest

/-- **`read_mapping`.** -/
def readMapping (lib : Library D Digest) (config : ReaderConfig) (call : ReadCall D Digest) :
    ReaderMethod Digest (TelemetryVisibility D) := do
  let bundle ← ofExcept (continuousTelemetryFromMapping lib call.payload)
  let digest ← ofExcept (call.rawDigest.elim (lib.payloadDigest call.payload) .ok)
  accept lib config bundle digest call.nowUnixNs call.nowMonotonicNs

/-- **A reader** as a machine: every call is an event with its result. -/
def reader (lib : Library D Digest) (config : ReaderConfig) :
    Machine (ReaderState Digest) (ReadCall D Digest)
      (Except Raised (TelemetryVisibility D)) where
  step s call :=
    let result := readMapping lib config call s
    (result.2.1, [result.1])

end FrankaDeploy.ViewerTelemetry
