import FrankaDeploy.ViewerTelemetry.Native

/-! # The native adapter

`NativeContinuousTelemetryAdapter.accept`: the immutable header with its latched fault, and the two
streams, each parsed and gated on its own. A gate moves both of its marks together and only for a
larger sequence. -/

namespace FrankaDeploy.ViewerTelemetry

open FrankaDeploy.Foundation
open FrankaDeploy.Foundation.Program
open FrankaDeploy.PersistentSession (Matrix)

/-- **What an adapter keeps of a stream.** -/
structure StreamRecord (Digest : Type) where
  state : Option (HighWater Digest)
  stage : Option NativeTelemetryStage

/-- **The state of a `NativeContinuousTelemetryAdapter`.** -/
structure AdapterState (Digest : Type) where
  headerCreation : Option (ℕ × ℕ)
  identityFault : Option String
  streams : StreamName → StreamRecord Digest

def AdapterState.initial {Digest : Type} : AdapterState Digest where
  headerCreation := none
  identityFault := none
  streams := fun _ => ⟨none, none⟩

def AdapterState.setStream {Digest : Type} (s : AdapterState Digest) (name : StreamName)
    (record : StreamRecord Digest) : AdapterState Digest :=
  { s with streams := Function.update s.streams name record }

/-- **`NativeTelemetryVisibility`.** A visible stream has its sample, its stage and its bundle
sequence; a hidden one has none of them. -/
structure NativeTelemetryVisibility (D : Type) where
  identity : TelemetryIdentity
  arm : Option (StableSample (Matrix 4 D))
  hand : Option (StableSample HandAngles)
  armStatus : String
  handStatus : String
  streamsCoherent : Bool

abbrev AdapterMethod (Digest α : Type) := Program (AdapterState Digest) Empty Raised α

namespace NativeAdapter

variable {D Digest C : Type} [FloatArith D] [DecidableEq Digest]

/-! ## The header -/

def latchIdentityFault {α : Type} (message : String) : AdapterMethod Digest α := do
  update fun s => { s with identityFault := some message }
  fail (identityError message)

def parseHeader (header : PyValue D) : AdapterMethod Digest (TelemetryIdentity × ℕ × ℕ) :=
  match telemetryIdentityFromNativeHeader header with
  | .ok fields => return fields
  | .error e =>
    if e.family = .other then fail e
    else latchIdentityFault ("native telemetry immutable header is invalid: " ++ e.message)

def readClocks (nowUnixNs nowMonotonicNs : PyValue D) : Except Raised ViewerClocks := do
  let nowWall ← nonnegativeInteger nowUnixNs "now_unix_ns"
  let nowMono ← nonnegativeInteger nowMonotonicNs "now_monotonic_ns"
  return ⟨nowWall, nowMono⟩

/-- **The header of a call**: a header that does not hold latches the fault. -/
def admitHeader (config : ReaderConfig) (header nowUnixNs nowMonotonicNs : PyValue D) :
    AdapterMethod Digest ViewerClocks := do
  let (identity, creation) ← parseHeader header
  runIf (identity ≠ config.expectedIdentity) (latchIdentityFault
    "native telemetry run UUID/artifact hashes do not match this viewer")
  let s ← read
  runIf (s.headerCreation.any fun known => decide (creation ≠ known)) (latchIdentityFault
    "native telemetry header creation changed within one viewer run")
  update fun s => { s with headerCreation := some creation }
  let now ← ofExcept (readClocks nowUnixNs nowMonotonicNs)
  runIf (creation.1 > now.unixNs + maxFutureSkewNs ∨ creation.2 > now.monotonicNs + maxFutureSkewNs)
    (latchIdentityFault "native telemetry header creation timestamp is in the future")
  return now

/-! ## The streams -/

/-- **`_parse_native_stream`**: a malformed reading hides its stream. -/
def parseNativeStream {S : Type} (name : StreamName) (parsed : Except Raised S) :
    Except Raised (Except String S) :=
  match parsed with
  | .ok reading => .ok (.ok reading)
  | .error e =>
    if e.family = .other then .error e
    else .ok (.error (name.text ++ " hidden: " ++ e.message))

def nativeEnvelopeFingerprint (lib : Library D Digest) (kind : StreamKind D C)
    (content : StableSample C) : Except Raised Digest := do
  let sampleSha256 ← sampleFingerprint lib kind content.sample
  lib.envelopeDigest ⟨sampleSha256, content.stage.name, content.stage.epoch,
    content.stage.nameHash64, content.bundleSequence⟩

def stageMark (stage : NativeTelemetryStage) : HighWater (String × ℕ) :=
  ⟨stage.epoch, stage.name, stage.nameHash64⟩

def advance (record : StreamRecord Digest) (fingerprint : Digest) (content : StableSample C) :
    StreamRecord Digest :=
  if record.state.all fun previous => decide (previous.key < content.sample.sampleSequence) then
    ⟨some ⟨content.sample.sampleSequence, fingerprint⟩, some content.stage⟩
  else record

def refusal (record : StreamRecord Digest) (name : StreamName) (fingerprint : Digest)
    (content : StableSample C) : Option String :=
  (replayStatus record.state content.sample.sampleSequence fingerprint
      (name.text ++ " sequence moved backwards")
      (name.text ++ " changed under the same sequence")).or
    (replayStatus (record.stage.map stageMark) content.stage.epoch
      (content.stage.name, content.stage.nameHash64)
      (name.text ++ " stage_epoch moved backwards")
      (name.text ++ " stage changed without a new epoch"))

/-- **`_gate_native_stream`.** -/
def gateNativeStream (lib : Library D Digest) (kind : StreamKind D C)
    (reading : Except String (NativeRead C)) (maxAgeNs : ℕ) (now : ViewerClocks) :
    AdapterMethod Digest (Option (StableSample C) × String) :=
  match reading with
  | .error status => return (none, status)
  | .ok (.unavailable contended _ _) =>
    return (none, kind.name.text ++ " unavailable: " ++
      if contended then "CONTENDED" else "NO_DATA")
  | .ok (.stable _ content) => do
    let fingerprint ← ofExcept (nativeEnvelopeFingerprint lib kind content)
    let s ← read
    match refusal (s.streams kind.name) kind.name fingerprint content with
    | some status => return (none, status)
    | none => do
      update fun s =>
        s.setStream kind.name (advance (s.streams kind.name) fingerprint content)
      gateFreshness D kind.name content content.sample maxAgeNs now

/-! ## A call -/

def streamsCoherent (arm : Option (StableSample (Matrix 4 D)))
    (hand : Option (StableSample HandAngles)) : Bool :=
  match arm, hand with
  | some arm, some hand =>
    decide (arm.stage.epoch = hand.stage.epoch ∧ arm.stage.name = hand.stage.name ∧
      arm.stage.nameHash64 = hand.stage.nameHash64) &&
    decide (arm.bundleSequence = 0 ∨ hand.bundleSequence = 0 ∨
      arm.bundleSequence = hand.bundleSequence)
  | _, _ => false

def visibility (identity : TelemetryIdentity)
    (arm : Option (StableSample (Matrix 4 D)) × String)
    (hand : Option (StableSample HandAngles) × String) : NativeTelemetryVisibility D :=
  let coherent := streamsCoherent arm.1 hand.1
  let suffix :=
    if arm.1.isSome ∧ hand.1.isSome ∧ coherent = false then
      "; not combined with arm: stage/bundle mismatch"
    else ""
  ⟨identity, arm.1, hand.1, arm.2, hand.2 ++ suffix, coherent⟩

/-- **A call of `accept`.** -/
structure AcceptCall (D : Type) where
  header : PyValue D
  armRead : PyValue D
  handRead : PyValue D
  nowUnixNs : PyValue D
  nowMonotonicNs : PyValue D

def acceptStreams (lib : Library D Digest) (config : ReaderConfig) (call : AcceptCall D)
    (now : ViewerClocks) : AdapterMethod Digest (NativeTelemetryVisibility D) := do
  let armRead ← ofExcept (parseNativeStream .arm (nativeArmReadFromMapping lib call.armRead))
  let handRead ← ofExcept (parseNativeStream .hand (nativeHandReadFromMapping call.handRead))
  let arm ← gateNativeStream lib armKind armRead config.armMaxAgeNs now
  let hand ← gateNativeStream lib handKind handRead config.handMaxAgeNs now
  return visibility config.expectedIdentity arm hand

/-- **`accept`.** -/
def accept (lib : Library D Digest) (config : ReaderConfig) (call : AcceptCall D) :
    AdapterMethod Digest (NativeTelemetryVisibility D) := do
  let s ← read
  match s.identityFault with
  | some message => fail (identityError message)
  | none => do
    let now ← admitHeader config call.header call.nowUnixNs call.nowMonotonicNs
    acceptStreams lib config call now

/-- **An adapter** as a machine: every call is an event with its result. -/
def adapter (lib : Library D Digest) (config : ReaderConfig) :
    Machine (AdapterState Digest) (AcceptCall D)
      (Except Raised (NativeTelemetryVisibility D)) where
  step s call :=
    let result := accept lib config call s
    (result.2.1, [result.1])

end NativeAdapter

end FrankaDeploy.ViewerTelemetry
