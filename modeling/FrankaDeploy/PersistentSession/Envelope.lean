import FrankaDeploy.Runtime.Orchestrator

/-! # What the reference Franka session is bound to

The records of `robot_control/franka/session.py` that `FrankaPersistentSession.run` reads: the
commissioned envelope, the sealed preflight token, the targets with their sample-and-hold, and the
ring of pose samples. -/

namespace FrankaDeploy.PersistentSession

open FrankaDeploy.Foundation FrankaDeploy.Runtime
open scoped FloatArith

variable {D : Type} [FloatArith D]

/-! ## Exceptions -/

def sessionError (message : String) : PyException :=
  ⟨.ordinary, "FrankaPersistentSessionError", message⟩

def valueError (message : String) : PyException := ⟨.ordinary, "ValueError", message⟩

def typeError (message : String) : PyException := ⟨.ordinary, "TypeError", message⟩

def refuse (c : Prop) [Decidable c] (e : PyException) : Except PyException Unit :=
  if c then .error e else .ok ()

/-- `_finite_scalar`; `none` is a value without a conversion to `float`. -/
def finiteScalar (value : Option D) (name : String) : Except PyException D :=
  match value with
  | some x => if FloatArith.isFinite x = true then .ok x else .error (valueError s!"{name} must be finite")
  | none => .error (valueError s!"{name} must be finite")

/-! ## Modes -/

inductive FrankaSessionState where
  | disabled
  | running
  | stopped
  | faultLatched
deriving DecidableEq, Repr

inductive FrankaTargetSource where
  | c1Deterministic
  | c2V94Policy
  | supervisedV94
deriving DecidableEq, Repr

def isTransactionalPolicyMode (mode : FrankaSessionMode) : Bool :=
  mode = .c2V94Policy || mode = .supervisedV94

def targetSourceForMode : FrankaSessionMode → FrankaTargetSource
  | .c2V94Policy => .c2V94Policy
  | .supervisedV94 => .supervisedV94
  | .c1Commissioning => .c1Deterministic

inductive FrankaActionContract where
  | legacy
  | qdG015
deriving DecidableEq, Repr

/-! ## The envelope -/

abbrev Matrix (n : ℕ) (D : Type) := Vec n (Vec n D)

/-- **`CommissionedFrankaEnvelope`**, what a session reads of it. -/
structure FrankaEnvelope (D : Type) extends CommissionedFrankaEnvelope where
  experimentalSupervised : Bool
  expectedFTEE : Matrix 4 D
  expectedEndEffectorMassKg : D
  expectedEndEffectorComM : Vec 3 D
  expectedEndEffectorInertiaKgM2 : Matrix 3 D
  expectedExternalLoadMassKg : D
  expectedExternalLoadComM : Vec 3 D
  expectedExternalLoadInertiaKgM2 : Matrix 3 D
  fTEETolerance : D
  massToleranceKg : D
  centerOfMassToleranceM : D
  inertiaToleranceKgM2 : D
  jointLowerRad : Vec 7 D
  jointUpperRad : Vec 7 D
  jointLimitMarginRad : D
  maximumVelocityRadS : Vec 7 D
  maximumTargetRateRadS : Vec 7 D
  maximumAccelerationRadS2 : Vec 7 D
  maximumJerkRadS3 : Vec 7 D
  maximumMeasuredAccelerationRadS2 : Vec 7 D
  maximumMeasuredJerkRadS3 : Vec 7 D
  maximumTrackingErrorRad : Vec 7 D
  initialTargetToleranceRad : Vec 7 D
  targetReachedToleranceRad : Vec 7 D
  controlPeriodMinS : D
  controlPeriodMaxS : D
  policyCommandMaxAgeS : D
  readToWriteDeadlineS : D
  minimumControlSuccessRate : D
  maximumSessionDurationS : D
  stopMaximumVelocityRadS : Vec 7 D
  stopConsecutiveSamples : ℕ
  stopMaximumSamples : ℕ
  poseRingCapacity : ℕ
  allowOneInitialZeroPeriod : Bool
  stopConsecutiveSamples_pos : 0 < stopConsecutiveSamples
  poseRingCapacity_two : 2 ≤ poseRingCapacity

def FrankaEnvelope.safeJointLowerRad (envelope : FrankaEnvelope D) : Vec 7 D := fun i =>
  envelope.jointLowerRad i + envelope.jointLimitMarginRad

def FrankaEnvelope.safeJointUpperRad (envelope : FrankaEnvelope D) : Vec 7 D := fun i =>
  envelope.jointUpperRad i - envelope.jointLimitMarginRad

/-! ## The preflight token -/

/-- **A sealed preflight token**: a `SupervisedFrankaPreflightToken` or a
`VerifiedFrankaPreflightToken`, which have the same fields. -/
structure FrankaPreflightToken (D : Type) where
  supervised : Bool
  runId : String
  stage : FrankaSessionMode
  profileSha256 : String
  envelopeSha256 : String
  issuedMonotonicS : D
  expiresMonotonicS : D

/-- `SupervisedFrankaPreflightToken.require_active`. -/
def FrankaPreflightToken.requireActiveSupervised (token : FrankaPreflightToken D) (runId : String)
    (stage : FrankaSessionMode) (envelope : FrankaEnvelope D) (now : D) :
    Except PyException Unit := do
  let now ← finiteScalar (some now) "now_monotonic_s"
  refuse (stage ≠ .supervisedV94)
    (sessionError "supervised token cannot authorize a C1 or C2 session")
  refuse (envelope.experimentalSupervised = false)
    (sessionError "supervised token requires the explicit experimental envelope")
  refuse (pyStrip runId ≠ token.runId) (sessionError "supervised token run ID mismatch")
  refuse (envelope.profileSha256 ≠ token.profileSha256)
    (sessionError "supervised profile hash changed")
  refuse (envelope.bindingSha256 ≠ token.envelopeSha256)
    (sessionError "supervised envelope changed")
  refuse (¬(token.issuedMonotonicS ≤ now ∧ now < token.expiresMonotonicS))
    (sessionError "supervised token is not active")

/-- `VerifiedFrankaPreflightToken.require_active`. -/
def FrankaPreflightToken.requireActiveVerified (token : FrankaPreflightToken D) (runId : String)
    (stage : FrankaSessionMode) (envelope : FrankaEnvelope D) (now : D) :
    Except PyException Unit := do
  let now ← finiteScalar (some now) "now_monotonic_s"
  refuse (pyStrip runId ≠ token.runId) (sessionError "preflight token run ID mismatch")
  refuse (stage = .c2V94Policy ∧ token.stage ≠ stage)
    (sessionError "C2 session requires a C2 preflight token")
  refuse (envelope.profileSha256 ≠ token.profileSha256)
    (sessionError "commissioning profile hash changed")
  refuse (envelope.bindingSha256 ≠ token.envelopeSha256)
    (sessionError "runtime Franka envelope changed")
  refuse (¬(token.issuedMonotonicS ≤ now ∧ now < token.expiresMonotonicS))
    (sessionError "preflight token is not active")

/-- `require_active` of the token's class. -/
def FrankaPreflightToken.requireActive (token : FrankaPreflightToken D) (runId : String)
    (stage : FrankaSessionMode) (envelope : FrankaEnvelope D) (now : D) :
    Except PyException Unit :=
  if token.supervised = true then token.requireActiveSupervised runId stage envelope now
  else token.requireActiveVerified runId stage envelope now

/-! ## Targets -/

/-- **`FrankaJointTarget`**, what the session reads of it. -/
structure FrankaJointTarget (D : Type) [FloatArith D] where
  sequence : ℕ
  producedMonotonicS : D
  targetQRad : Vec 7 D
  source : FrankaTargetSource
  sequence_pos : 0 < sequence
  produced_finite : FloatArith.isFinite producedMonotonicS = true
  target_finite : targetQRad.allFinite = true

/-- `FrankaTargetSampleHold`: the latest target. -/
abbrev FrankaTargetSampleHold (D : Type) [FloatArith D] := Option (FrankaJointTarget D)

/-- `FrankaTargetSampleHold.publish`; what it raises goes to the publisher. -/
def FrankaTargetSampleHold.publish (latest : FrankaTargetSampleHold D)
    (target : FrankaJointTarget D) : FrankaTargetSampleHold D :=
  match latest with
  | none => if target.sequence ≠ 1 then latest else some target
  | some previous =>
    if target.sequence ≠ previous.sequence + 1 then latest
    else if target.producedMonotonicS ≤ previous.producedMonotonicS then latest
    else some target

def FrankaTargetSampleHold.sample (latest : FrankaTargetSampleHold D) (now maximumAge : D) :
    Except PyException (FrankaJointTarget D) := do
  let now ← finiteScalar (some now) "now_monotonic_s"
  let maximumAge ← finiteScalar (some maximumAge) "maximum_age_s"
  refuse (maximumAge ≤ FloatArith.zero) (valueError "maximum_age_s must be positive")
  match latest with
  | none => .error (sessionError "no Franka target is available")
  | some target =>
    let age := now - target.producedMonotonicS
    refuse (age < FloatArith.zero) (sessionError "Franka target timestamp is in the future")
    refuse (maximumAge < age) (sessionError
      (s!"Franka target is stale: age={FloatArith.fixedText 6 age}s, " ++
        s!"limit={FloatArith.fixedText 6 maximumAge}s"))
    return target

/-! ## Pose samples -/

/-- `FrankaPoseSample` as the session publishes it. -/
structure FrankaPoseSample (D : Type) where
  cycle : ℕ
  realtimeS : D
  monotonicS : D
  qRad : Vec 7 D
  dqRadS : Vec 7 D
  tBaseEef : Matrix 4 D

/-- `FrankaPoseRing.publish`: the samples that a ring of this capacity holds then. -/
def publishPose (capacity : ℕ) (samples : List (FrankaPoseSample D)) (sample : FrankaPoseSample D) :
    Except PyException (List (FrankaPoseSample D)) := do
  match samples.getLast? with
  | none => .ok ()
  | some previous =>
    refuse (sample.cycle ≠ previous.cycle + 1)
      (sessionError "pose-ring cycle sequence changed")
    refuse (sample.monotonicS < previous.monotonicS)
      (sessionError "pose-ring monotonic clock regressed")
    refuse (sample.realtimeS < previous.realtimeS)
      (sessionError "pose-ring realtime clock regressed")
  let extended := samples ++ [sample]
  return extended.drop (extended.length - capacity)

end FrankaDeploy.PersistentSession
