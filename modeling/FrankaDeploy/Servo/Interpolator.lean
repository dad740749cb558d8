import FrankaDeploy.Servo.Backend

/-! # The command interpolator

`franka_v225_interpolator.hpp`: the joint limits that survive the transport through binary32, and
the generator that turns a held target into position commands, a low-pass filter followed by a
critically damped second-order system with limited jerk, acceleration and velocity. An
`std::invalid_argument` is its text. -/

namespace FrankaDeploy.Servo

open FrankaDeploy.Foundation
open scoped FloatArith

variable {D S : Type} [FloatArith D] [FloatArith S] [FloatCast D S]

/-! ## Sendable limits -/

namespace SendableJointLimits

variable (S) in
def firstFloatStrictlyAbove (lowerBound : D) : D :=
  let candidate : S := FloatCast.narrow lowerBound
  if (FloatCast.widen candidate : D) ≤ lowerBound then
    FloatCast.widen (FloatArith.nextUp candidate)
  else FloatCast.widen candidate

variable (S) in
def firstFloatStrictlyBelow (upperBound : D) : D :=
  let candidate : S := FloatCast.narrow upperBound
  if upperBound ≤ (FloatCast.widen candidate : D) then
    FloatCast.widen (FloatArith.nextDown candidate)
  else FloatCast.widen candidate

variable (D S) in
def lower : Vec 7 D := fun joint =>
  firstFloatStrictlyAbove S (FloatArith.ofRat (HardSafetyLimits.safeJointLower joint))

variable (D S) in
def upper : Vec 7 D := fun joint =>
  firstFloatStrictlyBelow S (FloatArith.ofRat (HardSafetyLimits.safeJointUpper joint))

variable (S) in
/-- **`clamp`**: every component is moved into the sendable interval; none may be infinite or a
NaN. -/
def clamp (value : Vec 7 D) : Except String (Vec 7 D) :=
  if !value.allFinite then .error "sendable joint command is non-finite"
  else .ok fun joint => FloatArith.stdClamp (value joint) (lower D S joint) (upper D S joint)

end SendableJointLimits

/-! ## The generator -/

/-- **`InterpolatedCommand`.** -/
structure InterpolatedCommand (D : Type) where
  q : Vec 7 D
  dq : Vec 7 D
  ddq : Vec 7 D
  filteredTarget : Vec 7 D

namespace FrankaV225Interpolator

def targetLowpassCutoffHz : ℚ := 100

def trackingNaturalFrequencyHz : ℚ := 6

def trackingDampingRatio : ℚ := 1

def pi : ℚ := 314159265358979323846 / 100000000000000000000

def requireFinite (value : Vec 7 D) : Except String (Vec 7 D) :=
  if !value.allFinite then .error "V225 interpolator state is non-finite" else .ok value

variable (S) in
def init (startQ startDq startDdq : Vec 7 D) : Except String (InterpolatedCommand D) := do
  let q ← SendableJointLimits.clamp S startQ
  return ⟨q, startDq, startDdq, q⟩

variable (S) in
def holdFilteredTargetAt (state : InterpolatedCommand D) (desiredQ : Vec 7 D) :
    Except String (InterpolatedCommand D) := do
  let filteredTarget ← SendableJointLimits.clamp S desiredQ
  return { state with filteredTarget := filteredTarget }

variable (S) in
/-- `synchronize_desired_history`: the filtered target is kept. -/
def synchronizeDesiredHistory (state : InterpolatedCommand D) (q dq ddq : Vec 7 D) :
    Except String (InterpolatedCommand D) := do
  let q ← SendableJointLimits.clamp S q
  let dq ← requireFinite dq
  let ddq ← requireFinite ddq
  return { state with q := q, dq := dq, ddq := ddq }

def lowpassGain (dtS : D) : D :=
  dtS / (dtS + FloatArith.one /
    (FloatArith.ofRat 2 * FloatArith.ofRat pi * FloatArith.ofRat targetLowpassCutoffHz))

def omega : D :=
  FloatArith.ofRat 2 * FloatArith.ofRat pi * FloatArith.ofRat trackingNaturalFrequencyHz

structure JointCommand (D : Type) where
  q : D
  dq : D
  ddq : D
  filteredTarget : D

def accelerationToVelocityGain : D :=
  FloatArith.ofRat HardSafetyLimits.maximumCommandJerkRadS3 /
    FloatArith.ofRat HardSafetyLimits.maximumCommandAccelerationRadS2

/-- `desired_acceleration`: the critically damped pull towards the filtered target. -/
def desiredAcceleration (filteredTarget q dq : D) : D :=
  omega * omega * (filteredTarget - q) -
    FloatArith.ofRat 2 * FloatArith.ofRat trackingDampingRatio * omega * dq

def jerkLimitedAcceleration (desired ddq dtS : D) : D :=
  let delta := FloatArith.stdClamp (desired - ddq)
    (-FloatArith.ofRat HardSafetyLimits.maximumCommandJerkRadS3 * dtS)
    (FloatArith.ofRat HardSafetyLimits.maximumCommandJerkRadS3 * dtS)
  FloatArith.stdClamp (ddq + delta)
    (-FloatArith.ofRat HardSafetyLimits.maximumCommandAccelerationRadS2)
    (FloatArith.ofRat HardSafetyLimits.maximumCommandAccelerationRadS2)

/-- `safe_maximum_acceleration`: what the velocity ceiling still allows. -/
def safeMaximumAcceleration (dq : D) : D :=
  FloatArith.stdMin
    (accelerationToVelocityGain *
      (FloatArith.ofRat HardSafetyLimits.maximumCommandVelocityRadS - dq))
    (FloatArith.ofRat HardSafetyLimits.maximumCommandAccelerationRadS2)

def safeMinimumAcceleration (dq : D) : D :=
  FloatArith.stdMax
    (accelerationToVelocityGain *
      (-FloatArith.ofRat HardSafetyLimits.maximumCommandVelocityRadS - dq))
    (-FloatArith.ofRat HardSafetyLimits.maximumCommandAccelerationRadS2)

/-- **The body of the loop over the joints.** -/
def stepJoint (joint : JointCommand D) (held lowerLimit upperLimit dtS : D) : JointCommand D :=
  let gain := lowpassGain dtS
  let filteredTarget := gain * held + (FloatArith.one - gain) * joint.filteredTarget
  let jerkLimited := jerkLimitedAcceleration
    (desiredAcceleration filteredTarget joint.q joint.dq) joint.ddq dtS
  let acceleration := FloatArith.stdClamp jerkLimited (safeMinimumAcceleration joint.dq)
    (safeMaximumAcceleration joint.dq)
  let velocity := FloatArith.stdClamp (joint.dq + acceleration * dtS)
    (-FloatArith.ofRat HardSafetyLimits.maximumCommandVelocityRadS)
    (FloatArith.ofRat HardSafetyLimits.maximumCommandVelocityRadS)
  let position := joint.q + velocity * dtS
  ⟨FloatArith.stdClamp position lowerLimit upperLimit, velocity, acceleration, filteredTarget⟩

variable (S) in
/-- **`step`.** -/
def step (state : InterpolatedCommand D) (heldTarget : Vec 7 D) (dtS : D) :
    Except String (InterpolatedCommand D) := do
  if !decide (FloatArith.zero < dtS) || !FloatArith.isFinite dtS then
    .error "V225 interpolator dt must be finite and positive"
  else
    let held ← SendableJointLimits.clamp S heldTarget
    let stepped := fun joint =>
      stepJoint ⟨state.q joint, state.dq joint, state.ddq joint, state.filteredTarget joint⟩
        (held joint) (SendableJointLimits.lower D S joint) (SendableJointLimits.upper D S joint) dtS
    return ⟨fun joint => (stepped joint).q, fun joint => (stepped joint).dq,
      fun joint => (stepped joint).ddq, fun joint => (stepped joint).filteredTarget⟩

end FrankaV225Interpolator

/-! ## What clamping gives -/

theorem clamp_eq_ok_iff {value result : Vec 7 D} :
    SendableJointLimits.clamp S value = .ok result ↔
      value.allFinite = true ∧ result = fun joint => FloatArith.stdClamp (value joint)
        (SendableJointLimits.lower D S joint) (SendableJointLimits.upper D S joint) := by
  unfold SendableJointLimits.clamp
  by_cases h : value.allFinite = true
  · rw [h]
    exact ⟨fun heq => ⟨rfl, (Except.ok.inj heq).symm⟩, fun heq => congrArg Except.ok heq.2.symm⟩
  · rw [Bool.not_eq_true] at h
    rw [h]
    constructor
    · intro heq
      cases heq
    · rintro ⟨hbad, -⟩
      cases hbad

end FrankaDeploy.Servo
