import FrankaDeploy.Servo.DesiredHistory

/-! # The ARM contract and the static preflight

`require_arm_contract` and `require_preflight` of `servo_core.cpp`: what an ARM payload must agree
with before the robot is opened, and what the first sample of the opened robot must agree with
before a control session is started. -/

namespace FrankaDeploy.Servo

open FrankaDeploy.Foundation
open scoped FloatArith

variable {D : Type} [FloatArith D]

/-! ## Compiled values -/

namespace HardSafetyLimits

def maximumHeartbeatTimeoutNs : ℕ := 100000000

def maximumFirstTargetTimeoutNs : ℕ := 5000000000

def maximumInterTargetTimeoutNs : ℕ := 500000000

def maximumSessionDurationNs : ℕ := 15000000000

def maximumTargetCount : ℕ := 720

def expectedFTee : Vec 16 ℚ := fun i => if i.1 % 5 = 0 then 1 else 0

def expectedEndEffectorMassKg : ℚ := 607 / 1000

def expectedEndEffectorComM : Vec 3 ℚ := fun i => [0, 0, 76 / 1000].getD i.1 0

def expectedEndEffectorInertiaKgM2 : Vec 9 ℚ := fun i =>
  [151 / 100000, 0, 0, 0, 169 / 100000, 0, 0, 0, 442 / 1000000].getD i.1 0

def expectedExternalLoadMassKg : ℚ := 0

def profileSha256 : String := "90a04c8395671905e1e3e1a05430360f5aaa179b247821ebc4a35a0edb330a6a"

def envelopeSha256 : String := "8f8842d2fab798bb6541c4a9c3333917f1e555de8ec60b8909bf2eae39899234"

end HardSafetyLimits

def compiled {n : ℕ} (v : Vec n ℚ) : Vec n D := fun i => FloatArith.ofRat (v i)

/-! ## Bytes -/

def allZero {n : ℕ} (values : Vec n UInt8) : Bool :=
  (List.finRange n).foldl (fun combined i => combined ||| values i) 0 = 0

def bytesEqual {n : ℕ} (left right : Vec n UInt8) : Bool :=
  (List.finRange n).foldl (fun difference i => difference ||| (left i ^^^ right i)) 0 = 0

def hexNibble (value : Char) : Option UInt8 :=
  if '0' ≤ value ∧ value ≤ '9' then some (UInt8.ofNat (value.toNat - '0'.toNat))
  else if 'a' ≤ value ∧ value ≤ 'f' then some (UInt8.ofNat (value.toNat - 'a'.toNat + 10))
  else none

/-- `parse_sha256`: `count` bytes and nothing after them. -/
def parseSha256 : ℕ → List Char → Option (List UInt8)
  | 0, [] => some []
  | count + 1, high :: low :: text =>
    match hexNibble high, hexNibble low, parseSha256 count text with
    | some h, some l, some rest => some ((h <<< 4 ||| l) :: rest)
    | _, _, _ => none
  | _, _ => none

def compiledDigest (text : String) : Vec 32 UInt8 := fun i =>
  ((parseSha256 32 text.toList).getD []).getD i.1 0

/-! ## The ARM contract -/

/-- An `ArmPayload` as it is received, with its reserved bytes. -/
structure ReceivedArm (D : Type) extends ArmPayload D where
  reserved : Vec 8 UInt8

/-- `throw ServoFault`, if a condition holds. -/
def rejectIf (c : Prop) [Decidable c] (code : FaultCode) (what : String) :
    Except ServoFault Unit :=
  if c then .error (.of code what) else .ok ()

@[simp] theorem rejectIf_eq_ok {c : Prop} [Decidable c] {code : FaultCode} {what : String} {u : Unit} :
    rejectIf c code what = .ok u ↔ ¬c := by
  unfold rejectIf
  by_cases hc : c
  · rw [if_pos hc]
    exact ⟨fun h => (nomatch h), fun h => absurd hc h⟩
  · rw [if_neg hc]
    exact ⟨fun _ => hc, fun _ => rfl⟩

def compiledTolerance : D := FloatArith.ofRat (1 / 1000000000000)

/-- `max_abs_difference(value, compiled) > 1.0e-12`. -/
def differsFromCompiled {n : ℕ} (value : Vec n D) (expected : Vec n ℚ) : Prop :=
  compiledTolerance < maxAbsDifference value (compiled expected)

instance {n : ℕ} (value : Vec n D) (expected : Vec n ℚ) :
    Decidable (differsFromCompiled value expected) :=
  inferInstanceAs (Decidable (compiledTolerance < maxAbsDifference value (compiled expected)))

open HardSafetyLimits in
/-- **`require_arm_contract`.** -/
def requireArmContract (arm : ReceivedArm D) (nowNs : ℕ) : Except ServoFault Unit := do
  rejectIf (!bytesEqual arm.profileSha256 (compiledDigest profileSha256) ∨
      !bytesEqual arm.envelopeSha256 (compiledDigest envelopeSha256)) .authorization
    "ARM profile/envelope digest differs from compiled V94 contract"
  rejectIf (allZero arm.permitSha256 ∨ allZero arm.runIdSha256 ∨ allZero arm.authorizationId)
    .authorization "ARM run/permit/authorization binding is zero"
  rejectIf (¬(arm.authorizationIssuedMonotonicNs ≤ nowNs ∧
      nowNs < arm.authorizationExpiresMonotonicNs)) .authorization
    "ARM authorization is not active"
  rejectIf (arm.heartbeatTimeoutNs ≠ maximumHeartbeatTimeoutNs ∨
      arm.firstTargetTimeoutNs ≠ maximumFirstTargetTimeoutNs ∨
      arm.targetTimeoutNs ≠ maximumInterTargetTimeoutNs ∨
      arm.maximumSessionDurationNs ≠ HardSafetyLimits.maximumSessionDurationNs) .authorization
    "ARM watchdog/session values differ from fixed V94 values"
  rejectIf (!allZero arm.reserved) .protocol "ARM reserved bytes are not zero"
  rejectIf (arm.controllerMode ≠ 0 ∧ arm.controllerMode ≠ 1) .protocol
    "ARM controller_mode is unknown"
  rejectIf (arm.maximumTargetCount = 0 ∨ HardSafetyLimits.maximumTargetCount < arm.maximumTargetCount)
    .authorization "ARM maximum_target_count is outside 1..720"
  rejectIf (differsFromCompiled arm.qHomeRad HardSafetyLimits.qHome) .authorization
    "ARM q_home differs from compiled V94 values"
  rejectIf (differsFromCompiled arm.safeJointLowerRad safeJointLower) .authorization
    "ARM safe lower limits differ from compiled V94 values"
  rejectIf (differsFromCompiled arm.safeJointUpperRad safeJointUpper) .authorization
    "ARM safe upper limits differ from compiled V94 values"
  rejectIf (differsFromCompiled arm.expectedFTEE expectedFTee) .authorization
    "ARM F_T_EE differs from compiled V94 values"
  rejectIf (differsFromCompiled arm.expectedEndEffectorComM
      HardSafetyLimits.expectedEndEffectorComM) .authorization
    "ARM end-effector COM differs from compiled V94 values"
  rejectIf (differsFromCompiled arm.expectedEndEffectorInertiaKgM2
      HardSafetyLimits.expectedEndEffectorInertiaKgM2) .authorization
    "ARM end-effector inertia differs from compiled V94 values"
  rejectIf (!FloatArith.isFinite arm.expectedEndEffectorMassKg ∨
      compiledTolerance < FloatArith.abs (arm.expectedEndEffectorMassKg -
        FloatArith.ofRat HardSafetyLimits.expectedEndEffectorMassKg)) .authorization
    "ARM end-effector mass differs from compiled V94 value"
  rejectIf (!FloatArith.isFinite arm.expectedExternalLoadMassKg ∨
      compiledTolerance < FloatArith.abs arm.expectedExternalLoadMassKg) .authorization
    "ARM external-load mass differs from compiled V94 value"

/-! ## The preflight -/

/-- A `RobotSample` with the tool and load fields, which only the preflight reads. -/
structure PreflightSample (D : Type) extends RobotSample D where
  fTEE : Vec 16 D
  endEffectorMassKg : D
  endEffectorComM : Vec 3 D
  endEffectorInertiaKgM2 : Vec 9 D
  externalLoadMassKg : D

/-- An array of the tool is not finite or differs from the armed one by more than the tolerance. -/
def toolDiffers {n : ℕ} (value expected : Vec n D) (tolerance : ℚ) : Prop :=
  value.allFinite = false ∨ FloatArith.ofRat tolerance < maxAbsDifference value expected

instance {n : ℕ} (value expected : Vec n D) (tolerance : ℚ) :
    Decidable (toolDiffers value expected tolerance) :=
  inferInstanceAs (Decidable (_ ∨ _))

def massDiffers (value expected : D) : Prop :=
  FloatArith.isFinite value = false ∨
    FloatArith.ofRat (1 / 100000) < FloatArith.abs (value - expected)

instance (value expected : D) : Decidable (massDiffers value expected) :=
  inferInstanceAs (Decidable (_ ∨ _))

/-- **`require_preflight`.** -/
def requirePreflight (sample : PreflightSample D) (arm : ArmPayload D) :
    Except ServoFault Unit := do
  rejectIf (sample.mode ≠ .idle ∨ !stateIsClear sample.toRobotSample ∨
      !sampleVectorsAreFinite sample.toRobotSample ∨
      FloatArith.ofRat HardSafetyLimits.stopMaximumVelocityRadS < maxAbs sample.dqRadS)
    .staticPreflight "fresh Franka preflight is not healthy Idle/rest"
  rejectIf (FloatArith.ofRat HardSafetyLimits.maximumStartErrorRad <
      maxAbsDifference sample.qRad arm.qHomeRad) .staticPreflight
    "fresh Franka q differs from V94 q_home"
  rejectIf (toolDiffers sample.fTEE arm.expectedFTEE (1 / 100000000) ∨
      massDiffers sample.endEffectorMassKg arm.expectedEndEffectorMassKg ∨
      toolDiffers sample.endEffectorComM arm.expectedEndEffectorComM (1 / 1000000) ∨
      toolDiffers sample.endEffectorInertiaKgM2 arm.expectedEndEffectorInertiaKgM2 (1 / 1000000) ∨
      massDiffers sample.externalLoadMassKg arm.expectedExternalLoadMassKg) .staticPreflight
    "same-Robot static tool/load provenance mismatch"

end FrankaDeploy.Servo
