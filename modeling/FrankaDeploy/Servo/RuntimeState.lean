import FrankaDeploy.Servo.Backend

/-! # The state of the servo process

`RuntimeState` and `ServoFault` of `servo_core.cpp`. -/

namespace FrankaDeploy.Servo

open FrankaDeploy.Foundation
open scoped FloatArith

variable {D : Type} [FloatArith D]

/-- **`ServoFault`**: the exception that ends the active loop. The text is the fixed part of the
message, without the diagnostic numbers that some messages append. -/
structure ServoFault where
  code : FaultCode
  what : String
  systemErrno : ℤ
deriving DecidableEq, Repr

def ServoFault.of (code : FaultCode) (what : String) : ServoFault := ⟨code, what, 0⟩

/-- **`RuntimeState`**, without the shaper snapshot that only the telemetry copies. -/
structure RuntimeState (D : Type) where
  criticalOutSequence : ℕ
  telemetryOutSequence : ℕ
  criticalInSequence : ℕ
  heartbeatSequence : ℕ
  lastHeartbeatNs : ℕ
  actionReadyNs : ℕ
  lastTargetReceivedNs : ℕ
  lastTargetSequence : ℕ
  lastObservationSequence : ℕ
  targetAckCount : ℕ
  telemetryDropCount : ℕ
  activeReads : ℕ
  activeWrites : ℕ
  cycle : ℕ
  maximumReadToWriteNs : ℕ
  maximumControlPeriodMs : ℕ
  missedRobotStates : ℕ
  consecutiveHealthyCycles : ℕ
  minimumHealthySuccessRate : D
  actionReady : Bool
  targetPendingAck : Bool
  startQ : Vec 7 D
  priorCommand : Vec 7 D
  lastCommand : Vec 7 D
  lastCommandVelocity : Vec 7 D
  lastCommandAcceleration : Vec 7 D
  heldTarget : Vec 7 D
  pendingTarget : TargetPayload D
  latestSample : RobotSample D

def zeros {n : ℕ} : Vec n D := fun _ => FloatArith.zero

/-- A default-constructed `RobotSample`. -/
def RobotSample.default : RobotSample D where
  qRad := zeros
  dqRadS := zeros
  desiredQRad := zeros
  desiredDqRadS := zeros
  desiredDdqRadS2 := zeros
  oTEE := zeros
  robotTimeMs := 0
  controlPeriodMs := 0
  mode := .unknown
  statusFlags := 0
  currentErrorsText := text "[]"
  lastMotionErrorsText := text "[]"
  controlCommandSuccessRate := FloatArith.zero

/-- A default-constructed `RuntimeState`. -/
def RuntimeState.default : RuntimeState D where
  criticalOutSequence := 1
  telemetryOutSequence := 1
  criticalInSequence := 1
  heartbeatSequence := 0
  lastHeartbeatNs := 0
  actionReadyNs := 0
  lastTargetReceivedNs := 0
  lastTargetSequence := 0
  lastObservationSequence := 0
  targetAckCount := 0
  telemetryDropCount := 0
  activeReads := 0
  activeWrites := 0
  cycle := 0
  maximumReadToWriteNs := 0
  maximumControlPeriodMs := 0
  missedRobotStates := 0
  consecutiveHealthyCycles := 0
  minimumHealthySuccessRate := FloatArith.one
  actionReady := false
  targetPendingAck := false
  startQ := zeros
  priorCommand := zeros
  lastCommand := zeros
  lastCommandVelocity := zeros
  lastCommandAcceleration := zeros
  heldTarget := zeros
  pendingTarget := ⟨0, 0, 0, zeros⟩
  latestSample := .default

end FrankaDeploy.Servo
