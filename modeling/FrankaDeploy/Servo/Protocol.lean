import FrankaDeploy.Foundation.FloatArith
import Mathlib.Data.BitVec

/-! # The vocabulary of the servo protocol

Enumerations, status bits and payloads of `protocol.hpp`. Counters and times are natural numbers;
a status word is a 32-bit vector because the code masks it. -/

namespace FrankaDeploy.Servo

open FrankaDeploy.Foundation

/-! ## Enumerations -/

/-- **`MessageKind`.** -/
inductive MessageKind where
  | arm
  | heartbeat
  | target
  | stop
  | hello
  | ipcReady
  | state
  | ack
  | fault
  | stopProof
  | actionReady
deriving DecidableEq, Repr

def MessageKind.code : MessageKind → ℕ
  | .arm => 1
  | .heartbeat => 2
  | .target => 3
  | .stop => 4
  | .hello => 0x101
  | .ipcReady => 0x102
  | .state => 0x103
  | .ack => 0x104
  | .fault => 0x105
  | .stopProof => 0x106
  | .actionReady => 0x107

def MessageKind.name : MessageKind → String
  | .arm => "ARM"
  | .heartbeat => "HEARTBEAT"
  | .target => "TARGET"
  | .stop => "STOP"
  | .hello => "HELLO"
  | .ipcReady => "IPC_READY"
  | .state => "STATE"
  | .ack => "ACK"
  | .fault => "FAULT"
  | .stopProof => "STOP_PROOF"
  | .actionReady => "ACTION_READY"

/-- **`FaultCode`.** -/
inductive FaultCode where
  | none
  | protocol
  | authorization
  | peerDisconnected
  | heartbeatTimeout
  | firstTargetTimeout
  | targetTimeout
  | sessionTimeout
  | robotOpen
  | staticPreflight
  | activeRead
  | controlPeriod
  | dynamicState
  | targetValidation
  | readToWriteDeadline
  | activeWrite
  | criticalReplyBlocked
  | signal
  | stopCleanup
  | internal
deriving DecidableEq, Repr

def FaultCode.code : FaultCode → ℕ
  | .none => 0
  | .protocol => 1
  | .authorization => 2
  | .peerDisconnected => 3
  | .heartbeatTimeout => 4
  | .firstTargetTimeout => 5
  | .targetTimeout => 6
  | .sessionTimeout => 7
  | .robotOpen => 8
  | .staticPreflight => 9
  | .activeRead => 10
  | .controlPeriod => 11
  | .dynamicState => 12
  | .targetValidation => 13
  | .readToWriteDeadline => 14
  | .activeWrite => 15
  | .criticalReplyBlocked => 16
  | .signal => 17
  | .stopCleanup => 18
  | .internal => 19

/-- **`StopReason`.** -/
inductive StopReason where
  | requested
  | signal
  | fault
  | peerDisconnected
deriving DecidableEq, Repr

def StopReason.code : StopReason → ℕ
  | .requested => 1
  | .signal => 2
  | .fault => 3
  | .peerDisconnected => 4

/-- **`RobotModeCode`.** -/
inductive RobotModeCode where
  | unknown
  | idle
  | move
  | other
  | guiding
  | reflex
  | userStopped
  | automaticErrorRecovery
deriving DecidableEq, Repr

def RobotModeCode.code : RobotModeCode → ℕ
  | .unknown => 0
  | .idle => 1
  | .move => 2
  | .other => 3
  | .guiding => 4
  | .reflex => 5
  | .userStopped => 6
  | .automaticErrorRecovery => 7

/-- **`ControllerMode`.** -/
inductive ControllerMode where
  | legacy
  | qdG015
deriving DecidableEq, Repr

/-! ## Status bits -/

abbrev StatusFlags := BitVec 32

def stateHasCurrentErrors : StatusFlags := 1 <<< 0

def stateHasJointContact : StatusFlags := 1 <<< 1

def stateHasJointCollision : StatusFlags := 1 <<< 2

def stateHasCartesianContact : StatusFlags := 1 <<< 3

def stateHasCartesianCollision : StatusFlags := 1 <<< 4

def stateHasLastMotionErrors : StatusFlags := 1 <<< 5

def stateHasOnlyCommunicationConstraintsViolation : StatusFlags := 1 <<< 6

def knownStateStatusMask : StatusFlags :=
  stateHasCurrentErrors ||| stateHasJointContact ||| stateHasJointCollision |||
    stateHasCartesianContact ||| stateHasCartesianCollision ||| stateHasLastMotionErrors |||
    stateHasOnlyCommunicationConstraintsViolation

def contactStatusMask : StatusFlags := stateHasJointContact ||| stateHasCartesianContact

/-! ## Texts -/

/-- The bytes of a `std::string` or of a fixed character field. -/
abbrev Text := List UInt8

def text (s : String) : Text := s.toUTF8.toList

/-! ## Payloads -/

/-- **`ArmPayload`.** -/
structure ArmPayload (D : Type) where
  profileSha256 : Vec 32 UInt8
  envelopeSha256 : Vec 32 UInt8
  permitSha256 : Vec 32 UInt8
  runIdSha256 : Vec 32 UInt8
  authorizationId : Vec 16 UInt8
  authorizationIssuedMonotonicNs : ℕ
  authorizationExpiresMonotonicNs : ℕ
  heartbeatTimeoutNs : ℕ
  firstTargetTimeoutNs : ℕ
  targetTimeoutNs : ℕ
  maximumSessionDurationNs : ℕ
  qHomeRad : Vec 7 D
  safeJointLowerRad : Vec 7 D
  safeJointUpperRad : Vec 7 D
  expectedFTEE : Vec 16 D
  expectedEndEffectorMassKg : D
  expectedEndEffectorComM : Vec 3 D
  expectedEndEffectorInertiaKgM2 : Vec 9 D
  expectedExternalLoadMassKg : D
  maximumTargetCount : ℕ
  controllerMode : ℕ

structure HeartbeatPayload where
  heartbeatSequence : ℕ
deriving DecidableEq, Repr

/-- **`TargetPayload`.** -/
structure TargetPayload (D : Type) where
  targetSequence : ℕ
  observationSequence : ℕ
  producedMonotonicNs : ℕ
  targetQRad : Vec 7 D

structure StopPayload where
  reasonCode : ℕ
  reserved : ℕ
  requestedMonotonicNs : ℕ
deriving DecidableEq, Repr

/-- **`ActionReadyPayload`.** -/
structure ActionReadyPayload (D : Type) where
  consecutiveHealthyCycles : ℕ
  maximumControlPeriodMs : ℕ
  healthyHoldRobotTimeMs : ℕ
  maximumReadToWriteNs : ℕ
  minimumControlCommandSuccessRate : D
  latestControlCommandSuccessRate : D
  measuredQRad : Vec 7 D
  measuredDqRadS : Vec 7 D
  robotTimeMs : ℕ
  activeReadCount : ℕ
  activeWriteCount : ℕ
  statusFlags : StatusFlags
  cumulativeMissedRobotStates : ℕ

/-- **`AckPayload`.** -/
structure AckPayload (D : Type) where
  targetSequence : ℕ
  observationSequence : ℕ
  targetProducedMonotonicNs : ℕ
  targetAgeAtWriteNs : ℕ
  controlCycle : ℕ
  robotTimeMs : ℕ
  appliedMonotonicNs : ℕ
  controlPeriodMs : ℕ
  reserved : ℕ
  targetQRad : Vec 7 D
  commandedQRad : Vec 7 D
  measuredQRad : Vec 7 D
  readToWriteNs : ℕ
  maximumTrackingErrorRad : D

structure StopVerificationSample (D : Type) where
  robotTimeMs : ℕ
  robotMode : ℕ
  statusFlags : StatusFlags
  measuredDqRadS : Vec 7 D

/-- **`StopProofPayload`.** -/
structure StopProofPayload (D : Type) where
  stopReason : ℕ
  terminalFaultCode : ℕ
  finishAttempted : ℕ
  finishSucceeded : ℕ
  robotStopAttempted : ℕ
  robotStopSucceeded : ℕ
  idleDqVerified : ℕ
  activeHandleReleased : ℕ
  faultReplyDelivered : ℕ
  robotBackendReleased : ℕ
  controlCycles : ℕ
  lastTargetSequence : ℕ
  activeReadCount : ℕ
  activeWriteCount : ℕ
  targetAckCount : ℕ
  stopVerificationSamples : ℕ
  stopConsecutiveIdleSamples : ℕ
  finalRobotMode : ℕ
  maximumControlPeriodMs : ℕ
  maximumStopDqRadS : D
  maximumReadToWriteNs : ℕ
  preStopRobotTimeMs : ℕ
  finalRobotTimeMs : ℕ
  telemetryDropCount : ℕ
  verifiedSamples : Fin 3 → StopVerificationSample D
  detail : Text

end FrankaDeploy.Servo
