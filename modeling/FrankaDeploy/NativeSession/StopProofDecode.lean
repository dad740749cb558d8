import FrankaDeploy.Foundation.Python
import FrankaDeploy.Servo.StopProof

/-! # The parent's verdict on a stop proof

`V94NativePODCodec._decode_stop_proof` of `native_session.py`, on the fields of the payload. The
parent trusts none of the child's conclusions: it recomputes whether the robot is idle from the
transmitted samples and compares. -/

namespace FrankaDeploy.NativeSession

open FrankaDeploy.Foundation FrankaDeploy.Servo
open scoped FloatArith

variable {D : Type} [FloatArith D]

/-- `FrankaNativeSupervisedSessionError`. -/
def sessionError (message : String) : PyError := .runtimeError message

def wireBoolean (value : ℕ) (name : String) : Except PyError Bool :=
  if value = 0 then .ok false
  else if value = 1 then .ok true
  else .error (sessionError s!"{name} is not a fixed-width wire boolean")

/-- `_decode_fixed_text` without a length: the bytes before the first zero, which must be UTF-8
and be followed by zeros only. -/
def decodeFixedText (raw : Text) : Except PyError String :=
  let leading := raw.takeWhile (· ≠ 0)
  if (raw.drop leading.length).any (· ≠ 0) then
    .error (sessionError "fixed diagnostic text has nonzero trailing bytes")
  else
    match String.fromUTF8? ⟨leading.toArray⟩ with
    | some s => .ok s
    | none => .error (sessionError "diagnostic text is not valid UTF-8")

structure StopProofFlags where
  finishAttempted : Bool
  finishSucceeded : Bool
  robotStopAttempted : Bool
  robotStopSucceeded : Bool
  idleDqVerified : Bool
  activeHandleReleased : Bool
  faultReplyDelivered : Bool
  robotBackendReleased : Bool
deriving DecidableEq, Repr

def decodeFlags (p : StopProofPayload D) : Except PyError StopProofFlags := do
  let finishAttempted ← wireBoolean p.finishAttempted "STOP_PROOF flag[0]"
  let finishSucceeded ← wireBoolean p.finishSucceeded "STOP_PROOF flag[1]"
  let robotStopAttempted ← wireBoolean p.robotStopAttempted "STOP_PROOF flag[2]"
  let robotStopSucceeded ← wireBoolean p.robotStopSucceeded "STOP_PROOF flag[3]"
  let idleDqVerified ← wireBoolean p.idleDqVerified "STOP_PROOF flag[4]"
  let activeHandleReleased ← wireBoolean p.activeHandleReleased "STOP_PROOF flag[5]"
  let faultReplyDelivered ← wireBoolean p.faultReplyDelivered "STOP_PROOF flag[6]"
  let robotBackendReleased ← wireBoolean p.robotBackendReleased "STOP_PROOF flag[7]"
  return ⟨finishAttempted, finishSucceeded, robotStopAttempted, robotStopSucceeded,
    idleDqVerified, activeHandleReleased, faultReplyDelivered, robotBackendReleased⟩

def StopProofFlags.healthyFinishPath (f : StopProofFlags) : Bool :=
  f.finishAttempted && f.finishSucceeded && !f.robotStopAttempted

def StopProofFlags.directStopPath (f : StopProofFlags) : Bool :=
  !f.finishAttempted && f.robotStopAttempted

def StopProofFlags.failedFinishStopFallback (f : StopProofFlags) : Bool :=
  f.finishAttempted && !f.finishSucceeded && f.robotStopAttempted

def allowedStopModes (f : StopProofFlags) (terminalFault stopReason : ℕ) : List ℕ :=
  if (f.directStopPath || f.failedFinishStopFallback) && f.robotStopSucceeded then
    if terminalFault = 0 ∧ stopReason ∈ [1, 2] then [1, 5, 3] else [1, 5]
  else [1]

def stopStatusIsClear (allowed : List ℕ) (sample : StopVerificationSample D) : Bool :=
  let requestedStopCommunicationStatus : StatusFlags := 1 <<< 0 ||| 1 <<< 5 ||| 1 <<< 6
  sample.statusFlags = 0 ||
    sample.robotMode ∈ [1, 5] && sample.robotMode ∈ allowed &&
      sample.statusFlags = requestedStopCommunicationStatus

/-- `sample_dq`: the velocities of the three samples, row by row. -/
def sampleDq (p : StopProofPayload D) : List D :=
  (List.finRange 3).flatMap fun k =>
    (List.finRange 7).map fun i => (p.verifiedSamples k).measuredDqRadS i

def npMax (start : D) (l : List D) : D := l.foldl npMaximum start

/-- **`raw_idle_verified`**: the parent's own verdict from the transmitted samples. -/
def rawIdleVerified (p : StopProofPayload D) (f : StopProofFlags) : Bool :=
  let allowed := allowedStopModes f p.terminalFaultCode p.stopReason
  let time : Fin 3 → ℕ := fun k => (p.verifiedSamples k).robotTimeMs
  let magnitudes := (sampleDq p).map FloatArith.abs
  decide (3 ≤ p.stopVerificationSamples) && decide (3 ≤ p.stopConsecutiveIdleSamples) &&
    decide (p.finalRobotMode ∈ allowed) &&
    (decide (p.preStopRobotTimeMs < time 0) && decide (time 0 < time 1) &&
      decide (time 1 < time 2)) &&
    decide (p.finalRobotTimeMs = time 2) &&
    (List.finRange 3).all (fun k => decide ((p.verifiedSamples k).robotMode ∈ allowed)) &&
    (List.finRange 3).all (fun k => stopStatusIsClear allowed (p.verifiedSamples k)) &&
    (sampleDq p).all FloatArith.isFinite &&
    match magnitudes with
    | [] => false
    | m :: ms => decide (npMax m ms ≤ FloatArith.ofRat (1 / 100))

/-- **`NativeStopProofEvent`**: the payload with the parent's conclusions. -/
structure NativeStopProofEvent (D : Type) where
  payload : StopProofPayload D
  flags : StopProofFlags
  detail : String
  parentStopVerified : Bool
  faultReason : Option String

def contradictoryIdleError : PyError :=
  sessionError "STOP_PROOF idle_dq_verified differs from parent raw-sample result"

/-- **`_decode_stop_proof`.** -/
def decodeStopProof (p : StopProofPayload D) : Except PyError (NativeStopProofEvent D) := do
  let f ← decodeFlags p
  let detail ← decodeFixedText p.detail
  if p.stopReason ∉ [1, 2, 3, 4] ∨ 19 < p.terminalFaultCode then
    .error (sessionError "STOP_PROOF reason/fault code is invalid")
  else if p.activeReadCount < p.activeWriteCount ∨ p.activeWriteCount < p.targetAckCount then
    .error (sessionError "STOP_PROOF counters are internally inconsistent")
  else if f.finishSucceeded && !f.finishAttempted then
    .error (sessionError "STOP_PROOF reports finish success without a finish attempt")
  else if f.robotStopSucceeded && !f.robotStopAttempted then
    .error (sessionError "STOP_PROOF reports Robot.stop success without an attempt")
  else if f.finishSucceeded && f.robotStopAttempted then
    .error (sessionError "STOP_PROOF reports Robot.stop after a successful finish")
  else if f.idleDqVerified ≠ rawIdleVerified p f then
    .error contradictoryIdleError
  else if !FloatArith.isFinite p.maximumStopDqRadS ||
      decide (p.maximumStopDqRadS < FloatArith.zero) then
    .error (sessionError "STOP_PROOF maximum stop velocity is invalid")
  else
    .ok
      { payload := p
        flags := f
        detail := detail
        parentStopVerified :=
          (f.healthyFinishPath || f.directStopPath || f.failedFinishStopFallback) &&
            f.activeHandleReleased && f.robotBackendReleased && rawIdleVerified p f
        faultReason :=
          if detail ≠ "" then some detail
          else if p.terminalFaultCode = 0 then none
          else some s!"terminal fault code {p.terminalFaultCode}" }

end FrankaDeploy.NativeSession
