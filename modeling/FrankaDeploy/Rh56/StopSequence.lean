import FrankaDeploy.Rh56.Transport

/-! # The hand's stop sequence

`_disable_and_verify` of `robot_control/rh56/actuator.py`: hold the measured pose, wait until the
hand rests, release the targets twice, and prove with fresh samples that it still rests. The two
`while` loops run for at most a given number of rounds; a result of `false` is a loop that has not
ended by then. -/

namespace FrankaDeploy.Rh56

open FrankaDeploy.Foundation FrankaDeploy.Foundation.Program
open scoped FloatArith

variable {D τ : Type} [FloatArith D]

/-! ## Deadlines -/

/-- `RH56_SUPERVISED_EXCHANGE_TIMEOUT_S`. -/
def supervisedExchangeTimeoutS : D := FloatArith.ofRat (50 / 1000)

/-- `RH56_STOP_RELEASE_SCHEDULING_MARGIN_S`. -/
def stopReleaseSchedulingMarginS : D := FloatArith.ofRat (100 / 1000)

def calculatedReleaseReserveS (A : ActuatorConfig D) : D :=
  let disablePassesIoS : D := FloatArith.ofRat 2 *
    (HandWorld.supervisedWriteResponseGraceS + supervisedExchangeTimeoutS)
  let postDisableReadsS : D :=
    FloatArith.ofRat A.stopVerifySamples * FloatArith.ofRat 3 * supervisedExchangeTimeoutS
  let postDisableSleepsS : D :=
    FloatArith.ofRat (A.stopVerifySamples - 1 : ℕ) * A.stopVerifyIntervalS
  disablePassesIoS + postDisableReadsS + postDisableSleepsS + stopReleaseSchedulingMarginS

def releaseReserveS (A : ActuatorConfig D) : D :=
  HandWorld.pyMin (A.stopTimeoutS * FloatArith.ofRat (1 / 2)) (calculatedReleaseReserveS A)

/-! ## Samples -/

/-- `deque.append` with a maximum length. -/
def dequeAppend {α : Type} (maxlen : ℕ) (l : List α) (a : α) : List α :=
  (l ++ [a]).drop ((l ++ [a]).length - maxlen)

def StopLocals.init : StopLocals D where
  failures := []
  holdVerified := false
  holdTailVerified := false
  motionlessHoldVerified := false
  stableTailVerified := false
  stableSamples := []
  holdMotionSamples := []
  observedSamples := 0
  lastSettleDetail := "no post-hold feedback was captured"
  verifiedPasses := 0
  postDisableObserved := 0
  postDisableDetail := "no post-disable feedback was captured"

def StopLocals.withFailure (L : StopLocals D) (text : String) : StopLocals D :=
  { L with failures := L.failures ++ [text] }

structure RH56StopReport (D : Type) where
  verified : Bool
  disablePassesVerified : ℕ
  feedbackSamplesVerified : ℕ
  completedMonotonicS : D

def isIdle (feedback : RH56SafetyFeedback D) : Bool := feedback.statuses.all isIdleStatus

namespace HandWorld

variable (W : HandWorld D τ) (A : ActuatorConfig D)

def notIdleDetail (feedback : RH56SafetyFeedback D) : String :=
  s!"latest status is not idle: {tupleText feedback.statuses}"

def pauseBefore (deadline : D) : HandM D τ Bool := do
  let now ← W.now
  let remaining := deadline - now
  if remaining ≤ FloatArith.zero then ret false
  else do
    callWorld (W.sleep (pyMin A.stopVerifyIntervalS remaining))
    ret true

/-- **A `while` loop** that runs a round until a deadline, with a pause after each; a round that
answers `true` leaves the loop. The result is `false` where the loop has not ended after the given
number of rounds. -/
def whileBefore (deadline : D) (round : HandM D τ Bool) : ℕ → HandM D τ Bool
  | 0 => ret false
  | rounds + 1 => do
    let now ← W.now
    if ¬ now < deadline then ret true
    else if ← round then ret true
    else if ← W.pauseBefore A deadline then whileBefore deadline round rounds
    else ret true

/-! ## Holding -/

def settleSample (feedback : RH56SafetyFeedback D) : HandM D τ Bool := do
  modifyStop fun L =>
    { L with
      holdMotionSamples := dequeAppend A.stopVerifySamples L.holdMotionSamples feedback }
  let holdMotionError := A.stopTailMotionError (← read).stop.holdMotionSamples
  let settled ← (do
    if !isIdle feedback then do
      modifyStop fun L =>
        { L with stableSamples := [], lastSettleDetail := notIdleDetail feedback }
      ret false
    else do
      modifyStop fun L =>
        { L with stableSamples := dequeAppend A.stopVerifySamples L.stableSamples feedback }
      match A.stopTailMotionError (← read).stop.stableSamples with
      | none => do
        modifyStop fun L =>
          { L with lastSettleDetail := "stable idle tail verified", holdTailVerified := true }
        ret true
      | some motionError => do
        modifyStop fun L => { L with lastSettleDetail := motionError }
        ret false)
  if settled then ret true
  else
    match holdMotionError with
    | none => do
      -- a motionless hold releases the target even when the status stays busy
      modifyStop fun L =>
        { L with
          motionlessHoldVerified := true
          lastSettleDetail := "motionless hold tail verified; awaiting disabled idle tail" }
      ret true
    | some _ => ret false

def settleRound (holdTarget : SixIntegers) (settleDeadline : D) : HandM D τ Bool := do
  let sample := (← read).stop.observedSamples + 1
  let readback ← W.transportReadTargets settleDeadline
    s!"stop settle sample {sample} target readback"
  check (readback ≠ holdTarget) (stopUnconfirmed
    ("stop hold ANGLE_SET changed during settling: " ++
      s!"expected={tupleText holdTarget}, actual={tupleText readback}"))
  let feedback ← W.transportReadFeedback A settleDeadline s!"stop settle sample {sample} feedback"
  modifyStop fun L => { L with observedSamples := sample }
  ofExcept (A.validateStoppedFeedback feedback s!"stop settle sample {sample}" false
    (some A.stopSettleMaxAxisCurrentMa))
  settleSample A feedback

/-- The `try` that establishes the hold. -/
def holdPhase (settleDeadline : D) (rounds : ℕ) : HandM D τ Bool := do
  let seed ← W.transportReadFeedback A settleDeadline "stop hold seed feedback"
  ofExcept (A.validateStoppedFeedback seed "stop hold seed" false
    (some A.stopSettleMaxAxisCurrentMa))
  let holdTarget ← ofExcept (A.feedbackEquivalentHoldTarget seed.angles)
  let _ ← W.transportWriteOnceThenVerify holdTarget settleDeadline "stop hold"
  modifyStop fun L => { L with holdVerified := true }
  W.whileBefore A settleDeadline (W.settleRound A holdTarget settleDeadline) rounds

/-! ## Releasing -/

def disablePass (deadline : D) (passIndex : ℕ) : HandM D τ Unit := do
  match ← attempt (W.transportWriteOnceThenVerify disabledTargets deadline
      s!"disable pass {passIndex}") with
  | .ok _ => modifyStop fun L => { L with verifiedPasses := L.verifiedPasses + 1 }
  | .error e => modifyStop (·.withFailure s!"disable pass {passIndex}: {e.message}")

def releasedSample (feedback : RH56SafetyFeedback D) (sample : ℕ) : HandM D τ Bool := do
  if !isIdle feedback then do
    modifyStop fun L =>
      { L with stableSamples := [], postDisableDetail := notIdleDetail feedback }
    ret false
  else if ActuatorConfig.exceedsCurrent A.stopMaxAxisCurrentMa feedback.currentsMa then do
    modifyStop fun L =>
      { L with
        stableSamples := []
        postDisableDetail :=
          s!"latest idle current exceeds per-axis bound {A.stopMaxAxisCurrentMa}mA: " ++
            tupleText feedback.currentsMa }
    ret false
  else do
    ofExcept (A.validateStoppedFeedback feedback s!"post-disable stable sample {sample}" true none)
    modifyStop fun L =>
      { L with stableSamples := dequeAppend A.stopVerifySamples L.stableSamples feedback }
    match A.stopTailMotionError (← read).stop.stableSamples with
    | none => do
      modifyStop fun L =>
        { L with
          stableTailVerified := true
          postDisableDetail := "disabled stable idle tail verified" }
      ret true
    | some motionError => do
      modifyStop fun L => { L with postDisableDetail := motionError }
      ret false

def releasedRound (deadline : D) : HandM D τ Bool := do
  let sample := (← read).stop.postDisableObserved + 1
  let readback ← W.transportReadTargets deadline
    s!"post-disable stable sample {sample} target readback"
  check (readback ≠ disabledTargets)
    (stopUnconfirmed s!"post-disable ANGLE_SET changed: {tupleText readback}")
  let feedback ← W.transportReadFeedback A deadline s!"post-disable stable sample {sample} feedback"
  modifyStop fun L => { L with postDisableObserved := sample }
  ofExcept (A.validateStoppedFeedback feedback s!"post-disable stable sample {sample}" false
    (some A.stopSettleMaxAxisCurrentMa))
  releasedSample A feedback sample

def tailTimeout : HandM D τ Unit := do
  let L := (← read).stop
  let observed := L.postDisableObserved
  let idle := L.stableSamples.length
  let detail := L.postDisableDetail
  if !L.stableTailVerified then
    modifyStop (·.withFailure
      ("disabled target did not reach a stable idle tail before " ++
        s!"the stop deadline: observed={observed}, consecutive_idle={idle}, detail={detail}"))
  else ret ()

/-- The proof after both disable passes; `false` where the loop has not ended. -/
def releasedPhase (deadline : D) (rounds : ℕ) : HandM D τ Bool := do
  modifyStop fun L => { L with stableSamples := [], stableTailVerified := false }
  match ← attempt (W.whileBefore A deadline (W.releasedRound A deadline) rounds) with
  | .ok false => ret false
  | .ok true => do
    tailTimeout
    ret true
  | .error e => do
    modifyStop (·.withFailure s!"post-disable stable-tail verification: {e.message}")
    tailTimeout
    ret true

/-! ## The verdict -/

def unconfirmed (L : StopLocals D) : Bool :=
  !L.failures.isEmpty || !L.holdVerified || !L.stableTailVerified || L.verifiedPasses ≠ 2 ||
    L.stableSamples.length ≠ A.stopVerifySamples

def confirmed (preserveFault : Bool) (L : StopLocals D) (actuator : RH56TransactionalActuator D) :
    RH56TransactionalActuator D :=
  let actuator : RH56TransactionalActuator D :=
    { actuator with
      stopConfirmed := true
      pendingSequence := none
      lastFeedbackMonotonicS := L.stableSamples.getLast?.map (·.capturedMonotonicS) }
  if preserveFault then actuator
  else
    { actuator with
      state := .disarmed
      runId := none
      safetyGate := false
      lastCommandMonotonicS := none
      supervisedSession := false
      supervisedAwaitingFirstNumericCommand := false
      lastSupervisedTarget := none }

def stopVerdict (preserveFault : Bool) : HandM D τ (RH56StopReport D) := do
  let L := (← read).stop
  if unconfirmed A L then do
    let reason :=
      if L.failures = [] then "incomplete RH56 stop proof" else "; ".intercalate L.failures
    latchFault reason
    Program.fail (stopUnconfirmed reason)
  else do
    let completed ← W.now
    modifyActuator (confirmed preserveFault L)
    emit .stopVerified
    ret ⟨true, L.verifiedPasses, L.stableSamples.length, completed⟩

def settleTimeout : HandM D τ Unit := do
  let L := (← read).stop
  let observed := L.observedSamples
  let idle := L.stableSamples.length
  let detail := L.lastSettleDetail
  if L.holdVerified && !(L.holdTailVerified || L.motionlessHoldVerified) then
    modifyStop (·.withFailure
      ("in-place hold did not reach a stable idle tail before the " ++
        s!"reserved release deadline: observed={observed}, " ++
        s!"consecutive_idle={idle}, detail={detail}"))
  else ret ()

/-- What follows the hold: both disable passes, the proof that the hand rests, and the verdict. -/
def releaseAndVerify (preserveFault : Bool) (deadline : D) (rounds : ℕ) :
    HandM D τ (Option (RH56StopReport D)) := do
  settleTimeout
  W.disablePass deadline 1
  W.disablePass deadline 2
  let passes := (← read).stop.verifiedPasses
  let ended ← (if passes = 2 then W.releasedPhase A deadline rounds else ret true)
  if ended then do
    let report ← W.stopVerdict A preserveFault
    ret (some report)
  else ret none

/-- **`_disable_and_verify`**, with at most `rounds` rounds of each loop; `none` where a loop has not
ended by then. -/
def disableAndVerifyLocked (preserveFault : Bool) (rounds : ℕ) :
    HandM D τ (Option (RH56StopReport D)) := do
  emit .stopBegins
  modifyStop fun _ => .init
  let start ← W.now
  let deadline := start + A.stopTimeoutS
  let settleDeadline := deadline - releaseReserveS A
  match ← attempt (W.holdPhase A settleDeadline rounds) with
  | .ok false => ret none
  | .ok true => W.releaseAndVerify A preserveFault deadline rounds
  | .error e => do
    modifyStop (·.withFailure s!"in-place hold/settle: {e.message}")
    W.releaseAndVerify A preserveFault deadline rounds

end HandWorld

end FrankaDeploy.Rh56
