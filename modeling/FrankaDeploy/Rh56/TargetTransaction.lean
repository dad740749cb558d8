import FrankaDeploy.Rh56.StopSequence

/-! # The hand's operations

The operations of `RH56TransactionalActuator` after it was armed: the target-only transaction of a
supervised session, the formal transaction, the sample-hold heartbeat, the safety poll, the policy
watchdog and the ways to stop. Each stop gets a number of rounds for its loops; a result of `none`
is a stop that has not ended by then. -/

namespace FrankaDeploy.Rh56

open FrankaDeploy.Foundation FrankaDeploy.Foundation.Program FrankaDeploy.ClosedLoop
open scoped FloatArith

variable {D S τ : Type} [FloatArith D] [FloatArith S]

/-! ## Commands and receipts -/

/-- `rh56_angle_set_register_order` as integers. -/
def commandRegisters (command : ClosedLoopCommand D S) : SixIntegers := fun i =>
  ((command.rh56AngleSetRegisterOrder i : ℕ) : ℤ)

structure RH56TargetReceipt (D : Type) where
  sequence : ℕ
  acknowledgedMonotonicS : D
  latencyS : D
  exactTarget : SixIntegers
  exactReadback : SixIntegers
  writeResponseReceived : Bool
  applicationVerifiedByReadback : Bool
  dualDeviceCommitCompleted : Bool
  numericWritePerformed : Bool

structure RH56TransactionReceipt (D : Type) [FloatArith D] where
  sequence : ℕ
  acknowledgedMonotonicS : D
  latencyS : D
  exactReadback : SixIntegers
  feedback : RH56SafetyFeedback D
  dualDeviceCommitCompleted : Bool

/-- What `arm_supervised` leaves after its checks. -/
def RH56TransactionalActuator.armedSupervised (actuator : RH56TransactionalActuator D)
    (runId : String) (now : D) : RH56TransactionalActuator D :=
  { actuator with
    runId := some runId
    safetyGate := true
    pendingSequence := none
    lastAcknowledgedSequence := 0
    supervisedSession := true
    lastCommandMonotonicS := none
    supervisedAwaitingFirstNumericCommand := true
    lastSupervisedTarget := none
    lastFeedbackMonotonicS := some now
    stopConfirmed := false
    state := .armed }

namespace HandWorld

variable (W : HandWorld D τ) (A : ActuatorConfig D)

/-! ## Shared checks -/

def reasonText : Option String → String
  | some reason => reason
  | none => "None"

def sequenceText : Option ℕ → String
  | some sequence => toString sequence
  | none => "None"

def requireArmed (now : D) : HandM D τ Unit := do
  let a := (← read).actuator
  match a.state with
  | .faultLatched => fail (transactionalError s!"RH56 fault is latched: {reasonText a.faultReason}")
  | .disarmed => fail (transactionalError "RH56 actuator is disarmed")
  | .armed =>
    match a.runId, a.safetyGate with
    | some runId, true => callWorld (W.requireMotion runId now)
    | _, _ => fail (transactionalError "RH56 armed state is incomplete")

def pendingSequence : HandM D τ (Option ℕ) := callWorld fun w =>
  (.ok (W.ledgerPending w).1, (W.ledgerPending w).2)

def requireHeartbeat (sequence : ℕ) (now timeout : D) (expired : String) : HandM D τ Unit := do
  let a := (← read).actuator
  match a.lastCommandMonotonicS with
  | none =>
    check (¬(a.supervisedAwaitingFirstNumericCommand = true ∧ sequence = 1))
      (transactionalError "RH56 command heartbeat is absent outside supervised sequence 1")
  | some heartbeat => check (timeout < now - heartbeat) (transactionalError expired)

/-- **The checks before a sequence becomes the pending one.** -/
def admitSequence (sequence : ℕ) (now timeout : D) (expired : String) : HandM D τ Unit := do
  requireHeartbeat sequence now timeout expired
  let a := (← read).actuator
  check (a.pendingSequence ≠ none)
    (transactionalError "RH56 cannot start a second sequence while one is pending")
  let expected := a.lastAcknowledgedSequence + 1
  check (sequence ≠ expected) (transactionalError
    s!"RH56 stale/out-of-order sequence: expected={expected}, actual={sequence}")
  let ledgerSequence ← W.pendingSequence
  if ledgerSequence ≠ some sequence then do
    let pending ← W.pendingSequence
    fail (transactionalError (s!"RH56 sequence {sequence} is not the ledger pending sequence " ++
      sequenceText pending))
  else modifyActuator fun a => { a with pendingSequence := some sequence }

def commandDeadline (command : ClosedLoopCommand D S) : D :=
  command.producedMonotonicS + A.commandWatchdogTimeoutS

/-- **The acknowledgement** of a sequence, after its last checks: when, and whether it completed the
commit. -/
def acknowledgeSequence (sequence : ℕ) (deadline : D) (operation : String) :
    HandM D τ (D × Bool) := do
  let acknowledgedAt ← W.now
  beforeDeadline acknowledgedAt deadline operation
  W.requireArmed acknowledgedAt
  let pending ← W.pendingSequence
  check (pending ≠ some sequence)
    (transactionalError "ledger pending sequence changed before RH56 acknowledgement")
  emit (.acknowledge sequence acknowledgedAt (W.angleSet (← read).world))
  let committed ← callWorld (W.ledgerAcknowledge sequence acknowledgedAt)
  ret (acknowledgedAt, committed)

/-! ## The target-only transaction -/

structure TransactionPhase where
  phase : String
  applyUnknown : Bool

def targetFailure (sequence : ℕ) (targets : SixIntegers) (point : TransactionPhase)
    (e : PyException) : PyException :=
  let unknown := if point.applyUnknown then "true" else "false"
  transactionalError ("RH56 supervised target transaction failed: " ++
    s!"sequence={sequence} exact_target={tupleText targets} phase={point.phase} " ++
    s!"APPLY_UNKNOWN={unknown} RETRY_FORBIDDEN: {e.message}")

def inPhase {α : Type} (sequence : ℕ) (targets : SixIntegers) (point : TransactionPhase)
    (statements : HandM D τ α) : HandM D τ α := do
  match ← attempt statements with
  | .ok a => ret a
  | .error e => fail (targetFailure sequence targets point e)

def verifyMissingResponse (targets : SixIntegers) (deadline : D) (writeFailure : PyException) :
    HandM D τ SixIntegers := do
  match ← attempt (W.transportReadTargets deadline "supervised ANGLE_SET exact readback") with
  | .error e =>
    fail (transactionalError ("ANGLE_SET write response missing and exact verification " ++
      s!"readback failed: write_error={writeFailure.message}; readback_error={e.message}"))
  | .ok readback => do
    check (readback ≠ targets) (transactionalError
      (s!"RH56 ANGLE_SET readback mismatch: expected={tupleText targets}, " ++
        s!"actual={tupleText readback}; write_response_error={writeFailure.message}"))
    ret readback

/-- **The numeric write of a target**, at most one: its readback, and whether the response of the
write arrived. -/
def applyTarget (sequence : ℕ) (targets : SixIntegers) (deadline : D) :
    HandM D τ (SixIntegers × Bool) := do
  let written ← inPhase sequence targets ⟨"ANGLE_SET_WRITE", true⟩ (do
    let opened ← W.now
    let writeDeadline := pyMin deadline (opened + supervisedWriteResponseGraceS)
    let before ← W.now
    beforeDeadline before writeDeadline "supervised ANGLE_SET batch write"
    attempt (W.transportWrite targets writeDeadline "supervised ANGLE_SET batch write"))
  match written with
  | .ok () => ret (targets, true)
  | .error writeFailure => do
    let readback ← inPhase sequence targets ⟨"ANGLE_SET_EXACT_READBACK", true⟩
      (W.verifyMissingResponse targets deadline writeFailure)
    ret (readback, false)

/-- The body of the `try` of `execute_target_and_ack`. -/
def targetTransaction (command : ClosedLoopCommand D S) (targets : SixIntegers) (now : D) :
    HandM D τ (RH56TargetReceipt D) := do
  let sequence := command.sequence
  let deadline := commandDeadline A command
  emit (.execute sequence command.producedMonotonicS (commandRegisters command))
  inPhase sequence targets ⟨"PRECHECK", false⟩ (do
    W.admitSequence sequence now A.supervisedInterCommandWatchdogTimeoutS
      "RH56 supervised inter-command watchdog expired before sequence"
    beforeDeadline now deadline "supervised target start")
  let previousTarget := (← read).actuator.lastSupervisedTarget
  let numericWritePerformed := previousTarget ≠ some targets
  -- the unchanged target of an exclusive session is not written again
  let (readback, responded) ← (if numericWritePerformed
    then W.applyTarget sequence targets deadline else ret (targets, false))
  inPhase sequence targets ⟨"LEDGER_ACK", false⟩ (do
    let (acknowledgedAt, committed) ←
      W.acknowledgeSequence sequence deadline "supervised target acknowledgement"
    modifyActuator fun a =>
      { a with
        lastAcknowledgedSequence := sequence
        lastCommandMonotonicS := some acknowledgedAt
        supervisedAwaitingFirstNumericCommand := false
        lastSupervisedTarget := some targets
        pendingSequence := none }
    ret {
      sequence := sequence
      acknowledgedMonotonicS := acknowledgedAt
      latencyS := acknowledgedAt - command.producedMonotonicS
      exactTarget := targets
      exactReadback := readback
      writeResponseReceived := responded
      applicationVerifiedByReadback := numericWritePerformed && !responded
      dualDeviceCommitCompleted := committed
      numericWritePerformed := numericWritePerformed })

/-- **`execute_target_and_ack`.** -/
def executeTargetAndAck (command : ClosedLoopCommand D S) : HandM D τ (RH56TargetReceipt D) := do
  let now ← W.now
  W.requireArmed now
  let targets ← ofExcept
    (sixTargets (rawOf (commandRegisters command)) "supervised target ANGLE_SET" false)
  let supervised := (← read).actuator.supervisedSession
  check (!supervised) (transactionalError
    ("RH56 target-only transaction requires arm_supervised: " ++
      s!"sequence={command.sequence} exact_target={tupleText targets} phase=PRECHECK " ++
      "APPLY_UNKNOWN=false RETRY_FORBIDDEN"))
  match ← attempt (W.targetTransaction A command targets now) with
  | .ok receipt => ret receipt
  | .error detail => do
    let _ ← attempt (callWorld (W.ledgerFail command.sequence detail.message))
    latchFault detail.message
    fail detail

/-! ## The formal transaction -/

/-- The body of the `try` of `execute`. -/
def transaction (command : ClosedLoopCommand D S) (now : D) :
    HandM D τ (RH56TransactionReceipt D) := do
  let sequence := command.sequence
  let deadline := commandDeadline A command
  emit (.execute sequence command.producedMonotonicS (commandRegisters command))
  W.admitSequence sequence now A.commandWatchdogTimeoutS
    "RH56 policy command watchdog expired before sequence"
  beforeDeadline now deadline "command start"
  let targets ← ofExcept (sixTargets (rawOf (commandRegisters command)) "command ANGLE_SET" false)
  W.transportWrite targets deadline "ANGLE_SET batch write"
  let readback ← W.transportReadTargets deadline "ANGLE_SET exact readback"
  check (readback ≠ targets) (transactionalError
    (s!"RH56 ANGLE_SET readback mismatch: expected={tupleText targets}, " ++
      s!"actual={tupleText readback}"))
  let feedback ← W.transportReadFeedback A deadline "command safety feedback"
  ofExcept (A.validateRunningFeedback feedback)
  let (acknowledgedAt, committed) ←
    W.acknowledgeSequence sequence deadline "command acknowledgement"
  modifyActuator fun a =>
    { a with
      lastFeedbackMonotonicS := some feedback.capturedMonotonicS
      lastAcknowledgedSequence := sequence
      lastCommandMonotonicS := some acknowledgedAt
      supervisedAwaitingFirstNumericCommand := false
      pendingSequence := none }
  ret {
    sequence := sequence
    acknowledgedMonotonicS := acknowledgedAt
    latencyS := acknowledgedAt - command.producedMonotonicS
    exactReadback := readback
    feedback := feedback
    dualDeviceCommitCompleted := committed }

def afterStop {α : Type} (detail : String)
    (stop : Except PyException (Option (RH56StopReport D))) : HandM D τ (Option α) :=
  match stop with
  | .ok none => ret none
  | .ok (some _) => fail (transactionalError detail)
  | .error e => fail (transactionalError s!"{detail}; STOP UNCONFIRMED: {e.message}")

/-- **`execute`.** -/
def execute (command : ClosedLoopCommand D S) (rounds : ℕ) :
    HandM D τ (Option (RH56TransactionReceipt D)) := do
  let now ← W.now
  W.requireArmed now
  match ← attempt (W.transaction A command now) with
  | .ok receipt => ret (some receipt)
  | .error e => do
    let _ ← attempt (callWorld (W.ledgerFail command.sequence e.message))
    latchFault e.message
    let stop ← attempt (W.disableAndVerifyLocked A true rounds)
    afterStop s!"RH56 sequence {command.sequence} failed: {e.message}" stop

/-! ## Heartbeats and polls -/

/-- **`refresh_supervised_sample_hold_heartbeat`.** -/
def refreshSupervisedSampleHoldHeartbeat : HandM D τ D := do
  let now ← W.now
  W.requireArmed now
  let a := (← read).actuator
  check (!a.supervisedSession)
    (transactionalError "RH56 sample-hold heartbeat requires supervised mode")
  match a.lastCommandMonotonicS with
  | none => fail (transactionalError "RH56 sample-hold heartbeat requires a committed target")
  | some heartbeat => do
    check (a.supervisedAwaitingFirstNumericCommand = true ∨ a.lastSupervisedTarget = none)
      (transactionalError "RH56 sample-hold heartbeat requires a committed target")
    check (a.pendingSequence ≠ none) (transactionalError
      "RH56 sample-hold heartbeat is forbidden during a pending sequence")
    check (a.lastAcknowledgedSequence < 1)
      (transactionalError "RH56 sample-hold heartbeat has no acknowledged sequence")
    check (A.supervisedInterCommandWatchdogTimeoutS < now - heartbeat) (transactionalError
      "RH56 supervised inter-command watchdog expired before sample-hold heartbeat")
    modifyActuator fun a => { a with lastCommandMonotonicS := some now }
    ret now

def interCommandTimeout (supervised : Bool) : D :=
  if supervised then A.supervisedInterCommandWatchdogTimeoutS else A.commandWatchdogTimeoutS

def recordedFeedback (deadline : D) (operation : String) :
    HandM D τ (RH56SafetyFeedback D) := do
  let feedback ← W.transportReadFeedback A deadline operation
  ofExcept (A.validateRunningFeedback feedback)
  modifyActuator fun a => { a with lastFeedbackMonotonicS := some feedback.capturedMonotonicS }
  ret feedback

/-- **`poll_safety`.** -/
def pollSafety (deferCleanup : Bool) (rounds : ℕ) :
    HandM D τ (Option (RH56SafetyFeedback D)) := do
  let now ← W.now
  W.requireArmed now
  let a := (← read).actuator
  let timeout := interCommandTimeout A a.supervisedSession
  if a.lastCommandMonotonicS = none ∧ a.supervisedAwaitingFirstNumericCommand = true then do
    let deadline := now + pyMax A.commandWatchdogTimeoutS A.maximumFeedbackAgeS
    match ← attempt (W.recordedFeedback A deadline "pre-first-command safety feedback") with
    | .ok feedback => ret (some feedback)
    | .error e => do
      latchFault e.message
      let detail := s!"RH56 pre-first-command safety poll failed: {e.message}"
      if deferCleanup then fail (transactionalError detail)
      else do
        match ← attempt (W.disableAndVerifyLocked A true rounds) with
        | .ok none => ret none
        | _ => fail (transactionalError detail)
  else if (a.lastCommandMonotonicS.all fun heartbeat => timeout < now - heartbeat) = true then do
    let reason := "RH56 policy command watchdog expired before safety poll"
    latchFault reason
    if deferCleanup then fail (transactionalError reason)
    else do
      let stop ← attempt (W.disableAndVerifyLocked A true rounds)
      afterStop reason stop
  else do
    let deadline := now + A.commandWatchdogTimeoutS
    match ← attempt (W.recordedFeedback A deadline "hold safety feedback") with
    | .ok feedback => ret (some feedback)
    | .error e => do
      latchFault e.message
      let detail := s!"RH56 safety poll failed: {e.message}"
      if deferCleanup then fail (transactionalError detail)
      else do
        let stop ← attempt (W.disableAndVerifyLocked A true rounds)
        afterStop detail stop

/-! ## Ends -/

/-- The outcome of `enforce_policy_watchdog`: nothing to do, a stop's report, or a stop that has not
ended. -/
inductive WatchdogOutcome (D : Type) where
  | alive
  | stopped (report : RH56StopReport D)
  | unended

/-- **`enforce_policy_watchdog`.** -/
def enforcePolicyWatchdog (nowMonotonicS : Option D) (rounds : ℕ) :
    HandM D τ (WatchdogOutcome D) := do
  let now ← (match nowMonotonicS with
    | none => W.now
    | some now => ret now)
  let a := (← read).actuator
  check (a.state = .faultLatched)
    (transactionalError s!"RH56 fault is latched: {reasonText a.faultReason}")
  match a.state, a.lastCommandMonotonicS with
  | .armed, some heartbeat => do
    let timeout := interCommandTimeout A a.supervisedSession
    if now < heartbeat + timeout then ret .alive
    else do
      let age := FloatArith.fixedText 6 (now - heartbeat)
      let limit := FloatArith.fixedText 6 timeout
      latchFault s!"RH56 independent policy command watchdog expired: age={age}s, limit={limit}s"
      match ← W.disableAndVerifyLocked A true rounds with
      | none => ret .unended
      | some report => ret (.stopped report)
  | _, _ => fail (transactionalError "RH56 policy watchdog cannot run while actuator is disarmed")

def requireNotDisarmed : HandM D τ Unit := do
  let state := (← read).actuator.state
  check (state = .disarmed)
    (transactionalError "RH56 is disarmed; refusing an unauthorised disable write")

/-- **`fault_and_disable`.** -/
def faultAndDisable (reason : String) (rounds : ℕ) : HandM D τ (Option (RH56StopReport D)) := do
  requireNotDisarmed
  latchFault reason
  W.disableAndVerifyLocked A true rounds

/-- **`disable_and_verify`.** -/
def disableAndVerify (rounds : ℕ) : HandM D τ (Option (RH56StopReport D)) := do
  let state := (← read).actuator.state
  requireNotDisarmed
  W.disableAndVerifyLocked A (state = .faultLatched) rounds

end HandWorld

end FrankaDeploy.Rh56
