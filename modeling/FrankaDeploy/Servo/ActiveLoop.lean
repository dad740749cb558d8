import FrankaDeploy.Servo.DrainCritical

/-! # The active loop

One turn of the loop of `run_servo_process`, phase by phase: read a state, select the reference
history, serve the critical socket, check the watchdogs, compute and write a command, count the
healthy cycles, announce ACTION_READY and acknowledge the target. The machine runs turn after turn
until the loop is left. -/

namespace FrankaDeploy.Servo

open FrankaDeploy.Foundation
open scoped FloatArith

variable {D S : Type} [FloatArith D] [FloatArith S] [FloatCast D S] [FloatBits D]

/-! ## Reading -/

def RuntimeState.countRead (r : RuntimeState D) (sample : RobotSample D) (firstPeriod : Bool) :
    RuntimeState D :=
  { r with
    activeReads := r.activeReads + 1
    cycle := r.cycle + 1
    latestSample := sample
    maximumControlPeriodMs := max r.maximumControlPeriodMs sample.controlPeriodMs
    missedRobotStates :=
      if !firstPeriod && decide (1 < sample.controlPeriodMs) then
        (r.missedRobotStates + (sample.controlPeriodMs - 1)) % 4294967296
      else r.missedRobotStates }

def periodRefused (firstPeriod : Bool) (controlPeriodMs : ℕ) : Bool :=
  if firstPeriod then controlPeriodMs ≠ 0
  else controlPeriodMs = 0 ||
    decide (HardSafetyLimits.maximumRecoverableControlPeriodMs < controlPeriodMs)

def periodRefusedText (firstPeriod : Bool) : String :=
  if firstPeriod then "first active control period is not zero"
  else "active control period is outside FCI recoverable returned range"

/-- **A state is read and counted.** -/
def readPhase (env : CycleEnv D) : ServoM D (RobotSample D) :=
  match env.readOnce with
  | .error what =>
    Program.fail (.fault (.of .activeRead ("active readOnce failed: " ++ what)))
  | .ok sample => do
    Program.emit (.cycleStarted sample)
    let s ← Program.read
    modifyRuntime fun r => r.countRead sample s.firstPeriod
    faultIf (sample.robotTimeMs ≤ s.priorRobotTimeMs ∧ s.firstPeriod = false) .controlPeriod
      "active RobotState.time is not strictly increasing"
    Program.update fun s =>
      { s with priorRobotTimeMs := max s.priorRobotTimeMs sample.robotTimeMs }
    faultIf (periodRefused s.firstPeriod sample.controlPeriodMs = true) .controlPeriod
      (periodRefusedText s.firstPeriod)
    return sample

/-! ## Reference history -/

def RobotSample.desiredHistory (sample : RobotSample D) : ExactDesiredHistory D :=
  ⟨sample.desiredQRad, sample.desiredDqRadS, sample.desiredDdqRadS2⟩

def RuntimeState.bootstrap (r : RuntimeState D) (sample : RobotSample D) : RuntimeState D :=
  { r with
    startQ := sample.qRad
    priorCommand := sample.desiredQRad
    lastCommand := sample.desiredQRad
    lastCommandVelocity := sample.desiredDqRadS
    lastCommandAcceleration := sample.desiredDdqRadS2
    heldTarget := sample.desiredQRad }

variable (S) in
/-- **The first state** becomes the reference history and starts the interpolator. -/
def bootstrapPhase (session : ServoSession D) (sample : RobotSample D) :
    ServoM D (ExactDesiredHistory D) := do
  orFault (requireBootstrap sample)
  modifyRuntime fun r => r.bootstrap sample
  let interpolator ← orException (FrankaV225Interpolator.init S sample.desiredQRad
    sample.desiredDqRadS sample.desiredDdqRadS2)
  Program.update fun s => { s with interpolator := some interpolator }
  let reference := sample.desiredHistory
  orFault (requireRecoverableFciHistory reference sample.qRad session.controllerMode)
  Program.update fun s =>
    { s with confirmedHistory := reference, exactHistoryInitialized := true }
  Program.emit (.bootstrapped reference)
  return reference

variable (S) in
/-- **A returned state** selects the reference history. -/
def returnedPhase (session : ServoSession D) (sample : RobotSample D) :
    ServoM D (ExactDesiredHistory D) := do
  let s ← Program.read
  orFault (requireDynamicState sample s.runtime.lastCommand s.runtime.startQ
    session.controllerMode)
  faultIf (s.exactHistoryInitialized = false ∨ s.sentHistoryAvailable = false) .internal
    "exact desired-history state machine is uninitialized"
  let choice ← orFault
    (selectReturnedDesiredHistory S sample s.confirmedHistory s.lastSentHistory)
  let reference := choice.candidate sample s.confirmedHistory s.lastSentHistory
  orFault (requireRecoverableFciHistory reference s.runtime.startQ session.controllerMode)
  Program.update fun s => { s with confirmedHistory := reference }
  Program.emit (.historySelected sample.controlPeriodMs choice reference)
  return reference

variable (S) in
def historyPhase (session : ServoSession D) (sample : RobotSample D) :
    ServoM D (ExactDesiredHistory D) := do
  let s ← Program.read
  if s.firstPeriod = true then bootstrapPhase S session sample
  else returnedPhase S session sample

/-! ## Critical socket and watchdogs -/

def heartbeatExpired (session : ServoSession D) (readCompleteNs lastHeartbeatNs : ℕ) : Bool :=
  decide (session.arm.heartbeatTimeoutNs < readCompleteNs - min readCompleteNs lastHeartbeatNs)

/-- **The watchdogs** after the socket was served. -/
def watchdogPhase (session : ServoSession D) (env : CycleEnv D) (expiredBeforeDrain : Bool) :
    ServoM D Unit := do
  faultIf (expiredBeforeDrain = true) .heartbeatTimeout
    "supervisor heartbeat receipt timed out before IPC drain"
  let s ← Program.read
  faultIf (session.arm.heartbeatTimeoutNs < u64Sub env.nowNs s.runtime.lastHeartbeatNs)
    .heartbeatTimeout "supervisor heartbeat timed out"
  faultIf (session.arm.maximumSessionDurationNs < u64Sub env.nowNs session.sessionStartNs)
    .sessionTimeout "supervised native session timed out"
  faultIf (s.runtime.actionReady = true ∧ s.runtime.lastTargetSequence = 0 ∧
    session.arm.firstTargetTimeoutNs < u64Sub env.nowNs s.runtime.actionReadyNs)
    .firstTargetTimeout "first policy target timed out after ACTION_READY"
  faultIf (s.runtime.lastTargetSequence ≠ 0 ∧
    session.arm.targetTimeoutNs < u64Sub env.nowNs s.runtime.lastTargetReceivedNs)
    .targetTimeout "policy inter-target watchdog timed out"

/-- **The socket is served**: a requested stop leaves the loop before any watchdog is looked at. -/
def supervisionPhase (session : ServoSession D) (env : CycleEnv D) : ServoM D Unit := do
  let s ← Program.read
  let expired := heartbeatExpired session env.readCompleteNs s.runtime.lastHeartbeatNs
  let stop ← drainCritical session env
  Program.check (stop = true) (.stopped .requested)
  watchdogPhase session env expired

/-! ## Command -/

variable (S) in
/-- The generator's next position command: the first cycle repeats the reference, and contact holds
it. -/
def generate (interpolator : InterpolatedCommand D) (sample : RobotSample D)
    (reference : ExactDesiredHistory D) (firstPeriod : Bool) (heldTarget : Vec 7 D) :
    Except String (InterpolatedCommand D) := do
  let interpolator ← FrankaV225Interpolator.synchronizeDesiredHistory S interpolator
    reference.q reference.dq reference.ddq
  let dtS : D := FloatArith.ofRat sample.controlPeriodMs * commandPacketPeriodS
  if firstPeriod then return interpolator
  else if stateHasContact sample then do
    let interpolator ← FrankaV225Interpolator.holdFilteredTargetAt S interpolator reference.q
    FrankaV225Interpolator.step S interpolator reference.q dtS
  else FrankaV225Interpolator.step S interpolator heldTarget dtS

variable (S) in
/-- The limiter and the sendable limits, in one `try` block. -/
def limitCommand (env : CycleEnv D) (generatedQ : Vec 7 D) (reference : ExactDesiredHistory D) :
    Except ServoFault (Vec 7 D) :=
  (env.limitJointPositionCommand generatedQ reference >>= SendableJointLimits.clamp S).mapError
    fun what => .of .dynamicState ("libfranka joint-position limiter failed: " ++ what)

/-- `limited`: the history that the robot derives from a command. -/
def limitedHistory (command : Vec 7 D) (reference : ExactDesiredHistory D) :
    ExactDesiredHistory D :=
  let dq := fun i => (command i - reference.q i) / commandPacketPeriodS
  ⟨command, dq, fun i => (dq i - reference.dq i) / commandPacketPeriodS⟩

variable (S) in
/-- **A command is computed.** -/
def commandPhase (session : ServoSession D) (env : CycleEnv D) (sample : RobotSample D)
    (reference : ExactDesiredHistory D) : ServoM D (ExactDesiredHistory D) := do
  let s ← Program.read
  match s.interpolator with
  | none => Program.fail (.fault (.of .internal "V225 interpolator was not initialized"))
  | some interpolator => do
    let generated ← orException (generate S interpolator sample reference s.firstPeriod
      s.runtime.heldTarget)
    let command ← orFault (limitCommand S env generated.q reference)
    faultIf (episodeDeltaAllowed session.controllerMode command s.runtime.startQ = false)
      .dynamicState "legacy V225 command left home-centered episode envelope"
    let limited := limitedHistory command reference
    orFault (requireRecoverableFciHistory limited s.runtime.startQ session.controllerMode)
    Program.update fun s => { s with interpolator := some generated }
    Program.emit (.computed limited)
    return limited

/-! ## Write -/

def RuntimeState.countReadToWrite (r : RuntimeState D) (ns : ℕ) : RuntimeState D :=
  { r with maximumReadToWriteNs := max r.maximumReadToWriteNs ns }

def RuntimeState.countWrite (r : RuntimeState D) (limited : ExactDesiredHistory D) :
    RuntimeState D :=
  { r with
    activeWrites := r.activeWrites + 1
    priorCommand := r.lastCommand
    lastCommand := limited.q
    lastCommandVelocity := limited.dq
    lastCommandAcceleration := limited.ddq }

variable (S) in
def synchronizeWritten (limited : ExactDesiredHistory D) : ServoM D Unit := do
  let s ← Program.read
  match s.interpolator with
  | none => Program.fail (.fault (.of .internal "V225 interpolator was not initialized"))
  | some interpolator => do
    let interpolator ← orException (FrankaV225Interpolator.synchronizeDesiredHistory S
      interpolator limited.q limited.dq limited.ddq)
    Program.update fun s =>
      { s with interpolator := some interpolator, sentHistoryAvailable := true }

variable (S) in
/-- **The command is written**, within the deadline before and after. -/
def writePhase (session : ServoSession D) (env : CycleEnv D) (limited : ExactDesiredHistory D) :
    ServoM D Unit := do
  let prewriteNs := u64Sub env.beforeWriteNs env.readCompleteNs
  modifyRuntime fun r => r.countReadToWrite prewriteNs
  faultIf (HardSafetyLimits.maximumReadToWriteNs < prewriteNs ∨
    session.arm.authorizationExpiresMonotonicNs ≤ env.beforeWriteNs) .readToWriteDeadline
    "pre-write deadline/authorization boundary expired"
  match env.writeOnce with
  | .error what =>
    Program.fail (.fault (.of .activeWrite ("active writeOnce failed: " ++ what)))
  | .ok () => do
    Program.emit (.written limited)
    Program.update fun s =>
      { s with runtime := s.runtime.countWrite limited, lastSentHistory := limited }
    synchronizeWritten S limited
    let readToWriteNs := u64Sub env.afterWriteNs env.readCompleteNs
    modifyRuntime fun r => r.countReadToWrite readToWriteNs
    faultIf (HardSafetyLimits.maximumReadToWriteNs < readToWriteNs) .readToWriteDeadline
      "write completion exceeded 0.8 ms"

/-! ## Health -/

def cycleHealthy (sample : RobotSample D) : Bool :=
  stateIsDynamicMotionSafe sample && decide
    (FloatArith.ofRat HardSafetyLimits.minimumHealthySuccessRate ≤
      sample.controlCommandSuccessRate)

def RuntimeState.judge (r : RuntimeState D) (sample : RobotSample D) (healthy : Bool) :
    RuntimeState D :=
  if healthy then
    { r with
      consecutiveHealthyCycles := r.consecutiveHealthyCycles + 1
      minimumHealthySuccessRate :=
        FloatArith.stdMin r.minimumHealthySuccessRate sample.controlCommandSuccessRate }
  else
    { r with consecutiveHealthyCycles := 0, minimumHealthySuccessRate := FloatArith.one }

/-- **The health of the cycle is counted**, from the second cycle on. -/
def healthPhase (sample : RobotSample D) : ServoM D Unit := do
  let s ← Program.read
  if s.firstPeriod = true then return ()
  else do
    let healthy := cycleHealthy sample
    Program.update fun s =>
      { s with
        runtime := s.runtime.judge sample healthy
        healthyStartRobotTimeMs :=
          if healthy && decide (s.runtime.consecutiveHealthyCycles = 0) then sample.robotTimeMs
          else s.healthyStartRobotTimeMs }
    Program.emit (.judged healthy)

/-! ## ACTION_READY and ACK -/

/-- `send_critical_or_fault`; the sequence is never zero, so encoding does not fail. -/
def sendCriticalOrFault (outcome : Except ℤ Unit) : ServoM D Unit :=
  match outcome with
  | .error systemErrno =>
    Program.fail (.fault ⟨.criticalReplyBlocked, "critical seqpacket send failed", systemErrno⟩)
  | .ok () =>
    modifyRuntime fun r => { r with criticalOutSequence := r.criticalOutSequence + 1 }

def actionReadyPayload (r : RuntimeState D) (healthyStartRobotTimeMs : ℕ)
    (sample : RobotSample D) : ActionReadyPayload D where
  consecutiveHealthyCycles := r.consecutiveHealthyCycles
  maximumControlPeriodMs := r.maximumControlPeriodMs
  healthyHoldRobotTimeMs := sample.robotTimeMs - healthyStartRobotTimeMs + 1
  maximumReadToWriteNs := r.maximumReadToWriteNs
  minimumControlCommandSuccessRate := r.minimumHealthySuccessRate
  latestControlCommandSuccessRate := sample.controlCommandSuccessRate
  measuredQRad := sample.qRad
  measuredDqRadS := sample.dqRadS
  robotTimeMs := sample.robotTimeMs
  activeReadCount := r.activeReads
  activeWriteCount := r.activeWrites
  statusFlags := sample.statusFlags
  cumulativeMissedRobotStates := r.missedRobotStates

/-- **ACTION_READY is announced** once the healthy cycles suffice. -/
def readyPhase (env : CycleEnv D) (sample : RobotSample D) : ServoM D Unit := do
  let s ← Program.read
  if s.runtime.actionReady = false ∧
      HardSafetyLimits.healthyCyclesBeforeAction ≤ s.runtime.consecutiveHealthyCycles then do
    modifyRuntime fun r => { r with actionReady := true, actionReadyNs := env.afterWriteNs }
    sendCriticalOrFault env.sendActionReady
    Program.emit (.actionReady (actionReadyPayload s.runtime s.healthyStartRobotTimeMs sample))
  else return ()

def ackPayload (r : RuntimeState D) (env : CycleEnv D) (sample : RobotSample D)
    (command : Vec 7 D) : AckPayload D where
  targetSequence := r.pendingTarget.targetSequence
  observationSequence := r.pendingTarget.observationSequence
  targetProducedMonotonicNs := r.pendingTarget.producedMonotonicNs
  targetAgeAtWriteNs := env.afterWriteNs - r.pendingTarget.producedMonotonicNs
  controlCycle := r.cycle
  robotTimeMs := sample.robotTimeMs
  appliedMonotonicNs := env.afterWriteNs
  controlPeriodMs := sample.controlPeriodMs
  reserved := 0
  targetQRad := r.pendingTarget.targetQRad
  commandedQRad := command
  measuredQRad := sample.qRad
  readToWriteNs := u64Sub env.afterWriteNs env.readCompleteNs
  maximumTrackingErrorRad := maxAbsDifference sample.qRad command

/-- **The pending target is acknowledged.** -/
def ackPhase (env : CycleEnv D) (sample : RobotSample D) (command : Vec 7 D) :
    ServoM D Unit := do
  let s ← Program.read
  if s.runtime.targetPendingAck = true then do
    sendCriticalOrFault env.sendAck
    modifyRuntime fun r =>
      { r with targetPendingAck := false, targetAckCount := r.targetAckCount + 1 }
    Program.emit (.acknowledged (ackPayload s.runtime env sample command))
  else return ()

/-- `publish_state_best_effort`: a snapshot is sent or dropped, and nothing else depends on it. -/
def publishStatePhase (env : CycleEnv D) : ServoM D Unit :=
  modifyRuntime fun r =>
    if r.cycle = 1 ∨ r.cycle % HardSafetyLimits.stateDecimation = 0 then
      if env.sendState then { r with telemetryOutSequence := r.telemetryOutSequence + 1 }
      else { r with telemetryDropCount := r.telemetryDropCount + 1 }
    else r

/-! ## The loop -/

variable (S) in
/-- **One turn of the loop.** -/
def cycle (session : ServoSession D) (env : CycleEnv D) : ServoM D Unit := do
  Program.check (env.signalStopRequested = true) (.stopped .signal)
  let sample ← readPhase env
  let reference ← historyPhase S session sample
  supervisionPhase session env
  let limited ← commandPhase S session env sample reference
  writePhase S session env limited
  healthPhase sample
  readyPhase env sample
  ackPhase env sample limited.q
  publishStatePhase env
  Program.update fun s => { s with firstPeriod := false }

variable (S) in
def loopStep (session : ServoSession D) (s : ServoLoop D) (env : CycleEnv D) :
    ServoLoop D × List (ServoEvent D) :=
  if s.exit.isSome then (s, [])
  else
    match cycle S session env s with
    | (.ok (), s, events) => (s, events)
    | (.error exit, s, events) => ({ s with exit := some exit }, events)

variable (S) in
/-- **The active loop as a machine.** -/
def servoMachine (session : ServoSession D) :
    Machine (ServoLoop D) (CycleEnv D) (ServoEvent D) :=
  ⟨loopStep S session⟩

/-! ## The induction rule -/

variable {I : ServoLoop D → List (ServoEvent D) → Prop} {session : ServoSession D}

/-- **Guarded loop rule.** A relation between the variables and the trace holds throughout a run if
it holds at the start, if every turn that meets the condition `C` keeps it, whether the loop goes on
or is left, and if it does not depend on how the loop was left. -/
theorem servo_induction_of_admits {J : ServoLoop D → List (ServoEvent D) → Prop}
    {C : ServoLoop D → List (ServoEvent D) → CycleEnv D → Prop} {s : ServoLoop D}
    (start : I s [])
    (turn : ∀ s t env, I s t → s.exit = none → C s t env →
      Program.wp (cycle S session env) (fun _ => I) (fun _ => J) s t)
    (left : ∀ s t exit, J s t → I { s with exit := some exit } t) (envs : List (CycleEnv D))
    (hC : (servoMachine S session).Admits C s envs) :
    I ((servoMachine S session).run s envs) ((servoMachine S session).trace s envs) := by
  refine Machine.monitor_induction_of_admits _ start ?_ envs hC
  intro s t env hI hturnC
  show I (loopStep S session s env).1 (t ++ (loopStep S session s env).2)
  unfold loopStep
  by_cases hexit : s.exit.isSome = true
  · rw [if_pos hexit, List.append_nil]
    exact hI
  · rw [if_neg hexit]
    have hturn := turn s t env hI (by simpa using hexit) hturnC
    unfold Program.wp at hturn
    generalize cycle S session env s = outcome at hturn ⊢
    obtain ⟨r, s', events⟩ := outcome
    cases r with
    | error exit => exact left _ _ _ hturn
    | ok _ => exact hturn

/-- **Loop rule.** A relation between the variables and the trace holds throughout a run if it holds
at the start, if every turn keeps it whether the loop goes on or is left, and if it does not
depend on how the loop was left. -/
theorem servo_induction {J : ServoLoop D → List (ServoEvent D) → Prop} {s : ServoLoop D}
    (start : I s [])
    (turn : ∀ s t env, I s t → s.exit = none →
      Program.wp (cycle S session env) (fun _ => I) (fun _ => J) s t)
    (left : ∀ s t exit, J s t → I { s with exit := some exit } t) (envs : List (CycleEnv D)) :
    I ((servoMachine S session).run s envs) ((servoMachine S session).trace s envs) :=
  servo_induction_of_admits (C := fun _ _ _ => True) start
    (fun s t env hI hrunning _ => turn s t env hI hrunning) left envs
    fun _ _ _ _ => trivial

end FrankaDeploy.Servo
