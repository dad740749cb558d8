import FrankaDeploy.Foundation.Machine
import FrankaDeploy.TickSource.Prepare

/-! # The calls of the tick source

`commit`, the other public methods, and runs of the source: any calls in any order. -/

namespace FrankaDeploy.TickSource

open FrankaDeploy.Foundation FrankaDeploy.ClosedLoop FrankaDeploy.Contracts
open FrankaDeploy.Foundation.Program
open scoped FloatArith

variable {D S : Type} [FloatArith D] [FloatArith S] [FloatCast D S] {W : Type}

variable (config : TickSourceConfig D S) (env : TickWorld D S W)

/-! ## Commits -/

def commitOccluded (pending : PendingTick D S) : TickM D S W Unit := do
  check (pending.observation.isSome = true)
    (assertionError "occluded closure must not carry a stale observation")
  check (pending.command.holdArmTarget = pending.occludedClosureClearanceLift)
    (assertionError "occluded closure lost its Franka hold/lift contract")
  let s ← read
  check (s.mapper.armTarget.1.arrayEqual pending.command.frankaTargetQRad.1 = false)
    (assertionError "occluded closure changed the committed Franka target")
  update fun s =>
    { s with
      policyPreviousAction13 := pending.command.executedPolicyAction13
      lastCommittedSequence := pending.command.sequence }
  armArrivalGate config env pending.command.frankaTargetQRad
    (if pending.occludedClosureClearanceLift = true then pending.measuredFrankaQRad
      else pending.command.frankaTargetQRad)
    fun _ => true
  update fun s => { s with pending := none }

def commitFrozen (pending : PendingTick D S) : TickM D S W Unit := do
  check (pending.observation.isSome = true)
    (assertionError "frozen post-closure tick carried a stale observation")
  check (pending.command.holdArmTarget = true)
    (assertionError "frozen lift unexpectedly held the Franka target")
  update fun s =>
    { s with
      policyPreviousAction13 := pending.command.executedPolicyAction13
      lastCommittedSequence := pending.command.sequence
      lastCommittedFrameId := some pending.cameraFrameId }
  armArrivalGate config env pending.command.frankaTargetQRad pending.measuredFrankaQRad
    (startAxes config pending.command.frankaTargetQRad pending.measuredFrankaQRad)
  update fun s => { s with pending := none }

def committedRecord (completedSteps : ℕ) (pending : PendingTick D S)
    (history : HistoryCandidate S) (observation : V94PolicyObservation D S) :
    PolicyIoRecord D S where
  logicalPolicyStep := completedSteps + pending.command.sequence - 1
  hardwareSequence := pending.command.sequence
  startupNonActuated := false
  history
  observation
  policyPreviousAction13 := pending.command.previousPolicyAction13Used
  ledgerPreviousAction13 := pending.ledgerPreviousAction13
  rawModelAction13 := pending.command.rawPolicyAction13
  sentAction13 := pending.command.executedPolicyAction13
  producedMonotonicS := pending.command.producedMonotonicS
  frankaTargetQRad := some pending.command.frankaTargetQRad
  rh56TargetRegisterOrder := some pending.command.rh56AngleSetRegisterOrder
  hardwareCommandValid := true

def commitOrdinary (pending : PendingTick D S) : TickM D S W Unit :=
  match pending.history, pending.observation with
  | some history, some observation => do
    update fun s =>
      { s.useSource pending.pointcloudSourceFrameId with
        history := some history
        policyPreviousAction13 := pending.command.executedPolicyAction13
        lastCommittedFrameId := some pending.cameraFrameId }
    let s ← read
    check (config.maximumActionsPerCameraFrame < s.acceptedUsesForLastFrame)
      (assertionError "camera reuse commit guard failed")
    update fun s => { s with lastCommittedSequence := pending.command.sequence }
    armArrivalGate config env pending.command.frankaTargetQRad pending.measuredFrankaQRad
      (startAxes config pending.command.frankaTargetQRad pending.measuredFrankaQRad)
    update fun s => { s with pending := none }
    recordPolicyIoLocked env
      (committedRecord s.startupNonActuatedCompletedSteps pending history observation)
  | _, _ => fail (assertionError "ordinary policy commit lost its observation transaction")

/-- `commit_replay_proposal`, where the policy has it. -/
def commitPolicy (sequence : ℕ) : TickM D S W Unit :=
  match env.commitReplayProposal with
  | none => ret ()
  | some commitReplayProposal => environment (commitReplayProposal sequence)

def commitShaper (proposal : Option RH56HardwareCommandProposal) : TickM D S W Unit :=
  match proposal with
  | none => ret ()
  | some proposal => do
    let _ ← shaperCall fun shaper => shaper.commit proposal.ident
    ret ()

def commitTick (pending : PendingTick D S) : TickM D S W Unit :=
  if pending.occludedClosureHandOnly = true then commitOccluded config env pending
  else if pending.frozenPostClosureWithoutPointcloud = true then commitFrozen config env pending
  else commitOrdinary config env pending

/-- The `try` block of `commit`. The mapper reads the ledger once more. -/
def commitPending (pending : PendingTick D S) (again : ExecutedActionCommit S) :
    TickM D S W Unit := do
  mapperCall fun mapper => mapper.commitLocked pending.mapperProposal.ident again
  commitShaper pending.rh56HardwareProposal
  commitPolicy env pending.command.sequence
  commitTick config env pending

/-- **`commit`** of a command, with the two readings of the ledger; `none` is no ledger. -/
def commit (ident : ℕ) (ledger : Option (ExecutedActionCommit S × ExecutedActionCommit S)) :
    TickM D S W Unit :=
  match ledger with
  | none => fail (typeError "action_ledger must be ExecutedActionLedger")
  | some (committed, again) => do
    requireHealthyLocked
    let s ← read
    match s.pending with
    | none => latchAndRaise "commit did not receive the exact pending command"
    | some pending =>
      if pending.ident ≠ ident then
        latchAndRaise "commit did not receive the exact pending command"
      else if committed.sequence ≠ pending.command.sequence then
        latchAndRaise "policy state cannot commit before exact ledger dual ACK"
      else if committed.executedPolicyAction13.1.arrayEqual
          pending.command.executedPolicyAction13.1 = false then
        latchAndRaise "ledger committed action differs from policy command"
      else latching (commitPending config env pending again)

/-! ## The other methods -/

/-- `commit_rh56_feedback_after_dual_ack` on an integer and a mapping. -/
def commitRh56FeedbackAfterDualAck (sequence : ℤ) (feedback : env.Feedback) :
    TickM D S W Unit := do
  requireHealthyLocked
  let s ← read
  if s.pending.isSome = true then
    latchAndRaise "RH56 feedback callback overlapped a pending command"
  else if sequence ≠ s.lastCommittedSequence then
    latchAndRaise "RH56 feedback callback differs from the committed sequence"
  else
    match env.commitRh56FeedbackAfterDualAck with
    | none => ret ()
    | some observer => latching (environment (observer s.lastCommittedSequence feedback))

def abort (ident : ℕ) (reason : String) : TickM D S W Unit := do
  let s ← read
  let detail := strippedOr reason "unspecified staged policy abort"
  if (s.pending.any fun pending => pending.ident = ident) = true then
    latchLocked ("staged policy command aborted: " ++ detail)
  else latchLocked ("abort did not receive the exact pending command: " ++ detail)

def checkFrankaArrivalGate (measuredQRad : Vec 7 S) (nowMonotonicS : D) : TickM D S W Bool := do
  requireHealthyLocked
  checkFrankaArrivalGateLocked config measuredQRad nowMonotonicS

/-! ## The warmup

Two loops that run until the clock passes their deadline; `rounds` is an upper bound of how often
they go round before that. -/

def setWarmup (f : StartupWarmup D → StartupWarmup D) : TickM D S W Unit :=
  update fun s => { s with warmup := f s.warmup }

def retryWarmup : TickM D S W Unit := do
  setWarmup fun w => { w with retries := w.retries + 1 }
  environment (env.sleep config.holdRetryIntervalS)

def isFresh (observation : V94PolicyObservation D S) (checked : D) : TickM D S W Bool :=
  if observation.pointcloudStatus ≠ "fresh" then ret false
  else do
    let cloudAge ← pointcloudAge config env observation
    if config.maximumObjectPointcloudAgeS < cloudAge then ret false
    else do
      let age ← frankaStateAge config observation checked
      ret (!decide (config.maximumFrankaActionAgeS < age))

def lookForWarmup (hardDeadline : D) (newerThan : Option ℕ) :
    TickM D S W (Option (V94PolicyObservation D S)) := do
  let now ← nowMonotonic env
  let observation ← snapshot env 1 now hardDeadline
  let checked ← nowMonotonic env
  if (newerThan.any fun frame => observation.cameraFrameId ≤ frame) = true then ret none
  else do
    let fresh ← isFresh config env observation checked
    ret (if fresh = true then some observation else none)

def withoutHolds {α : Type} (m : TickM D S W (Option α)) : TickM D S W (Option α) := do
  let r ← attempt m
  match r with
  | .ok a => ret a
  | .error (.hold _) => ret none
  | .error e => fail e

def warmupLoop (hardDeadline deadline : D) (newerThan : Option ℕ) :
    ℕ → TickM D S W (Option (V94PolicyObservation D S))
  | 0 => ret none
  | rounds + 1 => do
    let now ← nowMonotonic env
    if now < deadline then do
      let found ← withoutHolds (lookForWarmup config env hardDeadline newerThan)
      match found with
      | some observation => ret (some observation)
      | none => do
        retryWarmup config env
        warmupLoop hardDeadline deadline newerThan rounds
    else ret none

def discardedInference (observation : V94PolicyObservation D S) : TickM D S W Unit := do
  let s ← read
  let candidate ← ofExcept
    (candidateHistoryLocked config s.history observation config.initialPreviousAction13)
  let started ← nowMonotonic env
  let output ← environment (env.act candidate)
  let raw ← ofExcept (ofSource (output.rawAction "discarded warmup policy output.action13"))
  check (withinUnit raw.1 = false)
    (sourceError "discarded warmup policy action must lie in [-1,1]")
  let finished ← nowMonotonic env
  setWarmup fun w =>
    { w with inferenceS := some (finished - started), frameId := some observation.cameraFrameId }

def warmupPolicy (rounds : ℕ) (hardDeadline warmupLimit : D) : TickM D S W Unit := do
  let now ← nowMonotonic env
  let deadline := if now + warmupLimit < hardDeadline then now + warmupLimit else hardDeadline
  let warmed ← warmupLoop config env hardDeadline deadline none rounds
  match warmed with
  | none => fail (sourceError
      "timed out waiting for a valid observation for discarded policy startup warmup")
  | some observation => do
    discardedInference config env observation
    let ready ← warmupLoop config env hardDeadline deadline (some observation.cameraFrameId) rounds
    match ready with
    | none => fail (sourceError
        "timed out waiting for a fresh post-warmup camera/Franka sample")
    | some _ => setWarmup fun w => { w with complete := true }

def warmupBeforeFirstAction (rounds : ℕ) (hardDeadlineMonotonicS maximumWarmupS : D) :
    TickM D S W Unit := do
  let hardDeadline ← ofExcept
    (ofSource (finiteScalar hardDeadlineMonotonicS "hard_deadline_monotonic_s"))
  let warmupLimit ← ofExcept (ofSource (positiveFloat maximumWarmupS "maximum_warmup_s"))
  requireHealthyLocked
  let s ← read
  check (s.warmup.complete = true) (sourceError "policy startup warmup already ran")
  check (s.lastCommittedSequence ≠ 0 ∨ s.pending.isSome = true ∨ s.history.isSome = true)
    (sourceError "policy startup warmup requires a pristine tick source")
  if config.isReplaySource = true then setWarmup fun w => { w with complete := true }
  else warmupPolicy config env rounds hardDeadline warmupLimit

/-! ## Runs -/

/-- **A call of the source.** -/
inductive TickCall where
  | warmup (rounds : ℕ) (hardDeadline maximumWarmup : D)
  | prime (logicalIndex : ℤ) (now hardDeadline : D)
  | prepare (sequence : ℤ) (previous : Vec 13 S) (now hardDeadline : D)
  | commit (ident : ℕ) (ledger : Option (ExecutedActionCommit S × ExecutedActionCommit S))
  | feedback (sequence : ℤ) (feedback : env.Feedback)
  | abort (ident : ℕ) (reason : String)
  | checkArrival (measured : Vec 7 S) (now : D)

def StartupResult.event : StartupResult D S → TickEvent D S
  | .record tick => .primed tick
  | .hold h => .held h

def PrepareResult.event : PrepareResult D S → TickEvent D S
  | .command tick => .prepared tick
  | .hold h => .held h

def callOf : TickCall env → TickM D S W Unit
  | .warmup rounds hardDeadline maximum =>
    warmupBeforeFirstAction config env rounds hardDeadline maximum
  | .prime index now hardDeadline => do
    let result ← primeNonActuatedStartupTick config env index now hardDeadline
    emit result.event
  | .prepare sequence previous now hardDeadline => do
    let result ← prepare config env sequence previous now hardDeadline
    emit result.event
  | .commit ident ledger => do
    commit config env ident ledger
    emit (.committed ident)
  | .feedback sequence feedback => commitRh56FeedbackAfterDualAck env sequence feedback
  | .abort ident reason => abort ident reason
  | .checkArrival measured now => do
    let _ ← checkFrankaArrivalGate config measured now
    ret ()

def performCall (call : TickCall env) : TickM D S W Unit := do
  let r ← attempt (callOf config env call)
  match r with
  | .ok () => ret ()
  | .error _ => emit .raised

/-- **The tick source as a machine.** -/
def tickMachine : Machine (PolicyTickSource D S W) (TickCall env) (TickEvent D S) where
  step s call := (performCall config env call s).2

end FrankaDeploy.TickSource
