import FrankaDeploy.Foundation.Program
import FrankaDeploy.TickSource.Observation

/-! # The policy loop of the bounded runtime

The loops of `BoundedV94C2Runtime.run` in `sim2real/runtime/bounded_c2_runtime.py`: the release of
each tick, the holds that stage no command with the streak they belong to, and the way from a command
to its commit. The policy source, the devices, their health and the clock are the environment. -/

namespace FrankaDeploy.Runtime.PolicyLoop

open FrankaDeploy.Foundation FrankaDeploy.Foundation.Program
open FrankaDeploy.TickSource (BoundedPolicyTickHold)
open scoped FloatArith

variable {D τ : Type} [FloatArith D]

/-! ## Numbers -/

def hardwareError (message : String) : PyException :=
  ⟨.ordinary, "BoundedC2HardwareRuntimeError", message⟩

def valueError (message : String) : PyException := ⟨.ordinary, "ValueError", message⟩

/-- `_finite_float`; `none` is a value that `float` refuses. -/
def finiteFloat (value : Option D) (name : String) : Except PyException D :=
  match value with
  | some x => if FloatArith.isFinite x = true then .ok x else .error (valueError s!"{name} must be finite")
  | none => .error (valueError s!"{name} must be finite")

def positiveFloat (value : Option D) (name : String) : Except PyException D := do
  let result ← finiteFloat value name
  if result ≤ FloatArith.zero then
    .error (valueError s!"{name} must be positive")
  else .ok result

def pyMax (x y : D) : D := if x < y then y else x

def pyMin (x y : D) : D := if y < x then y else x

def mathFloor (x : D) : Except PyException ℤ :=
  match FloatArith.toRat? x with
  | some q => .ok ⌊q⌋
  | none =>
    if isNan x then .error (valueError "cannot convert float NaN to integer")
    else .error ⟨.ordinary, "OverflowError", "cannot convert float infinity to integer"⟩

/-! ## The hold budget -/

variable (D) in
structure Admission where
  policyRateHz : Option D
  verifiedInterCommandWatchdogTimeoutS : Option D
  verifiedCommandWatchdogTimeoutS : Option D

def effectiveRh56InterCommandWatchdogS (admission : Admission D) : Except PyException D :=
  positiveFloat
    (admission.verifiedInterCommandWatchdogTimeoutS.or admission.verifiedCommandWatchdogTimeoutS)
    "effective RH56 inter-command watchdog"

def noStageHoldWatchdogFraction : D := FloatArith.ofRat (90 / 100)

/-- **`_validate_no_stage_hold_precedes_watchdog`.** -/
def validateNoStageHoldPrecedesWatchdog (maximumHoldS : Option D) (admission : Admission D) :
    Except PyException D := do
  let maximumHold ← positiveFloat maximumHoldS "maximum_consecutive_no_stage_hold_s"
  let watchdog ← effectiveRh56InterCommandWatchdogS admission
  let rate ← positiveFloat admission.policyRateHz "policy_rate_hz"
  let policyPeriodS := FloatArith.one / rate
  let maximumSafeHold := watchdog * noStageHoldWatchdogFraction - policyPeriodS
  if maximumSafeHold ≤ FloatArith.zero then
    .error (valueError ("effective RH56 inter-command watchdog leaves no bounded " ++
      "observation-hold interval after one policy period and 10% margin"))
  else if maximumSafeHold < maximumHold then
    .error (valueError ("maximum_consecutive_no_stage_hold_s plus one policy period must " ++
      "leave at least 10% margin before the effective RH56 inter-command watchdog"))
  else .ok watchdog

variable (D) in
/-- **The constants of a run.** The hold budget is validated when the runtime is made. -/
structure Constants where
  admission : Admission D
  policyPeriodS : D
  phaseLocked20hz : Bool
  maximumConsecutiveNoStageHoldS : D
  watchdogS : D
  commitPollIntervalS : D
  startupSteps : ℕ
  maximumSteps : ℕ
  hardDeadline : D

/-- `math.isclose(policy_rate_hz, 20.0, rel_tol=0.0, abs_tol=1.0e-12)`. -/
def isPhaseLocked20hz (rate : D) : Bool :=
  FloatArith.le (FloatArith.abs (FloatArith.ofRat 20 - rate)) (FloatArith.ofRat (1 / 10 ^ 12))

/-- **What the constructor of the runtime makes of its arguments.** -/
def makeConstants (admission : Admission D) (maximumHoldS commitPollIntervalS : Option D)
    (startupSteps maximumSteps : ℕ) (hardDeadline : D) : Except PyException (Constants D) := do
  let poll ← positiveFloat commitPollIntervalS "commit_poll_interval_s"
  let maximumHold ← positiveFloat maximumHoldS "maximum_consecutive_no_stage_hold_s"
  let watchdog ← validateNoStageHoldPrecedesWatchdog (some maximumHold) admission
  let rate ← positiveFloat admission.policyRateHz "policy_rate_hz"
  .ok {
    admission := admission
    policyPeriodS := FloatArith.one / rate
    phaseLocked20hz := isPhaseLocked20hz rate
    maximumConsecutiveNoStageHoldS := maximumHold
    watchdogS := watchdog
    commitPollIntervalS := poll
    startupSteps := startupSteps
    maximumSteps := maximumSteps
    hardDeadline := hardDeadline }

/-! ## The state -/

variable (D) in
structure HoldRecord where
  sequence : ℕ
  reason : String
  cameraFrameId : ℕ
  observedMonotonicS : D
  retryNotBeforeMonotonicS : D
  scheduledRetryDelayS : D
  consecutiveIndex : ℕ
  consecutiveDurationS : D
  streakFirstCameraFrameId : Option ℕ
  streakLastCameraFrameId : Option ℕ
  streakFrameChanges : ℕ

variable (D) in
/-- **The current streak of holds**; every field but the first is evidence only. -/
structure HoldStreak where
  startedMonotonicS : Option D
  effectiveEndMonotonicS : Option D
  count : ℕ
  firstCameraFrameId : Option ℕ
  lastCameraFrameId : Option ℕ
  frameChanges : ℕ

variable (D) in
/-- **The runtime**, as its loops use it. -/
structure BoundedV94C2Runtime where
  streak : HoldStreak D
  noStagePolicyHoldCount : ℕ
  noStagePolicyHoldCountsByReason : String → ℕ
  lastNoStagePolicyHold : Option (HoldRecord D)
  maximumConsecutiveNoStageHoldCount : ℕ
  maximumConsecutiveNoStageHoldDurationS : D
  policyScheduleSkippedSlotCount : ℤ
  policyScheduleMaxReleaseLatenessS : D
  startupNonActuatedCompletedSteps : ℕ
  lastCommittedSequence : ℕ

def HoldStreak.none : HoldStreak D := ⟨.none, .none, 0, .none, .none, 0⟩

def BoundedV94C2Runtime.init : BoundedV94C2Runtime D where
  streak := .none
  noStagePolicyHoldCount := 0
  noStagePolicyHoldCountsByReason := fun _ => 0
  lastNoStagePolicyHold := none
  maximumConsecutiveNoStageHoldCount := 0
  maximumConsecutiveNoStageHoldDurationS := FloatArith.zero
  policyScheduleSkippedSlotCount := 0
  policyScheduleMaxReleaseLatenessS := FloatArith.zero
  startupNonActuatedCompletedSteps := 0
  lastCommittedSequence := 0

variable (D) in
inductive Primed where
  | hold (hold : BoundedPolicyTickHold D)
  | tick (logicalIndex : ℤ) (producedMonotonicS : D)

variable (D) in
inductive Prepared where
  | hold (hold : BoundedPolicyTickHold D)
  | command (sequence : ℕ) (producedMonotonicS : D)

variable (D) in
structure Executed where
  handCommandAt : D
  replayComplete : Bool

/-- **The environment of the loops.** -/
structure LoopWorld (D τ : Type) [FloatArith D] where
  now : τ → D × τ
  sleep : D → τ → Except PyException Unit × τ
  requireRunning : τ → Except PyException Bool × τ
  requireLiveBoundary : D → τ → Except PyException Unit × τ
  primeStartup : ℕ → D → τ → Except PyException (Primed D) × τ
  prepare : ℕ → D → τ → Except PyException (Prepared D) × τ
  requireUnchanged : τ → Except PyException Unit × τ
  execute : ℕ → τ → Except PyException (Executed D) × τ

variable (D) in
/-- **What can be seen of a run of the loops.** -/
inductive LoopEvent where
  /-- The liveness check: its time, the deadline of the streak and whether it raised. -/
  | checked (now : D) (deadline : Option D) (fault : Bool)
  | held (observed : D)
  | closed
  | handCommanded (time : D)
  | committed (sequence : ℕ)
  | faultLatched
deriving DecidableEq

structure LoopState (D τ : Type) [FloatArith D] where
  runtime : BoundedV94C2Runtime D
  world : τ

abbrev LoopM (D τ : Type) [FloatArith D] (α : Type) : Type :=
  Program (LoopState D τ) (LoopEvent D) PyException α

def callWorld {α : Type} (f : τ → Except PyException α × τ) : LoopM D τ α :=
  ofStep fun s => ((f s.world).1, { s with world := (f s.world).2 })

def modify (f : BoundedV94C2Runtime D → BoundedV94C2Runtime D) : LoopM D τ Unit :=
  update fun s => { s with runtime := f s.runtime }

/-! ## The streak of holds -/

def updateNoStageHoldMaximaLocked (R : BoundedV94C2Runtime D) : BoundedV94C2Runtime D :=
  match R.streak.startedMonotonicS, R.streak.effectiveEndMonotonicS with
  | some started, some ended =>
    { R with
      maximumConsecutiveNoStageHoldCount :=
        max R.maximumConsecutiveNoStageHoldCount R.streak.count
      maximumConsecutiveNoStageHoldDurationS :=
        pyMax R.maximumConsecutiveNoStageHoldDurationS (pyMax FloatArith.zero (ended - started)) }
  | _, _ => R

def HoldStreak.record (streak : HoldStreak D) (observed : D) (cameraFrameId : ℕ) : HoldStreak D :=
  match streak.startedMonotonicS with
  | .none =>
    { startedMonotonicS := some observed
      effectiveEndMonotonicS := some observed
      count := 1
      firstCameraFrameId := some cameraFrameId
      lastCameraFrameId := some cameraFrameId
      frameChanges := 0 }
  | .some _ =>
    { streak with
      effectiveEndMonotonicS := some (pyMax observed (streak.effectiveEndMonotonicS.getD observed))
      count := streak.count + 1
      lastCameraFrameId := some cameraFrameId
      frameChanges := if streak.lastCameraFrameId = some cameraFrameId then streak.frameChanges
        else streak.frameChanges + 1 }

/-- **`_record_no_stage_policy_hold`**, without its event. -/
def recordLocked (hold : BoundedPolicyTickHold D) (R : BoundedV94C2Runtime D) :
    BoundedV94C2Runtime D :=
  let observed := hold.observedMonotonicS
  let streak := R.streak.record observed hold.cameraFrameId
  updateNoStageHoldMaximaLocked
    { R with
      streak := streak
      noStagePolicyHoldCount := R.noStagePolicyHoldCount + 1
      noStagePolicyHoldCountsByReason := fun reason =>
        if reason = hold.reason then R.noStagePolicyHoldCountsByReason reason + 1
        else R.noStagePolicyHoldCountsByReason reason
      lastNoStagePolicyHold := some {
        sequence := hold.sequence
        reason := hold.reason
        cameraFrameId := hold.cameraFrameId
        observedMonotonicS := observed
        retryNotBeforeMonotonicS := hold.retryNotBeforeMonotonicS
        scheduledRetryDelayS := pyMax FloatArith.zero (hold.retryNotBeforeMonotonicS - observed)
        consecutiveIndex := streak.count
        consecutiveDurationS :=
          pyMax FloatArith.zero (observed - streak.startedMonotonicS.getD observed)
        streakFirstCameraFrameId := streak.firstCameraFrameId
        streakLastCameraFrameId := streak.lastCameraFrameId
        streakFrameChanges := streak.frameChanges } }

def recordNoStagePolicyHold (hold : BoundedPolicyTickHold D) : LoopM D τ Unit := do
  modify (recordLocked hold)
  emit (.held hold.observedMonotonicS)

def frameText (frameId : Option ℕ) : String := (frameId.map toString).getD "None"

def holdFaultText (R : BoundedV94C2Runtime D) : String :=
  match R.lastNoStagePolicyHold with
  | none => "maximum consecutive no-stage observation hold exceeded"
  | some last =>
    s!"maximum consecutive no-stage observation hold exceeded: sequence={last.sequence} " ++
      s!"camera_frame_id={last.cameraFrameId} reason={last.reason} " ++
      s!"streak_first_camera_frame_id={frameText R.streak.firstCameraFrameId} " ++
      s!"streak_last_camera_frame_id={frameText R.streak.lastCameraFrameId} " ++
      s!"streak_frame_changes={R.streak.frameChanges}"

def noStagePolicyHoldDeadlineMonotonicS (C : Constants D) (R : BoundedV94C2Runtime D) : Option D :=
  R.streak.startedMonotonicS.map (· + C.maximumConsecutiveNoStageHoldS)

def checkedLocked (now : D) (R : BoundedV94C2Runtime D) : BoundedV94C2Runtime D :=
  updateNoStageHoldMaximaLocked
    { R with streak := { R.streak with
        effectiveEndMonotonicS := some (pyMax now (R.streak.effectiveEndMonotonicS.getD now)) } }

/-- **`_require_no_stage_policy_hold_within_bound`.** -/
def requireNoStagePolicyHoldWithinBound (C : Constants D) (now : D) : LoopM D τ Unit := do
  let _ ← ofExcept (finiteFloat (some now) "no-stage hold liveness check")
  let s ← read
  match noStagePolicyHoldDeadlineMonotonicS C s.runtime with
  | none => emit (.checked now none false)
  | some holdDeadline => do
    modify (checkedLocked now)
    if now < holdDeadline then emit (.checked now (some holdDeadline) false)
    else do
      emit (.checked now (some holdDeadline) true)
      fail (hardwareError (holdFaultText (checkedLocked now s.runtime)))

def closeLocked (ended : D) (R : BoundedV94C2Runtime D) : BoundedV94C2Runtime D :=
  match R.streak.startedMonotonicS with
  | none => R
  | some _ => { checkedLocked ended R with streak := .none }

/-- **`_close_no_stage_policy_hold_streak`.** -/
def closeNoStagePolicyHoldStreak (ended : D) : LoopM D τ Unit := do
  let _ ← ofExcept (finiteFloat (some ended) "no-stage hold streak end")
  modify (closeLocked ended)
  emit .closed

/-! ## The release of a tick -/

/-- **`_advance_phase_locked_policy_release`.** -/
def advancePhaseLockedPolicyRelease (scheduledRelease policyPeriod completedAt : D) :
    LoopM D τ D := do
  let scheduled ← ofExcept (finiteFloat (some scheduledRelease) "scheduled_release_monotonic_s")
  let period ← ofExcept (positiveFloat (some policyPeriod) "policy_period_s")
  let completed ← ofExcept (finiteFloat (some completedAt) "completed_at_monotonic_s")
  let lateness := pyMax FloatArith.zero (completed - scheduled)
  let nextRelease := scheduled + period
  let skipped ← ofExcept (if nextRelease ≤ completed then
    (mathFloor ((completed - nextRelease) / period)).map (· + 1) else .ok 0)
  modify fun R => { R with
    policyScheduleSkippedSlotCount := R.policyScheduleSkippedSlotCount + skipped
    policyScheduleMaxReleaseLatenessS := pyMax R.policyScheduleMaxReleaseLatenessS lateness }
  ret (if nextRelease ≤ completed then nextRelease + FloatArith.ofRat skipped * period
    else nextRelease)

namespace LoopWorld

variable (W : LoopWorld D τ) (C : Constants D)

def readNow : LoopM D τ D := callWorld fun w => (.ok (W.now w).1, (W.now w).2)

/-- **`_wait_for_policy_release`**: `false` is a clean stop, and `none` that it has not ended in so
many polls. -/
def waitForPolicyRelease (notBefore : D) : ℕ → LoopM D τ (Option Bool)
  | 0 => ret none
  | polls + 1 => do
    let running ← callWorld W.requireRunning
    if running = false then ret (some false)
    else do
      let now ← W.readNow
      requireNoStagePolicyHoldWithinBound C now
      check (C.hardDeadline ≤ now)
        (hardwareError "bounded run deadline expired before policy release")
      if notBefore ≤ now then ret (some true)
      else do
        callWorld (W.requireLiveBoundary now)
        callWorld (W.sleep (pyMin C.commitPollIntervalS (notBefore - now)))
        waitForPolicyRelease notBefore polls

/-! ## The loops -/

def startupTick (scheduledRelease : D) : LoopM D τ D := do
  let startupNow ← W.readNow
  requireNoStagePolicyHoldWithinBound C startupNow
  callWorld (W.requireLiveBoundary startupNow)
  let logicalIndex := (← read).runtime.startupNonActuatedCompletedSteps
  match ← callWorld (W.primeStartup logicalIndex startupNow) with
  | .hold hold => do
    recordNoStagePolicyHold hold
    let now ← W.readNow
    requireNoStagePolicyHoldWithinBound C now
  | .tick primedIndex produced => do
    check (primedIndex ≠ logicalIndex)
      (hardwareError "startup policy tick returned the wrong logical index")
    closeNoStagePolicyHoldStreak produced
    modify fun R => { R with
      startupNonActuatedCompletedSteps := R.startupNonActuatedCompletedSteps + 1 }
  let completed ← W.readNow
  advancePhaseLockedPolicyRelease scheduledRelease C.policyPeriodS completed

/-- **The startup loop**: the next release and whether all its steps were made. -/
def startupLoop : ℕ → D → LoopM D τ (Option (D × Bool))
  | 0, _ => ret none
  | rounds + 1, nextPolicyNotBefore => do
    if C.startupSteps ≤ (← read).runtime.startupNonActuatedCompletedSteps then
      ret (some (nextPolicyNotBefore, true))
    else do
      match ← W.waitForPolicyRelease C nextPolicyNotBefore (rounds + 1) with
      | none => ret none
      | some false => ret (some (nextPolicyNotBefore, false))
      | some true => do
        let next ← W.startupTick C nextPolicyNotBefore
        startupLoop rounds next

def holdTick (scheduledRelease : D) (sequence : ℕ) (hold : BoundedPolicyTickHold D) :
    LoopM D τ D := do
  check (hold.sequence ≠ sequence) (hardwareError "policy hold sequence differs from runtime")
  callWorld W.requireUnchanged
  recordNoStagePolicyHold hold
  let holdCheckedAt ← W.readNow
  requireNoStagePolicyHoldWithinBound C holdCheckedAt
  if C.phaseLocked20hz = true then
    advancePhaseLockedPolicyRelease scheduledRelease C.policyPeriodS holdCheckedAt
  else do
    match noStagePolicyHoldDeadlineMonotonicS C (← read).runtime with
    | none => fail (hardwareError "no-stage policy hold streak disappeared before retry")
    | some holdDeadline =>
      ret (pyMax holdCheckedAt (pyMin hold.retryNotBeforeMonotonicS holdDeadline))

/-- A command after its tick: the next release, or `none` at the end of a replay. -/
def commandTick (scheduledRelease now : D) (sequence preparedSequence : ℕ) (produced : D) :
    LoopM D τ (Option D) := do
  check (preparedSequence ≠ sequence)
    (hardwareError "policy source command sequence differs from runtime")
  closeNoStagePolicyHoldStreak produced
  let executed ← callWorld (W.execute sequence)
  emit (.handCommanded executed.handCommandAt)
  modify fun R => { R with lastCommittedSequence := sequence }
  emit (.committed sequence)
  let next ← (if C.phaseLocked20hz = true then do
      let completed ← W.readNow
      advancePhaseLockedPolicyRelease scheduledRelease C.policyPeriodS completed
    else ret (now + C.policyPeriodS))
  let _ ← W.readNow
  ret (if executed.replayComplete = true then none else some next)

/-- **A tick after its release.** -/
def policyTick (scheduledRelease : D) : LoopM D τ (Option D) := do
  let now ← W.readNow
  requireNoStagePolicyHoldWithinBound C now
  callWorld (W.requireLiveBoundary now)
  let sequence := (← read).runtime.lastCommittedSequence + 1
  match ← callWorld (W.prepare sequence now) with
  | .hold hold => do
    let next ← W.holdTick C scheduledRelease sequence hold
    ret (some next)
  | .command preparedSequence produced =>
    W.commandTick C scheduledRelease now sequence preparedSequence produced

/-- **The policy loop**: whether it ended in so many rounds. -/
def policyLoop : ℕ → D → LoopM D τ Bool
  | 0, _ => ret false
  | rounds + 1, nextPolicyNotBefore => do
    if C.maximumSteps ≤ (← read).runtime.lastCommittedSequence then ret true
    else do
      match ← W.waitForPolicyRelease C nextPolicyNotBefore (rounds + 1) with
      | none => ret false
      | some false => ret true
      | some true => do
        match ← W.policyTick C nextPolicyNotBefore with
        | none => ret true
        | some next => policyLoop rounds next

def loops (rounds : ℕ) : LoopM D τ Bool := do
  let nextPolicyNotBefore ← W.readNow
  match ← W.startupLoop C rounds nextPolicyNotBefore with
  | none => ret false
  | some (next, startupComplete) => do
    let ended ← (if startupComplete = true then W.policyLoop C rounds next else ret true)
    if ended = false then ret false
    else do
      let now ← W.readNow
      closeNoStagePolicyHoldStreak now
      ret true

/-- **The part of `run` with the loops**: a failure closes the streak, if the clock lets it, and
latches the fault. -/
def run (rounds : ℕ) : LoopM D τ Bool := do
  match ← attempt (W.loops C rounds) with
  | .ok ended => ret ended
  | .error e => do
    let _ ← attempt (do
      let now ← W.readNow
      closeNoStagePolicyHoldStreak now)
    emit .faultLatched
    fail e

end LoopWorld

end FrankaDeploy.Runtime.PolicyLoop
