import FrankaDeploy.TickSource.Statements

/-! # Startup ticks

`prime_non_actuated_startup_tick`: the policy is evaluated and its history advances while the arm
and the hand keep their targets. A method that returns early is cut into the parts between its
returns, each of which goes on with the next one. -/

namespace FrankaDeploy.TickSource

open FrankaDeploy.Foundation FrankaDeploy.ClosedLoop FrankaDeploy.Contracts
open FrankaDeploy.Foundation.Program
open scoped FloatArith

variable {D S : Type} [FloatArith D] [FloatArith S] [FloatCast D S] {W : Type}

variable (config : TickSourceConfig D S) (env : TickWorld D S W)

variable (D S) in
/-- What `prime_non_actuated_startup_tick` returns. -/
inductive StartupResult where
  | record (record : NonActuatedPolicyTick D S)
  | hold (hold : BoundedPolicyTickHold D)

variable (D S) in
structure TickRequest where
  sequence : ℕ
  previous : FiniteVec 13 S
  callerNow : D
  hardDeadline : D

/-- `NonActuatedPolicyTick.__post_init__` on a checked index and a finite time. -/
def NonActuatedPolicyTick.postInit (index : ℕ) (produced : D) (frameId : ℕ)
    (previous : FiniteVec 13 S) (accepted : Vec 13 S) :
    Except PyError (NonActuatedPolicyTick D S) := do
  let accepted ← readonlyFloatArray accepted "accepted_policy_action13"
  if withinUnit accepted.1 = false then
    .error (.valueError "accepted startup policy action must lie in [-1,1]")
  else .ok ⟨index, produced, frameId, previous, accepted⟩

def startupHold (frameId : ℕ) (reason : String) (observed : D) :
    TickM D S W (StartupResult D S) := do
  let hold ← holdLocked config 1 frameId reason observed none
  ret (.hold hold)

def acceptStartup (index : ℕ) (observation : V94PolicyObservation D S)
    (candidate : HistoryCandidate S) (previous raw : FiniteVec 13 S) (afterPolicy : D) :
    TickM D S W (StartupResult D S) := do
  let accepted : Vec 13 S := fun i =>
    if observation.holdArmTarget = true ∧ i.1 < 7 then FloatArith.zero else raw.1 i
  let record ← ofExcept (ofSource (NonActuatedPolicyTick.postInit index afterPolicy
    observation.cameraFrameId previous accepted))
  update fun s =>
    { s.useSource observation.pointcloudSourceFrameId with
      history := some candidate
      policyPreviousAction13 := record.acceptedPolicyAction13
      lastCommittedFrameId := some observation.cameraFrameId
      startupNonActuatedCompletedSteps := s.startupNonActuatedCompletedSteps + 1
      startupNonActuatedRecords := s.startupNonActuatedRecords ++ [record] }
  recordPolicyIoLocked env
    { logicalPolicyStep := index
      hardwareSequence := -1
      startupNonActuated := true
      history := candidate
      observation
      policyPreviousAction13 := previous
      ledgerPreviousAction13 := config.initialPreviousAction13
      rawModelAction13 := raw
      sentAction13 := record.acceptedPolicyAction13
      producedMonotonicS := afterPolicy
      frankaTargetQRad := none
      rh56TargetRegisterOrder := none
      hardwareCommandValid := false }
  ret (.record record)

def inferStartup (index : ℕ) (observation : V94PolicyObservation D S) (hardDeadline : D) :
    TickM D S W (StartupResult D S) := do
  let s ← read
  let candidate ← ofExcept
    (candidateHistoryLocked config s.history observation s.policyPreviousAction13)
  let output ← environment (env.act candidate)
  let raw ← ofExcept (ofSource (output.rawAction "startup policy output.action13"))
  check (withinUnit raw.1 = false) (sourceError "startup policy action must lie in [-1,1]")
  let afterPolicy ← nowMonotonic env
  check (hardDeadline ≤ afterPolicy)
    (sourceError "hard deadline expired during startup policy inference")
  let cloudAge ← pointcloudAge config env observation
  if config.maximumObjectPointcloudAgeS < cloudAge then
    startupHold config observation.cameraFrameId "object_pointcloud_age_limit" afterPolicy
  else do
    let age ← frankaStateAge config observation afterPolicy
    if config.maximumFrankaActionAgeS < age then
      startupHold config observation.cameraFrameId "franka_state_action_age_limit" afterPolicy
    else
      acceptStartup config env index observation candidate s.policyPreviousAction13 raw afterPolicy

def checkStartupFrame (index : ℕ) (observation : V94PolicyObservation D S)
    (afterSnapshot hardDeadline : D) : TickM D S W (StartupResult D S) := do
  let s ← read
  check (s.Regressed observation.cameraFrameId)
    (sourceError "camera frame regressed during non-actuated startup")
  if config.maximumActionsPerCameraFrame ≤ s.usesOf observation.pointcloudSourceFrameId then
    startupHold config observation.cameraFrameId "camera_frame_policy_reuse_limit" afterSnapshot
  else do
    let cloudAge ← pointcloudAge config env observation
    if config.maximumObjectPointcloudAgeS < cloudAge then
      startupHold config observation.cameraFrameId "object_pointcloud_age_limit" afterSnapshot
    else inferStartup config env index observation hardDeadline

/-- The `try` block of `prime_non_actuated_startup_tick`. -/
def observeStartup (index : ℕ) (callerNow hardDeadline : D) :
    TickM D S W (StartupResult D S) := do
  let observation ← snapshot env 1 callerNow hardDeadline
  let afterSnapshot ← nowMonotonic env
  check (afterSnapshot < callerNow) (sourceError "source monotonic clock regressed")
  check (hardDeadline ≤ afterSnapshot)
    (sourceError "hard deadline expired while acquiring startup observation")
  let age ← frankaStateAge config observation afterSnapshot
  if config.maximumFrankaActionAgeS < age then
    startupHold config observation.cameraFrameId "franka_state_action_age_limit" afterSnapshot
  else checkStartupFrame config env index observation afterSnapshot hardDeadline

def handleStartup (r : Except (TickException D S) (StartupResult D S)) :
    TickM D S W (StartupResult D S) :=
  match r with
  | .ok result => ret result
  | .error (.hold h) => do
    let observed ← nowMonotonic env
    startupHold config h.cameraFrameId h.reason observed
  | .error e => do
    latchLocked e.text
    fail e

/-- **`prime_non_actuated_startup_tick`.** -/
def primeNonActuatedStartupTick (logicalIndex : ℤ) (nowMonotonicS hardDeadlineMonotonicS : D) :
    TickM D S W (StartupResult D S) := do
  let index ← ofExcept (ofSource (nonnegativeInteger D logicalIndex "logical_index"))
  let callerNow ← ofExcept (ofSource (finiteScalar nowMonotonicS "now_monotonic_s"))
  let hardDeadline ← ofExcept
    (ofSource (finiteScalar hardDeadlineMonotonicS "hard_deadline_monotonic_s"))
  requireHealthyLocked
  let s ← read
  check (config.startupNonActuatedPolicySteps = 0)
    (sourceError "non-actuated startup is not enabled for this policy")
  check (index ≠ s.startupNonActuatedCompletedSteps)
    (sourceError ("non-actuated startup index mismatch: " ++
      s!"expected={s.startupNonActuatedCompletedSteps}, actual={index}"))
  check (config.startupNonActuatedPolicySteps ≤ index)
    (sourceError "non-actuated startup already completed")
  check (s.lastCommittedSequence ≠ 0 ∨ s.pending.isSome = true)
    (sourceError "non-actuated startup must precede every hardware command")
  check (hardDeadline ≤ callerNow)
    (sourceError "hard deadline expired before non-actuated startup tick")
  let r ← attempt (observeStartup config env index callerNow hardDeadline)
  handleStartup config env r

end FrankaDeploy.TickSource
