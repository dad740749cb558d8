import FrankaDeploy.GraspSequence.Sequence

/-! # Calls of the staged grasp sequence

The stages of a grasp in their order, the public methods with the checks that they make before their
`try` block, and runs: any public calls in any order. -/

namespace FrankaDeploy.GraspSequence

open FrankaDeploy.Foundation FrankaDeploy.ClosedLoop
open FrankaDeploy.Foundation.Program
open scoped FloatArith

variable {D : Type} [FloatArith D] {W : Type}

variable (env : SequenceWorld D W)

/-! ## To the default pose -/

def moveWaypoints (waypoints : List (Waypoint D)) (toleranceRad : D) : SeqM D W Unit :=
  forEach waypoints fun w => moveAuditedWaypoint env w.q.1 toleranceRad w.name

def runToDefault (defaultQ : FiniteVec 7 D) : SeqM D W Unit := do
  transition env .openingHand
  openHand env
  transition env .openVerified
  observeBoundary env ⟨"open", none, none, registerTargets openHandTargets⟩
  transition env .movingFrankaDefault
  let _ ← driver (.moveJoints defaultQ.1) (env.moveJoints defaultQ.1)
  update fun s => { s with preparedDefaultQ := some defaultQ.1 }
  transition env .defaultVerified
  observeBoundary env ⟨"default", some defaultQ.1, none, none⟩

/-- The moves to the waypoint `default`. -/
def moveToDefault (waypoints : List (Waypoint D)) (toleranceRad : D) (index : ℕ) :
    SeqM D W Unit := do
  moveWaypoints env (slice waypoints 1 (index + 1)) toleranceRad
  let default ← waypoint waypoints[index]?
  update fun s => { s with preparedDefaultQ := some default.q.1 }
  transition env .defaultVerified

def runToDefaultJointWaypoints (plan : AuditedJointSequencePlan D) : SeqM D W Unit := do
  transition env .openingHand
  openHand env
  transition env .openVerified
  observeBoundary env ⟨"open", none, none, registerTargets openHandTargets⟩
  transition env .movingFrankaDefault
  let index ← findDefault plan.jointWaypoints
  moveToDefault env plan.jointWaypoints plan.maxQTrackingErrorRad index

/-- The end of `_run_pregrasp_only_joint_waypoints`: from the default to the pregrasp pose. -/
def runToPregrasp (plan : AuditedPregraspSequencePlan D) (index : ℕ) : SeqM D W Unit := do
  transition env .movingPregrasp
  moveWaypoints env (plan.jointWaypoints.drop (index + 1)) plan.maxQTrackingErrorRad
  let last ← waypoint plan.jointWaypoints.getLast?
  verifyAuditedJointArrival env last.q.1 plan.pregraspPose plan.maxQTrackingErrorRad
    (settleTolerances env plan.settleTolerances) "pregrasp"
  transition env .pregraspVerified
  observeBoundary env
    ⟨"pregrasp", some last.q.1, some plan.pregraspPose, some disabledHandTargets⟩

/-- `_run_pregrasp_only_joint_waypoints`: the hand is opened and disabled before the arm moves. -/
def runPregraspOnlyJointWaypoints (plan : AuditedPregraspSequencePlan D) : SeqM D W Unit := do
  transition env .openingHand
  openHand env
  disableHand env
  transition env .openVerified
  observeBoundary env ⟨"open", none, none, some disabledHandTargets⟩
  let index ← findDefault plan.jointWaypoints
  transition env .movingFrankaDefault
  moveToDefault env plan.jointWaypoints plan.maxQTrackingErrorRad index
  runToPregrasp env plan index

/-! ## From the default pose to the hold -/

def requirePreparedDefault (defaultQ : Vec 7 D) (message : String) : SeqM D W Unit := do
  let s ← read
  check ((s.preparedDefaultQ.any fun q => !q.arrayEqual defaultQ) = true) (planError message)

def preshapeStage (target : Option (Fin 1001)) (targetQ : Option (Vec 7 D)) (graspPose : Pose D) :
    SeqM D W Unit :=
  match target with
  | none => ret ()
  | some q6 => do
    transition env .thumbPreshape
    requireSettleGate "thumb preshape"
    driver (.preshapeThumb q6) (env.preshapeThumb q6)
    observeBoundary env ⟨"thumb_preshape", targetQ, some graspPose, preshapeTargets q6⟩

def holdStage (targets : RegisterVector) (targetQ : Option (Vec 7 D)) (graspPose : Pose D) :
    SeqM D W Unit := do
  update fun s => { s with boundedHoldTargets := some targets }
  transition env .holding
  observeBoundary env ⟨"close", targetQ, some graspPose, registerTargets targets⟩

def graspStages (targetQ : Option (Vec 7 D)) (graspPose : Pose D)
    (thumb : Option (Fin 1001)) (close : SeqM D W Unit) (targets : RegisterVector) :
    SeqM D W Unit := do
  update fun s => { s with eefSettleVerified := true }
  observeBoundary env ⟨"grasp", targetQ, some graspPose, registerTargets openHandTargets⟩
  preshapeStage env thumb targetQ graspPose
  transition env .closingBends
  requireSettleGate "finger closure"
  close
  holdStage env targets targetQ graspPose

/-- `self.hand.close_bends_and_hold(...)`. -/
def closeBends (targets : RegisterVector) : SeqM D W Unit :=
  driver (.closeBendsAndHold targets) (env.closeBendsAndHold targets)

def runAfterDefault (plan : NormalizedPlan D) : SeqM D W Unit := do
  requirePreparedDefault plan.defaultQ.1
    "plan default_q differs from the already verified default pose"
  transition env .movingPregrasp
  driver (.movePose plan.pregraspPose) (env.movePose plan.pregraspPose)
  verifyArrival env plan.pregraspPose (settleTolerances env plan.settleTolerances) "pregrasp"
  transition env .pregraspVerified
  observeBoundary env
    ⟨"pregrasp", none, some plan.pregraspPose, registerTargets openHandTargets⟩
  transition env .movingGrasp
  driver (.movePose plan.graspPose) (env.movePose plan.graspPose)
  transition env .eefSettling
  verifyArrival env plan.graspPose (settleTolerances env plan.settleTolerances) "grasp"
  graspStages env none plan.graspPose plan.thumbPreshapeTarget
    (closeBends env plan.handTarget6) plan.handTarget6

def closeAudited (plan : AuditedJointSequencePlan D) : SeqM D W Unit :=
  if plan.contactAndLiftForbidden = true then do
    driver (.closeBendsNoContactAndHold plan.handTarget6)
      (env.closeBendsNoContactAndHold plan.handTarget6)
    update fun s => { s with airNoContactHold := true }
  else closeBends env plan.handTarget6

/-- The part of `_run_after_default_joint_waypoints` that ends at the pregrasp pose. -/
def approachPregrasp (plan : AuditedJointSequencePlan D) (index : ℕ) (pregrasp : Waypoint D) :
    SeqM D W Unit := do
  transition env .movingPregrasp
  moveWaypoints env (plan.jointWaypoints.drop (index + 1)).dropLast plan.maxQTrackingErrorRad
  verifyAuditedJointArrival env pregrasp.q.1 plan.pregraspPose plan.maxQTrackingErrorRad
    (settleTolerances env plan.settleTolerances) "pregrasp"
  transition env .pregraspVerified
  observeBoundary env
    ⟨"pregrasp", some pregrasp.q.1, some plan.pregraspPose, registerTargets openHandTargets⟩

/-- The part of `_run_after_default_joint_waypoints` that moves to the grasp pose. -/
def approachGrasp (plan : AuditedJointSequencePlan D) (grasp : Waypoint D) : SeqM D W Unit := do
  transition env .movingGrasp
  moveAuditedWaypoint env grasp.q.1 plan.maxQTrackingErrorRad grasp.name
  transition env .eefSettling
  verifyAuditedJointArrival env grasp.q.1 plan.graspPose plan.maxQTrackingErrorRad
    (settleTolerances env plan.settleTolerances) "grasp"

def runAfterDefaultJointWaypoints (plan : AuditedJointSequencePlan D) : SeqM D W Unit := do
  let index ← findDefault plan.jointWaypoints
  let default ← waypoint plan.jointWaypoints[index]?
  requirePreparedDefault default.q.1
    "audited default waypoint differs from the already verified default pose"
  let pregrasp ← waypoint plan.jointWaypoints.dropLast.getLast?
  let grasp ← waypoint plan.jointWaypoints.getLast?
  approachPregrasp env plan index pregrasp
  approachGrasp env plan grasp
  graspStages env (some grasp.q.1) plan.graspPose plan.thumbPreshapeTarget
    (closeAudited env plan) plan.handTarget6

/-! ## The loaded lift -/

def moveHeld (plan : AuditedLoadedLiftSequencePlan D) (w : Waypoint D) (name : String) :
    SeqM D W Unit := do
  verifyLoadedHold env
  moveLoadedWaypoint env w.q.1 plan.maxQTrackingErrorRad name plan.timeLaw
  verifyLoadedHold env

def applyLoad (plan : AuditedLoadedLiftSequencePlan D) (start : Waypoint D) : SeqM D W Unit := do
  verifyLoadedHold env
  driver (.applyExternalLoadAndVerify plan.payload) (env.applyExternalLoadAndVerify plan.payload)
  update fun s => { s with loadedPayloadActive := true }
  observeBoundary env
    ⟨"load_applied", some start.q.1, some plan.graspPlan.graspPose,
      registerTargets plan.graspPlan.handTarget6⟩

def lift (plan : AuditedLoadedLiftSequencePlan D) (last : Waypoint D) : SeqM D W Unit := do
  transition env .movingLift
  -- before the first arm command: even a partial move can remove the object from its support
  update fun s => { s with loadedObjectSuspended := true }
  forEach (plan.liftWaypoints.drop 1) fun w => moveHeld env plan w w.name
  transition env .liftSettling
  verifyAuditedJointArrival env last.q.1 plan.liftPose plan.maxQTrackingErrorRad
    (settleTolerances env plan.settleTolerances) "loaded lift"
  verifyLoadedHold env
  transition env .liftedHolding
  observeBoundary env
    ⟨"lift", some last.q.1, some plan.liftPose, registerTargets plan.graspPlan.handTarget6⟩

/-- The `try` block of `run_loaded_lift_joint_waypoints`. -/
def loadedLift (plan : AuditedLoadedLiftSequencePlan D) : SeqM D W Unit := do
  runToDefaultJointWaypoints env plan.graspPlan
  runAfterDefaultJointWaypoints env plan.graspPlan
  let start ← waypoint plan.liftWaypoints.head?
  let last ← waypoint plan.liftWaypoints.getLast?
  applyLoad env plan start
  lift env plan last

def lower (plan : AuditedLoadedLiftSequencePlan D) (start : Waypoint D) : SeqM D W Unit := do
  transition env .loweringLoad
  forEach plan.liftWaypoints.dropLast.reverse fun w => moveHeld env plan w ("setdown_" ++ w.name)
  transition env .setdownSettling
  verifyAuditedJointArrival env start.q.1 plan.graspPlan.graspPose plan.maxQTrackingErrorRad
    (settleTolerances env plan.settleTolerances) "loaded setdown"
  verifyLoadedHold env
  transition env .setdownHolding
  observeBoundary env
    ⟨"setdown", some start.q.1, some plan.graspPlan.graspPose,
      registerTargets plan.graspPlan.handTarget6⟩

def release (plan : AuditedLoadedLiftSequencePlan D) (start : Waypoint D) : SeqM D W Unit := do
  update fun s => { s with loadedObjectSuspended := false }
  disableHand env
  clearExternalLoad env
  transition env .setdownComplete
  observeBoundary env
    ⟨"setdown_complete", some start.q.1, some plan.graspPlan.graspPose, some disabledHandTargets⟩

/-- The `try` block of `return_loaded_lift_to_setdown`. -/
def setdown (plan : AuditedLoadedLiftSequencePlan D) : SeqM D W Unit := do
  let start ← waypoint plan.liftWaypoints.head?
  lower env plan start
  release env plan start

/-! ## Public methods -/

def requireState (allowed : List SequenceState) (message : String) : SeqM D W Unit := do
  let s ← read
  check (s.state ∉ allowed) (stateError (message ++ s.state.value))

def typedPlan {α : Type} (plan : Option α) (message : String) : SeqM D W α :=
  ofExcept (match plan with
    | some plan => .ok plan
    | none => .error (planError message))

def toDefaultOnce (defaultQ : Vec 7 D) (mismatch message : String) (run : SeqM D W Unit) :
    SeqM D W Unit := do
  let s ← read
  if s.state = .defaultVerified then requirePreparedDefault defaultQ mismatch
  else do
    requireState [.disarmed] message
    run

def runToDefaultCall (plan : Except PyException (NormalizedDefaultPlan D)) : SeqM D W Unit := do
  let normalized ← ofExcept (plan.mapError .raised)
  requireEligible normalized.executionEligible normalized.ineligibilityReason
  toDefaultOnce normalized.defaultQ.1
    "plan default_q differs from the already verified default pose"
    "run_to_default requires DISARMED, got "
    (guarded (handleFailure env) (runToDefault env normalized.defaultQ))

def full (plan : NormalizedPlan D) : SeqM D W Unit := do
  let s ← read
  runIf (s.state = .disarmed) (runToDefault env plan.defaultQ)
  runAfterDefault env plan

def runFullCall (plan : Except PyException (NormalizedPlan D)) : SeqM D W Unit := do
  let normalized ← ofExcept (plan.mapError .raised)
  requireEligible normalized.executionEligible normalized.ineligibilityReason
  requireState [.disarmed, .defaultVerified] "run_full requires DISARMED or DEFAULT_VERIFIED, got "
  guarded (handleOtherFailure env) (full env normalized)

def runToDefaultJointWaypointsCall (plan : Option (AuditedJointSequencePlan D)) :
    SeqM D W Unit := do
  let plan ← typedPlan plan "run_to_default_joint_waypoints requires AuditedJointSequencePlan"
  requireEligible plan.executionEligible plan.ineligibilityReason
  let index ← findDefault plan.jointWaypoints
  let default ← waypoint plan.jointWaypoints[index]?
  toDefaultOnce default.q.1 "audited default waypoint differs from the already verified pose"
    "run_to_default_joint_waypoints requires DISARMED, got "
    (guarded (handleOtherFailure env) (runToDefaultJointWaypoints env plan))

/-- The `try` block of `run_full_joint_waypoints`. -/
def fullJointWaypoints (plan : AuditedJointSequencePlan D) : SeqM D W Unit := do
  let s ← read
  runIf (s.state = .disarmed) (runToDefaultJointWaypoints env plan)
  runAfterDefaultJointWaypoints env plan

def runFullJointWaypointsCall (plan : Option (AuditedJointSequencePlan D)) : SeqM D W Unit := do
  let plan ← typedPlan plan "run_full_joint_waypoints requires AuditedJointSequencePlan"
  requireEligible plan.executionEligible plan.ineligibilityReason
  requireState [.disarmed, .defaultVerified]
    "run_full_joint_waypoints requires DISARMED or DEFAULT_VERIFIED, got "
  guarded (handleOtherFailure env) (fullJointWaypoints env plan)

def runToPregraspJointWaypointsCall (plan : Option (AuditedPregraspSequencePlan D)) :
    SeqM D W Unit := do
  let plan ← typedPlan plan "run_to_pregrasp_joint_waypoints requires AuditedPregraspSequencePlan"
  requireEligible plan.executionEligible plan.ineligibilityReason
  requireState [.disarmed] "run_to_pregrasp_joint_waypoints requires DISARMED, got "
  guarded (handleOtherFailure env) (runPregraspOnlyJointWaypoints env plan)

def runLoadedLiftJointWaypointsCall (plan : Option (AuditedLoadedLiftSequencePlan D)) :
    SeqM D W Unit := do
  let plan ← typedPlan plan
    "run_loaded_lift_joint_waypoints requires AuditedLoadedLiftSequencePlan"
  requireEligible plan.executionEligible plan.ineligibilityReason
  requireEligible plan.graspPlan.executionEligible plan.graspPlan.ineligibilityReason
  requireState [.disarmed] "run_loaded_lift_joint_waypoints requires DISARMED, got "
  update fun s =>
    { s with
      loadedLiftArtifactSha256 := some plan.loadedLiftArtifactSha256
      loadedHoldTargets := some plan.graspPlan.handTarget6
      loadedMinimumContactAxes := some plan.minimumContactAxes }
  guarded (handleOtherFailure env) (loadedLift env plan)

def returnLoadedLiftToSetdownCall (plan : Option (AuditedLoadedLiftSequencePlan D)) :
    SeqM D W Unit := do
  let plan ← typedPlan plan
    "return_loaded_lift_to_setdown requires AuditedLoadedLiftSequencePlan"
  requireState [.liftedHolding] "loaded setdown requires LIFTED_HOLDING, got "
  let s ← read
  check (some plan.loadedLiftArtifactSha256 ≠ s.loadedLiftArtifactSha256)
    (planError "loaded setdown plan differs from the active lift audit artifact")
  check (s.loadedObjectSuspended = false ∨ s.loadedPayloadActive = false)
    (stateError "loaded setdown contract is not active")
  guarded (handleOtherFailure env) (setdown env plan)

/-- The `try` block of `return_air_hand_to_open`. -/
def reopen : SeqM D W Unit := do
  transition env .reopeningHand
  driver .returnNoContactHandToOpen env.returnNoContactHandToOpen
  transition env .returnedOpen
  observeBoundary env ⟨"open", none, none, some disabledHandTargets⟩

def returnAirHandToOpenCall : SeqM D W Unit := do
  let s ← read
  check (s.state ≠ .holding ∨ s.airNoContactHold = false)
    (stateError "air-hand return requires a successful no-contact HOLDING state")
  guarded (handleFailure env) (reopen env)

/-- The `try` block of `verify_bounded_holding`. -/
def verifyBoundedHold (expected : RegisterVector) : SeqM D W Unit := do
  let s ← read
  match env.verifyBoundedHold with
  | none => fail (runtimeError "hand driver exposes no dedicated bounded-hold verifier")
  | some verifier =>
    driver (.verifyBoundedHold expected s.airNoContactHold)
      (verifier expected s.airNoContactHold)

def verifyBoundedHoldingCall : SeqM D W Unit := do
  requireState [.holding] "bounded hold monitoring requires HOLDING, got "
  let s ← read
  match s.boundedHoldTargets with
  | none => fail (stateError "bounded hold verification contract is not armed")
  | some expected => guarded (handleOtherFailure env) (verifyBoundedHold env expected)

/-- The `try` block of `verify_loaded_lift_holding`. -/
def verifyLifted : SeqM D W Unit := do
  driver .verifyIdleState env.verifyIdleState
  verifyLoadedHold env

def verifyLoadedLiftHoldingCall : SeqM D W Unit := do
  requireState [.liftedHolding] "loaded hold monitoring requires LIFTED_HOLDING, got "
  guarded (handleOtherFailure env) (verifyLifted env)

/-- The end of an `abort` without a suspended load. -/
def finishAbort (reason : String) (stopErrors : List PyException) : SeqM D W Unit :=
  if stopErrors.isEmpty = true then transition env .stopped
  else do
    transition env .faultLatched
    let error : SequenceExecutionError :=
      ⟨⟨.ordinary, "RuntimeError", reason⟩, .stopping, stopErrors, false⟩
    update fun s => { s with lastError := some error }
    fail (.execution error)

/-- `abort` from a state that is not terminal. -/
def abortRunning (reason : String) : SeqM D W Unit := do
  let s ← read
  if s.loadedObjectSuspended = true then
    failSequence env ⟨.ordinary, "RuntimeError",
      reason ++ "; loaded object may be suspended, so Inspire hold was not disabled"⟩
  else do
    transition env .stopping
    let stopErrors ← stopDrivers env
    finishAbort env reason stopErrors

def abortCall (reason : String) : SeqM D W Unit := do
  let s ← read
  if s.state = .stopped then ret ()
  else if s.state.isTerminal = true then
    fail (stateError s!"cannot abort from terminal state {s.state.value}")
  else abortRunning env reason

/-! ## Runs -/

def callOf : SequenceCall D → SeqM D W Unit
  | .runToDefault plan => runToDefaultCall env plan
  | .runFull plan => runFullCall env plan
  | .runToDefaultJointWaypoints plan => runToDefaultJointWaypointsCall env plan
  | .runFullJointWaypoints plan => runFullJointWaypointsCall env plan
  | .runToPregraspJointWaypoints plan => runToPregraspJointWaypointsCall env plan
  | .runLoadedLiftJointWaypoints plan => runLoadedLiftJointWaypointsCall env plan
  | .returnLoadedLiftToSetdown plan => returnLoadedLiftToSetdownCall env plan
  | .returnAirHandToOpen => returnAirHandToOpenCall env
  | .verifyBoundedHolding => verifyBoundedHoldingCall env
  | .verifyLoadedLiftHolding => verifyLoadedLiftHoldingCall env
  | .abort reason => abortCall env reason

def performCall (call : SequenceCall D) : SeqM D W Unit := do
  emit (.begun call)
  let r ← attempt (callOf env call)
  match r with
  | .ok () => emit (.ended false)
  | .error _ => emit (.ended true)

/-- **The sequence as a machine.** -/
def sequenceMachine :
    Machine (StagedGraspSequence D W) (SequenceCall D) (SequenceEvent D) where
  step s call := (performCall env call s).2

end FrankaDeploy.GraspSequence
