import FrankaDeploy.Foundation.Triple
import FrankaDeploy.GraspSequence.Plan

/-! # The staged grasp sequence

`StagedGraspSequence` of `anydex_pipeline/control_sequence.py`. The two drivers and the observers
are the environment: each call of them returns or raises any exception of a class of its own; a
`SequenceExecutionError` is raised by the sequence only. -/

namespace FrankaDeploy.GraspSequence

open FrankaDeploy.Foundation FrankaDeploy.ClosedLoop
open FrankaDeploy.Foundation.Program
open scoped FloatArith

/-! ## The environment -/

def openHandTargets : RegisterVector := fun _ => 1000

def disabledHandTargets : Vec 6 ℤ := fun _ => -1

variable (D : Type) [FloatArith D]

/-- **A call of a driver.** -/
inductive DriverCall where
  | moveJoints (targetQ : Vec 7 D)
  | moveLoadedJoints (targetQ : Vec 7 D) (law : LoadedTimeLaw D)
  | movePose (target : Pose D)
  | verifySettled (target : Pose D) (tolerances : SettleTolerances D)
  | verifyAuditedJointSettled (targetQ : Vec 7 D) (targetPose : Pose D) (qToleranceRad : D)
      (tolerances : SettleTolerances D)
  | stop
  | applyExternalLoadAndVerify (payload : LoadedLiftPayload D)
  | clearExternalLoadAndVerify
  | verifyIdleState
  | openAndVerify (targets : RegisterVector)
  | preshapeThumb (targetQ6 : Fin 1001)
  | closeBendsAndHold (targets : RegisterVector)
  | closeBendsNoContactAndHold (targets : RegisterVector)
  | returnNoContactHandToOpen
  | verifyLoadedHold (targets : RegisterVector) (minimumContactAxes : ℕ)
  | verifyBoundedHold (targets : RegisterVector) (noContact : Bool)
  | disableAndVerify

/-- **What is told to the boundary observer.** -/
structure Boundary where
  stage : String
  targetQ : Option (Vec 7 D)
  targetPose : Option (Pose D)
  handTargets : Option (Vec 6 ℤ)

/-- **The environment**: the drivers and the observers. -/
structure SequenceWorld (W : Type) where
  moveJoints : Vec 7 D → W → Except PyException (Option (Vec 7 D)) × W
  moveLoadedJoints : Vec 7 D → LoadedTimeLaw D → W → Except PyException (Option (Vec 7 D)) × W
  movePose : Pose D → W → Except PyException Unit × W
  verifySettled : Pose D → SettleTolerances D → W → Except PyException (Option Bool) × W
  verifyAuditedJointSettled : Vec 7 D → Pose D → D → SettleTolerances D → W →
    Except PyException (Option Bool) × W
  stop : W → Except PyException Unit × W
  applyExternalLoadAndVerify : LoadedLiftPayload D → W → Except PyException Unit × W
  clearExternalLoadAndVerify : W → Except PyException Unit × W
  verifyIdleState : W → Except PyException Unit × W
  openAndVerify : RegisterVector → W → Except PyException Unit × W
  preshapeThumb : Fin 1001 → W → Except PyException Unit × W
  closeBendsAndHold : RegisterVector → W → Except PyException Unit × W
  closeBendsNoContactAndHold : RegisterVector → W → Except PyException Unit × W
  returnNoContactHandToOpen : W → Except PyException Unit × W
  verifyLoadedHold : RegisterVector → ℕ → W → Except PyException Unit × W
  verifyBoundedHold : Option (RegisterVector → Bool → W → Except PyException Unit × W)
  disableAndVerify : W → Except PyException Unit × W
  transitionObserver : Option (SequenceState → W → Except PyException Unit × W)
  boundaryObserver : Option (Boundary D → W → Except PyException Unit × W)
  settleTolerances : Option (SettleTolerances D)

/-! ## The sequence -/

/-- **`SequenceExecutionError`.** -/
structure SequenceExecutionError where
  originalError : PyException
  failureState : SequenceState
  stopErrors : List PyException
  manualLoadRecoveryRequired : Bool

inductive SequenceException where
  | execution (error : SequenceExecutionError)
  | raised (error : PyException)

def stateError (message : String) : SequenceException :=
  .raised ⟨.ordinary, "SequenceStateError", message⟩

def planError (message : String) : SequenceException :=
  .raised ⟨.ordinary, "SequencePlanError", message⟩

def notSettledError (message : String) : SequenceException :=
  .raised ⟨.ordinary, "EEFNotSettledError", message⟩

def runtimeError (message : String) : SequenceException :=
  .raised ⟨.ordinary, "RuntimeError", message⟩

/-- **The state of a sequence.** -/
structure StagedGraspSequence (W : Type) where
  world : W
  transitionObserverInstalled : Bool
  transitionObserverError : Option PyException
  state : SequenceState
  stateHistory : List SequenceState
  preparedDefaultQ : Option (Vec 7 D)
  eefSettleVerified : Bool
  airNoContactHold : Bool
  boundedHoldTargets : Option RegisterVector
  loadedObjectSuspended : Bool
  loadedPayloadActive : Bool
  loadedLiftArtifactSha256 : Option String
  loadedHoldTargets : Option RegisterVector
  loadedMinimumContactAxes : Option ℕ
  lastError : Option SequenceExecutionError

/-- **A public call**, with the plan that it is given: the outcome of its normalization, or the plan
if it has the demanded type. -/
inductive SequenceCall where
  | runToDefault (plan : Except PyException (NormalizedDefaultPlan D))
  | runFull (plan : Except PyException (NormalizedPlan D))
  | runToDefaultJointWaypoints (plan : Option (AuditedJointSequencePlan D))
  | runFullJointWaypoints (plan : Option (AuditedJointSequencePlan D))
  | runToPregraspJointWaypoints (plan : Option (AuditedPregraspSequencePlan D))
  | runLoadedLiftJointWaypoints (plan : Option (AuditedLoadedLiftSequencePlan D))
  | returnLoadedLiftToSetdown (plan : Option (AuditedLoadedLiftSequencePlan D))
  | returnAirHandToOpen
  | verifyBoundedHolding
  | verifyLoadedLiftHolding
  | abort (reason : String)

/-- **What can be observed of a sequence.** -/
inductive SequenceEvent where
  | begun (call : SequenceCall D)
  | called (call : DriverCall D)
  /-- The driver returned, and what it was asked to verify holds. -/
  | succeeded (call : DriverCall D)
  | entered (state : SequenceState)
  | caught
  | ended (raised : Bool)

variable {D} {W : Type}

/-- **A new sequence.** -/
def StagedGraspSequence.init (world : W) : StagedGraspSequence D W where
  world
  transitionObserverInstalled := true
  transitionObserverError := none
  state := .disarmed
  stateHistory := [.disarmed]
  preparedDefaultQ := none
  eefSettleVerified := false
  airNoContactHold := false
  boundedHoldTargets := none
  loadedObjectSuspended := false
  loadedPayloadActive := false
  loadedLiftArtifactSha256 := none
  loadedHoldTargets := none
  loadedMinimumContactAxes := none
  lastError := none

variable (D W) in
abbrev SeqM := Program (StagedGraspSequence D W) (SequenceEvent D) SequenceException

/-! ## Statements -/

def environment {α : Type} (f : W → Except PyException α × W) : SeqM D W α :=
  ofStep fun s => ((f s.world).1.mapError .raised, { s with world := (f s.world).2 })

def driver {α : Type} (call : DriverCall D) (f : W → Except PyException α × W) : SeqM D W α := do
  emit (.called call)
  let a ← environment f
  emit (.succeeded call)
  ret a

/-- A verification of a driver: anything but the answer `True` is an error. -/
def verification (call : DriverCall D) (f : W → Except PyException (Option Bool) × W)
    (message : String) : SeqM D W Unit := do
  emit (.called call)
  let verified ← environment f
  check (verified ≠ some true) (notSettledError message)
  emit (.succeeded call)

variable (env : SequenceWorld D W)

/-- The exception of a transition observer, who is removed. What he raises at the end of a sequence
is dropped. -/
def dropObserver (newState : SequenceState) (e : SequenceException) : SeqM D W Unit := do
  update fun s =>
    { s with
      transitionObserverInstalled := false
      transitionObserverError := match e with
        | .raised error => some error
        | .execution error => some error.originalError }
  runIf (newState.isTerminal = false) (fail e)

def notifyTransition (newState : SequenceState) : SeqM D W Unit := do
  let s ← read
  match env.transitionObserver with
  | none => ret ()
  | some observer =>
    if s.transitionObserverInstalled = false then ret ()
    else do
      let r ← attempt (environment (observer newState))
      match r with
      | .ok () => ret ()
      | .error e => dropObserver newState e

def transition (newState : SequenceState) : SeqM D W Unit := do
  let s ← read
  check (newState ∉ s.state.allowedTransitions)
    (stateError s!"invalid sequence transition {s.state.value} -> {newState.value}")
  update fun s => { s with state := newState, stateHistory := s.stateHistory ++ [newState] }
  emit (.entered newState)
  notifyTransition env newState

def observeBoundary (boundary : Boundary D) : SeqM D W Unit :=
  match env.boundaryObserver with
  | none => ret ()
  | some observer => environment (observer boundary)

def requireEligible (eligible : Bool) (reason : String) : SeqM D W Unit :=
  check (eligible = false)
    (planError ("plan is not execution eligible" ++ if reason = "" then "" else ": " ++ reason))

def settleTolerances (plan : SettleTolerances D) : SettleTolerances D :=
  env.settleTolerances.getD plan

/-- `plan.joint_waypoints[start:stop]`. -/
def slice (waypoints : List (Waypoint D)) (start stop : ℕ) : List (Waypoint D) :=
  (waypoints.take stop).drop start

def waypoint (w : Option (Waypoint D)) : SeqM D W (Waypoint D) :=
  ofExcept (match w with
    | some w => .ok w
    | none => .error (.raised ⟨.ordinary, "IndexError", "tuple index out of range"⟩))

/-- The index of the waypoint `default`. -/
def findDefault (waypoints : List (Waypoint D)) : SeqM D W ℕ :=
  ofExcept (match defaultIndex waypoints with
    | some index => .ok index
    | none => .error (.raised ⟨.ordinary, "StopIteration", ""⟩))

def registerTargets (targets : RegisterVector) : Option (Vec 6 ℤ) :=
  some fun i => ((targets i : ℕ) : ℤ)

def preshapeTargets (q6 : Fin 1001) : Option (Vec 6 ℤ) :=
  some fun i => if i = 5 then ((q6 : ℕ) : ℤ) else -1

/-! ## Moves and verifications -/

/-- The readback of `_move_audited_waypoint`. -/
def checkReadback (actual : Option (Vec 7 D)) (targetQ : Vec 7 D) (toleranceRad : D) :
    SeqM D W Unit :=
  match actual with
  | none =>
    fail (runtimeError "audited joint waypoint driver returned no valid seven-axis readback")
  | some feedback => do
    check (feedback.allFinite = false)
      (runtimeError "audited joint waypoint driver returned no valid seven-axis readback")
    let error := npMax fun i : Fin 7 => FloatArith.abs (feedback i - targetQ i)
    check (toleranceRad < error)
      (runtimeError (s!"audited joint waypoint readback error {FloatArith.fixedText 6 error}rad " ++
        s!"exceeds {FloatArith.fixedText 6 toleranceRad}rad"))

def moveAuditedWaypoint (targetQ : Vec 7 D) (toleranceRad : D) (waypointName : String) :
    SeqM D W Unit := do
  let actual ← driver (.moveJoints targetQ) (env.moveJoints targetQ)
  checkReadback actual targetQ toleranceRad
  observeBoundary env ⟨waypointName, some targetQ, none, none⟩

/-- `_move_audited_waypoint` with a loaded time law. -/
def moveLoadedWaypoint (targetQ : Vec 7 D) (toleranceRad : D) (waypointName : String)
    (law : LoadedTimeLaw D) : SeqM D W Unit := do
  let actual ← driver (.moveLoadedJoints targetQ law) (env.moveLoadedJoints targetQ law)
  checkReadback actual targetQ toleranceRad
  observeBoundary env ⟨waypointName, some targetQ, none, none⟩

def verifyArrival (target : Pose D) (tolerances : SettleTolerances D) (label : String) :
    SeqM D W Unit :=
  verification (.verifySettled target tolerances) (env.verifySettled target tolerances)
    s!"{label} EEF settle verification failed"

def verifyAuditedJointArrival (targetQ : Vec 7 D) (targetPose : Pose D) (qToleranceRad : D)
    (tolerances : SettleTolerances D) (label : String) : SeqM D W Unit :=
  verification (.verifyAuditedJointSettled targetQ targetPose qToleranceRad tolerances)
    (env.verifyAuditedJointSettled targetQ targetPose qToleranceRad tolerances)
    s!"{label} audited joint/q/EEF settle verification failed"

def requireSettleGate (operation : String) : SeqM D W Unit := do
  let s ← read
  check (s.eefSettleVerified = false ∨ s.state ∉ [.thumbPreshape, .closingBends])
    (stateError s!"{operation} is forbidden before verified grasp-pose settling")

def verifyLoadedHold : SeqM D W Unit := do
  let s ← read
  match s.loadedHoldTargets, s.loadedMinimumContactAxes with
  | some targets, some axes =>
    driver (.verifyLoadedHold targets axes) (env.verifyLoadedHold targets axes)
  | _, _ => fail (stateError "loaded hold verification contract is not armed")

/-- `self.hand.open_and_verify(list(OPEN_HAND_TARGETS))`. -/
def openHand : SeqM D W Unit :=
  driver (.openAndVerify openHandTargets) (env.openAndVerify openHandTargets)

def disableHand : SeqM D W Unit := driver .disableAndVerify env.disableAndVerify

/-- `self.arm.clear_external_load_and_verify()`, and the load is not active any more. -/
def clearExternalLoad : SeqM D W Unit := do
  driver .clearExternalLoadAndVerify env.clearExternalLoadAndVerify
  update fun s => { s with loadedPayloadActive := false }

/-! ## Cleanups -/

def SequenceException.error : SequenceException → PyException
  | .raised e => e
  | .execution e => e.originalError

def cleanupStep (m : SeqM D W Unit) : SeqM D W (List PyException) := do
  let r ← attempt m
  match r with
  | .ok () => ret []
  | .error e => ret [e.error]

def clearActiveLoad : SeqM D W (List PyException) := do
  let s ← read
  if s.loadedPayloadActive = true then cleanupStep (clearExternalLoad env) else ret []

def stopDrivers : SeqM D W (List PyException) := do
  let stopErrors ← cleanupStep (driver .stop env.stop)
  let disableErrors ← cleanupStep (disableHand env)
  let clearErrors ← clearActiveLoad env
  ret (stopErrors ++ disableErrors ++ clearErrors)

/-- `_contain_suspended_load`: the hand keeps its numeric hold. -/
def containSuspendedLoad : SeqM D W (List PyException) := do
  let stopErrors ← cleanupStep (driver .stop env.stop)
  let holdErrors ← cleanupStep (verifyLoadedHold env)
  ret (stopErrors ++ holdErrors)

def cleanup (manualRecovery : Bool) : SeqM D W (List PyException) :=
  if manualRecovery = true then containSuspendedLoad env else stopDrivers env

/-- `_fail`, and the raise of its result. -/
def failSequence (error : PyException) : SeqM D W Unit := do
  let failed ← read
  runIf (failed.state ≠ .stopping ∧ failed.state ≠ .stopped) (transition env .stopping)
  let s ← read
  let stopErrors ← cleanup env s.loadedObjectSuspended
  transition env .faultLatched
  update fun t =>
    { t with lastError := some ⟨error, failed.state, stopErrors, s.loadedObjectSuspended⟩ }
  fail (.execution ⟨error, failed.state, stopErrors, s.loadedObjectSuspended⟩)

/-- `except BaseException as exc: raise self._fail(exc) from exc`. -/
def handleFailure (e : SequenceException) : SeqM D W Unit := do
  emit .caught
  failSequence env e.error

/-- The handler that lets a `SequenceExecutionError` through. -/
def handleOtherFailure : SequenceException → SeqM D W Unit
  | .execution error => fail (.execution error)
  | .raised error => handleFailure env (.raised error)

def guarded (handler : SequenceException → SeqM D W Unit) (body : SeqM D W Unit) :
    SeqM D W Unit := do
  let r ← attempt body
  match r with
  | .ok () => ret ()
  | .error e => handler e

end FrankaDeploy.GraspSequence
