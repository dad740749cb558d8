import FrankaDeploy.TickSource.Startup

/-! # Proposals

`prepare`: an observation becomes the pending command, or a hold that stages nothing. A recoverable
hold of the provider can still become a tick that consumes no observation: the completion of an
occluded closure, or a frozen motion after it. -/

namespace FrankaDeploy.TickSource

open FrankaDeploy.Foundation FrankaDeploy.ClosedLoop FrankaDeploy.Contracts
open FrankaDeploy.Foundation.Program
open scoped FloatArith

variable {D S : Type} [FloatArith D] [FloatArith S] [FloatCast D S] {W : Type}

variable (config : TickSourceConfig D S) (env : TickWorld D S W)

/-! ## Proposals -/

variable (D S) in
inductive PrepareResult where
  | command (tick : PendingTick D S)
  | hold (hold : BoundedPolicyTickHold D)

def prepareHold (sequence frameId : ℕ) (reason : String) (observed : D)
    (retryInterval : Option D) : TickM D S W (PrepareResult D S) := do
  let hold ← holdLocked config sequence frameId reason observed retryInterval
  ret (.hold hold)

def registerFloats (registers : RegisterVector) : Vec 6 D := fun i =>
  FloatArith.ofRat ((registers i : ℕ) : ℚ)

def mapperCall {α : Type}
    (f : TransactionalV94ActionMapper D S → TransactionalV94ActionMapper D S × Except PyError α) :
    TickM D S W α :=
  ofStep fun s => (ofCore (f s.mapper).2, { s with mapper := (f s.mapper).1 })

def shaperCall {α : Type} (f : RH56Shaper → RH56Shaper × Except PyError α) :
    TickM D S W (Option α) :=
  ofStep fun s =>
    match s.rh56HardwareCommandShaper with
    | none => (.ok none, s)
    | some shaper =>
      (ofShaper ((f shaper).2.map some),
        { s with rh56HardwareCommandShaper := some (f shaper).1 })

/-- `propose_exact_targets`, and the checks of the time at which the mapping is done. -/
def proposeExactTargets (request : TickRequest D S) (arguments : ExactArguments D S)
    (expired : String) : TickM D S W (TransactionalV94ActionProposal S × D) := do
  let proposal ← mapperCall fun mapper => mapper.proposeExactTargets request.sequence arguments
  let produced ← nowMonotonic env
  check (produced < request.callerNow) (sourceError "source monotonic clock regressed")
  runIf (request.hardDeadline ≤ produced) do
    mapperCall fun mapper => mapper.discardUnstaged proposal.ident
    discardPolicyProposal env request.sequence
    fail (sourceError expired)
  ret (proposal, produced)

def commandOf (request : TickRequest D S) (produced observationRealtimeS : D)
    (raw : FiniteVec 13 S) (mapped : ImmutableMappedAction S) (hand : RegisterVector)
    (holdArmTarget : Bool) (policyPrevious : FiniteVec 13 S) :
    Except (TickException D S) (ClosedLoopCommand D S) :=
  ofCore (ClosedLoopCommand.postInit request.sequence produced observationRealtimeS
    request.previous.1 raw.1 mapped.executedPolicyAction13.1 mapped.frankaTargetQRad.1
    (registerFloats hand) holdArmTarget (some policyPrevious.1))

/-- `self._pending = _PendingTick(...)`. -/
def stage (tick : ℕ → PendingTick D S) : TickM D S W (PendingTick D S) := do
  let s ← read
  update fun s => { s with pending := some (tick s.nextIdent), nextIdent := s.nextIdent + 1 }
  ret (tick s.nextIdent)

def shapeHand (sequence : ℕ) (mapped : ImmutableMappedAction S) (bypass : Bool) :
    TickM D S W (Option RH56HardwareCommandProposal) :=
  if bypass = true then ret none
  else shaperCall fun shaper =>
    shaper.propose sequence (registerFloats (D := D) mapped.rh56AngleSetRegisterOrder)

def proposeAction (sequence : ℕ) (observation : V94PolicyObservation D S)
    (output : PolicyOutput D S) (raw : FiniteVec 13 S) :
    TickM D S W (TransactionalV94ActionProposal S) :=
  match output.exactFrankaTargetQRad, output.exactRh56AngleSetRegisterOrder with
  | some arm, some hand =>
    mapperCall fun mapper => mapper.proposeExactTargets sequence
      ⟨raw.1, arm, hand, observation.measuredFrankaQRad.1, observation.holdArmTarget⟩
  | _, _ => do
    check (config.requiresShaperQD = true ∧ observation.shaperQDRad.isNone = true)
      (sourceError ("q_d-relative controller contract requires " ++
        "same-snapshot shaper_q_d_rad"))
    mapperCall fun mapper => mapper.propose sequence
      ⟨raw.1, observation.measuredFrankaQRad.1,
        if config.requiresShaperQD = true then observation.shaperQDRad.map (·.1) else none,
        observation.holdArmTarget⟩

def mapAction (request : TickRequest D S) (policyPrevious : FiniteVec 13 S)
    (observation : V94PolicyObservation D S) (candidate : HistoryCandidate S)
    (output : PolicyOutput D S) (raw : FiniteVec 13 S) : TickM D S W (PrepareResult D S) := do
  let proposal ← proposeAction config request.sequence observation output raw
  let produced ← nowMonotonic env
  check (produced < request.callerNow) (sourceError "source monotonic clock regressed")
  runIf (request.hardDeadline ≤ produced) do
    mapperCall fun mapper => mapper.discardUnstaged proposal.ident
    fail (sourceError "hard deadline expired while mapping policy action")
  let hardware ← shapeHand request.sequence proposal.mapped output.bypassRh56HostSlew
  let hand := match hardware with
    | some hardware => hardware.angleSetRegisterOrder
    | none => proposal.mapped.rh56AngleSetRegisterOrder
  let command ← ofExcept (commandOf request produced observation.observationRealtimeS raw
    proposal.mapped hand observation.holdArmTarget policyPrevious)
  let tick ← stage fun ident =>
    { ident, command
      mapperProposal := proposal
      rh56HardwareProposal := hardware
      history := some candidate
      cameraFrameId := observation.cameraFrameId
      pointcloudSourceFrameId := observation.pointcloudSourceFrameId
      measuredFrankaQRad := observation.measuredFrankaQRad
      observation := some observation
      ledgerPreviousAction13 := request.previous
      occludedClosureHandOnly := false
      occludedClosureClearanceLift := false
      frozenPostClosureWithoutPointcloud := false }
  ret (.command tick)

def checkOutput (request : TickRequest D S) (policyPrevious : FiniteVec 13 S)
    (observation : V94PolicyObservation D S) (candidate : HistoryCandidate S)
    (output : PolicyOutput D S) (raw : FiniteVec 13 S) (afterPolicy : D) :
    TickM D S W (PrepareResult D S) := do
  let cloudAge ← pointcloudAge config env observation
  if config.maximumObjectPointcloudAgeS < cloudAge then do
    discardPolicyProposal env request.sequence
    prepareHold config request.sequence observation.cameraFrameId "object_pointcloud_age_limit"
      afterPolicy none
  else do
    let age ← frankaStateAge config observation afterPolicy
    if config.maximumFrankaActionAgeS < age then do
      discardPolicyProposal env request.sequence
      prepareHold config request.sequence observation.cameraFrameId
        "franka_state_action_age_limit" afterPolicy none
    else do
      check (output.exactFrankaTargetQRad.isNone ≠ output.exactRh56AngleSetRegisterOrder.isNone)
        (sourceError "exact replay must provide both Franka and RH56 targets")
      if output.exactFrankaTargetQRad.isSome = true ∧ observation.holdArmTarget = true then do
        discardPolicyProposal env request.sequence
        prepareHold config request.sequence observation.cameraFrameId
          "exact_replay_arm_target_held" afterPolicy none
      else mapAction config env request policyPrevious observation candidate output raw

def infer (sequence : ℕ) (candidate : HistoryCandidate S) : TickM D S W (PolicyOutput D S) :=
  match env.actionForSequence with
  | some actionForSequence => environment (actionForSequence sequence candidate)
  | none => environment (env.act candidate)

def inferAction (request : TickRequest D S) (policyPrevious : FiniteVec 13 S)
    (observation : V94PolicyObservation D S) : TickM D S W (PrepareResult D S) := do
  let s ← read
  let candidate ← ofExcept (candidateHistoryLocked config s.history observation policyPrevious)
  let output ← infer env request.sequence candidate
  let raw ← ofExcept (ofSource (output.rawAction "policy output.action13"))
  check (withinUnit raw.1 = false) (sourceError "V94 raw policy action must lie in [-1,1]")
  let afterPolicy ← nowMonotonic env
  check (request.hardDeadline ≤ afterPolicy)
    (sourceError "hard deadline expired during policy inference")
  checkOutput config env request policyPrevious observation candidate output raw afterPolicy

def checkFrame (request : TickRequest D S) (policyPrevious : FiniteVec 13 S)
    (observation : V94PolicyObservation D S) (afterSnapshot : D) :
    TickM D S W (PrepareResult D S) := do
  let s ← read
  check (s.Regressed observation.cameraFrameId)
    (sourceError "camera frame regressed behind the last committed action")
  if config.maximumActionsPerCameraFrame ≤ s.usesOf observation.pointcloudSourceFrameId then
    prepareHold config request.sequence observation.cameraFrameId
      "camera_frame_policy_reuse_limit" afterSnapshot none
  else do
    let cloudAge ← pointcloudAge config env observation
    if config.maximumObjectPointcloudAgeS < cloudAge then do
      let observed ← nowMonotonic env
      prepareHold config request.sequence observation.cameraFrameId
        "object_pointcloud_age_limit" observed none
    else inferAction config env request policyPrevious observation

def checkArrival (request : TickRequest D S) (policyPrevious : FiniteVec 13 S)
    (observation : V94PolicyObservation D S) (afterSnapshot : D) :
    TickM D S W (PrepareResult D S) := do
  let arrived ← checkFrankaArrivalGateLocked config observation.measuredFrankaQRad.1 afterSnapshot
  if arrived = false then do
    countGateHold
    prepareHold config request.sequence observation.cameraFrameId
      "franka_target_arrival_pending" afterSnapshot
      (some config.frankaArrivalGateRetryIntervalS)
  else checkFrame config env request policyPrevious observation afterSnapshot

def prepareObserved (request : TickRequest D S) (policyPrevious : FiniteVec 13 S) :
    TickM D S W (PrepareResult D S) := do
  let observation ← snapshot env request.sequence request.callerNow request.hardDeadline
  let afterSnapshot ← nowMonotonic env
  check (afterSnapshot < request.callerNow) (sourceError "source monotonic clock regressed")
  check (request.hardDeadline ≤ afterSnapshot)
    (sourceError "hard deadline expired while acquiring observation")
  let age ← frankaStateAge config observation afterSnapshot
  if config.maximumFrankaActionAgeS < age then
    prepareHold config request.sequence observation.cameraFrameId
      "franka_state_action_age_limit" afterSnapshot none
  else checkArrival config env request policyPrevious observation afterSnapshot

/-! ## Ticks without an observation -/

structure ExactTick (D S : Type) [FloatArith S] where
  raw : FiniteVec 13 S
  arm : Vec 7 S
  hand : Vec 6 D
  clearanceLift : Bool

structure ExactTexts where
  action : String
  range : String
  targets : String
  template : String

def exactTick (texts : ExactTexts) (output : PolicyOutput D S) :
    Except (TickException D S) (ExactTick D S) := do
  let raw ← ofSource (output.rawAction texts.action)
  if withinUnit raw.1 = false then .error (sourceError texts.range)
  else
    match output.exactFrankaTargetQRad, output.exactRh56AngleSetRegisterOrder with
    | some arm, some hand =>
      if output.bypassRh56HostSlew = false then .error (sourceError texts.template)
      else .ok ⟨raw, arm, hand, output.occludedClearanceLift⟩
    | _, _ => .error (sourceError texts.targets)

def occludedTexts : ExactTexts where
  action := "occluded closure output.action13"
  range := "occluded closure policy action must lie in [-1,1]"
  targets := "occluded closure must provide exact Franka/RH56 targets"
  template := "occluded closure must use the reviewed exact RH56 template"

def frozenTexts : ExactTexts where
  action := "frozen post-closure output.action13"
  range := "frozen post-closure action must lie in [-1,1]"
  targets := "frozen post-closure motion must provide exact targets"
  template := "frozen post-closure motion lost its exact RH56 template"

def stageOccluded (request : TickRequest D S) (h : V94RecoverableObservationHold D S)
    (tick : ExactTick D S) (requestedArm committedArm measured : FiniteVec 7 S)
    (observationRealtimeS : D) : TickM D S W (Option (PendingTick D S)) := do
  let (proposal, produced) ← proposeExactTargets env request
    ⟨tick.raw.1, requestedArm.1, tick.hand, measured.1, !tick.clearanceLift⟩
    "hard deadline expired during occluded closure mapping"
  check (proposal.mapped.frankaTargetQRad.1.arrayEqual requestedArm.1 = false)
    (sourceError "occluded closure mapper changed the exact Franka target")
  check (tick.clearanceLift = false ∧
      proposal.mapped.frankaTargetQRad.1.arrayEqual committedArm.1 = false)
    (sourceError "occluded closure mapper failed to hold the Franka target")
  let s ← read
  let command ← ofExcept (commandOf request produced observationRealtimeS tick.raw proposal.mapped
    proposal.mapped.rh56AngleSetRegisterOrder (!tick.clearanceLift) s.policyPreviousAction13)
  let pending ← stage fun ident =>
    { ident, command
      mapperProposal := proposal
      rh56HardwareProposal := none
      history := s.history
      cameraFrameId := h.cameraFrameId
      pointcloudSourceFrameId := s.lastAcceptedPointcloudSourceFrameId.getD 0
      measuredFrankaQRad := measured
      observation := none
      ledgerPreviousAction13 := request.previous
      occludedClosureHandOnly := true
      occludedClosureClearanceLift := tick.clearanceLift
      frozenPostClosureWithoutPointcloud := false }
  ret (some pending)

def discardTick (sequence : ℕ) : TickM D S W (Option (PendingTick D S)) := do
  discardPolicyProposal env sequence
  ret none

def checkClearanceLift (request : TickRequest D S) (h : V94RecoverableObservationHold D S)
    (tick : ExactTick D S) (requestedArm committedArm : FiniteVec 7 S) :
    TickM D S W (Option (PendingTick D S)) :=
  match h.freshActuatorSnapshot with
  | none => discardTick env request.sequence
  | some actuator => do
    let observedNow ← nowMonotonic env
    let age := observedNow - actuator.frankaStateCapturedMonotonicS
    check (age < -config.maximumPointcloudFutureSkewS)
      (sourceError "occluded clearance-lift Franka state exceeds future skew")
    check (config.maximumFrankaHardAgeS < age)
      (sourceError "occluded clearance-lift Franka state exceeded hard age")
    if config.maximumFrankaActionAgeS < age ∨ actuator.holdArmTarget = true then
      discardTick env request.sequence
    else do
      let arrived ←
        checkFrankaArrivalGateLocked config actuator.measuredFrankaQRad.1 observedNow
      if arrived = false then do
        countGateHold
        discardTick env request.sequence
      else
        stageOccluded env request h tick requestedArm committedArm
          actuator.measuredFrankaQRad actuator.observationRealtimeS

def occludedTick (request : TickRequest D S) (h : V94RecoverableObservationHold D S)
    (output : PolicyOutput D S) : TickM D S W (Option (PendingTick D S)) := do
  let tick ← ofExcept (exactTick occludedTexts output)
  let s ← read
  let requestedArm ← ofExcept (ofSource
    (readonlyFloatArray tick.arm "occluded closure exact Franka target"))
  check (tick.clearanceLift = false ∧ requestedArm.1.arrayEqual s.mapper.armTarget.1 = false)
    (sourceError "occluded closure attempted to move the Franka target")
  let observationRealtimeS ← nowRealtime env
  if tick.clearanceLift = true then
    checkClearanceLift config env request h tick requestedArm s.mapper.armTarget
  else
    stageOccluded env request h tick requestedArm s.mapper.armTarget s.mapper.armTarget
      observationRealtimeS

def askOccluded (request : TickRequest D S) (h : V94RecoverableObservationHold D S)
    (action : ℕ → String → W → Except (TickException D S) (Option (PolicyOutput D S)) × W) :
    TickM D S W (Option (PendingTick D S)) := do
  let now ← nowMonotonic env
  check (request.hardDeadline ≤ now)
    (sourceError "hard deadline expired before occluded closure completion")
  let output ← environment (action request.sequence h.reason)
  match output with
  | none => ret none
  | some output => occludedTick config env request h output

def startsWith (text start : String) : Bool := start.toList.isPrefixOf text.toList

def isOcclusion (reason : String) : Bool :=
  startsWith reason "guarded_stale_palm_fail_closed:" ||
    startsWith reason "object_pointcloud_transient_invalid:"

def prepareOccludedClosureHandOnlyLocked (request : TickRequest D S)
    (h : V94RecoverableObservationHold D S) : TickM D S W (Option (PendingTick D S)) := do
  let s ← read
  match env.actionForOccludedClosure with
  | none => ret none
  | some action =>
    if isOcclusion h.reason = false ∨ env.recordTick.isSome = true ∨
        s.lastCommittedSequence = 0 ∨ s.history.isNone = true then ret none
    else askOccluded config env request h action

def stageFrozen (request : TickRequest D S) (h : V94RecoverableObservationHold D S)
    (actuator : V94FreshActuatorSnapshot D S) (output : PolicyOutput D S) :
    TickM D S W (Option (PendingTick D S)) := do
  let tick ← ofExcept (exactTick frozenTexts output)
  let (proposal, produced) ← proposeExactTargets env request
    ⟨tick.raw.1, tick.arm, tick.hand, actuator.measuredFrankaQRad.1, false⟩
    "hard deadline expired during frozen post-closure mapping"
  let s ← read
  let command ← ofExcept (commandOf request produced actuator.observationRealtimeS tick.raw
    proposal.mapped proposal.mapped.rh56AngleSetRegisterOrder false s.policyPreviousAction13)
  let pending ← stage fun ident =>
    { ident, command
      mapperProposal := proposal
      rh56HardwareProposal := none
      history := s.history
      cameraFrameId := h.cameraFrameId
      pointcloudSourceFrameId := s.lastAcceptedPointcloudSourceFrameId.getD 0
      measuredFrankaQRad := actuator.measuredFrankaQRad
      observation := none
      ledgerPreviousAction13 := request.previous
      occludedClosureHandOnly := false
      occludedClosureClearanceLift := false
      frozenPostClosureWithoutPointcloud := true }
  ret (some pending)

def askFrozen (request : TickRequest D S) (h : V94RecoverableObservationHold D S)
    (actuator : V94FreshActuatorSnapshot D S)
    (action : ℕ → String → W → Except (TickException D S) (Option (PolicyOutput D S)) × W)
    (observedNow : D) : TickM D S W (Option (PendingTick D S)) := do
  check (request.hardDeadline ≤ observedNow)
    (sourceError "hard deadline expired before frozen post-closure motion")
  let output ← environment (action request.sequence h.reason)
  match output with
  | none => ret none
  | some output => stageFrozen env request h actuator output

def checkFrozen (request : TickRequest D S) (h : V94RecoverableObservationHold D S)
    (actuator : V94FreshActuatorSnapshot D S)
    (action : ℕ → String → W → Except (TickException D S) (Option (PolicyOutput D S)) × W) :
    TickM D S W (Option (PendingTick D S)) := do
  let observedNow ← nowMonotonic env
  let age := observedNow - actuator.frankaStateCapturedMonotonicS
  check (age < -config.maximumPointcloudFutureSkewS)
    (sourceError "frozen lift Franka state exceeds the future-skew limit")
  check (config.maximumFrankaHardAgeS < age)
    (sourceError "frozen lift Franka state exceeded the hard age limit")
  if config.maximumFrankaActionAgeS < age ∨ actuator.holdArmTarget = true then ret none
  else do
    let arrived ← checkFrankaArrivalGateLocked config actuator.measuredFrankaQRad.1 observedNow
    if arrived = false then do
      countGateHold
      ret none
    else askFrozen env request h actuator action observedNow

def prepareFrozenPostClosureLocked (request : TickRequest D S)
    (h : V94RecoverableObservationHold D S) : TickM D S W (Option (PendingTick D S)) := do
  let s ← read
  match h.freshActuatorSnapshot, env.actionForFrozenPostClosure with
  | some actuator, some action =>
    if env.recordTick.isSome = true ∨ s.lastCommittedSequence = 0 ∨
        s.history.isNone = true then ret none
    else checkFrozen config env request h actuator action
  | _, _ => ret none

def recoverHold (request : TickRequest D S) (h : V94RecoverableObservationHold D S) :
    TickM D S W (PrepareResult D S) := do
  let observed ← nowMonotonic env
  prepareHold config request.sequence h.cameraFrameId h.reason observed none

def recoverFrozen (request : TickRequest D S) (h : V94RecoverableObservationHold D S) :
    TickM D S W (PrepareResult D S) := do
  let frozen ← latching (prepareFrozenPostClosureLocked config env request h)
  match frozen with
  | some tick => ret (.command tick)
  | none => recoverHold config env request h

def recover (request : TickRequest D S) (h : V94RecoverableObservationHold D S) :
    TickM D S W (PrepareResult D S) := do
  emit (.recoverable h)
  let completion ← latching (prepareOccludedClosureHandOnlyLocked config env request h)
  match completion with
  | some tick => ret (.command tick)
  | none => recoverFrozen config env request h

/-- The handlers of the `try` block of `prepare`. -/
def handlePrepare (request : TickRequest D S)
    (r : Except (TickException D S) (PrepareResult D S)) : TickM D S W (PrepareResult D S) :=
  match r with
  | .ok result => ret result
  | .error (.hold h) => recover config env request h
  | .error e => do
    latchLocked e.text
    fail e

/-- `prepare` once its request is accepted. -/
def prepareRequest (request : TickRequest D S) (policyPrevious : FiniteVec 13 S) :
    TickM D S W (PrepareResult D S) := do
  check (request.hardDeadline ≤ request.callerNow)
    (sourceError "hard deadline expired before observation proposal")
  let r ← attempt (prepareObserved config env request policyPrevious)
  handlePrepare config env request r

/-- **`prepare`.** -/
def prepare (sequence : ℤ) (previousExecutedAction13 : Vec 13 S)
    (nowMonotonicS hardDeadlineMonotonicS : D) : TickM D S W (PrepareResult D S) := do
  let requested ← ofExcept (ofSource (positiveInteger D sequence "sequence"))
  let callerNow ← ofExcept (ofSource (finiteScalar nowMonotonicS "now_monotonic_s"))
  let hardDeadline ← ofExcept
    (ofSource (finiteScalar hardDeadlineMonotonicS "hard_deadline_monotonic_s"))
  let previous ← ofExcept (ofSource
    (readonlyFloatArray previousExecutedAction13 "previous_executed_action13"))
  requireHealthyLocked
  let s ← read
  let expected := s.lastCommittedSequence + 1
  if s.pending.isSome = true then
    latchAndRaise "prepare called while a policy proposal is pending"
  else if requested.1 ≠ expected then
    latchAndRaise
      s!"policy sequence mismatch: expected={expected}, actual={requested.1}"
  else if s.lastCommittedSequence = 0 then
    if previous.1.arrayEqual config.initialPreviousAction13.1 = false then
      latchAndRaise ("initial previous action differs from checkpoint controller contract " ++
        config.actionControllerContractId)
    else
      prepareRequest config env ⟨requested.1, previous, callerNow, hardDeadline⟩
        s.policyPreviousAction13
  else if previous.1.arrayEqual s.policyPreviousAction13.1 = false then
    latchAndRaise ("hardware-ledger previous action differs from the expected " ++
      s!"transactional value for {config.actionControllerContractId}")
  else
    prepareRequest config env ⟨requested.1, previous, callerNow, hardDeadline⟩
      s.policyPreviousAction13

end FrankaDeploy.TickSource
