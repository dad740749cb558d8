import FrankaDeploy.Foundation.Program
import FrankaDeploy.Foundation.Python

/-! # The throw trigger

`_ThrownObjectRolloutTrigger` of `sim2real.runtime.v94_live_observation_owner` and the loop that
feeds it camera frames. The prepare phase ends when the trigger is armed; the detect phase ends with
an entry, a fast motion or, with a release gate, a motion that is followed by frames at the height
of the tabletop. The camera, the clock and the measured heights are inputs. -/

namespace FrankaDeploy.LiveObservation

open FrankaDeploy.Foundation FrankaDeploy.Foundation.Program
open scoped FloatArith

variable {D : Type} [FloatArith D]

/-! ## Frames -/

/-- A boolean image: its number of dimensions, and the row and column of each pixel that is set. -/
structure Mask where
  ndim : ℕ
  pixels : List (ℕ × ℕ)

def Mask.area (mask : Mask) : ℕ := mask.pixels.length

structure CameraSample (D : Type) where
  frameId : ℤ
  timestampS : D
  mask : Mask
  maskValid : Bool
  policySemanticMask : Option Mask
  policySemanticValid : Bool

def throwTriggerMask (camera : CameraSample D) : Option Mask × String :=
  if camera.maskValid && 0 < camera.mask.area then
    (some camera.mask, "guarded_provider_publication")
  else
    match camera.policySemanticValid, camera.policySemanticMask with
    | true, some semantic =>
      if 0 < semantic.area then (some semantic, "exact_current_semantic_non_authoritative")
      else (none, "none")
    | _, _ => (none, "none")

/-! ## The configuration -/

structure TabletopReleaseHeightGateConfig (D : Type) where
  referenceCenterBaseZM : D
  toleranceM : D
  confirmFrames : ℕ
  confirm_within : 2 ≤ confirmFrames ∧ confirmFrames ≤ 10

/-- `ThrownRolloutTriggerConfig`, with what `task_profile_rollout_trigger` has checked. -/
structure ThrownRolloutTriggerConfig (D : Type) where
  mode : String
  maximumWaitS : D
  minimumMaskAreaPx : ℕ
  absentArmFrames : ℕ
  stableArmFrames : ℕ
  stableMaxCentroidSpeedPxS : D
  triggerMinCentroidSpeedPxS : D
  triggerMinDisplacementPx : D
  minimumAreaRatio : D
  maximumAreaRatio : D
  allowAbsentEntry : Bool
  tabletopReleaseHeightGate : Option (TabletopReleaseHeightGateConfig D)
  area_positive : 0 < minimumMaskAreaPx
  frames_positive : 0 < absentArmFrames ∧ 0 < stableArmFrames
  gate_without_entry : tabletopReleaseHeightGate.isSome = true → allowAbsentEntry = false

/-! ## The trigger -/

def liveObservationError (message : String) : PyException :=
  ⟨.ordinary, "V94LiveObservationError", message⟩

def finite (value : D) (name : String) : Except PyException D :=
  if FloatArith.isFinite value then .ok value
  else .error ⟨.ordinary, "ValueError", name ++ " must be finite"⟩

inductive ArmedReason where
  | emptyField
  | stableObject
  deriving DecidableEq, Repr

inductive Reason where
  | waitingForObjectEntry
  | absentToVisibleEntry
  | stableToFastMotion
  | waitingForFastMotion
  | waitingForStableObject
  deriving DecidableEq, Repr

structure TriggerDecision (D : Type) where
  armedNow : Bool
  detected : Bool
  reason : Reason
  frameId : ℤ
  timestampS : D
  maskKind : String
  maskAreaPx : ℕ
  centroidSpeedPxS : D
  centroidDisplacementPx : D

/-- A visible object: `_previous_visible`. -/
structure Sighting (D : Type) where
  timestamp : D
  centerX : D
  centerY : D
  area : ℕ

/-- The state of `_ThrownObjectRolloutTrigger`. -/
structure Trigger (D : Type) where
  lastFrameId : Option ℤ
  previousVisible : Option (Sighting D)
  absentFrames : ℕ
  stableFrames : ℕ
  armedReason : Option ArmedReason

/-- `_ThrownObjectRolloutTrigger.__init__`. -/
def Trigger.init : Trigger D := ⟨none, none, 0, 0, none⟩

def ofNat (n : ℕ) : D := FloatArith.ofRat (n : ℚ)

def mean (coordinates : List ℕ) : D := ofNat coordinates.sum / ofNat coordinates.length

def sightingOf (timestamp : D) (mask : Mask) : Sighting D where
  timestamp := timestamp
  centerX := mean (mask.pixels.map (·.2))
  centerY := mean (mask.pixels.map (·.1))
  area := mask.area

section Observe

variable (hypot : D → D → D) (config : ThrownRolloutTriggerConfig D)

structure Motion (D : Type) where
  displacement : D
  speed : D
  locallyConsistent : Bool

def motionFrom (previous current : Sighting D) : Except PyException (Motion D) :=
  let dt := current.timestamp - previous.timestamp
  if !FloatArith.isFinite dt ∨ dt ≤ FloatArith.zero then
    .error (liveObservationError "throw trigger camera timestamps are not strictly increasing")
  else
    let displacement := hypot (current.centerX - previous.centerX) (current.centerY - previous.centerY)
    let areaRatio := (ofNat current.area : D) / ofNat previous.area
    .ok
      { displacement := displacement
        speed := displacement / dt
        locallyConsistent := config.minimumAreaRatio ≤ areaRatio && areaRatio ≤ config.maximumAreaRatio }

def isFast (motion : Motion D) : Bool :=
  motion.locallyConsistent && config.triggerMinCentroidSpeedPxS ≤ motion.speed &&
    config.triggerMinDisplacementPx ≤ motion.displacement

def isSlow (motion : Motion D) : Bool :=
  motion.locallyConsistent && motion.speed ≤ config.stableMaxCentroidSpeedPxS

def observeAbsent (frame : ℤ) (timestamp : D) (trigger : Trigger D) :
    TriggerDecision D × Trigger D :=
  let absentFrames := trigger.absentFrames + 1
  let arms := trigger.armedReason = none ∧ config.allowAbsentEntry = true ∧
    config.absentArmFrames ≤ absentFrames
  (⟨arms, false, .waitingForObjectEntry, frame, timestamp, "none", 0, FloatArith.zero,
      FloatArith.zero⟩,
    { trigger with
      absentFrames := absentFrames
      stableFrames := 0
      previousVisible := none
      armedReason := if arms then some .emptyField else trigger.armedReason })

def observeVisible (frame : ℤ) (current : Sighting D) (kind : String) (speed displacement : D)
    (stableFrames : ℕ) (trigger : Trigger D) : TriggerDecision D × Trigger D :=
  let arms := trigger.armedReason = none ∧ config.stableArmFrames ≤ stableFrames
  let armedReason := if arms then some .stableObject else trigger.armedReason
  (⟨arms, false,
      if armedReason = some .stableObject then .waitingForFastMotion else .waitingForStableObject,
      frame, current.timestamp, kind, current.area, speed, displacement⟩,
    { trigger with
      previousVisible := some current
      absentFrames := 0
      stableFrames := stableFrames
      armedReason := armedReason })

def decided (outcome : TriggerDecision D × Trigger D) :
    Except PyException (TriggerDecision D) × Trigger D :=
  (.ok outcome.1, outcome.2)

def observeMask (frame : ℤ) (current : Sighting D) (kind : String) (trigger : Trigger D) :
    Except PyException (TriggerDecision D) × Trigger D :=
  if trigger.armedReason = some .emptyField then
    decided (⟨false, true, .absentToVisibleEntry, frame, current.timestamp, kind, current.area,
      FloatArith.zero, FloatArith.zero⟩, trigger)
  else
    match trigger.previousVisible with
    | none =>
      decided (observeVisible config frame current kind FloatArith.zero FloatArith.zero 1 trigger)
    | some previous =>
      match motionFrom hypot config previous current with
      | .error e => (.error e, trigger)
      | .ok motion =>
        if trigger.armedReason = some .stableObject ∧ isFast config motion then
          -- the reference stays the one of the frame before
          decided (⟨false, true, .stableToFastMotion, frame, current.timestamp, kind,
            current.area, motion.speed, motion.displacement⟩, trigger)
        else
          let stableFrames := if isSlow config motion then trigger.stableFrames + 1 else 1
          decided (observeVisible config frame current kind motion.speed motion.displacement
            stableFrames trigger)

/-- `_ThrownObjectRolloutTrigger.observe`. -/
def observe (frame : ℤ) (timestampS : D) (mask : Option Mask) (kind : String)
    (trigger : Trigger D) : Except PyException (TriggerDecision D) × Trigger D :=
  match finite timestampS "throw-trigger frame timestamp" with
  | .error e => (.error e, trigger)
  | .ok timestamp =>
    if trigger.lastFrameId.any (frame ≤ ·) then
      (.error (liveObservationError
        "throw trigger requires strictly increasing camera frame IDs"), trigger)
    else
      let trigger : Trigger D := { trigger with lastFrameId := some frame }
      match mask with
      | none => decided (observeAbsent config frame timestamp trigger)
      | some mask =>
        if mask.ndim ≠ 2 then
          (.error (liveObservationError
            "throw trigger mask must be a two-dimensional image"), trigger)
        else if config.minimumMaskAreaPx ≤ mask.area then
          observeMask hypot config frame (sightingOf timestamp mask) kind trigger
        else decided (observeAbsent config frame timestamp trigger)

end Observe

/-! ## The loop -/

/-- What one iteration of the loop meets: the stop request, the readings of the clock, the camera
sample and the heights that `_tabletop_release_center_base_z` measures. -/
structure Tick (D : Type) where
  stopRequested : Bool
  now : D
  camera : Except PyException (CameraSample D)
  motionAt : D
  motionHeight : Except PyException (Option (D × ℕ))
  height : Except PyException (Option (D × ℕ))
  reportedAt : D
  waited : Except PyException Unit

structure WaitState (D : Type) where
  trigger : Trigger D
  startedMonotonicS : D
  configuredDeadlineMonotonicS : D
  lastFrameId : Option ℤ
  lastDecision : Option (TriggerDecision D)
  observedFrames : ℕ
  preparedMonotonicS : Option D
  readyMonotonicS : Option D
  motionDetectedDecision : Option (TriggerDecision D)
  motionDetectedMonotonicS : Option D
  tabletopHeightConfirmedFrames : ℕ
  lastTabletopCenterBaseZM : Option D
  lastTabletopHeightSourcePoints : ℕ

/-- `_rollout_trigger_state` of a transaction that starts. -/
def WaitState.init (config : ThrownRolloutTriggerConfig D) (started : D) : WaitState D where
  trigger := .init
  startedMonotonicS := started
  configuredDeadlineMonotonicS := started + config.maximumWaitS
  lastFrameId := none
  lastDecision := none
  observedFrames := 0
  preparedMonotonicS := none
  readyMonotonicS := none
  motionDetectedDecision := none
  motionDetectedMonotonicS := none
  tabletopHeightConfirmedFrames := 0
  lastTabletopCenterBaseZM := none
  lastTabletopHeightSourcePoints := 0

structure Release (D : Type) where
  motionDetectedFrameId : ℤ
  motionDetectedCameraTimestampS : D
  motionDetectedMonotonicS : Option D
  tabletopCenterBaseZM : D
  tabletopHeightDeltaM : D
  tabletopHeightConfirmedFrames : ℕ
  tabletopHeightSourcePoints : ℕ

structure Detection (D : Type) where
  reason : Option Reason
  frameId : ℤ
  cameraTimestampS : D
  detectedMonotonicS : D
  waitS : D
  maskKind : String
  maskAreaPx : ℕ
  centroidSpeedPxS : D
  centroidDisplacementPx : D
  preparationStartedMonotonicS : Option D
  armedReadyMonotonicS : Option D
  activeOwnersAtDetection : Bool
  release : Option (Release D)

inductive TriggerResult (D : Type) where
  /-- The trigger is armed: the reason, the frame, its time, the start of the preparation and the
  observed frames. -/
  | armed (reason : Option ArmedReason) (frameId : ℤ) (timestampS preparationStarted : D)
      (observedFrames : ℕ)
  | detected (detection : Detection D)

/-- A frame that the loop has processed: the iteration, the decision, and the armed reason after
it. -/
structure Processed (D : Type) where
  tick : Tick D
  camera : CameraSample D
  decision : TriggerDecision D
  armedReason : Option ArmedReason

abbrev TriggerM (D : Type) := Program (WaitState D) (Processed D) PyException

section Loop

variable (hypot : D → D → D) (config : ThrownRolloutTriggerConfig D)

def modifyWait (f : WaitState D → WaitState D) : TriggerM D Unit := update f

def observeFrame (tick : Tick D) (camera : CameraSample D) : TriggerM D (TriggerDecision D) := do
  let (mask, kind) := throwTriggerMask camera
  let decision ← ofStep fun s =>
    let (decision, trigger) := observe hypot config camera.frameId camera.timestampS mask kind s.trigger
    (decision, { s with trigger := trigger })
  modifyWait fun s =>
    { s with
      lastDecision := some decision
      observedFrames := s.observedFrames + 1
      lastFrameId := some camera.frameId }
  emit ⟨tick, camera, decision, (← read).trigger.armedReason⟩
  ret decision

def noteMotion (tick : Tick D) (decision : TriggerDecision D) : TriggerM D Unit := do
  modifyWait fun s =>
    { s with
      motionDetectedDecision := some decision
      motionDetectedMonotonicS := some tick.motionAt }
  match ← ofExcept tick.motionHeight with
  | none => ret ()
  | some (centerZ, sourcePoints) =>
    modifyWait fun s =>
      { s with
        lastTabletopCenterBaseZM := some centerZ
        lastTabletopHeightSourcePoints := sourcePoints }

def withinFlatHeight (gate : TabletopReleaseHeightGateConfig D) (centerZ : D) : Bool :=
  FloatArith.abs (centerZ - gate.referenceCenterBaseZM) ≤
    gate.toleranceM + FloatArith.ofRat (1 / 1000000000)

def countHeight (gate : TabletopReleaseHeightGateConfig D) (tick : Tick D) : TriggerM D Unit := do
  match ← ofExcept tick.height with
  | none =>
    modifyWait fun s =>
      { s with
        tabletopHeightConfirmedFrames := 0
        lastTabletopCenterBaseZM := none
        lastTabletopHeightSourcePoints := 0 }
  | some (centerZ, sourcePoints) =>
    modifyWait fun s =>
      { s with
        lastTabletopCenterBaseZM := some centerZ
        lastTabletopHeightSourcePoints := sourcePoints
        tabletopHeightConfirmedFrames :=
          if withinFlatHeight gate centerZ then s.tabletopHeightConfirmedFrames + 1 else 0 }

def detectionOf (tick : Tick D) (ownersActive : Bool) (s : WaitState D)
    (decision : TriggerDecision D) : Detection D where
  reason := some decision.reason
  frameId := decision.frameId
  cameraTimestampS := decision.timestampS
  detectedMonotonicS := tick.reportedAt
  waitS := tick.reportedAt - s.startedMonotonicS
  maskKind := decision.maskKind
  maskAreaPx := decision.maskAreaPx
  centroidSpeedPxS := decision.centroidSpeedPxS
  centroidDisplacementPx := decision.centroidDisplacementPx
  preparationStartedMonotonicS := s.preparedMonotonicS
  armedReadyMonotonicS := s.readyMonotonicS
  activeOwnersAtDetection := ownersActive
  release := none

def releaseOf (gate : TabletopReleaseHeightGateConfig D) (tick : Tick D) (camera : CameraSample D)
    (ownersActive : Bool) (s : WaitState D) (decision motion : TriggerDecision D) (centerZ : D) :
    Detection D :=
  { detectionOf tick ownersActive s decision with
    reason := none
    frameId := camera.frameId
    cameraTimestampS := camera.timestampS
    maskKind := (throwTriggerMask camera).2
    centroidSpeedPxS := motion.centroidSpeedPxS
    centroidDisplacementPx := motion.centroidDisplacementPx
    release := some
      { motionDetectedFrameId := motion.frameId
        motionDetectedCameraTimestampS := motion.timestampS
        motionDetectedMonotonicS := s.motionDetectedMonotonicS
        tabletopCenterBaseZM := centerZ
        tabletopHeightDeltaM := centerZ - gate.referenceCenterBaseZM
        tabletopHeightConfirmedFrames := s.tabletopHeightConfirmedFrames
        tabletopHeightSourcePoints := s.lastTabletopHeightSourcePoints } }

def assertionError : PyException := ⟨.ordinary, "AssertionError", ""⟩

/-- After a motion: the release is reported once enough frames in a row have confirmed the
height. -/
def confirmRelease (gate : TabletopReleaseHeightGateConfig D) (ownersActive : Bool) (tick : Tick D)
    (camera : CameraSample D) (decision motion : TriggerDecision D) :
    TriggerM D (Option (TriggerResult D)) := do
  countHeight gate tick
  let s ← read
  if gate.confirmFrames ≤ s.tabletopHeightConfirmedFrames then
    match s.lastTabletopCenterBaseZM with
    | none => fail assertionError
    | some centerZ =>
      ret (some (.detected (releaseOf gate tick camera ownersActive s decision motion centerZ)))
  else ret none

def gateFrame (gate : TabletopReleaseHeightGateConfig D) (ownersActive : Bool) (tick : Tick D)
    (camera : CameraSample D) (decision : TriggerDecision D) :
    TriggerM D (Option (TriggerResult D)) := do
  let first := decision.detected && (← read).motionDetectedDecision.isNone
  runIf first (noteMotion tick decision)
  match (← read).motionDetectedDecision with
  -- without a motion the frame was no detection either
  | none => ret none
  | some motion => confirmRelease gate ownersActive tick camera decision motion

def processFrame (stopWhenArmed ownersActive : Bool) (tick : Tick D) (camera : CameraSample D) :
    TriggerM D (Option (TriggerResult D)) := do
  let decision ← observeFrame hypot config tick camera
  if decision.armedNow && stopWhenArmed then do
    modifyWait fun s => { s with preparedMonotonicS := some tick.reportedAt }
    let s ← read
    ret (some (.armed s.trigger.armedReason decision.frameId decision.timestampS tick.reportedAt
      s.observedFrames))
  else
    match config.tabletopReleaseHeightGate with
    | some gate => gateFrame gate ownersActive tick camera decision
    | none => do
      let s ← read
      if decision.detected then
        ret (some (.detected (detectionOf tick ownersActive s decision)))
      else ret none

def timedOut : PyException :=
  liveObservationError "throw trigger timed out before a qualifying motion/entry frame"

/-- One iteration of `_wait_for_rollout_trigger_phase`. -/
def iteration (stopWhenArmed ownersActive : Bool) (hardDeadline : D) (tick : Tick D) :
    TriggerM D (Option (TriggerResult D)) := do
  check (tick.stopRequested = true) (liveObservationError "throw trigger cancelled before rollout")
  let s ← read
  let deadline := FloatArith.stdMin hardDeadline s.configuredDeadlineMonotonicS
  check (deadline ≤ tick.now) timedOut
  let camera ← ofExcept tick.camera
  let reported ←
    if s.lastFrameId ≠ some camera.frameId then
      processFrame hypot config stopWhenArmed ownersActive tick camera
    else ret none
  match reported with
  | some result => ret (some result)
  | none => do
    ofExcept tick.waited
    ret none

/-- `_wait_for_rollout_trigger_phase` over its iterations; `none` while it goes on. -/
def waitForRolloutTriggerPhase (stopWhenArmed ownersActive : Bool) (hardDeadline : D) :
    List (Tick D) → TriggerM D (Option (TriggerResult D))
  | [] => ret none
  | tick :: ticks => do
    match ← iteration hypot config stopWhenArmed ownersActive hardDeadline tick with
    | some result => ret (some result)
    | none => waitForRolloutTriggerPhase stopWhenArmed ownersActive hardDeadline ticks

def prepareRolloutTrigger (hardDeadline : D) (ticks : List (Tick D)) :
    TriggerM D (Option (TriggerResult D)) :=
  waitForRolloutTriggerPhase hypot config true false hardDeadline ticks

/-- `detect_rollout_trigger`: a visible object needs a new reference. -/
def detectRolloutTrigger (hardDeadline readyAt : D) (ticks : List (Tick D)) :
    TriggerM D (Option (TriggerResult D)) := do
  let s ← read
  check (s.trigger.armedReason = none)
    (liveObservationError "throw trigger detection requires a completed pre-arm phase")
  modifyWait fun s => { s with readyMonotonicS := some readyAt }
  runIf (s.trigger.armedReason = some .stableObject)
    (modifyWait fun s => { s with trigger := { s.trigger with previousVisible := none } })
  waitForRolloutTriggerPhase hypot config false true hardDeadline ticks

end Loop

end FrankaDeploy.LiveObservation
