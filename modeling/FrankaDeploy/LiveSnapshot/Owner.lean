import FrankaDeploy.LiveSnapshot.Records

/-! # Live snapshots

`PersistentV94ObservationOwner.snapshot`: the camera, the pose ring and the hand's history are read
one after the other, the camera sample is projected at the pose that is nearest to its capture, or
taken from the one-entry cache, and the result is an observation, a recoverable hold or an
exception. Whatever the sources publish between the reads is in what each read returns; the caches
are only touched under the projector's lock. -/

namespace FrankaDeploy.LiveSnapshot

open FrankaDeploy.Foundation FrankaDeploy.Foundation.Program FrankaDeploy.ClosedLoop
open FrankaDeploy.LiveObservation FrankaDeploy.TickSource
open FrankaDeploy.PointCloud (Numerics SphereFit ProjectorConfig ProjectorState PolicyPointFrame
  Projection Status Cloud Provenance lit)
open scoped FloatArith

variable {D S : Type} [FloatArith D] [FloatArith S] [FloatCast D S]

/-! ## Configuration -/

/-- The configuration of a `PersistentV94ObservationOwner`, with what its constructor has checked.
-/
structure OwnerConfig (D : Type) [FloatArith D] where
  maximumPoseSkewS : Reading D
  maximumFrankaActionAgeS : Reading D
  maximumFrankaAgeS : Reading D
  maximumRh56AgeS : Reading D
  maximumFutureSkewS : Reading D
  requestedObjectMaskMode : ObjectMaskMode
  effectiveObjectMaskMode : ObjectMaskMode
  visualization : Bool
  stride : ℕ
  projector : ProjectorConfig D 128

def OwnerConfig.legacyStalePalmCompatibilityEnabled (config : OwnerConfig D) : Bool :=
  config.requestedObjectMaskMode = .legacy && config.effectiveObjectMaskMode = .legacy

/-! ## State -/

structure RetainedPointcloudSource (D S : Type) where
  camera : CameraSample D S
  tBasePalmAtCapture : Transform D
  sourceValidPoints : ℕ

structure AdaptedPolicyRgbdCache (S : Type) where
  camera : CameraId
  policyRgbd : PolicyRgbdInputs S

structure ProjectedPointcloudCache (D S : Type) where
  camera : CameraId
  capturePoseCycle : ℕ
  tBasePalmAtCapture : Transform D
  pointFrame : PolicyPointFrame D S 128
  visualSource : Option (RetainedPointcloudSource D S)
  maskProvenance : Provenance D

structure OwnerState (D S : Type) where
  projector : ProjectorState D S 128
  adaptedPolicyRgbdCache : Option (AdaptedPolicyRgbdCache S)
  projectedPointcloudCache : Option (ProjectedPointcloudCache D S)
  retainedPointcloudSource : Option (RetainedPointcloudSource D S)

def OwnerState.init : OwnerState D S := ⟨.init, none, none, none⟩

/-! ## Calls and events -/

/-- **What one call of `snapshot` is given**: its arguments and what its reads return. -/
structure SnapshotCall (D S : Type) [FloatArith D] [FloatArith S] where
  nowMonotonicS : D
  hardDeadlineMonotonicS : D
  start : ClockReads D
  camera : Except PyException CameraId
  acquired : ClockReads D
  poseSamples : List (FrankaPoseSample D S)
  /-- The capture times of the hand's feedback: `require_fresh_feedback_history`, with the checks of
  the records. -/
  handSamples : Except PyException (List D)
  proprio67 : Except PyException (Vec 67 S)
  finished : ClockReads D

/-- A cloud that a call works with: the camera sample, the capture pose and its palm transform, and
the frame. -/
structure CloudUse (D S : Type) [FloatArith D] [FloatArith S] where
  camera : CameraId
  pose : FrankaPoseSample D S
  palm : Transform D
  frame : PolicyPointFrame D S 128

inductive Event (D S : Type) [FloatArith D] [FloatArith S] where
  /-- The projector was called for a camera sample at a capture pose. -/
  | projected (camera : CameraId) (pose : FrankaPoseSample D S) (palm : Transform D)
      (projection : Projection D S 128)
  | reused (use : CloudUse D S)
  | returned (call : SnapshotCall D S)
      (result : Except (TickException D S) (V94PolicyObservation D S))

abbrev OwnerM (D S : Type) [FloatArith D] [FloatArith S] :=
  Program (OwnerState D S) (Event D S) (TickException D S)

omit [FloatCast D S] in
def raised {α : Type} (r : Except PyException α) : OwnerM D S α := ofExcept (r.mapError .raised)

omit [FloatCast D S] in
def liveError (message : String) : TickException D S := .raised (liveObservationError message)

/-! ## Holds and observations -/

/-- `V94RecoverableObservationHold`. No reason is empty or has blanks at its ends. -/
def recoverableHold (cameraFrameId : ℕ) (reason : String)
    (fresh : Option (V94FreshActuatorSnapshot D S)) : TickException D S :=
  match nonnegativeInteger D cameraFrameId "camera_frame_id" with
  | .ok frameId => .hold ⟨frameId, reason, fresh⟩
  | .error e => .raised (e.raised "RuntimeError")

omit [FloatCast D S] in
/-- `V94FreshActuatorSnapshot` of the latest pose. -/
def freshActuatorSnapshot (latest : FrankaPoseSample D S) (realtime : Reading D) :
    V94FreshActuatorSnapshot D S where
  measuredFrankaQRad := latest.qRad
  frankaStateCapturedMonotonicS := latest.monotonicS.val
  observationRealtimeS := realtime.val
  holdArmTarget := latest.holdArmTarget
  captured_finite := latest.monotonicS.property
  observed_finite := realtime.property

def statusText : Status → String
  | .fresh => "fresh"
  | .stalePalm => "stale_palm"
  | .motionCompensated => "motion_compensated"
  | .invalidTooFewPoints => "invalid_too_few_points"
  | .invalidMotionFallbackRejected => "invalid_motion_fallback_rejected"

def cloudRows (cloud : Cloud S 128) : Σ dim : ℕ, Fin 128 → Fin dim → S :=
  match cloud.rgb with
  | none => ⟨3, cloud.xyz⟩
  | some rgb => ⟨6, fun i => Fin.append (cloud.xyz i) (rgb i)⟩

def readonlyPolicyPoints (cloud : Cloud S 128) (name : String) : Except PyError (PolicyPoints S) :=
  let rows := cloudRows cloud
  if h : ∀ i j, FloatArith.isFinite (rows.2 i j) = true then
    .ok ⟨rows.1, rows.2, by
      show (cloudRows cloud).1 = 3 ∨ (cloudRows cloud).1 = 6
      unfold cloudRows
      cases cloud.rgb with
      | none => exact .inl rfl
      | some rgb => exact .inr rfl, h⟩
  else .error (.valueError s!"{name} must have finite shape (128,3) or (128,6)")

section Snapshot

variable (numerics : Numerics D) (fit : List (Vec 3 D) → D → SphereFit D)
  (basePolicyPalm : Transform D → Except PyException (Transform D)) (validSum : Vec 128 S → D)
  (cameras : CameraId → CameraSample D S) (config : OwnerConfig D)

/-- `V94PolicyObservation` of a frame, the proprioception and the latest pose. -/
def policyObservation (frame : PolicyPointFrame D S 128) (proprio67 : Vec 67 S)
    (latest : FrankaPoseSample D S) (realtime : Reading D) (cameraFrameId : ℕ) :
    Except PyError (V94PolicyObservation D S) := do
  let points ← readonlyPolicyPoints frame.xyzrgbPalm "pointcloud_xyzrgb_palm"
  let valid ← readonlyFloatArray frame.valid "pointcloud_valid"
  if frame.valid.any (· < FloatArith.zero) || frame.valid.any (FloatArith.one < ·) then
    throw (.valueError "pointcloud_valid must lie in [0,1]")
  if validSum frame.valid < FloatArith.one then
    throw (.valueError "policy observation must contain a valid object point")
  let prefix54 ← readonlyFloatArray (fun i : Fin 54 => proprio67 (i.castLE (by decide)))
    "proprio_prefix54"
  if h : FloatArith.isFinite frame.capturedAtS = true then
    let frameId ← nonnegativeInteger D cameraFrameId "camera_frame_id"
    let sourceFrameId ← nonnegativeInteger D frame.frameId "pointcloud_source_frame_id"
    let sourcePoints ← nonnegativeInteger D frame.sourceValidPoints "source_valid_points"
    return {
      pointcloudXyzrgbPalm := points
      pointcloudValid := valid
      proprioPrefix54 := prefix54
      measuredFrankaQRad := latest.qRad
      frankaStateCapturedMonotonicS := latest.monotonicS.val
      pointcloudCapturedRealtimeS := frame.capturedAtS
      observationRealtimeS := realtime.val
      cameraFrameId := frameId
      holdArmTarget := latest.holdArmTarget
      controllerState29 := latest.controllerState29
      shaperQDRad := latest.shaperQDRad
      pointcloudStatus := statusText frame.status
      sourceValidPoints := sourcePoints
      pointcloudSourceFrameId := sourceFrameId
      state_finite := latest.monotonicS.property
      cloud_finite := h
      observed_finite := realtime.property }
  else throw (.valueError "pointcloud_captured_realtime_s must be finite")

/-! ## The caches -/

def policyRgbd (id : CameraId) : OwnerM D S (PolicyRgbdInputs S) := do
  match (← read).adaptedPolicyRgbdCache.filter fun cached => cached.camera = id with
  | some cached => ret cached.policyRgbd
  | none => do
    let adapted ← raised (adapt config.stride (cameras id))
    update fun s => { s with adaptedPolicyRgbdCache := some ⟨id, adapted⟩ }
    ret adapted

def callProject (id : CameraId) (pose : FrankaPoseSample D S) (palm : Transform D)
    (rgbd : PolicyRgbdInputs S) : OwnerM D S (PolicyPointFrame D S 128) := do
  let input := projectInput (cameras id) rgbd palm
  let result ← ofStep fun s : OwnerState D S =>
    let run : Except PyException (PolicyPointFrame D S 128) × ProjectorState D S 128 ×
      List (Projection D S 128) := PointCloud.project numerics fit config.projector input s.projector
    (.ok run.1, { s with projector := run.2.1 })
  emit (.projected id pose palm ⟨input, result, (← read).projector.lastEffectiveObjectMask⟩)
  raised result

def visualSource (id : CameraId) (palm : Transform D) (frame : PolicyPointFrame D S 128) :
    OwnerM D S (Option (RetainedPointcloudSource D S)) := do
  let s ← read
  match frame.status with
  | .fresh | .motionCompensated =>
    match s.projector.lastEffectiveObjectMask with
    | none => fail (liveError "accepted policy cloud has no effective object mask")
    | some effective => do
      let source : RetainedPointcloudSource D S :=
        ⟨{ cameras id with mask := maskToSourceResolution config.stride effective }, palm,
          frame.sourceValidPoints⟩
      runIf (frame.status = .fresh) (update fun s =>
        { s with retainedPointcloudSource := some source })
      ret (some source)
  | .stalePalm =>
    match s.retainedPointcloudSource with
    | none => fail (liveError "stale-palm projector/source cache is inconsistent")
    | some source => do
      check ((source.camera.frameId : ℤ) ≠ frame.frameId ∨
          FloatArith.eqv source.camera.timestampS frame.capturedAtS = false)
        (liveError "stale-palm projector/source cache is inconsistent")
      ret (some source)
  | _ => ret none

def ProjectedPointcloudCache.matches (cached : ProjectedPointcloudCache D S) (id : CameraId)
    (pose : FrankaPoseSample D S) (palm : Transform D) : Bool :=
  cached.camera = id && cached.capturePoseCycle = pose.cycle &&
    cached.tBasePalmAtCapture.arrayEqual palm

def pointFrame (id : CameraId) (pose : FrankaPoseSample D S) (palm : Transform D) :
    OwnerM D S (PolicyPointFrame D S 128 × Option (RetainedPointcloudSource D S)) := do
  let rgbd ← policyRgbd cameras config id
  match (← read).projectedPointcloudCache.filter fun cached => cached.matches id pose palm with
  | some cached => do
    emit (.reused ⟨id, pose, palm, cached.pointFrame⟩)
    ret (cached.pointFrame, cached.visualSource)
  | none => do
    let frame ← callProject numerics fit cameras config id pose palm rgbd
    let source ← visualSource cameras config id palm frame
    update fun s =>
      { s with
        projectedPointcloudCache := some ⟨id, pose.cycle, palm, frame, source,
          s.projector.lastEffectiveObjectMaskProvenance⟩ }
    ret (frame, source)

/-! ## A snapshot -/

def checkAges (call : SnapshotCall D S) (frameId : ℕ) (latestPose : FrankaPoseSample D S)
    (handCapturedS : D) : OwnerM D S Unit := do
  let frankaAge := call.start.monotonic - latestPose.monotonicS.val
  let handAge := call.start.monotonic - handCapturedS
  check (frankaAge < -config.maximumFutureSkewS.val)
    (liveError "Franka sample timestamp is in the future")
  check (handAge < -config.maximumFutureSkewS.val)
    (liveError "RH56 sample timestamp is in the future")
  check (config.maximumRh56AgeS.val < handAge)
    (liveError (s!"RH56 sample is stale: age={FloatArith.fixedText 6 handAge}s, " ++
      s!"limit={FloatArith.fixedText 6 config.maximumRh56AgeS.val}s"))
  check (config.maximumFrankaAgeS.val < frankaAge)
    (recoverableHold frameId (s!"franka_state_hard_age_retry:age={FloatArith.fixedText 6 frankaAge}s"
      ++ s!":limit={FloatArith.fixedText 6 config.maximumFrankaAgeS.val}s") none)
  check (config.maximumFrankaActionAgeS.val < frankaAge)
    (recoverableHold frameId
      (s!"franka_state_action_age_limit:age={FloatArith.fixedText 6 frankaAge}s" ++
        s!":limit={FloatArith.fixedText 6 config.maximumFrankaActionAgeS.val}s") none)

def stalePalmReason (cameraFrameId : ℕ) (frame : PolicyPointFrame D S 128) : String :=
  s!"guarded_stale_palm_fail_closed:requested_mode={config.requestedObjectMaskMode.text}" ++
    s!":effective_mode={config.effectiveObjectMaskMode.text}:camera_frame={cameraFrameId}" ++
    s!":retained_pointcloud_frame={frame.frameId}:source_points={frame.sourceValidPoints}"

omit [FloatArith D] [FloatArith S] [FloatCast D S] in
def invalidReason (camera : CameraSample D S) (frame : PolicyPointFrame D S 128) : String :=
  s!"object_pointcloud_transient_invalid:status={statusText frame.status}" ++
    s!":source_points={frame.sourceValidPoints}" ++
    ":mask_valid=" ++ (if camera.maskValid then "True" else "False") ++ s!":mask_px={camera.maskPx}"

def observe (call : SnapshotCall D S) (camera : CameraSample D S) (latest : FrankaPoseSample D S)
    (proprio67 : Vec 67 S) (frame : PolicyPointFrame D S 128)
    (source : Option (RetainedPointcloudSource D S)) : OwnerM D S (V94PolicyObservation D S) := do
  let fresh := freshActuatorSnapshot latest call.start.realtime
  check (frame.status = .stalePalm ∧ config.legacyStalePalmCompatibilityEnabled = false)
    (recoverableHold camera.frameId (stalePalmReason config camera.frameId frame) (some fresh))
  check (frame.status = .invalidTooFewPoints ∨ frame.status = .invalidMotionFallbackRejected ∨
      validSum frame.valid < FloatArith.one)
    (recoverableHold camera.frameId (invalidReason camera frame) (some fresh))
  let (finished, realtime) ← raised (clockPair call.finished)
  check (call.hardDeadlineMonotonicS ≤ finished)
    (liveError "snapshot deadline expired during projection")
  let observation ← ofExcept (ofSource
    (policyObservation validSum frame proprio67 latest realtime camera.frameId))
  check (config.visualization = true ∧ source.isNone = true)
    (liveError "accepted point cloud has no matching visualization source")
  ret observation

/-- **`snapshot`.** -/
def snapshot (call : SnapshotCall D S) : OwnerM D S (V94PolicyObservation D S) := do
  let _ ← raised (finite call.nowMonotonicS "now_monotonic_s")
  let _ ← raised (finite call.hardDeadlineMonotonicS "hard_deadline_monotonic_s")
  let (started, _) ← raised (clockPair call.start)
  check (started + config.maximumFutureSkewS.val < call.nowMonotonicS)
    (liveError "snapshot monotonic request is in the future")
  check (call.hardDeadlineMonotonicS ≤ started)
    (liveError "snapshot deadline expired before acquisition")
  let id ← raised call.camera
  let _ ← raised (clockPair call.acquired)
  raised (cameras id).contractChecked
  check (call.poseSamples.length < 2)
    (liveError "Franka pose ring has fewer than two samples")
  let hand ← raised call.handSamples
  match call.poseSamples.getLast?, hand.getLast? with
  | some latest, some handCapturedS => do
    checkAges config call (cameras id).frameId latest handCapturedS
    let pose ← raised (nearestPose call.poseSamples (cameras id).timestampS
      config.maximumPoseSkewS.val)
    let palm ← raised (basePolicyPalm pose.tBaseEef)
    let _ ← raised (basePolicyPalm latest.tBaseEef)
    let proprio67 ← raised call.proprio67
    let (frame, source) ← pointFrame numerics fit cameras config id pose palm
    observe validSum config call (cameras id) latest proprio67 frame source
  | _, _ => fail (liveError "RH56 owner has no safety feedback")

def snapshotAll : List (SnapshotCall D S) → OwnerM D S Unit
  | [] => ret ()
  | call :: calls => do
    let result ← attempt (snapshot numerics fit basePolicyPalm validSum cameras config call)
    emit (.returned call result)
    snapshotAll calls

end Snapshot

end FrankaDeploy.LiveSnapshot
