import FrankaDeploy.Foundation.IeeeExact
import FrankaDeploy.LiveSnapshot.Owner
import FrankaDeploy.PointCloud.FallbackLaw

/-! # What a coherent snapshot is

The law of the events of an owner: what the projector is called with, what a reused cloud is, and
what an observation was made from. -/

namespace FrankaDeploy.LiveSnapshot

open FrankaDeploy.Foundation FrankaDeploy.Foundation.Program FrankaDeploy.Foundation.Monitor
open FrankaDeploy.LiveObservation FrankaDeploy.TickSource
open FrankaDeploy.PointCloud (Numerics SphereFit ProjectorState PolicyPointFrame Projection
  projectAll)
open scoped FloatArith

variable {S : Type} [FloatArith S]

/-! ## Events -/

def Event.projection? : Event Binary64 S → Option (Projection Binary64 S 128)
  | .projected _ _ _ p => some p
  | .reused _ => none
  | .returned _ _ => none

def projections (t : List (Event Binary64 S)) : List (Projection Binary64 S 128) :=
  t.filterMap Event.projection?

/-- The call of `snapshot` that an event ends. -/
def Event.call? : Event Binary64 S → Option (SnapshotCall Binary64 S)
  | .projected _ _ _ _ => none
  | .reused _ => none
  | .returned call _ => some call

def Event.stored? : Event Binary64 S → Option (CloudUse Binary64 S)
  | .projected camera pose palm p =>
    match p.result with
    | .ok frame => some ⟨camera, pose, palm, frame⟩
    | .error _ => none
  | .reused _ => none
  | .returned _ _ => none

/-- The cloud that an event gives to its call of `snapshot`. -/
def Event.cloud? : Event Binary64 S → Option (CloudUse Binary64 S)
  | .reused use => some use
  | e => e.stored?

abbrev Event.Stores (e : Event Binary64 S) : Prop := e.stored?.isSome = true

def lastCloud (t : List (Event Binary64 S)) : Option (CloudUse Binary64 S) :=
  t.getLast?.bind Event.cloud?

def RetainedSource (s : OwnerState Binary64 S) (ps : List (Projection Binary64 S 128)) : Prop :=
  ∀ q, IsLast Projection.Fresh q ps → ∃ source, s.retainedPointcloudSource = some source ∧
    (source.camera.frameId : ℤ) = q.input.frameId ∧ source.camera.timestampS = q.input.capturedAtS

/-! ## The law -/

section Law

variable (numerics : Numerics Binary64)
  (basePolicyPalm : Transform Binary64 → Except PyException (Transform Binary64))
  (cameras : CameraId → CameraSample Binary64 S) (config : OwnerConfig Binary64)

/-- **A reused cloud** is the one that the last projection returned, of the same camera sample, at
the same cycle and at an equal transform. -/
def ReusedLaw (pre : List (Event Binary64 S)) (use : CloudUse Binary64 S) : Prop :=
  ∃ e stored, IsLast Event.Stores e pre ∧ e.stored? = some stored ∧ stored.camera = use.camera ∧
    stored.pose.cycle = use.pose.cycle ∧ stored.palm.arrayEqual use.palm = true ∧
    use.frame = stored.frame

/-- **A coherent observation**: its cloud is of the camera sample that this call has read, at a
capture pose near it, and its arm sample is recent. -/
structure Coherent (call : SnapshotCall Binary64 S) (use : CloudUse Binary64 S)
    (observation : V94PolicyObservation Binary64 S) : Prop where
  camera : call.camera = .ok use.camera
  status : use.frame.status = .fresh ∨ use.frame.status = .motionCompensated
  statusText : observation.pointcloudStatus = statusText use.frame.status
  points : readonlyPolicyPoints use.frame.xyzrgbPalm "pointcloud_xyzrgb_palm" =
    .ok observation.pointcloudXyzrgbPalm
  valid : observation.pointcloudValid.val = use.frame.valid
  cameraFrameId : observation.cameraFrameId = (cameras use.camera).frameId
  sourceFrameId : observation.pointcloudSourceFrameId = (cameras use.camera).frameId
  capturedAt : observation.pointcloudCapturedRealtimeS = (cameras use.camera).timestampS
  pose_mem : use.pose ∈ call.poseSamples
  palm : basePolicyPalm use.pose.tBaseEef = .ok use.palm
  skew : captureSkew (cameras use.camera).timestampS use.pose ≤ config.maximumPoseSkewS.val
  arm : ∃ latest, call.poseSamples.getLast? = some latest ∧
    observation.measuredFrankaQRad = latest.qRad ∧
    observation.frankaStateCapturedMonotonicS = latest.monotonicS.val ∧
    call.start.monotonic - latest.monotonicS.val ≤ config.maximumFrankaActionAgeS.val

variable [FloatCast Binary64 S]

/-- **A call of the projector**: it is given the camera sample, and it obeys the fallback law. -/
structure ProjectedLaw (pre : List (Event Binary64 S)) (camera : CameraId)
    (palm : Transform Binary64) (p : Projection Binary64 S 128) : Prop where
  input : ∃ rgbd, adapt config.stride (cameras camera) = .ok rgbd ∧
    p.input = projectInput (cameras camera) rgbd palm
  call : PointCloud.CallLaw numerics config.projector (projections pre) p

/-- **What a call returns** in a guarded mode: a coherent observation, and never one of a stale
cloud, which raises the hold. -/
structure ReturnedLaw (pre : List (Event Binary64 S)) (call : SnapshotCall Binary64 S)
    (result : Except (TickException Binary64 S) (V94PolicyObservation Binary64 S)) : Prop where
  coherent : config.legacyStalePalmCompatibilityEnabled = false →
    ∀ observation, result = .ok observation →
      ∃ use, lastCloud pre = some use ∧ Coherent basePolicyPalm cameras config call use observation
  stale : config.legacyStalePalmCompatibilityEnabled = false →
    ∀ use, lastCloud pre = some use → use.frame.status = .stalePalm →
      ∃ hold, result = .error (.hold hold) ∧ call.camera = .ok use.camera ∧
        hold.cameraFrameId = (cameras use.camera).frameId ∧
        hold.reason = stalePalmReason config (cameras use.camera).frameId use.frame

/-- **The law of an event**, given the events before it. -/
def EventLaw (pre : List (Event Binary64 S)) : Event Binary64 S → Prop
  | .projected camera _ palm p => ProjectedLaw numerics cameras config pre camera palm p
  | .reused use => ReusedLaw pre use
  | .returned call result => ReturnedLaw basePolicyPalm cameras config pre call result

/-- **A lawful history**: every event obeys its law, and the state is what the history left. -/
structure Lawful (fit : List (Vec 3 Binary64) → Binary64 → SphereFit Binary64)
    (s : OwnerState Binary64 S) (t : List (Event Binary64 S)) : Prop where
  law : Everywhere (EventLaw numerics basePolicyPalm cameras config) t
  replay : projectAll numerics fit config.projector ((projections t).map (·.input)) .init =
    (.ok (), s.projector, projections t)
  projector : PointCloud.Lawful numerics config.projector s.projector (projections t)
  adapted : ∀ cached, s.adaptedPolicyRgbdCache = some cached →
    adapt config.stride (cameras cached.camera) = .ok cached.policyRgbd
  cached : ∀ cached, s.projectedPointcloudCache = some cached →
    ∃ e stored, IsLast Event.Stores e t ∧ e.stored? = some stored ∧
      stored.camera = cached.camera ∧ stored.pose.cycle = cached.capturePoseCycle ∧
      stored.palm = cached.tBasePalmAtCapture ∧ stored.frame = cached.pointFrame
  retained : RetainedSource s (projections t)

end Law

end FrankaDeploy.LiveSnapshot
