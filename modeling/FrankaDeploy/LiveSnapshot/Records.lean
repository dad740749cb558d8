import FrankaDeploy.LiveObservation.ThrowTrigger
import FrankaDeploy.PointCloud.Projector
import FrankaDeploy.TickSource.Observation

/-! # Records of a live snapshot

What `PersistentV94ObservationOwner` of `sim2real.runtime.v94_live_observation_owner` reads: camera
samples, which the policy sees decimated, Franka pose samples, and the capture pose of a frame. -/

namespace FrankaDeploy.LiveSnapshot

open FrankaDeploy.Foundation FrankaDeploy.ClosedLoop FrankaDeploy.LiveObservation
open FrankaDeploy.PointCloud (Pixel Pose DepthImage ProjectInput lit)
open scoped FloatArith

variable {D S : Type} [FloatArith D] [FloatArith S] [FloatCast D S]

/-! ## Clocks -/

/-- A reading of a clock: `time.monotonic` and `time.time` return finite numbers. -/
abbrev Reading (D : Type) [FloatArith D] := {x : D // FloatArith.isFinite x = true}

structure ClockReads (D : Type) [FloatArith D] where
  before : Reading D
  realtime : Reading D
  after : Reading D

def ClockReads.monotonic (reads : ClockReads D) : D :=
  lit (1 / 2) * (reads.before.val + reads.after.val)

def clockPair (reads : ClockReads D) : Except PyException (D × Reading D) :=
  if reads.after.val < reads.before.val then
    .error (liveObservationError "host monotonic clock regressed")
  else .ok (reads.monotonic, reads.realtime)

/-! ## Camera samples -/

/-- `_CameraSample`, as far as a snapshot reads it, with the outcomes of the checks of its
calibration and of its shapes. -/
structure CameraSample (D S : Type) where
  colorBgr : Pixel → Vec 3 ℕ
  depthM : Option (Pixel → S)
  depthRaw : Option (Pixel → ℕ)
  mask : PointCloud.Mask
  depthScaleMPerUnit : D
  timestampS : D
  frameId : ℕ
  maskValid : Bool
  policySemanticMask : Option PointCloud.Mask
  policySemanticValid : Bool
  maskPx : ℕ
  contractChecked : Except PyException Unit
  imageShapesChecked : Except PyException Unit
  depthShapeChecked : Except PyException Unit
  frame_counted : frameId < 2 ^ 53

/-- The identity of a camera sample. Samples are frozen, so that an identity determines the
sample, and `is` compares identities. -/
abbrev CameraId := ℕ

/-! ## Adaptation -/

inductive PolicyDepth (S : Type) where
  | metres (depth : Pixel → S)
  | raw (depth : Pixel → ℕ)

structure PolicyRgbdInputs (S : Type) where
  colorBgr : Pixel → Vec 3 ℕ
  objectMask : PointCloud.Mask
  depth : PolicyDepth S

def decimate {α : Type} (stride : ℕ) (image : Pixel → α) : Pixel → α := fun pixel =>
  image (pixel.1 * stride, pixel.2 * stride)

def maskToSourceResolution (stride : ℕ) (mask : PointCloud.Mask) : PointCloud.Mask := fun pixel =>
  mask (pixel.1 / stride, pixel.2 / stride)

omit [FloatArith D] [FloatArith S] [FloatCast D S] in
/-- The mask that the policy sees: the provider's one, or the semantic one where only that is
valid. -/
def projectionMask (camera : CameraSample D S) : PointCloud.Mask :=
  if camera.maskValid then camera.mask
  else if camera.policySemanticValid then camera.policySemanticMask.getD camera.mask
  else fun _ => false

omit [FloatArith D] [FloatArith S] [FloatCast D S] in
/-- `PolicyRGBDResolutionAdapter.adapt` of a camera sample. -/
def adapt (stride : ℕ) (camera : CameraSample D S) : Except PyException (PolicyRgbdInputs S) := do
  camera.imageShapesChecked
  let depth ← match camera.depthRaw, camera.depthM with
    | some raw, _ => .ok (PolicyDepth.raw (decimate stride raw))
    | none, some metres => .ok (.metres (decimate stride metres))
    | none, none =>
      .error ⟨.ordinary, "ValueError", "provide exactly one of depth_m or depth_raw"⟩
  camera.depthShapeChecked
  .ok ⟨decimate stride camera.colorBgr, decimate stride (projectionMask camera), depth⟩

/-! ## Poses -/

abbrev Transform (D : Type) := Vec 4 (Vec 4 D)

omit [FloatArith D] in
def Transform.pose (transform : Transform D) : Pose D where
  rotation := fun i j => transform i.castSucc j.castSucc
  translation := fun i => transform i.castSucc (Fin.last 3)

def Transform.arrayEqual (x y : Transform D) : Bool :=
  (List.finRange 4).all fun i => Vec.arrayEqual (x i) (y i)

/-- `FrankaPoseSample`, with its vectors in single precision, as the records of the tick source
hold them. -/
structure FrankaPoseSample (D S : Type) [FloatArith D] [FloatArith S] where
  cycle : ℕ
  realtimeS : Reading D
  monotonicS : Reading D
  qRad : FiniteVec 7 S
  tBaseEef : Transform D
  statusFlags : ℕ
  controllerState29 : Option (FiniteVec 29 S)
  shaperQDRad : Option (FiniteVec 7 S)

omit [FloatCast D S] in
def FrankaPoseSample.holdArmTarget (sample : FrankaPoseSample D S) : Bool :=
  sample.statusFlags.testBit 1 || sample.statusFlags.testBit 3

omit [FloatCast D S] in
def captureSkew (timestampS : D) (sample : FrankaPoseSample D S) : D :=
  FloatArith.abs (sample.realtimeS.val - timestampS)

omit [FloatCast D S] in
/-- `min(..., key=skew)`: the first one with the least skew. -/
def nearestOf (timestampS : D) (first : FrankaPoseSample D S) (others : List (FrankaPoseSample D S)) :
    FrankaPoseSample D S :=
  others.foldl (fun best sample =>
    if captureSkew timestampS sample < captureSkew timestampS best then sample else best) first

omit [FloatCast D S] in
def nearestPose (samples : List (FrankaPoseSample D S)) (timestampS maximumSkewS : D) :
    Except PyException (FrankaPoseSample D S) :=
  match samples with
  | [] => .error (liveObservationError "Franka pose ring is empty")
  | first :: others =>
    let sample := nearestOf timestampS first others
    let skew := captureSkew timestampS sample
    if maximumSkewS < skew then
      .error (liveObservationError (s!"camera/Franka capture pose skew " ++
        s!"{FloatArith.fixedText 6 skew}s exceeds {FloatArith.fixedText 6 maximumSkewS}s"))
    else .ok sample

/-- What the projector is given for a camera sample at a capture pose. The arrays of the adapter
have the projector's shapes, and a rigid transform passes `_rigid` again. -/
def projectInput (camera : CameraSample D S) (rgbd : PolicyRgbdInputs S) (palm : Transform D) :
    ProjectInput D S where
  checked := .ok ()
  colorBgr := rgbd.colorBgr
  objectMask := rgbd.objectMask
  capturedAtS := camera.timestampS
  basePalmAtCapture := .ok palm.pose
  depthChecked := .ok ()
  depth := match rgbd.depth with
    | .metres depth => .metres depth
    | .raw depth => .raw depth camera.depthScaleMPerUnit
  frameId := camera.frameId

/-! ## Modes -/

inductive ObjectMaskMode where
  | guarded
  | guardedV2
  | guardedV1
  | legacy
  deriving DecidableEq, Repr

def ObjectMaskMode.text : ObjectMaskMode → String
  | .guarded => "guarded"
  | .guardedV2 => "guarded_v2"
  | .guardedV1 => "guarded_v1"
  | .legacy => "legacy"

end FrankaDeploy.LiveSnapshot
