import FrankaDeploy.PointCloud.Geometry
import FrankaDeploy.Foundation.Program

/-! # Policy point frames

What a projector returns and what it keeps between frames. -/

namespace FrankaDeploy.PointCloud

open FrankaDeploy.Foundation FrankaDeploy.Foundation.Program

/-! ## Frames -/

inductive Status where
  | fresh
  | stalePalm
  | motionCompensated
  | invalidTooFewPoints
  | invalidMotionFallbackRejected
  deriving DecidableEq, Repr

/-- `xyzrgb_palm`: the coordinates of the points, and their colours in XYZRGB mode. -/
structure Cloud (S : Type) (n : ℕ) where
  xyz : Vec n (Vec 3 S)
  rgb : Option (Vec n (Vec 3 S))

structure PolicyPointFrame (D S : Type) (n : ℕ) where
  xyzrgbPalm : Cloud S n
  valid : Vec n S
  capturedAtS : D
  frameId : ℤ
  sourceValidPoints : ℕ
  status : Status
  measuredAtS : Option D
  measuredFrameId : Option ℤ
  fallbackAgeS : D
  fallbackSteps : ℕ

/-- `ProjectorEffectiveMaskProvenance`. -/
structure Provenance (D : Type) where
  kind : String
  sourceFrameId : Option ℤ
  sourceCapturedAtS : Option D
  areaPx : ℕ
  bboxXyxy : Option (ℕ × ℕ × ℕ × ℕ)

/-- `_projector_mask_provenance` of a mask. -/
def maskProvenance {D : Type} (height width : ℕ) (mask : Mask) (kind : String) (frameId : ℤ)
    (capturedAtS : D) : Provenance D :=
  let pixels := mask.nonzero height width
  let columns := pixels.map (·.2)
  let rows := pixels.map (·.1)
  { kind := kind
    sourceFrameId := some frameId
    sourceCapturedAtS := some capturedAtS
    areaPx := pixels.length
    bboxXyxy := do
      some (← columns.min?, ← rows.min?, ← columns.max?, ← rows.max?) }

/-- `_projector_mask_provenance` without a mask. -/
def noProvenance {D : Type} (kind : String) : Provenance D := ⟨kind, none, none, 0, none⟩

/-! ## State -/

structure LatestGood (D S : Type) (n : ℕ) where
  frame : PolicyPointFrame D S n
  effectiveObjectMask : Mask
  inputObjectMask : Mask
  basePalm : Pose D
  depthMedianM : D

/-- The state of a `MaskedRGBDProjector`. -/
structure ProjectorState (D S : Type) (n : ℕ) where
  latestGood : Option (LatestGood D S n)
  motionCompensatedSteps : ℕ
  lastEffectiveObjectMask : Option Mask
  lastEffectiveObjectMaskProvenance : Provenance D
  lastSphereCompletionApplied : Bool
  sphereCenterCameraOffset : Option (Vec 3 D)
  lastCompletedSphereCenterCamera : Option (Vec 3 D)

def ProjectorState.init {D S : Type} {n : ℕ} : ProjectorState D S n :=
  ⟨none, 0, none, noProvenance "unavailable_before_first_projection", false, none, none⟩

end FrankaDeploy.PointCloud
