import FrankaDeploy.PointCloud.SphereCompletion

/-! # The projector

`MaskedRGBDProjector.project`: the samples of the current frame give a fresh cloud; with too few of
them the latest fresh cloud is returned as it is, or moved to the centroid of the current mask. -/

namespace FrankaDeploy.PointCloud

open FrankaDeploy.Foundation FrankaDeploy.Foundation.Program
open scoped FloatArith

variable {D S : Type} [FloatArith D] [FloatArith S] [FloatCast D S] {n : ℕ} {E : Type}

/-! ## Input -/

/-- The arguments of `project`, with the outcomes of the checks of their shapes and of the pose. -/
structure ProjectInput (D S : Type) where
  checked : Except PyException Unit
  colorBgr : Pixel → Vec 3 ℕ
  objectMask : Mask
  capturedAtS : D
  basePalmAtCapture : Except PyException (Pose D)
  depthChecked : Except PyException Unit
  depth : DepthImage D S
  frameId : ℤ

def valueError (message : String) : PyException := ⟨.ordinary, "ValueError", message⟩

/-- The check of `depth_scale_m_per_unit`. -/
def checkedScale (image : DepthImage D S) : Except PyException Unit :=
  match image with
  | .metres _ => .ok ()
  | .raw _ scale =>
    if !FloatArith.isFinite scale ∨ scale ≤ FloatArith.zero then
      .error (valueError "depth_scale_m_per_unit must be finite and positive")
    else .ok ()

section Project

variable (numerics : Numerics D) (fit : List (Vec 3 D) → D → SphereFit D)
  (config : ProjectorConfig D n)

/-! ## Fallback -/

def zeroCloud : Cloud S n where
  xyz := fun _ _ => FloatArith.zero
  rgb := if config.withColor then some fun _ _ => FloatArith.zero else none

def invalidFrame (timestamp : D) (frameId : ℤ) (sourceCount : ℕ) (status : Status) :
    PolicyPointFrame D S n where
  xyzrgbPalm := zeroCloud config
  valid := fun _ => FloatArith.zero
  capturedAtS := timestamp
  frameId := frameId
  sourceValidPoints := sourceCount
  status := status
  measuredAtS := none
  measuredFrameId := none
  fallbackAgeS := FloatArith.zero
  fallbackSteps := 0

def displacementPx (previous current : Mask) : Option (D × D) :=
  match maskCentroidUv config.height config.width current,
    maskCentroidUv config.height config.width previous with
  | some (u, v), some (u', v') => some (u - u', v - v')
  | _, _ => none

def imageSpeed (displacement : D × D) (ageS : D) : D :=
  numerics.norm [displacement.1, displacement.2] / ageS

/-- A selected point of the latest fresh cloud, moved by the displacement at its depth and expressed
in the current palm frame. -/
def compensatedPoint (latest : LatestGood D S n) (displacement : D × D) (palm : Pose D)
    (i : Fin n) : Vec 3 D :=
  let deltaCamera := vec3 (displacement.1 * latest.depthMedianM / config.fx)
    (displacement.2 * latest.depthMedianM / config.fy) FloatArith.zero
  let deltaBase : Vec 3 D := fun j => numerics.dot deltaCamera (config.baseCamera.rotation j)
  let previousXyzBase := latest.basePalm.apply numerics fun j =>
    FloatCast.widen (latest.frame.xyzrgbPalm.xyz i j)
  palm.unapply numerics (addVec previousXyzBase deltaBase)

def selectedPoint (frame : PolicyPointFrame D S n) (i : Fin n) : Bool :=
  (lit (1 / 2) : S) < frame.valid i

/-- **The compensated cloud**, of the latest fresh one, the displacement of the centroid and the
current pose. -/
def compensatedCloud (latest : LatestGood D S n) (displacement : D × D) (palm : Pose D) :
    Cloud S n :=
  { latest.frame.xyzrgbPalm with
    xyz := fun i =>
      if selectedPoint latest.frame i then fun j =>
        FloatCast.narrow (compensatedPoint numerics config latest displacement palm i j)
      else latest.frame.xyzrgbPalm.xyz i }

def compensationRejected (latest : LatestGood D S n) (displacement : D × D) (palm : Pose D)
    (ageS : D) (nextStep : ℕ) : Bool :=
  !FloatArith.isFinite ageS || ageS ≤ FloatArith.zero || config.temporalFallbackMaxStaleS < ageS ||
    config.temporalFallbackMaxStaleSteps < nextStep ||
    config.temporalFallbackMaxImageSpeedPxS < imageSpeed numerics displacement ageS ||
    !FloatArith.isFinite latest.depthMedianM || !(config.zMin < latest.depthMedianM : Bool) ||
    !(latest.depthMedianM < config.zMax : Bool) ||
    !((List.finRange n).any (selectedPoint latest.frame)) ||
    !((List.finRange n).all fun i => !selectedPoint latest.frame i ||
      (compensatedPoint numerics config latest displacement palm i).allFinite)

def motionCompensatedPointFrame (latest : LatestGood D S n) (steps : ℕ) (currentMask : Mask)
    (currentPalm : Pose D) (timestamp : D) (frameId : ℤ) (sourceCount : ℕ) :
    Option (PolicyPointFrame D S n) :=
  match displacementPx config latest.inputObjectMask currentMask with
  | none => none
  | some displacement =>
    let ageS := timestamp - latest.frame.capturedAtS
    let nextStep := steps + 1
    if compensationRejected numerics config latest displacement currentPalm ageS nextStep then none
    else some
      { xyzrgbPalm := compensatedCloud numerics config latest displacement currentPalm
        valid := latest.frame.valid
        capturedAtS := timestamp
        frameId := frameId
        sourceValidPoints := sourceCount
        status := .motionCompensated
        measuredAtS := some latest.frame.capturedAtS
        measuredFrameId := some latest.frame.frameId
        fallbackAgeS := ageS
        fallbackSteps := nextStep }

def setEffectiveMask (mask : Option Mask) (provenance : Provenance D) : ProjectorM D S n E Unit :=
  update fun s =>
    { s with lastEffectiveObjectMask := mask, lastEffectiveObjectMaskProvenance := provenance }

def stalePalmFrame (latest : LatestGood D S n) (sourceCount : ℕ) : PolicyPointFrame D S n where
  xyzrgbPalm := latest.frame.xyzrgbPalm
  valid := latest.frame.valid
  capturedAtS := latest.frame.capturedAtS
  frameId := latest.frame.frameId
  sourceValidPoints := sourceCount
  status := .stalePalm
  measuredAtS := some latest.frame.capturedAtS
  measuredFrameId := some latest.frame.frameId
  fallbackAgeS := FloatArith.zero
  fallbackSteps := 0

/-- What `project` does with too few samples. -/
def fallbackFrame (input : ProjectInput D S) (palm : Pose D) (sourceCount : ℕ) :
    ProjectorM D S n E (PolicyPointFrame D S n) := do
  let s ← read
  match s.latestGood with
  | none => do
    setEffectiveMask none (noProvenance "unavailable_invalid_too_few_points")
    ret (invalidFrame config input.capturedAtS input.frameId sourceCount .invalidTooFewPoints)
  | some latest =>
    match config.temporalFallback with
    | .motionCompensated =>
      match motionCompensatedPointFrame numerics config latest s.motionCompensatedSteps
          input.objectMask palm input.capturedAtS input.frameId sourceCount with
      | some frame => do
        update fun s => { s with motionCompensatedSteps := s.motionCompensatedSteps + 1 }
        setEffectiveMask (some input.objectMask) (maskProvenance config.height config.width
          input.objectMask "current_rgb_mask_motion_compensated_from_previous_depth"
          input.frameId input.capturedAtS)
        ret frame
      | none => do
        setEffectiveMask none (noProvenance "unavailable_motion_fallback_rejected")
        ret (invalidFrame config input.capturedAtS input.frameId sourceCount
          .invalidMotionFallbackRejected)
    | .legacyStalePalm => do
      setEffectiveMask (some latest.effectiveObjectMask) (maskProvenance config.height config.width
        latest.effectiveObjectMask "retained_previous_fresh_projector_mask"
        latest.frame.frameId latest.frame.capturedAtS)
      ret (stalePalmFrame latest sourceCount)

/-! ## Fresh frames -/

/-- `np.linspace(0, count - 1, n).astype(np.int64)`. -/
def linspaceIndex (D : Type) [FloatArith D] (count n i : ℕ) : ℕ :=
  if n ≤ 1 then 0
  else if i + 1 = n then count - 1
  else
    let position : D := ofNat i * (ofNat (count - 1) / ofNat (n - 1))
    match FloatArith.toRat? position with
    | some q => ⌊q⌋.toNat
    | none => 0

def resampled (D : Type) [FloatArith D] (n : ℕ) (samples : List (Sample S)) :
    Except PyException (List (Sample S)) :=
  if n < samples.length then
    (List.range n).mapM fun i =>
      match samples[linspaceIndex D samples.length n i]? with
      | some sample => .ok sample
      | none => .error ⟨.ordinary, "IndexError", "index is out of bounds"⟩
  else .ok samples

def pixelColor (D : Type) [FloatArith D] [FloatCast D S] (color : Pixel → Vec 3 ℕ) (pixel : Pixel) :
    Vec 3 S := fun j =>
  FloatCast.narrow (ofNat (color pixel j.rev) / ofNat 255 : D)

def sampleCloud (input : ProjectInput D S) (palm : Pose D) (samples : List (Sample S)) : Cloud S n where
  xyz := fun i =>
    match samples[(i : ℕ)]? with
    | some sample => palmPoint numerics config palm sample
    | none => fun _ => FloatArith.zero
  rgb :=
    if config.withColor then
      some fun i =>
        match samples[(i : ℕ)]? with
        | some sample => pixelColor D input.colorBgr sample.pixel
        | none => fun _ => FloatArith.zero
    else none

def freshFrame (input : ProjectInput D S) (palm : Pose D) (sourceCount : ℕ)
    (samples : List (Sample S)) : PolicyPointFrame D S n where
  xyzrgbPalm := sampleCloud numerics config input palm samples
  valid := fun i => if (i : ℕ) < samples.length then FloatArith.one else FloatArith.zero
  capturedAtS := input.capturedAtS
  frameId := input.frameId
  sourceValidPoints := sourceCount
  status := .fresh
  measuredAtS := some input.capturedAtS
  measuredFrameId := some input.frameId
  fallbackAgeS := FloatArith.zero
  fallbackSteps := 0

/-- What `project` does with enough samples: the frame is the latest fresh one. -/
def projectFresh (input : ProjectInput D S) (palm : Pose D) (samples : List (Sample S)) :
    ProjectorM D S n E (PolicyPointFrame D S n) := do
  let shown ← ofExcept (resampled D n samples)
  let frame := freshFrame numerics config input palm samples.length shown
  match (← read).lastEffectiveObjectMask with
  | none =>
    fail ⟨.ordinary, "RuntimeError", "fresh policy cloud has no effective object mask"⟩
  | some effectiveMask => do
    update fun s =>
      { s with
        lastEffectiveObjectMaskProvenance := maskProvenance config.height config.width effectiveMask
          (if s.lastSphereCompletionApplied then "current_frame_fixed_sphere_completion_mask"
          else "current_frame_projector_input_from_provider_mask")
          input.frameId input.capturedAtS
        latestGood := some
          { frame := frame
            effectiveObjectMask := effectiveMask
            inputObjectMask := input.objectMask
            basePalm := palm
            depthMedianM := FloatCast.widen (medianDepth (shown.map (·.depthM))) }
        motionCompensatedSteps := 0 }
    ret frame

def project (input : ProjectInput D S) : ProjectorM D S n E (PolicyPointFrame D S n) := do
  ofExcept input.checked
  check (FloatArith.isFinite input.capturedAtS = false) (valueError "captured_at_s must be finite")
  let palm ← ofExcept input.basePalmAtCapture
  update fun s => { s with lastEffectiveObjectMask := some input.objectMask }
  ofExcept input.depthChecked
  ofExcept (checkedScale input.depth)
  let measured := selectSamples config input.objectMask input.depth
  let reliable := filterForeground config (filterPixelsAboveSupportPlane numerics config measured)
  let completed ← completeFixedSphereDepth numerics config fit input.objectMask reliable
  let samples := filterPixelsAboveSupportPlane numerics config completed
  if samples.length < config.minimumValidPoints then
    fallbackFrame numerics config input palm samples.length
  else projectFresh numerics config input palm samples

/-! ## Runs -/

/-- A call of `project`: what it was given, what it gave, and the effective mask after it. -/
structure Projection (D S : Type) (n : ℕ) where
  input : ProjectInput D S
  result : Except PyException (PolicyPointFrame D S n)
  effectiveMask : Option Mask

def projectAll : List (ProjectInput D S) → ProjectorM D S n (Projection D S n) Unit
  | [] => ret ()
  | input :: inputs => do
    let result ← attempt (project numerics fit config input)
    emit ⟨input, result, (← read).lastEffectiveObjectMask⟩
    projectAll inputs

end Project

end FrankaDeploy.PointCloud
