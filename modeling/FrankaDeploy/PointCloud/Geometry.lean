import FrankaDeploy.Foundation.Python

/-! # Images, poses and samples

What `MaskedRGBDProjector` of `sim2real.observation.model` computes with: masks and their pixels,
rigid poses, the projector's configuration, and the samples that it selects from a depth image. The
order in which numpy sums a product of matrices is a parameter. -/

namespace FrankaDeploy.PointCloud

open FrankaDeploy.Foundation
open scoped FloatArith

variable {D S : Type} [FloatArith D] [FloatArith S] [FloatCast D S]

/-! ## Images -/

abbrev Pixel := ℕ × ℕ

abbrev Mask := Pixel → Bool

def allPixels (height width : ℕ) : List Pixel :=
  (List.range height).flatMap fun row => (List.range width).map fun column => (row, column)

def Mask.nonzero (height width : ℕ) (mask : Mask) : List Pixel := (allPixels height width).filter mask

theorem mem_allPixels {height width : ℕ} {p : Pixel} :
    p ∈ allPixels height width ↔ p.1 < height ∧ p.2 < width := by
  simp only [allPixels, List.mem_flatMap, List.mem_range, List.mem_map]
  constructor
  · rintro ⟨row, hrow, column, hcolumn, rfl⟩
    exact ⟨hrow, hcolumn⟩
  · rintro ⟨hrow, hcolumn⟩
    exact ⟨p.1, hrow, p.2, hcolumn, rfl⟩

theorem mem_nonzero {height width : ℕ} {mask : Mask} {p : Pixel} :
    p ∈ mask.nonzero height width ↔ (p.1 < height ∧ p.2 < width) ∧ mask p = true := by
  rw [Mask.nonzero, List.mem_filter, mem_allPixels]

def ofNat {F : Type} [FloatArith F] (n : ℕ) : F := FloatArith.ofRat (n : ℚ)

def lit {F : Type} [FloatArith F] (q : ℚ) : F := FloatArith.ofRat q

def meanIndex (indices : List ℕ) : D := ofNat indices.sum / ofNat indices.length

/-- `_mask_centroid_uv`: the mean column and the mean row. -/
def maskCentroidUv (height width : ℕ) (mask : Mask) : Option (D × D) :=
  match mask.nonzero height width with
  | [] => none
  | pixels => some (meanIndex (pixels.map (·.2)), meanIndex (pixels.map (·.1)))

/-! ## Poses -/

structure Numerics (D : Type) where
  dot : Vec 3 D → Vec 3 D → D
  norm : List D → D
  sqrt : D → D

structure Pose (D : Type) where
  rotation : Vec 3 (Vec 3 D)
  translation : Vec 3 D

def Pose.apply (numerics : Numerics D) (pose : Pose D) (point : Vec 3 D) : Vec 3 D := fun i =>
  numerics.dot point (pose.rotation i) + pose.translation i

def Pose.unapply (numerics : Numerics D) (pose : Pose D) (point : Vec 3 D) : Vec 3 D := fun i =>
  numerics.dot (fun j => point j - pose.translation j) fun j => pose.rotation j i

def vec3 {F : Type} (x y z : F) : Vec 3 F
  | 0 => x
  | 1 => y
  | 2 => z

def components {F : Type} (v : Vec 3 F) : List F := [v 0, v 1, v 2]

/-! ## Configuration -/

inductive TemporalFallback where
  | legacyStalePalm
  | motionCompensated
  deriving DecidableEq, Repr

/-- The configuration of a `MaskedRGBDProjector` for clouds of `n` points, with what its
constructor has checked. -/
structure ProjectorConfig (D : Type) [FloatArith D] (n : ℕ) where
  fx : D
  fy : D
  cx : D
  cy : D
  baseCamera : Pose D
  height : ℕ
  width : ℕ
  zMin : D
  zMax : D
  minimumValidPoints : ℕ
  withColor : Bool
  maximumMaskDepthDeviationM : Option D
  fixedSphereCompletionRadiusM : Option D
  supportPlane : Option (Vec 3 D × D)
  supportPlaneMinClearanceM : D
  temporalFallback : TemporalFallback
  temporalFallbackMaxStaleS : D
  temporalFallbackMaxStaleSteps : ℕ
  temporalFallbackMaxImageSpeedPxS : D
  points_valid : 1 ≤ minimumValidPoints ∧ minimumValidPoints ≤ n
  stale_finite : FloatArith.isFinite temporalFallbackMaxStaleS = true
  speed_finite : FloatArith.isFinite temporalFallbackMaxImageSpeedPxS = true

/-! ## Samples -/

/-- A selected pixel with its depth: an entry of `rows`, `columns` and `selected_depth_m`. -/
structure Sample (S : Type) where
  pixel : Pixel
  depthM : S

variable {n : ℕ} (numerics : Numerics D) (config : ProjectorConfig D n)

def cameraPoint (pixel : Pixel) (z : D) : Vec 3 D :=
  vec3 ((ofNat pixel.2 - config.cx) / config.fx * z) ((ofNat pixel.1 - config.cy) / config.fy * z) z

def basePoint (sample : Sample S) : Vec 3 D :=
  config.baseCamera.apply numerics (cameraPoint config sample.pixel (FloatCast.widen sample.depthM))

def palmPoint (palm : Pose D) (sample : Sample S) : Vec 3 S := fun i =>
  FloatCast.narrow (palm.unapply numerics (basePoint numerics config sample) i)

def signedHeight (plane : Vec 3 D × D) (point : Vec 3 D) : D := numerics.dot point plane.1 + plane.2

def aboveSupportPlane (sample : Sample S) : Bool :=
  match config.supportPlane with
  | none => true
  | some plane =>
    let point := basePoint numerics config sample
    let height := signedHeight numerics plane point
    point.allFinite && FloatArith.isFinite height && config.supportPlaneMinClearanceM < height

def filterPixelsAboveSupportPlane (samples : List (Sample S)) : List (Sample S) :=
  samples.filter (aboveSupportPlane numerics config)

/-- `np.median` of depths: the mean of the two in the middle for an even count. -/
def medianDepth (depths : List S) : S :=
  let sorted := depths.mergeSort fun x y => FloatArith.le x y
  let middle := sorted.length / 2
  if sorted.length % 2 = 1 then sorted.getD middle FloatArith.zero
  else (sorted.getD (middle - 1) FloatArith.zero + sorted.getD middle FloatArith.zero) / lit 2

def filterForeground (samples : List (Sample S)) : List (Sample S) :=
  match config.maximumMaskDepthDeviationM, samples with
  | some deviation, _ :: _ =>
    let median := medianDepth (samples.map (·.depthM))
    samples.filter fun sample =>
      FloatArith.abs (sample.depthM - median) ≤ (FloatCast.narrow deviation : S)
  | _, _ => samples

/-! ## Depth images -/

inductive DepthImage (D S : Type) where
  | metres (depth : Pixel → S)
  | raw (depth : Pixel → ℕ) (scale : D)

def DepthImage.at (image : DepthImage D S) (pixel : Pixel) : S :=
  match image with
  | .metres depth => depth pixel
  | .raw depth scale => ofNat (depth pixel) * FloatCast.narrow scale

def inDepthRange (depth : S) : Bool :=
  FloatArith.isFinite depth && (FloatCast.narrow config.zMin : S) < depth &&
    depth < (FloatCast.narrow config.zMax : S)

def selectSamples (mask : Mask) (image : DepthImage D S) : List (Sample S) :=
  ((mask.nonzero config.height config.width).map fun pixel => ⟨pixel, image.at pixel⟩).filter
    fun sample => inDepthRange config sample.depthM

end FrankaDeploy.PointCloud
