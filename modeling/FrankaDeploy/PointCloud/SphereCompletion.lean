import FrankaDeploy.PointCloud.Frames

/-! # Fixed-sphere completion

`_complete_fixed_sphere_depth`: where the measured depths fit a sphere of known radius, the samples
are replaced by the near intersections of the viewing rays with that sphere. The robust fit is a
parameter; what it returns is not trusted. -/

namespace FrankaDeploy.PointCloud

open FrankaDeploy.Foundation FrankaDeploy.Foundation.Program
open scoped FloatArith

variable {D S : Type} [FloatArith D] [FloatArith S] [FloatCast D S]

/-- `SphereFit`, as far as the completion reads it. -/
structure SphereFit (D : Type) where
  valid : Bool
  residualP90M : D
  shellInlierFraction : D
  centerM : Vec 3 D

/-! ## Geometry -/

def intFloor (x : D) : Except PyException ℤ :=
  match FloatArith.toRat? x with
  | some q => .ok ⌊q⌋
  | none =>
    if isNan x then .error ⟨.ordinary, "ValueError", "cannot convert float NaN to integer"⟩
    else .error ⟨.ordinary, "OverflowError", "cannot convert float infinity to integer"⟩

def intCeil (x : D) : Except PyException ℤ := (intFloor (-x)).map (- ·)

def addVec (x y : Vec 3 D) : Vec 3 D := fun i => x i + y i

def subVec (x y : Vec 3 D) : Vec 3 D := fun i => x i - y i

structure Window where
  top : ℤ
  bottom : ℤ
  left : ℤ
  right : ℤ

def Window.holds (window : Window) (pixel : Pixel) : Bool :=
  window.top ≤ pixel.1 && pixel.1 < window.bottom && window.left ≤ pixel.2 && pixel.2 < window.right

def nearby (radius : ℕ) (p q : Pixel) : Bool :=
  p.1 ≤ q.1 + radius && q.1 ≤ p.1 + radius && p.2 ≤ q.2 + radius && q.2 ≤ p.2 + radius

/-- `_dilate_binary_mask` of the window of a mask. -/
def dilated (height width : ℕ) (mask : Mask) (window : Window) (radius : ℕ) (pixel : Pixel) : Bool :=
  (mask.nonzero height width).any fun q => window.holds q && nearby radius pixel q

variable {n : ℕ} (numerics : Numerics D) (config : ProjectorConfig D n)

def rayDirection (pixel : Pixel) : Vec 3 D :=
  vec3 ((ofNat pixel.2 - config.cx) / config.fx) ((ofNat pixel.1 - config.cy) / config.fy)
    FloatArith.one

/-- The depth of the near intersection of a viewing ray with the sphere; `none` without one. -/
def nearIntersection (center : Vec 3 D) (radius : D) (pixel : Pixel) : Option D :=
  let direction := rayDirection config pixel
  let a := direction 0 * direction 0 + direction 1 * direction 1 + direction 2 * direction 2
  let b := -lit 2 * numerics.dot direction center
  let c := numerics.dot center center - radius * radius
  let discriminant := b * b - lit 4 * a * c
  if FloatArith.zero ≤ discriminant then
    some ((-b - numerics.sqrt (npMaximum discriminant FloatArith.zero)) / (lit 2 * a))
  else none

def sphereWindow (center : Vec 3 D) (radius : D) : Except PyException Window := do
  let u := config.fx * center 0 / center 2 + config.cx
  let v := config.fy * center 1 / center 2 + config.cy
  let projectedRadius := FloatArith.stdMax config.fx config.fy * radius /
    FloatArith.stdMax (center 2 - radius) (lit (1 / 1000000))
  let halfExtent := (← intCeil (projectedRadius * lit (115 / 100))) + 2
  let left := max 0 ((← intFloor u) - halfExtent)
  let right := min (config.width : ℤ) ((← intCeil u) + halfExtent + 1)
  let top := max 0 ((← intFloor v) - halfExtent)
  let bottom := min (config.height : ℤ) ((← intCeil v) + halfExtent + 1)
  if bottom < top ∨ right < left then
    .error ⟨.ordinary, "ValueError", "negative dimensions are not allowed"⟩
  else .ok ⟨top, bottom, left, right⟩

def inCompletedRange (depth : D) : Bool :=
  FloatArith.isFinite depth && config.zMin < depth && depth < config.zMax

def completedDepth (mask : Mask) (window : Window) (center : Vec 3 D) (radius : D) (pixel : Pixel) :
    Option D :=
  if window.holds pixel && dilated config.height config.width mask window 8 pixel then
    (nearIntersection numerics config center radius pixel).filter (inCompletedRange config)
  else none

def completedSamples (mask : Mask) (window : Window) (center : Vec 3 D) (radius : D) :
    List (Pixel × D) :=
  (allPixels config.height config.width).filterMap fun pixel =>
    (completedDepth numerics config mask window center radius pixel).map fun depth => (pixel, depth)

/-- The offset from the fitted centre to the centre of the silhouette: half the sums of the first
and last columns and rows. -/
def silhouetteOffset (pixels : List Pixel) (center : Vec 3 D) : Vec 3 D :=
  let middle (indices : List ℕ) : D :=
    lit (1 / 2) * (ofNat (indices.min?.getD 0) + ofNat (indices.max?.getD 0))
  vec3 ((middle (pixels.map (·.2)) - config.cx) / config.fx * center 2 - center 0)
    ((middle (pixels.map (·.1)) - config.cy) / config.fy * center 2 - center 1) FloatArith.zero

/-! ## Completion -/

def fitAccepted (fit : SphereFit D) : Bool :=
  fit.valid && FloatArith.isFinite fit.residualP90M && !(lit (20 / 1000) < fit.residualP90M : Bool) &&
    !(fit.shellInlierFraction < lit (35 / 100) : Bool)

/-- The programs of a projector; they emit what `E` lists. -/
abbrev ProjectorM (D S : Type) (n : ℕ) (E : Type) := Program (ProjectorState D S n) E PyException

variable {E : Type}

/-- The centre, with the offset that the first accepted silhouette fixes; `none` where the two
centres disagree. -/
def anchoredCenter (pixels : List Pixel) (center : Vec 3 D) :
    ProjectorM D S n E (Option (Vec 3 D)) := do
  let s ← read
  match s.sphereCenterCameraOffset with
  | some offset => ret (some (addVec center offset))
  | none =>
    let offset := silhouetteOffset config pixels center
    if lit (20 / 1000) < numerics.norm (components offset) then ret none
    else do
      update fun s => { s with sphereCenterCameraOffset := some offset }
      ret (some (addVec center offset))

def jumped (lastCenter : Option (Vec 3 D)) (center : Vec 3 D) : Bool :=
  match lastCenter with
  | none => false
  | some last => lit (50 / 1000) < numerics.norm (components (subVec center last))

/-- The samples on the sphere; `none` where there are too few. -/
def sphereSamples (mask : Mask) (radius : D) (center : Vec 3 D) :
    ProjectorM D S n E (Option (List (Sample S))) := do
  let window ← ofExcept (sphereWindow config center radius)
  let completed := completedSamples numerics config mask window center radius
  if completed.length < config.minimumValidPoints then ret none
  else do
    update fun s =>
      { s with
        lastEffectiveObjectMask := some fun pixel => (completed.map (·.1)).contains pixel
        lastCompletedSphereCenterCamera := some center
        lastSphereCompletionApplied := true }
    ret (some (completed.map fun (pixel, depth) => ⟨pixel, FloatCast.narrow depth⟩))

def completeFixedSphereDepth (fit : List (Vec 3 D) → D → SphereFit D) (mask : Mask)
    (reliable : List (Sample S)) : ProjectorM D S n E (List (Sample S)) := do
  update fun s => { s with lastSphereCompletionApplied := false }
  match config.fixedSphereCompletionRadiusM with
  | none => ret reliable
  | some radius =>
    if reliable.length < 16 then ret reliable
    else do
      let fitted := fit (reliable.map fun sample =>
        cameraPoint config sample.pixel (FloatCast.widen sample.depthM)) radius
      if !fitAccepted fitted then ret reliable
      else do
        let pixels := mask.nonzero config.height config.width
        if pixels.length < config.minimumValidPoints then ret reliable
        else do
          match ← anchoredCenter numerics config pixels fitted.centerM with
          | none => ret reliable
          | some center => do
            if jumped numerics (← read).lastCompletedSphereCenterCamera center then ret reliable
            else do
              match ← sphereSamples numerics config mask radius center with
              | none => ret reliable
              | some samples => ret samples

end FrankaDeploy.PointCloud
