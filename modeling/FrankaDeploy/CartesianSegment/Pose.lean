import FrankaDeploy.Foundation.FloatArith

/-! # Poses and their interpolation

The rigid transforms of `cartesian_segment.cpp`: validity, distances, and the minimum-jerk
interpolation between two of them. `std::sqrt`, `std::acos` and `std::sin` are a parameter. -/

namespace FrankaDeploy.CartesianSegment

open FrankaDeploy.Foundation
open FloatArith (ofRat isFinite zero one stdMax stdMin stdClamp)
open scoped FloatArith

/-- **The functions of the mathematical library** that the geometry calls. -/
structure Libm (F : Type) where
  sqrt : F → F
  acos : F → F
  sin : F → F

variable {F : Type} [FloatArith F]

def kAbsoluteTolerance : ℚ := 1 / 10 ^ 6

def kPoseTolerance : ℚ := 1 / 10 ^ 6

/-- `std::numeric_limits<double>::epsilon()`. -/
def epsilon : ℚ := 1 / 2 ^ 52

abbrev Pose (F : Type) := Vec 16 F

def poseIndex (row column : Fin 4) : Fin 16 := ⟨column * 4 + row, by omega⟩

/-- `invalid_contract`: the text of the exception. -/
def invalidContract {α : Type} (message : String) : Except String α :=
  .error ("native Cartesian segment contract: " ++ message)

/-! ## Rigid transforms -/

def rotationDeterminant (pose : Pose F) : F :=
  let a := pose (poseIndex 0 0)
  let b := pose (poseIndex 0 1)
  let c := pose (poseIndex 0 2)
  let d := pose (poseIndex 1 0)
  let e := pose (poseIndex 1 1)
  let f := pose (poseIndex 1 2)
  let g := pose (poseIndex 2 0)
  let h := pose (poseIndex 2 1)
  let i := pose (poseIndex 2 2)
  a * (e * i - f * h) - b * (d * i - f * g) + c * (d * h - e * g)

def columnDot (pose : Pose F) (first second : Fin 3) : F :=
  (List.finRange 3).foldl
    (fun dot row => dot + pose (poseIndex row.castSucc first.castSucc) *
      pose (poseIndex row.castSucc second.castSucc)) zero

/-- **`valid_pose`**: a finite rigid transform. -/
def validPose (pose : Pose F) : Bool :=
  let tolerance := ofRat kPoseTolerance
  pose.allFinite &&
    !(decide (FloatArith.abs (pose 3) > tolerance) ||
      decide (FloatArith.abs (pose 7) > tolerance) ||
      decide (FloatArith.abs (pose 11) > tolerance) ||
      decide (FloatArith.abs (pose 15 - one) > tolerance)) &&
    (List.finRange 3).all (fun first => (List.finRange 3).all fun second =>
      let expected := if first = second then one else zero
      !decide (FloatArith.abs (columnDot pose first second - expected) > tolerance)) &&
    decide (FloatArith.abs (rotationDeterminant pose - one) ≤ tolerance)

def translation (pose : Pose F) : Vec 3 F := fun i => pose (poseIndex i.castSucc 3)

/-! ## Quaternions -/

structure Quaternion (F : Type) where
  w : F
  x : F
  y : F
  z : F

section Geometry

variable (libm : Libm F)

def normalized (value : Quaternion F) : Except String (Quaternion F) :=
  let norm := libm.sqrt (value.w * value.w + value.x * value.x + value.y * value.y +
    value.z * value.z)
  if !isFinite norm ∨ norm ≤ ofRat epsilon then
    invalidContract "rotation produced an invalid quaternion"
  else .ok ⟨value.w / norm, value.x / norm, value.y / norm, value.z / norm⟩

/-- The singularity check of the branches of `quaternion_from_pose` that divide by a diagonal
term. -/
def requireRegular (scale : F) : Except String Unit :=
  if scale ≤ ofRat epsilon then invalidContract "rotation quaternion branch was singular"
  else .ok ()

/-- **`quaternion_from_pose`.** The branch is that of the largest diagonal term unless the trace is
positive. -/
def quaternionFromPose (pose : Pose F) : Except String (Quaternion F) :=
  let r (row column : Fin 4) := pose (poseIndex row column)
  let quarter := ofRat (1 / 4)
  let two := ofRat 2
  let trace := r 0 0 + r 1 1 + r 2 2
  if trace > zero then
    let scale := two * libm.sqrt (trace + one)
    normalized libm ⟨quarter * scale, (r 2 1 - r 1 2) / scale, (r 0 2 - r 2 0) / scale,
      (r 1 0 - r 0 1) / scale⟩
  else if r 0 0 > r 1 1 ∧ r 0 0 > r 2 2 then
    let scale := two * libm.sqrt (stdMax zero (one + r 0 0 - r 1 1 - r 2 2))
    requireRegular scale >>= fun _ =>
      normalized libm ⟨(r 2 1 - r 1 2) / scale, quarter * scale, (r 0 1 + r 1 0) / scale,
        (r 0 2 + r 2 0) / scale⟩
  else if r 1 1 > r 2 2 then
    let scale := two * libm.sqrt (stdMax zero (one + r 1 1 - r 0 0 - r 2 2))
    requireRegular scale >>= fun _ =>
      normalized libm ⟨(r 0 2 - r 2 0) / scale, (r 0 1 + r 1 0) / scale, quarter * scale,
        (r 1 2 + r 2 1) / scale⟩
  else
    let scale := two * libm.sqrt (stdMax zero (one + r 2 2 - r 0 0 - r 1 1))
    requireRegular scale >>= fun _ =>
      normalized libm ⟨(r 1 0 - r 0 1) / scale, (r 0 2 + r 2 0) / scale,
        (r 1 2 + r 2 1) / scale, quarter * scale⟩

def quaternionDot (first second : Quaternion F) : F :=
  first.w * second.w + first.x * second.x + first.y * second.y + first.z * second.z

/-- `rotation_error`: the angle between two rotations. -/
def rotationError (first second : Pose F) : Except String F := do
  let firstQ ← quaternionFromPose libm first
  let secondQ ← quaternionFromPose libm second
  let dot := stdClamp (FloatArith.abs (quaternionDot firstQ secondQ)) zero one
  return ofRat 2 * libm.acos dot

def translationError (first second : Pose F) : F :=
  let dx := first 12 - second 12
  let dy := first 13 - second 13
  let dz := first 14 - second 14
  libm.sqrt (dx * dx + dy * dy + dz * dz)

/-- The combination of two quaternions that `slerp` normalizes. -/
def Quaternion.combine (firstWeight secondWeight : F) (first second : Quaternion F) :
    Quaternion F where
  w := firstWeight * first.w + secondWeight * second.w
  x := firstWeight * first.x + secondWeight * second.x
  y := firstWeight * first.y + secondWeight * second.y
  z := firstWeight * first.z + secondWeight * second.z

def Quaternion.neg (q : Quaternion F) : Quaternion F := ⟨-q.w, -q.x, -q.y, -q.z⟩

/-- **`slerp`**: along the shorter arc, linearly when the two are close. -/
def slerp (first second : Quaternion F) (alpha : F) : Except String (Quaternion F) :=
  let dot := quaternionDot first second
  let second := if dot < zero then second.neg else second
  let dot := stdClamp (if dot < zero then -dot else dot) (ofRat (-1)) one
  if dot > ofRat (9995 / 10000) then
    normalized libm ⟨first.w + alpha * (second.w - first.w),
      first.x + alpha * (second.x - first.x), first.y + alpha * (second.y - first.y),
      first.z + alpha * (second.z - first.z)⟩
  else
    let angle := libm.acos dot
    let sine := libm.sin angle
    if FloatArith.abs sine ≤ ofRat epsilon then .ok first
    else
      normalized libm (Quaternion.combine (libm.sin ((one - alpha) * angle) / sine)
        (libm.sin (alpha * angle) / sine) first second)

/-- `quaternion_to_pose_rotation`: the entries of the rotation, and the others of `output`. -/
def quaternionToPoseRotation (q : Quaternion F) (output : Pose F) : Pose F :=
  let two := ofRat 2
  let xx := q.x * q.x
  let yy := q.y * q.y
  let zz := q.z * q.z
  let xy := q.x * q.y
  let xz := q.x * q.z
  let yz := q.y * q.z
  let wx := q.w * q.x
  let wy := q.w * q.y
  let wz := q.w * q.z
  let entries : List (Fin 16 × F) :=
    [(poseIndex 0 0, one - two * (yy + zz)), (poseIndex 1 0, two * (xy + wz)),
      (poseIndex 2 0, two * (xz - wy)), (poseIndex 0 1, two * (xy - wz)),
      (poseIndex 1 1, one - two * (xx + zz)), (poseIndex 2 1, two * (yz + wx)),
      (poseIndex 0 2, two * (xz + wy)), (poseIndex 1 2, two * (yz - wx)),
      (poseIndex 2 2, one - two * (xx + yy))]
  fun i => (entries.lookup i).getD (output i)

/-! ## Interpolation -/

def minimumJerkBlend (alpha : F) : F :=
  let bounded := stdClamp alpha zero one
  bounded * bounded * bounded *
    (ofRat 10 + bounded * (ofRat (-15) + ofRat 6 * bounded))

end Geometry

/-- **`PreparedInterpolation`**: the two ends and their quaternions. -/
structure PreparedInterpolation (F : Type) where
  start : Pose F
  target : Pose F
  startQ : Quaternion F
  targetQ : Quaternion F

section Geometry

variable (libm : Libm F)

/-- The constructor of `PreparedInterpolation`. -/
def PreparedInterpolation.make (start target : Pose F) :
    Except String (PreparedInterpolation F) := do
  let startQ ← quaternionFromPose libm start
  let targetQ ← quaternionFromPose libm target
  return ⟨start, target, startQ, targetQ⟩

/-- **`PreparedInterpolation::sample`.** -/
def PreparedInterpolation.sample (interpolation : PreparedInterpolation F) (alpha : F) :
    Except String (Pose F) := do
  let blend := minimumJerkBlend alpha
  let q ← slerp libm interpolation.startQ interpolation.targetQ blend
  let rotation := quaternionToPoseRotation q fun _ => zero
  let start := interpolation.start
  let target := interpolation.target
  let entries : List (Fin 16 × F) :=
    [(12, start 12 + blend * (target 12 - start 12)),
      (13, start 13 + blend * (target 13 - start 13)),
      (14, start 14 + blend * (target 14 - start 14)), (15, one)]
  return fun i => (entries.lookup i).getD (rotation i)

theorem PreparedInterpolation.make_spec {start target : Pose F}
    {interpolation : PreparedInterpolation F}
    (h : PreparedInterpolation.make libm start target = .ok interpolation) :
    interpolation.start = start ∧ interpolation.target = target := by
  unfold PreparedInterpolation.make at h
  cases hs : quaternionFromPose libm start with
  | error e =>
    rw [hs] at h
    cases h
  | ok startQ =>
    rw [hs] at h
    cases ht : quaternionFromPose libm target with
    | error e =>
      rw [ht] at h
      cases h
    | ok targetQ =>
      rw [ht] at h
      cases h
      exact ⟨rfl, rfl⟩

end Geometry

end FrankaDeploy.CartesianSegment
