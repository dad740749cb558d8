import FrankaDeploy.Rh56.Feedback
import Mathlib

/-! # Physical tracking of the hand

What `robot_control/rh56/watchdog.py` keeps for each axis to see whether a committed target moves
the hand: `_register_physical_tracking_target` opens and withdraws the challenges of the axes,
`_cache_feedback` and `_evaluate_physical_tracking` resolve them, and `physical_tracking_snapshot`
gives the verdict. -/

namespace FrankaDeploy.Rh56Owner

open FrankaDeploy.Foundation FrankaDeploy.Rh56
open scoped FloatArith

def ownerError (message : String) : PyException := ⟨.ordinary, "RH56WatchdogOwnerError", message⟩

/-! ## Constants -/

/-- **The constants of the tracking**, with what `__init__` checks. -/
structure TrackingConfig (D : Type) [FloatArith D] where
  significantGapUnits : ℤ
  minProgressUnits : ℤ
  contactForceDeltaG : ℤ
  contactForceAbsoluteG : ℤ
  timeoutS : D
  gap_within : 1 ≤ significantGapUnits ∧ significantGapUnits ≤ 1000
  progress_within : 1 ≤ minProgressUnits ∧ minProgressUnits < significantGapUnits
  force_within : 1 ≤ contactForceDeltaG ∧ contactForceDeltaG ≤ contactForceAbsoluteG ∧
    contactForceAbsoluteG ≤ 32767
  timeout_pos : FloatArith.isFinite timeoutS = true ∧ ¬timeoutS ≤ FloatArith.zero

variable {D : Type} [FloatArith D]

/-- `_tracking_position_min_progress_units`. -/
def TrackingConfig.positionMinProgressUnits (C : TrackingConfig D) : ℤ := max 5 C.minProgressUnits

/-! ## Axes -/

/-- **What is kept for an axis.** -/
structure AxisTracking (D : Type) where
  challenged : Bool
  verified : Bool
  contactVerified : Bool
  failed : Bool
  active : Bool
  direction : ℤ
  baselineAngle : ℤ
  baselinePosition : ℤ
  baselineForceG : ℤ
  forceEpochActive : Bool
  forceEpochDirection : ℤ
  forceEpochBaselineG : ℤ
  deadlineS : D

def AxisTracking.init : AxisTracking D :=
  ⟨false, false, false, false, false, 0, 0, 0, 0, false, 0, 0, FloatArith.zero⟩

structure AxisFeedback where
  angle : ℤ
  position : ℤ
  forceG : ℤ
  status : ℤ

def axisFeedback (feedback : RH56SafetyFeedback D) (axis : Fin 6) : AxisFeedback where
  angle := feedback.angles axis
  position := feedback.positions axis
  forceG := feedback.forcesG axis
  status := feedback.statuses axis

def directionOf (x : ℤ) : ℤ := if 0 < x then 1 else -1

/-- The stream of targets begins, or changes its direction: the force of this sample is its
baseline. -/
def AxisTracking.noteStream (a : AxisTracking D) (feedback : AxisFeedback) (previous : Option ℤ)
    (target : ℤ) : AxisTracking D :=
  match previous with
  | none => a
  | some previous =>
    let delta := target - previous
    if delta ≠ 0 ∧ (a.forceEpochActive = false ∨ a.forceEpochDirection ≠ directionOf delta) then
      { a with
        forceEpochActive := true
        forceEpochDirection := directionOf delta
        forceEpochBaselineG := feedback.forceG }
    else a

def approaches (previous : Option ℤ) (target actual : ℤ) : Bool :=
  match previous with
  | none => false
  | some previous => decide (|target - actual| < |previous - actual|)

def AxisTracking.openWindow (C : TrackingConfig D) (a : AxisTracking D) (feedback : AxisFeedback)
    (direction : ℤ) (now : D) : AxisTracking D :=
  { a with
    active := true
    direction := direction
    baselineAngle := feedback.angle
    baselinePosition := feedback.position
    baselineForceG :=
      if a.forceEpochActive = true ∧ a.forceEpochDirection = direction then a.forceEpochBaselineG
      else feedback.forceG
    deadlineS := now + C.timeoutS }

/-- **One axis of `_register_physical_tracking_target`.** -/
def AxisTracking.register (C : TrackingConfig D) (a : AxisTracking D) (feedback : AxisFeedback)
    (previous : Option ℤ) (target : ℤ) (now : D) : AxisTracking D :=
  let a := a.noteStream feedback previous target
  let gap := target - feedback.angle
  if |gap| < C.significantGapUnits then { a with active := false, direction := 0 }
  else
    -- a target that moves toward the measured angle opens no first challenge
    if a.challenged = false ∧ approaches previous target feedback.angle = true then a
    else
      let a := { a with challenged := true }
      if a.verified = true then { a with active := false, direction := 0 }
      else
        -- a stream of targets in one direction keeps its window
        if a.active = false ∨ a.direction ≠ directionOf gap then
          a.openWindow C feedback (directionOf gap) now
        else a

def AxisTracking.contact (C : TrackingConfig D) (a : AxisTracking D) (feedback : AxisFeedback) :
    Bool :=
  decide (feedback.status = 3) ||
    (decide (C.contactForceAbsoluteG ≤ |feedback.forceG|) &&
      decide (C.contactForceDeltaG ≤ |feedback.forceG - a.baselineForceG|))

/-- **The required progress**: the angle in the direction of the challenge, the position, or
contact. -/
def AxisTracking.progressed (C : TrackingConfig D) (a : AxisTracking D) (feedback : AxisFeedback) :
    Bool :=
  decide (C.minProgressUnits ≤ a.direction * (feedback.angle - a.baselineAngle)) ||
    decide (C.positionMinProgressUnits ≤ |feedback.position - a.baselinePosition|) ||
    a.contact C feedback

def AxisTracking.expires (C : TrackingConfig D) (a : AxisTracking D) (feedback : AxisFeedback)
    (now : D) : Bool :=
  a.active && !a.progressed C feedback && decide (a.deadlineS ≤ now)

/-- **One axis of `_evaluate_physical_tracking`.** -/
def AxisTracking.evaluate (C : TrackingConfig D) (a : AxisTracking D) (feedback : AxisFeedback)
    (now : D) : AxisTracking D :=
  if a.active = false then a
  else if a.progressed C feedback = true then
    { a with
      verified := true, contactVerified := a.contact C feedback, active := false, direction := 0 }
  else if a.deadlineS ≤ now then { a with failed := true, active := false }
  else a

/-! ## The tracking of a hand -/

/-- **The tracking of a hand.** -/
structure Tracking (D : Type) [FloatArith D] where
  latestFeedback : Option (RH56SafetyFeedback D)
  latestTarget : Option SixIntegers
  axes : Vec 6 (AxisTracking D)
  failureReason : Option String

def Tracking.init : Tracking D := ⟨none, none, fun _ => .init, none⟩

/-- **`_register_physical_tracking_target`.** -/
def Tracking.register (C : TrackingConfig D) (s : Tracking D) (targets : SixIntegers) (now : D) :
    Except PyException (Tracking D) :=
  if FloatArith.isFinite now = false then
    .error ⟨.ordinary, "ValueError", "tracking target time must be finite"⟩
  else
    match s.latestFeedback with
    | none => .error (ownerError "RH56 physical tracking cannot start without feedback")
    | some feedback =>
      .ok { s with
        latestTarget := some targets
        axes := fun axis => (s.axes axis).register C (axisFeedback feedback axis)
          (s.latestTarget.map fun previous => previous axis) (targets axis) now }

def Tracking.failureAxes (C : TrackingConfig D) (s : Tracking D) (feedback : RH56SafetyFeedback D) :
    List (Fin 6) :=
  (List.finRange 6).filter fun axis =>
    (s.axes axis).expires C (axisFeedback feedback axis) feedback.capturedMonotonicS

def failureText (C : TrackingConfig D) (failed : List (Fin 6)) : String :=
  "RH56 physical tracking made no ANGLE_ACT/POS_ACT progress on axes [" ++
    ",".intercalate (failed.map fun axis => toString axis.val) ++
    s!"] within {FloatArith.fixedText 3 C.timeoutS}s"

/-- **`_evaluate_physical_tracking`.** -/
def Tracking.evaluate (C : TrackingConfig D) (s : Tracking D) (feedback : RH56SafetyFeedback D) :
    Except PyException Unit × Tracking D :=
  match s.latestTarget with
  | none => (.ok (), s)
  | some _ =>
    let failed := s.failureAxes C feedback
    let evaluated : Vec 6 (AxisTracking D) := fun axis =>
      (s.axes axis).evaluate C (axisFeedback feedback axis) feedback.capturedMonotonicS
    if failed = [] then (.ok (), { s with axes := evaluated })
    else
      (.error (ownerError (failureText C failed)),
        { s with axes := evaluated, failureReason := some (failureText C failed) })

/-- **`_cache_feedback`** with the readings of the clocks. -/
def Tracking.cacheFeedback (C : TrackingConfig D) (s : Tracking D)
    (feedback : RH56SafetyFeedback D) (cached realtime : D) : Except PyException Unit × Tracking D :=
  let age := cached - feedback.capturedMonotonicS
  if age < FloatArith.zero then
    (.error (ownerError "RH56 feedback timestamp is in the future at cache boundary"), s)
  else if FloatArith.isFinite (realtime - age) = false then
    (.error ⟨.ordinary, "ValueError", "captured_realtime_s must be finite"⟩, s)
  else if cached < feedback.capturedMonotonicS then
    (.error ⟨.ordinary, "ValueError", "feedback cannot be cached before it was captured"⟩, s)
  else { s with latestFeedback := some feedback }.evaluate C feedback

/-! ## Verdicts -/

/-- The verdicts of `physical_tracking_snapshot`. -/
inductive Verdict where
  | failed
  | challengedUnverified
  | verified
  | challengedWithdrawnUnverified
  | notExercised
  deriving DecidableEq, Repr

def AxisTracking.unverified (a : AxisTracking D) : Bool := a.challenged && !a.verified

def AxisTracking.activeUnverified (a : AxisTracking D) : Bool :=
  a.challenged && !a.verified && a.active

/-- **The verdict of `physical_tracking_snapshot`.** -/
def Tracking.verdict (s : Tracking D) : Verdict :=
  if s.axes.any (·.failed) then .failed
  else if s.axes.any (·.activeUnverified) then .challengedUnverified
  else if s.axes.any (·.challenged) && s.axes.any (·.verified) then .verified
  else if s.axes.any (·.challenged) then .challengedWithdrawnUnverified
  else .notExercised

/-- The last deadline of the axes that satisfy `p`, `none` where there are none. -/
def Tracking.lastDeadline (s : Tracking D) (p : AxisTracking D → Bool) : Option D :=
  match (List.finRange 6).filter fun axis => p (s.axes axis) with
  | [] => none
  | first :: others => some (others.foldl (fun best axis =>
    if best < (s.axes axis).deadlineS then (s.axes axis).deadlineS else best)
    (s.axes first).deadlineS)

def unverifiedWithoutWindow : PyException :=
  ownerError "RH56 challenged axis is unverified without an active physical-tracking window"

/-- **The tracking's part of `begin_final_tracking_settle`**: `none` where it returns at once, and
otherwise the deadline of the settle. -/
def Tracking.settleAdmission (C : TrackingConfig D) (feedbackHardAgeS : D) (s : Tracking D)
    (now : D) : Except PyException (Option D) :=
  if s.axes.any (·.failed) then
    .error (ownerError (match s.failureReason with
      | none => "RH56 physical tracking already failed"
      | some "" => "RH56 physical tracking already failed"
      | some reason => reason))
  else if s.axes.all (fun a => !a.unverified) then .ok none
  else
    match s.lastDeadline (·.activeUnverified) with
    | none => .error unverifiedWithoutWindow
    | some trackingDeadline =>
      let bounded := trackingDeadline + feedbackHardAgeS
      let latest := now + C.timeoutS + feedbackHardAgeS
      let settleDeadline := if latest < bounded then latest else bounded
      if settleDeadline ≤ now then
        .error (ownerError "RH56 physical-tracking settle deadline already elapsed")
      else .ok (some settleDeadline)

end FrankaDeploy.Rh56Owner
