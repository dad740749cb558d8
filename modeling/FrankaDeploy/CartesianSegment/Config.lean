import FrankaDeploy.CartesianSegment.Pose

/-! # The contract of a segment

`CartesianSegmentConfig` and `ValidateCartesianSegmentContract`, which a segment passes before it
touches the control handle. -/

namespace FrankaDeploy.CartesianSegment

open FrankaDeploy.Foundation
open FloatArith (ofRat isFinite zero one stdMax)
open scoped FloatArith

variable {F : Type} [FloatArith F]

/-! ## Constants -/

def kMinimumJerkPeakVelocityFactor : ℚ := 1875 / 1000

def kRequiredMinimumSuccessRate : ℚ := 95 / 100

def kRequiredHardFloor : ℚ := 80 / 100

def kMaximumSuccessWindowSeconds : ℚ := 50 / 100

def kMaximumStartupDeadlineSeconds : ℚ := 50 / 100

def kRequiredStartupPositiveWrites : ℕ := 100

def kMaximumReadToWriteBudgetNs : ℕ := 500000

def kSuccessRunCapacity : ℕ := 4096

def kMaximumControlCycles : ℕ := 2000000

/-- The slack of the comparisons of accumulated times, written `1.0e-12`. -/
def timeSlack : ℚ := 1 / 10 ^ 12

/-! ## The configuration -/

/-- **`CartesianSegmentConfig`.** -/
structure CartesianSegmentConfig (F : Type) where
  workspaceMinM : Vec 3 F
  workspaceMaxM : Vec 3 F
  jointLowerRad : Vec 7 F
  jointUpperRad : Vec 7 F
  jointLimitMarginRad : F
  durationS : F
  minCartesianDurationS : F
  maxCartesianSpeedMS : F
  maxAngularSpeedRadS : F
  maxSegmentTranslationM : F
  maxSegmentRotationRad : F
  endpointTimeoutS : F
  settleTimeS : F
  translationArrivalToleranceM : F
  rotationArrivalToleranceRad : F
  settleMaxDqRadS : F
  minControlSuccessRate : F
  controlSuccessHardFloor : F
  controlSuccessEvaluationWindowS : F
  startupDeadlineS : F
  startupMinPositiveWrites : ℕ
  minControlPeriodS : F
  maxControlPeriodS : F
  readToWriteBudgetNs : ℕ
  wallDeadlineSlackS : F
  wallDeadlineFraction : F

def inWorkspace (pose : Pose F) (config : CartesianSegmentConfig F) : Bool :=
  (List.finRange 3).all fun index =>
    let value := translation pose index
    !(!isFinite value || decide (value < config.workspaceMinM index) ||
      decide (value > config.workspaceMaxM index))

/-! ## Validation -/

def rejectIf (c : Prop) [Decidable c] (message : String) : Except String Unit :=
  if c then invalidContract message else .ok ()

theorem rejectIf_eq_ok {c : Prop} [Decidable c] {message : String} :
    rejectIf c message = .ok () ↔ ¬c := by
  unfold rejectIf invalidContract
  by_cases h : c
  · simp [h]
  · simp [h]

def requireFinitePositive (value : F) (name : String) : Except String Unit :=
  rejectIf (!isFinite value ∨ value ≤ zero) (name ++ " must be finite and positive")

/-- **`ValidateCartesianSegmentContract`.** -/
def validateCartesianSegmentContract (libm : Libm F) (plannedStart target : Pose F)
    (config : CartesianSegmentConfig F) : Except String Unit := do
  rejectIf (!validPose plannedStart ∨ !validPose target)
    "planned_start and target must be finite rigid transforms"
  rejectIf (∃ index, !isFinite (config.workspaceMinM index) ∨
      !isFinite (config.workspaceMaxM index) ∨
      config.workspaceMinM index ≥ config.workspaceMaxM index)
    "workspace bounds must be finite and ordered"
  rejectIf (!inWorkspace plannedStart config ∨ !inWorkspace target config)
    "planned_start and target must lie inside the workspace"
  requireFinitePositive config.jointLimitMarginRad "joint_limit_margin_rad"
  rejectIf (∃ index, !isFinite (config.jointLowerRad index) ∨
      !isFinite (config.jointUpperRad index) ∨
      config.jointLowerRad index ≥ config.jointUpperRad index ∨
      ofRat 2 * config.jointLimitMarginRad ≥
        config.jointUpperRad index - config.jointLowerRad index)
    "joint bounds must leave a non-empty commissioned margin"
  requireFinitePositive config.durationS "duration_s"
  requireFinitePositive config.minCartesianDurationS "min_cartesian_duration_s"
  requireFinitePositive config.maxCartesianSpeedMS "max_cartesian_speed_m_s"
  requireFinitePositive config.maxAngularSpeedRadS "max_angular_speed_rad_s"
  requireFinitePositive config.maxSegmentTranslationM "max_segment_translation_m"
  requireFinitePositive config.maxSegmentRotationRad "max_segment_rotation_rad"
  let translation := translationError libm plannedStart target
  let rotation ← rotationError libm plannedStart target
  rejectIf (translation > config.maxSegmentTranslationM + ofRat timeSlack ∨
      rotation > config.maxSegmentRotationRad + ofRat timeSlack)
    "target exceeds the single-segment translation/rotation bound"
  let requiredDuration := stdMax
    (stdMax config.minCartesianDurationS
      (ofRat kMinimumJerkPeakVelocityFactor * translation / config.maxCartesianSpeedMS))
    (ofRat kMinimumJerkPeakVelocityFactor * rotation / config.maxAngularSpeedRadS)
  rejectIf (config.durationS + ofRat timeSlack < requiredDuration)
    "duration_s exceeds the commissioned minimum-jerk speed bound"
  requireFinitePositive config.endpointTimeoutS "endpoint_timeout_s"
  requireFinitePositive config.settleTimeS "settle_time_s"
  requireFinitePositive config.translationArrivalToleranceM "translation_arrival_tolerance_m"
  requireFinitePositive config.rotationArrivalToleranceRad "rotation_arrival_tolerance_rad"
  requireFinitePositive config.settleMaxDqRadS "settle_max_dq_rad_s"
  rejectIf (config.endpointTimeoutS + ofRat timeSlack < config.settleTimeS)
    "endpoint_timeout_s must cover settle_time_s"
  rejectIf (!isFinite config.minControlSuccessRate ∨
      config.minControlSuccessRate <
        ofRat kRequiredMinimumSuccessRate - ofRat kAbsoluteTolerance ∨
      config.minControlSuccessRate > one)
    "min_control_success_rate may not be weaker than 0.95"
  rejectIf (!isFinite config.controlSuccessHardFloor ∨
      config.controlSuccessHardFloor < ofRat kRequiredHardFloor - ofRat kAbsoluteTolerance ∨
      config.controlSuccessHardFloor > config.minControlSuccessRate)
    "control_success_hard_floor may not be weaker than 0.80"
  requireFinitePositive config.controlSuccessEvaluationWindowS
    "control_success_evaluation_window_s"
  rejectIf (config.controlSuccessEvaluationWindowS >
      ofRat kMaximumSuccessWindowSeconds + ofRat timeSlack)
    "control-success window may not exceed 0.5s"
  requireFinitePositive config.startupDeadlineS "startup_deadline_s"
  rejectIf (config.startupDeadlineS > ofRat kMaximumStartupDeadlineSeconds + ofRat timeSlack)
    "startup qualification deadline may not exceed 0.5s"
  rejectIf (config.startupMinPositiveWrites < kRequiredStartupPositiveWrites)
    "startup qualification requires at least 100 positive writes"
  requireFinitePositive config.minControlPeriodS "min_control_period_s"
  requireFinitePositive config.maxControlPeriodS "max_control_period_s"
  rejectIf (config.minControlPeriodS ≥ config.maxControlPeriodS)
    "control period bounds must be ordered"
  rejectIf (config.readToWriteBudgetNs = 0 ∨
      config.readToWriteBudgetNs > kMaximumReadToWriteBudgetNs)
    "read_to_write_budget_ns may not exceed 500000"
  requireFinitePositive config.wallDeadlineSlackS "wall_deadline_slack_s"
  requireFinitePositive config.wallDeadlineFraction "wall_deadline_fraction"

end FrankaDeploy.CartesianSegment
