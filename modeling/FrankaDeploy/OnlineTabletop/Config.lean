import FrankaDeploy.Foundation.Python

/-! # The online tabletop planner's configuration

`TabletopOnlinePlannerConfig` and its decoder `_tabletop_online_planner_config`: the indices of the
recorded template and the numbers that the prediction of an intercept reads. Raw values have the
JSON types that the decoder expects. -/

namespace FrankaDeploy.OnlineTabletop

open FrankaDeploy.Foundation
open FloatArith (ofRat isFinite one)
open scoped FloatArith

variable {D : Type} [FloatArith D]

inductive PlannerVersion where
  | v2
  | v3
  | v4
  | v5
deriving DecidableEq, Repr

namespace PlannerVersion

def ofText (text : String) : Option PlannerVersion :=
  if text = "tabletop_online_intercept_planner_v2" then some v2
  else if text = "tabletop_online_intercept_planner_v3" then some v3
  else if text = "tabletop_online_intercept_planner_v4" then some v4
  else if text = "tabletop_online_intercept_planner_v5" then some v5
  else none

def adaptive : PlannerVersion → Bool
  | v2 => false
  | v3 | v4 | v5 => true

def mpc : PlannerVersion → Bool
  | v2 | v3 | v4 => false
  | v5 => true

end PlannerVersion

structure RawPlanner (D : Type) where
  version : String
  controlDtS : D
  templateStartIndex : ℤ
  templateCatchIndex : ℤ
  closureEndIndex : ℤ
  liftEndIndex : ℤ
  fitSampleCount : ℤ
  motionAxisBase : Vec 3 D
  speedMinMS : D
  speedMaxMS : D
  headingCosMin : D
  maxFitResidualM : D
  maxLinearPredictionS : D
  contactPredictionLatencyS : D
  collisionReplan : Option Bool
  adaptiveSpeedMaxMS : D
  preshapePhaseStep : ℤ

/-- **`TabletopOnlinePlannerConfig`.** -/
structure TabletopOnlinePlannerConfig (D : Type) where
  version : PlannerVersion
  controlDtS : D
  templateStartIndex : ℤ
  templateCatchIndex : ℤ
  closureEndIndex : ℤ
  liftEndIndex : ℤ
  fitSampleCount : ℤ
  motionAxisBase : Vec 3 D
  speedMinMS : D
  speedMaxMS : D
  headingCosMin : D
  maxFitResidualM : D
  maxLinearPredictionS : D
  contactPredictionLatencyS : D
  collisionReplan : Bool
  adaptiveSpeedMaxMS : D
  preshapePhaseStep : ℤ

/-! ## Decoding -/

def integer (name : String) (raw minimum maximum : ℤ) : Except PyError ℤ :=
  if minimum ≤ raw ∧ raw ≤ maximum then .ok raw
  else .error (.valueError
    s!"tabletop_online_planner {name} must be in {minimum}..{maximum}")

/-- `number`. The bounds in the text are left out. -/
def number (name : String) (raw minimum maximum : D) : Except PyError D :=
  if isFinite raw = true ∧ minimum ≤ raw ∧ raw ≤ maximum then .ok raw
  else .error (.valueError s!"tabletop_online_planner {name} must be in ")

def vector (name : String) (raw : Vec 3 D) : Except PyError (Vec 3 D) :=
  if raw.allFinite then .ok raw
  else .error (.valueError s!"tabletop_online_planner {name} must contain 3 values")

/-- `np.isclose` of a norm with one, without a relative tolerance. -/
def isUnit (norm : D) : Bool := FloatArith.abs (norm - one) ≤ ofRat (1 / 100000)

def unitAxis (norm : Vec 3 D → D) (raw : Vec 3 D) : Except PyError (Vec 3 D) := do
  let axis ← vector "motion_axis_base" raw
  if isUnit (norm axis) then .ok axis
  else .error (.valueError "tabletop_online_planner motion_axis_base must be unit length")

def knownVersion (text : String) : Except PyError PlannerVersion :=
  match PlannerVersion.ofText text with
  | some version => .ok version
  | none => .error (.valueError "unsupported tabletop_online_planner version")

def ifAdaptive {α : Type} (version : PlannerVersion) (read : Except PyError α) (default : α) :
    Except PyError α :=
  if version.adaptive then read else .ok default

/-- **`_tabletop_online_planner_config`**; `norm` is `np.linalg.norm`. -/
def decode (norm : Vec 3 D → D) (raw : RawPlanner D) (actionCount : ℤ) :
    Except PyError (TabletopOnlinePlannerConfig D) := do
  let version ← knownVersion raw.version
  let start ← integer "template_start_index" raw.templateStartIndex 1 (max 1 (actionCount - 2))
  let catchIndex ← integer "template_catch_index" raw.templateCatchIndex (start + 1)
    (max (start + 1) (actionCount - 1))
  let closureEnd ← integer "closure_end_index" raw.closureEndIndex (catchIndex + 1)
    (max (catchIndex + 1) (actionCount - 1))
  let liftEnd ← integer "lift_end_index" raw.liftEndIndex (closureEnd + 1)
    (max (closureEnd + 1) (actionCount - 1))
  let axis ← unitAxis norm raw.motionAxisBase
  let speedMin ← number "speed_min_m_s" raw.speedMinMS (ofRat (1 / 100)) (ofRat (1 / 2))
  let speedMax ← number "speed_max_m_s" raw.speedMaxMS speedMin (ofRat (3 / 5))
  let adaptiveSpeedMax ← ifAdaptive version
    (number "adaptive_speed_max_m_s" raw.adaptiveSpeedMaxMS speedMax (ofRat (3 / 5))) speedMax
  let preshapePhaseStep ← ifAdaptive version
    (integer "preshape_phase_step" raw.preshapePhaseStep 1 3) 1
  let controlDt ← number "control_dt_s" raw.controlDtS (ofRat (49 / 1000)) (ofRat (51 / 1000))
  let fitSampleCount ← integer "fit_sample_count" raw.fitSampleCount 3 8
  let headingCosMin ← number "heading_cos_min" raw.headingCosMin (ofRat (1 / 2)) one
  let maxFitResidual ← number "max_fit_residual_m" raw.maxFitResidualM (ofRat (1 / 1000))
    (ofRat (1 / 20))
  let maxLinearPrediction ← number "max_linear_prediction_s" raw.maxLinearPredictionS
    (ofRat (1 / 20)) (ofRat 2)
  let latency ← number "contact_prediction_latency_s" raw.contactPredictionLatencyS (ofRat 0)
    (ofRat (1 / 5))
  return {
    version := version
    controlDtS := controlDt
    templateStartIndex := start
    templateCatchIndex := catchIndex
    closureEndIndex := closureEnd
    liftEndIndex := liftEnd
    fitSampleCount := fitSampleCount
    motionAxisBase := axis
    speedMinMS := speedMin
    speedMaxMS := speedMax
    headingCosMin := headingCosMin
    maxFitResidualM := maxFitResidual
    maxLinearPredictionS := maxLinearPrediction
    contactPredictionLatencyS := latency
    collisionReplan := raw.collisionReplan.getD false
    adaptiveSpeedMaxMS := adaptiveSpeedMax
    preshapePhaseStep := preshapePhaseStep }

/-! ## What a decoded configuration satisfies -/

/-- **A number in its range.** -/
structure InRange (x minimum maximum : D) : Prop where
  finite : isFinite x = true
  lower : minimum ≤ x
  upper : x ≤ maximum

/-- **What the decoder has checked.** -/
structure TabletopOnlinePlannerConfig.Accepted (config : TabletopOnlinePlannerConfig D)
    (actionCount : ℤ) : Prop where
  one_le_start : 1 ≤ config.templateStartIndex
  start_lt_catch : config.templateStartIndex < config.templateCatchIndex
  catch_lt_closureEnd : config.templateCatchIndex < config.closureEndIndex
  closureEnd_lt_liftEnd : config.closureEndIndex < config.liftEndIndex
  liftEnd_le : config.liftEndIndex ≤ max (config.closureEndIndex + 1) (actionCount - 1)
  three_le_fit : 3 ≤ config.fitSampleCount
  fit_le : config.fitSampleCount ≤ 8
  controlDt : InRange config.controlDtS (ofRat (49 / 1000)) (ofRat (51 / 1000))
  maxLinearPrediction : InRange config.maxLinearPredictionS (ofRat (1 / 20)) (ofRat 2)
  latency : InRange config.contactPredictionLatencyS (ofRat 0) (ofRat (1 / 5))
  one_le_preshape : 1 ≤ config.preshapePhaseStep

theorem integer_eq_ok {name : String} {raw minimum maximum i : ℤ}
    (h : integer name raw minimum maximum = .ok i) : minimum ≤ i ∧ i ≤ maximum := by
  unfold integer at h
  by_cases hrange : minimum ≤ raw ∧ raw ≤ maximum
  · rw [if_pos hrange] at h
    obtain rfl := Except.ok.inj h
    exact hrange
  · rw [if_neg hrange] at h
    cases h

theorem number_eq_ok {name : String} {raw minimum maximum x : D}
    (h : number name raw minimum maximum = .ok x) : InRange x minimum maximum := by
  unfold number at h
  by_cases hrange : isFinite raw = true ∧ minimum ≤ raw ∧ raw ≤ maximum
  · rw [if_pos hrange] at h
    obtain rfl := Except.ok.inj h
    exact ⟨hrange.1, hrange.2.1, hrange.2.2⟩
  · rw [if_neg hrange] at h
    cases h

theorem decode_accepted {norm : Vec 3 D → D} {raw : RawPlanner D} {actionCount : ℤ}
    {config : TabletopOnlinePlannerConfig D} (h : decode norm raw actionCount = .ok config) :
    config.Accepted actionCount := by
  unfold decode at h
  obtain ⟨version, -, h⟩ := except_bind_eq_ok.1 h
  obtain ⟨start, hstart, h⟩ := except_bind_eq_ok.1 h
  obtain ⟨catchIndex, hcatch, h⟩ := except_bind_eq_ok.1 h
  obtain ⟨closureEnd, hclosure, h⟩ := except_bind_eq_ok.1 h
  obtain ⟨liftEnd, hlift, h⟩ := except_bind_eq_ok.1 h
  obtain ⟨axis, -, h⟩ := except_bind_eq_ok.1 h
  obtain ⟨speedMin, -, h⟩ := except_bind_eq_ok.1 h
  obtain ⟨speedMax, -, h⟩ := except_bind_eq_ok.1 h
  obtain ⟨adaptiveSpeedMax, -, h⟩ := except_bind_eq_ok.1 h
  obtain ⟨step, hstep, h⟩ := except_bind_eq_ok.1 h
  obtain ⟨controlDt, hdt, h⟩ := except_bind_eq_ok.1 h
  obtain ⟨fit, hfit, h⟩ := except_bind_eq_ok.1 h
  obtain ⟨heading, -, h⟩ := except_bind_eq_ok.1 h
  obtain ⟨residual, -, h⟩ := except_bind_eq_ok.1 h
  obtain ⟨maxLinear, hlinear, h⟩ := except_bind_eq_ok.1 h
  obtain ⟨latency, hlatency, h⟩ := except_bind_eq_ok.1 h
  obtain rfl := Except.ok.inj h
  have hstartBounds := integer_eq_ok hstart
  have hcatchBounds := integer_eq_ok hcatch
  have hclosureBounds := integer_eq_ok hclosure
  have hliftBounds := integer_eq_ok hlift
  have hfitBounds := integer_eq_ok hfit
  have hstepPos : 1 ≤ step := by
    unfold ifAdaptive at hstep
    cases hadaptive : version.adaptive with
    | false =>
      rw [hadaptive] at hstep
      obtain rfl := Except.ok.inj hstep
      exact le_rfl
    | true =>
      rw [hadaptive] at hstep
      exact (integer_eq_ok hstep).1
  exact {
    one_le_start := hstartBounds.1
    start_lt_catch := hcatchBounds.1
    catch_lt_closureEnd := hclosureBounds.1
    closureEnd_lt_liftEnd := hliftBounds.1
    liftEnd_le := hliftBounds.2
    three_le_fit := hfitBounds.1
    fit_le := hfitBounds.2
    controlDt := number_eq_ok hdt
    maxLinearPrediction := number_eq_ok hlinear
    latency := number_eq_ok hlatency
    one_le_preshape := hstepPos }

end FrankaDeploy.OnlineTabletop
