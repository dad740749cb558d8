import FrankaDeploy.Foundation.IeeeMaximum
import FrankaDeploy.OnlineTabletop.Intercept

/-! # When an intercept is predicted

With at least as many centers as the fit needs, a prediction has a horizon in the admitted range.
With fewer, its diagnostics read a variable that is unbound, and there is no prediction. -/

namespace FrankaDeploy.OnlineTabletop

open FrankaDeploy.Foundation
open FloatArith (ofRat isFinite zero stdMax stdMin)
open Ieee (le_iff lt_iff isNaN_of_isFinite)
open scoped FloatArith

/-! ## The unbound variable -/

section Locals

variable {D : Type} [FloatArith D] {np : Numpy D} {config : TabletopOnlinePlannerConfig D}
  {seen : Bool} {index : ℤ} {centers : List (Vec 3 D)} {asked : Option D}

omit [FloatArith D] in
theorem fit_le_count_iff (hfit : 3 ≤ config.fitSampleCount) :
    config.fitSampleCount ≤ (min config.fitSampleCount.toNat centers.length : ℕ) ↔
      config.fitSampleCount ≤ centers.length := by
  omega

theorem admitted_of_enough (hfit : 3 ≤ config.fitSampleCount)
    (h : config.fitSampleCount ≤ centers.length) :
    (fitLocals np config seen index centers).admittedSpeedMax = some (admittedSpeedMax config) := by
  unfold fitLocals
  rw [if_pos ((fit_le_count_iff hfit).2 h)]
  rfl

theorem admitted_of_few (hfit : 3 ≤ config.fitSampleCount)
    (h : ¬config.fitSampleCount ≤ centers.length) :
    (fitLocals np config seen index centers).admittedSpeedMax = none := by
  unfold fitLocals
  rw [if_neg fun hle => h ((fit_le_count_iff hfit).1 hle)]
  rfl

theorem predictIntercept_of_few (hfit : 3 ≤ config.fitSampleCount)
    (h : ¬config.fitSampleCount ≤ centers.length) :
    predictIntercept np config seen centers index asked =
      match remainingTime config index with
      | .ok _ => .error (.unboundLocal "admitted_speed_max")
      | .error fault => .error fault := by
  unfold predictIntercept
  cases remainingTime config index with
  | error fault => rfl
  | ok remaining =>
    rw [except_ok_bind]
    unfold diagnose
    rw [admitted_of_few hfit h]

/-- **With enough there is one**, with the horizon that the index and the caller give. -/
theorem predictIntercept_of_enough {remaining : D} (hfit : 3 ≤ config.fitSampleCount)
    (h : config.fitSampleCount ≤ centers.length)
    (hremaining : remainingTime config index = .ok remaining) :
    ∃ prediction, predictIntercept np config seen centers index asked = .ok prediction ∧
      prediction.predictionHorizonS = (horizonOf config index asked remaining).1 := by
  unfold predictIntercept
  rw [hremaining, except_ok_bind]
  unfold diagnose
  rw [admitted_of_enough hfit h]
  exact ⟨_, rfl, rfl⟩

end Locals

/-! ## The horizon -/

section Horizon

variable {f : FloatFormat} [Ieee.Proper f] {config : TabletopOnlinePlannerConfig (Ieee f)}
  {actionCount index : ℤ} {asked : Option (Ieee f)}

theorem isNaN_zero : (zero : Ieee f).isNaN = false := Ieee.isNaN_round _ _

theorem key_zero : (zero : Ieee f).key = 0 := by
  have hmagnitude : (zero : Ieee f).magnitude.toNat = 0 := by
    apply (Ieee.toNat_ofMagnitude _ (Ieee.roundMagnitude_le _ _)).trans
    simp [Ieee.roundMagnitude]
  unfold Ieee.key
  rw [hmagnitude]
  split_ifs
  · rfl
  · rfl

theorem zero_le_of_bound {x : Ieee f} {bound : ℚ} (hbound : 0 ≤ bound) (h : ofRat bound ≤ x) :
    zero ≤ x := by
  have hzero : Ieee.le (zero : Ieee f) (ofRat bound) = true := by
    apply le_iff.2
    refine ⟨isNaN_zero, Ieee.isNaN_round _ _, ?_⟩
    rw [key_zero]
    exact Ieee.key_round_nonneg _ hbound
  exact Ieee.le_trans hzero h

theorem zero_le_remaining {remaining : Ieee f} (hconfig : config.Accepted actionCount)
    (h : remainingTime config index = .ok remaining) : zero ≤ remaining := by
  unfold remainingTime at h
  dsimp only at h
  by_cases hfinite : isFinite (ofRat (config.templateCatchIndex - index : ℤ) : Ieee f) = true
  · rw [if_pos hfinite] at h
    obtain rfl := Except.ok.inj h
    exact (Ieee.le_stdMax isNaN_zero (Ieee.isNaN_mul hfinite hconfig.controlDt.finite)).1
  · rw [if_neg hfinite] at h
    cases h

omit [Ieee.Proper f] in
theorem npClip_mem {x lower upper : Ieee f} (hx : x.isNaN = false) (hle : lower ≤ upper) :
    lower ≤ npClip x lower upper ∧ npClip x lower upper ≤ upper := by
  obtain ⟨hlower, hupper, -⟩ := le_iff.1 hle
  have hnan {y : Ieee f} (hy : y.isNaN = false) : ¬isNan y = true := by
    rw [show isNan y = y.isNaN from Ieee.isNan_eq_isNaN y, hy]
    exact Bool.false_ne_true
  unfold npClip
  rw [if_neg (hnan hx)]
  dsimp only
  by_cases hraised : lower < x
  · rw [if_pos hraised, if_neg (hnan hx)]
    by_cases hfits : x < upper
    · rw [if_pos hfits]
      exact ⟨Ieee.le_of_lt hraised, Ieee.le_of_lt hfits⟩
    · rw [if_neg hfits]
      exact ⟨hle, Ieee.le_refl hupper⟩
  · rw [if_neg hraised, if_neg (hnan hlower)]
    by_cases hfits : lower < upper
    · rw [if_pos hfits]
      exact ⟨Ieee.le_refl hlower, hle⟩
    · rw [if_neg hfits]
      exact ⟨hle, Ieee.le_refl hupper⟩

omit [Ieee.Proper f] in
theorem zero_le_stdMin {x y : Ieee f} (hx : zero ≤ x) (hy : zero ≤ y) : zero ≤ stdMin x y := by
  rcases Ieee.stdMin_eq_or (x := x) (y := y) with h | h
  · rwa [h]
  · rwa [h]

theorem horizon_mem {remaining : Ieee f} (hconfig : config.Accepted actionCount)
    (hasked : ∀ x ∈ asked, x.isNaN = false)
    (h : remainingTime config index = .ok remaining) :
    zero ≤ (horizonOf config index asked remaining).1 ∧
      (horizonOf config index asked remaining).1 ≤ config.maxLinearPredictionS := by
  have hmaximum : zero ≤ config.maxLinearPredictionS :=
    zero_le_of_bound (by norm_num) hconfig.maxLinearPrediction.lower
  have hlatency : zero ≤ config.contactPredictionLatencyS :=
    zero_le_of_bound le_rfl hconfig.latency.lower
  have hremaining := zero_le_remaining hconfig h
  have hnumber {x : Ieee f} (hx : zero ≤ x) : x.isNaN = false := (le_iff.1 hx).2.1
  unfold horizonOf
  cases asked with
  | some x => exact npClip_mem (hasked x rfl) hmaximum
  | none =>
    dsimp only
    by_cases hbefore : index < config.templateCatchIndex
    · rw [if_pos hbefore]
      exact ⟨zero_le_stdMin hremaining hmaximum,
        (Ieee.stdMin_le (hnumber hremaining) (hnumber hmaximum)).2⟩
    · rw [if_neg hbefore]
      exact ⟨zero_le_stdMin hlatency hmaximum,
        (Ieee.stdMin_le (hnumber hlatency) (hnumber hmaximum)).2⟩

end Horizon

/-! ## Exactly when -/

section Total

variable {f : FloatFormat} [Ieee.Proper f]

/-- **What a prediction should be**: a result whose horizon is in the admitted range, by the
scenario's velocity where there are too few centers for a fit. -/
def Predicts (config : TabletopOnlinePlannerConfig (Ieee f)) (centers : List (Vec 3 (Ieee f)))
    (outcome : Except PredictionError (Prediction (Ieee f))) : Prop :=
  ∃ prediction, outcome = .ok prediction ∧ zero ≤ prediction.predictionHorizonS ∧
    prediction.predictionHorizonS ≤ config.maxLinearPredictionS ∧
    (centers.length < config.fitSampleCount →
      prediction.velocitySource = .scenarioPrior ∧
        prediction.planningVelocityBaseMS = nominalVelocity config)

def Convertible (config : TabletopOnlinePlannerConfig (Ieee f)) (index : ℤ) : Prop :=
  isFinite (ofRat (config.templateCatchIndex - index : ℤ) : Ieee f) = true

/-- **There is a prediction exactly with as many centers as the fit needs.** -/
theorem predicts_iff {norm : Vec 3 (Ieee f) → Ieee f} {raw : RawPlanner (Ieee f)}
    {actionCount : ℤ} {config : TabletopOnlinePlannerConfig (Ieee f)}
    (hconfig : decode norm raw actionCount = .ok config) (np : Numpy (Ieee f)) (seen : Bool)
    (index : ℤ) (centers : List (Vec 3 (Ieee f))) {asked : Option (Ieee f)}
    (hasked : ∀ x ∈ asked, x.isNaN = false) :
    Predicts config centers (predictIntercept np config seen centers index asked) ↔
      config.fitSampleCount ≤ centers.length ∧ Convertible config index := by
  have haccepted := decode_accepted hconfig
  constructor
  · rintro ⟨prediction, hprediction, -⟩
    constructor
    · by_contra hfew
      rw [predictIntercept_of_few haccepted.three_le_fit hfew] at hprediction
      cases hremaining : remainingTime config index with
      | ok remaining =>
        rw [hremaining] at hprediction
        cases hprediction
      | error fault =>
        rw [hremaining] at hprediction
        cases hprediction
    · unfold predictIntercept at hprediction
      obtain ⟨remaining, hremaining, -⟩ := except_bind_eq_ok.1 hprediction
      unfold remainingTime at hremaining
      by_contra hconvertible
      unfold Convertible at hconvertible
      dsimp only at hremaining
      rw [if_neg hconvertible] at hremaining
      cases hremaining
  · rintro ⟨henough, hconvertible⟩
    obtain ⟨remaining, hremaining⟩ : ∃ remaining, remainingTime config index = .ok remaining := by
      unfold remainingTime
      dsimp only
      exact ⟨_, if_pos hconvertible⟩
    obtain ⟨prediction, hprediction, hhorizon⟩ :
        ∃ prediction, predictIntercept np config seen centers index asked = .ok prediction ∧
          prediction.predictionHorizonS = (horizonOf config index asked remaining).1 :=
      predictIntercept_of_enough haccepted.three_le_fit henough hremaining
    obtain ⟨hzero, hmaximum⟩ := horizon_mem haccepted hasked hremaining
    refine ⟨prediction, hprediction, ?_, ?_, fun hfew => ?_⟩
    · rw [hhorizon]
      exact hzero
    · rw [hhorizon]
      exact hmaximum
    · omega

end Total

/-! ## A history that lost frames -/

def restingNumpy : Numpy Binary64 where
  norm v := v 0
  dot v w := v 0 * w 0
  sqrt x := x
  mean values := values.headD zero
  lstsq _ points := (fun _ => zero, points.getLastD fun _ => zero)
  line times coefficients := times.map fun _ => coefficients.2

def samplePlanner : RawPlanner Binary64 where
  version := "tabletop_online_intercept_planner_v4"
  controlDtS := ofRat (1 / 20)
  templateStartIndex := 10
  templateCatchIndex := 54
  closureEndIndex := 67
  liftEndIndex := 79
  fitSampleCount := 4
  motionAxisBase := fun axis => if axis = 0 then ofRat 1 else zero
  speedMinMS := ofRat (1 / 20)
  speedMaxMS := ofRat (3 / 10)
  headingCosMin := ofRat (4 / 5)
  maxFitResidualM := ofRat (1 / 100)
  maxLinearPredictionS := ofRat (1 / 2)
  contactPredictionLatencyS := ofRat (1 / 10)
  collisionReplan := none
  adaptiveSpeedMaxMS := ofRat (1 / 2)
  preshapePhaseStep := 2

/-- A frame with `n` valid points at the origin. -/
def frameOf (n : ℕ) : CloudFrame Binary64 := List.replicate n (fun _ => zero, ofRat 1)

def droppedHistory : List (CloudFrame Binary64) :=
  List.replicate 6 (frameOf 15) ++ List.replicate 2 (frameOf 16)

def restingProprio : ProprioHistory Binary64 := ⟨67, List.replicate 8 fun _ => zero⟩

theorem decode_samplePlanner :
    ∃ config, decode restingNumpy.norm samplePlanner 98 = .ok config ∧
      config.fitSampleCount = 4 ∧ config.templateCatchIndex = 54 := by
  have hread : (decode restingNumpy.norm samplePlanner 98).toOption.map
      (fun config => (config.fitSampleCount, config.templateCatchIndex)) = some (4, 54) := by
    decide +kernel
  cases hdecode : decode restingNumpy.norm samplePlanner 98 with
  | error fault =>
    rw [hdecode] at hread
    cases hread
  | ok config =>
    rw [hdecode] at hread
    have hpair : (config.fitSampleCount, config.templateCatchIndex) = (4, 54) :=
      Option.some.inj hread
    exact ⟨config, rfl, congrArg Prod.fst hpair, congrArg Prod.snd hpair⟩

theorem predicts_iff_sample :
    ∃ config, decode restingNumpy.norm samplePlanner 98 = .ok config ∧
      Predicts config (List.replicate 4 fun _ => zero)
        (predictIntercept restingNumpy config false (List.replicate 4 fun _ => zero) 0 none) := by
  obtain ⟨config, hdecode, hfit, hcatch⟩ := decode_samplePlanner
  have hasked : ∀ x ∈ (none : Option Binary64), x.isNaN = false := by
    intro x hx
    cases hx
  refine ⟨config, hdecode, ?_⟩
  apply (predicts_iff hdecode restingNumpy false 0 _ hasked).2
  constructor
  · rw [hfit, List.length_replicate]
    norm_num
  · unfold Convertible
    rw [hcatch]
    decide +kernel

/-- **Frames with too few points**: two centers are left, and the prediction raises. -/
theorem prediction_unbound :
    ∃ config centers, decode restingNumpy.norm samplePlanner 98 = .ok config ∧
      centersBase restingNumpy (fun _ => zero) (fun _ point => point) droppedHistory
        restingProprio = .ok centers ∧
      predictIntercept restingNumpy config false centers 0 none =
        .error (.unboundLocal "admitted_speed_max") := by
  obtain ⟨config, hdecode, hfit, hcatch⟩ := decode_samplePlanner
  have hlength : (centersBase restingNumpy (fun _ => zero) (fun _ point => point) droppedHistory
      restingProprio).toOption.map List.length = some 2 := by
    decide +kernel
  cases hcenters : centersBase restingNumpy (fun _ => zero) (fun _ point => point) droppedHistory
      restingProprio with
  | error fault =>
    rw [hcenters] at hlength
    cases hlength
  | ok centers =>
    rw [hcenters] at hlength
    have htwo : centers.length = 2 := Option.some.inj hlength
    have hremaining : (remainingTime config 0).toOption.isSome = true := by
      unfold remainingTime
      rw [hcatch, if_pos (show isFinite (ofRat ((54 - 0 : ℤ) : ℚ) : Binary64) = true by
        decide +kernel)]
      rfl
    refine ⟨config, centers, hdecode, rfl, ?_⟩
    rw [predictIntercept_of_few (by omega) (by omega)]
    cases hremains : remainingTime config 0 with
    | ok remaining => rfl
    | error fault =>
      rw [hremains] at hremaining
      cases hremaining

end FrankaDeploy.OnlineTabletop
