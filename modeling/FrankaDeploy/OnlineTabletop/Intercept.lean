import FrankaDeploy.OnlineTabletop.Config

/-! # Predicting the intercept

`_centers_base` and `_predict_intercept`: the centers of the object in the frames of a history that
have enough valid points, and the point where the hand is to meet it. A variable that Python binds in
one branch only is an option here, and to read it unbound is an error. -/

namespace FrankaDeploy.OnlineTabletop

open FrankaDeploy.Foundation
open FloatArith (ofRat isFinite zero one stdMax stdMin)
open scoped FloatArith

variable {D : Type} [FloatArith D]

/-- **What numpy computes** for a prediction. -/
structure Numpy (D : Type) where
  norm : Vec 3 D → D
  dot : Vec 3 D → Vec 3 D → D
  sqrt : D → D
  mean : List D → D
  /-- The coefficients of `np.linalg.lstsq` for a line over times: its slope and its value at the
  time zero. -/
  lstsq : List D → List (Vec 3 D) → Vec 3 D × Vec 3 D
  line : List D → Vec 3 D × Vec 3 D → List (Vec 3 D)

inductive PredictionError where
  | valueError (message : String)
  | overflow
  | unboundLocal (name : String)
deriving DecidableEq, Repr

/-! ## The centers -/

abbrev CloudFrame (D : Type) := List (Vec 3 D × D)

/-- `proprio_history`: its rows, and how many columns they have. -/
structure ProprioHistory (D : Type) where
  width : ℕ
  rows : List (ℕ → D)

def selectedPoints (frame : CloudFrame D) : List (Vec 3 D) :=
  (frame.filter fun point => ofRat (1 / 2) ≤ point.2).map Prod.fst

section Centers

variable (np : Numpy D) (homeQ : Vec 7 D) (basePoint : Vec 7 D → Vec 3 D → Vec 3 D)

def measuredQ (row : ℕ → D) : Vec 7 D := fun joint => row joint + homeQ joint

/-- The center of the valid points of a frame, if there are sixteen and all numbers are finite.
`basePoint` transforms a point of the palm's frame by the pose that a joint vector gives it. -/
def frameCenter (frame : CloudFrame D) (row : ℕ → D) : Option (Vec 3 D) :=
  let selected := selectedPoints frame
  let q := measuredQ homeQ row
  if selected.length < 16 ∨ ¬(selected.all Vec.allFinite = true) ∨ ¬(q.allFinite = true) then none
  else some (basePoint q fun axis => np.mean (selected.map fun point => point axis))

/-- **`_centers_base`.** -/
def centersBase (cloud : List (CloudFrame D)) (proprio : ProprioHistory D) :
    Except PredictionError (List (Vec 3 D)) :=
  if proprio.rows.length ≠ cloud.length ∨ proprio.width < 7 then
    .error (.valueError "online tabletop planner requires pose-aligned proprio history")
  else
    match (cloud.zip proprio.rows).filterMap fun frame =>
        frameCenter np homeQ basePoint frame.1 frame.2 with
    | [] => .error (.valueError "online tabletop planner requires a fresh finite object center")
    | centers => .ok centers

end Centers

def median (values : List D) : D :=
  match values.find? isNan with
  | some nan => nan
  | none =>
    let sorted := values.mergeSort fun x y => FloatArith.le x y
    let middle := sorted.length / 2
    if sorted.length % 2 = 1 then sorted.getD middle zero
    else (sorted.getD (middle - 1) zero + sorted.getD middle zero) / ofRat 2

def medianPoint (points : List (Vec 3 D)) : Vec 3 D := fun axis =>
  median (points.map fun point => point axis)

/-! ## The fit -/

/-- **The local variables after the fit**, with the unbound one. -/
structure FitLocals (D : Type) where
  current : Vec 3 D
  velocity : Vec 3 D
  residual : Option D
  speed : D
  heading : Option D
  stable : Bool
  fitQuality : Bool
  fitUsable : Bool
  admittedSpeedMax : Option D

/-- The tolerance of the speed comparisons, written `1.0e-6`. -/
def speedTolerance : ℚ := 1 / 10 ^ 6

section Predict

variable (np : Numpy D) (config : TabletopOnlinePlannerConfig D) (committedLiveFitSeen : Bool)

def withoutFit (recent : List (Vec 3 D)) : FitLocals D where
  current := medianPoint recent
  velocity := fun _ => zero
  residual := none
  speed := zero
  heading := none
  stable := false
  fitQuality := false
  fitUsable := false
  admittedSpeedMax := none

def fitTimes (count : ℕ) : List D :=
  (List.range count).map fun (i : ℕ) => ofRat (1 - count + i : ℤ) * config.controlDtS

/-- `residual`: the root of the mean squared distance from the line. -/
def fitResidual (selected fitted : List (Vec 3 D)) : D :=
  np.sqrt (np.mean ((selected.zip fitted).map fun pair =>
    let square := fun axis => (pair.1 axis - pair.2 axis) * (pair.1 axis - pair.2 axis)
    square 0 + square 1 + square 2))

def admittedSpeedMax : D :=
  if config.version.adaptive then config.adaptiveSpeedMaxMS else config.speedMaxMS

/-- **The branch with enough samples.** -/
def withFit (index : ℤ) (recent : List (Vec 3 D)) : FitLocals D :=
  let times := fitTimes config recent.length
  let coefficients := np.lstsq times recent
  let velocity := coefficients.1
  let residual := fitResidual np recent (np.line times coefficients)
  let speed := np.norm velocity
  let heading :=
    if speed > ofRat (1 / 10 ^ 9) then np.dot velocity config.motionAxisBase / speed else one
  let forward : Bool := decide (heading ≥ config.headingCosMin) || config.collisionReplan
  let fitQuality : Bool :=
    decide (speed ≤ admittedSpeedMax config + ofRat speedTolerance) &&
      decide (residual ≤ config.maxFitResidualM)
  let stable : Bool :=
    decide (config.speedMinMS - ofRat speedTolerance ≤ speed) &&
      decide (speed ≤ config.speedMaxMS + ofRat speedTolerance) && forward &&
      decide (residual ≤ config.maxFitResidualM)
  let fitUsable : Bool :=
    if config.version.adaptive then
      fitQuality && forward && (decide (speed ≥ ofRat (5 / 1000)) || committedLiveFitSeen)
    else
      stable || ((committedLiveFitSeen || decide (index ≥ config.templateCatchIndex)) &&
        fitQuality)
  { current := if fitUsable then coefficients.2 else medianPoint recent
    velocity := velocity
    residual := some residual
    speed := speed
    heading := some heading
    stable := stable
    fitQuality := fitQuality
    fitUsable := fitUsable
    admittedSpeedMax := some (admittedSpeedMax config) }

/-- The local variables after the `if`. -/
def fitLocals (index : ℤ) (centers : List (Vec 3 D)) : FitLocals D :=
  let count := min config.fitSampleCount.toNat centers.length
  let recent := centers.drop (centers.length - count)
  if config.fitSampleCount ≤ count then withFit np config committedLiveFitSeen index recent
  else withoutFit recent

/-! ## The prediction -/

inductive HorizonSource where
  | measuredArm
  | templateTime
  | contactLatency
deriving DecidableEq, Repr

inductive VelocitySource where
  | liveFit
  | scenarioPrior
deriving DecidableEq, Repr

/-- **The prediction** with its diagnostics. -/
structure Prediction (D : Type) where
  predicted : Vec 3 D
  templateIndex : ℤ
  objectCenterBaseM : Vec 3 D
  velocityBaseMS : Vec 3 D
  planningVelocityBaseMS : Vec 3 D
  speedMS : D
  headingCos : Option D
  fitResidualM : Option D
  stableMotionFit : Bool
  fitQuality : Bool
  admittedSpeedMaxMS : D
  speedOutsideScenarioBand : Bool
  velocitySource : VelocitySource
  holdLastInterceptGoal : Bool
  predictionHorizonS : D
  predictionHorizonSource : HorizonSource
  collisionReplan : Bool

/-- `remaining`: a product with an integer, which Python converts first. -/
def remainingTime (index : ℤ) : Except PredictionError D :=
  let intervals : D := ofRat (config.templateCatchIndex - index : ℤ)
  if isFinite intervals then .ok (stdMax zero (intervals * config.controlDtS))
  else .error .overflow

def horizonOf (index : ℤ) (predictionHorizonS : Option D) (remaining : D) : D × HorizonSource :=
  match predictionHorizonS with
  | some asked => (npClip asked zero config.maxLinearPredictionS, .measuredArm)
  | none =>
    if index < config.templateCatchIndex then
      (stdMin remaining config.maxLinearPredictionS, .templateTime)
    else (stdMin config.contactPredictionLatencyS config.maxLinearPredictionS, .contactLatency)

/-- `nominal_velocity`: the middle of the scenario's speeds along the axis. -/
def nominalVelocity : Vec 3 D := fun axis =>
  config.motionAxisBase axis * (ofRat (1 / 2) * (config.speedMinMS + config.speedMaxMS))

/-- **The result and its diagnostics**, which read what only the branch with enough samples
binds. -/
def diagnose (index : ℤ) (locals : FitLocals D) (horizon : D × HorizonSource) :
    Except PredictionError (Prediction D) :=
  let planningVelocity := if locals.fitUsable then locals.velocity else nominalVelocity config
  match locals.admittedSpeedMax with
  | none => .error (.unboundLocal "admitted_speed_max")
  | some admitted => .ok {
      predicted := fun axis => locals.current axis + planningVelocity axis * horizon.1
      templateIndex := index
      objectCenterBaseM := locals.current
      velocityBaseMS := locals.velocity
      planningVelocityBaseMS := planningVelocity
      speedMS := locals.speed
      headingCos := locals.heading
      fitResidualM := locals.residual
      stableMotionFit := locals.stable
      fitQuality := locals.fitQuality
      admittedSpeedMaxMS := admitted
      speedOutsideScenarioBand :=
        decide (locals.speed < config.speedMinMS - ofRat speedTolerance) ||
          decide (locals.speed > config.speedMaxMS + ofRat speedTolerance)
      velocitySource := if locals.fitUsable then .liveFit else .scenarioPrior
      holdLastInterceptGoal := !locals.fitUsable && committedLiveFitSeen &&
        decide (index < config.templateCatchIndex)
      predictionHorizonS := horizon.1
      predictionHorizonSource := horizon.2
      collisionReplan := config.collisionReplan }

/-- **`_predict_intercept`.** -/
def predictIntercept (centers : List (Vec 3 D)) (index : ℤ) (predictionHorizonS : Option D) :
    Except PredictionError (Prediction D) := do
  let remaining ← remainingTime config index
  diagnose config committedLiveFitSeen index
    (fitLocals np config committedLiveFitSeen index centers)
    (horizonOf config index predictionHorizonS remaining)

end Predict

end FrankaDeploy.OnlineTabletop
