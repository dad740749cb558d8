import FrankaDeploy.CartesianSegment.SuccessWindow
import FrankaDeploy.Foundation.Triple

/-! # The bounded Cartesian segment

`RunBoundedCartesianSegment`. The control handle and the clock are the environment: each call of
them returns or throws as it likes. The numbers that the texts of failures contain are left out. -/

namespace FrankaDeploy.CartesianSegment

open FrankaDeploy.Foundation
open FrankaDeploy.Foundation.Program
open FloatArith (ofRat isFinite zero one stdMax stdMin)
open scoped FloatArith

/-! ## The environment -/

inductive RobotMode where
  | other
  | idle
  | move
  | guiding
  | reflex
  | userStopped
  | automaticErrorRecovery
deriving DecidableEq

variable (W F : Type) [FloatArith F]

/-- **`franka::RobotState`**, the fields that a segment reads. -/
structure RobotState where
  robotMode : RobotMode
  currentErrors : Bool
  cartesianContact : Vec 6 F
  cartesianCollision : Vec 6 F
  jointContact : Vec 7 F
  jointCollision : Vec 7 F
  q : Vec 7 F
  dq : Vec 7 F
  oTEE : Pose F
  oTEEc : Pose F
  controlCommandSuccessRate : F

/-- **What a segment calls.** A call throws the `what()` of an exception. -/
structure ControlEnvironment where
  readOnce : W → Except String (RobotState F × F) × W
  writeOnce : Pose F → Bool → W → Except String Unit × W
  now : W → ℤ × W

variable {W F}

def elapsedSeconds (start stop : ℤ) : F := ofRat (stop - start : ℤ) / ofRat (10 ^ 9)

def elapsedNanoseconds (start stop : ℤ) : ℕ := (stop - start).toNat

/-! ## Failures and telemetry -/

/-- **`CartesianSegmentFailureCode`.** -/
inductive CartesianSegmentFailureCode where
  | none
  | controlIo
  | wallDeadline
  | controlPeriod
  | robotMode
  | robotErrors
  | contactOrCollision
  | jointBounds
  | statePose
  | workspace
  | startTracking
  | startupQualification
  | controlSuccessHardFloor
  | controlSuccessWindow
  | endpointConvergence
  | internalCapacity
deriving DecidableEq, Repr

/-- **`CartesianSegmentTelemetry`.** -/
structure CartesianSegmentTelemetry (F : Type) where
  failureCode : CartesianSegmentFailureCode
  reads : ℕ
  writes : ℕ
  positivePeriodWrites : ℕ
  readToWriteOverruns : ℕ
  maxReadToWriteNs : ℕ
  completeSuccessWindows : ℕ
  successQualified : Bool
  motionFinishedWritten : Bool
  qualificationControlTimeS : F
  qualificationWallTimeS : F
  qualificationRate : F
  trajectoryControlTimeS : F
  endpointControlTimeS : F
  endpointStableTimeS : F
  latestSuccessRate : F
  minimumPostqualificationSuccessRate : F
  latestCompleteWindowAverage : F
  finalTranslationErrorM : F
  finalRotationErrorRad : F
  finalMaxAbsDqRadS : F

def CartesianSegmentTelemetry.initial : CartesianSegmentTelemetry F where
  failureCode := .none
  reads := 0
  writes := 0
  positivePeriodWrites := 0
  readToWriteOverruns := 0
  maxReadToWriteNs := 0
  completeSuccessWindows := 0
  successQualified := false
  motionFinishedWritten := false
  qualificationControlTimeS := zero
  qualificationWallTimeS := zero
  qualificationRate := zero
  trajectoryControlTimeS := zero
  endpointControlTimeS := zero
  endpointStableTimeS := zero
  latestSuccessRate := zero
  minimumPostqualificationSuccessRate := one
  latestCompleteWindowAverage := zero
  finalTranslationErrorM := zero
  finalRotationErrorRad := zero
  finalMaxAbsDqRadS := zero

structure CartesianSegmentError (F : Type) where
  code : CartesianSegmentFailureCode
  telemetry : CartesianSegmentTelemetry F
  message : String

/-- **What leaves a statement early.** -/
inductive SegmentThrown (F : Type) where
  | segment (error : CartesianSegmentError F)
  | other (what : String)
  /-- Nothing: a loop went on beyond the rounds that the model gives it. -/
  | diverged

/-- **What happens in a segment**, in order. -/
inductive SegmentEvent (F : Type) where
  /-- `readOnce` returned a state and a period; the clock then showed `cycleStart`. -/
  | read (state : RobotState F) (dt : F) (cycleStart : ℤ)
  | write (pose : Pose F) (motionFinished : Bool)
  | written
  | failed (code : CartesianSegmentFailureCode)

/-- **The variables of a segment.** `interpolation` also tells whether the segment is initialized
and holds `active_start`. -/
structure SegmentState (W F : Type) where
  world : W
  telemetry : CartesianSegmentTelemetry F
  successWindow : SuccessWindow F
  wallStart : ℤ
  allowInitialZeroPeriod : Bool
  interpolation : Option (PreparedInterpolation F)
  trajectoryElapsed : F
  endpointElapsed : F
  endpointStableElapsed : F
  endpointWallStart : Option ℤ

abbrev Segment (W F α : Type) := Program (SegmentState W F) (SegmentEvent F) (SegmentThrown F) α

def updateTelemetry (f : CartesianSegmentTelemetry F → CartesianSegmentTelemetry F) :
    Segment W F Unit :=
  update fun s => { s with telemetry := f s.telemetry }

/-- **`fail`.** -/
def failSegment {α : Type} (code : CartesianSegmentFailureCode) (message : String) :
    Segment W F α := do
  let s ← read
  emit (.failed code)
  fail (.segment ⟨code, { s.telemetry with failureCode := code }, message⟩)

def failIf (c : Prop) [Decidable c] (code : CartesianSegmentFailureCode) (message : String) :
    Segment W F Unit :=
  runIf c (failSegment code message)

def orThrow {α : Type} : Except String α → Segment W F α
  | .ok a => ret a
  | .error what => fail (.other what)

/-! ## Pure checks -/

section Checks

variable (libm : Libm F) (config : CartesianSegmentConfig F)

abbrev Fault := Option (CartesianSegmentFailureCode × String)

def faultIf (c : Prop) [Decidable c] (code : CartesianSegmentFailureCode) (message : String) :
    Fault :=
  if c then some (code, message) else none

def validateFlagVector {n : ℕ} (values : Vec n F) (name : String) : Fault :=
  (List.finRange n).findSome? fun index =>
    let value := values index
    (faultIf (!isFinite value ∨ value < zero ∨ value > one) .contactOrCollision
      ("Franka " ++ name ++ " contains an invalid value")).or
    (faultIf (value > ofRat (1 / 2)) .contactOrCollision ("Franka reports " ++ name))

/-- The joint check of `validate_live_state`. -/
def validateJoints (q : Vec 7 F) : Fault :=
  (List.finRange 7).findSome? fun index =>
    let value := q index
    let lower := config.jointLowerRad index + config.jointLimitMarginRad
    let upper := config.jointUpperRad index - config.jointLimitMarginRad
    (faultIf (!isFinite value) .jointBounds "Franka q contains NaN or infinity").or
    (faultIf (value < lower ∨ value > upper) .jointBounds "Franka joint left commissioned margin")

def validateLivePose (pose : Pose F) : Fault :=
  (faultIf (!validPose pose) .statePose "Franka O_T_EE is not a finite rigid transform").or
  (faultIf (!inWorkspace pose config) .workspace "measured EEF translation left workspace")

/-- **`validate_live_state`**, the first fault of a state. -/
def validateLiveState (state : RobotState F) : Fault :=
  (faultIf (state.robotMode ≠ .move ∧ state.robotMode ≠ .idle) .robotMode
    "Franka mode became unsafe during native Cartesian motion").or <|
  (faultIf state.currentErrors .robotErrors "Franka current_errors became active").or <|
  (validateFlagVector state.cartesianContact "cartesian_contact").or <|
  (validateFlagVector state.cartesianCollision "cartesian_collision").or <|
  (validateFlagVector state.jointContact "joint_contact").or <|
  (validateFlagVector state.jointCollision "joint_collision").or <|
  (validateJoints config state.q).or <|
  (validateLivePose config state.oTEE).or <|
  faultIf (!isFinite state.controlCommandSuccessRate ∨ state.controlCommandSuccessRate < zero ∨
      state.controlCommandSuccessRate > one) .controlSuccessHardFloor
    "Franka control_command_success_rate is outside [0, 1]"

def validatePeriod (allowInitialZeroPeriod : Bool) (dt : F) : Fault :=
  (faultIf (!isFinite dt ∨ dt < zero ∨ dt > config.maxControlPeriodS ∨
      dt > zero ∧ dt ≤ config.minControlPeriodS) .controlPeriod
    "unsafe Franka control period").or
  (faultIf (FloatArith.eqv dt zero ∧ !allowInitialZeroPeriod) .controlPeriod
    "repeated zero Franka control period")

def wallLimitS : F :=
  let nominalTotal := config.startupDeadlineS + config.durationS + config.endpointTimeoutS
  nominalTotal + stdMax config.wallDeadlineSlackS (config.wallDeadlineFraction * nominalTotal)

def validateWall (wallElapsed : F) : Fault :=
  faultIf (!isFinite wallElapsed ∨ wallElapsed > wallLimitS config) .wallDeadline
    "native Cartesian segment exceeded wall-clock deadline"

/-- **`candidate`**: the read that qualifies the control success. -/
def IsCandidate (positivePeriodWrites : ℕ) (success dt controlTime wallTime : F) : Prop :=
  positivePeriodWrites ≥ config.startupMinPositiveWrites ∧ dt > zero ∧
    success ≥ config.minControlSuccessRate - ofRat kAbsoluteTolerance ∧
    controlTime ≤ config.startupDeadlineS + ofRat kAbsoluteTolerance ∧
    wallTime ≤ config.startupDeadlineS + ofRat kAbsoluteTolerance

instance (n : ℕ) (a b c d : F) : Decidable (IsCandidate config n a b c d) :=
  inferInstanceAs (Decidable (_ ∧ _ ∧ _ ∧ _ ∧ _))

def StartupTimedOut (controlTime wallTime : F) : Prop :=
  controlTime + ofRat timeSlack ≥ config.startupDeadlineS ∨
    wallTime + ofRat timeSlack ≥ config.startupDeadlineS

instance (a b : F) : Decidable (StartupTimedOut config a b) :=
  inferInstanceAs (Decidable (_ ∨ _))

def advance (elapsed dt : F) : F := if dt > zero then elapsed + dt else elapsed

def maxAbsDq (dq : Vec 7 F) : F :=
  (List.finRange 7).foldl (fun worst i => stdMax worst (FloatArith.abs (dq i))) zero

def EndpointGood (translationErrorM rotationErrorRad maxAbsDqRadS : F) : Prop :=
  translationErrorM ≤ config.translationArrivalToleranceM ∧
    rotationErrorRad ≤ config.rotationArrivalToleranceRad ∧
    maxAbsDqRadS ≤ config.settleMaxDqRadS

instance (a b c : F) : Decidable (EndpointGood config a b c) :=
  inferInstanceAs (Decidable (_ ∧ _ ∧ _))

end Checks

/-! ## Calls -/

section Program

variable (libm : Libm F) (env : ControlEnvironment W F) (plannedStart target : Pose F)
  (config : CartesianSegmentConfig F)

def requireNoFault : Fault → Segment W F Unit
  | some (code, message) => failSegment code message
  | none => ret ()

def clockNow : Segment W F ℤ :=
  ofStep fun s => (.ok (env.now s.world).1, { s with world := (env.now s.world).2 })

def callHandle {α : Type} (call : W → Except String α × W) : Segment W F (Except String α) :=
  ofStep fun s => (.ok (call s.world).1, { s with world := (call s.world).2 })

def orControlIo {α : Type} (label : String) : Except String α → Segment W F α
  | .ok a => ret a
  | .error what => failSegment .controlIo (label ++ what)

/-- **`read_state`.** -/
def readState : Segment W F (RobotState F × F) :=
  callHandle env.readOnce >>= orControlIo "Franka Cartesian readOnce failed: "

def updateWriteTiming (cycleStart : ℤ) : Segment W F Unit := do
  let stop ← clockNow env
  let elapsed := elapsedNanoseconds cycleStart stop
  updateTelemetry fun telemetry => { telemetry with
    maxReadToWriteNs := max telemetry.maxReadToWriteNs elapsed
    readToWriteOverruns := telemetry.readToWriteOverruns +
      (if elapsed > config.readToWriteBudgetNs then 1 else 0) }

/-- **`write_pose`.** -/
def writePose (pose : Pose F) (finished : Bool) (cycleStart : ℤ) : Segment W F Unit := do
  emit (.write pose finished)
  let written ← callHandle (env.writeOnce pose finished)
  orControlIo "Franka Cartesian writeOnce failed: " written
  updateTelemetry fun telemetry => { telemetry with
    writes := telemetry.writes + 1
    motionFinishedWritten := telemetry.motionFinishedWritten || finished }
  emit .written
  updateWriteTiming env config cycleStart

/-! ## One control cycle -/

def requireStartTracking (reference candidate : Pose F) (label : String) : Segment W F Unit := do
  let translation := translationError libm reference candidate
  let rotation ← orThrow (rotationError libm reference candidate)
  failIf (translation > config.translationArrivalToleranceM ∨
      rotation > config.rotationArrivalToleranceRad) .startTracking
    (label ++ " exceeds start-tracking bounds")

def initializeStart (state : RobotState F) : Segment W F (PreparedInterpolation F) := do
  failIf (!validPose state.oTEEc) .statePose "Franka O_T_EE_c is not a finite rigid transform"
  failIf (!inWorkspace state.oTEEc config) .workspace
    "active commanded Cartesian start lies outside workspace"
  requireStartTracking libm config plannedStart state.oTEEc
    "active commanded versus planned start"
  requireStartTracking libm config plannedStart state.oTEE "active measured versus planned start"
  requireStartTracking libm config state.oTEE state.oTEEc "active commanded versus measured start"
  let interpolation ← orThrow (PreparedInterpolation.make libm state.oTEEc target)
  update fun s => { s with interpolation := some interpolation }
  return interpolation

def ensureInitialized (state : RobotState F) : Segment W F (PreparedInterpolation F) := do
  let s ← read
  match s.interpolation with
  | some interpolation => ret interpolation
  | none => initializeStart libm plannedStart target config state

def completeQualification (success : F) : Segment W F Unit := do
  let stop ← clockNow env
  updateTelemetry fun telemetry => { telemetry with
    successQualified := true
    qualificationRate := success }
  let s ← read
  let wallTime := elapsedSeconds s.wallStart stop
  updateTelemetry fun telemetry => { telemetry with qualificationWallTimeS := wallTime }
  failIf (wallTime > config.startupDeadlineS + ofRat kAbsoluteTolerance) .startupQualification
    "startup qualification exceeded deadline during hold write"

/-- **A cycle before the qualification**: hold the active start. -/
def qualificationCycle (interpolation : PreparedInterpolation F) (success dt wallElapsed : F)
    (cycleStart : ℤ) : Segment W F Unit := do
  updateTelemetry fun telemetry => { telemetry with
    qualificationControlTimeS := advance telemetry.qualificationControlTimeS dt
    qualificationWallTimeS := wallElapsed }
  let s ← read
  let controlTime := s.telemetry.qualificationControlTimeS
  let candidate := decide
    (IsCandidate config s.telemetry.positivePeriodWrites success dt controlTime wallElapsed)
  failIf (!candidate ∧ StartupTimedOut config controlTime wallElapsed) .startupQualification
    "Franka control-success startup qualification timed out"
  let command := interpolation.start
  failIf (!inWorkspace command config) .workspace "startup hold command lies outside workspace"
  writePose env config command false cycleStart
  runIf (dt > zero) (updateTelemetry fun telemetry => { telemetry with
    positivePeriodWrites := telemetry.positivePeriodWrites + 1 })
  runIf candidate (completeQualification env config success)

def observeSuccess (success dt : F) : Segment W F Unit := do
  let s ← read
  match s.successWindow.observe success dt with
  | .error .capacity =>
    failSegment .internalCapacity "native control-success window exceeded fixed run capacity"
  | .error .diverged => fail .diverged
  | .ok (average, window) =>
    update fun s => { s with successWindow := window }
    runIf (average ≥ zero) do
      updateTelemetry fun telemetry => { telemetry with
        completeSuccessWindows := telemetry.completeSuccessWindows + 1
        latestCompleteWindowAverage := average }
      failIf (average < config.minControlSuccessRate - ofRat kAbsoluteTolerance)
        .controlSuccessWindow "Franka control-success window average is below threshold"

def superviseSuccess (success dt : F) : Segment W F Unit := do
  updateTelemetry fun telemetry => { telemetry with
    minimumPostqualificationSuccessRate :=
      stdMin telemetry.minimumPostqualificationSuccessRate success }
  failIf (success < config.controlSuccessHardFloor - ofRat kAbsoluteTolerance)
    .controlSuccessHardFloor "Franka control success crossed hard floor"
  runIf (dt > zero) (observeSuccess config success dt)

def sendCommand (command : Pose F) (cycleStart : ℤ) : Segment W F Unit := do
  failIf (!validPose command) .statePose
    "native Cartesian interpolation produced an invalid pose"
  failIf (!inWorkspace command config) .workspace "native Cartesian command left workspace"
  writePose env config command false cycleStart

/-- **A cycle on the trajectory.** -/
def trajectoryCycle (interpolation : PreparedInterpolation F) (dt : F) (cycleStart : ℤ) :
    Segment W F Unit := do
  update fun s => { s with
    trajectoryElapsed := advance s.trajectoryElapsed dt
    telemetry := { s.telemetry with
      trajectoryControlTimeS := advance s.trajectoryElapsed dt } }
  let s ← read
  let command ← orThrow
    (interpolation.sample libm (stdMin one (s.trajectoryElapsed / config.durationS)))
  sendCommand env config command cycleStart

def measureEndpoint (state : RobotState F) : Segment W F Bool := do
  let translation := translationError libm state.oTEE target
  updateTelemetry fun telemetry => { telemetry with finalTranslationErrorM := translation }
  let rotation ← orThrow (rotationError libm state.oTEE target)
  updateTelemetry fun telemetry => { telemetry with finalRotationErrorRad := rotation }
  failIf (!state.dq.allFinite) .endpointConvergence "Franka dq contains NaN or infinity at endpoint"
  let velocity := maxAbsDq state.dq
  updateTelemetry fun telemetry => { telemetry with finalMaxAbsDqRadS := velocity }
  return decide (EndpointGood config translation rotation velocity)

def holdTarget (cycleStart : ℤ) : Segment W F Unit := do
  let s ← read
  let endpointWallElapsed := elapsedSeconds (s.endpointWallStart.getD cycleStart) cycleStart
  failIf (s.endpointElapsed + ofRat timeSlack ≥ config.endpointTimeoutS ∨
      endpointWallElapsed + ofRat timeSlack ≥ config.endpointTimeoutS) .endpointConvergence
    "Franka Cartesian endpoint convergence timed out"
  sendCommand env config target cycleStart

def setStable (stable : F) : Segment W F Unit :=
  update fun s => { s with
    endpointStableElapsed := stable
    telemetry := { s.telemetry with endpointStableTimeS := stable } }

/-- **A cycle at the endpoint**: whether the loop goes on. -/
def endpointCycle (state : RobotState F) (dt : F) (cycleStart : ℤ) : Segment W F Bool := do
  update fun s => { s with
    endpointWallStart := some (s.endpointWallStart.getD cycleStart)
    endpointElapsed := advance s.endpointElapsed dt
    telemetry := { s.telemetry with endpointControlTimeS := advance s.endpointElapsed dt } }
  let good ← measureEndpoint libm target config state
  let s ← read
  let stable := if good then s.endpointStableElapsed + dt else zero
  setStable stable
  if good ∧ stable + ofRat timeSlack ≥ config.settleTimeS then
    return false
  else do
    holdTarget env target config cycleStart
    return true

def motionCycle (interpolation : PreparedInterpolation F) (state : RobotState F) (dt : F)
    (cycleStart : ℤ) : Segment W F Bool := do
  superviseSuccess config state.controlCommandSuccessRate dt
  let s ← read
  if s.trajectoryElapsed < config.durationS then do
    trajectoryCycle libm env config interpolation dt cycleStart
    return true
  else endpointCycle libm env target config state dt cycleStart

def checkCycle (state : RobotState F) (dt wallElapsed : F) :
    Segment W F (PreparedInterpolation F) := do
  requireNoFault (validateWall config wallElapsed)
  let s ← read
  requireNoFault (validatePeriod config s.allowInitialZeroPeriod dt)
  update fun s => { s with allowInitialZeroPeriod := false }
  requireNoFault (validateLiveState config state)
  updateTelemetry fun telemetry => { telemetry with
    latestSuccessRate := state.controlCommandSuccessRate }
  ensureInitialized libm plannedStart target config state

def answerRead (interpolation : PreparedInterpolation F) (state : RobotState F) (dt wallElapsed : F)
    (cycleStart : ℤ) : Segment W F Bool := do
  let s ← read
  if s.telemetry.successQualified then
    motionCycle libm env target config interpolation state dt cycleStart
  else do
    qualificationCycle env config interpolation state.controlCommandSuccessRate dt wallElapsed
      cycleStart
    return true

/-- **One round of the loop**: whether it goes on. -/
def controlCycle : Segment W F Bool := do
  let s ← read
  failIf (s.telemetry.reads ≥ kMaximumControlCycles) .internalCapacity
    "native Cartesian segment exceeded maximum control cycles"
  let (state, dt) ← readState env
  updateTelemetry fun telemetry => { telemetry with reads := telemetry.reads + 1 }
  let cycleStart ← clockNow env
  emit (.read state dt cycleStart)
  let s ← read
  let wallElapsed := elapsedSeconds s.wallStart cycleStart
  let interpolation ← checkCycle libm plannedStart target config state dt wallElapsed
  answerRead libm env target config interpolation state dt wallElapsed cycleStart

/-! ## The loop -/

/-- **The control loop**, with at most so many rounds. -/
def controlLoop : ℕ → Segment W F Unit
  | 0 => fail .diverged
  | rounds + 1 => do
    let continues ← controlCycle libm env plannedStart target config
    if continues then controlLoop rounds else ret ()

def segmentBody : Segment W F Unit := do
  controlLoop libm env plannedStart target config (kMaximumControlCycles + 1)
  let finalWriteStart ← clockNow env
  writePose env config target true finalWriteStart

def handleThrown : Except (SegmentThrown F) Unit → Segment W F (CartesianSegmentTelemetry F)
  | .ok () => do
    let s ← read
    return s.telemetry
  | .error (.segment error) => fail (.segment error)
  | .error (.other what) => failSegment .controlIo ("native Cartesian control failed: " ++ what)
  | .error .diverged => fail .diverged

def SegmentState.initial (wallStart : ℤ) (world : W) : SegmentState W F where
  world := world
  telemetry := .initial
  successWindow := .empty config.controlSuccessEvaluationWindowS
  wallStart := wallStart
  allowInitialZeroPeriod := true
  interpolation := none
  trajectoryElapsed := zero
  endpointElapsed := zero
  endpointStableElapsed := zero
  endpointWallStart := none

/-- **The outcome of a call.** -/
inductive SegmentOutcome (F : Type) where
  | returned (telemetry : CartesianSegmentTelemetry F)
  | invalidArgument (message : String)
  | threw (thrown : SegmentThrown F)

/-- **`RunBoundedCartesianSegment`**: the outcome, what happened, and what became of the
environment. -/
def runBoundedCartesianSegment (w : W) : SegmentOutcome F × List (SegmentEvent F) × W :=
  match validateCartesianSegmentContract libm plannedStart target config with
  | .error message => (.invalidArgument message, [], w)
  | .ok () =>
    let start := SegmentState.initial config (env.now w).1 (env.now w).2
    let body := attempt (segmentBody libm env plannedStart target config) >>= handleThrown
    match body start with
    | (.ok telemetry, s, events) => (.returned telemetry, events, s.world)
    | (.error thrown, s, events) => (.threw thrown, events, s.world)

end Program

end FrankaDeploy.CartesianSegment
