import FrankaDeploy.Foundation.Triple
import FrankaDeploy.GraspSequence.Plan
import FrankaDeploy.PersistentSession.RobotState

/-! # External loads of the arm's driver

`FrankaSequenceDriver` of `anydex_pipeline/franka_sequence_driver.py`, as far as it applies, clears and
checks an external load: `apply_external_load_and_verify`, `clear_external_load_and_verify`, the check
of a fresh state, and the motion methods up to the start of a control handle.

The robot is the environment. Its configured load changes only when `set_load` is called, which may
raise before or after it took effect, and a state that it reports carries the configured load. -/

namespace FrankaDeploy.FrankaDriver

open FrankaDeploy.Foundation FrankaDeploy.ClosedLoop FrankaDeploy.GraspSequence
open FrankaDeploy.Foundation.Program
open FrankaDeploy.PersistentSession (Matrix isClose vecClose matrixClose refuse)
open scoped FloatArith

variable (D : Type) [FloatArith D]

/-! ## Loads -/

/-- **An external load**, as `set_load` takes it. -/
structure ExternalLoad where
  massKg : D
  centerM : Vec 3 D
  inertiaKgM2 : Vec 9 D

/-- The payload of `apply_external_load_and_verify`: what the conversions of its attributes give. -/
structure PayloadArgument where
  massKg : Except PyException D
  centerM : Except PyException (Vec 3 D)
  inertiaKgM2 : Except PyException (Matrix 3 D)
  bindingSha256 : String

variable {D}

def columnMajor (m : Matrix 3 D) : Vec 9 D := fun i =>
  m ⟨i % 3, Nat.mod_lt _ (by decide)⟩ ⟨i / 3, by omega⟩

/-- `array.reshape((3, 3), order="F")`. -/
def ofColumnMajor (v : Vec 9 D) : Matrix 3 D := fun i j => v ⟨i + 3 * j, by omega⟩

def zeros3 : Vec 3 D := fun _ => FloatArith.zero

def zeros33 : Matrix 3 D := fun _ _ => FloatArith.zero

def zeroLoad : ExternalLoad D := ⟨FloatArith.zero, zeros3, columnMajor zeros33⟩

/-! ## The driver -/

variable (D) in
/-- The limits of `FrankaMotionLimits` that are read here. -/
structure FrankaMotionLimits where
  expectedMEeKg : Option D
  massToleranceKg : D
  centerOfMassToleranceM : D
  inertiaToleranceKgM2 : D
  jointLowerRad : Vec 7 D
  jointUpperRad : Vec 7 D
  jointLimitMarginRad : D
  maxJointSpeedRadS : D
  maxJointSegmentRad : D
  minJointDurationS : D
  jointArrivalToleranceRad : D
  maxDynamicSegments : ℕ

variable (D) in
/-- **A state that `read_once` reports**, besides the configured load. -/
structure RobotSample where
  checks : Except PyException Unit
  q : Vec 7 D
  oTEE : Pose D
  mTotal : D

/-- **What a call of `set_load` does.** -/
inductive SetLoadResult where
  | applied
  /-- The call raises. The load may be configured nevertheless. -/
  | raised (error : PyException) (applied : Bool)

variable (D) in
/-- **The environment**: the robot, the numerical library and the telemetry tap. -/
structure FrankaRobot (W : Type) where
  limits : FrankaMotionLimits D
  eigvalsh : Matrix 3 D → Except PyException (Vec 3 D)
  readOnce : W → Except PyException (RobotSample D) × W
  setLoad : Option (ExternalLoad D → W → SetLoadResult × W)
  publish : W → Except PyException Unit × W
  prepareHandle : W → Except PyException Unit × W
  jointControl : Vec 7 D → Vec 7 D → W → Except PyException Unit × W
  poseControl : Pose D → Pose D → W → Except PyException Unit × W
  stop : W → Except PyException Unit × W

variable (D) in
/-- **The driver**, and the load that the robot is configured for. -/
structure FrankaSequenceDriver (W : Type) where
  world : W
  configured : ExternalLoad D
  controlHandleActive : Bool
  expectedMassKg : D
  expectedCenterM : Vec 3 D
  expectedInertiaKgM2 : Matrix 3 D
  bindingSha256 : Option String
  loadConfigurationUncertain : Bool

variable (D) in
/-- **What can be observed of the driver.** -/
inductive LoadEvent where
  | setLoad (load : ExternalLoad D)
  /-- A fresh state agreed with the expected load, of this mass. -/
  | verified (massKg : D)
  /-- An application failed, and its rollback to a zero load was not verified. -/
  | rollbackUnverified
  | handleStarted

variable {W : Type}

/-- **A new driver** of a robot with a configured load. -/
def FrankaSequenceDriver.init (world : W) (configured : ExternalLoad D) :
    FrankaSequenceDriver D W where
  world
  configured
  controlHandleActive := false
  expectedMassKg := FloatArith.zero
  expectedCenterM := zeros3
  expectedInertiaKgM2 := zeros33
  bindingSha256 := none
  loadConfigurationUncertain := false

variable (D W) in
abbrev DriverM := Program (FrankaSequenceDriver D W) (LoadEvent D) PyException

/-! ## Calls of the environment -/

def runtimeException (message : String) : PyException := ⟨.ordinary, "RuntimeError", message⟩

def valueException (message : String) : PyException := ⟨.ordinary, "ValueError", message⟩

def robotCall {α : Type} (f : W → Except PyException α × W) : DriverM D W α :=
  ofStep fun s => ((f s.world).1, { s with world := (f s.world).2 })

def setLoadStep (f : ExternalLoad D → W → SetLoadResult × W) (load : ExternalLoad D)
    (s : FrankaSequenceDriver D W) : Except PyException Unit × FrankaSequenceDriver D W :=
  match f load s.world with
  | (.applied, world) => (.ok (), { s with world, configured := load })
  | (.raised e true, world) => (.error e, { s with world, configured := load })
  | (.raised e false, world) => (.error e, { s with world })

variable (env : FrankaRobot D W)

def callSetLoad (massKg : D) (centerM : Vec 3 D) (inertiaKgM2 : Matrix 3 D) : DriverM D W Unit :=
  match env.setLoad with
  | none => fail (runtimeException "connected Franka API does not expose Robot.set_load")
  | some setter => do
    emit (.setLoad ⟨massKg, centerM, columnMajor inertiaKgM2⟩)
    ofStep (setLoadStep setter ⟨massKg, centerM, columnMajor inertiaKgM2⟩)

def setExpectedExternalLoad (massKg : D) (centerM : Vec 3 D) (inertiaKgM2 : Matrix 3 D)
    (bindingSha256 : Option String) : DriverM D W Unit :=
  update fun s =>
    { s with
      expectedMassKg := massKg
      expectedCenterM := centerM
      expectedInertiaKgM2 := inertiaKgM2
      bindingSha256 }

def requireConfigurationIdle : DriverM D W Unit := do
  let s ← read
  check (s.controlHandleActive = true)
    (runtimeException "Franka configuration change is forbidden during a control handle")

/-! ## The check of a state -/

/-- `_coerce_inertia_matrix` of an array of three rows. -/
def coerceInertiaMatrix (eigvalsh : Matrix 3 D → Except PyException (Vec 3 D))
    (array : Matrix 3 D) (name : String) : Except PyException (Matrix 3 D) := do
  refuse (¬ (∀ i, Vec.allFinite (array i) = true))
    (valueException s!"{name} must be a finite 3x3 matrix or 9-vector")
  refuse (¬ matrixClose array (fun i j => array j i) (FloatArith.ofRat (1 / 10000000000)) = true)
    (valueException s!"{name} must be symmetric")
  let eigenvalues ← eigvalsh array
  refuse (npMinimum (npMinimum (eigenvalues 0) (eigenvalues 1)) (eigenvalues 2) <
      FloatArith.ofRat (-1 / 10000000000))
    (valueException s!"{name} must be positive semidefinite")
  return array

/-- The part of `_validate_static_state` that compares a load that is expected. -/
def checkActiveLoad : DriverM D W Unit := do
  let s ← read
  check (s.configured.centerM.allFinite = false)
    (valueException "state.F_x_Cload contains NaN or infinity")
  check (vecClose s.configured.centerM s.expectedCenterM env.limits.centerOfMassToleranceM = false)
    (runtimeException "Franka F_x_Cload differs from the active audited payload")
  let inertia ← ofExcept
    (coerceInertiaMatrix env.eigvalsh (ofColumnMajor s.configured.inertiaKgM2) "state.I_load")
  check (matrixClose inertia s.expectedInertiaKgM2 env.limits.inertiaToleranceKgM2 = false)
    (runtimeException "Franka I_load differs from the active audited payload")

/-- The part of `_validate_static_state` that is about the load. It is skipped without a commissioned
end effector. -/
def checkLoad (sample : RobotSample D) : DriverM D W Unit :=
  match env.limits.expectedMEeKg with
  | none => ret ()
  | some expectedMEeKg => do
    let s ← read
    check (s.loadConfigurationUncertain = true)
      (runtimeException "Franka external load configuration is unverified")
    check (FloatArith.isFinite s.configured.massKg = false ∨
        isClose s.configured.massKg s.expectedMassKg env.limits.massToleranceKg = false)
      (runtimeException "Franka external load mass differs from the active audited load")
    runIf (FloatArith.zero < s.expectedMassKg) (checkActiveLoad env)
    check (FloatArith.isFinite sample.mTotal = false ∨
        isClose sample.mTotal (expectedMEeKg + s.expectedMassKg) env.limits.massToleranceKg = false)
      (runtimeException ("Franka total mass differs from the commissioned end effector " ++
        "plus active audited external load"))
    emit (.verified s.expectedMassKg)

/-- `self._validate_state(self.robot.read_once(), require_idle=True)`. -/
def readValidated : DriverM D W (RobotSample D) := do
  let sample ← robotCall env.readOnce
  ofExcept sample.checks
  checkLoad env sample
  ret sample

/-! ## Applying and clearing a load -/

def isBinding (text : String) : Bool :=
  text.length = 64 && text.toList.all fun c => "0123456789abcdef".toList.contains c

def coerceBoundExternalLoad (payload : PayloadArgument D) :
    Except PyException (D × Vec 3 D × Matrix 3 D × String) := do
  refuse (env.limits.expectedMEeKg.isNone)
    (runtimeException
      "external load requires commissioned end-effector mass/CoM/inertia")
  let mass ← payload.massKg
  refuse (FloatArith.isFinite mass = false ∨ ¬ FloatArith.zero < mass)
    (valueException "external payload mass_kg must be finite and positive")
  let center ← payload.centerM
  refuse (center.allFinite = false)
    (valueException "payload.F_x_Cload_m contains NaN or infinity")
  let array ← payload.inertiaKgM2
  let inertia ← coerceInertiaMatrix env.eigvalsh array "payload.I_load_kg_m2"
  let moments ← env.eigvalsh inertia
  refuse (moments 0 ≤ FloatArith.zero)
    (valueException "external payload inertia must be positive definite")
  refuse (moments 0 + moments 1 + FloatArith.ofRat (1 / 1000000000000) < moments 2)
    (valueException "external payload inertia violates triangle inequality")
  refuse (isBinding payload.bindingSha256 = false)
    (valueException "external payload requires a lowercase audit binding SHA-256")
  return (mass, center, inertia, payload.bindingSha256)

/-- `np.isclose(self._expected_external_load_mass_kg, 0.0, atol=0.0, rtol=0.0)`. -/
def expectsNoMass (s : FrankaSequenceDriver D W) : Bool :=
  isClose s.expectedMassKg FloatArith.zero FloatArith.zero

/-- The outer `try` block of `apply_external_load_and_verify`. -/
def applyLoad (massKg : D) (centerM : Vec 3 D) (inertiaKgM2 : Matrix 3 D) (bindingSha256 : String) :
    DriverM D W Unit := do
  callSetLoad env massKg centerM inertiaKgM2
  setExpectedExternalLoad massKg centerM inertiaKgM2 (some bindingSha256)
  let _ ← readValidated env
  ret ()

/-- The inner `try` block of `apply_external_load_and_verify`. -/
def rollBack : DriverM D W Unit := do
  callSetLoad env FloatArith.zero zeros3 zeros33
  setExpectedExternalLoad FloatArith.zero zeros3 zeros33 none
  let _ ← readValidated env
  ret ()

/-- The handler of `apply_external_load_and_verify`. -/
def recoverApply (applyError : PyException) : DriverM D W Unit := do
  let r ← attempt (rollBack env)
  match r with
  | .ok () =>
    fail (runtimeException ("external payload apply was not verified; zero-load rollback " ++
      s!"was verified: {applyError.message}"))
  | .error rollbackError => do
    update fun s => { s with loadConfigurationUncertain := true }
    emit .rollbackUnverified
    fail (runtimeException ("LOAD CONFIGURATION UNCONFIRMED: payload apply failed and " ++
      s!"zero-load rollback was not verified: apply={applyError.message}; " ++
      s!"rollback={rollbackError.message}"))

def applyExternalLoadAndVerify (payload : PayloadArgument D) : DriverM D W Unit := do
  let (mass, center, inertia, binding) ← ofExcept (coerceBoundExternalLoad env payload)
  requireConfigurationIdle
  let s ← read
  check (s.loadConfigurationUncertain = true) (runtimeException
    "Franka load configuration is uncertain; explicit recovery required")
  check (s.bindingSha256.isSome = true ∨ expectsNoMass s = false)
    (runtimeException "an external Franka load is already active")
  let _ ← readValidated env
  let r ← attempt (applyLoad env mass center inertia binding)
  match r with
  | .ok () => ret ()
  | .error applyError => recoverApply env applyError

/-- The `try` block of `clear_external_load_and_verify`. -/
def clearLoad : DriverM D W Unit := do
  callSetLoad env FloatArith.zero zeros3 zeros33
  setExpectedExternalLoad FloatArith.zero zeros3 zeros33 none
  update fun s => { s with loadConfigurationUncertain := false }
  let _ ← readValidated env
  ret ()

/-- The `try` block of `clear_external_load_and_verify` with its handler. -/
def clearOrLatch : DriverM D W Unit := do
  let r ← attempt (clearLoad env)
  match r with
  | .ok () => ret ()
  | .error e => do
    update fun s => { s with loadConfigurationUncertain := true }
    fail (runtimeException ("LOAD CLEAR UNCONFIRMED: Franka zero external load was not " ++
      s!"verified: {e.message}"))

def clearKnownLoad : DriverM D W Unit := do
  let _ ← readValidated env
  let s ← read
  if s.bindingSha256.isNone = true ∧ expectsNoMass s = true then ret () else clearOrLatch env

def clearExternalLoadAndVerify : DriverM D W Unit := do
  requireConfigurationIdle
  let s ← read
  if s.loadConfigurationUncertain = true then clearOrLatch env else clearKnownLoad env

/-! ## Motions -/

/-- `_run_joint_segment_locked` and `_run_pose_segment_locked`: the load is checked once more before
the handle is started. -/
def runSegmentLocked (control : W → Except PyException Unit × W) : DriverM D W Unit := do
  let _ ← readValidated env
  robotCall env.publish
  robotCall env.prepareHandle
  emit .handleStarted
  robotCall control

/-- `_run_joint_segment` and `_run_pose_segment`. -/
def runSegment (control : W → Except PyException Unit × W) : DriverM D W Unit := do
  requireConfigurationIdle
  update fun s => { s with controlHandleActive := true }
  let r ← attempt (runSegmentLocked env control)
  update fun s => { s with controlHandleActive := false }
  ofExcept r

/-- **How a motion divides its way** into segments from one idle state to the next. -/
structure SegmentLaw (D : Type) [FloatArith D] (S : Type) where
  arrived : RobotSample D → Except PyException Bool
  segment : RobotSample D → Except PyException S
  tracked : RobotSample D → S → Except PyException Unit

def idleBoundary {S : Type} (law : SegmentLaw D S) : DriverM D W (Option (RobotSample D)) := do
  let sample ← readValidated env
  let arrived ← ofExcept (law.arrived sample)
  robotCall env.publish
  ret (if arrived = true then none else some sample)

def dynamicSegment {S : Type} (law : SegmentLaw D S) (control : S → W → Except PyException Unit × W)
    (sample : RobotSample D) : DriverM D W Unit := do
  let segment ← ofExcept (law.segment sample)
  runSegment env (control segment)
  let final ← readValidated env
  ofExcept (law.tracked final segment)
  robotCall env.publish

/-- The loop of `_move_joints_with_time_law` and of `move_pose`: at most `n` more segments. -/
def dynamicSegments {S : Type} (law : SegmentLaw D S) (control : S → W → Except PyException Unit × W)
    (limitMessage : String) : ℕ → DriverM D W Unit
  | 0 => do
    let sample ← idleBoundary env law
    match sample with
    | none => ret ()
    | some _ => fail (runtimeException limitMessage)
  | n + 1 => do
    let sample ← idleBoundary env law
    match sample with
    | none => ret ()
    | some sample => do
      dynamicSegment env law control sample
      dynamicSegments law control limitMessage n

def stoppingOnFailure (m : DriverM D W Unit) : DriverM D W Unit := do
  let r ← attempt m
  match r with
  | .ok () => ret ()
  | .error e => do
    robotCall env.stop
    fail e

def validateJointTarget (limits : FrankaMotionLimits D) (q : Vec 7 D) : Except PyException Unit :=
  if q.allFinite = true ∧ ∀ i, ¬ q i < limits.jointLowerRad i + limits.jointLimitMarginRad ∧
      ¬ limits.jointUpperRad i - limits.jointLimitMarginRad < q i then .ok ()
  else .error (valueException "joint target is outside the joint limits")

def maxJointDelta (q target : Vec 7 D) : D := npMax fun i : Fin 7 => FloatArith.abs (target i - q i)

def jointSegment (limits : FrankaMotionLimits D) (target : Vec 7 D) (maxDynamicSegmentRad : D)
    (sample : RobotSample D) : Except PyException (Vec 7 D × Vec 7 D) := do
  let fraction := FloatArith.stdMin FloatArith.one
    (maxDynamicSegmentRad / maxJointDelta sample.q target)
  let segmentTarget : Vec 7 D := fun i => sample.q i + fraction * (target i - sample.q i)
  validateJointTarget limits segmentTarget
  return (sample.q, segmentTarget)

def jointLaw (limits : FrankaMotionLimits D) (target : Vec 7 D) (maxDynamicSegmentRad : D) :
    SegmentLaw D (Vec 7 D × Vec 7 D) where
  arrived sample := .ok (FloatArith.le (maxJointDelta sample.q target) limits.jointArrivalToleranceRad)
  segment := jointSegment limits target maxDynamicSegmentRad
  tracked sample segment :=
    if limits.jointArrivalToleranceRad < maxJointDelta segment.2 sample.q then
      .error (runtimeException "joint segment tracking error exceeds the arrival tolerance")
    else .ok ()

/-- `_move_joints_with_time_law`; the target is what the coercion of the argument gives. -/
def moveJointsWithTimeLaw (q : Except PyException (Vec 7 D)) (maxDynamicSegmentRad : D) :
    DriverM D W Unit :=
  stoppingOnFailure env do
    let target ← ofExcept q
    ofExcept (validateJointTarget env.limits target)
    dynamicSegments env (jointLaw env.limits target maxDynamicSegmentRad)
      (fun segment => env.jointControl segment.1 segment.2)
      "joint motion exceeded dynamic segment limit" env.limits.maxDynamicSegments

def moveJoints (q : Except PyException (Vec 7 D)) : DriverM D W Unit :=
  moveJointsWithTimeLaw env q env.limits.maxJointSegmentRad

/-- The checks of `move_loaded_joints` on its time law. -/
def checkTimeLaw (limits : FrankaMotionLimits D) (law : LoadedTimeLaw D) :
    Except PyException Unit := do
  let values := [law.maxJointVelocityRadS, law.maxJointAccelerationRadS2, law.maxDynamicSegmentRad,
    law.minSegmentDurationS]
  refuse (¬ values.all (fun value => FloatArith.isFinite value && FloatArith.lt FloatArith.zero value))
    (valueException "loaded joint time-law values must be finite and positive")
  refuse (limits.maxJointSpeedRadS + FloatArith.ofRat (1 / 10 ^ 15) < law.maxJointVelocityRadS)
    (valueException "loaded joint velocity exceeds the driver safety limit")
  refuse (limits.maxJointSegmentRad + FloatArith.ofRat (1 / 10 ^ 15) < law.maxDynamicSegmentRad)
    (valueException "loaded dynamic segment exceeds the driver safety limit")
  refuse (law.minSegmentDurationS + FloatArith.ofRat (1 / 10 ^ 15) < limits.minJointDurationS)
    (valueException "loaded minimum segment duration is below the driver limit")

def moveLoadedJoints (q : Except PyException (Vec 7 D)) (law : LoadedTimeLaw D) :
    DriverM D W Unit := do
  ofExcept (checkTimeLaw env.limits law)
  requireConfigurationIdle
  let s ← read
  check (s.loadConfigurationUncertain = true ∨ s.bindingSha256.isNone = true ∨
      s.expectedMassKg ≤ FloatArith.zero)
    (runtimeException "loaded joint motion requires a verified active external load")
  moveJointsWithTimeLaw env q law.maxDynamicSegmentRad

/-- `move_pose`: the checks of the target and the geometry of its segments are given. -/
def movePose (admitted : Except PyException Unit) (law : SegmentLaw D (Pose D × Pose D)) :
    DriverM D W Unit :=
  stoppingOnFailure env do
    ofExcept admitted
    dynamicSegments env law (fun segment => env.poseControl segment.1 segment.2)
      "Cartesian motion exceeded dynamic segment limit" env.limits.maxDynamicSegments

/-- `hold_pose_control`: the checks of its arguments, of the live and of the final pose are given. -/
def holdPoseControl (admitted : Except PyException Unit)
    (live : RobotSample D → Except PyException (Pose D))
    (final : RobotSample D → Pose D → Except PyException Unit) : DriverM D W Unit :=
  stoppingOnFailure env do
    ofExcept admitted
    let sample ← readValidated env
    let pose ← ofExcept (live sample)
    robotCall env.publish
    runSegment env (env.poseControl pose pose)
    let last ← readValidated env
    ofExcept (final last pose)
    robotCall env.publish

/-! ## Runs -/

/-- **A public call.** -/
inductive LoadCall (D : Type) [FloatArith D] where
  | applyExternalLoadAndVerify (payload : PayloadArgument D)
  | clearExternalLoadAndVerify
  | moveJoints (q : Except PyException (Vec 7 D))
  | moveLoadedJoints (q : Except PyException (Vec 7 D)) (law : LoadedTimeLaw D)
  | movePose (admitted : Except PyException Unit) (law : SegmentLaw D (Pose D × Pose D))
  | holdPoseControl (admitted : Except PyException Unit)
      (live : RobotSample D → Except PyException (Pose D))
      (final : RobotSample D → Pose D → Except PyException Unit)

def LoadCall.isMotion : LoadCall D → Bool
  | applyExternalLoadAndVerify _ => false
  | clearExternalLoadAndVerify => false
  | _ => true

def callOf : LoadCall D → DriverM D W Unit
  | .applyExternalLoadAndVerify payload => applyExternalLoadAndVerify env payload
  | .clearExternalLoadAndVerify => clearExternalLoadAndVerify env
  | .moveJoints q => moveJoints env q
  | .moveLoadedJoints q law => moveLoadedJoints env q law
  | .movePose admitted law => movePose env admitted law
  | .holdPoseControl admitted live final => holdPoseControl env admitted live final

/-- **The driver as a machine.** -/
def loadMachine : Machine (FrankaSequenceDriver D W) (LoadCall D) (LoadEvent D) where
  step s call := (callOf env call s).2

end FrankaDeploy.FrankaDriver
