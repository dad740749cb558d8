import FrankaDeploy.PersistentSession.Envelope

/-! # The checks on a robot state

What one control cycle checks of the state that the active handle returned: `_validate_dynamic_state`,
`_validate_static_provenance`, `_state_pose` and the sample check of `_verify_stop`, and the
jerk-limited command. A state is an arbitrary object; the model has what the conversions of its
attributes give. -/

namespace FrankaDeploy.PersistentSession

open FrankaDeploy.Foundation FrankaDeploy.Runtime
open scoped FloatArith

variable {D : Type} [FloatArith D]

/-! ## Objects and conversions -/

structure NdArray (D : Type) where
  shape : List ℕ
  data : List D

/-- `np.asarray(value, dtype=np.float64)` of an attribute, or what it raises. -/
abbrev ArrayValue (D : Type) := Except PyException (NdArray D)

inductive ErrorsObject where
  | missing
  | mapping (values : List Bool)
  /-- An object with attributes: their names and, for Booleans and integers, their truth. -/
  | attributes (values : List (String × Option Bool))
  | other (truth : Option Bool)

/-- **A robot state**, by the attributes that the session reads. -/
structure RobotState (D : Type) where
  robotMode : String
  currentErrors : ErrorsObject
  jointContact : ArrayValue D
  jointCollision : ArrayValue D
  cartesianContact : ArrayValue D
  cartesianCollision : ArrayValue D
  q : ArrayValue D
  dq : ArrayValue D
  oTEE : ArrayValue D
  fTEE : ArrayValue D
  fXCee : ArrayValue D
  iEe : ArrayValue D
  fXCload : ArrayValue D
  iLoad : ArrayValue D
  mEe : Option D
  mLoad : Option D
  mTotal : Option D
  controlCommandSuccessRate : Option D

/-- **The reductions of numpy** that the checks use. -/
structure Numpy (D : Type) where
  sqrt : D → D
  det : Matrix 3 D → D
  gram : Matrix 3 D → Matrix 3 D

def NdArray.entry (a : NdArray D) (k : ℕ) : D := a.data.getD k FloatArith.zero

def NdArray.allFinite (a : NdArray D) : Bool := a.data.all FloatArith.isFinite

/-- An error that a handler of `(TypeError, ValueError)` catches. -/
def PyException.isTypeOrValueError (e : PyException) : Bool :=
  e.className = "TypeError" || e.className = "ValueError"

def readonlyVector (value : ArrayValue D) (size : ℕ) (name : String) :
    Except PyException (Vec size D) :=
  let malformed := valueError s!"{name} must contain {size} finite values"
  match value with
  | .error e => .error (if PyException.isTypeOrValueError e = true then malformed else e)
  | .ok array => do
    refuse (array.shape ≠ [size] ∨ array.allFinite = false) malformed
    return fun i => array.entry i

def robotModeName (raw : String) : String :=
  let text := ((pyLower (pyStrip raw)).replace "robotmode" "").replace "_" ""
  let text := text.replace "." ""
  let text := if text.startsWith "k" then String.ofList (text.toList.drop 1) else text
  if (text.splitOn "idle").length ≠ 1 then "idle"
  else if (text.splitOn "move").length ≠ 1 then "move"
  else text

def hasActiveErrors : ErrorsObject → Except PyException Bool
  | .missing => .error (sessionError "Franka state has no current_errors")
  | .mapping values => .ok (values.any id)
  | .attributes values => .ok (values.any fun item =>
    !(item.1.startsWith "_") && item.2.getD false)
  | .other (some truth) => .ok truth
  | .other none => .error (sessionError "Franka current_errors cannot be evaluated")

def requireClearFlags (value : ArrayValue D) (fieldName : String) (expectedSize : ℕ) :
    Except PyException Unit :=
  let malformed := sessionError s!"Franka state.{fieldName} is malformed"
  match value with
  | .error e => .error (if PyException.isTypeOrValueError e = true then malformed else e)
  | .ok array => do
    refuse (array.shape ≠ [expectedSize] ∨ array.allFinite = false) malformed
    match array.data.findIdx? fun x => !FloatArith.eqv x FloatArith.zero with
    | some active =>
      .error (sessionError s!"Franka state.{fieldName} is active at index {active}")
    | none => .ok ()

def requireNoContact (state : RobotState D) : Except PyException Unit := do
  requireClearFlags state.jointContact "joint_contact" 7
  requireClearFlags state.jointCollision "joint_collision" 7
  requireClearFlags state.cartesianContact "cartesian_contact" 6
  requireClearFlags state.cartesianCollision "cartesian_collision" 6

def stateVectors (state : RobotState D) : Except PyException (Vec 7 D × Vec 7 D) := do
  let q ← readonlyVector state.q 7 "Franka state.q"
  let dq ← readonlyVector state.dq 7 "Franka state.dq"
  return (q, dq)

def isClose (x y tolerance : D) : Bool :=
  FloatArith.le (FloatArith.abs (x - y)) tolerance

/-- `np.allclose` with `rtol=0` on vectors. -/
def vecClose {n : ℕ} (v w : Vec n D) (tolerance : D) : Bool :=
  (List.finRange n).all fun i => isClose (v i) (w i) tolerance

/-- `np.allclose` with `rtol=0` on matrices. -/
def matrixClose {n : ℕ} (v w : Matrix n D) (tolerance : D) : Bool :=
  (List.finRange n).all fun i => vecClose (v i) (w i) tolerance

def identityMatrix (n : ℕ) : Matrix n D := fun i j =>
  if i = j then FloatArith.one else FloatArith.zero

/-- `_state_pose`. A vector of sixteen entries is read column by column. -/
def statePose (value : ArrayValue D) (fieldName : String) : Except PyException (Matrix 4 D) := do
  let raw ← value
  refuse (raw.shape ≠ [16] ∧ raw.shape ≠ [4, 4])
    (sessionError s!"Franka state.{fieldName} is malformed")
  let pose : Matrix 4 D := if raw.shape = [16] then fun i j => raw.entry (4 * j + i)
    else fun i j => raw.entry (4 * i + j)
  refuse (raw.allFinite = false) (sessionError s!"Franka state.{fieldName} is non-finite")
  refuse (vecClose (pose 3) (identityMatrix 4 3) (FloatArith.ofRat (1 / 100000000)) = false)
    (sessionError s!"Franka state.{fieldName} bottom row is invalid")
  return pose

/-- `_state_inertia`. A vector of nine entries is read column by column. -/
def stateInertia (value : ArrayValue D) (fieldName : String) :
    Except PyException (Matrix 3 D) := do
  let raw ← value
  refuse ((raw.shape ≠ [9] ∧ raw.shape ≠ [3, 3]) ∨ raw.allFinite = false)
    (sessionError s!"Franka state.{fieldName} is malformed")
  let inertia : Matrix 3 D := if raw.shape = [9] then fun i j => raw.entry (3 * j + i)
    else fun i j => raw.entry (3 * i + j)
  refuse (matrixClose inertia (fun i j => inertia j i) (FloatArith.ofRat (1 / 10000000000)) = false)
    (sessionError s!"Franka state.{fieldName} is not symmetric")
  return inertia

/-! ## Dynamic checks -/

def firstAxis (p : Fin 7 → Bool) : Option (Fin 7) := (List.finRange 7).find? p

def refuseAxis (p : Fin 7 → Bool) (message : ℕ → String) : Except PyException Unit :=
  match firstAxis p with
  | some i => .error (sessionError (message (i + 1)))
  | none => .ok ()

structure PreviousCycle (D : Type) where
  commandQ : Option (Vec 7 D)
  dq : Option (Vec 7 D)
  measuredAcceleration : Option (Vec 7 D)

def measuredAccelerationOf (envelope : FrankaEnvelope D) (previous : PreviousCycle D)
    (dq : Vec 7 D) (dt : D) : Except PyException (Option (Vec 7 D)) :=
  match previous.dq with
  | none => .ok none
  | some previousDq =>
    if FloatArith.zero < dt then do
      let acceleration : Vec 7 D := fun i => (dq i - previousDq i) / dt
      refuseAxis (fun i => decide (envelope.maximumMeasuredAccelerationRadS2 i +
          FloatArith.ofRat (1 / 1000000000) < FloatArith.abs (acceleration i)))
        fun axis => s!"measured joint acceleration exceeds commissioned limit at axis {axis}"
      match previous.measuredAcceleration with
      | none => .ok (some acceleration)
      | some previousAcceleration => do
        refuseAxis (fun i => decide (envelope.maximumMeasuredJerkRadS3 i +
            FloatArith.ofRat (1 / 10000000) <
              FloatArith.abs ((acceleration i - previousAcceleration i) / dt)))
          fun axis => s!"measured joint jerk exceeds commissioned limit at axis {axis}"
        return some acceleration
    else .ok none

def requireTracking (envelope : FrankaEnvelope D) (previous : PreviousCycle D) (q : Vec 7 D) :
    Except PyException Unit :=
  match previous.commandQ with
  | none => .ok ()
  | some commandQ =>
    refuseAxis (fun i => decide (envelope.maximumTrackingErrorRad i +
        FloatArith.ofRat (1 / 10000000000) < FloatArith.abs (q i - commandQ i)))
      fun axis => s!"joint tracking error exceeds commissioned limit at axis {axis}"

/-- **`_validate_dynamic_state`**: the measured position, velocity and acceleration. -/
def validateDynamicState (envelope : FrankaEnvelope D) (state : RobotState D)
    (previous : PreviousCycle D) (dt : D) (allowLowSuccessRate : Bool) :
    Except PyException (Vec 7 D × Vec 7 D × Option (Vec 7 D)) := do
  let mode := robotModeName state.robotMode
  refuse (mode ≠ "idle" ∧ mode ≠ "move")
    (sessionError s!"Franka mode became unsafe during control: {mode}")
  let active ← hasActiveErrors state.currentErrors
  refuse (active = true) (sessionError "Franka current_errors are active")
  requireNoContact state
  let (q, dq) ← stateVectors state
  refuseAxis (fun i => decide (q i < envelope.safeJointLowerRad i) ||
      decide (envelope.safeJointUpperRad i < q i))
    fun axis => s!"Franka joint {axis} left its commissioned safe interval"
  refuseAxis (fun i => decide (envelope.maximumVelocityRadS i +
      FloatArith.ofRat (1 / 10000000000) < FloatArith.abs (dq i)))
    fun axis => s!"measured joint velocity exceeds commissioned limit at axis {axis}"
  let acceleration ← measuredAccelerationOf envelope previous dq dt
  requireTracking envelope previous q
  let success ← finiteScalar state.controlCommandSuccessRate "Franka control_command_success_rate"
  refuse (¬(FloatArith.zero ≤ success ∧ success ≤ FloatArith.one))
    (sessionError "Franka control_command_success_rate is outside [0,1]")
  refuse (allowLowSuccessRate = false ∧ success < envelope.minimumControlSuccessRate)
    (sessionError "Franka control command success rate is below commissioned minimum")
  return (q, dq, acceleration)

/-! ## Static provenance -/

def requireRigid (np : Numpy D) (pose : Matrix 4 D) (fieldName : String) :
    Except PyException Unit :=
  let rotation : Matrix 3 D := fun i j => pose i.castSucc j.castSucc
  let tolerance : D := FloatArith.ofRat (1 / 1000000)
  refuse (matrixClose (np.gram rotation) (identityMatrix 3) tolerance = false ∨
      isClose (np.det rotation) FloatArith.one tolerance = false)
    (sessionError s!"Franka state.{fieldName} is not a rigid transform")

def requireLoad (envelope : FrankaEnvelope D) (state : RobotState D) : Except PyException Unit :=
  if FloatArith.zero < envelope.expectedExternalLoadMassKg then do
    let com ← readonlyVector state.fXCload 3 "Franka state.F_x_Cload"
    refuse (vecClose com envelope.expectedExternalLoadComM envelope.centerOfMassToleranceM = false)
      (sessionError "Franka F_x_Cload differs from the commissioned load")
    let inertia ← stateInertia state.iLoad "I_load"
    refuse (matrixClose inertia envelope.expectedExternalLoadInertiaKgM2
        envelope.inertiaToleranceKgM2 = false)
      (sessionError "Franka I_load differs from the commissioned load")
  else .ok ()

/-- **`_validate_static_provenance`.** -/
def validateStaticProvenance (np : Numpy D) (envelope : FrankaEnvelope D) (state : RobotState D) :
    Except PyException Unit := do
  let oTEE ← statePose state.oTEE "O_T_EE"
  let fTEE ← statePose state.fTEE "F_T_EE"
  requireRigid np oTEE "O_T_EE"
  requireRigid np fTEE "F_T_EE"
  refuse (matrixClose fTEE envelope.expectedFTEE envelope.fTEETolerance = false)
    (sessionError "Franka F_T_EE differs from the commissioned transform")
  let mass ← finiteScalar state.mEe "Franka state.m_ee"
  refuse (isClose mass envelope.expectedEndEffectorMassKg envelope.massToleranceKg = false)
    (sessionError "Franka m_ee differs from the commissioned adapter and hand")
  let com ← readonlyVector state.fXCee 3 "Franka state.F_x_Cee"
  refuse (vecClose com envelope.expectedEndEffectorComM envelope.centerOfMassToleranceM = false)
    (sessionError "Franka F_x_Cee differs from the commissioned adapter and hand")
  let inertia ← stateInertia state.iEe "I_ee"
  refuse (matrixClose inertia envelope.expectedEndEffectorInertiaKgM2
      envelope.inertiaToleranceKgM2 = false)
    (sessionError "Franka I_ee differs from the commissioned adapter and hand")
  let load ← finiteScalar state.mLoad "Franka state.m_load"
  refuse (isClose load envelope.expectedExternalLoadMassKg envelope.massToleranceKg = false)
    (sessionError "Franka external load mass differs from the commissioned load")
  requireLoad envelope state
  let total ← finiteScalar state.mTotal "Franka state.m_total"
  refuse (isClose total (envelope.expectedEndEffectorMassKg + envelope.expectedExternalLoadMassKg)
      envelope.massToleranceKg = false)
    (sessionError "Franka total mass differs from the commissioned tool and load")

/-! ## Stop samples -/

/-- The sample of `_verify_stop` before its handler. -/
def stopSample (envelope : FrankaEnvelope D) (state : RobotState D) : Except PyException Bool := do
  let (_, dq) ← stateVectors state
  let idle := robotModeName state.robotMode = "idle"
  let lowVelocity := Vec.all id fun i : Fin 7 => FloatArith.le (FloatArith.abs (dq i))
    (envelope.stopMaximumVelocityRadS i + FloatArith.ofRat (1 / 10000000000))
  let active ← hasActiveErrors state.currentErrors
  requireNoContact state
  return decide idle && lowVelocity && !active

/-- **A sample is healthy and idle**; a `ValueError` or a session error is a sample that is not. -/
def stopSampleHealthy (envelope : FrankaEnvelope D) (state : RobotState D) :
    Except PyException Bool :=
  match stopSample envelope state with
  | .ok healthy => .ok healthy
  | .error e =>
    if e.className = "ValueError" ∨ e.className = "FrankaPersistentSessionError" then .ok false
    else .error e

/-! ## The jerk-limited command -/

structure JerkLimitedCommandState (D : Type) where
  q : Vec 7 D
  velocity : Vec 7 D
  acceleration : Vec 7 D

def JerkLimitedCommandState.init (q : Vec 7 D) : JerkLimitedCommandState D :=
  ⟨q, fun _ => FloatArith.zero, fun _ => FloatArith.zero⟩

def npSign (x : D) : D :=
  if isNan x then x
  else if FloatArith.zero < x then FloatArith.one
  else if x < FloatArith.zero then FloatArith.ofRat (-1)
  else FloatArith.zero

/-- `_JerkLimitedCommandState.step`: the next command and the state after it. -/
def JerkLimitedCommandState.step (np : Numpy D) (envelope : FrankaEnvelope D)
    (shaper : JerkLimitedCommandState D) (targetQ : Vec 7 D) (dt : D) :
    Except PyException (Vec 7 D × JerkLimitedCommandState D) := do
  let error : Vec 7 D := fun i => targetQ i - shaper.q i
  let stoppingVelocity : Vec 7 D := fun i => np.sqrt
    (FloatArith.ofRat 2 * envelope.maximumAccelerationRadS2 i * FloatArith.abs (error i))
  let desiredVelocity : Vec 7 D := fun i =>
    npSign (error i) * npMinimum (envelope.maximumVelocityRadS i) (stoppingVelocity i)
  let desiredAcceleration : Vec 7 D := fun i => (desiredVelocity i - shaper.velocity i) / dt
  let lower : Vec 7 D := fun i =>
    npMaximum (npMaximum (npMaximum (-envelope.maximumAccelerationRadS2 i)
        (shaper.acceleration i - envelope.maximumJerkRadS3 i * dt))
      ((-envelope.maximumVelocityRadS i - shaper.velocity i) / dt))
    ((envelope.safeJointLowerRad i - shaper.q i - shaper.velocity i * dt) / (dt * dt))
  let upper : Vec 7 D := fun i =>
    npMinimum (npMinimum (npMinimum (envelope.maximumAccelerationRadS2 i)
        (shaper.acceleration i + envelope.maximumJerkRadS3 i * dt))
      ((envelope.maximumVelocityRadS i - shaper.velocity i) / dt))
    ((envelope.safeJointUpperRad i - shaper.q i - shaper.velocity i * dt) / (dt * dt))
  refuse ((firstAxis fun i => decide (upper i + FloatArith.ofRat (1 / 1000000000000) <
      lower i)).isSome = true)
    (sessionError "no jerk/acceleration/velocity/joint-safe command exists")
  let newAcceleration : Vec 7 D := fun i =>
    npMinimum (npMaximum (desiredAcceleration i) (lower i)) (upper i)
  let newVelocity : Vec 7 D := fun i => shaper.velocity i + newAcceleration i * dt
  let newQ : Vec 7 D := fun i => shaper.q i + newVelocity i * dt
  let actualAcceleration : Vec 7 D := fun i => (newVelocity i - shaper.velocity i) / dt
  let actualJerk : Vec 7 D := fun i => (actualAcceleration i - shaper.acceleration i) / dt
  refuse ((firstAxis fun i => decide (envelope.maximumVelocityRadS i +
      FloatArith.ofRat (1 / 10000000000) < FloatArith.abs (newVelocity i))).isSome = true)
    (sessionError "internal command velocity guard failed")
  refuse ((firstAxis fun i => decide (envelope.maximumAccelerationRadS2 i +
      FloatArith.ofRat (1 / 1000000000) < FloatArith.abs (actualAcceleration i))).isSome = true)
    (sessionError "internal command acceleration guard failed")
  refuse ((firstAxis fun i => decide (envelope.maximumJerkRadS3 i +
      FloatArith.ofRat (1 / 10000000) < FloatArith.abs (actualJerk i))).isSome = true)
    (sessionError "internal command jerk guard failed")
  refuse ((firstAxis fun i =>
      decide (newQ i < envelope.safeJointLowerRad i - FloatArith.ofRat (1 / 1000000000000)) ||
      decide (envelope.safeJointUpperRad i + FloatArith.ofRat (1 / 1000000000000) <
        newQ i)).isSome = true)
    (sessionError "internal command joint guard failed")
  return (newQ, ⟨newQ, newVelocity, actualAcceleration⟩)

end FrankaDeploy.PersistentSession
