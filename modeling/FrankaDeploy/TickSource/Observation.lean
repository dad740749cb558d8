import FrankaDeploy.ClosedLoop.Mapper
import FrankaDeploy.Contracts.Rh56Shaper

/-! # Observations, holds and policy outputs of the tick source

The records of `runtime/v94_policy_tick_source.py` and the hold of `bounded_c2_runtime.py`. What
their constructors check is part of the types where the tick source relies on it. -/

namespace FrankaDeploy.TickSource

open FrankaDeploy.Foundation FrankaDeploy.ClosedLoop FrankaDeploy.Contracts
open scoped FloatArith

variable {D S : Type} [FloatArith D] [FloatArith S]

/-! ## Arguments -/

def positiveFloat (value : D) (name : String) : Except PyError D := do
  let result ← finiteScalar value name
  if result ≤ FloatArith.zero then throw (.valueError s!"{name} must be positive")
  return result

/-- `_nonnegative_integer`: the argument goes through `float`. -/
def nonnegativeInteger (D : Type) [FloatArith D] (value : ℤ) (name : String) : Except PyError ℕ :=
  match FloatArith.toRat? (FloatArith.ofRat value : D) with
  | none => .error (.overflowError "int too large to convert to float")
  | some numeric =>
    if isInteger numeric ∧ 0 ≤ numeric then .ok numeric.num.toNat
    else .error (.valueError s!"{name} must be a non-negative integer")

/-- `_readonly_float_array` on a vector. -/
def readonlyFloatArray {n : ℕ} (value : Vec n S) (name : String) : Except PyError (FiniteVec n S) :=
  if h : value.allFinite = true then .ok ⟨value, h⟩
  else .error (.valueError s!"{name} must have finite shape ({n},)")

/-! ## Observations -/

variable (S) in
structure PolicyPoints where
  dim : ℕ
  rows : Fin 128 → Fin dim → S
  dim_ok : dim = 3 ∨ dim = 6
  finite : ∀ i j, FloatArith.isFinite (rows i j) = true

variable (D S) in
/-- **`V94FreshActuatorSnapshot`**: the robot's state, attached to a hold. -/
structure V94FreshActuatorSnapshot where
  measuredFrankaQRad : FiniteVec 7 S
  frankaStateCapturedMonotonicS : D
  observationRealtimeS : D
  holdArmTarget : Bool
  captured_finite : FloatArith.isFinite frankaStateCapturedMonotonicS = true
  observed_finite : FloatArith.isFinite observationRealtimeS = true

variable (D S) in
/-- **`V94PolicyObservation`**: one observation without action feedback. -/
structure V94PolicyObservation where
  pointcloudXyzrgbPalm : PolicyPoints S
  pointcloudValid : FiniteVec 128 S
  proprioPrefix54 : FiniteVec 54 S
  measuredFrankaQRad : FiniteVec 7 S
  frankaStateCapturedMonotonicS : D
  pointcloudCapturedRealtimeS : D
  observationRealtimeS : D
  cameraFrameId : ℕ
  holdArmTarget : Bool
  controllerState29 : Option (FiniteVec 29 S)
  shaperQDRad : Option (FiniteVec 7 S)
  pointcloudStatus : String
  sourceValidPoints : ℕ
  pointcloudSourceFrameId : ℕ
  state_finite : FloatArith.isFinite frankaStateCapturedMonotonicS = true
  cloud_finite : FloatArith.isFinite pointcloudCapturedRealtimeS = true
  observed_finite : FloatArith.isFinite observationRealtimeS = true

/-! ## Exceptions -/

variable (D S) in
/-- **`V94RecoverableObservationHold`**: a rejected observation that must stage no action. -/
structure V94RecoverableObservationHold where
  cameraFrameId : ℕ
  reason : String
  freshActuatorSnapshot : Option (V94FreshActuatorSnapshot D S)

variable (D S) in
/-- **An exception**, as the handlers of the tick source tell them apart. -/
inductive TickException where
  | hold (hold : V94RecoverableObservationHold D S)
  | raised (error : PyException)

def TickException.text : TickException D S → String
  | .hold h => "V94RecoverableObservationHold: " ++ h.reason
  | .raised error => error.className ++ ": " ++ error.message

def sourceError (message : String) : TickException D S :=
  .raised ⟨.ordinary, "V94PolicyTickSourceError", message⟩

def assertionError (message : String) : TickException D S :=
  .raised ⟨.ordinary, "AssertionError", message⟩

def typeError (message : String) : TickException D S := .raised ⟨.ordinary, "TypeError", message⟩

def ofSource {α : Type} (r : Except PyError α) : Except (TickException D S) α :=
  r.mapError fun e => .raised (e.raised "V94PolicyTickSourceError")

theorem ofSource_eq_ok {α : Type} {r : Except PyError α} {a : α} :
    (ofSource r : Except (TickException D S) α) = .ok a ↔ r = .ok a := by
  cases r with
  | error e => simp [ofSource, Except.mapError]
  | ok b => simp [ofSource, Except.mapError]

def ofCore {α : Type} (r : Except PyError α) : Except (TickException D S) α :=
  r.mapError fun e => .raised (e.raised "ClosedLoopProtocolError")

def ofShaper {α : Type} (r : Except PyError α) : Except (TickException D S) α :=
  r.mapError fun e => .raised (e.raised "RuntimeError")

/-! ## Holds -/

variable (D) in
/-- **`BoundedPolicyTickHold`**: a policy opportunity that stages no actuator command. -/
structure BoundedPolicyTickHold where
  sequence : ℕ
  observedMonotonicS : D
  retryNotBeforeMonotonicS : D
  cameraFrameId : ℕ
  reason : String

/-- `BoundedPolicyTickHold.__post_init__`. The frame identifier went through `float` before. -/
def BoundedPolicyTickHold.postInit (sequence : ℕ) (observed retry : D) (cameraFrameId : ℕ)
    (reason : String) : Except PyError (BoundedPolicyTickHold D) := do
  let sequence ← positiveInteger D sequence "hold sequence"
  let observed ← finiteScalar observed "hold observed_monotonic_s"
  let retry ← finiteScalar retry "hold retry_not_before_monotonic_s"
  if pyStrip reason = "" then throw (.valueError "hold reason must be non-empty")
  if retry < observed then
    throw (.valueError "hold retry time cannot precede its observation")
  return ⟨sequence.1, observed, retry, cameraFrameId, pyStrip reason⟩

/-! ## Policy outputs -/

variable (D S) in
/-- **What a policy returns.** -/
structure PolicyOutput where
  action13 : Option (Vec 13 S)
  exactFrankaTargetQRad : Option (Vec 7 S)
  exactRh56AngleSetRegisterOrder : Option (Vec 6 D)
  bypassRh56HostSlew : Bool
  occludedClearanceLift : Bool

/-- The validation of `output.action13`. -/
def PolicyOutput.rawAction (output : PolicyOutput D S) (name : String) :
    Except PyError (FiniteVec 13 S) :=
  match output.action13 with
  | some action => readonlyFloatArray action name
  | none => .error (.valueError s!"{name} must have finite shape (13,)")

/-! ## The history -/

variable (S) in
/-- **`_HistoryCandidate`**: the frames of the policy's input, one row a frame. -/
structure HistoryCandidate where
  points : List (PolicyPoints S)
  valid : List (FiniteVec 128 S)
  proprio : List (List S)

/-- The proprioception of one frame: the observation's prefix, the previous action and, in the long
layout, the state of the controller. -/
def currentProprio (proprioDim : ℕ) (observation : V94PolicyObservation D S)
    (previous : FiniteVec 13 S) : Except (TickException D S) (List S) :=
  let base67 := List.ofFn observation.proprioPrefix54.1 ++ List.ofFn previous.1
  if proprioDim = 96 then
    match observation.controllerState29 with
    | none => .error (sourceError "96D checkpoint requires same-sample Franka controller_state29")
    | some state => .ok (base67 ++ List.ofFn state.1)
  else .ok base67

def readonlyPointHistory (historyLength dim : ℕ) (points : List (PolicyPoints S)) :
    Except PyError (List (PolicyPoints S)) :=
  if points.length = historyLength ∧ points.all (fun p => p.dim = dim) = true then .ok points
  else .error (.valueError
    s!"point history must have finite shape ({historyLength}, 128, {dim})")

def readonlyValidHistory (historyLength : ℕ) (valid : List (FiniteVec 128 S)) :
    Except PyError (List (FiniteVec 128 S)) :=
  if valid.length = historyLength then .ok valid
  else .error (.valueError s!"valid history must have finite shape ({historyLength}, 128)")

def readonlyProprioHistory (historyLength dim : ℕ) (proprio : List (List S)) :
    Except PyError (List (List S)) :=
  if proprio.length = historyLength ∧
      proprio.all (fun row => decide (row.length = dim) && row.all FloatArith.isFinite) = true then
    .ok proprio
  else .error (.valueError s!"proprio history must have finite shape ({historyLength}, {dim})")

end FrankaDeploy.TickSource
