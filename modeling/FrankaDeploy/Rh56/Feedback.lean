import FrankaDeploy.Foundation.Python
import Mathlib.Data.Fintype.Basic

/-! # The hand's feedback

What `robot_control/rh56/actuator.py` checks of the values that a transport returns: six integers
per register block, the feedback sample, and the checks of a sample while the hand runs and while it
is being stopped. -/

namespace FrankaDeploy.Rh56

open FrankaDeploy.Foundation
open scoped FloatArith

/-! ## Exceptions -/

def transactionalError (message : String) : PyException :=
  ⟨.ordinary, "RH56TransactionalError", message⟩

def transportError (message : String) : PyException :=
  ⟨.ordinary, "RH56TransportError", message⟩

def deadlineExceeded (message : String) : PyException :=
  ⟨.ordinary, "RH56DeadlineExceeded", message⟩

def stopUnconfirmed (message : String) : PyException :=
  ⟨.ordinary, "RH56StopUnconfirmed", message⟩

/-! ## Six integers -/

abbrev SixIntegers := Vec 6 ℤ

def tupleText (v : SixIntegers) : String :=
  "(" ++ ", ".intercalate ((List.finRange 6).map fun i => toString (v i)) ++ ")"

def listText (l : List ℤ) : String := "[" ++ ", ".intercalate (l.map toString) ++ "]"

def disabledTargets : SixIntegers := fun _ => -1

/-- A sequence that a transport returned: `none` where it is not iterable, and for each element the
finite number that `float` makes of it, `none` where there is none. -/
abbrev RawSequence := Option (List (Option ℚ))

def boundedIntegerMessage (name : String) (minimum maximum : ℤ) : String :=
  s!"{name} must be an integer in {minimum}..{maximum}"

/-- **`_bounded_integer`** of the actuator. -/
def boundedInteger (value : Option ℚ) (name : String) (minimum maximum : ℤ) :
    Except PyException ℤ :=
  match value with
  | none => .error ⟨.ordinary, "ValueError", boundedIntegerMessage name minimum maximum⟩
  | some numeric =>
    if isInteger numeric ∧ minimum ≤ numeric.num ∧ numeric.num ≤ maximum then .ok numeric.num
    else .error ⟨.ordinary, "ValueError", boundedIntegerMessage name minimum maximum⟩

def firstUnbounded (raw : List (Option ℚ)) (name : String) (minimum maximum : ℤ) :
    Option PyException :=
  (List.finRange 6).findSome? fun i : Fin 6 =>
    match boundedInteger (raw.getD i none) s!"{name}[{i}]" minimum maximum with
    | .error e => some e
    | .ok _ => none

/-- **`_six_integers`.** -/
def sixIntegers (values : RawSequence) (name : String) (minimum maximum : ℤ) :
    Except PyException SixIntegers :=
  match values with
  | none => .error (transportError s!"{name} must contain exactly six integers")
  | some raw =>
    if raw.length ≠ 6 then
      .error (transportError s!"{name} returned {raw.length} values, expected six")
    else
      match firstUnbounded raw name minimum maximum with
      | some e => .error (transportError e.message)
      | none => .ok fun i => ((raw.getD i none).getD 0).num

def sixTargets (values : RawSequence) (name : String) (allowDisabled : Bool) :
    Except PyException SixIntegers :=
  sixIntegers values name (if allowDisabled then -1 else 0) 1000

def rawOf (v : SixIntegers) : RawSequence := some ((List.finRange 6).map fun i => some (v i : ℚ))

theorem eq_of_sixIntegers_rawOf {v r : SixIntegers} {name : String} {minimum maximum : ℤ}
    (h : sixIntegers (rawOf v) name minimum maximum = .ok r) : r = v := by
  have hget : ∀ i : Fin 6, ((List.finRange 6).map fun j => some (v j : ℚ)).getD i none =
      some (v i : ℚ) := by
    intro i
    rw [List.getD_eq_getElem?_getD, List.getElem?_map, List.getElem?_eq_getElem (by simp)]
    simp
  rw [rawOf] at h
  unfold sixIntegers at h
  simp only [List.length_map, List.length_finRange, ne_eq, not_true_eq_false, if_false, hget] at h
  cases hfirst : firstUnbounded ((List.finRange 6).map fun i => some (v i : ℚ)) name minimum
    maximum with
  | some e =>
    rw [hfirst] at h
    cases h
  | none =>
    rw [hfirst] at h
    rw [← Except.ok.inj h]
    funext i
    simp

/-! ## The sample -/

def within (minimum maximum : ℤ) (v : SixIntegers) : Prop := ∀ i, minimum ≤ v i ∧ v i ≤ maximum

instance (minimum maximum : ℤ) (v : SixIntegers) : Decidable (within minimum maximum v) :=
  inferInstanceAs (Decidable (∀ i, minimum ≤ v i ∧ v i ≤ maximum))

/-- **`RH56SafetyFeedback`**, with what `__post_init__` checks. -/
structure RH56SafetyFeedback (D : Type) [FloatArith D] where
  capturedMonotonicS : D
  positions : SixIntegers
  angles : SixIntegers
  forcesG : SixIntegers
  currentsMa : SixIntegers
  errors : SixIntegers
  statuses : SixIntegers
  temperaturesC : SixIntegers
  captured_finite : FloatArith.isFinite capturedMonotonicS = true
  positions_within : within (-32768) 32767 positions
  angles_within : within (-32768) 32767 angles
  forces_within : within (-32768) 32767 forcesG
  currents_within : within (-32768) 32767 currentsMa
  errors_within : within 0 255 errors
  statuses_within : within 0 255 statuses
  temperatures_within : within 0 255 temperaturesC

/-- A hand at rest, all axes half open. -/
def restingSample {D : Type} [FloatArith D] (captured : D)
    (h : FloatArith.isFinite captured = true) : RH56SafetyFeedback D where
  capturedMonotonicS := captured
  positions := fun _ => 0
  angles := fun _ => 500
  forcesG := fun _ => 0
  currentsMa := fun _ => 0
  errors := fun _ => 0
  statuses := fun _ => 2
  temperaturesC := fun _ => 20
  captured_finite := h
  positions_within := by decide
  angles_within := by decide
  forces_within := by decide
  currents_within := by decide
  errors_within := by decide
  statuses_within := by decide
  temperatures_within := by decide

def isFaultStatus (status : ℤ) : Bool := status ∈ [5, 6, 7]

def isIdleStatus (status : ℤ) : Bool := status ∈ [2, 255]

/-! ## The actuator's constants -/

/-- **The constants of an actuator**, with what `__init__` checks. -/
structure ActuatorConfig (D : Type) [FloatArith D] where
  commandWatchdogTimeoutS : D
  supervisedInterCommandWatchdogTimeoutS : D
  maximumFeedbackAgeS : D
  maximumRunningAxisCurrentMa : ℤ
  maximumTemperatureC : ℤ
  stopTimeoutS : D
  stopVerifySamples : ℕ
  stopVerifyIntervalS : D
  stopMaxAxisCurrentMa : ℤ
  stopSettleMaxAxisCurrentMa : ℤ
  stopMaxAngleDriftUnits : ℤ
  stopMaxPositionDriftUnits : ℤ
  feedbackToCommandOffsetUnits : SixIntegers
  stopHoldCommandMinimum : SixIntegers
  stopHoldCommandMaximum : SixIntegers
  samples_within : 2 ≤ stopVerifySamples ∧ stopVerifySamples ≤ 10
  hold_within : within 0 1000 stopHoldCommandMinimum ∧ within 0 1000 stopHoldCommandMaximum

/-- The whole range of the registers is a range for the commands that hold a hand. -/
theorem wholeRange_within :
    within 0 1000 (fun _ => 0) ∧ within 0 1000 (fun _ => 1000) := by decide

variable {D : Type} [FloatArith D]

namespace ActuatorConfig

variable (A : ActuatorConfig D)

/-! ## The checks of a sample -/

def exceedsCurrent (limit : ℤ) (v : SixIntegers) : Bool := v.any fun current => limit < |current|

def validateRunningFeedback (feedback : RH56SafetyFeedback D) : Except PyException Unit := do
  if feedback.errors.any (· ≠ 0) then
    .error (transactionalError
      s!"RH56 actuator ERROR is nonzero: {tupleText feedback.errors}")
  if feedback.temperaturesC.any (A.maximumTemperatureC ≤ ·) then
    .error (transactionalError
      (s!"RH56 temperature reached {A.maximumTemperatureC} C: " ++
        tupleText feedback.temperaturesC))
  match (List.finRange 6).find? fun i => isFaultStatus (feedback.statuses i) with
  | some i =>
    .error (transactionalError
      s!"RH56 axis {i} returned fault status {feedback.statuses i}")
  | none => .ok ()
  if exceedsCurrent A.maximumRunningAxisCurrentMa feedback.currentsMa then
    .error (transactionalError
      ("RH56 running current exceeded the commissioned per-axis " ++
        s!"limit {A.maximumRunningAxisCurrentMa}mA: {tupleText feedback.currentsMa}"))

def faultStatusesText (statuses : SixIntegers) : String :=
  let pairs := ((List.finRange 6).filter fun i => isFaultStatus (statuses i)).map fun i =>
    s!"({i}, {statuses i})"
  match pairs with
  | [pair] => s!"({pair},)"
  | _ => "(" ++ ", ".intercalate pairs ++ ")"

/-- The current limit of `_validate_stopped_feedback`. -/
def stoppedCurrentLimit (phase : String) (requireIdle : Bool) (maximumCurrentMa : Option ℤ) :
    Except PyException ℤ :=
  match maximumCurrentMa with
  | none => .ok (if requireIdle then A.stopMaxAxisCurrentMa else A.maximumRunningAxisCurrentMa)
  | some limit => boundedInteger (some limit) s!"{phase} maximum_current_ma" 1 5000

/-- **`_validate_stopped_feedback`.** -/
def validateStoppedFeedback (feedback : RH56SafetyFeedback D) (phase : String)
    (requireIdle : Bool) (maximumCurrentMa : Option ℤ) : Except PyException Unit := do
  if feedback.errors.any (· ≠ 0) then
    .error (stopUnconfirmed s!"{phase} actuator ERROR remains: {tupleText feedback.errors}")
  if feedback.temperaturesC.any (A.maximumTemperatureC ≤ ·) then
    .error (stopUnconfirmed s!"{phase} temperature is unsafe: {tupleText feedback.temperaturesC}")
  if feedback.statuses.any isFaultStatus then
    .error (stopUnconfirmed
      s!"{phase} actuator fault status remains: {faultStatusesText feedback.statuses}")
  let currentLimit ← A.stoppedCurrentLimit phase requireIdle maximumCurrentMa
  if exceedsCurrent currentLimit feedback.currentsMa then
    .error (stopUnconfirmed
      (s!"{phase} current exceeded per-axis bound {currentLimit}mA: " ++
        tupleText feedback.currentsMa))
  if requireIdle && feedback.statuses.any (fun status => !isIdleStatus status) then
    .error (stopUnconfirmed s!"{phase} status is not idle: {tupleText feedback.statuses}")

/-- `max(values) - min(values)` of an axis exceeds a limit. -/
def drifts (limit : ℤ) (values : List ℤ) : Bool :=
  values.any fun x => values.any fun y => limit < x - y

/-- **`_stop_tail_motion_error`**: `none` for a motionless tail. -/
def stopTailMotionError (samples : List (RH56SafetyFeedback D)) : Option String :=
  if samples.length ≠ A.stopVerifySamples then
    some (s!"stable idle tail is incomplete: actual={samples.length}, " ++
      s!"required={A.stopVerifySamples}")
  else
    let problems := (List.finRange 6).flatMap fun axis =>
      let angles := samples.map fun sample => sample.angles axis
      let positions := samples.map fun sample => sample.positions axis
      (if drifts A.stopMaxAngleDriftUnits angles then
        [s!"axis {axis} ANGLE_ACT still moving: {listText angles}"] else []) ++
      if drifts A.stopMaxPositionDriftUnits positions then
        [s!"axis {axis} POS_ACT still moving: {listText positions}"] else []
    if problems = [] then none else some ("; ".intercalate problems)

/-- The hold command of one axis: a residual beyond an end of the calibrated interval that is within
the axis's offset is clamped. -/
def holdCommand (value offset lower upper : ℤ) : ℤ :=
  let command := value + offset
  if upper < command ∧ command - upper ≤ |offset| then upper
  else if command < lower ∧ lower - command ≤ |offset| then lower
  else command

/-- **`_feedback_equivalent_hold_target`.** -/
def feedbackEquivalentHoldTarget (angles : SixIntegers) : Except PyException SixIntegers := do
  let actual ← sixIntegers (rawOf angles) "stop hold ANGLE_ACT" 0 1000
  let command : SixIntegers := fun axis =>
    holdCommand (actual axis) (A.feedbackToCommandOffsetUnits axis) (A.stopHoldCommandMinimum axis)
      (A.stopHoldCommandMaximum axis)
  match (List.finRange 6).find? fun axis =>
      ¬(A.stopHoldCommandMinimum axis ≤ command axis ∧
        command axis ≤ A.stopHoldCommandMaximum axis) with
  | some axis =>
    .error (stopUnconfirmed
      (s!"axis {axis} feedback-equivalent stop hold {command axis} is " ++
        s!"outside calibrated command interval {A.stopHoldCommandMinimum axis}.." ++
        s!"{A.stopHoldCommandMaximum axis}"))
  | none => .ok command

end ActuatorConfig

end FrankaDeploy.Rh56
