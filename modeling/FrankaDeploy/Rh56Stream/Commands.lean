import FrankaDeploy.Rh56Stream.Calibration

/-! # Commands of the hand stream

How `rh56_stream.py` turns feedback into commands and limits the rate of a command: the conversion of
`ANGLE_ACT` into the domain of `ANGLE_SET`, and `_rate_limit`, which rounds to register units in every
tick. Only selected axes have numeric commands. -/

namespace FrankaDeploy.Rh56Stream

open FrankaDeploy.Foundation

def joints : Vec 6 String := fun joint =>
  ["pinky", "ring", "middle", "index", "thumb_bend", "thumb_rotate"].getD joint.val ""

/-- Six `ANGLE_SET` or `ANGLE_ACT` values. -/
abbrev Targets : Type := Vec 6 ℤ

def disabled : Targets := fun _ => -1

/-! ## Feedback -/

def AxisCalibration.outsideValidated (axis : AxisCalibration) (actual : ℤ) : Bool :=
  match axis.feedbackToCommandValidMin, axis.feedbackToCommandValidMax with
  | some low, some high => !(decide (low ≤ actual) && decide (actual ≤ high))
  | _, _ => false

/-- The command that is equivalent to some feedback, before its range is checked: a calibrated
offset may be cut off at the protocol's own end. -/
def AxisCalibration.equivalentCommand (axis : AxisCalibration) (actual : ℤ) : ℤ :=
  let lower := axis.lower
  let upper := axis.upper
  let command := actual + axis.feedbackToCommandOffsetUnits
  if command > upper ∧ upper = 1000 ∧ axis.feedbackToCommandOffsetUnits > 0 ∧
      command - upper ≤ axis.feedbackToCommandOffsetUnits then upper
  else if command < lower ∧ lower = 0 ∧ axis.feedbackToCommandOffsetUnits < 0 ∧
      lower - command ≤ |axis.feedbackToCommandOffsetUnits| then lower
  else command

def boundText : Option ℤ → String
  | some bound => toString bound
  | none => "None"

variable (cal : PipelineCalibration) (selected : Fin 6 → Bool)

def commandFromActual (joint : Fin 6) (actual : ℤ) : Except PyError ℤ :=
  let axis := cal.axes joint
  if axis.outsideValidated actual then
    .error (.runtimeError ("axis " ++ joints joint ++ " ANGLE_ACT " ++ toString actual
      ++ " is outside the validated feedback-to-command range "
      ++ boundText axis.feedbackToCommandValidMin ++ ".."
      ++ boundText axis.feedbackToCommandValidMax))
  else
    let command := axis.equivalentCommand actual
    if axis.lower ≤ command ∧ command ≤ axis.upper then .ok command
    else
      .error (.runtimeError ("axis " ++ joints joint ++ " feedback-equivalent command "
        ++ toString command ++ " is outside the calibrated command range "
        ++ toString axis.lower ++ ".." ++ toString axis.upper))

def selectedCommandsFromActual (actual : Targets) : Except PyError Targets := do
  let commands ← (List.finRange 6).mapM fun joint =>
    if selected joint then commandFromActual cal joint (actual joint) else .ok (-1)
  return fun joint => commands.getD joint (-1)

/-! ## The rate limit -/

def AxisCalibration.limited (axis : AxisCalibration) (before target : ℤ) (dt : ℚ) : ℤ :=
  let limit := axis.maxRateUnitsPerSecond * dt
  let delta := min (max ((target - before : ℤ) : ℚ) (-limit)) limit
  rint (before + delta)

def missingCommand (previous desired : Targets) : Option (Fin 6) :=
  (List.finRange 6).find? fun joint =>
    selected joint && (previous joint == -1 || desired joint == -1)

def rateLimit (previous desired : Targets) (dt : ℚ) : Except PyError Targets :=
  match missingCommand selected previous desired with
  | some joint =>
    .error (.runtimeError ("selected axis " ++ joints joint ++ " unexpectedly has target -1"))
  | none => .ok fun joint =>
    if selected joint then (cal.axes joint).limited (previous joint) (desired joint) dt else -1

/-- **A tick**, by the targets that are desired in it and the time since the last one. -/
structure RateTick where
  desired : Targets
  dt : ℚ

def rateRun (sent : Targets) : List RateTick → Except PyError (List Targets)
  | [] => .ok []
  | tick :: ticks => do
    let next ← rateLimit cal selected sent tick.desired tick.dt
    let rest ← rateRun next ticks
    return next :: rest

def PipelineCalibration.period (cal : PipelineCalibration) : ℚ := 1 / cal.controlHz

end FrankaDeploy.Rh56Stream
