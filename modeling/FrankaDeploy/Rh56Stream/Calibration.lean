import FrankaDeploy.Foundation.ExceptList

/-! # The calibration of the hand stream

`calibration.py` of the MANO pipeline: what a calibration file says of an axis and of the stream, the
defaults it may leave out and the checks that its loader makes of it. Numbers are exact, and JSON
values have the types that the loader expects. -/

namespace FrankaDeploy.Rh56Stream

open FrankaDeploy.Foundation

def requireThat (c : Prop) [Decidable c] (message : String) : Except PyError Unit :=
  if c then .ok () else .error (.valueError message)

theorem requireThat_eq_ok {c : Prop} [Decidable c] {message : String} {u : Unit} :
    requireThat c message = .ok u ↔ c := by
  unfold requireThat
  by_cases h : c
  · simp [h]
  · simp [h]

theorem requireThat_bind_eq_ok {α : Type} {c : Prop} [Decidable c] {message : String}
    {f : Unit → Except PyError α} {a : α} :
    (requireThat c message >>= f) = .ok a ↔ c ∧ f () = .ok a := by
  rw [except_bind_eq_ok]
  constructor
  · rintro ⟨u, hc, hf⟩
    exact ⟨requireThat_eq_ok.1 hc, hf⟩
  · rintro ⟨hc, hf⟩
    exact ⟨(), requireThat_eq_ok.2 hc, hf⟩

/-! ## An axis -/

structure AxisMapping where
  qOpen : ℚ
  qClosed : ℚ
  commandOpen : ℤ
  commandClosed : ℤ
  enabled : Option Bool
  maxRateUnitsPerSecond : Option ℚ
  openEnterQ : Option ℚ
  openExitQ : Option ℚ
  closedEnterQ : Option ℚ
  closedExitQ : Option ℚ
  hardwareSpeed : Option ℤ
  feedbackToCommandOffsetUnits : Option ℤ
  feedbackToCommandValidMin : Option ℤ
  feedbackToCommandValidMax : Option ℤ

structure AxisCalibration where
  qOpen : ℚ
  qClosed : ℚ
  commandOpen : ℤ
  commandClosed : ℤ
  enabled : Bool
  maxRateUnitsPerSecond : ℚ
  openEnterQ : ℚ
  openExitQ : ℚ
  closedEnterQ : ℚ
  closedExitQ : ℚ
  hardwareSpeed : Option ℤ
  feedbackToCommandOffsetUnits : ℤ
  feedbackToCommandValidMin : Option ℤ
  feedbackToCommandValidMax : Option ℤ

namespace AxisCalibration

/-- What `from_mapping` builds before it checks it. -/
def read (data : AxisMapping) : AxisCalibration where
  qOpen := data.qOpen
  qClosed := data.qClosed
  commandOpen := data.commandOpen
  commandClosed := data.commandClosed
  enabled := data.enabled.getD true
  maxRateUnitsPerSecond := data.maxRateUnitsPerSecond.getD 180
  openEnterQ := data.openEnterQ.getD data.qOpen
  openExitQ := data.openExitQ.getD data.qOpen
  closedEnterQ := data.closedEnterQ.getD data.qClosed
  closedExitQ := data.closedExitQ.getD data.qClosed
  hardwareSpeed := data.hardwareSpeed
  feedbackToCommandOffsetUnits := data.feedbackToCommandOffsetUnits.getD 0
  feedbackToCommandValidMin := data.feedbackToCommandValidMin
  feedbackToCommandValidMax := data.feedbackToCommandValidMax

def ValidFeedbackRange (axis : AxisCalibration) : Prop :=
  match axis.feedbackToCommandValidMin, axis.feedbackToCommandValidMax with
  | some low, some high => 0 ≤ low ∧ low ≤ high ∧ high ≤ 1000
  | _, _ => True

instance (axis : AxisCalibration) : Decidable axis.ValidFeedbackRange := by
  unfold ValidFeedbackRange
  split <;> infer_instance

def fromMapping (data : AxisMapping) : Except PyError AxisCalibration := do
  requireThat (data.feedbackToCommandValidMin.isNone = data.feedbackToCommandValidMax.isNone)
    "feedback_to_command_valid_min/max must be provided together"
  let axis := read data
  requireThat (axis.qOpen < axis.qClosed) "q_closed must be greater than q_open"
  requireThat (0 ≤ axis.qOpen ∧ axis.qOpen < axis.qClosed ∧ axis.qClosed ≤ 4)
    "q range must lie within 0..4 radians"
  requireThat (0 ≤ axis.commandOpen ∧ axis.commandOpen ≤ 1000)
    "RH56 commands must be in 0..1000"
  requireThat (0 ≤ axis.commandClosed ∧ axis.commandClosed ≤ 1000)
    "RH56 commands must be in 0..1000"
  requireThat (axis.commandClosed < axis.commandOpen)
    "RH56 calibration requires command_open > command_closed"
  requireThat (1 ≤ axis.maxRateUnitsPerSecond ∧ axis.maxRateUnitsPerSecond ≤ 1000)
    "max_rate_units_per_second must be in 1..1000"
  requireThat (∀ speed ∈ axis.hardwareSpeed, 1 ≤ speed ∧ speed ≤ 1000)
    "hardware_speed must be in 1..1000 when provided"
  requireThat (-100 ≤ axis.feedbackToCommandOffsetUnits ∧
      axis.feedbackToCommandOffsetUnits ≤ 100)
    "feedback_to_command_offset_units must be in -100..100"
  requireThat (axis.feedbackToCommandOffsetUnits = 0 ∨
      axis.feedbackToCommandValidMin.isSome ∧ axis.feedbackToCommandValidMax.isSome)
    "nonzero feedback_to_command_offset_units requires a validated feedback range"
  requireThat axis.ValidFeedbackRange
    "feedback_to_command_valid_min/max must define a range in 0..1000"
  requireThat (0 ≤ axis.openEnterQ ∧ axis.openEnterQ ≤ axis.qOpen ∧ axis.qOpen ≤ axis.openExitQ ∧
      axis.openExitQ < axis.closedExitQ ∧ axis.closedExitQ ≤ axis.qClosed ∧
      axis.qClosed ≤ axis.closedEnterQ ∧ axis.closedEnterQ ≤ 4)
    ("axis hysteresis must satisfy open_enter_q <= q_open <= "
      ++ "open_exit_q < closed_exit_q <= q_closed <= closed_enter_q")
  return axis

def lower (axis : AxisCalibration) : ℤ := min axis.commandOpen axis.commandClosed

def upper (axis : AxisCalibration) : ℤ := max axis.commandOpen axis.commandClosed

end AxisCalibration

/-! ## The stream -/

structure PipelineMapping where
  axes : Vec 6 AxisMapping
  trackingTimeoutSeconds : Option ℚ
  validFramesToArm : Option ℤ
  armingMaxFrameGapSeconds : Option ℚ
  armingMaxTargetDeltaUnits : Option ℤ
  speed : Option ℤ
  forceLimit : Option ℤ
  controlHz : Option ℚ
  feedbackHz : Option ℚ
  preflightMaxAngleDelta : Option ℤ
  preflightMaxIdleCurrentMa : Option ℤ
  activeCurrentPolicy : Option String
  streamMaxCurrentMa : Option ℤ
  streamMaxTotalCurrentMa : Option ℤ

/-- `PipelineCalibration`, as far as the stream uses it. -/
structure PipelineCalibration where
  axes : Vec 6 AxisCalibration
  trackingTimeoutSeconds : ℚ
  validFramesToArm : ℤ
  armingMaxFrameGapSeconds : ℚ
  armingMaxTargetDeltaUnits : ℤ
  speed : ℤ
  forceLimit : ℤ
  controlHz : ℚ
  feedbackHz : ℚ
  preflightMaxAngleDelta : ℤ
  preflightMaxIdleCurrentMa : ℤ
  activeCurrentPolicy : String
  streamMaxCurrentMa : ℤ
  streamMaxTotalCurrentMa : ℤ

namespace PipelineCalibration

def validate (cal : PipelineCalibration) : Except PyError Unit := do
  requireThat (1 / 10 ≤ cal.trackingTimeoutSeconds ∧ cal.trackingTimeoutSeconds ≤ 5)
    "tracking_timeout_seconds must be in 0.10..5.0"
  requireThat (1 ≤ cal.validFramesToArm ∧ cal.validFramesToArm ≤ 60)
    "valid_frames_to_arm must be in 1..60"
  requireThat (3 / 100 ≤ cal.armingMaxFrameGapSeconds ∧
      cal.armingMaxFrameGapSeconds ≤ cal.trackingTimeoutSeconds)
    "arming_max_frame_gap_seconds must be in 0.03..tracking_timeout_seconds"
  requireThat (0 ≤ cal.armingMaxTargetDeltaUnits ∧ cal.armingMaxTargetDeltaUnits ≤ 1000)
    "arming_max_target_delta_units must be in 0..1000"
  requireThat (1 ≤ cal.speed ∧ cal.speed ≤ 300) "streaming speed must be in 1..300"
  requireThat (1 ≤ cal.forceLimit ∧ cal.forceLimit ≤ 300)
    "streaming force_limit must be in 1..300"
  requireThat (5 ≤ cal.controlHz ∧ cal.controlHz ≤ 100) "control_hz must be in 5..100"
  requireThat (1 / 2 ≤ cal.feedbackHz ∧ cal.feedbackHz ≤ cal.controlHz)
    "feedback_hz must be in 0.5..control_hz"
  requireThat (3 ≤ cal.trackingTimeoutSeconds * cal.controlHz)
    "watchdog timeout must span at least three control ticks"
  requireThat (0 ≤ cal.preflightMaxAngleDelta ∧ cal.preflightMaxAngleDelta ≤ 20)
    "preflight_max_angle_delta must be in 0..20"
  requireThat (0 ≤ cal.preflightMaxIdleCurrentMa ∧ cal.preflightMaxIdleCurrentMa ≤ 2000)
    "preflight_max_idle_current_ma must be in 0..2000"
  requireThat (cal.activeCurrentPolicy = "fault" ∨ cal.activeCurrentPolicy = "monitor_only")
    "active_current_policy must be 'fault' or 'monitor_only'"
  requireThat (100 ≤ cal.streamMaxCurrentMa ∧ cal.streamMaxCurrentMa ≤ 3000)
    "stream_max_current_ma must be in 100..3000"
  requireThat (cal.streamMaxCurrentMa ≤ cal.streamMaxTotalCurrentMa ∧
      cal.streamMaxTotalCurrentMa ≤ 6 * cal.streamMaxCurrentMa)
    ("stream_max_total_current_ma must be between "
      ++ "stream_max_current_ma and six times stream_max_current_ma")
  requireThat (cal.preflightMaxIdleCurrentMa ≤ cal.streamMaxCurrentMa)
    "preflight_max_idle_current_ma cannot exceed stream_max_current_ma"

/-- `PipelineCalibration.load`, of the file's JSON object. -/
def load (data : PipelineMapping) : Except PyError PipelineCalibration := do
  let axes ← (List.finRange 6).mapM fun joint => AxisCalibration.fromMapping (data.axes joint)
  let streamMaxCurrentMa := data.streamMaxCurrentMa.getD 1000
  let result : PipelineCalibration :=
    { axes := fun joint => axes.getD joint (AxisCalibration.read (data.axes joint))
      trackingTimeoutSeconds := data.trackingTimeoutSeconds.getD (3 / 4)
      validFramesToArm := data.validFramesToArm.getD 3
      armingMaxFrameGapSeconds := data.armingMaxFrameGapSeconds.getD (1 / 4)
      armingMaxTargetDeltaUnits := data.armingMaxTargetDeltaUnits.getD 50
      speed := data.speed.getD 120
      forceLimit := data.forceLimit.getD 100
      controlHz := data.controlHz.getD 20
      feedbackHz := data.feedbackHz.getD 5
      preflightMaxAngleDelta := data.preflightMaxAngleDelta.getD 5
      preflightMaxIdleCurrentMa := data.preflightMaxIdleCurrentMa.getD 300
      activeCurrentPolicy := data.activeCurrentPolicy.getD "fault"
      streamMaxCurrentMa := streamMaxCurrentMa
      streamMaxTotalCurrentMa := data.streamMaxTotalCurrentMa.getD (6 * streamMaxCurrentMa) }
  result.validate
  return result

end PipelineCalibration

/-! ## What the loader accepts -/

/-- **An axis that the loader accepts**, as far as the stream relies on it. -/
structure AxisCalibration.Accepted (axis : AxisCalibration) : Prop where
  closed_nonneg : 0 ≤ axis.commandClosed
  closed_lt_open : axis.commandClosed < axis.commandOpen
  open_le : axis.commandOpen ≤ 1000
  one_le_rate : 1 ≤ axis.maxRateUnitsPerSecond
  rate_le : axis.maxRateUnitsPerSecond ≤ 1000

theorem AxisCalibration.accepted_of_fromMapping {data : AxisMapping} {axis : AxisCalibration}
    (h : AxisCalibration.fromMapping data = .ok axis) : axis.Accepted := by
  unfold AxisCalibration.fromMapping at h
  simp only [requireThat_bind_eq_ok] at h
  obtain ⟨-, -, -, hopen, hclosed, hlt, hrate, -, -, -, -, -, heq⟩ := h
  cases heq
  exact ⟨hclosed.1, hlt, hopen.2, hrate.1, hrate.2⟩

theorem AxisCalibration.Accepted.range {axis : AxisCalibration} (h : axis.Accepted) :
    axis.lower = axis.commandClosed ∧ axis.upper = axis.commandOpen :=
  ⟨min_eq_right h.closed_lt_open.le, max_eq_left h.closed_lt_open.le⟩

/-- **A calibration that the loader accepts**, as far as the stream relies on it. -/
structure PipelineCalibration.Accepted (cal : PipelineCalibration) : Prop where
  axes : ∀ joint, (cal.axes joint).Accepted
  one_le_frames : 1 ≤ cal.validFramesToArm
  five_le_hz : 5 ≤ cal.controlHz
  hz_le : cal.controlHz ≤ 100

theorem PipelineCalibration.accepted_of_load {data : PipelineMapping} {cal : PipelineCalibration}
    (h : PipelineCalibration.load data = .ok cal) : cal.Accepted := by
  unfold PipelineCalibration.load at h
  obtain ⟨axes, haxes, h⟩ := except_bind_eq_ok.1 h
  obtain ⟨u, hvalidate, h⟩ := except_bind_eq_ok.1 h
  cases h
  unfold PipelineCalibration.validate at hvalidate
  simp only [requireThat_bind_eq_ok] at hvalidate
  obtain ⟨-, hframes, -, -, -, -, hhz, -⟩ := hvalidate
  refine ⟨?_, hframes.1, hhz.1, hhz.2⟩
  intro joint
  have hall := forall₂_of_mapM_ok haxes
  have hlength : axes.length = 6 := by
    rw [← hall.length_eq, List.length_finRange]
  have hlt : joint.val < axes.length := by
    rw [hlength]
    exact joint.isLt
  have hget := hall.get (i := joint.val) (by rw [List.length_finRange]; exact joint.isLt) hlt
  dsimp only
  rw [List.getD_eq_getElem?_getD, List.getElem?_eq_getElem hlt, Option.getD_some]
  exact AxisCalibration.accepted_of_fromMapping hget

end FrankaDeploy.Rh56Stream
