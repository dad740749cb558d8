import FrankaDeploy.RealSense.Timestamps
import FrankaDeploy.Foundation.EndingRun

/-! # The startup gate

`_StartupReadinessGate`: an uninterrupted run of timestamp-valid framesets whose frame numbers
increase and over which the host's two clocks keep their offset. What is not part of the run clears
it. -/

namespace FrankaDeploy.RealSense

open FrankaDeploy.Foundation
open scoped FloatArith

variable {D : Type} [FloatArith D]

/-! ## The host's clocks -/

structure ClockSample (D : Type) where
  monotonicBeforeS : D
  realtimeS : D
  monotonicAfterS : D
  deriving DecidableEq

/-- `_host_clock_sample`, with the readings given: the span of the pair. -/
def hostClockSample (host : ClockSample D) : Except PyException D :=
  if !([host.monotonicBeforeS, host.realtimeS, host.monotonicAfterS].all FloatArith.isFinite) then
    .error (runtimeError "RealSense host clock samples must be finite")
  else
    let pairSpanS := host.monotonicAfterS - host.monotonicBeforeS
    if pairSpanS < FloatArith.zero then
      .error (runtimeError "RealSense host monotonic clock moved backwards")
    else .ok pairSpanS

def ClockSample.offset (host : ClockSample D) : D := host.realtimeS - host.monotonicBeforeS

/-! ## The gate -/

/-- The state of `_StartupReadinessGate`, less its diagnostics. -/
structure Gate (D : Type) where
  requiredConsecutiveFrames : ℤ
  maximumClockOffsetJitterS : D
  consecutiveValidFrames : ℕ
  resetCount : ℕ
  lastSensorFrameNumber : Option ℤ
  lastDepthSensorFrameNumber : Option ℤ
  sequenceClockOffset : Option (D × D)

def Gate.init (required : ℤ) (jitterS : D) : Except PyException (Gate D) :=
  if required < 2 then
    .error (valueError "RealSense startup_required_consecutive_frames must be >= 2")
  else if !FloatArith.isFinite jitterS ∨ jitterS ≤ FloatArith.zero then
    .error (valueError "RealSense startup_max_clock_offset_jitter_s must be finite and > 0")
  else .ok ⟨required, jitterS, 0, 0, none, none, none⟩

def Gate.ready (gate : Gate D) : Bool := gate.requiredConsecutiveFrames ≤ gate.consecutiveValidFrames

/-- `_validated_frame_number` of an integer. -/
def validatedFrameNumber (value : ℤ) (label : String) : Except PyException ℤ :=
  if value < 0 then .error (valueError s!"RealSense {label} frame number must be >= 0")
  else .ok value

/-- `_validated_frame_number` where there is a number. -/
def validatedOptional (value : Option ℤ) (label : String) : Except PyException (Option ℤ) :=
  match value with
  | none => .ok none
  | some value => (validatedFrameNumber value label).map some

/-- `_record_observation`: the numbers and the offset, validated. -/
def recordObservation (color depth : Option ℤ) (host : Option (ClockSample D)) :
    Except PyException (Option ℤ × Option ℤ × Option D) := do
  let color ← validatedOptional color "color"
  let depth ← validatedOptional depth "depth"
  match host with
  | none => .ok (color, depth, none)
  | some host =>
    if !FloatArith.isFinite host.realtimeS ∨ !FloatArith.isFinite host.monotonicBeforeS then
      .error (valueError "RealSense startup host timestamps must be finite")
    else .ok (color, depth, some host.offset)

def Gate.clearSequence (gate : Gate D) (reference : Option D) : Gate D :=
  { gate with
    resetCount := gate.resetCount + 1
    consecutiveValidFrames := 0
    sequenceClockOffset := reference.map fun offset => (offset, offset) }

/-- `reject`: a number that is no frame number is no anchor. -/
def Gate.reject (gate : Gate D) (color depth : Option ℤ) (host : Option (ClockSample D)) : Gate D :=
  let anchored : Gate D :=
    match recordObservation color depth host with
    | .error _ => gate
    | .ok (color, depth, _) =>
      { gate with
        lastSensorFrameNumber := color.orElse fun _ => gate.lastSensorFrameNumber
        lastDepthSensorFrameNumber := depth.orElse fun _ => gate.lastDepthSensorFrameNumber }
  anchored.clearSequence none

def increases (previous : Option ℤ) (number : ℤ) : Bool := previous.all (· < number)

/-- `next_min_s` and `next_max_s`: the window with one more offset. -/
def widened (window : Option (D × D)) (offset : D) : D × D :=
  match window with
  | none => (offset, offset)
  | some (lower, upper) => (FloatArith.stdMin lower offset, FloatArith.stdMax upper offset)

def Gate.observeValid (gate : Gate D) (color depth : ℤ) (host : ClockSample D) : Gate D :=
  match recordObservation (some color) (some depth) (some host) with
  | .error _ => gate.clearSequence none
  | .ok _ =>
    let anchored : Gate D :=
      { gate with lastSensorFrameNumber := some color, lastDepthSensorFrameNumber := some depth }
    if !increases gate.lastSensorFrameNumber color ∨
        !increases gate.lastDepthSensorFrameNumber depth then
      anchored.clearSequence none
    else
      let window := widened gate.sequenceClockOffset host.offset
      if gate.maximumClockOffsetJitterS < window.2 - window.1 then
        -- the frame of a jump is not counted, but the next run is measured from its offset
        anchored.clearSequence (some host.offset)
      else
        { anchored with
          sequenceClockOffset := some window
          consecutiveValidFrames := gate.consecutiveValidFrames + 1 }

end FrankaDeploy.RealSense
