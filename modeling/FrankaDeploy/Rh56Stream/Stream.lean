import FrankaDeploy.Rh56Stream.Commands
import Mathlib.Data.Fintype.Pi

/-! # The hand stream and its callers

What the worker of `SafeRH56Stream` shares with its callers, and the calls themselves. `submit`
reads the event and the state before it takes the locks, at times of its own; what it read there
comes with the call. Everything it does to the shared state happens under the locks, as does the
whole of `request_stop`. -/

namespace FrankaDeploy.Rh56Stream

open FrankaDeploy.Foundation

inductive StreamState where
  | created
  | starting
  | waitingForTracking
  | active
  | stopping
  | stopped
  | faultLatched
  | stopUnconfirmed
  deriving DecidableEq, Repr

/-! ## Frames -/

inductive FrameSource where
  | mano
  | fallbackOpen
  | other
  deriving DecidableEq, Repr

inductive DepthSource where
  | measured
  | held
  | notRequired
  | other
  deriving DecidableEq, Repr

/-- **A submitted `TargetFrame`.** A time that is not finite is `none`. -/
structure SubmittedFrame where
  targets : List ℤ
  capturedAtMonotonic : Option ℚ
  frameNumber : ℤ
  source : FrameSource
  depthEvidenceAtMonotonic : Option (Option ℚ)
  depthSource : DepthSource

/-- **An accepted `TargetFrame`**, as `submit` stores it. -/
structure TargetFrame where
  targets : Targets
  capturedAtMonotonic : ℚ
  frameNumber : ℤ
  source : FrameSource
  depthEvidenceAtMonotonic : Option ℚ
  depthSource : DepthSource
  deriving DecidableEq

/-! ## The shared state -/

inductive Register where
  | angleSet
  | speedSet
  | forceSet
  deriving DecidableEq, Repr

structure StopSample where
  angles : Targets
  positions : Targets
  currents : Targets
  errors : Targets
  statuses : Targets
  temperatures : Targets
  deriving DecidableEq

inductive Purpose where
  /-- A motion write of the loop, in a tick that began at `loopStart`, `dt` after the one before,
  from the commands `previous`. -/
  | motion (loopStart dt : ℚ) (previous : Targets)
  | hold
  | setting
  deriving DecidableEq

inductive StreamEvent where
  | accepted (frame : TargetFrame)
  | stopRequested
  | ticked (loopStart : ℚ) (newest : Option TargetFrame)
  | seeded (seed : Targets)
  | taken (loopStart : ℚ) (frame : TargetFrame)
  | healthy (active : Bool)
  | angleSetRead (targets : Targets)
  | armed
  | write (register : Register) (values : Targets) (purpose : Purpose)
  | idleVerified (verification : List StopSample)
  deriving DecidableEq

/-- **What the worker and the callers share.** -/
structure Shared where
  state : StreamState
  latestTarget : Option TargetFrame
  targetGeneration : ℕ
  stopEvent : Bool
  error : Option PyException
  stopReason : String
  stopConfirmed : Bool
  everActive : Bool
  disableError : Option String
  finalAngleTargets : Option Targets
  physicalStopVerified : Bool

def Shared.init : Shared where
  state := .created
  latestTarget := none
  targetGeneration := 0
  stopEvent := false
  error := none
  stopReason := "not stopped"
  stopConfirmed := false
  everActive := false
  disableError := none
  finalAngleTargets := none
  physicalStopVerified := false

/-! ## `submit` -/

/-- What `submit` read before it took the locks. -/
structure EarlyReads where
  stopEvent : Bool
  fallbackState : StreamState
  everActive : Bool
  state : StreamState
  now : ℚ

def StreamState.accepting (state : StreamState) : Bool :=
  state == .waitingForTracking || state == .active

variable (cal : PipelineCalibration) (selected : Fin 6 → Bool)

/-- The depth evidence of a frame that was captured at `capturedAt`: nothing when the frame is
refused. -/
def depthEvidence (frame : SubmittedFrame) (capturedAt now : ℚ) :
    Except PyError (Option (Option ℚ)) :=
  if frame.source = .mano then
    if frame.depthSource = .notRequired then
      .error (.valueError "MANO target requires measured or held depth")
    else if frame.depthSource = .held ∧ frame.depthEvidenceAtMonotonic = none then
      .error (.valueError "held MANO depth requires the original measured-depth timestamp")
    else
      match frame.depthEvidenceAtMonotonic.getD (some capturedAt) with
      | none => .error (.valueError "depth evidence timestamp must be finite")
      | some evidence =>
        if evidence > capturedAt + 1 / 100 then
          .error (.valueError "depth evidence cannot be newer than its target frame")
        else if now - evidence > cal.trackingTimeoutSeconds then .ok none
        else .ok (some (some evidence))
  else .ok (some none)

def checkTarget (joint : Fin 6) (value : ℤ) : Except PyError Unit :=
  if ¬selected joint then
    if value ≠ -1 then
      .error (.valueError ("unselected axis " ++ joints joint ++ " must have target -1"))
    else .ok ()
  else if ¬(0 ≤ value ∧ value ≤ 1000) then
    .error (.valueError ("axis " ++ joints joint ++ " target must be in 0..1000"))
  else if ¬((cal.axes joint).lower ≤ value ∧ value ≤ (cal.axes joint).upper) then
    .error (.valueError ("axis " ++ joints joint ++ " target " ++ toString value
      ++ " is outside calibrated soft range " ++ toString (cal.axes joint).lower ++ ".."
      ++ toString (cal.axes joint).upper))
  else .ok ()

/-- The checks of a frame with six targets, and what `submit` would store. -/
def validateTargets (frame : SubmittedFrame) (targets : Targets) (capturedAt now : ℚ) :
    Except PyError (Option TargetFrame) :=
  if now - capturedAt < -(1 / 10) then
    .error (.valueError "capture timestamp is in the future")
  else if now - capturedAt > cal.trackingTimeoutSeconds then .ok none
  else if frame.frameNumber < 0 then .error (.valueError "frame_number cannot be negative")
  else if frame.depthSource = .other then .error (.valueError "unknown target depth_source")
  else
    match depthEvidence cal frame capturedAt now with
    | .error e => .error e
    | .ok none => .ok none
    | .ok (some evidence) => do
      let _ ← (List.finRange 6).mapM fun joint => checkTarget cal selected joint (targets joint)
      return some
        { targets := targets
          capturedAtMonotonic := capturedAt
          frameNumber := frame.frameNumber
          source := frame.source
          depthEvidenceAtMonotonic := evidence
          depthSource := if frame.source = .mano then frame.depthSource else .notRequired }

/-- The part of `submit` before the locks: the frame that it would store, nothing when it returns
`False`. -/
def validateFrame (frame : SubmittedFrame) (early : EarlyReads) :
    Except PyError (Option TargetFrame) :=
  if frame.source = .other then
    .error (.valueError "target frame source must be 'mano' or 'fallback_open'")
  else if early.stopEvent then .ok none
  else if frame.source = .fallbackOpen ∧ (early.fallbackState ≠ .active ∨ ¬early.everActive) then
    .ok none
  else if ¬early.state.accepting then .ok none
  else if h : frame.targets.length = 6 then
    match frame.capturedAtMonotonic with
    | none => .error (.valueError "capture timestamp must be finite")
    | some capturedAt =>
      validateTargets cal selected frame (fun joint => frame.targets.get (joint.cast h.symm))
        capturedAt early.now
  else .error (.valueError "target frame must contain six RH56 values")

def Shared.outdated (s : Shared) (frame : TargetFrame) : Bool :=
  match s.latestTarget with
  | none => false
  | some latest =>
    decide (frame.capturedAtMonotonic ≤ latest.capturedAtMonotonic) ||
      decide (frame.frameNumber ≤ latest.frameNumber)

/-- The part of `submit` under the locks. -/
def Shared.store (s : Shared) (frame : TargetFrame) : Bool × Shared :=
  if s.stopEvent ∨ ¬s.state.accepting then (false, s)
  else if frame.source = .fallbackOpen ∧ (s.state ≠ .active ∨ ¬s.everActive) then (false, s)
  else if s.outdated frame then (false, s)
  else (true, { s with latestTarget := some frame, targetGeneration := s.targetGeneration + 1 })

/-- **`submit`**: its result, and what it leaves. -/
def Shared.submit (s : Shared) (frame : SubmittedFrame) (early : EarlyReads) :
    Except PyError Bool × Shared × List StreamEvent :=
  match validateFrame cal selected frame early with
  | .error e => (.error e, s, [])
  | .ok none => (.ok false, s, [])
  | .ok (some accepted) =>
    let stored := s.store accepted
    (.ok stored.1, stored.2, if stored.1 then [.accepted accepted] else [])

/-- **`request_stop`.** -/
def Shared.requestStop (s : Shared) (reason : String) : Shared :=
  { s with
    stopReason := if s.error.isNone ∧ s.stopReason = "not stopped" then reason else s.stopReason
    stopEvent := true }

end FrankaDeploy.Rh56Stream
