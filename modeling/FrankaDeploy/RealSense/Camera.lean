import FrankaDeploy.RealSense.StartupGate
import FrankaDeploy.Foundation.Program

/-! # The camera

`RealSenseCamera` of `dynamic_pcd.camera.realsense_camera`: the startup loop, the capture loop and
the calls around them. The device, its queue and the clocks are inputs; the images are left out. What
the camera dequeues, starts and returns is its trace. -/

namespace FrankaDeploy.RealSense

open FrankaDeploy.Foundation FrankaDeploy.Foundation.Program
open scoped FloatArith

variable {D : Type} [FloatArith D]

/-! ## Configuration -/

structure CameraConfig (D : Type) where
  startupRequiredConsecutiveFrames : ℤ
  startupTimeoutS : D
  startupMaxClockOffsetJitterS : D
  maxColorDepthTimestampSkewS : D
  maxCaptureToRetrievalS : D
  maxTimestampFutureSkewS : D

def CameraConfig.limits (config : CameraConfig D) : TimestampLimits D where
  maximumColorDepthSkewS := config.maxColorDepthTimestampSkewS
  maximumTransportAgeS := config.maxCaptureToRetrievalS
  maximumFutureSkewS := config.maxTimestampFutureSkewS
  maximumRetryableFutureSkewS := defaultMaxRetryableFutureSkewS

/-- `_validated_startup_settings`: the gate of the settings. -/
def validatedStartupSettings (config : CameraConfig D) : Except PyException (Gate D) := do
  let gate ← Gate.init config.startupRequiredConsecutiveFrames config.startupMaxClockOffsetJitterS
  if !FloatArith.isFinite config.startupTimeoutS ∨ config.startupTimeoutS ≤ FloatArith.zero then
    throw (valueError "RealSense startup_timeout_s must be finite and > 0")
  if !([config.maxColorDepthTimestampSkewS, config.maxCaptureToRetrievalS,
      config.maxTimestampFutureSkewS].all FloatArith.isFinite) then
    throw (valueError "RealSense timestamp limits must be finite")
  if config.maxColorDepthTimestampSkewS ≤ FloatArith.zero ∨
      config.maxCaptureToRetrievalS ≤ FloatArith.zero ∨
      config.maxTimestampFutureSkewS < FloatArith.zero then
    throw (valueError "RealSense timestamp limits are invalid")
  return gate

/-! ## State and trace -/

structure CameraState (D : Type) where
  started : Bool
  lastSensorFrameNumber : Option ℤ
  lastDepthSensorFrameNumber : Option ℤ
  lastAcceptedSensorFrameNumber : Option ℤ
  lastAcceptedDepthSensorFrameNumber : Option ℤ
  frameId : ℕ
  rejectedTimestampSkewFrames : ℕ
  lastRejectedColorDepthSkewS : Option D
  rejectedTransportStaleFrames : ℕ
  lastRejectedTransportAgeS : Option D
  rejectedFutureSkewFrames : ℕ
  lastRejectedFutureSkewS : Option D
  rejectedNonIncreasingFrames : ℕ
  droppedQueuedFramesets : ℤ
  drainedPendingFramesets : ℕ

/-- The state that `start` resets to; only `frame_id` stays. -/
def CameraState.reset (frameId : ℕ) : CameraState D :=
  ⟨false, none, none, none, none, frameId, 0, none, 0, none, 0, none, 0, 0, 0⟩

def CameraState.init : CameraState D := CameraState.reset 0

inductive Stage where
  | startup
  | runtime
  deriving DecidableEq, Repr

inductive Outcome where
  | arrivedAfterDeadline
  | missingRgbdStream
  | startupRejected
  | startupRejectedTransportStale
  | startupGateRejected
  | startupAccepted
  | rejectedNonIncreasingSequence
  | rejectedTransportStale
  | rejectedFutureSkew
  | rejectedRgbdSkew
  | fatalTimestampValidation
  | accepted
  deriving DecidableEq, Repr

/-- A record of a dequeue: the candidate, what was drained before it, the clocks and the deadline of
the loop, and what became of the candidate. -/
structure Dequeue (D : Type) where
  stage : Stage
  drained : List (Frameset D)
  frames : Frameset D
  host : ClockSample D
  deadlineS : D
  outcome : Outcome
  deriving DecidableEq

/-- `RGBDFrame`, without the images and their geometry. -/
structure RGBDFrame (D : Type) where
  timestamp : D
  frameId : ℕ
  retrievedAtS : D
  timestampDomain : String
  depthTimestampS : D
  colorDepthTimestampSkewS : D
  colorDepthEpochTimestampSkewS : D
  rejectedTimestampSkewFrames : ℕ
  lastRejectedColorDepthSkewS : Option D
  droppedQueuedFramesets : ℤ
  sensorFrameNumber : ℤ
  depthSensorFrameNumber : ℤ
  rejectedTransportStaleFrames : ℕ
  lastRejectedTransportAgeS : Option D
  retrievedMonotonicS : D
  hostClockPairSpanS : D

inductive Event (D : Type) where
  | starting
  | dequeued (record : Dequeue D)
  /-- The startup gate is ready; its last numbers are the first accepted ones. -/
  | started (color depth : Option ℤ)
  | returned (frame : RGBDFrame D)

abbrev CameraM (D : Type) := Program (CameraState D) (Event D) PyException

/-! ## The queue -/

def latestFrameDrainLimit : ℕ := 64

abbrev Received (D : Type) := Except PyException (Frameset D × List (Frameset D))

def latest : Frameset D → List (Frameset D) → List (Frameset D) × Frameset D
  | first, [] => ([], first)
  | first, next :: rest =>
    let (drained, candidate) := latest next rest
    (first :: drained, candidate)

def waitForLatestFrameset (received : Received D) : CameraM D (List (Frameset D) × Frameset D) := do
  let (first, pending) ← ofExcept received
  let drained := pending.length
  if latestFrameDrainLimit ≤ drained then do
    update fun s =>
      { s with drainedPendingFramesets := s.drainedPendingFramesets + latestFrameDrainLimit }
    fail (runtimeError "RealSense pending frame queue did not quiesce")
  else do
    update fun s => { s with drainedPendingFramesets := s.drainedPendingFramesets + drained }
    ret (latest first pending)

/-- `math.ceil` of the remaining milliseconds raises for what is not finite. -/
def remainingMs (remainingS : D) : Except PyException Unit :=
  let remaining := remainingS * FloatArith.ofRat 1000
  if isNan remaining then .error (valueError "cannot convert float NaN to integer")
  else if !FloatArith.isFinite remaining then
    .error ⟨.ordinary, "OverflowError", "cannot convert float infinity to integer"⟩
  else .ok ()

/-! ## Startup -/

structure StartupTick (D : Type) where
  beforeWaitS : D
  received : Received D
  host : ClockSample D

/-- What the `try` of the startup loop gives. -/
inductive StartupCandidate (D : Type) where
  | late
  | rejected (numbers : Option (ℤ × ℤ)) (host : Option (ClockSample D))
  | valid (record : Outcome → Dequeue D) (color depth : ℤ)

def countStartupRejection (color depth : Frame D) (e : TimestampError D) : CameraM D Outcome :=
  match e with
  | .colorDepthSkew skew => do
    update fun s =>
      { s with
        rejectedTimestampSkewFrames := s.rejectedTimestampSkewFrames + 1
        lastRejectedColorDepthSkewS :=
          if color.frameTimestampUs.isSome && depth.frameTimestampUs.isSome then some skew
          else s.lastRejectedColorDepthSkewS }
    ret .startupRejected
  | .stale age => do
    update fun s =>
      { s with
        rejectedTransportStaleFrames := s.rejectedTransportStaleFrames + 1
        lastRejectedTransportAgeS := some age }
    ret .startupRejectedTransportStale
  | _ => ret .startupRejected

/-- The `try` of the startup loop, from the dequeue on. -/
def startupCandidate (config : CameraConfig D) (deadlineS : D) (host : ClockSample D)
    (drained : List (Frameset D)) (frames : Frameset D) : CameraM D (StartupCandidate D) := do
  let record : Outcome → Dequeue D := fun outcome =>
    ⟨.startup, drained, frames, host, deadlineS, outcome⟩
  match hostClockSample host with
  | .error _ => ret (.rejected none none)
  | .ok _ =>
    if deadlineS ≤ host.monotonicAfterS then do
      emit (.dequeued (record .arrivedAfterDeadline))
      ret .late
    else
      match frames.color, frames.depth with
      | some color, some depth =>
        match validatedEpochCaptureTimestamp config.limits color depth host.realtimeS with
        | .ok _ => ret (.valid record color.number depth.number)
        | .error e => do
          let outcome ← countStartupRejection color depth e
          emit (.dequeued (record outcome))
          ret (.rejected (some (color.number, depth.number)) (some host))
      | _, _ => do
        emit (.dequeued (record .missingRgbdStream))
        ret (.rejected none (some host))

/-- `RuntimeError` of a startup that is over. -/
def startupTimedOut : PyException := runtimeError "RealSense startup readiness gate timed out"

/-- An iteration of the startup loop: the gate after it; `none` when the startup is over. -/
def startupStep (config : CameraConfig D) (deadlineS : D) (tick : StartupTick D) (gate : Gate D) :
    CameraM D (Option (Gate D)) := do
  match ← attempt (waitForLatestFrameset tick.received) with
  | .error e =>
    if e.kind = .ordinary then ret (some (gate.reject none none none)) else fail e
  | .ok (drained, frames) =>
    match ← startupCandidate config deadlineS tick.host drained frames with
    | .late => ret none
    | .rejected numbers host =>
      ret (some (gate.reject (numbers.map (·.1)) (numbers.map (·.2)) host))
    | .valid record color depth => do
      let observed := gate.observeValid color depth tick.host
      emit (.dequeued (record
        (if gate.resetCount < observed.resetCount then .startupGateRejected
        else .startupAccepted)))
      ret (some observed)

/-- `_wait_for_startup_readiness` over its iterations; `none` while it goes on. -/
def waitForStartupReadiness (config : CameraConfig D) (deadlineS : D) :
    List (StartupTick D) → Gate D → CameraM D (Option Unit)
  | [], _ => ret none
  | tick :: ticks, gate => do
    if deadlineS ≤ tick.beforeWaitS then fail startupTimedOut
    else do
      ofExcept (remainingMs (deadlineS - tick.beforeWaitS))
      match ← startupStep config deadlineS tick gate with
      | none => fail startupTimedOut
      | some gate =>
        if gate.ready then do
          update fun s =>
            { s with
              lastSensorFrameNumber := gate.lastSensorFrameNumber
              lastDepthSensorFrameNumber := gate.lastDepthSensorFrameNumber
              lastAcceptedSensorFrameNumber := gate.lastSensorFrameNumber
              lastAcceptedDepthSensorFrameNumber := gate.lastDepthSensorFrameNumber }
          emit (.started gate.lastSensorFrameNumber gate.lastDepthSensorFrameNumber)
          ret (some ())
        else waitForStartupReadiness config deadlineS ticks gate

structure StartInput (D : Type) where
  imported : Except PyException Unit
  opened : Except PyException Unit
  startedAtS : D
  ticks : List (StartupTick D)

def start (config : CameraConfig D) (input : StartInput D) : CameraM D (Option Unit) := do
  let s ← read
  if s.started then ret (some ())
  else do
    let gate ← ofExcept (validatedStartupSettings config)
    ofExcept input.imported
    update fun s => CameraState.reset s.frameId
    emit .starting
    match ← attempt (do
        ofExcept input.opened
        waitForStartupReadiness config (input.startedAtS + config.startupTimeoutS) input.ticks gate) with
    | .error e => do
      update fun s => { s with started := false }
      fail e
    | .ok none => ret none
    | .ok (some ()) => do
      update fun s => { s with started := true }
      ret (some ())

/-! ## Capture -/

structure CaptureTick (D : Type) where
  waitStartedS : D
  received : Received D
  host : ClockSample D
  rejectedAtS : D

def retryableCameraTimeout (message : String) : PyException :=
  ⟨.ordinary, "RetryableCameraTimeout", message⟩

structure Accepted (D : Type) where
  color : Frame D
  depth : Frame D
  capture : CaptureTimestamp D
  host : ClockSample D
  pairSpanS : D

def countRejection (e : TimestampError D) : CameraM D (Outcome × Except PyException String) :=
  match e with
  | .stale age => do
    update fun s =>
      { s with
        rejectedTransportStaleFrames := s.rejectedTransportStaleFrames + 1
        lastRejectedTransportAgeS := some age }
    ret (.rejectedTransportStale, .ok "RealSense produced no transport-fresh RGB-D frame")
  | .futureSkew skew => do
    update fun s =>
      { s with
        rejectedFutureSkewFrames := s.rejectedFutureSkewFrames + 1
        lastRejectedFutureSkewS := some skew }
    ret (.rejectedFutureSkew, .ok "RealSense produced no non-future RGB-D frame")
  | .colorDepthSkew skew => do
    update fun s =>
      { s with
        rejectedTimestampSkewFrames := s.rejectedTimestampSkewFrames + 1
        lastRejectedColorDepthSkewS := some skew }
    ret (.rejectedRgbdSkew, .ok "RealSense produced no synchronized RGB-D frame")
  | .fatal _ =>
    ret (.fatalTimestampValidation,
      .error (runtimeError "RealSense fatal timestamp validation failure (not retryable)"))

def recordNumbers (color depth : Frame D) : CameraM D Unit :=
  update fun s =>
    { s with
      droppedQueuedFramesets :=
        match s.lastSensorFrameNumber with
        | none => s.droppedQueuedFramesets
        | some last => s.droppedQueuedFramesets + max 0 (color.number - last - 1)
      lastSensorFrameNumber := some color.number
      lastDepthSensorFrameNumber := some depth.number }

def capturePair (config : CameraConfig D) (deadlineS : D) (tick : CaptureTick D) (pairSpanS : D)
    (record : Outcome → Dequeue D) (color depth : Frame D) : CameraM D (Option (Accepted D)) := do
  recordNumbers color depth
  match validatedEpochCaptureTimestamp config.limits color depth tick.host.realtimeS with
  | .ok capture => do
    let s ← read
    if !increases s.lastAcceptedSensorFrameNumber color.number ∨
        !increases s.lastAcceptedDepthSensorFrameNumber depth.number then do
      update fun s => { s with rejectedNonIncreasingFrames := s.rejectedNonIncreasingFrames + 1 }
      emit (.dequeued (record .rejectedNonIncreasingSequence))
      check (deadlineS ≤ tick.rejectedAtS)
        (retryableCameraTimeout "RealSense produced no strictly newer RGB-D frame")
      ret none
    else do
      update fun s =>
        { s with
          lastAcceptedSensorFrameNumber := some color.number
          lastAcceptedDepthSensorFrameNumber := some depth.number }
      emit (.dequeued (record .accepted))
      ret (some ⟨color, depth, capture, tick.host, pairSpanS⟩)
  | .error e => do
    let (outcome, retryable) ← countRejection e
    emit (.dequeued (record outcome))
    let message ← ofExcept retryable
    check (deadlineS ≤ tick.rejectedAtS) (retryableCameraTimeout message)
    ret none

def captureStep (config : CameraConfig D) (deadlineS : D) (tick : CaptureTick D) :
    CameraM D (Option (Accepted D)) := do
  check (deadlineS ≤ tick.waitStartedS)
    (retryableCameraTimeout "RealSense produced no fresh synchronized RGB-D frame")
  ofExcept (remainingMs (deadlineS - tick.waitStartedS))
  match ← attempt (waitForLatestFrameset tick.received) with
  | .error e =>
    if e.className = "RuntimeError" then
      fail (retryableCameraTimeout "RealSense runtime frame wait failed")
    else fail e
  | .ok (drained, frames) => do
    let pairSpanS ← ofExcept (hostClockSample tick.host)
    let record : Outcome → Dequeue D := fun outcome =>
      ⟨.runtime, drained, frames, tick.host, deadlineS, outcome⟩
    if deadlineS ≤ tick.host.monotonicAfterS then do
      emit (.dequeued (record .arrivedAfterDeadline))
      fail (retryableCameraTimeout "RealSense frame arrived after the fixed runtime deadline")
    else
      match frames.color, frames.depth with
      | some color, some depth => capturePair config deadlineS tick pairSpanS record color depth
      | _, _ => do
        emit (.dequeued (record .missingRgbdStream))
        fail (runtimeError "failed to get synchronized depth/color frame")

/-- The capture loop over its iterations; `none` while it goes on. -/
def captureLoop (config : CameraConfig D) (deadlineS : D) :
    List (CaptureTick D) → CameraM D (Option (Accepted D))
  | [] => ret none
  | tick :: ticks => do
    match ← captureStep config deadlineS tick with
    | some accepted => ret (some accepted)
    | none => captureLoop config deadlineS ticks

def rgbdFrame (s : CameraState D) (accepted : Accepted D) : RGBDFrame D where
  timestamp := accepted.capture.captureTimestampS
  frameId := s.frameId
  retrievedAtS := accepted.host.realtimeS
  timestampDomain := accepted.color.domain
  depthTimestampS := accepted.depth.timestampS
  colorDepthTimestampSkewS := accepted.capture.colorDepthSkewS
  colorDepthEpochTimestampSkewS := accepted.capture.epochSkewS
  rejectedTimestampSkewFrames := s.rejectedTimestampSkewFrames
  lastRejectedColorDepthSkewS := s.lastRejectedColorDepthSkewS
  droppedQueuedFramesets := s.droppedQueuedFramesets
  sensorFrameNumber := accepted.color.number
  depthSensorFrameNumber := accepted.depth.number
  rejectedTransportStaleFrames := s.rejectedTransportStaleFrames
  lastRejectedTransportAgeS := s.lastRejectedTransportAgeS
  retrievedMonotonicS := accepted.host.monotonicBeforeS
  hostClockPairSpanS := accepted.pairSpanS

structure CaptureInput (D : Type) where
  startInput : StartInput D
  timeoutMs : D
  startedAtS : D
  ticks : List (CaptureTick D)
  aligned : Except PyException Unit

/-- `get_frame`; `none` while it goes on. -/
def getFrame (config : CameraConfig D) (input : CaptureInput D) :
    CameraM D (Option (RGBDFrame D)) := do
  match ← start config input.startInput with
  | none => ret none
  | some () => do
    let timeoutS := input.timeoutMs * milli
    check (!FloatArith.isFinite timeoutS ∨ timeoutS ≤ FloatArith.zero)
      (valueError "RealSense frame timeout must be finite and > 0")
    match ← captureLoop config (input.startedAtS + timeoutS) input.ticks with
    | none => ret none
    | some accepted => do
      ofExcept input.aligned
      update fun s => { s with frameId := s.frameId + 1 }
      let frame := rgbdFrame (← read) accepted
      emit (.returned frame)
      ret (some frame)

/-! ## Calls -/

inductive Call (D : Type) where
  | start (input : StartInput D)
  | getFrame (input : CaptureInput D)
  | stop

def call (config : CameraConfig D) : Call D → CameraM D Bool
  | .start input => do
    match ← attempt (start config input) with
    | .ok none => ret false
    | _ => ret true
  | .getFrame input => do
    match ← attempt (getFrame config input) with
    | .ok none => ret false
    | _ => ret true
  | .stop => do
    update fun s => { s with started := false }
    ret true

def calls (config : CameraConfig D) : List (Call D) → CameraM D Unit
  | [] => ret ()
  | c :: cs => do
    let goesOn ← call config c
    if goesOn then calls config cs else ret ()

end FrankaDeploy.RealSense
