import FrankaDeploy.Foundation.Machine
import FrankaDeploy.Rh56Stream.Shutdown

/-! # The worker of the hand stream

`_run`, cut into the sections between which the callers may run. Only the worker changes the state
once it is started, and its reads of the hand do not depend on the callers, so a section may hold
several of these. The preflight is one outcome. -/

namespace FrankaDeploy.Rh56Stream

open FrankaDeploy.Foundation

/-! ## The loop -/

/-- **The local variables of the loop.** -/
structure Loop where
  sent : Targets
  desired : Targets
  lastGeneration : ℕ
  consecutiveValid : ℕ
  lastValidCapture : Option ℚ
  lastArmingTargets : Option Targets
  lastTick : ℚ
  nextFeedback : ℚ

def Loop.start (seed : Targets) (now : ℚ) : Loop where
  sent := seed
  desired := seed
  lastGeneration := 0
  consecutiveValid := 0
  lastValidCapture := none
  lastArmingTargets := none
  lastTick := now
  nextFeedback := now

def Loop.reset (l : Loop) : Loop :=
  { l with consecutiveValid := 0, lastValidCapture := none, lastArmingTargets := none }

structure Tick where
  loopStart : ℚ
  targetFrame : Option TargetFrame
  generation : ℕ

variable (cal : PipelineCalibration) (selected : Fin 6 → Bool)

def timedOut (loopStart time : ℚ) : Bool :=
  decide (loopStart - time > cal.trackingTimeoutSeconds)

def Tick.unfit (tick : Tick) : Bool :=
  match tick.targetFrame with
  | none => true
  | some frame =>
    frame.source != .mano || frame.depthSource != .measured ||
      timedOut cal tick.loopStart frame.capturedAtMonotonic

def freshEvidence (loopStart : ℚ) (frame : TargetFrame) : Bool :=
  match frame.depthEvidenceAtMonotonic with
  | none => false
  | some evidence => !timedOut cal loopStart evidence

def admissible (waiting : Bool) (loopStart : ℚ) (frame : TargetFrame) : Bool :=
  !timedOut cal loopStart frame.capturedAtMonotonic &&
    (frame.source != .mano ||
      (frame.depthSource == .measured && freshEvidence cal loopStart frame)) &&
    (!waiting || frame.source == .mano)

def Loop.withinFrameGap (l : Loop) (frame : TargetFrame) : Bool :=
  match l.lastValidCapture with
  | none => true
  | some last => decide (frame.capturedAtMonotonic - last ≤ cal.armingMaxFrameGapSeconds)

def closeTargets (before after : Targets) : Bool :=
  decide (∀ joint, selected joint = true →
    |after joint - before joint| ≤ cal.armingMaxTargetDeltaUnits)

def Loop.withinTargetDelta (l : Loop) (frame : TargetFrame) : Bool :=
  match l.lastArmingTargets with
  | none => true
  | some before => closeTargets cal selected before frame.targets

def Loop.admitted (l : Loop) (frame : TargetFrame) : Loop :=
  { l with
    consecutiveValid :=
      if l.withinFrameGap cal frame && l.withinTargetDelta cal selected frame then
        l.consecutiveValid + 1
      else 1
    lastValidCapture := some frame.capturedAtMonotonic
    lastArmingTargets := some frame.targets
    desired := frame.targets }

/-- **What a tick does with the newest frame**, and the event of a new one. -/
def Loop.take (l : Loop) (waiting : Bool) (tick : Tick) : Loop × List StreamEvent :=
  let l := if waiting && tick.unfit cal then l.reset else l
  match tick.targetFrame with
  | none => (l, [])
  | some frame =>
    if tick.generation = l.lastGeneration then (l, [])
    else
      let l := { l with lastGeneration := tick.generation }
      (if admissible cal waiting tick.loopStart frame then l.admitted cal selected frame
        else l.reset, [.taken tick.loopStart frame])

def Tick.stale (tick : Tick) : Bool :=
  match tick.targetFrame with
  | none => true
  | some frame =>
    timedOut cal tick.loopStart frame.capturedAtMonotonic ||
      (frame.source == .mano && !freshEvidence cal tick.loopStart frame)

def Loop.elapsed (l : Loop) (tick : Tick) : ℚ :=
  min (max (tick.loopStart - l.lastTick) 0) cal.period

/-! ## Safety feedback -/

structure FeedbackSample where
  errors : Targets
  statuses : Targets
  temperatures : Targets
  currents : Targets

def allowedStatus (command status : ℤ) : Bool :=
  if command = -1 then status == 2 || status == 255
  else status == 0 || status == 1 || status == 2

def FeedbackSample.selectedTotalCurrent (sample : FeedbackSample) : ℤ :=
  ((List.finRange 6).map fun joint => if selected joint then |sample.currents joint| else 0).sum

def FeedbackSample.checkStatuses (sample : FeedbackSample) (sent : Targets) (active : Bool) :
    Except PyException Unit :=
  if active then
    match (List.finRange 6).find? fun joint =>
        !allowedStatus (sent joint) (sample.statuses joint) with
    | some joint => .error (rh56Error ("axis " ++ joints joint ++ " returned unsafe status "
        ++ toString (sample.statuses joint) ++ " while streaming"))
    | none => .ok ()
  else if ¬∀ joint, sample.statuses joint = 2 ∨ sample.statuses joint = 255 then
    .error (rh56Error "non-idle actuator status while waiting for tracking")
  else .ok ()

def FeedbackSample.checkCurrents (sample : FeedbackSample) (active : Bool) :
    Except PyException Unit :=
  let total := sample.selectedTotalCurrent selected
  if ¬active then
    if ∃ joint, |sample.currents joint| > cal.preflightMaxIdleCurrentMa then
      .error (rh56Error "actuator current exceeded idle limit")
    else if total > cal.streamMaxTotalCurrentMa then
      .error (rh56Error "pre-active selected-axis total current is too high")
    else .ok ()
  else if cal.activeCurrentPolicy ≠ "fault" then .ok ()
  else if ∃ joint, |sample.currents joint| > cal.streamMaxCurrentMa then
    .error (rh56Error "actuator current exceeded")
  else if total > cal.streamMaxTotalCurrentMa then
    .error (rh56Error "selected-axis total current exceeded")
  else .ok ()

/-- **The checks of `_read_safety_feedback`.** -/
def FeedbackSample.check (sample : FeedbackSample) (sent : Targets) (active : Bool) :
    Except PyException Unit :=
  if ∃ joint, sample.errors joint ≠ 0 then
    .error (rh56Error "actuator fault during streaming")
  else if ∃ joint, sample.temperatures joint ≥ 60 then
    .error (rh56Error "actuator temperature reached 60 C")
  else do
    sample.checkStatuses sent active
    sample.checkCurrents cal selected active

/-! ## Points of the worker -/

/-- **Where the worker stands**, with its local variables. -/
inductive WorkerPoint where
  | created
  | opening
  | preflighting
  | top (l : Loop)
  | snapshotting (l : Loop) (loopStart : ℚ)
  | arming (l : Loop) (tick : Tick)
  | confirming (l : Loop) (tick : Tick)
  | activating (l : Loop) (tick : Tick)
  | gating (l : Loop) (tick : Tick)
  | writing (l : Loop) (tick : Tick) (dt : ℚ) (previous : Targets)
  | feeding (l : Loop) (tick : Tick)
  | raising (e : PyException)
  | leaving (operationError : Option PyException)
  | disabling (operationError : Option PyException)
  | closing (operationError stopError : Option PyException)
  | finishing (operationError stopError : Option PyException) (contextOpened : Bool)
  | ended

structure PreflightOutcome where
  result : Except PyException Targets
  originals : Originals
  speeds : Option Targets
  forces : Option Targets

/-- **What the world gives a section** of the worker. -/
structure WorkerInput where
  now : ℚ
  result : Except PyException Unit
  preflight : PreflightOutcome
  feedback : Except PyException FeedbackSample
  angleSet : Except PyException Targets
  shutdown : ShutdownInput

/-- **The stream**: what is shared, the worker's point, and the settings to restore. -/
structure Stream where
  shared : Shared
  worker : WorkerPoint
  originals : Originals

def Stream.init : Stream := ⟨.init, .created, ⟨none, none⟩⟩

/-! ## Sections -/

section Sections

variable (s : Stream) (input : WorkerInput)

def Stream.goto (worker : WorkerPoint) : Stream := { s with worker := worker }

def Stream.enter (state : StreamState) (worker : WorkerPoint) : Stream :=
  { s with shared := { s.shared with state := state }, worker := worker }

def PreflightOutcome.writes (outcome : PreflightOutcome) : List StreamEvent :=
  (outcome.speeds.toList.map fun values => .write .speedSet values .setting) ++
    outcome.forces.toList.map fun values => .write .forceSet values .setting

/-- **The preflight**, and the first commands of the loop. -/
def Stream.preflight : Stream × List StreamEvent :=
  let s := { s with originals := input.preflight.originals }
  match input.preflight.result with
  | .error e => (s.goto (.raising e), input.preflight.writes)
  | .ok initialAngles =>
    match selectedCommandsFromActual cal selected initialAngles with
    | .error e =>
      (s.enter .waitingForTracking (.raising (e.raised "RH56Error")), input.preflight.writes)
    | .ok seed =>
      (s.enter .waitingForTracking (.top (.start seed input.now)),
        input.preflight.writes ++ [.seeded seed])

def Stream.loopTop (l : Loop) : Stream :=
  if s.shared.stopEvent then s.goto (.leaving none) else s.goto (.snapshotting l input.now)

/-- **The look at the newest frame.** -/
def Stream.snapshot (l : Loop) (loopStart : ℚ) : Stream × List StreamEvent :=
  let tick : Tick := ⟨loopStart, s.shared.latestTarget, s.shared.targetGeneration⟩
  let waiting := s.shared.state == .waitingForTracking
  let taken := l.take cal selected waiting tick
  let worker : WorkerPoint :=
    if waiting && decide ((taken.1.consecutiveValid : ℤ) ≥ cal.validFramesToArm) then
      .arming taken.1 tick
    else .gating taken.1 tick
  (s.goto worker, .ticked loopStart s.shared.latestTarget :: taken.2)

def WorkerInput.readSafetyFeedback (sent : Targets) (active : Bool) : Except PyException Unit := do
  let sample ← input.feedback
  sample.check cal selected sent active

def Stream.arm (l : Loop) (tick : Tick) : Stream × List StreamEvent :=
  if s.shared.stopEvent then (s.goto (.leaving none), [])
  else
    match input.readSafetyFeedback cal selected l.sent false with
    | .error e => (s.goto (.raising e), [])
    | .ok () => (s.goto (.confirming l tick), [.healthy false])

def Stream.confirm (l : Loop) (tick : Tick) : Stream × List StreamEvent :=
  if s.shared.stopEvent then (s.goto (.leaving none), [])
  else
    match input.angleSet with
    | .error e => (s.goto (.raising e), [])
    | .ok targets =>
      if targets ≠ disabled then
        (s.goto (.raising (rh56Error "ANGLE_SET changed after preflight; refusing to arm")),
          [.angleSetRead targets])
      else (s.goto (.activating l tick), [.angleSetRead targets])

/-- **The arming**, under the lock. -/
def Stream.activate (l : Loop) (tick : Tick) : Stream × List StreamEvent :=
  if s.shared.stopEvent then (s.goto (.leaving none), [])
  else
    ({ s with
        shared := { s.shared with state := .active, everActive := true }
        worker := .gating l tick }, [.armed])

/-- **The stale check** and the rate limit. -/
def Stream.gate (l : Loop) (tick : Tick) : Stream :=
  if s.shared.state ≠ .active then s.goto (.feeding l tick)
  else if tick.stale cal then
    s.goto (.raising ⟨.ordinary, "TrackingTimeout",
      "hardware control target or measured-depth evidence timed out; output has been latched off"⟩)
  else
    let dt := l.elapsed cal tick
    match rateLimit cal selected l.sent l.desired dt with
    | .error e => s.goto (.raising (e.raised "RH56Error"))
    | .ok sent => s.goto (.writing { l with sent := sent } tick dt l.sent)

/-- **The motion write**, under the lock. -/
def Stream.write (l : Loop) (tick : Tick) (dt : ℚ) (previous : Targets) :
    Stream × List StreamEvent :=
  if s.shared.stopEvent then (s.goto (.leaving none), [])
  else
    (match input.result with
      | .error e => s.goto (.raising e)
      | .ok () => s.goto (.feeding l tick),
      [.write .angleSet l.sent (.motion tick.loopStart dt previous)])

def Stream.feed (l : Loop) (tick : Tick) : Stream × List StreamEvent :=
  if tick.loopStart ≥ l.nextFeedback then
    match input.readSafetyFeedback cal selected l.sent s.shared.everActive with
    | .error e => (s.goto (.raising e), [])
    | .ok () =>
      (s.goto (.top { l with
        nextFeedback := tick.loopStart + 1 / cal.feedbackHz
        lastTick := tick.loopStart }), [.healthy s.shared.everActive])
  else (s.goto (.top { l with lastTick := tick.loopStart }), [])

def Shared.fail (s : Shared) (e : PyException) : Shared :=
  { s with error := some e, stopReason := e.message }

def Shared.stopFailed (s : Shared) (e : PyException) : Shared :=
  { s with
    stopConfirmed := false
    disableError := some e.message
    stopReason := (if s.stopReason = "not stopped" then "" else s.stopReason ++ "; ")
      ++ "shutdown disable failed: " ++ e.message
    error := some (s.error.getD e) }

/-- **The shutdown.** -/
def Stream.shutdown (operationError : Option PyException) : Stream × List StreamEvent :=
  match disable cal selected input.shutdown
    (s.shared.everActive && operationError.isNone) s.originals s.shared with
  | (.ok (), shared, events) =>
    ({ s with
        shared := { shared with stopConfirmed := true }
        worker := .closing operationError none }, events)
  | (.error e, shared, events) =>
    ({ s with shared := shared.stopFailed e, worker := .closing operationError (some e) }, events)

def Stream.close (operationError stopError : Option PyException) : Stream :=
  match input.result, operationError with
  | .error e, none =>
    { s with shared := s.shared.fail e, worker := .finishing (some e) stopError true }
  | _, _ => s.goto (.finishing operationError stopError true)

def finalState (stopConfirmed : Bool) (operationError stopError : Option PyException)
    (contextOpened : Bool) : StreamState :=
  if stopError.isSome then .stopUnconfirmed
  else if operationError.isSome then
    if stopConfirmed then .faultLatched else .stopUnconfirmed
  else if !contextOpened || !stopConfirmed then .stopUnconfirmed
  else .stopped

/-- **The last section.** -/
def Stream.finish (operationError stopError : Option PyException) (contextOpened : Bool) : Stream :=
  let stopConfirmed := s.shared.stopConfirmed && stopError.isNone
  { s with
    shared := { s.shared with
      stopConfirmed := stopConfirmed
      state := finalState stopConfirmed operationError stopError contextOpened }
    worker := .ended }

/-- **A section of the worker.** -/
def Stream.work : Stream × List StreamEvent :=
  match s.worker with
  | .created => (s, [])
  | .opening =>
    (match input.result with
      | .error e => { s with shared := s.shared.fail e, worker := .finishing (some e) none false }
      | .ok () => s.goto .preflighting, [])
  | .preflighting => s.preflight cal selected input
  | .top l => (s.loopTop input l, [])
  | .snapshotting l loopStart => s.snapshot cal selected l loopStart
  | .arming l tick => s.arm cal selected input l tick
  | .confirming l tick => s.confirm input l tick
  | .activating l tick => s.activate l tick
  | .gating l tick => (s.gate cal selected l tick, [])
  | .writing l tick dt previous => s.write input l tick dt previous
  | .feeding l tick => s.feed cal selected input l tick
  | .raising e => ({ s with shared := s.shared.fail e, worker := .leaving (some e) }, [])
  | .leaving operationError => (s.enter .stopping (.disabling operationError), [])
  | .disabling operationError => s.shutdown cal selected input operationError
  | .closing operationError stopError => (s.close input operationError stopError, [])
  | .finishing operationError stopError contextOpened =>
    (s.finish operationError stopError contextOpened, [])
  | .ended => (s, [])

end Sections

/-! ## The machine -/

/-- **A step** of the stream. -/
inductive StreamInput where
  | start
  | submit (frame : SubmittedFrame) (early : EarlyReads)
  | requestStop (reason : String)
  | work (input : WorkerInput)

def Stream.start (s : Stream) : Stream :=
  match s.worker with
  | .created => s.enter .starting .opening
  | _ => s

/-- **The machine of the stream.** -/
def machine : Machine Stream StreamInput StreamEvent where
  step s
    | .start => (s.start, [])
    | .submit frame early =>
      let submitted := s.shared.submit cal selected frame early
      ({ s with shared := submitted.2.1 }, submitted.2.2)
    | .requestStop reason =>
      ({ s with shared := s.shared.requestStop reason }, [.stopRequested])
    | .work input => s.work cal selected input

end FrankaDeploy.Rh56Stream
