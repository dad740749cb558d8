import FrankaDeploy.Rh56Owner.Owner

/-! # The worker of the owner

`_worker_main`, cut into the sections between which the callers may run: each section takes the lock
at most once. What the session, the actuator, the clocks and the callback give a section is in its
`WorkerInput`. A failure of the callback is swallowed, and the worker goes on in the same way. -/

namespace FrankaDeploy.Rh56Owner

open FrankaDeploy.Foundation FrankaDeploy.Rh56
open scoped FloatArith

variable {D : Type} [FloatArith D]

/-! ## Points of the worker -/

structure LoopTimes (D : Type) where
  lastFeedbackCapturedS : D
  nextFeedbackDeadlineS : D

inductive AfterFault where
  /-- `_watchdog_expire` stops the hand; in the bootstrap an exception follows. -/
  | expire (thenRaise : Option PyException)
  | execute (request : Request) (e : PyException)
  | outer
  | finalDisable (e : PyException)
  | close
  deriving DecidableEq, Repr

/-- **Where the worker stands**, with its local variables. -/
inductive WorkerPoint (D : Type) where
  | created
  | opening
  | bootstrap (left : ℕ)
  | top (l : LoopTimes D)
  | checking (l : LoopTimes D) (settleActive : Bool) (settleDeadlineS : Option D)
      (stopRequested : Bool) (now : D)
  | selecting (l : LoopTimes D) (now : D)
  | settling (l : LoopTimes D)
  | stopping (request : Option Request)
  | expired (request : Option Request)
  | stale (request : Option Request)
  | awaitingFirst (l : LoopTimes D)
  | polling (l : LoopTimes D)
  | executing (l : LoopTimes D) (request : Request)
  /-- The target was acknowledged; its ticket is about to be completed. -/
  | acknowledged (l : LoopTimes D) (request : Request)
  | sampling (l : LoopTimes D) (request : Request)
  | publishing (reason : String) (cause : Option Cause) (next : AfterFault)
  /-- The fault is published; a ticket and the callback are next. -/
  | reporting (reason : String) (request : Option Request) (callback : Bool) (next : AfterFault)
  | handling (next : AfterFault)
  | raising (cause : Cause)
  | outerStop
  | finishing
  | closing
  | last
  | ended

/-- **What the world gives a section** of the worker. -/
structure WorkerInput (D : Type) [FloatArith D] where
  now : D
  later : D
  deadline : Option D
  awaitingFirst : Bool
  result : Except PyException Unit
  claimed : Bool
  sample : Except PyException (RH56SafetyFeedback D)
  cached : D
  realtime : D
  write : Option (SixIntegers × D)
  report : Except PyException (Option Bool)
  second : Except PyException Bool
  view : ActuatorView
  cleanup : Bool
  maximumFeedbackAgeS : D
  interCommandTimeoutS : D

/-- **The owner**: what is shared, the worker's point, and its actuator once the session is open. -/
structure Owner (D : Type) [FloatArith D] where
  shared : Shared D
  worker : WorkerPoint D
  actuator : Option ActuatorView

def Owner.init : Owner D := ⟨.init, .created, none⟩

/-! ## Helpers -/

def advancePeriodicDeadline (deadline period now : D) : Except PyException D :=
  if now < deadline then .ok deadline
  else
    match FloatArith.toRat? ((now - deadline) / period) with
    | none => .error ⟨.ordinary, "OverflowError", "cannot convert float infinity to integer"⟩
    | some elapsed =>
      .ok (deadline + FloatArith.ofRat ((⌊elapsed⌋ + 1 : ℤ) : ℚ) * period)

/-- The section of `_publish_fault` under the lock: the first fault stays, and the queued request
and the callback are handed out. -/
def Shared.publishFault (C : OwnerConfig D) (s : Shared D) (reason : String) (cause : Option Cause) :
    (Option Request × Bool) × Shared D × List OwnerEvent :=
  ((s.request, !s.faultCallbackSent && C.faultCallback),
    { s with
      fault := some (s.fault.getD ⟨reason, false, none⟩)
      state := .faultLatched
      faultCallbackSent := true
      request := none },
    if s.fault.isSome = true then [] else [.faultLatched cause])

/-- **`_finish_fault_stop`.** -/
def Shared.finishFaultStop (s : Shared D) (stopReport : Option Bool)
    (stopError : Option PyException) (stopConfirmedOverride : Bool) : Shared D :=
  match s.fault with
  | none => s
  | some fault =>
    let stopConfirmed := fault.stopConfirmed || stopConfirmedOverride || stopReport = some true
    { s with
      fault := some { fault with
        stopConfirmed := stopConfirmed
        stopError :=
          if stopConfirmed = true then none
          else match stopError with
            | some e => some e.message
            | none => fault.stopError }
      stopReport := if stopReport.isSome = true then stopReport else s.stopReport }

def Shared.noteStartupError (s : Shared D) (cause : Cause) : Shared D :=
  { s with startupError := if s.state = .starting then some cause else s.startupError }

/-- `fault_and_disable` and `disable_and_verify` accept the actuator. -/
def ActuatorView.stoppable (view : ActuatorView) : Bool :=
  view.state = .armed || view.state = .faultLatched

/-- What `fault_and_disable` gave: a report or an exception. -/
def reportOf (r : Except PyException (Option Bool)) : Option Bool × Option PyException :=
  match r with
  | .ok report => (report, none)
  | .error e => (none, some e)

/-! ## Sections -/

section Sections

variable (C : OwnerConfig D) (o : Owner D) (input : WorkerInput D)

def Owner.goto (shared : Shared D) (worker : WorkerPoint D) : Owner D :=
  { o with shared := shared, worker := worker }

/-- **`session_factory`** and the checks of its session. -/
def Owner.openSession : Owner D × List OwnerEvent :=
  let refused (message : String) : Owner D × List OwnerEvent :=
    ({ o with worker := .raising (.raised (ownerError message)), actuator := some input.view }, [])
  match input.result with
  | .error e => (o.goto o.shared (.raising (.raised e)), [])
  | .ok () =>
    if input.claimed = false then
      refused "RH56 actuator was not claimed by its lifecycle worker"
    else if input.view.state ≠ .armed then
      refused "RH56 owned session did not return an armed actuator"
    else if input.deadline.isNone = true ∧ input.awaitingFirst = false then
      refused "RH56 bootstrap heartbeat/deadline is absent after arm"
    else
      ({ o with worker := .bootstrap C.bootstrapFeedbackSamples, actuator := some input.view }, [])

def heartbeatOver (deadline : Option D) (awaitingFirst : Bool) (now : D) : Bool :=
  match deadline with
  | none => !awaitingFirst
  | some deadline => decide (deadline ≤ now)

/-- The reason of `_watchdog_expire`, without the times. -/
def watchdogReason : String :=
  "RH56 independent owner watchdog reached the command heartbeat deadline"

/-- **The bootstrap**: a sample, or after the last one the loop. -/
def Owner.bootstrap (left : ℕ) : Owner D × List OwnerEvent :=
  if heartbeatOver input.deadline input.awaitingFirst input.now = true then
    (o.goto o.shared (.publishing watchdogReason none (.expire (some (ownerError
      (if left = 0 then "RH56 bootstrap heartbeat expired during feedback bootstrap"
        else "RH56 bootstrap heartbeat expired before readiness"))))), [])
  else
    match left with
    | left + 1 =>
      match input.sample with
      | .error e =>
        ({ o with worker := .raising (.raised e), actuator := some input.view },
          if input.cleanup = true ∧ C.supervisedTargetOnly = false then [.stopOperation] else [])
      | .ok sample =>
        let cached := o.shared.tracking.cacheFeedback C.tracking sample input.cached input.realtime
        ({ o with
            shared := { o.shared with tracking := cached.2 }
            worker := match cached.1 with
              | .error e => .raising (.raised e)
              | .ok () => .bootstrap left
            actuator := some input.view }, [])
    | 0 =>
      if C.supervisedTargetOnly = true ∧
          input.maximumFeedbackAgeS + FloatArith.ofRat (1 / 10 ^ 12) < C.feedbackHardAgeS then
        (o.goto o.shared (.raising (.raised (ownerError
          "supervised feedback hard age exceeds the actuator freshness bound"))), [])
      else
        match o.shared.tracking.latestFeedback with
        | none => (o.goto o.shared (.raising (.raised (ownerError
            "RH56 bootstrap produced no cached feedback"))), [])
        | some feedback =>
          (o.goto { o.shared with state := .running }
            (.top ⟨feedback.capturedMonotonicS,
              feedback.capturedMonotonicS + C.feedbackPeriodS⟩), [])

def Owner.loopTop (l : LoopTimes D) : Owner D × List OwnerEvent :=
  (o.goto o.shared (.checking l o.shared.settleActive o.shared.settleDeadlineS
    o.shared.stopRequested input.now), [])

def settleOver (settleDeadlineS : Option D) (now : D) : Bool :=
  match settleDeadlineS with
  | none => true
  | some deadline => decide (deadline ≤ now)

/-- **The check of the settle's deadline**, with the flags that were read. -/
def Owner.checkSettle (l : LoopTimes D) (settleActive : Bool) (settleDeadlineS : Option D)
    (stopRequested : Bool) (now : D) : Owner D × List OwnerEvent :=
  if settleActive = true ∧ stopRequested = false then
    if settleOver settleDeadlineS now = true then
      (o.goto o.shared (.raising .settleExpired), [.settleExpired])
    else
      match input.result with
      | .error e => (o.goto o.shared (.raising (.raised e)), [])
      | .ok () => (o.goto o.shared (.selecting l input.later), [])
  else (o.goto o.shared (.selecting l now), [])

/-- **The choice of an action.** -/
def Owner.select (l : LoopTimes D) (now : D) : Owner D × List OwnerEvent :=
  if input.deadline.isNone = true ∧ input.awaitingFirst = false then
    (o.goto o.shared (.raising (.raised (ownerError
      "RH56 watchdog deadline disappeared while running"))), [])
  else
    let feedbackDue := C.supervisedTargetOnly && decide (l.nextFeedbackDeadlineS ≤ now)
    let feedbackExpired := C.supervisedTargetOnly &&
      decide (l.lastFeedbackCapturedS + C.feedbackHardAgeS ≤ now)
    let watchdogDue := match input.deadline with
      | none => false
      | some deadline => decide (deadline ≤ now)
    let idle := { o.shared with request := none }
    if o.shared.stopRequested = true then
      (o.goto idle (.stopping o.shared.request), [])
    else if o.shared.settleRequested = true then
      (o.goto { o.shared with settleRequested := false } (.settling l), [])
    else if watchdogDue = true then (o.goto idle (.expired o.shared.request), [])
    else if feedbackExpired = true then (o.goto idle (.stale o.shared.request), [])
    else
      match o.shared.request with
      | some request =>
        (o.goto { idle with requestInflight := true } (.executing l request), [])
      | none =>
        if feedbackDue = true then (o.goto o.shared (.polling l), [])
        else if input.awaitingFirst = true ∧ C.supervisedTargetOnly = false then
          (o.goto o.shared (.awaitingFirst l), [])
        else (o.goto o.shared (.top l), [])

def Owner.afterFirstWait (l : LoopTimes D) : Owner D × List OwnerEvent :=
  if o.shared.stopRequested = true ∨ o.shared.request.isSome = true then
    (o.goto o.shared (.top l), [])
  else (o.goto o.shared (.polling l), [])

/-- **The begin of a settle.** -/
def Owner.settle (l : LoopTimes D) : Owner D × List OwnerEvent :=
  match input.result with
  | .error e => (o.goto o.shared (.raising (.raised e)), [])
  | .ok () =>
    if input.interCommandTimeoutS ≤ C.feedbackPeriodS then
      (o.goto o.shared (.raising (.raised (ownerError
        "RH56 feedback period cannot sustain the bounded final sample-hold heartbeat"))), [])
    else if o.shared.stopRequested = true then (o.goto o.shared (.top l), [])
    else (o.goto { o.shared with settleActive := true } (.top l), [])

def Owner.reject (request : Option Request) (message : String) : Shared D × List OwnerEvent :=
  match request with
  | none => (o.shared, [])
  | some request => o.shared.complete request.ticket (.error (ownerError message))

/-- **`stop`**: a queued request is rejected, and the hand is disabled. -/
def Owner.stop (request : Option Request) : Owner D × List OwnerEvent :=
  let rejected := o.reject request "RH56 owner stopped before queued sequence executed"
  let attempted := { rejected.1 with disableAttempted := true }
  let events := rejected.2 ++ [.stopOperation]
  match input.report with
  | .ok report =>
    ({ shared := { attempted with stopReport := report },
       worker := .finishing, actuator := some input.view }, events)
  | .error e =>
    ({ shared := attempted, worker := .raising (.raised e), actuator := some input.view }, events)

/-- **`watchdog`.** -/
def Owner.watchdog (request : Option Request) : Owner D × List OwnerEvent :=
  let rejected := o.reject request "RH56 watchdog expired before queued execution"
  (o.goto rejected.1 (.publishing watchdogReason none (.expire none)), rejected.2)

/-- **`feedback_stale`.** -/
def Owner.feedbackStale (request : Option Request) : Owner D × List OwnerEvent :=
  let rejected := o.reject request
    "RH56 complete feedback became stale before queued execution"
  (o.goto rejected.1 (.raising (.raised (ownerError
    "RH56 complete feedback hard-age deadline expired"))), rejected.2)

def Owner.takeSample (l : LoopTimes D) (sample : RH56SafetyFeedback D) :
    Tracking D × Except PyException (LoopTimes D) :=
  if C.supervisedTargetOnly = true ∧
      C.feedbackHardAgeS < sample.capturedMonotonicS - l.lastFeedbackCapturedS then
    (o.shared.tracking, .error (ownerError "RH56 complete feedback interval exceeded hard age"))
  else
    let cached := o.shared.tracking.cacheFeedback C.tracking sample input.cached input.realtime
    match cached.1 with
    | .error e => (cached.2, .error e)
    | .ok () =>
      match advancePeriodicDeadline l.nextFeedbackDeadlineS C.feedbackPeriodS
        sample.capturedMonotonicS with
      | .error e => (cached.2, .error e)
      | .ok next => (cached.2, .ok ⟨sample.capturedMonotonicS, next⟩)

/-- **A poll.** -/
def Owner.poll (l : LoopTimes D) : Owner D × List OwnerEvent :=
  match input.sample with
  | .error e =>
    ({ o with worker := .raising (.raised e), actuator := some input.view },
      if input.cleanup = true ∧ C.supervisedTargetOnly = false then [.stopOperation] else [])
  | .ok sample =>
    let taken := o.takeSample C input l sample
    ({ shared := { o.shared with tracking := taken.1 }
       worker := match taken.2 with
         | .error e => .raising (.raised e)
         | .ok l => .top l
       actuator := some input.view }, [])

def failedRequest (request : Request) (e : PyException) : WorkerPoint D :=
  .publishing (s!"RH56 owner sequence {request.sequence}: " ++ e.message) none (.execute request e)

/-- **`execute`**: the actuator executes the request. A formal receipt brings its own sample, and
its ticket is completed at once. -/
def Owner.execute (l : LoopTimes D) (request : Request) : Owner D × List OwnerEvent :=
  let stopped : List OwnerEvent :=
    if input.cleanup = true ∧ C.supervisedTargetOnly = false then [.stopOperation] else []
  match input.result with
  | .error e =>
    ({ o with worker := failedRequest request e, actuator := some input.view }, stopped)
  | .ok () =>
    if C.supervisedTargetOnly = true then
      match input.write with
      | none =>
        ({ shared := { o.shared with requestInflight := false }
           worker := .acknowledged l request, actuator := some input.view },
          [.executed request])
      | some (targets, acknowledgedS) =>
        match o.shared.tracking.register C.tracking targets acknowledgedS with
        | .error e =>
          ({ o with worker := failedRequest request e, actuator := some input.view },
            [.executed request])
        | .ok tracking =>
          ({ shared := { o.shared with tracking := tracking, requestInflight := false }
             worker := .acknowledged l request, actuator := some input.view },
            [.executed request])
    else
      match input.sample with
      | .error e =>
        ({ o with worker := failedRequest request e, actuator := some input.view }, stopped)
      | .ok sample =>
        let cached :=
          o.shared.tracking.cacheFeedback C.tracking sample input.cached input.realtime
        match cached.1 with
        | .error e =>
          ({ shared := { o.shared with tracking := cached.2 }
             worker := failedRequest request e, actuator := some input.view },
            [.executed request])
        | .ok () =>
          let completed := { o.shared with
            tracking := cached.2, requestInflight := false }.complete request.ticket .receipt
          ({ shared := completed.1
             worker := .top ⟨sample.capturedMonotonicS, l.nextFeedbackDeadlineS⟩
             actuator := some input.view },
            .executed request :: completed.2)

def Owner.acknowledge (l : LoopTimes D) (request : Request) : Owner D × List OwnerEvent :=
  let completed := o.shared.complete request.ticket .receipt
  (o.goto completed.1 (.sampling l request), completed.2)

/-- **The feedback after an acknowledged target.** -/
def Owner.sampleAfterAck (l : LoopTimes D) (request : Request) : Owner D × List OwnerEvent :=
  if l.lastFeedbackCapturedS + C.feedbackHardAgeS ≤ input.now then
    (o.goto o.shared (failedRequest request (ownerError
      "RH56 complete feedback became stale during target ACK")), [])
  else if l.nextFeedbackDeadlineS ≤ input.now then
    match input.sample with
    | .error e => ({ o with worker := failedRequest request e, actuator := some input.view }, [])
    | .ok sample =>
      let taken := o.takeSample C input l sample
      ({ shared := { o.shared with tracking := taken.1 }
         worker := match taken.2 with
           | .error e => failedRequest request e
           | .ok l => .top l
         actuator := some input.view }, [])
  else (o.goto o.shared (.top l), [])

/-! ### Faults -/

def Owner.publish (reason : String) (cause : Option Cause) (next : AfterFault) :
    Owner D × List OwnerEvent :=
  let published := o.shared.publishFault C reason cause
  (o.goto published.2.1 (.reporting reason published.1.1 published.1.2 next), published.2.2)

/-- The rest of `_publish_fault`: a queued ticket, and the callback. -/
def Owner.report (reason : String) (request : Option Request) (callback : Bool)
    (next : AfterFault) : Owner D × List OwnerEvent :=
  let rejected := o.reject request reason
  (o.goto rejected.1 (.handling next), rejected.2 ++ (if callback = true then [.callback] else []))

/-- **What follows a published fault.** -/
def Owner.handle (next : AfterFault) : Owner D × List OwnerEvent :=
  let attempted := { o.shared with disableAttempted := true }
  match next with
  | .expire thenRaise =>
    let worker := match thenRaise with
      | none => .finishing
      | some e => .raising (.raised e)
    -- an expiry that the actuator does not see is stopped by `fault_and_disable`
    let stopped : Option Bool × Option PyException := match input.report with
      | .ok (some verified) => (some verified, none)
      | .ok none | .error _ =>
        match input.second with
        | .ok verified => (some verified, none)
        | .error e => (none, some e)
    ({ shared := attempted.finishFaultStop stopped.1 stopped.2 false, worker := worker,
       actuator := some input.view }, [.stopOperation])
  | .execute request e =>
    let view := o.actuator.getD ⟨.disarmed, false⟩
    let finish (stopped : Shared D) (actuator : Option ActuatorView)
        (events : List OwnerEvent) : Owner D × List OwnerEvent :=
      let completed := stopped.complete request.ticket (.error e)
      ({ shared := { completed.1 with requestInflight := false }, worker := .finishing,
         actuator := actuator }, events ++ completed.2)
    if view.stopConfirmed = true then
      finish (attempted.finishFaultStop attempted.stopReport none true) o.actuator []
    else if view.stoppable = true then
      let stopped := reportOf input.report
      finish (attempted.finishFaultStop stopped.1 stopped.2 input.view.stopConfirmed)
        (some input.view) [.stopOperation]
    else
      finish (attempted.finishFaultStop none (some ⟨.ordinary, "RH56TransactionalError",
        "RH56 execute stop was unconfirmed"⟩) false) o.actuator []
  | .outer => (o.goto o.shared .outerStop, [])
  | .finalDisable e => (o.goto (o.shared.finishFaultStop none (some e) false) .closing, [])
  | .close =>
    (o.goto (o.shared.finishFaultStop o.shared.stopReport none
      ((o.actuator.map (·.stopConfirmed)).getD false)) .last, [])

def Owner.catch (cause : Cause) : Owner D × List OwnerEvent :=
  if o.shared.fault.isNone = true then
    (o.goto (o.shared.noteStartupError cause)
      (.publishing ("RH56 owner worker failed: " ++ cause.text) (some cause) .outer), [])
  else (o.goto (o.shared.noteStartupError cause) .outerStop, [])

def Owner.outerStop : Owner D × List OwnerEvent :=
  match o.actuator with
  | none => (o.goto o.shared .finishing, [])
  | some view =>
    let attempted := { o.shared with disableAttempted := true }
    if view.stopConfirmed = true then
      (o.goto (attempted.finishFaultStop attempted.stopReport none true) .finishing, [])
    else if view.stoppable = true then
      let stopped := reportOf input.report
      ({ shared := attempted.finishFaultStop stopped.1 stopped.2 false, worker := .finishing,
         actuator := some input.view }, [.stopOperation])
    else (o.goto o.shared .finishing, [])

/-! ### The end -/

/-- **The `finally` of the worker**: an armed hand whose disable was never attempted is disabled. -/
def Owner.finish : Owner D × List OwnerEvent :=
  match o.actuator with
  | none => (o.goto o.shared .last, [])
  | some view =>
    if view.state = .armed ∧ o.shared.disableAttempted = false then
      let attempted := { o.shared with disableAttempted := true }
      match input.report with
      | .ok report =>
        ({ shared := { attempted with stopReport := report }, worker := .closing,
           actuator := some input.view }, [.stopOperation])
      | .error e =>
        ({ shared := attempted,
           worker := .publishing ("RH56 final disable before close failed: " ++ e.message) none
             (.finalDisable e),
           actuator := some input.view }, [.stopOperation])
    else (o.goto o.shared .closing, [])

/-- **The close of the session.** -/
def Owner.close : Owner D × List OwnerEvent :=
  let attempted := { o.shared with closeAttempted := true }
  match input.result with
  | .ok () => (o.goto { attempted with serialClosed := true } .last, [.closed])
  | .error e =>
    (o.goto { attempted with serialClosed := false }
      (.publishing ("RH56 owned serial close failed: " ++ e.message) none .close), [.closed])

/-- **The last section.** -/
def Owner.finalSection : Owner D × List OwnerEvent :=
  (o.goto { o.shared with
      settleRequested := false
      settleActive := false
      settleDeadlineS := none
      state := if o.shared.fault.isNone = true then .stopped else .faultLatched } .ended, [])

/-- **One section of the worker.** -/
def Owner.work : Owner D × List OwnerEvent :=
  match o.worker with
  | .created => (o, [])
  | .opening => o.openSession C input
  | .bootstrap left => o.bootstrap C input left
  | .top l => o.loopTop input l
  | .checking l settleActive settleDeadlineS stopRequested now =>
    o.checkSettle input l settleActive settleDeadlineS stopRequested now
  | .selecting l now => o.select C input l now
  | .settling l => o.settle C input l
  | .stopping request => o.stop input request
  | .expired request => o.watchdog request
  | .stale request => o.feedbackStale request
  | .awaitingFirst l => o.afterFirstWait l
  | .polling l => o.poll C input l
  | .executing l request => o.execute C input l request
  | .acknowledged l request => o.acknowledge l request
  | .sampling l request => o.sampleAfterAck C input l request
  | .publishing reason cause next => o.publish C reason cause next
  | .reporting reason request callback next => o.report reason request callback next
  | .handling next => o.handle input next
  | .raising cause => o.catch cause
  | .outerStop => o.outerStop input
  | .finishing => o.finish input
  | .closing => o.close input
  | .last => o.finalSection
  | .ended => (o, [])

end Sections

/-! ## Runs -/

inductive OwnerStep (D : Type) [FloatArith D] where
  | start
  | submit (sequence : ℕ)
  | beginSettle (now : D)
  | wake (timedOut : Bool)
  | requestStop
  | ledger (pending : Option ℕ) (committed : ℕ)
  | work (input : WorkerInput D)

/-- **One step.** -/
def Owner.perform (C : OwnerConfig D) (o : Owner D) : OwnerStep D → Owner D × List OwnerEvent
  | .start =>
    if o.shared.state = .created then
      ({ o with shared := { o.shared with state := .starting }, worker := .opening }, [])
    else (o, [])
  | .submit sequence =>
    let submitted := o.shared.submit sequence
    ({ o with shared := submitted.2.1 }, submitted.2.2)
  | .beginSettle now => ({ o with shared := (o.shared.beginFinalTrackingSettle C now).2 }, [])
  | .wake timedOut =>
    if 0 < o.shared.settleWaiters then ({ o with shared := (o.shared.settleWake timedOut).2 }, [])
    else (o, [])
  | .requestStop => ({ o with shared := o.shared.requestStop }, [])
  | .ledger pending committed =>
    ({ o with shared :=
      { o.shared with pendingSequence := pending, lastCommittedSequence := committed } }, [])
  | .work input => o.work C input

/-- **A run**: the owner after the steps, and the events so far. -/
def runOwner (C : OwnerConfig D) (steps : List (OwnerStep D)) : Owner D × List OwnerEvent :=
  steps.foldl (fun run step =>
    let next := run.1.perform C step
    (next.1, run.2 ++ next.2)) (.init, [])

theorem runOwner_snoc (C : OwnerConfig D) (steps : List (OwnerStep D)) (step : OwnerStep D) :
    runOwner C (steps ++ [step]) = (((runOwner C steps).1.perform C step).1,
      (runOwner C steps).2 ++ ((runOwner C steps).1.perform C step).2) := by
  rw [runOwner, List.foldl_append]
  rfl

end FrankaDeploy.Rh56Owner
