import FrankaDeploy.Rh56.StopSequence
import FrankaDeploy.Rh56Owner.PhysicalTracking

/-! # The owner of the hand

`RH56WatchdogOwner`: what its worker and its callers share under one lock, and what each call of
`submit`, `begin_final_tracking_settle` and `request_stop` does to it. A call takes effect in the
section that it runs under the lock, so that a run is an interleaving of such sections. -/

namespace FrankaDeploy.Rh56Owner

open FrankaDeploy.Foundation FrankaDeploy.Rh56
open scoped FloatArith

variable {D : Type} [FloatArith D]

/-! ## Shared state -/

inductive OwnerState where
  | created
  | starting
  | running
  | faultLatched
  | stopped
  deriving DecidableEq, Repr

/-- The number of a ticket: tickets are numbered as `submit` returns them. -/
abbrev TicketId := ℕ

structure Request where
  sequence : ℕ
  ticket : TicketId
  deriving DecidableEq, Repr

inductive Completion where
  | receipt
  | error (e : PyException)
  deriving DecidableEq, Repr

inductive Cause where
  | settleExpired
  | raised (e : PyException)
  deriving DecidableEq, Repr

def Cause.text : Cause → String
  | .settleExpired => "RH56 bounded final physical-tracking settle expired without a verified result"
  | .raised e => e.message

structure OwnerFault where
  reason : String
  stopConfirmed : Bool
  stopError : Option String
  deriving DecidableEq, Repr

inductive OwnerEvent where
  | submitted (request : Request)
  | completed (ticket : TicketId) (completion : Completion)
  | executed (request : Request)
  | settleExpired
  | faultLatched (cause : Option Cause)
  | callback
  | stopOperation
  | closed
  deriving DecidableEq, Repr

structure ActuatorView where
  state : RH56ActuatorState
  stopConfirmed : Bool
  deriving DecidableEq, Repr

structure OwnerConfig (D : Type) [FloatArith D] where
  tracking : TrackingConfig D
  supervisedTargetOnly : Bool
  feedbackPeriodS : D
  feedbackHardAgeS : D
  bootstrapFeedbackSamples : ℕ
  faultCallback : Bool
  period_within : ¬feedbackPeriodS ≤ FloatArith.zero ∧ feedbackPeriodS < feedbackHardAgeS
  bootstrap_within : 2 ≤ bootstrapFeedbackSamples ∧ bootstrapFeedbackSamples ≤ 16

/-- **What the worker and the callers share.** -/
structure Shared (D : Type) [FloatArith D] where
  state : OwnerState
  stopRequested : Bool
  request : Option Request
  requestInflight : Bool
  settleRequested : Bool
  settleActive : Bool
  settleDeadlineS : Option D
  fault : Option OwnerFault
  faultCallbackSent : Bool
  startupError : Option Cause
  stopReport : Option Bool
  disableAttempted : Bool
  closeAttempted : Bool
  serialClosed : Bool
  tracking : Tracking D
  pendingSequence : Option ℕ
  lastCommittedSequence : ℕ
  tickets : List (Option Completion)
  settleWaiters : ℕ

def Shared.init : Shared D where
  state := .created
  stopRequested := false
  request := none
  requestInflight := false
  settleRequested := false
  settleActive := false
  settleDeadlineS := none
  fault := none
  faultCallbackSent := false
  startupError := none
  stopReport := none
  disableAttempted := false
  closeAttempted := false
  serialClosed := false
  tracking := .init
  pendingSequence := none
  lastCommittedSequence := 0
  tickets := []
  settleWaiters := 0

/-- **`_complete`**: only the first completion of a ticket counts. -/
def Shared.complete (s : Shared D) (ticket : TicketId) (completion : Completion) :
    Shared D × List OwnerEvent :=
  match s.tickets[ticket]? with
  | some none =>
    ({ s with tickets := s.tickets.set ticket (some completion) },
      [.completed ticket completion])
  | _ => (s, [])

/-! ## Callers -/

def faultIsLatched (fault : Option OwnerFault) : PyException :=
  ownerError ("RH56 owner fault is latched: " ++ ((fault.map (·.reason)).getD "None"))

/-- The checks that `submit` and `begin_final_tracking_settle` make first. -/
def Shared.requireRunning (s : Shared D) : Except PyException Unit :=
  if s.state = .faultLatched then .error (faultIsLatched s.fault)
  else if s.state ≠ .running then .error (ownerError "RH56 owner is not running")
  else if s.stopRequested = true then .error (ownerError "RH56 owner stop is already requested")
  else .ok ()

/-- **`submit`.** -/
def Shared.submit (s : Shared D) (sequence : ℕ) :
    Except PyException TicketId × Shared D × List OwnerEvent :=
  match s.requireRunning with
  | .error e => (.error e, s, [])
  | .ok () =>
    if s.settleRequested = true ∨ s.settleActive = true then
      (.error (ownerError "RH56 owner rejects commands during final tracking settle"), s, [])
    else if s.request.isSome = true ∨ s.requestInflight = true then
      (.error (ownerError "RH56 owner accepts only one in-flight request"), s, [])
    else if s.pendingSequence ≠ some sequence then
      (.error (ownerError s!"RH56 sequence {sequence} is not staged in the ledger"), s, [])
    else
      let request : Request := ⟨sequence, s.tickets.length⟩
      (.ok s.tickets.length,
        { s with request := some request, tickets := s.tickets ++ [none] },
        [.submitted request])

/-- **`begin_final_tracking_settle`**, up to its wait: the deadline that it returns at once, or
`none` where it waits for the worker. -/
def Shared.beginFinalTrackingSettle (C : OwnerConfig D) (s : Shared D) (now : D) :
    Except PyException (Option D) × Shared D :=
  if C.supervisedTargetOnly = false then
    (.error (ownerError "final tracking settle requires supervised target-only mode"), s)
  else
    match s.requireRunning with
    | .error e => (.error e, s)
    | .ok () =>
      if s.request.isSome = true ∨ s.requestInflight = true then
        (.error (ownerError "final tracking settle requires an idle request boundary"), s)
      else if s.settleRequested = true ∨ s.settleActive = true then
        (.error (ownerError "final tracking settle is already active"), s)
      else if s.pendingSequence.isSome = true then
        (.error (ownerError
          "final tracking settle is forbidden with a pending ledger sequence"), s)
      else if s.lastCommittedSequence < 1 then
        (.error (ownerError "final tracking settle requires a committed policy sequence"), s)
      else
        match s.tracking.settleAdmission C.tracking C.feedbackHardAgeS now with
        | .error e => (.error e, s)
        | .ok none => (.ok (some now), s)
        | .ok (some deadline) =>
          (.ok none,
            { s with
              settleDeadlineS := some deadline
              settleRequested := true
              settleWaiters := s.settleWaiters + 1 })

/-- **One wake-up of a caller that waits for its settle**; `timedOut` where no time is left. The
result is `none` where it waits on. -/
def Shared.settleWake (s : Shared D) (timedOut : Bool) :
    Option (Except PyException (Option D)) × Shared D :=
  if s.settleActive = true then
    (some (.ok s.settleDeadlineS), { s with settleWaiters := s.settleWaiters - 1 })
  else if s.state ≠ .running ∨ s.fault.isSome = true ∨ s.stopRequested = true then
    (some (.error (ownerError ("RH56 final tracking settle rejected: " ++
        ((s.fault.map (·.reason)).getD "None")))),
      { s with settleRequested := false, settleWaiters := s.settleWaiters - 1 })
  else if timedOut = true then
    (some (.error (ownerError "RH56 final tracking settle readiness timed out")),
      { s with settleRequested := false, settleWaiters := s.settleWaiters - 1 })
  else (none, s)

/-- **`request_stop`.** -/
def Shared.requestStop (s : Shared D) : Shared D := { s with stopRequested := true }

end FrankaDeploy.Rh56Owner
