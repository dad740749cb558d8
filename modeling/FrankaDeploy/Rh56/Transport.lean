import FrankaDeploy.ClosedLoop.Commands
import FrankaDeploy.Foundation.Program
import FrankaDeploy.Rh56.Feedback

/-! # The hand's transport

The state of `RH56TransactionalActuator` and its helpers for single transport operations. The
transport, the clock, the safety gate and the ledger are a world of any kind: each call moves it to
another state and ends with a value or with any exception. -/

namespace FrankaDeploy.Rh56

open FrankaDeploy.Foundation FrankaDeploy.Foundation.Program FrankaDeploy.ClosedLoop
open scoped FloatArith

/-! ## The world -/

/-- **What an actuator calls**, over the states `τ` of an arbitrary world. The clock's readings are
finite, as those of `time.monotonic` are. -/
structure HandWorld (D τ : Type) [FloatArith D] where
  monotonic : τ → {now : D // FloatArith.isFinite now = true} × τ
  sleep : D → τ → Except PyException Unit × τ
  writeAngleSet : SixIntegers → D → τ → Except PyException Unit × τ
  readAngleSet : D → τ → Except PyException RawSequence × τ
  readSafetyFeedback : D → τ → Except PyException (Option (RH56SafetyFeedback D)) × τ
  requireMotion : String → D → τ → Except PyException Unit × τ
  ledgerPending : τ → Option ℕ × τ
  ledgerAcknowledge : ℕ → D → τ → Except PyException Bool × τ
  ledgerFail : ℕ → String → τ → Except PyException Unit × τ
  angleSet : τ → SixIntegers

/-! ## The state -/

inductive RH56ActuatorState where
  | disarmed
  | armed
  | faultLatched
deriving DecidableEq, Repr

/-- **The state of `RH56TransactionalActuator`** that its operations read. -/
structure RH56TransactionalActuator (D : Type) [FloatArith D] where
  state : RH56ActuatorState
  faultReason : Option String
  stopConfirmed : Bool
  runId : Option String
  safetyGate : Bool
  pendingSequence : Option ℕ
  lastAcknowledgedSequence : ℕ
  lastCommandMonotonicS : Option D
  lastFeedbackMonotonicS : Option D
  supervisedSession : Bool
  supervisedAwaitingFirstNumericCommand : Bool
  lastSupervisedTarget : Option SixIntegers

/-- The local variables of `_disable_and_verify`, which survive an exception in its body. -/
structure StopLocals (D : Type) [FloatArith D] where
  failures : List String
  holdVerified : Bool
  holdTailVerified : Bool
  motionlessHoldVerified : Bool
  stableTailVerified : Bool
  stableSamples : List (RH56SafetyFeedback D)
  holdMotionSamples : List (RH56SafetyFeedback D)
  observedSamples : ℕ
  lastSettleDetail : String
  verifiedPasses : ℕ
  postDisableObserved : ℕ
  postDisableDetail : String

/-- **An actuator in its world.** -/
structure Hand (D τ : Type) [FloatArith D] where
  actuator : RH56TransactionalActuator D
  stop : StopLocals D
  world : τ

/-- **What can be observed of an actuator.** -/
inductive HandEvent (D : Type) [FloatArith D] where
  /-- A write is due at a time: it is skipped when that is past its deadline. -/
  | writeDue (deadline now : D)
  | write (targets : SixIntegers)
  | readback (targets : SixIntegers)
  | feedback (sample : RH56SafetyFeedback D)
  /-- The command of a sequence is being executed: when it was produced, and its targets. -/
  | execute (sequence : ℕ) (producedMonotonicS : D) (targets : SixIntegers)
  /-- The ledger is given the hand's acknowledgement, while the device holds `registers`. -/
  | acknowledge (sequence : ℕ) (now : D) (registers : SixIntegers)
  | stopBegins
  | stopVerified

variable {D τ : Type} [FloatArith D]

abbrev HandM (D τ : Type) [FloatArith D] (α : Type) : Type :=
  Program (Hand D τ) (HandEvent D) PyException α

def modifyActuator (f : RH56TransactionalActuator D → RH56TransactionalActuator D) :
    HandM D τ Unit :=
  update fun h => { h with actuator := f h.actuator }

def modifyStop (f : StopLocals D → StopLocals D) : HandM D τ Unit :=
  update fun h => { h with stop := f h.stop }

def callWorld {α : Type} (call : τ → Except PyException α × τ) : HandM D τ α := fun h =>
  let (outcome, world) := call h.world
  (outcome, { h with world := world }, [])

namespace HandWorld

variable (W : HandWorld D τ) (A : ActuatorConfig D)

/-! ## Single operations -/

def now : HandM D τ D := callWorld fun w => (.ok (W.monotonic w).1.1, (W.monotonic w).2)

def beforeDeadline (now deadline : D) (operation : String) : HandM D τ Unit :=
  let missed := FloatArith.fixedText 6 (now - deadline)
  check (deadline < now) (deadlineExceeded s!"RH56 {operation} missed deadline by {missed}s")

def transportWrite (targets : SixIntegers) (deadline : D) (operation : String) :
    HandM D τ Unit := do
  let before ← W.now
  emit (.writeDue deadline before)
  beforeDeadline before deadline operation
  emit (.write targets)
  match ← attempt (callWorld (W.writeAngleSet targets deadline)) with
  | .error e => fail (transportError s!"{operation} failed: {e.message}")
  | .ok () => do
    let after ← W.now
    beforeDeadline after deadline operation

def transportReadTargets (deadline : D) (operation : String) : HandM D τ SixIntegers := do
  let before ← W.now
  beforeDeadline before deadline operation
  match ← attempt (callWorld (W.readAngleSet deadline)) with
  | .error e => fail (transportError s!"{operation} failed: {e.message}")
  | .ok raw => do
    let result ← ofExcept (sixTargets raw s!"{operation} readback" true)
    emit (.readback result)
    let after ← W.now
    beforeDeadline after deadline operation
    ret result

/-- `RH56_SUPERVISED_WRITE_RESPONSE_GRACE_S`. -/
def supervisedWriteResponseGraceS : D := FloatArith.ofRat (20 / 1000)

def pyMin (x y : D) : D := if y < x then y else x

def pyMax (x y : D) : D := if x < y then y else x

/-- **`_transport_write_once_then_verify`.** -/
def transportWriteOnceThenVerify (targets : SixIntegers) (deadline : D) (operation : String) :
    HandM D τ SixIntegers := do
  let opened ← W.now
  let writeDeadline := pyMin deadline (opened + supervisedWriteResponseGraceS)
  let written ← attempt (W.transportWrite targets writeDeadline s!"{operation} write")
  match ← attempt (W.transportReadTargets deadline s!"{operation} readback") with
  | .error e =>
    match written with
    | .error writeFailure =>
      fail (transportError (s!"{operation} write response missing and verification " ++
        s!"readback failed: write_error={writeFailure.message}; readback_error={e.message}"))
    | .ok () => fail e
  | .ok readback => do
    let writeContext := match written with
      | .ok () => ""
      | .error writeFailure => s!"; write_response_error={writeFailure.message}"
    check (readback ≠ targets) (transportError
      (s!"{operation} readback mismatch: expected={tupleText targets}, " ++
        s!"actual={tupleText readback}{writeContext}"))
    ret readback

/-- **`_transport_read_feedback`.** -/
def transportReadFeedback (deadline : D) (operation : String) :
    HandM D τ (RH56SafetyFeedback D) := do
  let before ← W.now
  beforeDeadline before deadline operation
  match ← attempt (callWorld (W.readSafetyFeedback deadline)) with
  | .error e => fail (transportError s!"{operation} failed: {e.message}")
  | .ok none => fail (transportError s!"{operation} did not return RH56SafetyFeedback")
  | .ok (some feedback) => do
    emit (.feedback feedback)
    let finished ← W.now
    beforeDeadline finished deadline operation
    let age := finished - feedback.capturedMonotonicS
    let ageText := FloatArith.fixedText 6 age
    let limitText := FloatArith.fixedText 6 A.maximumFeedbackAgeS
    check (age < FloatArith.zero)
      (transportError s!"{operation} feedback timestamp is in the future")
    check (A.maximumFeedbackAgeS < age) (transportError
      (s!"{operation} feedback is stale: age={ageText}s, limit={limitText}s"))
    let previous := (← read).actuator.lastFeedbackMonotonicS
    check (previous.any fun p => feedback.capturedMonotonicS < p)
      (transportError s!"{operation} feedback timestamp regressed")
    ret feedback

/-- The reason that `_latch_fault` keeps. -/
def latched (actuator : RH56TransactionalActuator D) (reason : String) :
    RH56TransactionalActuator D :=
  { actuator with
    faultReason :=
      some (actuator.faultReason.getD (strippedOr reason "unspecified RH56 transactional fault"))
    state := .faultLatched
    stopConfirmed := false }

def latchFault (reason : String) : HandM D τ Unit := modifyActuator (latched · reason)

end HandWorld

/-! ## Rules -/

section Rules

variable {α : Type} {E : PyException → Hand D τ → List (HandEvent D) → Prop}

@[simp] theorem wp_modifyActuator
    (f : RH56TransactionalActuator D → RH56TransactionalActuator D)
    {Q : Unit → Hand D τ → List (HandEvent D) → Prop} :
    wp (modifyActuator f : HandM D τ Unit) Q E =
      fun h t => Q () { h with actuator := f h.actuator } t := by
  rw [modifyActuator, wp_update]

@[simp] theorem wp_modifyStop (f : StopLocals D → StopLocals D)
    {Q : Unit → Hand D τ → List (HandEvent D) → Prop} :
    wp (modifyStop f : HandM D τ Unit) Q E = fun h t => Q () { h with stop := f h.stop } t := by
  rw [modifyStop, wp_update]

theorem wp_callWorld {call : τ → Except PyException α × τ}
    {Q : α → Hand D τ → List (HandEvent D) → Prop} {h : Hand D τ} {t : List (HandEvent D)}
    (hQ : ∀ a w, call h.world = (.ok a, w) → Q a { h with world := w } t)
    (hE : ∀ e w, call h.world = (.error e, w) → E e { h with world := w } t) :
    wp (callWorld call : HandM D τ α) Q E h t := by
  unfold wp callWorld
  cases hcall : call h.world with
  | mk outcome w =>
    cases outcome with
    | ok a =>
      show Q a { h with world := w } (t ++ [])
      rw [List.append_nil]
      exact hQ a w hcall
    | error e =>
      show E e { h with world := w } (t ++ [])
      rw [List.append_nil]
      exact hE e w hcall

end Rules

end FrankaDeploy.Rh56
