import FrankaDeploy.Foundation.Program
import FrankaDeploy.Servo.DesiredHistory
import FrankaDeploy.Servo.Interpolator
import FrankaDeploy.Servo.PacketCodec

/-! # The state of the active loop

The local variables of `run_servo_process` around its active loop, what the environment answers in
one cycle (the robot, the clock, the socket, the limiter of libfranka) and the events by which the
proofs observe a run. -/

namespace FrankaDeploy.Servo

open FrankaDeploy.Foundation
open scoped FloatArith

variable {D S : Type} [FloatArith D] [FloatArith S] [FloatCast D S]

/-! ## Arithmetic of 64-bit times -/

def u64Add (a b : ℕ) : ℕ := (a + b) % 18446744073709551616

/-- The difference of two `std::uint64_t`, which wraps around. -/
def u64Sub (a b : ℕ) : ℕ := (a + (18446744073709551616 - b)) % 18446744073709551616

/-! ## Observed events -/

/-- **What a run shows**: the steps of a cycle in their order. -/
inductive ServoEvent (D : Type) where
  | cycleStarted (sample : RobotSample D)
  | bootstrapped (reference : ExactDesiredHistory D)
  /-- A reference history was selected from a returned state with its period. -/
  | historySelected (controlPeriodMs : ℕ) (choice : HistoryChoice)
      (reference : ExactDesiredHistory D)
  | targetAccepted (target : TargetPayload D)
  | computed (command : ExactDesiredHistory D)
  | written (command : ExactDesiredHistory D)
  | judged (healthy : Bool)
  | actionReady (payload : ActionReadyPayload D)
  | acknowledged (payload : AckPayload D)

/-- **How the loop ends.** -/
inductive LoopExit where
  | stopped (reason : StopReason)
  | fault (fault : ServoFault)
  | exception (what : String)
deriving DecidableEq, Repr

/-! ## State -/

variable (D) in
/-- **The variables of the loop.** -/
structure ServoLoop where
  runtime : RuntimeState D
  firstPeriod : Bool
  priorRobotTimeMs : ℕ
  healthyStartRobotTimeMs : ℕ
  interpolator : Option (InterpolatedCommand D)
  confirmedHistory : ExactDesiredHistory D
  lastSentHistory : ExactDesiredHistory D
  exactHistoryInitialized : Bool
  sentHistoryAvailable : Bool
  exit : Option LoopExit

/-- **The loop is entered**: HELLO and IPC_READY were sent and ARM was received. -/
def ServoLoop.start (preflightRobotTimeMs sessionStartNs : ℕ) : ServoLoop D where
  runtime := { RuntimeState.default with
    criticalOutSequence := 3
    criticalInSequence := 2
    lastHeartbeatNs := sessionStartNs }
  firstPeriod := true
  priorRobotTimeMs := preflightRobotTimeMs
  healthyStartRobotTimeMs := 0
  interpolator := none
  confirmedHistory := .default
  lastSentHistory := .default
  exactHistoryInitialized := false
  sentHistoryAvailable := false
  exit := none

variable (D) in
/-- What does not change during a session: `arm`, the nonce of the configuration and
`session_start_ns`. -/
structure ServoSession where
  arm : ArmPayload D
  sessionNonce : Vec 16 UInt8
  sessionStartNs : ℕ

/-- `controller_mode`: a value other than the two known ones was refused with the ARM. -/
def ServoSession.controllerMode (session : ServoSession D) : ControllerMode :=
  if session.arm.controllerMode = 1 then .qdG015 else .legacy

/-! ## Environment -/

/-- **`ReceiveResult`** of the critical socket. -/
inductive Received where
  | wouldBlock
  | peerClosed
  | failed (systemErrno : ℤ)
  | packet (bytes : Bytes)

/-- One turn of the loop of `drain_critical`. -/
structure Poll where
  checkNs : ℕ
  received : Received
  nowNs : ℕ

variable (D) in
/-- **What the environment answers in one cycle.** -/
structure CycleEnv where
  signalStopRequested : Bool
  readOnce : Except String (RobotSample D)
  readCompleteNs : ℕ
  drainStartNs : ℕ
  polls : ℕ → Poll
  drainEndNs : ℕ
  nowNs : ℕ
  limitJointPositionCommand : Vec 7 D → ExactDesiredHistory D → Except String (Vec 7 D)
  beforeWriteNs : ℕ
  writeOnce : Except String Unit
  afterWriteNs : ℕ
  sendActionReady : Except ℤ Unit
  sendAck : Except ℤ Unit
  sendState : Bool

/-! ## Statements -/

variable (D) in
abbrev ServoM (α : Type) := Program (ServoLoop D) (ServoEvent D) LoopExit α

def modifyRuntime (f : RuntimeState D → RuntimeState D) : ServoM D Unit :=
  Program.update fun s => { s with runtime := f s.runtime }

/-- `throw ServoFault`, if a condition holds. -/
def faultIf (c : Prop) [Decidable c] (code : FaultCode) (what : String) : ServoM D Unit :=
  Program.check c (.fault (.of code what))

/-- The value of a function that throws a `ServoFault`. -/
def orFault {α : Type} (r : Except ServoFault α) : ServoM D α :=
  Program.ofExcept (r.mapError .fault)

def orException {α : Type} (r : Except String α) : ServoM D α :=
  Program.ofExcept (r.mapError .exception)

section Rules

open FrankaDeploy.Foundation.Program (wp wp_update wp_check)

variable {E : LoopExit → ServoLoop D → List (ServoEvent D) → Prop}

@[simp] theorem wp_modifyRuntime {Q : Unit → ServoLoop D → List (ServoEvent D) → Prop}
    (f : RuntimeState D → RuntimeState D) :
    wp (modifyRuntime f) Q E = fun s t => Q () { s with runtime := f s.runtime } t :=
  wp_update _

@[simp] theorem wp_faultIf {Q : Unit → ServoLoop D → List (ServoEvent D) → Prop} (c : Prop)
    [Decidable c] (code : FaultCode) (what : String) :
    wp (faultIf c code what) Q E =
      fun s t => (c → E (.fault (.of code what)) s t) ∧ (¬c → Q () s t) :=
  wp_check _ _

@[simp] theorem wp_orFault {α : Type} {Q : α → ServoLoop D → List (ServoEvent D) → Prop}
    (r : Except ServoFault α) :
    wp (orFault r) Q E =
      fun s t => (∀ a, r = .ok a → Q a s t) ∧ ∀ e, r = .error e → E (.fault e) s t := by
  cases r <;> simp [orFault, Except.mapError]

@[simp] theorem wp_orException {α : Type} {Q : α → ServoLoop D → List (ServoEvent D) → Prop}
    (r : Except String α) :
    wp (orException r) Q E =
      fun s t => (∀ a, r = .ok a → Q a s t) ∧ ∀ e, r = .error e → E (.exception e) s t := by
  cases r <;> simp [orException, Except.mapError]

end Rules

end FrankaDeploy.Servo
