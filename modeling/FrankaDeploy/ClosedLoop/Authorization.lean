import FrankaDeploy.ClosedLoop.Validation
import Mathlib.Data.Finset.Insert
import Mathlib.Logic.Function.Basic

/-! # Run-scoped motion authorization

`ClosedLoopSafetyGate` of `closed_loop/authorization.py` as a state and its methods. As with the
ledger, a method returns the state it leaves behind together with its result: a call that raises
may have latched a fault or recorded a clock reading before. -/

namespace FrankaDeploy.ClosedLoop

open FrankaDeploy.Foundation
open scoped FloatArith

inductive SafetyState where
  | disarmed
  | armed
  | faultLatched
deriving DecidableEq, Repr

def authorizationScope : String := "v94_closed_loop_franka_rh56"

/-- **`MotionAuthorization`**: an operator's approval for one run. What `__post_init__` checks is
part of the type. -/
structure MotionAuthorization (D : Type) [FloatArith D] where
  runId : String
  authorizationId : String
  issuedMonotonicS : D
  expiresMonotonicS : D
  scope : String
  runId_ne : runId ≠ ""
  authorizationId_ne : authorizationId ≠ ""
  scope_eq : scope = authorizationScope
  issued_finite : FloatArith.isFinite issuedMonotonicS = true
  expires_finite : FloatArith.isFinite expiresMonotonicS = true
  issued_before : ¬ expiresMonotonicS ≤ issuedMonotonicS

variable {D T : Type} [FloatArith D]

/-- **The state of `ClosedLoopSafetyGate`**; `T` identifies the calling threads. -/
structure ClosedLoopSafetyGate (D T : Type) [FloatArith D] where
  state : SafetyState
  deadmanAsserted : Option Bool
  estopHealthy : Option Bool
  authorization : Option (MotionAuthorization D)
  faultReason : Option String
  usedAuthorizationIds : Finset String
  lastMotionCheckMonotonicS : Option D
  lastMotionCheckByThread : T → Option D

namespace ClosedLoopSafetyGate

def fresh : ClosedLoopSafetyGate D T :=
  ⟨.disarmed, none, none, none, none, ∅, none, fun _ => none⟩

variable (G : ClosedLoopSafetyGate D T)

/-! ## Internal helpers -/

def authorizationId : Option String := G.authorization.map (·.authorizationId)

/-- `_latch_locked`: the first reason is kept. -/
def latchLocked (reason : String) : ClosedLoopSafetyGate D T :=
  { G with
    faultReason :=
      if G.state = .faultLatched then G.faultReason
      else some (strippedOr reason "unspecified closed-loop fault")
    authorization := none
    state := .faultLatched }

@[simp] theorem latchLocked_state (reason : String) :
    (G.latchLocked reason).state = .faultLatched := rfl

@[simp] theorem latchLocked_authorization (reason : String) :
    (G.latchLocked reason).authorization = none := rfl

@[simp] theorem latchLocked_usedAuthorizationIds (reason : String) :
    (G.latchLocked reason).usedAuthorizationIds = G.usedAuthorizationIds := rfl

@[simp] theorem latchLocked_deadmanAsserted (reason : String) :
    (G.latchLocked reason).deadmanAsserted = G.deadmanAsserted := rfl

@[simp] theorem latchLocked_estopHealthy (reason : String) :
    (G.latchLocked reason).estopHealthy = G.estopHealthy := rfl

theorem latchLocked_faultReason (h : G.state = .faultLatched) (reason : String) :
    (G.latchLocked reason).faultReason = G.faultReason := if_pos h

def faultLatchedError : PyError :=
  let reason := G.faultReason.getD "None"
  .runtimeError s!"closed-loop fault is latched: {reason}"

def latchAndRaise (reason : String) : ClosedLoopSafetyGate D T × Except PyError Unit :=
  (G.latchLocked reason, .error (.runtimeError reason))

/-- The reading that `require_motion` records for the calling thread and for the gate. -/
def recordMotionCheck [DecidableEq T] (caller : T) (now : D) : ClosedLoopSafetyGate D T :=
  { G with
    lastMotionCheckByThread := Function.update G.lastMotionCheckByThread caller (some now)
    lastMotionCheckMonotonicS :=
      let last := G.lastMotionCheckMonotonicS.getD now
      some (if now < last then last else now) }

/-! ## The methods -/

def latchFault (reason : String) : ClosedLoopSafetyGate D T × Except PyError Unit :=
  (G.latchLocked reason, .ok ())

def updateInterlocks (deadmanAsserted estopHealthy : Option Bool) :
    ClosedLoopSafetyGate D T × Except PyError Unit :=
  match strictBool deadmanAsserted "deadman_asserted", strictBool estopHealthy "estop_healthy" with
  | .error e, _ => (G, .error e)
  | .ok _, .error e => (G, .error e)
  | .ok deadman, .ok estop =>
    let updated := { G with deadmanAsserted := some deadman, estopHealthy := some estop }
    if G.state = .armed ∧ (deadman = false ∨ estop = false) then
      updated.latchAndRaise (if estop = false then "external emergency stop opened"
        else "external deadman was released")
    else (updated, .ok ())

/-- `arm`. None of its refusals latches a fault. -/
def arm [DecidableEq T] (caller : T) (authorization : MotionAuthorization D) (runId : String)
    (nowMonotonicS : D) (frankaRestVerified rh56DisabledVerified : Option Bool) :
    ClosedLoopSafetyGate D T × Except PyError Unit :=
  match finiteScalar nowMonotonicS "now_monotonic_s",
      strictBool frankaRestVerified "franka_rest_verified",
      strictBool rh56DisabledVerified "rh56_disabled_verified" with
  | .error e, _, _ => (G, .error e)
  | .ok _, .error e, _ => (G, .error e)
  | .ok _, .ok _, .error e => (G, .error e)
  | .ok now, .ok frankaSafe, .ok handSafe =>
    if G.state = .faultLatched then
      (G, .error G.faultLatchedError)
    else if G.state ≠ .disarmed then
      (G, .error (.runtimeError "closed-loop gate is already armed"))
    else if authorization.runId ≠ pyStrip runId then
      (G, .error (.runtimeError "motion authorization run ID mismatch"))
    else if authorization.authorizationId ∈ G.usedAuthorizationIds then
      (G, .error (.runtimeError "motion authorization was already consumed"))
    else if ¬(authorization.issuedMonotonicS ≤ now ∧ now < authorization.expiresMonotonicS) then
      (G, .error (.runtimeError "motion authorization is not active"))
    else if G.deadmanAsserted ≠ some true then
      (G, .error (.runtimeError "external deadman is not asserted"))
    else if G.estopHealthy ≠ some true then
      (G, .error (.runtimeError "external emergency stop is not healthy"))
    else if frankaSafe = false then
      (G, .error (.runtimeError "Franka rest is not verified"))
    else if handSafe = false then
      (G, .error (.runtimeError "RH56 disabled state is not verified"))
    else
      ({ G with
          authorization := some authorization
          usedAuthorizationIds := insert authorization.authorizationId G.usedAuthorizationIds
          lastMotionCheckMonotonicS := some now
          lastMotionCheckByThread := Function.update (fun _ => none) caller (some now)
          state := .armed }, .ok ())

def requireMotion [DecidableEq T] (caller : T) (runId : String) (nowMonotonicS : D) :
    ClosedLoopSafetyGate D T × Except PyError Unit :=
  match finiteScalar nowMonotonicS "now_monotonic_s" with
  | .error e => (G, .error e)
  | .ok now =>
    if G.state = .faultLatched then
      (G, .error G.faultLatchedError)
    else
      match G.state, G.authorization with
      | .armed, some authorization =>
        if authorization.runId ≠ pyStrip runId then
          G.latchAndRaise "active run ID changed after authorization"
        else if (G.lastMotionCheckByThread caller).any (now < ·) then
          -- a regression within one thread; readings of two threads may be out of order
          G.latchAndRaise "motion authorization clock regressed"
        else
          let checked := G.recordMotionCheck caller now
          if authorization.expiresMonotonicS ≤ now then
            checked.latchAndRaise "motion authorization expired"
          else if G.deadmanAsserted ≠ some true ∨ G.estopHealthy ≠ some true then
            checked.latchAndRaise "external motion interlock is not healthy"
          else (checked, .ok ())
      | _, _ => (G, .error (.runtimeError "closed-loop motion is not authorized"))

def disarmAfterVerifiedStop (runId : String) (frankaStopVerified rh56DisabledVerified : Option Bool) :
    ClosedLoopSafetyGate D T × Except PyError Unit :=
  match strictBool frankaStopVerified "franka_stop_verified",
      strictBool rh56DisabledVerified "rh56_disabled_verified" with
  | .error e, _ => (G, .error e)
  | .ok _, .error e => (G, .error e)
  | .ok frankaSafe, .ok handSafe =>
    if G.state = .faultLatched then
      (G, .error (.runtimeError "a fault-latched session cannot be re-used after stop"))
    else
      match G.state, G.authorization with
      | .armed, some authorization =>
        if authorization.runId ≠ pyStrip runId then
          (G, .error (.runtimeError "active run ID mismatch during disarm"))
        else if frankaSafe = false ∨ handSafe = false then
          G.latchAndRaise "both Franka stop and RH56 disable must be verified before disarm"
        else
          ({ G with
              authorization := none
              lastMotionCheckMonotonicS := none
              lastMotionCheckByThread := fun _ => none
              state := .disarmed }, .ok ())
      | _, _ => (G, .error (.runtimeError "closed-loop gate is not armed"))

end ClosedLoopSafetyGate

end FrankaDeploy.ClosedLoop
