import FrankaDeploy.ClosedLoop.Authorization
import FrankaDeploy.Foundation.Ieee754
import FrankaDeploy.Foundation.Machine

/-! # What a run of gate calls guarantees

`gateMachine` drives one safety gate with an arbitrary list of calls from any threads at any clock
readings, and records the authorizations that arm it. `step_cases` says once what a call can do;
a successful motion check is then traced back to the one arming that it rests on. -/

namespace FrankaDeploy.ClosedLoop

open FrankaDeploy.Foundation
open scoped FloatArith

variable {D T : Type} [FloatArith D] [DecidableEq T]

/-- **A call on the gate** with its arguments; an argument that should be a Boolean and is not one
is `none`. -/
inductive GateCall (D : Type) [FloatArith D] where
  /-- A read of `state`, `fault_reason` or `authorization_id`. -/
  | query
  | latchFault (reason : String)
  /-- `update_interlocks(deadman_asserted=…, estop_healthy=…)`. -/
  | updateInterlocks (deadmanAsserted estopHealthy : Option Bool)
  | arm (authorization : MotionAuthorization D) (runId : String) (now : D)
      (frankaRestVerified rh56DisabledVerified : Option Bool)
  | requireMotion (runId : String) (now : D)
  | disarmAfterVerifiedStop (runId : String) (frankaStopVerified rh56DisabledVerified : Option Bool)

namespace GateCall

def interlocks? : GateCall D → Option (Bool × Bool)
  | .updateInterlocks (some deadman) (some estop) => some (deadman, estop)
  | _ => none

def armedOf : GateCall D → Except PyError Unit → List (MotionAuthorization D)
  | .arm authorization _ _ _ _, .ok () => [authorization]
  | _, _ => []

end GateCall

namespace ClosedLoopSafetyGate

variable (G : ClosedLoopSafetyGate D T)

def perform (caller : T) : GateCall D → ClosedLoopSafetyGate D T × Except PyError Unit
  | .query => (G, .ok ())
  | .latchFault reason => G.latchFault reason
  | .updateInterlocks deadman estop => G.updateInterlocks deadman estop
  | .arm authorization runId now franka hand =>
    G.arm caller authorization runId now franka hand
  | .requireMotion runId now => G.requireMotion caller runId now
  | .disarmAfterVerifiedStop runId franka hand => G.disarmAfterVerifiedStop runId franka hand

/-- **`call` arms the gate with `authorization`**: every condition of `arm` is met. -/
structure Arms (call : GateCall D) (authorization : MotionAuthorization D) : Prop where
  disarmed : G.state = .disarmed
  unused : authorization.authorizationId ∉ G.usedAuthorizationIds
  deadman : G.deadmanAsserted = some true
  estop : G.estopHealthy = some true
  call_eq : ∃ runId now, call = .arm authorization runId now (some true) (some true) ∧
    pyStrip runId = authorization.runId ∧ FloatArith.isFinite now = true ∧
    authorization.issuedMonotonicS ≤ now ∧ now < authorization.expiresMonotonicS

/-- **`call` is a motion check that `authorization` covers.** -/
structure Covers (call : GateCall D) (authorization : MotionAuthorization D) : Prop where
  armed : G.state = .armed
  active : G.authorization = some authorization
  deadman : G.deadmanAsserted = some true
  estop : G.estopHealthy = some true
  call_eq : ∃ runId now, call = .requireMotion runId now ∧ pyStrip runId = authorization.runId ∧
    FloatArith.isFinite now = true ∧ ¬ authorization.expiresMonotonicS ≤ now

def armedWith (caller : T) (authorization : MotionAuthorization D) (now : D) :
    ClosedLoopSafetyGate D T :=
  { G with
    authorization := some authorization
    usedAuthorizationIds := insert authorization.authorizationId G.usedAuthorizationIds
    lastMotionCheckMonotonicS := some now
    lastMotionCheckByThread := Function.update (fun _ => none) caller (some now)
    state := .armed }

def disarmedGate : ClosedLoopSafetyGate D T :=
  { G with
    authorization := none
    lastMotionCheckMonotonicS := none
    lastMotionCheckByThread := fun _ => none
    state := .disarmed }

def withInterlocks (deadman estop : Bool) : ClosedLoopSafetyGate D T :=
  { G with deadmanAsserted := some deadman, estopHealthy := some estop }

end ClosedLoopSafetyGate

open ClosedLoopSafetyGate

/-- One gate under arbitrary calls of arbitrary threads; the events are the authorizations that
arm it. -/
def gateMachine (D T : Type) [FloatArith D] [DecidableEq T] :
    Machine (ClosedLoopSafetyGate D T) (T × GateCall D) (MotionAuthorization D) where
  step G call := ((G.perform call.1 call.2).1, call.2.armedOf (G.perform call.1 call.2).2)

@[simp] theorem gateMachine_step (G : ClosedLoopSafetyGate D T) (call : T × GateCall D) :
    (gateMachine D T).step G call =
      ((G.perform call.1 call.2).1, call.2.armedOf (G.perform call.1 call.2).2) := rfl

namespace ClosedLoopSafetyGate

variable (G : ClosedLoopSafetyGate D T)

/-! ## What each method can do -/

omit [DecidableEq T] in
theorem updateInterlocks_cases (deadman estop : Option Bool) :
    (∃ e, G.updateInterlocks deadman estop = (G, .error e) ∧ (deadman = none ∨ estop = none)) ∨
    (∃ d e, deadman = some d ∧ estop = some e ∧
      ((∃ r, G.state = .armed ∧ (d = false ∨ e = false) ∧
          G.updateInterlocks deadman estop = (G.withInterlocks d e).latchAndRaise r) ∨
        (¬(G.state = .armed ∧ (d = false ∨ e = false)) ∧
          G.updateInterlocks deadman estop = (G.withInterlocks d e, .ok ())))) := by
  cases deadman with
  | none => exact .inl ⟨_, rfl, .inl rfl⟩
  | some d =>
    cases estop with
    | none => exact .inl ⟨_, rfl, .inr rfl⟩
    | some e =>
      refine .inr ⟨d, e, rfl, rfl, ?_⟩
      by_cases hlost : G.state = .armed ∧ (d = false ∨ e = false)
      · exact .inl ⟨_, hlost.1, hlost.2, if_pos hlost⟩
      · exact .inr ⟨hlost, if_neg hlost⟩

theorem arm_cases (caller : T) (authorization : MotionAuthorization D) (runId : String) (now : D)
    (franka hand : Option Bool) :
    (∃ e, G.arm caller authorization runId now franka hand = (G, .error e)) ∨
    (G.Arms (.arm authorization runId now franka hand) authorization ∧
      G.arm caller authorization runId now franka hand =
        (G.armedWith caller authorization now, .ok ())) := by
  unfold arm
  split
  · exact .inl ⟨_, rfl⟩
  · exact .inl ⟨_, rfl⟩
  · exact .inl ⟨_, rfl⟩
  · next now' frankaSafe handSafe hnow hfranka hhand =>
      rw [finiteScalar_eq_ok] at hnow
      rw [strictBool_eq_ok] at hfranka hhand
      obtain ⟨hfinite, rfl⟩ := hnow
      -- The conditions in the order in which the source checks them.
      by_cases hfault : G.state = .faultLatched
      · rw [if_pos hfault]
        exact .inl ⟨_, rfl⟩
      rw [if_neg hfault]
      by_cases hdisarmed : G.state = .disarmed
      · rw [if_neg (not_not.2 hdisarmed)]
        by_cases hrun : authorization.runId = pyStrip runId
        · rw [if_neg (not_not.2 hrun)]
          by_cases hused : authorization.authorizationId ∈ G.usedAuthorizationIds
          · rw [if_pos hused]
            exact .inl ⟨_, rfl⟩
          rw [if_neg hused]
          by_cases hactive :
              authorization.issuedMonotonicS ≤ now ∧ now < authorization.expiresMonotonicS
          · rw [if_neg (not_not.2 hactive)]
            by_cases hdeadman : G.deadmanAsserted = some true
            · rw [if_neg (not_not.2 hdeadman)]
              by_cases hestop : G.estopHealthy = some true
              · rw [if_neg (not_not.2 hestop)]
                cases frankaSafe with
                | false => exact .inl ⟨_, rfl⟩
                | true =>
                  cases handSafe with
                  | false => exact .inl ⟨_, rfl⟩
                  | true =>
                    subst hfranka hhand
                    exact .inr ⟨⟨hdisarmed, hused, hdeadman, hestop, runId, now, rfl, hrun.symm,
                      hfinite, hactive.1, hactive.2⟩, rfl⟩
              · rw [if_pos hestop]
                exact .inl ⟨_, rfl⟩
            · rw [if_pos hdeadman]
              exact .inl ⟨_, rfl⟩
          · rw [if_pos hactive]
            exact .inl ⟨_, rfl⟩
        · rw [if_pos hrun]
          exact .inl ⟨_, rfl⟩
      · rw [if_pos hdisarmed]
        exact .inl ⟨_, rfl⟩

theorem requireMotion_cases (caller : T) (runId : String) (now : D) :
    (∃ e, G.requireMotion caller runId now = (G, .error e)) ∨
    (∃ r, G.requireMotion caller runId now = G.latchAndRaise r) ∨
    (∃ r, G.requireMotion caller runId now = (G.recordMotionCheck caller now).latchAndRaise r) ∨
    (∃ authorization, G.Covers (.requireMotion runId now) authorization ∧
      G.requireMotion caller runId now = (G.recordMotionCheck caller now, .ok ())) := by
  unfold requireMotion
  split
  · exact .inl ⟨_, rfl⟩
  · next now' hnow =>
      rw [finiteScalar_eq_ok] at hnow
      obtain ⟨hfinite, rfl⟩ := hnow
      by_cases hfault : G.state = .faultLatched
      · rw [if_pos hfault]
        exact .inl ⟨_, rfl⟩
      rw [if_neg hfault]
      split
      · next authorization harmed hactive =>
          dsimp only
          split_ifs with hrun hclock hexpired hlost
          · exact .inr (.inl ⟨_, rfl⟩)
          · exact .inr (.inl ⟨_, rfl⟩)
          · exact .inr (.inr (.inl ⟨_, rfl⟩))
          · exact .inr (.inr (.inl ⟨_, rfl⟩))
          · rw [not_or, not_not, not_not] at hlost
            exact .inr (.inr (.inr ⟨authorization, ⟨harmed, hactive, hlost.1, hlost.2, runId, now,
              rfl, (not_not.1 hrun).symm, hfinite, hexpired⟩, rfl⟩))
      · exact .inl ⟨_, rfl⟩

omit [DecidableEq T] in
theorem disarmAfterVerifiedStop_cases (runId : String) (franka hand : Option Bool) :
    (∃ e, G.disarmAfterVerifiedStop runId franka hand = (G, .error e)) ∨
    (∃ r, G.disarmAfterVerifiedStop runId franka hand = G.latchAndRaise r) ∨
    (∃ authorization, G.state = .armed ∧ G.authorization = some authorization ∧
      pyStrip runId = authorization.runId ∧ franka = some true ∧ hand = some true ∧
      G.disarmAfterVerifiedStop runId franka hand = (G.disarmedGate, .ok ())) := by
  unfold disarmAfterVerifiedStop
  split
  · exact .inl ⟨_, rfl⟩
  · exact .inl ⟨_, rfl⟩
  · next frankaSafe handSafe hfranka hhand =>
      rw [strictBool_eq_ok] at hfranka hhand
      by_cases hfault : G.state = .faultLatched
      · rw [if_pos hfault]
        exact .inl ⟨_, rfl⟩
      rw [if_neg hfault]
      split
      · next authorization harmed hactive =>
          split_ifs with hrun hunverified
          · exact .inl ⟨_, rfl⟩
          · exact .inr (.inl ⟨_, rfl⟩)
          · rw [not_or, Bool.not_eq_false, Bool.not_eq_false] at hunverified
            exact .inr (.inr ⟨authorization, harmed, hactive, (not_not.1 hrun).symm,
              by rw [hfranka, hunverified.1], by rw [hhand, hunverified.2], rfl⟩)
      · exact .inl ⟨_, rfl⟩

/-- **What one call can do**: the state it leaves and its result. -/
inductive GateStep (caller : T) : GateCall D → ClosedLoopSafetyGate D T × Except PyError Unit → Prop
  | refused {call : GateCall D} (e : PyError) (hcall : call.interlocks? = none) :
      GateStep caller call (G, .error e)
  | query : GateStep caller .query (G, .ok ())
  | latched (reason : String) :
      GateStep caller (.latchFault reason) (G.latchLocked reason, .ok ())
  /-- A check that latches a fault, possibly after it recorded its clock reading. -/
  | faulted {call : GateCall D} (G' : ClosedLoopSafetyGate D T) (reason : String)
      (hG : G' = G ∨ ∃ now, G' = G.recordMotionCheck caller now) (hcall : call.interlocks? = none) :
      GateStep caller call (G'.latchAndRaise reason)
  | interlockLost (deadman estop : Bool) (reason : String) (harmed : G.state = .armed)
      (hlost : deadman = false ∨ estop = false) :
      GateStep caller (.updateInterlocks (some deadman) (some estop))
        ((G.withInterlocks deadman estop).latchAndRaise reason)
  | interlocks (deadman estop : Bool)
      (hkept : ¬(G.state = .armed ∧ (deadman = false ∨ estop = false))) :
      GateStep caller (.updateInterlocks (some deadman) (some estop))
        (G.withInterlocks deadman estop, .ok ())
  | arms {call : GateCall D} {authorization : MotionAuthorization D} (now : D)
      (harms : G.Arms call authorization) :
      GateStep caller call (G.armedWith caller authorization now, .ok ())
  | covers {call : GateCall D} {authorization : MotionAuthorization D} (now : D)
      (hcovers : G.Covers call authorization) :
      GateStep caller call (G.recordMotionCheck caller now, .ok ())
  | disarms {authorization : MotionAuthorization D} (runId : String) (harmed : G.state = .armed)
      (hactive : G.authorization = some authorization)
      (hrun : pyStrip runId = authorization.runId) :
      GateStep caller (.disarmAfterVerifiedStop runId (some true) (some true))
        (G.disarmedGate, .ok ())

theorem perform_step (caller : T) (call : GateCall D) :
    G.GateStep caller call (G.perform caller call) := by
  cases call with
  | query => exact .query
  | latchFault reason => exact .latched reason
  | updateInterlocks deadman estop =>
    obtain ⟨e, h, hnone⟩ | ⟨d, e, rfl, rfl, ⟨r, harmed, hlost, h⟩ | ⟨hkept, h⟩⟩ :=
      G.updateInterlocks_cases deadman estop
    · rw [perform, h]
      refine .refused e ?_
      rcases hnone with rfl | rfl
      · rfl
      · cases deadman <;> rfl
    · rw [perform, h]
      exact .interlockLost d e r harmed hlost
    · rw [perform, h]
      exact .interlocks d e hkept
  | arm authorization runId now franka hand =>
    obtain ⟨e, h⟩ | ⟨harms, h⟩ := G.arm_cases caller authorization runId now franka hand
    · rw [perform, h]
      exact .refused e rfl
    · rw [perform, h]
      exact .arms now harms
  | requireMotion runId now =>
    obtain ⟨e, h⟩ | ⟨r, h⟩ | ⟨r, h⟩ | ⟨authorization, hcovers, h⟩ :=
      G.requireMotion_cases caller runId now
    · rw [perform, h]
      exact .refused e rfl
    · rw [perform, h]
      exact .faulted G r (.inl rfl) rfl
    · rw [perform, h]
      exact .faulted _ r (.inr ⟨now, rfl⟩) rfl
    · rw [perform, h]
      exact .covers now hcovers
  | disarmAfterVerifiedStop runId franka hand =>
    obtain ⟨e, h⟩ | ⟨r, h⟩ | ⟨authorization, harmed, hactive, hrun, rfl, rfl, h⟩ :=
      G.disarmAfterVerifiedStop_cases runId franka hand
    · rw [perform, h]
      exact .refused e rfl
    · rw [perform, h]
      exact .faulted G r (.inl rfl) rfl
    · rw [perform, h]
      exact .disarms runId harmed hactive hrun

/-! ## What one call preserves -/

variable {G} {caller : T} {call : GateCall D}
  {out : ClosedLoopSafetyGate D T × Except PyError Unit}

theorem GateStep.interlocks_eq (h : G.GateStep caller call out) :
    (out.1.deadmanAsserted, out.1.estopHealthy) =
      match call.interlocks? with
      | some (deadman, estop) => (some deadman, some estop)
      | none => (G.deadmanAsserted, G.estopHealthy) := by
  cases h with
  | refused e hcall => rw [hcall]
  | query => rfl
  | latched reason => rfl
  | faulted G' reason hG hcall =>
    rw [hcall]
    rcases hG with rfl | ⟨now, rfl⟩
    · rfl
    · rfl
  | interlockLost deadman estop reason harmed hlost => rfl
  | interlocks deadman estop hkept => rfl
  | arms now harms =>
    obtain ⟨runId, now', rfl, -⟩ := harms.call_eq
    rfl
  | covers now hcovers =>
    obtain ⟨runId, now', rfl, -⟩ := hcovers.call_eq
    rfl
  | disarms runId harmed hactive hrun => rfl

theorem GateStep.used (h : G.GateStep caller call out) :
    (call.armedOf out.2 = [] ∧ out.1.usedAuthorizationIds = G.usedAuthorizationIds) ∨
      ∃ authorization, call.armedOf out.2 = [authorization] ∧
        authorization.authorizationId ∉ G.usedAuthorizationIds ∧
        out.1.usedAuthorizationIds =
          insert authorization.authorizationId G.usedAuthorizationIds := by
  cases h with
  | refused e hcall =>
    refine .inl ⟨?_, rfl⟩
    cases call <;> rfl
  | query => exact .inl ⟨rfl, rfl⟩
  | latched reason => exact .inl ⟨rfl, rfl⟩
  | faulted G' reason hG hcall =>
    refine .inl ⟨?_, ?_⟩
    · cases call <;> rfl
    · rcases hG with rfl | ⟨now, rfl⟩
      · rfl
      · rfl
  | interlockLost deadman estop reason harmed hlost => exact .inl ⟨rfl, rfl⟩
  | interlocks deadman estop hkept => exact .inl ⟨rfl, rfl⟩
  | @arms _ authorization now harms =>
    obtain ⟨runId, now', rfl, -⟩ := harms.call_eq
    exact .inr ⟨authorization, rfl, harms.unused, rfl⟩
  | covers now hcovers =>
    obtain ⟨runId, now', rfl, -⟩ := hcovers.call_eq
    exact .inl ⟨rfl, rfl⟩
  | disarms runId harmed hactive hrun => exact .inl ⟨rfl, rfl⟩

theorem GateStep.active (h : G.GateStep caller call out) (harmed : out.1.state = .armed) :
    (G.state = .armed ∧ out.1.authorization = G.authorization) ∨
      ∃ authorization, G.Arms call authorization ∧ out.1.authorization = some authorization := by
  cases h with
  | refused e hcall => exact .inl ⟨harmed, rfl⟩
  | query => exact .inl ⟨harmed, rfl⟩
  | latched reason => cases harmed
  | faulted G' reason hG hcall => cases harmed
  | interlockLost deadman estop reason _ hlost => cases harmed
  | interlocks deadman estop hkept => exact .inl ⟨harmed, rfl⟩
  | @arms _ authorization now harms => exact .inr ⟨authorization, harms, rfl⟩
  | covers now hcovers => exact .inl ⟨harmed, rfl⟩
  | disarms runId _ hactive hrun => cases harmed

theorem GateStep.faulted_of_faulted (h : G.GateStep caller call out)
    (hfault : G.state = .faultLatched) :
    out.1.state = .faultLatched ∧ out.1.faultReason = G.faultReason := by
  cases h with
  | refused e hcall => exact ⟨hfault, rfl⟩
  | query => exact ⟨hfault, rfl⟩
  | latched reason => exact ⟨rfl, G.latchLocked_faultReason hfault reason⟩
  | faulted G' reason hG hcall =>
    rcases hG with rfl | ⟨now, rfl⟩
    · exact ⟨rfl, latchLocked_faultReason _ hfault reason⟩
    · exact ⟨rfl, latchLocked_faultReason (G.recordMotionCheck caller now) hfault reason⟩
  | interlockLost deadman estop reason harmed hlost =>
    rw [hfault] at harmed
    cases harmed
  | interlocks deadman estop hkept => exact ⟨hfault, rfl⟩
  | arms now harms => exact absurd (hfault.symm.trans harms.disarmed) (by decide)
  | covers now hcovers => exact absurd (hfault.symm.trans hcovers.armed) (by decide)
  | disarms runId harmed hactive hrun => exact absurd (hfault.symm.trans harmed) (by decide)

theorem GateStep.disarmed_of_armed (h : G.GateStep caller call out) (harmed : G.state = .armed)
    (hdisarmed : out.1.state = .disarmed) :
    ∃ authorization runId, G.authorization = some authorization ∧
      pyStrip runId = authorization.runId ∧
      call = .disarmAfterVerifiedStop runId (some true) (some true) ∧ out.2 = .ok () := by
  have hno : G.state ≠ .disarmed := by simp [harmed]
  cases h with
  | refused e hcall => exact absurd hdisarmed hno
  | query => exact absurd hdisarmed hno
  | latched reason => cases hdisarmed
  | faulted G' reason hG hcall => cases hdisarmed
  | interlockLost deadman estop reason _ hlost => cases hdisarmed
  | interlocks deadman estop hkept => exact absurd hdisarmed hno
  | arms now harms => exact absurd harms.disarmed hno
  | covers now hcovers => exact absurd hdisarmed hno
  | @disarms authorization runId _ hactive hrun =>
    exact ⟨authorization, runId, hactive, hrun, rfl, rfl⟩

theorem disarmed_of_ok {runId : String} {franka hand : Option Bool}
    (h : (G.perform caller (.disarmAfterVerifiedStop runId franka hand)).2 = .ok ()) :
    (G.perform caller (.disarmAfterVerifiedStop runId franka hand)).1.state = .disarmed := by
  have hperform : G.perform caller (.disarmAfterVerifiedStop runId franka hand) =
      G.disarmAfterVerifiedStop runId franka hand := rfl
  rw [hperform] at h ⊢
  obtain ⟨e, hout⟩ | ⟨r, hout⟩ | ⟨authorization, -, -, -, -, -, hout⟩ :=
    G.disarmAfterVerifiedStop_cases runId franka hand
  · rw [hout] at h
    cases h
  · rw [hout] at h
    cases h
  · rw [hout]
    rfl

theorem covers_of_ok {runId : String} {now : D}
    (h : (G.requireMotion caller runId now).2 = .ok ()) :
    ∃ authorization, G.Covers (.requireMotion runId now) authorization := by
  obtain ⟨e, hout⟩ | ⟨r, hout⟩ | ⟨r, hout⟩ | ⟨authorization, hcovers, -⟩ :=
    G.requireMotion_cases caller runId now
  · rw [hout] at h
    cases h
  · rw [hout] at h
    cases h
  · rw [hout] at h
    cases h
  · exact ⟨authorization, hcovers⟩

end ClosedLoopSafetyGate

/-! ## Runs -/

def interlocksGiven (calls : List (T × GateCall D)) : Option (Bool × Bool) :=
  (calls.filterMap (·.2.interlocks?)).getLast?

theorem interlocksGiven_concat (calls : List (T × GateCall D)) (call : T × GateCall D) :
    interlocksGiven (calls ++ [call]) = call.2.interlocks?.or (interlocksGiven calls) := by
  unfold interlocksGiven
  cases h : call.2.interlocks? with
  | none => simp [h]
  | some given => simp [h]

/-- **Some call of the run armed the gate with `authorization`, under interlocks that were all
given as true, and the gate has been armed with it ever since.** -/
def ArmedSince (calls : List (T × GateCall D)) (authorization : MotionAuthorization D) : Prop :=
  ∃ before caller call after, calls = before ++ (caller, call) :: after ∧
    ((gateMachine D T).run fresh before).Arms call authorization ∧
    interlocksGiven before = some (true, true) ∧
    ∀ done rest, after = done ++ rest →
      ((gateMachine D T).run fresh (before ++ (caller, call) :: done)).state = .armed ∧
        ((gateMachine D T).run fresh (before ++ (caller, call) :: done)).authorization =
          some authorization

theorem interlocks_run (calls : List (T × GateCall D)) :
    (((gateMachine D T).run fresh calls).deadmanAsserted,
      ((gateMachine D T).run fresh calls).estopHealthy) =
      ((interlocksGiven calls).map (·.1), (interlocksGiven calls).map (·.2)) := by
  refine Machine.history_induction (gateMachine D T) (P := fun calls G =>
    (G.deadmanAsserted, G.estopHealthy) =
      ((interlocksGiven calls).map (·.1), (interlocksGiven calls).map (·.2))) rfl ?_ calls
  intro calls call ih
  rw [gateMachine_step, (perform_step _ call.1 call.2).interlocks_eq, interlocksGiven_concat]
  cases call.2.interlocks? with
  | none => exact ih
  | some given => rfl

theorem usedAuthorizationIds_run (calls : List (T × GateCall D)) :
    ((gateMachine D T).run fresh calls).usedAuthorizationIds =
        (((gateMachine D T).trace fresh calls).map (·.authorizationId)).toFinset ∧
      (((gateMachine D T).trace fresh calls).map (·.authorizationId)).Nodup := by
  refine Machine.monitor_induction (gateMachine D T) (P := fun G armed =>
    G.usedAuthorizationIds = (armed.map (·.authorizationId)).toFinset ∧
      (armed.map (·.authorizationId)).Nodup) ?_ ?_ calls
  · exact ⟨rfl, List.nodup_nil⟩
  rintro G armed call ⟨hused, hnodup⟩
  rw [gateMachine_step]
  rcases (G.perform_step call.1 call.2).used with ⟨hnone, hsame⟩ | ⟨authorization, hone, hnew, hused'⟩
  · rw [hnone, hsame, List.append_nil]
    exact ⟨hused, hnodup⟩
  · rw [hone, hused', hused, List.map_append]
    have hfresh : authorization.authorizationId ∉ armed.map (·.authorizationId) := by
      rw [← List.mem_toFinset, ← hused]
      exact hnew
    refine ⟨?_, hnodup.append (List.nodup_singleton _) ?_⟩
    · ext identity
      simp [or_comm]
    · simpa using hfresh

theorem armedSince_of_arms {calls : List (T × GateCall D)} {caller : T} {call : GateCall D}
    {authorization : MotionAuthorization D}
    (harms : ((gateMachine D T).run fresh calls).Arms call authorization)
    (hstate : ((gateMachine D T).run fresh (calls ++ [(caller, call)])).state = .armed)
    (hactive : ((gateMachine D T).run fresh (calls ++ [(caller, call)])).authorization =
      some authorization) : ArmedSince (calls ++ [(caller, call)]) authorization := by
  have hgiven := interlocks_run (D := D) (T := T) calls
  rw [harms.deadman, harms.estop, Prod.mk.injEq] at hgiven
  refine ⟨calls, caller, call, [], rfl, harms, ?_, ?_⟩
  · cases h : interlocksGiven calls with
    | none =>
      rw [h] at hgiven
      cases hgiven.1
    | some given =>
      rw [h] at hgiven
      obtain ⟨deadman, estop⟩ := given
      cases hgiven.1
      cases hgiven.2
      rfl
  · intro done rest hsplit
    obtain ⟨rfl, -⟩ := List.append_eq_nil_iff.1 hsplit.symm
    exact ⟨hstate, hactive⟩

theorem ArmedSince.concat {calls : List (T × GateCall D)} {authorization : MotionAuthorization D}
    (h : ArmedSince calls authorization) (call : T × GateCall D)
    (hstate : ((gateMachine D T).run fresh (calls ++ [call])).state = .armed)
    (hactive : ((gateMachine D T).run fresh (calls ++ [call])).authorization =
      some authorization) : ArmedSince (calls ++ [call]) authorization := by
  obtain ⟨before, caller, first, after, rfl, harms, hgiven, hsince⟩ := h
  refine ⟨before, caller, first, after ++ [call], by simp, harms, hgiven, ?_⟩
  intro done rest hsplit
  induction rest using List.reverseRecOn with
  | nil =>
    rw [List.append_nil] at hsplit
    subst hsplit
    rw [List.append_assoc] at hstate hactive
    exact ⟨hstate, hactive⟩
  | append_singleton rest last _ =>
    rw [← List.append_assoc] at hsplit
    exact hsince done rest (List.append_inj' hsplit rfl).1

/-- **An armed gate rests on one arming**, with its authorization the active one since. -/
theorem armedSince_run (calls : List (T × GateCall D)) :
    ((gateMachine D T).run fresh calls).state = .armed →
      ∃ authorization, ((gateMachine D T).run fresh calls).authorization = some authorization ∧
        ArmedSince calls authorization := by
  induction calls using List.reverseRecOn with
  | nil => intro h; cases h
  | append_singleton calls call ih =>
    intro harmed
    have hrun := Machine.run_concat (gateMachine D T) fresh calls call
    have harmed' := harmed
    rw [hrun] at harmed'
    rcases (perform_step _ call.1 call.2).active harmed' with
      ⟨hbefore, hsame⟩ | ⟨authorization, harms, hactive⟩
    · obtain ⟨authorization, hactive, hsince⟩ := ih hbefore
      have hactive' :
          ((gateMachine D T).run fresh (calls ++ [call])).authorization =
            some authorization := by
        rw [hrun]
        exact hsame.trans hactive
      exact ⟨authorization, hactive', hsince.concat call harmed hactive'⟩
    · have hactive' :
          ((gateMachine D T).run fresh (calls ++ [call])).authorization =
            some authorization := by
        rw [hrun]
        exact hactive
      exact ⟨authorization, hactive', armedSince_of_arms harms harmed hactive'⟩

/-! ## The contract of the gate -/

/-- **What every run of calls on a new gate guarantees**, at doubles. -/
structure GateContract (T : Type) [DecidableEq T] : Prop where
  /-- A motion check returns only under an authorization for exactly this run that has not expired,
  with which the gate was armed under true interlocks and has been armed ever since. -/
  motion : ∀ (calls : List (T × GateCall Binary64)) caller runId now,
    (((gateMachine Binary64 T).run fresh calls).requireMotion caller runId now).2 = .ok () →
      ∃ authorization, ArmedSince calls authorization ∧ authorization.runId = pyStrip runId ∧
        now < authorization.expiresMonotonicS
  absorbing : ∀ calls later : List (T × GateCall Binary64),
    ((gateMachine Binary64 T).run fresh calls).state = .faultLatched →
      ((gateMachine Binary64 T).run fresh (calls ++ later)).state = .faultLatched ∧
        ((gateMachine Binary64 T).run fresh (calls ++ later)).faultReason =
          ((gateMachine Binary64 T).run fresh calls).faultReason
  once : ∀ calls : List (T × GateCall Binary64),
    (((gateMachine Binary64 T).trace fresh calls).map (·.authorizationId)).Nodup
  disarm : ∀ (calls : List (T × GateCall Binary64)) call,
    ((gateMachine Binary64 T).run fresh calls).state = .armed →
      ((gateMachine Binary64 T).run fresh (calls ++ [call])).state = .disarmed →
        ∃ authorization runId,
          ((gateMachine Binary64 T).run fresh calls).authorization = some authorization ∧
          pyStrip runId = authorization.runId ∧
          call.2 = .disarmAfterVerifiedStop runId (some true) (some true) ∧
          (((gateMachine Binary64 T).run fresh calls).perform call.1 call.2).2 = .ok ()

/-- **The gate's contract.** Under any calls of any threads at any clock readings, motion is granted
only under one unexpired arming for that run that nothing has ended. -/
theorem closedLoopSafetyGate_contract (T : Type) [DecidableEq T] : GateContract T where
  motion := by
    intro calls caller runId now hok
    obtain ⟨authorization, hcovers⟩ := covers_of_ok hok
    obtain ⟨authorization', hactive, hsince⟩ := armedSince_run calls hcovers.armed
    obtain rfl : authorization' = authorization :=
      Option.some.inj (hactive.symm.trans hcovers.active)
    obtain ⟨runId', now', heq, hrun, hfinite, hexpires⟩ := hcovers.call_eq
    cases heq
    refine ⟨authorization', hsince, hrun.symm, ?_⟩
    -- Both times are finite, so a reading that is not past the end is before it.
    exact Ieee.lt_of_not_le (Ieee.isNaN_of_isFinite hfinite)
      (Ieee.isNaN_of_isFinite authorization'.expires_finite) hexpires
  absorbing := by
    intro calls later hfault
    rw [Machine.run_append]
    refine Machine.run_induction (gateMachine Binary64 T) (P := fun G =>
      G.state = .faultLatched ∧
        G.faultReason = ((gateMachine Binary64 T).run fresh calls).faultReason) ?_ ?_ later
    · exact ⟨hfault, rfl⟩
    · rintro G call ⟨hstate, hreason⟩
      rw [gateMachine_step]
      have hkept := (G.perform_step call.1 call.2).faulted_of_faulted hstate
      exact ⟨hkept.1, hkept.2.trans hreason⟩
  once calls := (usedAuthorizationIds_run calls).2
  disarm := by
    intro calls call harmed hdisarmed
    rw [Machine.run_concat] at hdisarmed
    exact (perform_step _ call.1 call.2).disarmed_of_armed harmed hdisarmed

/-- An approval of the run `bench` for the first second. -/
def benchAuthorization : MotionAuthorization Binary64 where
  runId := "bench"
  authorizationId := "approval"
  issuedMonotonicS := FloatArith.zero
  expiresMonotonicS := FloatArith.one
  scope := authorizationScope
  runId_ne := by decide
  authorizationId_ne := by decide
  scope_eq := rfl
  issued_finite := isFinite_zero
  expires_finite := isFinite_one
  issued_before := by decide +kernel

/-- An armed gate grants motion to any thread before the approval expires, and not at its end. -/
example :
    let G := (gateMachine Binary64 Bool).run fresh
      [(false, .updateInterlocks (some true) (some true)),
        (false, .arm benchAuthorization "bench " FloatArith.zero (some true) (some true))]
    (G.requireMotion true "bench" (FloatArith.ofRat (1 / 2))).2.toBool = true ∧
      (G.requireMotion true "bench" FloatArith.one).2.toBool = false := by
  decide +kernel

end FrankaDeploy.ClosedLoop
