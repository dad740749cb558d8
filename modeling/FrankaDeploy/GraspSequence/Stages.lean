import FrankaDeploy.GraspSequence.Containment

/-! # Stages under the watch

Each stage of a grasp goes from what the call knew before it to what it knows after it, and each of
its statements is a step of the watch. -/

set_option linter.unusedSectionVars false

namespace FrankaDeploy.GraspSequence

open FrankaDeploy.Foundation FrankaDeploy.ClosedLoop
open FrankaDeploy.Foundation.Program
open scoped FloatArith

variable {D : Type} [FloatArith D] {W : Type}

variable {env : SequenceWorld D W} {call : SequenceCall D} {p p' : Progress D}
  {c : DriverCall D} {pose : Pose D}

/-! ## Events -/

/-- **An event takes the watch** from what the call knows in `p` to what it knows in `p'`. -/
structure EventStep (call : SequenceCall D) (p : Progress D) (event : SequenceEvent D)
    (p' : Progress D) : Prop where
  step : ∀ m, Agrees call p m → ∃ m', WatchStep m event m' ∧ Agrees call p' m'
  state : p'.state = p.state
  guarded : p'.guarded = p.guarded
  covered : (p.suspended = true → p.guarded = true) → p'.suspended = true → p'.guarded = true

theorem stage_emit {event : SequenceEvent D} (h : EventStep call p event p') :
    Stage call p (emit event : SeqM D W Unit) p' :=
  triple_emit fun _ _ hs =>
    hs.next h.step (hs.state.trans h.state.symm) (hs.guarded.trans h.guarded.symm)
      (h.covered hs.covered)

theorem stage_driver {α : Type} {p₁ : Progress D} (f : W → Except PyException α × W)
    (hcalled : EventStep call p (.called c) p₁) (hsucceeded : EventStep call p₁ (.succeeded c) p') :
    Stage call p (driver c f : SeqM D W α) p' := by
  unfold driver
  refine Stage.seq (stage_emit hcalled) fun _ => ?_
  refine Stage.seq (stage_environment f) fun a => ?_
  exact Stage.seq (stage_emit hsucceeded) fun _ => stage_ret a

theorem stage_verification {p₁ : Progress D} (f : W → Except PyException (Option Bool) × W)
    (message : String) (hcalled : EventStep call p (.called c) p₁)
    (hsucceeded : EventStep call p₁ (.succeeded c) p') :
    Stage call p (verification c f message : SeqM D W Unit) p' := by
  unfold verification
  refine Stage.seq (stage_emit hcalled) fun _ => ?_
  refine Stage.seq (stage_environment f) fun _ => ?_
  exact Stage.seq (stage_check ⟨_, rfl⟩) fun _ => stage_emit hsucceeded

theorem eventStep_touch
    (h : ∀ m, Agrees call p m → WatchStep m (.called c) m.touch) :
    EventStep call p (.called c) p :=
  ⟨fun m hm => ⟨m.touch, h m hm,
      hm.call, hm.executing, hm.state, hm.settledAt, hm.suspended, hm.pregraspOnly⟩,
    rfl, rfl, id⟩

theorem eventStep_motion (hc : c.kind = .motion) :
    EventStep call p (.called c) { p with settledAt := none } :=
  ⟨fun _ hm => ⟨_, .motion hc hm.executing,
      hm.call, hm.executing, hm.state, rfl, hm.suspended, hm.pregraspOnly⟩,
    rfl, rfl, id⟩

theorem eventStep_loadedMotion (hc : c.kind = .loadedMotion) (hguarded : p.guarded = true) :
    EventStep call p (.called c) { p with settledAt := none, suspended := true } :=
  ⟨fun _ hm => ⟨_, .loadedMotion hc hm.executing,
      hm.call, hm.executing, hm.state, rfl, rfl, hm.pregraspOnly⟩,
    rfl, rfl, fun _ _ => hguarded⟩

theorem eventStep_settle (hc : c.kind = .settle pose) : EventStep call p (.called c) p :=
  eventStep_touch fun _ hm => .settle hc hm.executing

theorem eventStep_settled (hc : c.kind = .settle pose) :
    EventStep call p (.succeeded c) { p with settledAt := some pose } :=
  ⟨fun _ hm => ⟨_, .settled hc,
      hm.call, hm.executing, hm.state, rfl, hm.suspended, hm.pregraspOnly⟩,
    rfl, rfl, id⟩

theorem eventStep_openHand (hc : c.kind = .openHand) (hsuspended : p.suspended = false)
    (hhand : p.pregraspOnly = false) : EventStep call p (.called c) p :=
  eventStep_touch fun _ hm =>
    .openHand hc hm.executing (hm.suspended.trans hsuspended) (hm.pregraspOnly.trans hhand)

theorem eventStep_closeHand (hc : c.kind = .closeHand) (hsuspended : p.suspended = false)
    (hhand : p.pregraspOnly = false) (hpose : call.graspPose? = some pose)
    (hsettled : p.settledAt = some pose) : EventStep call p (.called c) p :=
  eventStep_touch fun _ hm =>
    .closeHand hc hm.executing (hm.suspended.trans hsuspended) (hm.pregraspOnly.trans hhand)
      hm.call hpose (hm.settledAt.trans hsettled)

theorem eventStep_other (hc : c.kind = .other) : EventStep call p (.called c) p :=
  eventStep_touch fun _ hm => .other hc hm.executing

theorem eventStep_holdCheck (hc : c.kind = .holdCheck) : EventStep call p (.called c) p :=
  eventStep_touch fun _ _ => .holdCheck hc

theorem eventStep_clearLoad (hc : c.kind = .clearLoad) (hsuspended : p.suspended = false) :
    EventStep call p (.called c) p :=
  eventStep_touch fun _ hm => .clearLoad hc (hm.suspended.trans hsuspended)

theorem eventStep_disableOpen (hc : c.kind = .disable) (hsuspended : p.suspended = false)
    (hcall : call.isPregraspOnly = true) :
    EventStep call p (.called c) { p with pregraspOnly := true } :=
  ⟨fun _ hm => ⟨_, .disableOpen hc hm.executing (hm.suspended.trans hsuspended) hm.call hcall,
      hm.call, hm.executing, hm.state, hm.settledAt, hm.suspended, rfl⟩,
    rfl, rfl, id⟩

theorem eventStep_release (hc : c.kind = .disable) (hsuspended : p.suspended = false)
    (hpose : call.setdownPose? = some pose) (hsettled : p.settledAt = some pose) :
    EventStep call p (.called c) p :=
  eventStep_touch fun _ hm =>
    .release hc hm.executing (hm.suspended.trans hsuspended)
      ⟨call, pose, hm.call, hpose, hm.settledAt.trans hsettled⟩

theorem eventStep_quiet (hsettle : ∀ pose, c.kind ≠ .settle pose) (hhold : c.kind ≠ .holdCheck) :
    EventStep call p (.succeeded c) p :=
  ⟨fun m hm => ⟨m, .succeeded hsettle fun h => absurd h hhold, hm⟩, rfl, rfl, id⟩

def NotSetDown (call : SequenceCall D) (p : Progress D) : Prop :=
  ∀ pose, call.setdownPose? = some pose → p.settledAt ≠ some pose

theorem notSetDown_of_none (h : call.setdownPose? = none) : NotSetDown call p := by
  intro pose hpose
  rw [h] at hpose
  cases hpose

theorem eventStep_held (hc : c.kind = .holdCheck) (h : NotSetDown call p) :
    EventStep call p (.succeeded c) p := by
  refine ⟨fun m hm => ⟨m, .succeeded (fun pose hpose => ?_) fun _ => ?_, hm⟩, rfl, rfl, id⟩
  · rw [hc] at hpose
    cases hpose
  · rintro ⟨call', pose, hcall', hpose, hsettled⟩
    obtain rfl : call = call' := Option.some.inj (hm.call.symm.trans hcall')
    exact h pose hpose (hm.settledAt.symm.trans hsettled)

/-- **The hold is verified where the load is set down.** -/
theorem eventStep_setDown (hc : c.kind = .holdCheck) (hpose : call.setdownPose? = some pose)
    (hsettled : p.settledAt = some pose) :
    EventStep call p (.succeeded c) { p with suspended := false } :=
  ⟨fun _ hm => ⟨_, .setDown hc ⟨call, pose, hm.call, hpose, hm.settledAt.trans hsettled⟩,
      hm.call, hm.executing, hm.state, hm.settledAt, rfl, hm.pregraspOnly⟩,
    rfl, rfl, fun _ h => by cases h⟩

/-! ## Calls of the drivers -/

theorem stage_motion {α : Type} (f : W → Except PyException α × W) (hc : c.kind = .motion) :
    Stage call p (driver c f : SeqM D W α) { p with settledAt := none } :=
  stage_driver f (eventStep_motion hc)
    (eventStep_quiet (fun _ h => by rw [hc] at h; cases h) fun h => by rw [hc] at h; cases h)

theorem stage_handOpen {α : Type} (f : W → Except PyException α × W) (hc : c.kind = .openHand)
    (hsuspended : p.suspended = false) (hhand : p.pregraspOnly = false) :
    Stage call p (driver c f : SeqM D W α) p :=
  stage_driver f (eventStep_openHand hc hsuspended hhand)
    (eventStep_quiet (fun _ h => by rw [hc] at h; cases h) fun h => by rw [hc] at h; cases h)

theorem stage_handClose {α : Type} (f : W → Except PyException α × W) (hc : c.kind = .closeHand)
    (hsuspended : p.suspended = false) (hhand : p.pregraspOnly = false)
    (hpose : call.graspPose? = some pose) (hsettled : p.settledAt = some pose) :
    Stage call p (driver c f : SeqM D W α) p :=
  stage_driver f (eventStep_closeHand hc hsuspended hhand hpose hsettled)
    (eventStep_quiet (fun _ h => by rw [hc] at h; cases h) fun h => by rw [hc] at h; cases h)

theorem stage_other {α : Type} (f : W → Except PyException α × W) (hc : c.kind = .other) :
    Stage call p (driver c f : SeqM D W α) p :=
  stage_driver f (eventStep_other hc)
    (eventStep_quiet (fun _ h => by rw [hc] at h; cases h) fun h => by rw [hc] at h; cases h)

theorem stage_verifyArrival (target : Pose D) (tolerances : SettleTolerances D) (label : String) :
    Stage call p (verifyArrival env target tolerances label) { p with settledAt := some target } :=
  stage_verification _ _ (eventStep_settle rfl) (eventStep_settled rfl)

theorem stage_verifyAuditedJointArrival (targetQ : Vec 7 D) (target : Pose D) (tolerance : D)
    (tolerances : SettleTolerances D) (label : String) :
    Stage call p (verifyAuditedJointArrival env targetQ target tolerance tolerances label)
      { p with settledAt := some target } :=
  stage_verification _ _ (eventStep_settle rfl) (eventStep_settled rfl)

theorem stage_holdCheck
    (h : ∀ targets axes, EventStep call p (.succeeded (.verifyLoadedHold targets axes)) p') :
    Stage call p (verifyLoadedHold env) p' := by
  unfold verifyLoadedHold
  refine stage_look fun s => ?_
  cases s.loadedHoldTargets with
  | none => exact stage_fail ⟨_, rfl⟩
  | some targets =>
    cases s.loadedMinimumContactAxes with
    | none => exact stage_fail ⟨_, rfl⟩
    | some axes => exact stage_driver _ (eventStep_holdCheck rfl) (h targets axes)

theorem stage_verifyLoadedHold (h : NotSetDown call p) : Stage call p (verifyLoadedHold env) p :=
  stage_holdCheck fun _ _ => eventStep_held rfl h

/-! ## Moves -/

theorem stage_checkReadback (actual : Option (Vec 7 D)) (targetQ : Vec 7 D) (tolerance : D) :
    Stage call p (checkReadback actual targetQ tolerance : SeqM D W Unit) p := by
  unfold checkReadback
  cases actual with
  | none => exact stage_fail ⟨_, rfl⟩
  | some feedback => exact Stage.seq (stage_check ⟨_, rfl⟩) fun _ => stage_check ⟨_, rfl⟩

theorem stage_moveAuditedWaypoint (targetQ : Vec 7 D) (tolerance : D) (name : String) :
    Stage call p (moveAuditedWaypoint env targetQ tolerance name) { p with settledAt := none } := by
  unfold moveAuditedWaypoint
  refine Stage.seq (stage_motion _ rfl) fun actual => ?_
  exact Stage.seq (stage_checkReadback actual targetQ tolerance) fun _ => stage_observeBoundary _

theorem stage_moveWaypoints (hp : p.settledAt = none) (waypoints : List (Waypoint D))
    (tolerance : D) : Stage call p (moveWaypoints env waypoints tolerance) p := by
  have hsame : { p with settledAt := none } = p := by
    cases p
    cases hp
    rfl
  refine stage_forEach fun w _ => ?_
  have hmove : Stage call p (moveAuditedWaypoint env w.q.1 tolerance w.name)
      { p with settledAt := none } := stage_moveAuditedWaypoint _ _ _
  rwa [hsame] at hmove

theorem stage_loadedMotion {α : Type} (f : W → Except PyException α × W)
    (hc : c.kind = .loadedMotion) (hguarded : p.guarded = true) :
    Stage call p (driver c f : SeqM D W α) { p with settledAt := none, suspended := true } :=
  stage_driver f (eventStep_loadedMotion hc hguarded)
    (eventStep_quiet (fun _ h => by rw [hc] at h; cases h) fun h => by rw [hc] at h; cases h)

theorem stage_moveLoadedWaypoint (targetQ : Vec 7 D) (tolerance : D) (name : String)
    (law : LoadedTimeLaw D) (hguarded : p.guarded = true) :
    Stage call p (moveLoadedWaypoint env targetQ tolerance name law)
      { p with settledAt := none, suspended := true } := by
  unfold moveLoadedWaypoint
  refine Stage.seq (stage_loadedMotion _ rfl hguarded) fun actual => ?_
  exact Stage.seq (stage_checkReadback actual _ _) fun _ => stage_observeBoundary _

theorem stage_moveHeld (plan : AuditedLoadedLiftSequencePlan D) (w : Waypoint D) (name : String)
    (hguarded : p.guarded = true) (hp : NotSetDown call p) :
    Stage call p (moveHeld env plan w name) { p with settledAt := none, suspended := true } := by
  unfold moveHeld
  refine Stage.seq (stage_verifyLoadedHold hp) fun _ => ?_
  refine Stage.seq (stage_moveLoadedWaypoint _ _ _ _ hguarded) fun _ => ?_
  exact stage_verifyLoadedHold fun pose _ h => by cases h

/-! ## Runs -/

theorem stage_enter {new : SequenceState} (hnew : p.state.allowedTransitions.contains new = true)
    (hlive : new.isTerminal = false) :
    Stage call p (transition env new) { p with state := new } :=
  stage_transition (List.contains_iff_mem.mp hnew) hlive

def approaching (state : SequenceState) (settledAt : Option (Pose D)) : Progress D :=
  ⟨state, settledAt, false, false, false⟩

theorem stage_findDefault (waypoints : List (Waypoint D)) :
    Stage call p (findDefault waypoints : SeqM D W ℕ) p := by
  unfold findDefault
  cases defaultIndex waypoints with
  | none => exact stage_fail ⟨_, rfl⟩
  | some index => exact stage_ret index

theorem stage_waypoint (w : Option (Waypoint D)) :
    Stage call p (waypoint w : SeqM D W (Waypoint D)) p := by
  unfold waypoint
  cases w with
  | none => exact stage_fail ⟨_, rfl⟩
  | some w => exact stage_ret w

theorem stage_openHand (hsuspended : p.suspended = false) (hhand : p.pregraspOnly = false) :
    Stage call p (openHand env) p := stage_handOpen _ rfl hsuspended hhand

theorem stage_runToDefault (defaultQ : FiniteVec 7 D) :
    Stage call (approaching .disarmed none) (runToDefault env defaultQ)
      (approaching .defaultVerified none) := by
  unfold runToDefault
  refine Stage.seq (stage_enter rfl rfl) fun _ => ?_
  refine Stage.seq (stage_openHand rfl rfl) fun _ => ?_
  refine Stage.seq (stage_enter rfl rfl) fun _ => ?_
  refine Stage.seq (stage_observeBoundary _) fun _ => ?_
  refine Stage.seq (stage_enter rfl rfl) fun _ => ?_
  refine Stage.seq (stage_motion _ rfl) fun _ => ?_
  refine Stage.seq (stage_update (fun _ => rfl) fun _ => rfl) fun _ => ?_
  exact Stage.seq (stage_enter rfl rfl) fun _ => stage_observeBoundary _

theorem stage_moveToDefault (hand : Bool) (waypoints : List (Waypoint D)) (tolerance : D)
    (index : ℕ) :
    Stage call ⟨.movingFrankaDefault, none, false, false, hand⟩
      (moveToDefault env waypoints tolerance index) ⟨.defaultVerified, none, false, false, hand⟩ := by
  unfold moveToDefault
  refine Stage.seq (stage_moveWaypoints rfl _ _) fun _ => ?_
  refine Stage.seq (stage_waypoint _) fun w => ?_
  refine Stage.seq (stage_update (fun _ => rfl) fun _ => rfl) fun _ => ?_
  exact stage_enter rfl rfl

theorem stage_runToDefaultJointWaypoints (plan : AuditedJointSequencePlan D) :
    Stage call (approaching .disarmed none) (runToDefaultJointWaypoints env plan)
      (approaching .defaultVerified none) := by
  unfold runToDefaultJointWaypoints
  refine Stage.seq (stage_enter rfl rfl) fun _ => ?_
  refine Stage.seq (stage_openHand rfl rfl) fun _ => ?_
  refine Stage.seq (stage_enter rfl rfl) fun _ => ?_
  refine Stage.seq (stage_observeBoundary _) fun _ => ?_
  refine Stage.seq (stage_enter rfl rfl) fun _ => ?_
  exact Stage.seq (stage_findDefault _) fun index => stage_moveToDefault false _ _ index

/-- **A pregrasp-only run** disables the hand before the arm moves. -/
theorem stage_runPregraspOnlyJointWaypoints (plan : AuditedPregraspSequencePlan D)
    (hcall : call.isPregraspOnly = true) :
    Stage call (approaching .disarmed none) (runPregraspOnlyJointWaypoints env plan)
      ⟨.pregraspVerified, some plan.pregraspPose, false, false, true⟩ := by
  unfold runPregraspOnlyJointWaypoints
  refine Stage.seq (stage_enter rfl rfl) fun _ => ?_
  refine Stage.seq (stage_openHand rfl rfl) fun _ => ?_
  have hdisable : Stage call (approaching .openingHand none) (disableHand env)
      ⟨.openingHand, none, false, false, true⟩ :=
    stage_driver _ (eventStep_disableOpen rfl rfl hcall)
      (eventStep_quiet (fun _ h => by cases h) fun h => by cases h)
  refine Stage.seq hdisable fun _ => ?_
  refine Stage.seq (stage_enter rfl rfl) fun _ => ?_
  refine Stage.seq (stage_observeBoundary _) fun _ => ?_
  refine Stage.seq (stage_findDefault _) fun index => ?_
  refine Stage.seq (stage_enter rfl rfl) fun _ => ?_
  refine Stage.seq (stage_moveToDefault true _ _ index) fun _ => ?_
  unfold runToPregrasp
  refine Stage.seq (stage_enter rfl rfl) fun _ => ?_
  refine Stage.seq (stage_moveWaypoints rfl _ _) fun _ => ?_
  refine Stage.seq (stage_waypoint _) fun last => ?_
  refine Stage.seq (stage_verifyAuditedJointArrival _ _ _ _ _) fun _ => ?_
  exact Stage.seq (stage_enter rfl rfl) fun _ => stage_observeBoundary _

theorem stage_requirePreparedDefault (defaultQ : Vec 7 D) (message : String) :
    Stage call p (requirePreparedDefault defaultQ message : SeqM D W Unit) p :=
  stage_look fun _ => stage_check ⟨_, rfl⟩

theorem stage_requireSettleGate (operation : String) :
    Stage call p (requireSettleGate operation : SeqM D W Unit) p :=
  stage_look fun _ => stage_check ⟨_, rfl⟩

/-- **The closure** happens where the arm was settled: at the grasp pose of the call. -/
theorem stage_graspStages {targetQ : Option (Vec 7 D)} {thumb : Option (Fin 1001)}
    {close : SeqM D W Unit} {targets : RegisterVector} (hpose : call.graspPose? = some pose)
    (hclose : Stage call (approaching .closingBends (some pose)) close
      (approaching .closingBends (some pose))) :
    Stage call (approaching .eefSettling (some pose))
      (graspStages env targetQ pose thumb close targets) (approaching .holding (some pose)) := by
  have hrest (state : SequenceState) (hstate : state.allowedTransitions.contains .closingBends = true) :
      Stage call (approaching state (some pose)) (do
        transition env .closingBends
        requireSettleGate "finger closure"
        close
        holdStage env targets targetQ pose) (approaching .holding (some pose)) := by
    refine Stage.seq (stage_enter hstate rfl) fun _ => ?_
    refine Stage.seq (stage_requireSettleGate _) fun _ => ?_
    refine Stage.seq hclose fun _ => ?_
    refine Stage.seq (stage_update (fun _ => rfl) fun _ => rfl) fun _ => ?_
    exact Stage.seq (stage_enter rfl rfl) fun _ => stage_observeBoundary _
  unfold graspStages
  refine Stage.seq (stage_update (fun _ => rfl) fun _ => rfl) fun _ => ?_
  refine Stage.seq (stage_observeBoundary _) fun _ => ?_
  cases thumb with
  | none => exact Stage.seq (stage_ret ()) fun _ => hrest .eefSettling rfl
  | some q6 =>
    have hpreshape : Stage call (approaching .eefSettling (some pose))
        (preshapeStage env (some q6) targetQ pose) (approaching .thumbPreshape (some pose)) := by
      unfold preshapeStage
      refine Stage.seq (stage_enter rfl rfl) fun _ => ?_
      refine Stage.seq (stage_requireSettleGate _) fun _ => ?_
      refine Stage.seq (stage_handClose _ rfl rfl rfl hpose rfl) fun _ => ?_
      exact stage_observeBoundary _
    exact Stage.seq hpreshape fun _ => hrest .thumbPreshape rfl

theorem stage_closeBends {targets : RegisterVector} (hpose : call.graspPose? = some pose) :
    Stage call (approaching .closingBends (some pose)) (closeBends env targets)
      (approaching .closingBends (some pose)) :=
  stage_handClose _ rfl rfl rfl hpose rfl

theorem stage_closeAudited (plan : AuditedJointSequencePlan D)
    (hpose : call.graspPose? = some pose) :
    Stage call (approaching .closingBends (some pose)) (closeAudited env plan)
      (approaching .closingBends (some pose)) := by
  unfold closeAudited
  refine Triple.ite (fun _ => ?_) fun _ => stage_closeBends hpose
  refine Stage.seq (stage_handClose _ rfl rfl rfl hpose rfl) fun _ => ?_
  exact stage_update (fun _ => rfl) fun _ => rfl

theorem stage_runAfterDefault (plan : NormalizedPlan D)
    (hpose : call.graspPose? = some plan.graspPose) :
    Stage call (approaching .defaultVerified none) (runAfterDefault env plan)
      (approaching .holding (some plan.graspPose)) := by
  unfold runAfterDefault
  refine Stage.seq (stage_requirePreparedDefault _ _) fun _ => ?_
  refine Stage.seq (stage_enter rfl rfl) fun _ => ?_
  refine Stage.seq (stage_motion _ rfl) fun _ => ?_
  refine Stage.seq (stage_verifyArrival _ _ _) fun _ => ?_
  refine Stage.seq (stage_enter rfl rfl) fun _ => ?_
  refine Stage.seq (stage_observeBoundary _) fun _ => ?_
  refine Stage.seq (stage_enter rfl rfl) fun _ => ?_
  refine Stage.seq (stage_motion _ rfl) fun _ => ?_
  refine Stage.seq (stage_enter rfl rfl) fun _ => ?_
  refine Stage.seq (stage_verifyArrival _ _ _) fun _ => ?_
  exact stage_graspStages hpose (stage_closeBends hpose)

theorem stage_runAfterDefaultJointWaypoints (plan : AuditedJointSequencePlan D)
    (hpose : call.graspPose? = some plan.graspPose) :
    Stage call (approaching .defaultVerified none) (runAfterDefaultJointWaypoints env plan)
      (approaching .holding (some plan.graspPose)) := by
  unfold runAfterDefaultJointWaypoints
  refine Stage.seq (stage_findDefault _) fun index => ?_
  refine Stage.seq (stage_waypoint _) fun default => ?_
  refine Stage.seq (stage_requirePreparedDefault _ _) fun _ => ?_
  refine Stage.seq (stage_waypoint _) fun pregrasp => ?_
  refine Stage.seq (stage_waypoint _) fun grasp => ?_
  have hpregrasp : Stage call (approaching .defaultVerified none)
      (approachPregrasp env plan index pregrasp)
      (approaching .pregraspVerified (some plan.pregraspPose)) := by
    unfold approachPregrasp
    refine Stage.seq (stage_enter rfl rfl) fun _ => ?_
    refine Stage.seq (stage_moveWaypoints rfl _ _) fun _ => ?_
    refine Stage.seq (stage_verifyAuditedJointArrival _ _ _ _ _) fun _ => ?_
    exact Stage.seq (stage_enter rfl rfl) fun _ => stage_observeBoundary _
  have hgrasp : Stage call (approaching .pregraspVerified (some plan.pregraspPose))
      (approachGrasp env plan grasp) (approaching .eefSettling (some plan.graspPose)) := by
    unfold approachGrasp
    refine Stage.seq (stage_enter rfl rfl) fun _ => ?_
    refine Stage.seq (stage_moveAuditedWaypoint _ _ _) fun _ => ?_
    refine Stage.seq (stage_enter rfl rfl) fun _ => ?_
    exact stage_verifyAuditedJointArrival _ _ _ _ _
  refine Stage.seq hpregrasp fun _ => ?_
  exact Stage.seq hgrasp fun _ => stage_graspStages hpose (stage_closeAudited plan hpose)

/-! ## The load -/

def carrying (state : SequenceState) (settledAt : Option (Pose D)) : Progress D :=
  ⟨state, settledAt, true, true, false⟩

theorem stage_guard {state : SequenceState} {settledAt : Option (Pose D)} :
    Stage call (approaching state settledAt)
      (update fun s => { s with loadedObjectSuspended := true } : SeqM D W Unit)
      ⟨state, settledAt, false, true, false⟩ :=
  triple_update fun _ _ h => ⟨h.watched.imp fun _ hm => ⟨hm.1, hm.2.1, hm.2.2, hm.2.3, hm.2.4,
    hm.2.5, hm.2.6⟩, h.state, rfl, fun hs => by cases hs⟩

/-- **The lift**: the flag is set before the load can be suspended. -/
theorem stage_lift (plan : AuditedLoadedLiftSequencePlan D) (last : Waypoint D)
    {settledAt : Option (Pose D)} (hcall : call.setdownPose? = none) :
    Stage call (approaching .holding settledAt) (lift env plan last)
      (carrying .liftedHolding (some plan.liftPose)) := by
  unfold lift
  refine Stage.seq (stage_enter rfl rfl) fun _ => ?_
  refine Stage.seq stage_guard fun _ => ?_
  have hheld (q : Progress D) : NotSetDown call q := notSetDown_of_none hcall
  have hmoves : Stage call ⟨.movingLift, settledAt, false, true, false⟩
      (forEach (plan.liftWaypoints.drop 1) fun w => moveHeld env plan w w.name)
      (carrying .movingLift none) :=
    triple_forEach_of_ne_nil plan.tail_ne_nil (fun w _ => stage_moveHeld plan w _ rfl (hheld _))
      fun w _ => stage_moveHeld plan w _ rfl (hheld _)
  refine Stage.seq hmoves fun _ => ?_
  refine Stage.seq (stage_enter rfl rfl) fun _ => ?_
  refine Stage.seq (stage_verifyAuditedJointArrival _ _ _ _ _) fun _ => ?_
  refine Stage.seq (stage_verifyLoadedHold (hheld _)) fun _ => ?_
  exact Stage.seq (stage_enter rfl rfl) fun _ => stage_observeBoundary _

theorem stage_loadedLift (plan : AuditedLoadedLiftSequencePlan D)
    (hpose : call.graspPose? = some plan.graspPlan.graspPose) (hcall : call.setdownPose? = none) :
    Stage call (approaching .disarmed none) (loadedLift env plan)
      (carrying .liftedHolding (some plan.liftPose)) := by
  unfold loadedLift
  refine Stage.seq (stage_runToDefaultJointWaypoints _) fun _ => ?_
  refine Stage.seq (stage_runAfterDefaultJointWaypoints _ hpose) fun _ => ?_
  refine Stage.seq (stage_waypoint _) fun start => ?_
  refine Stage.seq (stage_waypoint _) fun last => ?_
  have happly : Stage call (approaching .holding (some plan.graspPlan.graspPose))
      (applyLoad env plan start) (approaching .holding (some plan.graspPlan.graspPose)) := by
    unfold applyLoad
    refine Stage.seq (stage_verifyLoadedHold (notSetDown_of_none hcall)) fun _ => ?_
    refine Stage.seq (stage_other _ rfl) fun _ => ?_
    refine Stage.seq (stage_update (fun _ => rfl) fun _ => rfl) fun _ => ?_
    exact stage_observeBoundary _
  exact Stage.seq happly fun _ => stage_lift plan last hcall

/-- **The way back down** ends with the load on its support, still held. -/
theorem stage_lower (plan : AuditedLoadedLiftSequencePlan D) (start : Waypoint D)
    (hpose : call.setdownPose? = some plan.graspPlan.graspPose) :
    Stage call (carrying .liftedHolding none) (lower env plan start)
      ⟨.setdownHolding, some plan.graspPlan.graspPose, false, true, false⟩ := by
  have haloft : NotSetDown call (carrying .loweringLoad none) := fun pose _ h => by cases h
  unfold lower
  refine Stage.seq (stage_enter rfl rfl) fun _ => ?_
  refine Stage.seq (stage_forEach fun w _ => stage_moveHeld plan w _ rfl haloft) fun _ => ?_
  refine Stage.seq (stage_enter rfl rfl) fun _ => ?_
  refine Stage.seq (stage_verifyAuditedJointArrival _ _ _ _ _) fun _ => ?_
  refine Stage.seq (stage_holdCheck fun _ _ => eventStep_setDown rfl hpose rfl) fun _ => ?_
  exact Stage.seq (stage_enter rfl rfl) fun _ => stage_observeBoundary _

theorem stage_unguard {state : SequenceState} {settledAt : Option (Pose D)} :
    Stage call ⟨state, settledAt, false, true, false⟩
      (update fun s => { s with loadedObjectSuspended := false } : SeqM D W Unit)
      (approaching state settledAt) :=
  triple_update fun _ _ h => ⟨h.watched.imp fun _ hm => ⟨hm.1, hm.2.1, hm.2.2, hm.2.3, hm.2.4,
    hm.2.5, hm.2.6⟩, h.state, rfl, fun hs => by cases hs⟩

/-- **The setdown** releases the load after it is on its support. -/
theorem stage_setdown (plan : AuditedLoadedLiftSequencePlan D)
    (hpose : call.setdownPose? = some plan.graspPlan.graspPose) :
    Stage call (carrying .liftedHolding none) (setdown env plan)
      (approaching .setdownComplete (some plan.graspPlan.graspPose)) := by
  unfold setdown
  refine Stage.seq (stage_waypoint _) fun start => ?_
  refine Stage.seq (stage_lower plan start hpose) fun _ => ?_
  unfold release
  refine Stage.seq stage_unguard fun _ => ?_
  have hdisable : Stage call (approaching .setdownHolding (some plan.graspPlan.graspPose))
      (disableHand env) (approaching .setdownHolding (some plan.graspPlan.graspPose)) :=
    stage_driver _ (eventStep_release rfl rfl hpose rfl)
      (eventStep_quiet (fun _ h => by cases h) fun h => by cases h)
  have hclear : Stage call (approaching .setdownHolding (some plan.graspPlan.graspPose))
      (clearExternalLoad env) (approaching .setdownHolding (some plan.graspPlan.graspPose)) := by
    unfold clearExternalLoad
    refine Stage.seq (stage_driver _ (eventStep_clearLoad rfl rfl)
      (eventStep_quiet (fun _ h => by cases h) fun h => by cases h)) fun _ => ?_
    exact stage_update (fun _ => rfl) fun _ => rfl
  refine Stage.seq hdisable fun _ => ?_
  refine Stage.seq hclear fun _ => ?_
  exact Stage.seq (stage_enter rfl rfl) fun _ => stage_observeBoundary _

end FrankaDeploy.GraspSequence
