import FrankaDeploy.GraspSequence.ContainmentContract
import FrankaDeploy.GraspSequence.LoadCleanup

/-! # The cleanup of a load

Whatever fails, the load is cleaned up at the end of a sequence, unless an application failed and its
rollback to a zero load was not verified: the sequence remembers a load only after its application
returned, so it does not clear that one. -/

set_option linter.unusedSectionVars false

namespace FrankaDeploy.GraspSequence

open FrankaDeploy.Foundation FrankaDeploy.ClosedLoop FrankaDeploy.FrankaDriver
open FrankaDeploy.Foundation.Program
open scoped FloatArith

variable {D : Type} [FloatArith D] {W : Type} {α β : Type}
  {robot : FrankaRobot D W} {base : SequenceWorld D W}
  {s s' : StagedGraspSequence D (LoadedArm D W)} {t t' : List (SequenceEvent D)}

/-! ## Stages without a load -/

theorem quiet_openHand : Quiet (openHand (loadedWorld robot base)) := quiet_driver _ fun _ => rfl

theorem quiet_disableHand : Quiet (disableHand (loadedWorld robot base)) :=
  quiet_driver _ fun _ => rfl

theorem quiet_stop : Quiet (driver .stop (loadedWorld robot base).stop) := by
  exact quiet_driver _ fun _ => rfl

theorem quiet_waypoint (w : Option (Waypoint D)) :
    Quiet (waypoint w : SeqM D (LoadedArm D W) (Waypoint D)) := by
  refine quiet_ofExcept fun e he => ?_
  cases w with
  | none =>
    cases he
    exact ⟨_, rfl⟩
  | some w => cases he

theorem quiet_findDefault (waypoints : List (Waypoint D)) :
    Quiet (findDefault waypoints : SeqM D (LoadedArm D W) ℕ) := by
  refine quiet_ofExcept fun e he => ?_
  cases hindex : defaultIndex waypoints with
  | none =>
    rw [hindex] at he
    cases he
    exact ⟨_, rfl⟩
  | some index =>
    rw [hindex] at he
    cases he

theorem quiet_checkReadback (actual : Option (Vec 7 D)) (targetQ : Vec 7 D) (toleranceRad : D) :
    Quiet (checkReadback actual targetQ toleranceRad : SeqM D (LoadedArm D W) Unit) := by
  unfold checkReadback
  cases actual with
  | none => exact quiet_fail ⟨_, rfl⟩
  | some feedback => exact (quiet_check ⟨_, rfl⟩).seq fun _ => quiet_check ⟨_, rfl⟩

theorem quiet_moveAuditedWaypoint (targetQ : Vec 7 D) (toleranceRad : D) (name : String) :
    Quiet (moveAuditedWaypoint (loadedWorld robot base) targetQ toleranceRad name) := by
  unfold moveAuditedWaypoint
  refine (quiet_driver _ fun _ => rfl).seq fun actual => ?_
  exact (quiet_checkReadback _ _ _).seq fun _ => quiet_observeBoundary _

theorem quiet_moveLoadedWaypoint (targetQ : Vec 7 D) (toleranceRad : D) (name : String)
    (law : LoadedTimeLaw D) :
    Quiet (moveLoadedWaypoint (loadedWorld robot base) targetQ toleranceRad name law) := by
  unfold moveLoadedWaypoint
  refine (quiet_driver _ fun _ => rfl).seq fun actual => ?_
  exact (quiet_checkReadback _ _ _).seq fun _ => quiet_observeBoundary _

theorem quiet_verifyArrival (target : Pose D) (tolerances : SettleTolerances D) (label : String) :
    Quiet (verifyArrival (loadedWorld robot base) target tolerances label) :=
  quiet_verification _ _ fun _ => rfl

theorem quiet_verifyAuditedJointArrival (targetQ : Vec 7 D) (targetPose : Pose D)
    (qToleranceRad : D) (tolerances : SettleTolerances D) (label : String) :
    Quiet (verifyAuditedJointArrival (loadedWorld robot base) targetQ targetPose qToleranceRad
      tolerances label) :=
  quiet_verification _ _ fun _ => rfl

theorem quiet_forEach {l : List α} {f : α → SeqM D (LoadedArm D W) Unit} (hf : ∀ a, Quiet (f a)) :
    Quiet (forEach l f) := by
  induction l with
  | nil => exact quiet_ret ()
  | cons a l ih => exact (hf a).seq fun _ => ih

theorem quiet_moveWaypoints (waypoints : List (Waypoint D)) (toleranceRad : D) :
    Quiet (moveWaypoints (loadedWorld robot base) waypoints toleranceRad) :=
  quiet_forEach fun _ => quiet_moveAuditedWaypoint _ _ _

theorem neutral_runToDefault (defaultQ : FiniteVec 7 D) :
    Neutral (runToDefault (loadedWorld robot base) defaultQ) := by
  unfold runToDefault
  refine (neutral_transition rfl).seq fun _ => ?_
  refine quiet_openHand.neutral.seq fun _ => ?_
  refine (neutral_transition rfl).seq fun _ => ?_
  refine (quiet_observeBoundary _).neutral.seq fun _ => ?_
  refine (neutral_transition rfl).seq fun _ => ?_
  refine Neutral.seq (quiet_driver _ fun _ => rfl).neutral fun _ => ?_
  refine Neutral.seq (Quiet.neutral (quiet_update fun _ _ => ⟨⟨rfl, rfl, rfl, rfl⟩, rfl⟩)) fun _ => ?_
  exact (neutral_transition rfl).seq fun _ => (quiet_observeBoundary _).neutral

theorem neutral_moveToDefault (waypoints : List (Waypoint D)) (toleranceRad : D) (index : ℕ) :
    Neutral (moveToDefault (loadedWorld robot base) waypoints toleranceRad index) := by
  unfold moveToDefault
  refine (quiet_moveWaypoints _ _).neutral.seq fun _ => ?_
  refine (quiet_waypoint _).neutral.seq fun default => ?_
  refine Neutral.seq (Quiet.neutral (quiet_update fun _ _ => ⟨⟨rfl, rfl, rfl, rfl⟩, rfl⟩)) fun _ => ?_
  exact neutral_transition rfl

theorem neutral_runToDefaultJointWaypoints (plan : AuditedJointSequencePlan D) :
    Neutral (runToDefaultJointWaypoints (loadedWorld robot base) plan) := by
  unfold runToDefaultJointWaypoints
  refine (neutral_transition rfl).seq fun _ => ?_
  refine quiet_openHand.neutral.seq fun _ => ?_
  refine (neutral_transition rfl).seq fun _ => ?_
  refine (quiet_observeBoundary _).neutral.seq fun _ => ?_
  refine (neutral_transition rfl).seq fun _ => ?_
  exact (quiet_findDefault _).neutral.seq fun index => neutral_moveToDefault _ _ _

theorem neutral_runToPregrasp (plan : AuditedPregraspSequencePlan D) (index : ℕ) :
    Neutral (runToPregrasp (loadedWorld robot base) plan index) := by
  unfold runToPregrasp
  refine (neutral_transition rfl).seq fun _ => ?_
  refine (quiet_moveWaypoints _ _).neutral.seq fun _ => ?_
  refine (quiet_waypoint _).neutral.seq fun last => ?_
  refine (quiet_verifyAuditedJointArrival _ _ _ _ _).neutral.seq fun _ => ?_
  exact (neutral_transition rfl).seq fun _ => (quiet_observeBoundary _).neutral

theorem neutral_runPregraspOnlyJointWaypoints (plan : AuditedPregraspSequencePlan D) :
    Neutral (runPregraspOnlyJointWaypoints (loadedWorld robot base) plan) := by
  unfold runPregraspOnlyJointWaypoints
  refine (neutral_transition rfl).seq fun _ => ?_
  refine quiet_openHand.neutral.seq fun _ => ?_
  refine quiet_disableHand.neutral.seq fun _ => ?_
  refine (neutral_transition rfl).seq fun _ => ?_
  refine (quiet_observeBoundary _).neutral.seq fun _ => ?_
  refine (quiet_findDefault _).neutral.seq fun index => ?_
  refine (neutral_transition rfl).seq fun _ => ?_
  exact (neutral_moveToDefault _ _ _).seq fun _ => neutral_runToPregrasp _ _

theorem quiet_requirePreparedDefault (defaultQ : Vec 7 D) (message : String) :
    Quiet (requirePreparedDefault defaultQ message : SeqM D (LoadedArm D W) Unit) :=
  quiet_look fun _ => quiet_check ⟨_, rfl⟩

theorem neutral_preshapeStage (target : Option (Fin 1001)) (targetQ : Option (Vec 7 D))
    (graspPose : Pose D) :
    Neutral (preshapeStage (loadedWorld robot base) target targetQ graspPose) := by
  unfold preshapeStage
  cases target with
  | none => exact (quiet_ret ()).neutral
  | some q6 =>
    refine (neutral_transition rfl).seq fun _ => ?_
    refine (quiet_requireSettleGate _).neutral.seq fun _ => ?_
    refine Neutral.seq (quiet_driver _ fun _ => rfl).neutral fun _ => ?_
    exact (quiet_observeBoundary _).neutral

theorem neutral_graspStages {targetQ : Option (Vec 7 D)} {graspPose : Pose D}
    {thumb : Option (Fin 1001)} {close : SeqM D (LoadedArm D W) Unit} {targets : RegisterVector}
    (hclose : Quiet close) :
    Neutral (graspStages (loadedWorld robot base) targetQ graspPose thumb close targets) := by
  unfold graspStages holdStage
  refine Neutral.seq (Quiet.neutral (quiet_update fun _ _ => ⟨⟨rfl, rfl, rfl, rfl⟩, rfl⟩)) fun _ => ?_
  refine (quiet_observeBoundary _).neutral.seq fun _ => ?_
  refine (neutral_preshapeStage _ _ _).seq fun _ => ?_
  refine (neutral_transition rfl).seq fun _ => ?_
  refine (quiet_requireSettleGate _).neutral.seq fun _ => ?_
  refine hclose.neutral.seq fun _ => ?_
  refine Neutral.seq (Quiet.neutral (quiet_update fun _ _ => ⟨⟨rfl, rfl, rfl, rfl⟩, rfl⟩)) fun _ => ?_
  exact (neutral_transition rfl).seq fun _ => (quiet_observeBoundary _).neutral

theorem quiet_closeBends (targets : RegisterVector) :
    Quiet (closeBends (loadedWorld robot base) targets) := quiet_driver _ fun _ => rfl

theorem quiet_closeAudited (plan : AuditedJointSequencePlan D) :
    Quiet (closeAudited (loadedWorld robot base) plan) := by
  unfold closeAudited
  refine quiet_ite ?_ (quiet_closeBends _)
  refine Quiet.seq (quiet_driver _ fun _ => rfl) fun _ => ?_
  exact quiet_update fun _ _ => ⟨⟨rfl, rfl, rfl, rfl⟩, rfl⟩

theorem neutral_runAfterDefault (plan : NormalizedPlan D) :
    Neutral (runAfterDefault (loadedWorld robot base) plan) := by
  unfold runAfterDefault
  refine (quiet_requirePreparedDefault _ _).neutral.seq fun _ => ?_
  refine (neutral_transition rfl).seq fun _ => ?_
  refine Neutral.seq (quiet_driver _ fun _ => rfl).neutral fun _ => ?_
  refine (quiet_verifyArrival _ _ _).neutral.seq fun _ => ?_
  refine (neutral_transition rfl).seq fun _ => ?_
  refine (quiet_observeBoundary _).neutral.seq fun _ => ?_
  refine (neutral_transition rfl).seq fun _ => ?_
  refine Neutral.seq (quiet_driver _ fun _ => rfl).neutral fun _ => ?_
  refine (neutral_transition rfl).seq fun _ => ?_
  refine (quiet_verifyArrival _ _ _).neutral.seq fun _ => ?_
  exact neutral_graspStages (quiet_closeBends _)

theorem neutral_approachPregrasp (plan : AuditedJointSequencePlan D) (index : ℕ)
    (pregrasp : Waypoint D) :
    Neutral (approachPregrasp (loadedWorld robot base) plan index pregrasp) := by
  unfold approachPregrasp
  refine (neutral_transition rfl).seq fun _ => ?_
  refine (quiet_moveWaypoints _ _).neutral.seq fun _ => ?_
  refine (quiet_verifyAuditedJointArrival _ _ _ _ _).neutral.seq fun _ => ?_
  exact (neutral_transition rfl).seq fun _ => (quiet_observeBoundary _).neutral

theorem neutral_approachGrasp (plan : AuditedJointSequencePlan D) (grasp : Waypoint D) :
    Neutral (approachGrasp (loadedWorld robot base) plan grasp) := by
  unfold approachGrasp
  refine (neutral_transition rfl).seq fun _ => ?_
  refine (quiet_moveAuditedWaypoint _ _ _).neutral.seq fun _ => ?_
  exact (neutral_transition rfl).seq fun _ => (quiet_verifyAuditedJointArrival _ _ _ _ _).neutral

theorem neutral_runAfterDefaultJointWaypoints (plan : AuditedJointSequencePlan D) :
    Neutral (runAfterDefaultJointWaypoints (loadedWorld robot base) plan) := by
  unfold runAfterDefaultJointWaypoints
  refine (quiet_findDefault _).neutral.seq fun index => ?_
  refine (quiet_waypoint _).neutral.seq fun default => ?_
  refine (quiet_requirePreparedDefault _ _).neutral.seq fun _ => ?_
  refine (quiet_waypoint _).neutral.seq fun pregrasp => ?_
  refine (quiet_waypoint _).neutral.seq fun grasp => ?_
  refine (neutral_approachPregrasp _ _ _).seq fun _ => ?_
  exact (neutral_approachGrasp _ _).seq fun _ => neutral_graspStages (quiet_closeAudited _)

theorem quiet_moveHeld (plan : AuditedLoadedLiftSequencePlan D) (w : Waypoint D) (name : String) :
    Quiet (moveHeld (loadedWorld robot base) plan w name) := by
  unfold moveHeld
  refine quiet_verifyLoadedHold.seq fun _ => ?_
  exact (quiet_moveLoadedWaypoint _ _ _ _).seq fun _ => quiet_verifyLoadedHold

theorem neutral_lower (plan : AuditedLoadedLiftSequencePlan D) (start : Waypoint D) :
    Neutral (lower (loadedWorld robot base) plan start) := by
  unfold lower
  refine (neutral_transition rfl).seq fun _ => ?_
  refine Neutral.seq (quiet_forEach fun _ => quiet_moveHeld _ _ _).neutral fun _ => ?_
  refine (neutral_transition rfl).seq fun _ => ?_
  refine (quiet_verifyAuditedJointArrival _ _ _ _ _).neutral.seq fun _ => ?_
  refine quiet_verifyLoadedHold.neutral.seq fun _ => ?_
  exact (neutral_transition rfl).seq fun _ => (quiet_observeBoundary _).neutral

theorem neutral_full (plan : NormalizedPlan D) : Neutral (full (loadedWorld robot base) plan) :=
  neutral_look fun _ => (neutral_runIf (neutral_runToDefault _)).seq fun _ =>
    neutral_runAfterDefault _

theorem neutral_fullJointWaypoints (plan : AuditedJointSequencePlan D) :
    Neutral (fullJointWaypoints (loadedWorld robot base) plan) :=
  neutral_look fun _ => (neutral_runIf (neutral_runToDefaultJointWaypoints _)).seq fun _ =>
    neutral_runAfterDefaultJointWaypoints _

theorem neutral_reopen : Neutral (reopen (loadedWorld robot base)) := by
  unfold reopen
  refine (neutral_transition rfl).seq fun _ => ?_
  refine Neutral.seq (quiet_driver _ fun _ => rfl).neutral fun _ => ?_
  exact (neutral_transition rfl).seq fun _ => (quiet_observeBoundary _).neutral

theorem quiet_verifyBoundedHold (expected : RegisterVector) :
    Quiet (verifyBoundedHold (loadedWorld robot base) expected) := by
  unfold verifyBoundedHold loadedWorld
  refine quiet_look fun s => ?_
  cases base.verifyBoundedHold with
  | none => exact quiet_fail ⟨_, rfl⟩
  | some verifier => exact quiet_driver _ fun _ => rfl

theorem quiet_verifyLifted : Quiet (verifyLifted (loadedWorld robot base)) :=
  Quiet.seq (quiet_driver _ fun _ => rfl) fun _ => quiet_verifyLoadedHold

/-! ## Stages with a load -/

theorem wp_onDriver {m : DriverM D W α}
    {Q : α → StagedGraspSequence D (LoadedArm D W) → List (SequenceEvent D) → Prop}
    {E : SequenceException → StagedGraspSequence D (LoadedArm D W) → List (SequenceEvent D) → Prop}
    (h : wp m (fun a driver log => Q a { s with world := ⟨driver, log⟩ } t)
      (fun e driver log => E (.raised e) { s with world := ⟨driver, log⟩ } t)
      s.world.driver s.world.log) :
    wp (environment (LoadedArm.onDriver m)) Q E s t := by
  unfold environment LoadedArm.onDriver
  rw [wp_ofStep]
  unfold wp at h
  cases hm : m s.world.driver with
  | mk r outcome =>
    obtain ⟨driver, log⟩ := outcome
    cases r with
    | ok a =>
      simp only [hm] at h ⊢
      refine ⟨fun b hb => ?_, fun e he => (by cases he)⟩
      cases hb
      exact h
    | error e =>
      simp only [hm] at h ⊢
      refine ⟨fun b hb => (by cases hb), fun e' he => ?_⟩
      cases he
      exact h

/-- **What is known of the load** while the sequence goes on: whether it is active, and whether it may
be suspended. -/
structure Loading (robot : FrankaRobot D W) (active aloft : Bool)
    (s : StagedGraspSequence D (LoadedArm D W)) (t : List (SequenceEvent D)) : Prop where
  live : s.state.isTerminal = false
  noted : s.loadedPayloadActive = active
  flag : s.loadedObjectSuspended = aloft
  confirmed : Confirmed robot s.world.log
  settled : active = false → zeroVerified s.world.log = true
  commissioned : active = true → robot.limits.expectedMEeKg.isSome = true
  scan : cleanupScan t = (false, false)

/-- **An application left the load in question**, and the sequence does not know of a load. -/
structure Stranded (robot : FrankaRobot D W) (s : StagedGraspSequence D (LoadedArm D W))
    (t : List (SequenceEvent D)) : Prop where
  live : s.state.isTerminal = false
  noted : s.loadedPayloadActive = false
  flag : s.loadedObjectSuspended = false
  unconfirmed : ¬ Confirmed robot s.world.log
  unsettled : zeroVerified s.world.log = false
  scan : cleanupScan t = (false, false)

def LoadFails (robot : FrankaRobot D W) (s : StagedGraspSequence D (LoadedArm D W))
    (t : List (SequenceEvent D)) : Prop :=
  (∃ active aloft, Loading robot active aloft s t) ∨ Stranded robot s t

variable {active aloft active' aloft' : Bool}

theorem Loading.goesOn (h : Loading robot active aloft s t) (hsame : GoesOn s t s' t') :
    Loading robot active aloft s' t' :=
  ⟨hsame.2, hsame.1.active.trans h.noted, hsame.1.suspended.trans h.flag,
    by rw [hsame.1.log]; exact h.confirmed, by rw [hsame.1.log]; exact h.settled, h.commissioned,
    hsame.1.scan.trans h.scan⟩

theorem Loading.fails (h : Loading robot active aloft s t) : LoadFails robot s t :=
  .inl ⟨active, aloft, h⟩

def LoadStage (robot : FrankaRobot D W) (active aloft : Bool) (m : SeqM D (LoadedArm D W) α)
    (active' aloft' : Bool) : Prop :=
  Triple (Loading robot active aloft) m (fun _ => Loading robot active' aloft')
    fun e s t => e.IsRaised ∧ LoadFails robot s t

theorem LoadStage.seq {active₁ aloft₁ : Bool} {m : SeqM D (LoadedArm D W) α}
    {f : α → SeqM D (LoadedArm D W) β} (hm : LoadStage robot active aloft m active₁ aloft₁)
    (hf : ∀ a, LoadStage robot active₁ aloft₁ (f a) active' aloft') :
    LoadStage robot active aloft (m >>= f) active' aloft' :=
  Triple.seq hm hf

theorem Neutral.stage {m : SeqM D (LoadedArm D W) α} (hm : Neutral m) :
    LoadStage robot active aloft m active aloft := fun s t h =>
  wp_mono (hm s t h.live) (fun _ _ _ hsame => h.goesOn hsame) fun _ _ _ he =>
    ⟨he.1, (h.goesOn he.2).fails⟩

theorem loadStage_setSuspended (aloft' : Bool) :
    LoadStage robot active aloft (update fun s => { s with loadedObjectSuspended := aloft' })
      active aloft' :=
  triple_update fun _ _ h =>
    ⟨h.live, h.noted, rfl, h.confirmed, h.settled, h.commissioned, h.scan⟩

/-- **The load is applied.** A failure with an unverified rollback leaves it in question. -/
theorem loadStage_applyLoad (hzero : ZeroFacts D) (plan : AuditedLoadedLiftSequencePlan D)
    (start : Waypoint D) :
    LoadStage robot false false (applyLoad (loadedWorld robot base) plan start) true false := by
  unfold applyLoad
  refine quiet_verifyLoadedHold.neutral.stage.seq fun _ => ?_
  refine Triple.seq (M := fun s t =>
    Loading robot true false { s with loadedPayloadActive := true } t) ?_ fun _ => ?_
  · intro s t h
    unfold driver
    rw [wp_bind, wp_emit, wp_bind]
    have hscan : cleanupScan (t ++ [.called (.applyExternalLoadAndVerify plan.payload)]) =
        (false, false) := (cleanupScan_snoc t _).trans (by rw [h.scan]; rfl)
    refine wp_onDriver (wp_mono (log_applyExternalLoadAndVerify hzero plan.payload.argument
      s.world.driver s.world.log ⟨h.confirmed, h.settled rfl⟩) (fun _ driver log hlog => ?_)
      fun e driver log hlog => ?_)
    · rw [wp_bind, wp_emit, wp_ret]
      exact ⟨h.live, rfl, h.flag, hlog.2, fun hactive => (by cases hactive),
        fun _ => hlog.1, (cleanupScan_snoc _ _).trans (by rw [hscan]; rfl)⟩
    · rcases hlog with ⟨hconfirmed, hsettled⟩ | ⟨hunconfirmed, hunsettled⟩
      · exact ⟨⟨_, rfl⟩, .inl ⟨false, false, h.live, h.noted, h.flag, hconfirmed, fun _ => hsettled,
          h.commissioned, hscan⟩⟩
      · exact ⟨⟨_, rfl⟩, .inr ⟨h.live, h.noted, h.flag, hunconfirmed, hunsettled, hscan⟩⟩
  · refine Triple.seq (M := Loading robot true false) (triple_update fun s t h => h) fun _ => ?_
    exact (quiet_observeBoundary _).neutral.stage

theorem loadStage_lift (plan : AuditedLoadedLiftSequencePlan D) (last : Waypoint D) :
    LoadStage robot true false (lift (loadedWorld robot base) plan last) true true := by
  unfold lift
  refine (neutral_transition rfl).stage.seq fun _ => ?_
  refine (loadStage_setSuspended true).seq fun _ => Neutral.stage ?_
  refine Neutral.seq (quiet_forEach fun _ => quiet_moveHeld _ _ _).neutral fun _ => ?_
  refine (neutral_transition rfl).seq fun _ => ?_
  refine (quiet_verifyAuditedJointArrival _ _ _ _ _).neutral.seq fun _ => ?_
  refine quiet_verifyLoadedHold.neutral.seq fun _ => ?_
  exact (neutral_transition rfl).seq fun _ => (quiet_observeBoundary _).neutral

theorem loadStage_loadedLift (hzero : ZeroFacts D) (plan : AuditedLoadedLiftSequencePlan D) :
    LoadStage robot false false (loadedLift (loadedWorld robot base) plan) true true := by
  unfold loadedLift
  refine (neutral_runToDefaultJointWaypoints _).stage.seq fun _ => ?_
  refine (neutral_runAfterDefaultJointWaypoints _).stage.seq fun _ => ?_
  refine (quiet_waypoint _).neutral.stage.seq fun start => ?_
  refine (quiet_waypoint _).neutral.stage.seq fun last => ?_
  exact (loadStage_applyLoad hzero plan start).seq fun _ => loadStage_lift plan last

/-- **After an attempt to clear the load.** -/
structure ClearTried (robot : FrankaRobot D W) (s : StagedGraspSequence D (LoadedArm D W))
    (t : List (SequenceEvent D)) (s' : StagedGraspSequence D (LoadedArm D W))
    (t' : List (SequenceEvent D)) : Prop where
  same : ∃ world, s' = { s with world }
  confirmed : Confirmed robot s'.world.log
  scan : cleanupScan t' =
    scanCleanup (cleanupScan t) (.called (.clearExternalLoadAndVerify : DriverCall D))

/-- **The clear of an active load**, which verifies a zero load if it returns. -/
theorem wp_clearDriver (hzero : ZeroFacts D)
    (hcommissioned : robot.limits.expectedMEeKg.isSome = true)
    (hconfirmed : Confirmed robot s.world.log) :
    wp (driver .clearExternalLoadAndVerify (loadedWorld robot base).clearExternalLoadAndVerify)
      (fun _ s' t' => ClearTried robot s t s' t' ∧ zeroVerified s'.world.log = true)
      (fun e s' t' => e.IsRaised ∧ ClearTried robot s t s' t') s t := by
  unfold driver
  rw [wp_bind, wp_emit, wp_bind]
  refine wp_onDriver (wp_mono (log_clearExternalLoadAndVerify hzero hcommissioned s.world.driver
    s.world.log hconfirmed) (fun _ driver log hlog => ?_) fun e driver log hlog => ?_)
  · rw [wp_bind, wp_emit, wp_ret]
    refine ⟨⟨⟨_, rfl⟩, hlog.1, ?_⟩, hlog.2⟩
    rw [cleanupScan_snoc, cleanupScan_snoc]
    rfl
  · exact ⟨⟨_, rfl⟩, ⟨_, rfl⟩, hlog, cleanupScan_snoc _ _⟩

theorem loadStage_release (hzero : ZeroFacts D) (plan : AuditedLoadedLiftSequencePlan D)
    (start : Waypoint D) :
    LoadStage robot true true (release (loadedWorld robot base) plan start) false false := by
  unfold release clearExternalLoad
  refine (loadStage_setSuspended false).seq fun _ => ?_
  refine quiet_disableHand.neutral.stage.seq fun _ => ?_
  have hclear : LoadStage robot true false (do
      driver .clearExternalLoadAndVerify (loadedWorld robot base).clearExternalLoadAndVerify
      update fun s => { s with loadedPayloadActive := false }) false false := by
    intro s t h
    rw [wp_bind]
    refine wp_mono (wp_clearDriver hzero (h.commissioned rfl) h.confirmed)
      (fun _ s₁ t₁ h₁ => ?_) fun e s₁ t₁ h₁ => ?_
    · obtain ⟨⟨⟨world, rfl⟩, hconfirmed, hscan⟩, hsettled⟩ := h₁
      rw [wp_update]
      exact ⟨h.live, rfl, h.flag, hconfirmed, fun _ => hsettled, fun hc => (by cases hc),
        hscan.trans (by rw [h.scan]; rfl)⟩
    · obtain ⟨he, ⟨world, rfl⟩, hconfirmed, hscan⟩ := h₁
      refine ⟨he, .inl ⟨true, false, h.live, h.noted, h.flag, hconfirmed, fun hc => (by cases hc),
        h.commissioned, hscan.trans (by rw [h.scan]; rfl)⟩⟩
  refine hclear.seq fun _ => ?_
  exact ((neutral_transition rfl).seq fun _ => (quiet_observeBoundary _).neutral).stage

theorem loadStage_setdown (hzero : ZeroFacts D) (plan : AuditedLoadedLiftSequencePlan D) :
    LoadStage robot true true (setdown (loadedWorld robot base) plan) false false := by
  unfold setdown
  refine (quiet_waypoint _).neutral.stage.seq fun start => ?_
  exact (neutral_lower _ _).stage.seq fun _ => loadStage_release hzero plan start

/-! ## Failures -/

/-- **The sides agree**: without a suspended load the cleanup took place, or an application left the
load in question, exactly one of the two. -/
def Settled (robot : FrankaRobot D W) (s : StagedGraspSequence D (LoadedArm D W))
    (t : List (SequenceEvent D)) : Prop :=
  (s.loadedObjectSuspended = false → zeroVerified s.world.log = true ∨ clearAttempted t = true) ↔
    Confirmed robot s.world.log

/-- **What a cleanup finds**, and which of its ways it takes. -/
inductive ToClean (robot : FrankaRobot D W) (s : StagedGraspSequence D (LoadedArm D W))
    (t : List (SequenceEvent D)) : Prop where
  | contain : s.loadedObjectSuspended = true → Confirmed robot s.world.log → ToClean robot s t
  | clear : s.loadedObjectSuspended = false → s.loadedPayloadActive = true →
      robot.limits.expectedMEeKg.isSome = true → Confirmed robot s.world.log →
      (cleanupScan t).1 = true → ToClean robot s t
  | nothing : s.loadedObjectSuspended = false → s.loadedPayloadActive = false →
      Confirmed robot s.world.log → zeroVerified s.world.log = true → ToClean robot s t
  | stranded : s.loadedObjectSuspended = false → s.loadedPayloadActive = false →
      ¬ Confirmed robot s.world.log → zeroVerified s.world.log = false →
      clearAttempted t = false → ToClean robot s t

theorem ToClean.same (h : ToClean robot s t) (hsame : SameLoad s t s' t') : ToClean robot s' t' := by
  cases h with
  | contain haloft hconfirmed =>
    exact .contain (hsame.suspended.trans haloft) (by rw [hsame.log]; exact hconfirmed)
  | clear hflag hactive hcommissioned hconfirmed hscan =>
    exact .clear (hsame.suspended.trans hflag) (hsame.active.trans hactive) hcommissioned
      (by rw [hsame.log]; exact hconfirmed) (by rw [hsame.scan]; exact hscan)
  | nothing hflag hactive hconfirmed hsettled =>
    exact .nothing (hsame.suspended.trans hflag) (hsame.active.trans hactive)
      (by rw [hsame.log]; exact hconfirmed) (by rw [hsame.log]; exact hsettled)
  | stranded hflag hactive hconfirmed hsettled hscan =>
    refine .stranded (hsame.suspended.trans hflag) (hsame.active.trans hactive)
      (by rw [hsame.log]; exact hconfirmed) (by rw [hsame.log]; exact hsettled) ?_
    rw [clearAttempted, hsame.scan]
    exact hscan

theorem Settled.same (h : Settled robot s t) (hsame : SameLoad s t s' t') :
    Settled robot s' t' := by
  unfold Settled clearAttempted
  rw [hsame.suspended, hsame.log, hsame.scan]
  exact h

theorem ToClean.settled_of_contain (haloft : s.loadedObjectSuspended = true)
    (hconfirmed : Confirmed robot s.world.log) : Settled robot s t :=
  ⟨fun _ => hconfirmed, fun _ hflag => absurd (haloft.symm.trans hflag) (by decide)⟩

theorem wp_clearActiveLoad (hzero : ZeroFacts D) (hflag : s.loadedObjectSuspended = false)
    (h : ToClean robot s t) :
    wp (clearActiveLoad (loadedWorld robot base))
      (fun _ s' t' => Settled robot s' t' ∧ s'.state = s.state) (fun _ _ _ => False) s t := by
  unfold clearActiveLoad
  rw [wp_bind, wp_read]
  beta_reduce
  rw [wp_ite]
  cases h with
  | contain haloft => exact absurd (haloft.symm.trans hflag) (by decide)
  | clear _ hactive hcommissioned hconfirmed hscan =>
    refine ⟨fun _ => wp_cleanupStep ?_, fun hinactive => absurd hactive hinactive⟩
    -- the attempt comes after the failure, so it counts also when it throws
    have htried : ∀ s' t', ClearTried robot s t s' t' →
        Settled robot s' t' ∧ s'.state = s.state := by
      rintro s' t' ⟨⟨world, rfl⟩, hconfirmed, hseen⟩
      refine ⟨⟨fun _ => hconfirmed, fun _ _ => .inr ?_⟩, rfl⟩
      rw [clearAttempted, hseen]
      show ((cleanupScan t).2 || (cleanupScan t).1) = true
      rw [hscan, Bool.or_true]
    unfold clearExternalLoad
    rw [wp_bind]
    refine wp_mono (wp_clearDriver hzero hcommissioned hconfirmed) (fun _ s' t' h' => ?_)
      fun _ s' t' h' => htried s' t' h'.2
    rw [wp_update]
    obtain ⟨hsettled, hstate⟩ := htried s' t' h'.1
    exact ⟨hsettled, hstate⟩
  | nothing _ hactive hconfirmed hsettled =>
    refine ⟨fun hc => absurd (hc.symm.trans hactive) (by decide), fun _ => ?_⟩
    rw [wp_ret]
    exact ⟨⟨fun _ => hconfirmed, fun _ _ => .inl hsettled⟩, rfl⟩
  | stranded _ hactive hconfirmed hsettled hscan =>
    refine ⟨fun hc => absurd (hc.symm.trans hactive) (by decide), fun _ => ?_⟩
    rw [wp_ret]
    refine ⟨⟨fun hclean => ?_, fun hc => absurd hc hconfirmed⟩, rfl⟩
    rcases hclean hflag with hc | hc
    · exact absurd (hc.symm.trans hsettled) (by decide)
    · exact absurd (hc.symm.trans hscan) (by decide)

theorem wp_stopDrivers (hzero : ZeroFacts D) (hflag : s.loadedObjectSuspended = false)
    (h : ToClean robot s t) :
    wp (stopDrivers (loadedWorld robot base))
      (fun _ s' t' => Settled robot s' t' ∧ s'.state = s.state) (fun _ _ _ => False) s t := by
  unfold stopDrivers
  rw [wp_bind]
  refine wp_mono (wp_cleanupStep (quiet_stop.keeps s t))
    (fun stopErrors s₁ t₁ h₁ => ?_) fun _ _ _ h => h.elim
  rw [wp_bind]
  refine wp_mono (wp_cleanupStep (quiet_disableHand.keeps s₁ t₁)) (fun disableErrors s₂ t₂ h₂ => ?_)
    fun _ _ _ h => h.elim
  have hsame : SameLoad s t s₂ t₂ := h₁.1.trans h₂.1
  rw [wp_bind]
  refine wp_mono (wp_clearActiveLoad hzero (hsame.suspended.trans hflag) (h.same hsame))
    (fun clearErrors s₃ t₃ h₃ => ?_) fun _ _ _ h => h.elim
  rw [wp_ret]
  exact ⟨h₃.1, h₃.2.trans (h₂.2.trans h₁.2)⟩

/-- **The cleanup of a failure** settles what it finds. -/
theorem wp_cleanup (hzero : ZeroFacts D) (h : ToClean robot s t) :
    wp (cleanup (loadedWorld robot base) s.loadedObjectSuspended)
      (fun _ s' t' => Settled robot s' t' ∧ s'.state = s.state) (fun _ _ _ => False) s t := by
  unfold cleanup
  rw [wp_ite]
  refine ⟨fun haloft => ?_, fun hflag => wp_stopDrivers hzero (by simpa using hflag) h⟩
  have hsettled : Settled robot s t := by
    cases h with
    | contain _ hconfirmed => exact ToClean.settled_of_contain haloft hconfirmed
    | clear hflag => exact absurd (haloft.symm.trans hflag) (by decide)
    | nothing hflag => exact absurd (haloft.symm.trans hflag) (by decide)
    | stranded hflag => exact absurd (haloft.symm.trans hflag) (by decide)
  unfold containSuspendedLoad
  rw [wp_bind]
  refine wp_mono (wp_cleanupStep (quiet_stop.keeps s t))
    (fun stopErrors s₁ t₁ h₁ => ?_) fun _ _ _ h => h.elim
  rw [wp_bind]
  refine wp_mono (wp_cleanupStep (quiet_verifyLoadedHold.keeps s₁ t₁)) (fun holdErrors s₂ t₂ h₂ => ?_)
    fun _ _ _ h => h.elim
  rw [wp_ret]
  exact ⟨hsettled.same (h₁.1.trans h₂.1), h₂.2.trans h₁.2⟩

def Latched (robot : FrankaRobot D W) (s : StagedGraspSequence D (LoadedArm D W))
    (t : List (SequenceEvent D)) : Prop :=
  Settled robot s t ∧ s.state.isTerminal = true

/-- **`_fail`** settles what it finds, and ends the sequence. -/
theorem wp_failSequence (hzero : ZeroFacts D) (error : PyException)
    (hlive : s.state.isTerminal = false) (h : ToClean robot s t) :
    wp (failSequence (loadedWorld robot base) error) (fun _ _ _ => False)
      (fun _ => Latched robot) s t := by
  unfold failSequence
  rw [wp_bind, wp_read]
  beta_reduce
  rw [wp_bind, wp_runIf]
  refine ⟨fun _ => ?_, fun hc => absurd ?_ hc⟩
  · refine wp_mono (wp_transition_end (SequenceState.stopping_mem_allowedTransitions hlive) rfl)
      (fun _ s₁ t₁ h₁ => ?_) fun _ _ _ h => h.elim
    rw [wp_bind, wp_read]
    beta_reduce
    rw [wp_bind]
    refine wp_mono (wp_cleanup hzero (h.same h₁.1)) (fun stopErrors s₂ t₂ h₂ => ?_)
      fun _ _ _ h => h.elim
    have hallowed : SequenceState.faultLatched ∈ s₂.state.allowedTransitions := by
      rw [h₂.2, h₁.2]
      decide
    rw [wp_bind]
    refine wp_mono (wp_transition_end hallowed rfl) (fun _ s₃ t₃ h₃ => ?_) fun _ _ _ h => h.elim
    rw [wp_bind, wp_update, wp_fail]
    refine ⟨(h₂.1.same h₃.1).same ⟨rfl, rfl, rfl, rfl⟩, ?_⟩
    show s₃.state.isTerminal = true
    rw [h₃.2]
    rfl
  · refine ⟨fun hs => ?_, fun hs => ?_⟩
    · rw [hs] at hlive
      cases hlive
    · rw [hs] at hlive
      cases hlive

theorem wp_handleFailure (hzero : ZeroFacts D) (e : SequenceException) (h : LoadFails robot s t) :
    wp (handleFailure (loadedWorld robot base) e) (fun _ _ _ => False)
      (fun _ => Latched robot) s t := by
  unfold handleFailure
  rw [wp_bind, wp_emit]
  have hscan : cleanupScan (t ++ [.caught]) = (true, (cleanupScan t).2) := cleanupScan_snoc t _
  rcases h with ⟨active, aloft, h⟩ | h
  · refine wp_failSequence hzero _ h.live ?_
    cases aloft with
    | true => exact .contain h.flag h.confirmed
    | false =>
      cases active with
      | true => exact .clear h.flag h.noted (h.commissioned rfl) h.confirmed (by rw [hscan])
      | false => exact .nothing h.flag h.noted h.confirmed (h.settled rfl)
  · refine wp_failSequence hzero _ h.live (.stranded h.flag h.noted h.unconfirmed h.unsettled ?_)
    rw [clearAttempted, hscan, h.scan]

/-! ## Public calls -/

/-- **Between two calls**: the sequence ended and is settled, or it goes on and a load is active exactly
if it is suspended. -/
def LoadAtRest (robot : FrankaRobot D W) (s : StagedGraspSequence D (LoadedArm D W))
    (t : List (SequenceEvent D)) : Prop :=
  Latched robot s t ∨ ∃ aloft, Loading robot aloft aloft s t

def SuspendedAloft (s : StagedGraspSequence D (LoadedArm D W)) : Prop :=
  s.state.isTerminal = false → (s.loadedObjectSuspended = true ↔ s.state = .liftedHolding)

/-- **The law of a call**, or of the part of it that runs from the state `state`. -/
def LoadLawFrom (robot : FrankaRobot D W) (state : SequenceState)
    (m : SeqM D (LoadedArm D W) Unit) : Prop :=
  Triple (fun s t => s.state = state ∧ LoadAtRest robot s t ∧ SuspendedAloft s) m
    (fun _ => LoadAtRest robot) fun _ => LoadAtRest robot

def LoadLaw (robot : FrankaRobot D W) (m : SeqM D (LoadedArm D W) Unit) : Prop :=
  Triple (fun s t => LoadAtRest robot s t ∧ SuspendedAloft s) m (fun _ => LoadAtRest robot)
    fun _ => LoadAtRest robot

theorem loadLaw_check {c : Prop} [Decidable c] {e : SequenceException}
    {f : Unit → SeqM D (LoadedArm D W) Unit} (hf : LoadLaw robot (f ())) :
    LoadLaw robot (check c e >>= f) :=
  Triple.seq ((triple_check fun _ _ h => h.1).post fun _ _ _ h => h.2) fun _ => hf

theorem loadLaw_ofExcept {r : Except SequenceException α}
    {f : α → SeqM D (LoadedArm D W) Unit} (hf : ∀ a, LoadLaw robot (f a)) :
    LoadLaw robot (ofExcept r >>= f) :=
  Triple.bind (triple_ofExcept fun _ _ _ h => h.1) fun a => Triple.assuming fun _ => hf a

theorem loadLaw_requireState {allowed : List SequenceState} {message : String}
    {f : Unit → SeqM D (LoadedArm D W) Unit}
    (hf : ∀ state ∈ allowed, LoadLawFrom robot state (f ())) :
    LoadLaw robot (requireState allowed message >>= f) := by
  intro s t h
  unfold requireState
  rw [wp_bind, wp_bind, wp_read]
  beta_reduce
  rw [wp_check]
  exact ⟨fun _ => h.1, fun hstate => hf s.state (by simpa using hstate) s t ⟨rfl, h⟩⟩

theorem triple_guardedLoad (hzero : ZeroFacts D) {body : SeqM D (LoadedArm D W) Unit}
    {aloft aloft' : Bool} (hbody : LoadStage robot aloft aloft body aloft' aloft') :
    Triple (Loading robot aloft aloft) (guarded (handleFailure (loadedWorld robot base)) body)
        (fun _ => LoadAtRest robot) (fun _ => LoadAtRest robot) ∧
      Triple (Loading robot aloft aloft)
        (guarded (handleOtherFailure (loadedWorld robot base)) body)
        (fun _ => LoadAtRest robot) fun _ => LoadAtRest robot := by
  have hdone : Triple (Loading robot aloft' aloft') (ret () : SeqM D (LoadedArm D W) Unit)
      (fun _ => LoadAtRest robot) fun _ => LoadAtRest robot :=
    triple_ret fun _ _ h => .inr ⟨aloft', h⟩
  have hfailed : ∀ e, Triple (LoadFails robot) (handleFailure (loadedWorld robot base) e)
      (fun _ => LoadAtRest robot) fun _ => LoadAtRest robot := fun e s t h =>
    wp_mono (wp_handleFailure hzero e h) (fun _ _ _ h => h.elim) fun _ _ _ h => .inl h
  constructor
  · exact Triple.caught hbody (fun _ => hdone) fun e => (hfailed e).pre fun _ _ h => h.2
  · refine Triple.caught hbody (fun _ => hdone) fun e => Triple.assuming fun he => ?_
    obtain ⟨error, rfl⟩ := he
    exact hfailed _

theorem loadLawFrom_loading {state : SequenceState} {m : SeqM D (LoadedArm D W) Unit}
    (hlive : state.isTerminal = false)
    (hm : ∀ aloft, (aloft = true ↔ state = .liftedHolding) →
      Triple (Loading robot aloft aloft) m (fun _ => LoadAtRest robot) fun _ => LoadAtRest robot) :
    LoadLawFrom robot state m := by
  rintro s t ⟨rfl, hrest, haloft⟩
  rcases hrest with ⟨-, hend⟩ | ⟨aloft, h⟩
  · exact absurd (hend.symm.trans hlive) (by decide)
  · refine hm aloft ?_ s t h
    rw [← h.flag]
    exact haloft hlive

theorem loadLawFrom_neutral (hzero : ZeroFacts D) {state : SequenceState}
    {body : SeqM D (LoadedArm D W) Unit} (hlive : state.isTerminal = false) (hbody : Neutral body) :
    LoadLawFrom robot state (guarded (handleFailure (loadedWorld robot base)) body) ∧
      LoadLawFrom robot state (guarded (handleOtherFailure (loadedWorld robot base)) body) :=
  ⟨loadLawFrom_loading hlive fun _ _ => (triple_guardedLoad hzero hbody.stage).1,
    loadLawFrom_loading hlive fun _ _ => (triple_guardedLoad hzero hbody.stage).2⟩

theorem loadLaw_toDefaultOnce {defaultQ : Vec 7 D} {mismatch message : String}
    {run : SeqM D (LoadedArm D W) Unit} (hrun : LoadLawFrom robot .disarmed run) :
    LoadLaw robot (toDefaultOnce defaultQ mismatch message run) := by
  intro s t h
  unfold toDefaultOnce
  rw [wp_bind, wp_read]
  beta_reduce
  rw [wp_ite]
  refine ⟨fun _ => ?_, fun _ => ?_⟩
  · unfold requirePreparedDefault
    rw [wp_bind, wp_read]
    beta_reduce
    rw [wp_check]
    exact ⟨fun _ => h.1, fun _ => h.1⟩
  · refine loadLaw_requireState (fun state hstate => ?_) s t h
    obtain rfl := List.mem_singleton.mp hstate
    exact hrun

theorem isTerminal_of_mem_start {state : SequenceState}
    (h : state ∈ [SequenceState.disarmed, .defaultVerified]) : state.isTerminal = false := by
  rcases List.mem_pair.mp h with rfl | rfl
  · rfl
  · rfl

theorem loadLaw_abortCall (hzero : ZeroFacts D) (reason : String) :
    LoadLaw robot (abortCall (loadedWorld robot base) reason) := by
  rintro s t ⟨hrest, -⟩
  unfold abortCall
  rw [wp_bind, wp_read]
  beta_reduce
  rw [wp_ite]
  refine ⟨fun _ => ?_, fun _ => ?_⟩
  · rw [wp_ret]
    exact hrest
  rw [wp_ite]
  refine ⟨fun _ => ?_, fun hlive => ?_⟩
  · rw [wp_fail]
    exact hrest
  rcases hrest with ⟨-, hend⟩ | ⟨aloft, h⟩
  · exact absurd hend hlive
  unfold abortRunning
  rw [wp_bind, wp_read]
  beta_reduce
  rw [wp_ite]
  refine ⟨fun haloft => ?_, fun haloft => ?_⟩
  · exact wp_mono (wp_failSequence hzero _ h.live (.contain haloft h.confirmed))
      (fun _ _ _ h => h.elim) fun _ _ _ h => .inl h
  have hflag : s.loadedObjectSuspended = false := by simpa using haloft
  obtain rfl : aloft = false := h.flag.symm.trans hflag
  rw [wp_bind]
  refine wp_mono (wp_transition_end (SequenceState.stopping_mem_allowedTransitions h.live) rfl)
    (fun _ s₁ t₁ h₁ => ?_) fun _ _ _ h => h.elim
  have hclean : ToClean robot s₁ t₁ :=
    (ToClean.nothing hflag h.noted h.confirmed (h.settled rfl) : ToClean robot s t).same h₁.1
  rw [wp_bind]
  refine wp_mono (wp_stopDrivers hzero (h₁.1.suspended.trans hflag) hclean)
    (fun errors s₂ t₂ h₂ => ?_) fun _ _ _ h => h.elim
  have hstate : s₂.state = .stopping := h₂.2.trans h₁.2
  unfold finishAbort
  rw [wp_ite]
  refine ⟨fun _ => ?_, fun _ => ?_⟩
  · refine wp_mono (wp_transition_end (by rw [hstate]; decide) rfl) (fun _ s₃ t₃ h₃ => ?_)
      fun _ _ _ h => h.elim
    exact .inl ⟨h₂.1.same h₃.1, by rw [h₃.2]; rfl⟩
  · rw [wp_bind]
    refine wp_mono (wp_transition_end (by rw [hstate]; decide) rfl) (fun _ s₃ t₃ h₃ => ?_)
      fun _ _ _ h => h.elim
    rw [wp_bind, wp_update, wp_fail]
    refine .inl ⟨(h₂.1.same h₃.1).same ⟨rfl, rfl, rfl, rfl⟩, ?_⟩
    show s₃.state.isTerminal = true
    rw [h₃.2]
    rfl

/-- **Every public call** keeps what is known of the load. -/
theorem loadLaw_callOf (hzero : ZeroFacts D) (call : SequenceCall D) :
    LoadLaw robot (callOf (loadedWorld robot base) call) := by
  cases call with
  | runToDefault plan =>
    refine loadLaw_ofExcept fun normalized => loadLaw_check ?_
    exact loadLaw_toDefaultOnce (loadLawFrom_neutral hzero rfl (neutral_runToDefault _)).1
  | runFull plan =>
    refine loadLaw_ofExcept fun normalized => loadLaw_check ?_
    refine loadLaw_requireState fun state hstate => ?_
    exact (loadLawFrom_neutral hzero (isTerminal_of_mem_start hstate) (neutral_full _)).2
  | runToDefaultJointWaypoints plan =>
    refine loadLaw_ofExcept fun plan => loadLaw_check ?_
    refine loadLaw_ofExcept fun index => loadLaw_ofExcept fun default => ?_
    exact loadLaw_toDefaultOnce
      (loadLawFrom_neutral hzero rfl (neutral_runToDefaultJointWaypoints _)).2
  | runFullJointWaypoints plan =>
    refine loadLaw_ofExcept fun plan => loadLaw_check ?_
    refine loadLaw_requireState fun state hstate => ?_
    exact (loadLawFrom_neutral hzero (isTerminal_of_mem_start hstate)
      (neutral_fullJointWaypoints _)).2
  | runToPregraspJointWaypoints plan =>
    refine loadLaw_ofExcept fun plan => loadLaw_check ?_
    refine loadLaw_requireState fun state hstate => ?_
    obtain rfl := List.mem_singleton.mp hstate
    exact (loadLawFrom_neutral hzero rfl (neutral_runPregraspOnlyJointWaypoints _)).2
  | runLoadedLiftJointWaypoints plan =>
    refine loadLaw_ofExcept fun plan => loadLaw_check (loadLaw_check ?_)
    refine loadLaw_requireState fun state hstate => ?_
    obtain rfl := List.mem_singleton.mp hstate
    refine loadLawFrom_loading rfl fun aloft haloft => ?_
    obtain rfl : aloft = false := by
      cases aloft with
      | false => rfl
      | true => cases haloft.mp rfl
    refine Triple.seq (M := Loading robot false false) (triple_update fun s t h => ?_) fun _ =>
      (triple_guardedLoad hzero (loadStage_loadedLift hzero plan)).2
    exact h.goesOn ⟨⟨rfl, rfl, rfl, rfl⟩, h.live⟩
  | returnLoadedLiftToSetdown plan =>
    refine loadLaw_ofExcept fun plan => ?_
    refine loadLaw_requireState fun state hstate => ?_
    obtain rfl := List.mem_singleton.mp hstate
    refine loadLawFrom_loading rfl fun aloft haloft => ?_
    obtain rfl : aloft = true := haloft.mpr rfl
    intro s t h
    rw [wp_bind, wp_read]
    beta_reduce
    rw [wp_bind, wp_check]
    refine ⟨fun _ => .inr ⟨true, h⟩, fun _ => ?_⟩
    rw [wp_bind, wp_check]
    refine ⟨fun _ => .inr ⟨true, h⟩, fun _ => ?_⟩
    exact (triple_guardedLoad hzero (loadStage_setdown hzero plan)).2 s t h
  | returnAirHandToOpen =>
    intro s t h
    show wp (returnAirHandToOpenCall (loadedWorld robot base)) _ _ s t
    unfold returnAirHandToOpenCall
    rw [wp_bind, wp_read]
    beta_reduce
    rw [wp_bind, wp_check]
    refine ⟨fun _ => h.1, fun hholding => ?_⟩
    have hstate : s.state = .holding := by
      by_contra hs
      exact hholding (.inl hs)
    have hreopen : LoadLawFrom robot .holding
        (guarded (handleFailure (loadedWorld robot base)) (reopen (loadedWorld robot base))) :=
      (loadLawFrom_neutral hzero rfl neutral_reopen).1
    exact hreopen s t ⟨hstate, h⟩
  | verifyBoundedHolding =>
    refine loadLaw_requireState fun state hstate => ?_
    obtain rfl := List.mem_singleton.mp hstate
    intro s t h
    rw [wp_bind, wp_read]
    beta_reduce
    cases s.boundedHoldTargets with
    | none =>
      rw [wp_fail]
      exact h.2.1
    | some expected =>
      exact (loadLawFrom_neutral hzero rfl (quiet_verifyBoundedHold expected).neutral).2 s t h
  | verifyLoadedLiftHolding =>
    refine loadLaw_requireState fun state hstate => ?_
    obtain rfl := List.mem_singleton.mp hstate
    exact (loadLawFrom_neutral hzero rfl quiet_verifyLifted.neutral).2
  | abort reason => exact loadLaw_abortCall hzero reason

/-! ## Runs -/

theorem Between.suspendedAloft (h : Between s t) : SuspendedAloft s := by
  intro hlive
  obtain ⟨m, -, -, -, hrest⟩ := h
  exact (hrest hlive).aloft

theorem LoadAtRest.same (h : LoadAtRest robot s t) (hsame : SameLoad s t s' t')
    (hstate : s'.state = s.state) : LoadAtRest robot s' t' := by
  rcases h with ⟨hsettled, hend⟩ | ⟨aloft, h⟩
  · exact .inl ⟨hsettled.same hsame, by rw [hstate]; exact hend⟩
  · exact .inr ⟨aloft, h.goesOn ⟨hsame, by rw [hstate]; exact h.live⟩⟩

theorem loadAtRest_performCall (hzero : ZeroFacts D) (hrest : LoadAtRest robot s t)
    (haloft : SuspendedAloft s) (call : SequenceCall D) :
    wp (performCall (loadedWorld robot base) call) (fun _ => LoadAtRest robot)
      (fun _ => LoadAtRest robot) s t := by
  unfold performCall
  rw [wp_bind, wp_emit, wp_bind, wp_attempt]
  have hbegun : LoadAtRest robot s (t ++ [.begun call]) :=
    hrest.same ⟨rfl, rfl, rfl, cleanupScan_snoc t _⟩ rfl
  have hended : ∀ raised s' t', LoadAtRest robot s' t' →
      LoadAtRest robot s' (t' ++ [.ended raised]) := fun raised s' t' h =>
    h.same ⟨rfl, rfl, rfl, cleanupScan_snoc t' _⟩ rfl
  refine wp_mono (loadLaw_callOf hzero call s _ ⟨hbegun, haloft⟩) (fun _ s' t' h => ?_)
    fun e s' t' h => ?_
  · rw [wp_emit]
    exact hended false s' t' h
  · rw [wp_emit]
    exact hended true s' t' h

theorem LoadAtRest.cleanedUp_iff (h : LoadAtRest robot s t) :
    CleanedUp s t ↔ Confirmed robot s.world.log := by
  rcases h with ⟨hsettled, hend⟩ | ⟨aloft, h⟩
  · exact ⟨fun hclean => hsettled.mp (hclean (.inl hend)), fun hc _ => hsettled.mpr hc⟩
  · refine ⟨fun _ => h.confirmed, fun _ _ hflag => .inl (h.settled ?_)⟩
    exact h.flag.symm.trans hflag

/-- **The load is cleaned up after every run, unless an application failed and its rollback to a zero
load was not verified** on a robot whose load can be set. -/
theorem cleanedUp_iff_confirmed (robot : FrankaRobot Binary64 W) (base : SequenceWorld Binary64 W)
    (world : W) (load₀ : ExternalLoad Binary64) (calls : List (SequenceCall Binary64)) :
    CleanedUp ((sequenceMachine (loadedWorld robot base)).run (.init ⟨.init world load₀, []⟩) calls)
        ((sequenceMachine (loadedWorld robot base)).trace (.init ⟨.init world load₀, []⟩) calls) ↔
      Confirmed robot ((sequenceMachine (loadedWorld robot base)).run
        (.init ⟨.init world load₀, []⟩) calls).world.log := by
  let P (s : StagedGraspSequence Binary64 (LoadedArm Binary64 W))
      (t : List (SequenceEvent Binary64)) := Between s t ∧ LoadAtRest robot s t
  have hstart : P (.init ⟨.init world load₀, []⟩) [] := by
    refine ⟨⟨Watch.start, .start, rfl, rfl, fun _ => ?_⟩, .inr ⟨false, ?_⟩⟩
    · exact (atRest_approaching nofun : AtRest .disarmed false false false)
    · exact ⟨rfl, rfl, rfl, fun _ h => (by cases h), fun _ => rfl, fun h => (by cases h), rfl⟩
  have hstep : ∀ s t call, P s t → P ((sequenceMachine (loadedWorld robot base)).step s call).1
      (t ++ ((sequenceMachine (loadedWorld robot base)).step s call).2) := by
    rintro s t call ⟨hbetween, hrest⟩
    exact wp_outcome (I := P) (wp_and (between_performCall hbetween call)
      (loadAtRest_performCall zeroFacts_binary64 hrest hbetween.suspendedAloft call))
  exact ((sequenceMachine (loadedWorld robot base)).monitor_induction hstart hstep
    calls).2.cleanedUp_iff

/-! ## A load that is not cleared -/

def muteRobot : FrankaRobot Binary64 ℕ where
  limits :=
    { expectedMEeKg := some FloatArith.zero
      massToleranceKg := FloatArith.zero
      centerOfMassToleranceM := FloatArith.zero
      inertiaToleranceKgM2 := FloatArith.zero
      jointLowerRad := fun _ => FloatArith.zero
      jointUpperRad := fun _ => FloatArith.zero
      jointLimitMarginRad := FloatArith.zero
      maxJointSpeedRadS := FloatArith.one
      maxJointSegmentRad := FloatArith.one
      minJointDurationS := FloatArith.one
      jointArrivalToleranceRad := FloatArith.zero
      maxDynamicSegments := 1 }
  eigvalsh _ := .ok fun _ => FloatArith.one
  readOnce reads :=
    (if reads = 0 then .ok ⟨.ok (), fun _ => FloatArith.zero, fun _ _ => FloatArith.zero,
      FloatArith.zero⟩
      else .error (runtimeException "Franka readOnce failed"), reads + 1)
  setLoad := some fun _ reads => (.applied, reads)
  publish reads := (.ok (), reads)
  prepareHandle reads := (.ok (), reads)
  jointControl _ _ reads := (.ok (), reads)
  poseControl _ _ reads := (.ok (), reads)
  stop reads := (.ok (), reads)

def obedientWorld : SequenceWorld Binary64 ℕ where
  moveJoints q w := (.ok (some q), w)
  moveLoadedJoints q _ w := (.ok (some q), w)
  movePose _ w := (.ok (), w)
  verifySettled _ _ w := (.ok (some true), w)
  verifyAuditedJointSettled _ _ _ _ w := (.ok (some true), w)
  stop w := (.ok (), w)
  applyExternalLoadAndVerify _ w := (.ok (), w)
  clearExternalLoadAndVerify w := (.ok (), w)
  verifyIdleState w := (.ok (), w)
  openAndVerify _ w := (.ok (), w)
  preshapeThumb _ w := (.ok (), w)
  closeBendsAndHold _ w := (.ok (), w)
  closeBendsNoContactAndHold _ w := (.ok (), w)
  returnNoContactHandToOpen w := (.ok (), w)
  verifyLoadedHold _ _ w := (.ok (), w)
  verifyBoundedHold := none
  disableAndVerify w := (.ok (), w)
  transitionObserver := none
  boundaryObserver := none
  settleTolerances := none

def directLiftPlan : AuditedLoadedLiftSequencePlan Binary64 where
  executionEligible := true
  loadedLiftArtifactSha256 := "artifact"
  graspPlan :=
    { executionEligible := true
      contactAndLiftForbidden := false
      jointWaypoints := [⟨"current", zeroJoints⟩, ⟨"default", zeroJoints⟩, ⟨"pregrasp", zeroJoints⟩,
        ⟨"grasp", zeroJoints⟩]
      pregraspPose := fun _ _ => FloatArith.zero
      graspPose := fun _ _ => FloatArith.zero
      handTarget6 := fun _ => 0
      maxQTrackingErrorRad := FloatArith.zero
      settleTolerances := directPregraspPlan.settleTolerances
      thumbPreshapeTarget := none
      ineligibilityReason := ""
      names_ok := ⟨0, 0, rfl⟩
      thumb_ok := by simp }
  liftWaypoints := [⟨"grasp", zeroJoints⟩, ⟨"lift", zeroJoints⟩]
  liftPose _ _ := FloatArith.zero
  payload :=
    { massKg := FloatArith.one
      fxCloadM := ⟨fun _ => FloatArith.zero, by decide +kernel⟩
      iLoadKgM2 := ⟨fun _ => FloatArith.zero, by decide +kernel⟩
      bindingSha256 := "0000000000000000000000000000000000000000000000000000000000000000"
      mass_finite := by decide +kernel
      mass_pos := by decide +kernel }
  minimumContactAxes := 1
  maxQTrackingErrorRad := FloatArith.zero
  timeLaw := ⟨FloatArith.one, FloatArith.one, FloatArith.one, FloatArith.one⟩
  settleTolerances := directPregraspPlan.settleTolerances
  ineligibilityReason := ""
  grasp_loaded := rfl
  names_ok := ⟨0, rfl⟩
  contacts_ok := by decide

/-- **A load in question is not cleared**: `set_load` took effect, the state could not be read, and
neither could the state after the rollback. -/
theorem load_in_question_is_not_cleared :
    ¬ CleanedUp ((sequenceMachine (loadedWorld muteRobot obedientWorld)).run
        (.init ⟨.init 0 zeroLoad, []⟩) [.runLoadedLiftJointWaypoints (some directLiftPlan)])
      ((sequenceMachine (loadedWorld muteRobot obedientWorld)).trace
        (.init ⟨.init 0 zeroLoad, []⟩) [.runLoadedLiftJointWaypoints (some directLiftPlan)]) := by
  decide +kernel

end FrankaDeploy.GraspSequence
