import FrankaDeploy.LiveObservation.ThrowTrigger
import FrankaDeploy.Foundation.ExactArith
import FrankaDeploy.Foundation.EndingRun

/-! # Trigger admission

What arms the throw trigger, what it reports as a detection, and when. The counters of the trigger
stand for runs of frames that the loop has processed, in both of its phases. -/

namespace FrankaDeploy.LiveObservation

open FrankaDeploy.Foundation FrankaDeploy.Foundation.Program
open scoped FloatArith

variable {D : Type} [FloatArith D] (hypot : D → D → D) (config : ThrownRolloutTriggerConfig D)

/-! ## Frames -/

def sighting (camera : CameraSample D) : Option (Sighting D) :=
  match (throwTriggerMask camera).1 with
  | none => none
  | some mask =>
    if config.minimumMaskAreaPx ≤ mask.area then some (sightingOf camera.timestampS mask)
    else none

def Absent (f : Processed D) : Prop := sighting config f.camera = none

def Visible (f : Processed D) : Prop := (sighting config f.camera).isSome = true

def MotionBetween (f g : Processed D) (motion : Motion D) : Prop :=
  ∃ previous current, sighting config f.camera = some previous ∧
    sighting config g.camera = some current ∧ motionFrom hypot config previous current = .ok motion

/-- **A steady pair of frames**: visible, slow and consistent in its area. -/
def Steady (f g : Processed D) : Prop :=
  ∃ motion, MotionBetween hypot config f g motion ∧ isSlow config motion = true

/-- **A fast pair of frames**, whose motion is the one of the second frame's decision. -/
def Fast (f g : Processed D) : Prop :=
  ∃ motion, MotionBetween hypot config f g motion ∧ isFast config motion = true ∧
    g.decision.centroidSpeedPxS = motion.speed ∧
    g.decision.centroidDisplacementPx = motion.displacement

/-! ## One frame -/

/-- **What a frame can do to the trigger.** -/
inductive Observed (camera : CameraSample D) (trigger : Trigger D) :
    TriggerDecision D → Trigger D → Prop where
  | absent (hnone : sighting config camera = none) :
      Observed camera trigger
        (observeAbsent config camera.frameId camera.timestampS
          { trigger with lastFrameId := some camera.frameId }).1
        (observeAbsent config camera.frameId camera.timestampS
          { trigger with lastFrameId := some camera.frameId }).2
  | entry (current : Sighting D) (hsome : sighting config camera = some current)
      (harmed : trigger.armedReason = some .emptyField) :
      Observed camera trigger
        ⟨false, true, .absentToVisibleEntry, camera.frameId, current.timestamp,
          (throwTriggerMask camera).2, current.area, FloatArith.zero, FloatArith.zero⟩
        { trigger with lastFrameId := some camera.frameId }
  | first (current : Sighting D) (hsome : sighting config camera = some current)
      (harmed : trigger.armedReason ≠ some .emptyField)
      (hreference : trigger.previousVisible = none) :
      Observed camera trigger
        (observeVisible config camera.frameId current (throwTriggerMask camera).2 FloatArith.zero
          FloatArith.zero 1 { trigger with lastFrameId := some camera.frameId }).1
        (observeVisible config camera.frameId current (throwTriggerMask camera).2 FloatArith.zero
          FloatArith.zero 1 { trigger with lastFrameId := some camera.frameId }).2
  | fast (previous current : Sighting D) (motion : Motion D)
      (hsome : sighting config camera = some current)
      (harmed : trigger.armedReason = some .stableObject)
      (hreference : trigger.previousVisible = some previous)
      (hmotion : motionFrom hypot config previous current = .ok motion)
      (hfast : isFast config motion = true) :
      Observed camera trigger
        ⟨false, true, .stableToFastMotion, camera.frameId, current.timestamp,
          (throwTriggerMask camera).2, current.area, motion.speed, motion.displacement⟩
        { trigger with lastFrameId := some camera.frameId }
  | again (previous current : Sighting D) (motion : Motion D)
      (hsome : sighting config camera = some current)
      (harmed : trigger.armedReason ≠ some .emptyField)
      (hreference : trigger.previousVisible = some previous)
      (hmotion : motionFrom hypot config previous current = .ok motion) :
      Observed camera trigger
        (observeVisible config camera.frameId current (throwTriggerMask camera).2 motion.speed
          motion.displacement (if isSlow config motion then trigger.stableFrames + 1 else 1)
          { trigger with lastFrameId := some camera.frameId }).1
        (observeVisible config camera.frameId current (throwTriggerMask camera).2 motion.speed
          motion.displacement (if isSlow config motion then trigger.stableFrames + 1 else 1)
          { trigger with lastFrameId := some camera.frameId }).2

variable {hypot config}

omit [FloatArith D] in
theorem of_decided {outcome : TriggerDecision D × Trigger D} {trigger' : Trigger D}
    {decision : TriggerDecision D} (h : decided outcome = (.ok decision, trigger')) :
    outcome.1 = decision ∧ outcome.2 = trigger' :=
  ⟨Except.ok.inj (Prod.mk.inj h).1, (Prod.mk.inj h).2⟩

theorem observed_of_observe {camera : CameraSample D} {trigger trigger' : Trigger D}
    {decision : TriggerDecision D}
    (h : observe hypot config camera.frameId camera.timestampS (throwTriggerMask camera).1
      (throwTriggerMask camera).2 trigger = (.ok decision, trigger')) :
    Observed hypot config camera trigger decision trigger' := by
  unfold observe at h
  split at h
  · cases h
  next timestamp hfinite =>
  obtain rfl : timestamp = camera.timestampS := by
    unfold finite at hfinite
    split at hfinite
    · exact (Except.ok.inj hfinite).symm
    · cases hfinite
  split at h
  · cases h
  dsimp only at h
  cases hmask : (throwTriggerMask camera).1 with
  | none =>
    rw [hmask] at h
    obtain ⟨rfl, rfl⟩ := of_decided h
    exact .absent (by rw [sighting, hmask])
  | some mask =>
    rw [hmask] at h
    dsimp only at h
    split at h
    · cases h
    by_cases harea : config.minimumMaskAreaPx ≤ mask.area
    · have hsome : sighting config camera = some (sightingOf camera.timestampS mask) := by
        rw [sighting, hmask]
        exact if_pos harea
      rw [if_pos harea] at h
      generalize sightingOf camera.timestampS mask = current at h hsome
      unfold observeMask at h
      split at h
      next harmed =>
        obtain ⟨rfl, rfl⟩ := of_decided h
        exact .entry current hsome harmed
      next harmed =>
        split at h
        next hreference =>
          obtain ⟨rfl, rfl⟩ := of_decided h
          exact .first current hsome harmed hreference
        next previous hreference =>
          split at h
          · cases h
          next motion hmotion =>
            split at h
            next hfast =>
              obtain ⟨rfl, rfl⟩ := of_decided h
              exact .fast previous current motion hsome hfast.1 hreference hmotion hfast.2
            · obtain ⟨rfl, rfl⟩ := of_decided h
              exact .again previous current motion hsome harmed hreference hmotion
    · rw [if_neg harea] at h
      obtain ⟨rfl, rfl⟩ := of_decided h
      refine .absent ?_
      rw [sighting, hmask]
      exact if_neg harea

/-! ## Arming -/

variable (hypot config) in
/-- **A rightly armed frame**: it ends a run of absent frames, where an entry is admitted, or a run
of steady ones. -/
def ArmedRightly (history : List (Processed D)) (f : Processed D) : Prop :=
  (f.armedReason = some .emptyField ∧ config.allowAbsentEntry = true ∧
      EndsInRun (Absent config) (fun _ _ => True) config.absentArmFrames (history ++ [f])) ∨
    (f.armedReason = some .stableObject ∧
      EndsInRun (Visible config) (Steady hypot config) config.stableArmFrames (history ++ [f]))

variable (hypot config) in
/-- **The trigger before it is armed**, after the frames `t`: its reference is the last frame, and
its counters stand for runs. -/
structure Watching (t : List (Processed D)) (trigger : Trigger D) : Prop where
  unarmed : trigger.armedReason = none
  reference : trigger.previousVisible = t.getLast?.bind fun f => sighting config f.camera
  absent : EndsInRun (Absent config) (fun _ _ => True) trigger.absentFrames t
  stable : EndsInRun (Visible config) (Steady hypot config) trigger.stableFrames t
  noArming : ∀ f ∈ t, f.decision.armedNow = false

theorem watching_init : Watching hypot config [] (Trigger.init : Trigger D) :=
  ⟨rfl, rfl, endsInRun_zero [], endsInRun_zero [], fun _ h => absurd h List.not_mem_nil⟩

def frameOf (tick : Tick D) (camera : CameraSample D) (decision : TriggerDecision D)
    (trigger : Trigger D) : Processed D :=
  ⟨tick, camera, decision, trigger.armedReason⟩

def WatchStep (hypot : D → D → D) (config : ThrownRolloutTriggerConfig D) (t : List (Processed D))
    (f : Processed D) (trigger' : Trigger D) : Prop :=
  f.decision.detected = false ∧
    ((f.decision.armedNow = false ∧ Watching hypot config (t ++ [f]) trigger') ∨
      (f.decision.armedNow = true ∧ ArmedRightly hypot config t f))

theorem reference_snoc (t : List (Processed D)) (f : Processed D) :
    (t ++ [f]).getLast?.bind (fun f => sighting config f.camera) = sighting config f.camera := by
  rw [List.getLast?_concat, Option.bind_some]

omit [FloatArith D] in
theorem noArming_snoc {t : List (Processed D)} {f : Processed D}
    (h : ∀ g ∈ t, g.decision.armedNow = false) (hf : f.decision.armedNow = false) :
    ∀ g ∈ t ++ [f], g.decision.armedNow = false := by
  intro g hg
  rcases List.mem_append.mp hg with hg | hg
  · exact h g hg
  · rwa [List.mem_singleton.mp hg]

/-- **An absent frame** counts one more, or arms an empty field. -/
theorem Watching.absent_step {t : List (Processed D)} {trigger : Trigger D} {tick : Tick D}
    {camera : CameraSample D} (h : Watching hypot config t trigger)
    (hnone : sighting config camera = none) :
    let outcome := observeAbsent config camera.frameId camera.timestampS
      { trigger with lastFrameId := some camera.frameId }
    WatchStep hypot config t (frameOf tick camera outcome.1 outcome.2) outcome.2 := by
  intro outcome
  have hrun : EndsInRun (Absent config) (fun _ _ => True) (trigger.absentFrames + 1)
      (t ++ [frameOf tick camera outcome.1 outcome.2]) :=
    h.absent.snoc hnone fun _ _ => trivial
  refine ⟨rfl, ?_⟩
  by_cases harms : config.allowAbsentEntry = true ∧ config.absentArmFrames ≤ trigger.absentFrames + 1
  · right
    refine ⟨decide_eq_true ⟨h.unarmed, harms⟩, .inl ⟨if_pos ⟨h.unarmed, harms⟩, harms.1, ?_⟩⟩
    exact hrun.mono harms.2
  · left
    have hquiet : ¬ (trigger.armedReason = none ∧ config.allowAbsentEntry = true ∧
        config.absentArmFrames ≤ trigger.absentFrames + 1) := fun hall => harms hall.2
    refine ⟨decide_eq_false hquiet, ?_, ?_, hrun, endsInRun_zero _,
      noArming_snoc h.noArming (decide_eq_false hquiet)⟩
    · exact (if_neg hquiet).trans h.unarmed
    · rw [reference_snoc]
      exact hnone.symm

/-- **A visible frame** is the new reference, or arms a stable object. -/
theorem Watching.visible_step {t : List (Processed D)} {trigger : Trigger D} {tick : Tick D}
    {camera : CameraSample D} {current : Sighting D} {speed displacement : D} {stableFrames : ℕ}
    (h : Watching hypot config t trigger) (hsome : sighting config camera = some current)
    (hrun : ∀ f : Processed D, f.camera = camera →
      EndsInRun (Visible config) (Steady hypot config) stableFrames (t ++ [f])) :
    let outcome := observeVisible config camera.frameId current (throwTriggerMask camera).2 speed
      displacement stableFrames { trigger with lastFrameId := some camera.frameId }
    WatchStep hypot config t (frameOf tick camera outcome.1 outcome.2) outcome.2 := by
  intro outcome
  refine ⟨rfl, ?_⟩
  by_cases harms : config.stableArmFrames ≤ stableFrames
  · right
    refine ⟨decide_eq_true ⟨h.unarmed, harms⟩, .inr ⟨if_pos ⟨h.unarmed, harms⟩, ?_⟩⟩
    exact (hrun _ rfl).mono harms
  · left
    have hquiet : ¬ (trigger.armedReason = none ∧ config.stableArmFrames ≤ stableFrames) :=
      fun hall => harms hall.2
    refine ⟨decide_eq_false hquiet, ?_, ?_, endsInRun_zero _, hrun _ rfl,
      noArming_snoc h.noArming (decide_eq_false hquiet)⟩
    · exact (if_neg hquiet).trans h.unarmed
    · rw [reference_snoc]
      exact hsome.symm

/-- **A frame of a trigger that watches** is no detection, and arms it only rightly. -/
theorem Watching.step {t : List (Processed D)} {trigger trigger' : Trigger D} (tick : Tick D)
    {camera : CameraSample D} {decision : TriggerDecision D} (h : Watching hypot config t trigger)
    (hobserved : Observed hypot config camera trigger decision trigger') :
    WatchStep hypot config t (frameOf tick camera decision trigger') trigger' := by
  cases hobserved with
  | absent hnone => exact h.absent_step hnone
  | entry current hsome harmed =>
    rw [h.unarmed] at harmed
    cases harmed
  | first current hsome harmed hreference =>
    refine h.visible_step hsome fun f hf => endsInRun_one t ?_
    rw [Visible, hf, hsome]
    rfl
  | fast previous current motion hsome harmed hreference hmotion hfast =>
    rw [h.unarmed] at harmed
    cases harmed
  | again previous current motion hsome harmed hreference hmotion =>
    refine h.visible_step hsome fun f hf => ?_
    have hvisible : Visible config f := by
      rw [Visible, hf, hsome]
      rfl
    by_cases hslow : isSlow config motion = true
    · rw [if_pos hslow]
      refine h.stable.snoc hvisible fun last hlast => ⟨motion, ⟨previous, current, ?_, ?_, hmotion⟩,
        hslow⟩
      · rw [h.reference, hlast, Option.bind_some] at hreference
        exact hreference
      · rw [hf, hsome]
    · rw [if_neg hslow]
      exact endsInRun_one t hvisible

/-! ## Detecting -/

variable (hypot config) in
/-- **A detection after the frames `t`**: an entry, or a motion that is fast from the last of
them. -/
def Detects (reason : ArmedReason) (t : List (Processed D)) (f : Processed D) : Prop :=
  match reason with
  | .emptyField => f.decision.reason = .absentToVisibleEntry ∧ Visible config f
  | .stableObject =>
    f.decision.reason = .stableToFastMotion ∧ ∃ g, t.getLast? = some g ∧ Fast hypot config g f

structure DetectStep (hypot : D → D → D) (config : ThrownRolloutTriggerConfig D)
    (reason : ArmedReason) (t : List (Processed D)) (trigger : Trigger D) (f : Processed D)
    (trigger' : Trigger D) : Prop where
  armed : trigger'.armedReason = some reason
  noArming : f.decision.armedNow = false
  frameId : f.decision.frameId = f.camera.frameId
  reference : reason = .stableObject → f.decision.detected = false →
    trigger'.previousVisible = sighting config f.camera
  detects : f.decision.detected = true → (reason = .stableObject →
    trigger.previousVisible = t.getLast?.bind fun f => sighting config f.camera) →
    Detects hypot config reason t f

theorem detectStep_of_observed {reason : ArmedReason} (t : List (Processed D))
    {trigger trigger' : Trigger D} (tick : Tick D) {camera : CameraSample D}
    {decision : TriggerDecision D} (harmed : trigger.armedReason = some reason)
    (hobserved : Observed hypot config camera trigger decision trigger') :
    DetectStep hypot config reason t trigger (frameOf tick camera decision trigger') trigger' := by
  have hnotArmed : ¬ trigger.armedReason = none := by
    rw [harmed]
    exact Option.some_ne_none reason
  cases hobserved with
  | absent hnone =>
    have hquiet : ¬ (trigger.armedReason = none ∧ config.allowAbsentEntry = true ∧
        config.absentArmFrames ≤ trigger.absentFrames + 1) := fun h => hnotArmed h.1
    refine ⟨(if_neg hquiet).trans harmed, decide_eq_false hquiet, rfl, fun _ _ => hnone.symm, ?_⟩
    intro hdetected
    cases hdetected
  | entry current hsome hentry =>
    obtain rfl : reason = .emptyField := Option.some.inj (harmed.symm.trans hentry)
    refine ⟨harmed, rfl, rfl, fun h => ?_, fun _ _ => ⟨rfl, ?_⟩⟩
    · cases h
    rw [Visible, frameOf, hsome]
    rfl
  | first current hsome hentry hreference =>
    have hquiet : ¬ (trigger.armedReason = none ∧ config.stableArmFrames ≤ 1) :=
      fun h => hnotArmed h.1
    refine ⟨(if_neg hquiet).trans harmed, decide_eq_false hquiet, rfl, fun _ _ => hsome.symm, ?_⟩
    intro hdetected
    cases hdetected
  | fast previous current motion hsome hstable hreference hmotion hfast =>
    obtain rfl : reason = .stableObject := Option.some.inj (harmed.symm.trans hstable)
    refine ⟨harmed, rfl, rfl, fun _ hdetected => ?_, fun _ hlast => ⟨rfl, ?_⟩⟩
    · cases hdetected
    have hlast := hlast rfl
    rw [hreference] at hlast
    obtain ⟨g, hg, hprevious⟩ := Option.bind_eq_some_iff.mp hlast.symm
    exact ⟨g, hg, motion, ⟨previous, current, hprevious, hsome, hmotion⟩, hfast, rfl, rfl⟩
  | again previous current motion hsome hentry hreference hmotion =>
    have hquiet : ¬ (trigger.armedReason = none ∧ config.stableArmFrames ≤
        if isSlow config motion then trigger.stableFrames + 1 else 1) := fun h => hnotArmed h.1
    refine ⟨(if_neg hquiet).trans harmed, decide_eq_false hquiet, rfl, fun _ _ => hsome.symm, ?_⟩
    intro hdetected
    cases hdetected

/-! ## Programs -/

theorem armedReason_of_observe_error {camera : CameraSample D} {trigger trigger' : Trigger D}
    {mask : Option Mask} {kind : String} {e : PyException}
    (h : observe hypot config camera.frameId camera.timestampS mask kind trigger =
      (.error e, trigger')) : trigger'.armedReason = trigger.armedReason := by
  unfold observe observeMask decided at h
  grind

theorem wp_observeFrame {tick : Tick D} {camera : CameraSample D}
    {Q : TriggerDecision D → WaitState D → List (Processed D) → Prop}
    {E : PyException → WaitState D → List (Processed D) → Prop} {s : WaitState D}
    {t : List (Processed D)}
    (hQ : ∀ decision trigger', Observed hypot config camera s.trigger decision trigger' →
      Q decision
        { s with
          trigger := trigger'
          lastDecision := some decision
          observedFrames := s.observedFrames + 1
          lastFrameId := some camera.frameId }
        (t ++ [frameOf tick camera decision trigger']))
    (hE : ∀ e trigger', trigger'.armedReason = s.trigger.armedReason →
      E e { s with trigger := trigger' } t) :
    wp (observeFrame hypot config tick camera) Q E s t := by
  simp only [observeFrame, wp_bind, wp_ofStep]
  constructor
  · intro decision hdecision
    simp only [modifyWait, wp_update, wp_read, wp_emit, wp_ret]
    exact hQ decision _ (observed_of_observe (Prod.ext hdecision rfl))
  · intro e he
    exact hE e _ (armedReason_of_observe_error (Prod.ext he rfl))

/-- **An iteration** that is in time processes a new frame, or waits. -/
theorem wp_iteration {stopWhenArmed ownersActive : Bool} {hardDeadline : D} {tick : Tick D}
    {Q : Option (TriggerResult D) → WaitState D → List (Processed D) → Prop}
    {E : PyException → WaitState D → List (Processed D) → Prop} {s : WaitState D}
    {t : List (Processed D)} (hE : ∀ e, E e s t) (hold : Q none s t)
    (hframe : ∀ camera, wp (processFrame hypot config stopWhenArmed ownersActive tick camera)
      (fun r s t => Q r s t ∧ (r = none → ∀ e, E e s t)) E s t) :
    wp (iteration hypot config stopWhenArmed ownersActive hardDeadline tick) Q E s t := by
  have hwait : ∀ s t, Q none s t → (∀ e, E e s t) →
      wp (do ofExcept tick.waited; ret none : TriggerM D (Option (TriggerResult D))) Q E s t := by
    intro s t hQ hE
    simp only [wp_bind, wp_ofExcept, wp_ret]
    exact ⟨fun _ _ => hQ, fun e _ => hE e⟩
  simp only [iteration, wp_bind, wp_check, wp_read, wp_ofExcept]
  refine ⟨fun _ => hE _, fun _ => ⟨fun _ => hE _, fun _ => ⟨fun camera _ => ?_, fun e _ => hE e⟩⟩⟩
  rw [wp_ite]
  refine ⟨fun _ => ?_, fun _ => ?_⟩
  · rw [wp_bind]
    refine wp_mono (hframe camera) ?_ fun _ _ _ h => h
    rintro r s' t' ⟨hQ, hquiet⟩
    cases r with
    | some result => rwa [wp_ret]
    | none => exact hwait s' t' hQ (hquiet rfl)
  · rw [wp_bind, wp_ret]
    exact hwait s t hold hE

/-! ## The prepare phase -/

/-- The wait before the trigger is armed, after the frames `t`. -/
structure Preparing (hypot : D → D → D) (config : ThrownRolloutTriggerConfig D) (s : WaitState D)
    (t : List (Processed D)) : Prop where
  watching : Watching hypot config t s.trigger
  noMotion : s.motionDetectedDecision = none
  noCount : s.tabletopHeightConfirmedFrames = 0

/-- **A prepared wait**: the last frame has armed the trigger, rightly and for the first time. -/
structure Prepared (hypot : D → D → D) (config : ThrownRolloutTriggerConfig D)
    (r : TriggerResult D) (s : WaitState D) (t : List (Processed D)) : Prop where
  reports : ∃ before f, t = before ++ [f] ∧ (∀ g ∈ before, g.decision.armedNow = false) ∧
    f.decision.armedNow = true ∧ ArmedRightly hypot config before f ∧
    s.trigger.armedReason = f.armedReason ∧
    ∃ started observed, r = .armed f.armedReason f.camera.frameId f.decision.timestampS started observed
  noMotion : s.motionDetectedDecision = none
  noCount : s.tabletopHeightConfirmedFrames = 0

def Unarmed (s : WaitState D) (t : List (Processed D)) : Prop :=
  s.trigger.armedReason = none ∧ ∀ f ∈ t, f.decision.armedNow = false

theorem Preparing.unarmed {s : WaitState D} {t : List (Processed D)}
    (h : Preparing hypot config s t) : Unarmed s t :=
  ⟨h.watching.unarmed, h.watching.noArming⟩

theorem Observed.frameId {camera : CameraSample D} {trigger trigger' : Trigger D}
    {decision : TriggerDecision D} (h : Observed hypot config camera trigger decision trigger') :
    decision.frameId = camera.frameId := by
  cases h <;> rfl

def PrepareOutcome (hypot : D → D → D) (config : ThrownRolloutTriggerConfig D)
    (r : Option (TriggerResult D)) (s : WaitState D) (t : List (Processed D)) : Prop :=
  match r with
  | none => Preparing hypot config s t
  | some r => Prepared hypot config r s t

theorem wp_processFrame_preparing {tick : Tick D} {camera : CameraSample D} {s : WaitState D}
    {t : List (Processed D)} (h : Preparing hypot config s t) :
    wp (processFrame hypot config true false tick camera)
      (fun r s t => PrepareOutcome hypot config r s t ∧ (r = none → Unarmed s t))
      (fun _ s t => Unarmed s t) s t := by
  rw [processFrame, wp_bind]
  refine wp_observeFrame ?_ fun e trigger' hsame =>
    ⟨hsame.trans h.watching.unarmed, h.watching.noArming⟩
  intro decision trigger' hobserved
  obtain ⟨hdetected, hstep⟩ := h.watching.step tick hobserved
  rw [wp_ite]
  refine ⟨fun harms => ?_, fun harms => ?_⟩
  · -- the frame arms the trigger, and the phase reports it
    rw [Bool.and_true] at harms
    simp only [modifyWait, wp_bind, wp_update, wp_read, wp_ret]
    rcases hstep with ⟨hquiet, -⟩ | ⟨-, hrightly⟩
    · have hquiet : decision.armedNow = false := hquiet
      rw [harms] at hquiet
      cases hquiet
    refine ⟨⟨⟨t, _, rfl, h.watching.noArming, harms, hrightly, rfl, tick.reportedAt,
      s.observedFrames + 1, ?_⟩,
      h.noMotion, h.noCount⟩, fun hnone => by cases hnone⟩
    rw [frameOf, hobserved.frameId]
  · have hquiet : decision.armedNow = false := by simpa using harms
    rcases hstep with ⟨-, hwatching⟩ | ⟨harms, -⟩
    swap
    · have harms : decision.armedNow = true := harms
      rw [hquiet] at harms
      cases harms
    have hdetected : decision.detected = false := hdetected
    have hnext : Preparing hypot config
        { s with
          trigger := trigger'
          lastDecision := some decision
          observedFrames := s.observedFrames + 1
          lastFrameId := some camera.frameId }
        (t ++ [frameOf tick camera decision trigger']) := ⟨hwatching, h.noMotion, h.noCount⟩
    cases config.tabletopReleaseHeightGate with
    | none =>
      simp only [wp_bind, wp_read, hdetected, Bool.false_eq_true, if_false, wp_ret]
      exact ⟨hnext, fun _ => hnext.unarmed⟩
    | some gate =>
      simp only [gateFrame, wp_bind, wp_read, wp_runIf, hdetected, Bool.false_and,
        Bool.false_eq_true, false_implies, not_false_eq_true, true_implies, true_and, h.noMotion,
        wp_ret]
      rw [h.noMotion] at hnext
      exact ⟨hnext, hnext.unarmed⟩

theorem wp_prepareRolloutTrigger (hardDeadline : D) (ticks : List (Tick D)) {s : WaitState D}
    {t : List (Processed D)} (h : Preparing hypot config s t) :
    wp (prepareRolloutTrigger hypot config hardDeadline ticks) (PrepareOutcome hypot config)
      (fun _ s t => Unarmed s t) s t := by
  unfold prepareRolloutTrigger
  induction ticks generalizing s t with
  | nil =>
    rw [waitForRolloutTriggerPhase, wp_ret]
    exact h
  | cons tick ticks ih =>
    rw [waitForRolloutTriggerPhase, wp_bind]
    refine wp_mono (wp_iteration (Q := PrepareOutcome hypot config) (fun _ => h.unarmed) h
      fun camera => ?_) ?_ fun _ _ _ h => h
    · refine wp_mono (wp_processFrame_preparing h) ?_ fun _ _ _ h => h
      exact fun r s t hr => ⟨hr.1, fun hnone _ => hr.2 hnone⟩
    · intro r s' t' hr
      cases r with
      | none => exact ih hr
      | some r => rwa [wp_ret]

/-! ## The detect phase -/

/-- **A frame at the height of the tabletop**, freshly measured. -/
def Flat (gate : TabletopReleaseHeightGateConfig D) (f : Processed D) : Prop :=
  ∃ centerZ sourcePoints, f.tick.height = .ok (some (centerZ, sourcePoints)) ∧
    withinFlatHeight gate centerZ = true

variable (hypot config) in
/-- **A noted motion**: it is the decision of a frame that is a detection, and since that frame the
counter stands for a run of frames at the height of the tabletop. -/
def Noted (gate : TabletopReleaseHeightGateConfig D) (reason : ArmedReason)
    (t : List (Processed D)) (motion : TriggerDecision D) (confirmed : ℕ) : Prop :=
  ∃ before f since, t = before ++ f :: since ∧ f.decision = motion ∧
    f.decision.frameId = f.camera.frameId ∧ Detects hypot config reason before f ∧
    EndsInRun (Flat gate) (fun _ _ => True) confirmed (f :: since)

variable (hypot config) in
/-- The wait of an armed trigger, after the frames `t` of the phase. -/
structure Detecting (reason : ArmedReason) (s : WaitState D) (t : List (Processed D)) : Prop where
  armed : s.trigger.armedReason = some reason
  reference : reason = .stableObject → s.motionDetectedDecision = none →
    s.trigger.previousVisible = t.getLast?.bind fun f => sighting config f.camera
  noArming : ∀ f ∈ t, f.decision.armedNow = false
  noCount : s.motionDetectedDecision = none → s.tabletopHeightConfirmedFrames = 0
  noMotion : config.tabletopReleaseHeightGate = none → s.motionDetectedDecision = none
  noted : ∀ gate motion, config.tabletopReleaseHeightGate = some gate →
    s.motionDetectedDecision = some motion →
    Noted hypot config gate reason t motion s.tabletopHeightConfirmedFrames

variable (hypot config) in
/-- **A right detection**: without a gate, the last frame is one; with a gate, a frame was one and
enough frames in a row since then, up to the last one, are at the height of the tabletop. -/
def DetectedRightly (reason : ArmedReason) (d : Detection D) (t : List (Processed D)) : Prop :=
  match config.tabletopReleaseHeightGate with
  | none => ∃ before f, t = before ++ [f] ∧ Detects hypot config reason before f ∧
      d.frameId = f.camera.frameId ∧ d.reason = some f.decision.reason ∧ d.release = none
  | some gate => ∃ before f since last release, t = before ++ f :: since ∧
      Detects hypot config reason before f ∧
      EndsInRun (Flat gate) (fun _ _ => True) gate.confirmFrames (f :: since) ∧
      t.getLast? = some last ∧ d.frameId = last.camera.frameId ∧
      d.release = some release ∧ release.motionDetectedFrameId = f.camera.frameId

theorem Noted.snoc {gate : TabletopReleaseHeightGateConfig D} {reason : ArmedReason}
    {t : List (Processed D)} {motion : TriggerDecision D} {confirmed confirmed' : ℕ}
    (h : Noted hypot config gate reason t motion confirmed) {f : Processed D}
    (hcount : (confirmed' = confirmed + 1 ∧ Flat gate f) ∨ confirmed' = 0) :
    Noted hypot config gate reason (t ++ [f]) motion confirmed' := by
  obtain ⟨before, g, since, rfl, hmotion, hframe, hdetects, hrun⟩ := h
  refine ⟨before, g, since ++ [f], ?_, hmotion, hframe, hdetects, ?_⟩
  · rw [List.append_assoc, List.cons_append]
  rcases hcount with ⟨rfl, hflat⟩ | rfl
  · exact hrun.snoc hflat fun _ _ => trivial
  · exact endsInRun_zero _

/-- **A new motion**, whose own frame may be at the height of the tabletop. -/
theorem noted_of_detects {gate : TabletopReleaseHeightGateConfig D} {reason : ArmedReason}
    {t : List (Processed D)} {confirmed : ℕ} {f : Processed D}
    (hframe : f.decision.frameId = f.camera.frameId) (hdetects : Detects hypot config reason t f)
    (hcount : (confirmed = 1 ∧ Flat gate f) ∨ confirmed = 0) :
    Noted hypot config gate reason (t ++ [f]) f.decision confirmed := by
  refine ⟨t, f, [], rfl, rfl, hframe, hdetects, ?_⟩
  rcases hcount with ⟨rfl, hflat⟩ | rfl
  · exact endsInRun_one [] hflat
  · exact endsInRun_zero _

theorem wp_countHeight {gate : TabletopReleaseHeightGateConfig D} {tick : Tick D}
    {Q : Unit → WaitState D → List (Processed D) → Prop}
    {E : PyException → WaitState D → List (Processed D) → Prop} {s : WaitState D}
    {t : List (Processed D)}
    (hQ : ∀ s' : WaitState D, s'.trigger = s.trigger →
      s'.motionDetectedDecision = s.motionDetectedDecision →
      ((s'.tabletopHeightConfirmedFrames = s.tabletopHeightConfirmedFrames + 1 ∧
          ∀ f : Processed D, f.tick = tick → Flat gate f) ∨
        s'.tabletopHeightConfirmedFrames = 0) → Q () s' t)
    (hE : ∀ e, E e s t) : wp (countHeight gate tick) Q E s t := by
  simp only [countHeight, wp_bind, wp_ofExcept, modifyWait]
  refine ⟨fun measured hmeasured => ?_, fun e _ => hE e⟩
  cases measured with
  | none =>
    rw [wp_update]
    exact hQ _ rfl rfl (.inr rfl)
  | some measured =>
    obtain ⟨centerZ, sourcePoints⟩ := measured
    rw [wp_update]
    refine hQ _ rfl rfl ?_
    by_cases hflat : withinFlatHeight gate centerZ = true
    · refine .inl ⟨if_pos hflat, fun f hf => ⟨centerZ, sourcePoints, ?_, hflat⟩⟩
      rw [hf, hmeasured]
    · exact .inr (if_neg hflat)

omit [FloatArith D] in
theorem wp_noteMotion {tick : Tick D} {decision : TriggerDecision D}
    {Q : Unit → WaitState D → List (Processed D) → Prop}
    {E : PyException → WaitState D → List (Processed D) → Prop} {s : WaitState D}
    {t : List (Processed D)}
    (hQ : ∀ s' : WaitState D, s'.trigger = s.trigger →
      s'.motionDetectedDecision = some decision →
      s'.tabletopHeightConfirmedFrames = s.tabletopHeightConfirmedFrames → Q () s' t)
    (hE : ∀ e s', E e s' t) : wp (noteMotion tick decision) Q E s t := by
  simp only [noteMotion, wp_bind, wp_ofExcept, modifyWait, wp_update]
  refine ⟨fun measured _ => ?_, fun e _ => hE e _⟩
  cases measured with
  | none =>
    rw [wp_ret]
    exact hQ _ rfl rfl rfl
  | some measured =>
    rw [wp_update]
    exact hQ _ rfl rfl rfl

variable (hypot config) in
def DetectOutcome (reason : ArmedReason) (r : Option (TriggerResult D)) (s : WaitState D)
    (t : List (Processed D)) : Prop :=
  match r with
  | none => Detecting hypot config reason s t
  | some r => (∃ d, r = .detected d ∧ DetectedRightly hypot config reason d t) ∧
      ∀ f ∈ t, f.decision.armedNow = false

def NoArming (_ : PyException) (_ : WaitState D) (t : List (Processed D)) : Prop :=
  ∀ f ∈ t, f.decision.armedNow = false

/-- **A frame after a motion** is counted, and the release is reported where it is confirmed. -/
theorem wp_confirmRelease {gate : TabletopReleaseHeightGateConfig D} {reason : ArmedReason}
    {tick : Tick D} {camera : CameraSample D} {decision motion : TriggerDecision D}
    {s : WaitState D} {t : List (Processed D)} {f : Processed D}
    (hgate : config.tabletopReleaseHeightGate = some gate) (hcamera : f.camera = camera)
    (hnoArming : ∀ g ∈ t ++ [f], g.decision.armedNow = false)
    (harmed : s.trigger.armedReason = some reason)
    (hmotion : s.motionDetectedDecision = some motion)
    (hnoted : ∀ s' : WaitState D, (s'.tabletopHeightConfirmedFrames =
        s.tabletopHeightConfirmedFrames + 1 ∧ Flat gate f ∨ s'.tabletopHeightConfirmedFrames = 0) →
      Noted hypot config gate reason (t ++ [f]) motion s'.tabletopHeightConfirmedFrames)
    (htick : f.tick = tick) :
    wp (confirmRelease gate true tick camera decision motion)
      (fun r s t => DetectOutcome hypot config reason r s t ∧ (r = none → ∀ e, NoArming e s t))
      NoArming s (t ++ [f]) := by
  rw [confirmRelease, wp_bind]
  refine wp_countHeight ?_ fun e => hnoArming
  intro s' htrigger hsame hcount
  have hcounted := hnoted s' (hcount.imp_left fun h => ⟨h.1, h.2 f htick⟩)
  have hdetecting : Detecting hypot config reason s' (t ++ [f]) := by
    constructor
    · rw [htrigger, harmed]
    · intro _ hnone
      rw [hsame, hmotion] at hnone
      cases hnone
    · exact hnoArming
    · intro hnone
      rw [hsame, hmotion] at hnone
      cases hnone
    · intro hnone
      rw [hgate] at hnone
      cases hnone
    · intro gate' motion' hgate' hmotion'
      obtain rfl : gate = gate' := Option.some.inj (hgate.symm.trans hgate')
      rw [hsame, hmotion] at hmotion'
      obtain rfl : motion = motion' := Option.some.inj hmotion'
      exact hcounted
  simp only [wp_bind, wp_read]
  rw [wp_ite]
  refine ⟨fun hconfirmed => ?_, fun _ => ?_⟩
  · cases s'.lastTabletopCenterBaseZM with
    | none =>
      rw [wp_fail]
      exact hnoArming
    | some centerZ =>
      rw [wp_ret]
      refine ⟨⟨⟨_, rfl, ?_⟩, hnoArming⟩, fun hnone => by cases hnone⟩
      obtain ⟨before, g, since, ht, rfl, hframe, hdetects, hrun⟩ := hcounted
      rw [DetectedRightly, hgate]
      refine ⟨before, g, since, f, _, ht, hdetects, hrun.mono hconfirmed, List.getLast?_concat, ?_,
        rfl, hframe⟩
      rw [hcamera]
      rfl
  · rw [wp_ret]
    exact ⟨hdetecting, fun _ _ => hnoArming⟩

theorem wp_processFrame_detecting {reason : ArmedReason} {tick : Tick D} {camera : CameraSample D}
    {s : WaitState D} {t : List (Processed D)} (h : Detecting hypot config reason s t) :
    wp (processFrame hypot config false true tick camera)
      (fun r s t => DetectOutcome hypot config reason r s t ∧ (r = none → ∀ e, NoArming e s t))
      NoArming s t := by
  rw [processFrame, wp_bind]
  refine wp_observeFrame ?_ fun e trigger' _ => h.noArming
  intro decision trigger' hobserved
  have hstep := detectStep_of_observed t tick h.armed hobserved
  have hnoArming := noArming_snoc h.noArming hstep.noArming
  rw [Bool.and_false, if_neg Bool.false_ne_true]
  -- a frame that is no detection, while no motion is noted
  have hquiet : decision.detected = false → s.motionDetectedDecision = none →
      Detecting hypot config reason
        { s with
          trigger := trigger'
          lastDecision := some decision
          observedFrames := s.observedFrames + 1
          lastFrameId := some camera.frameId }
        (t ++ [frameOf tick camera decision trigger']) := by
    intro hdetected hnone
    refine ⟨hstep.armed, fun hstable _ => ?_, hnoArming, fun _ => h.noCount hnone, fun _ => hnone, ?_⟩
    · rw [reference_snoc]
      exact hstep.reference hstable hdetected
    · intro gate motion _ hsome
      have hsome : s.motionDetectedDecision = some motion := hsome
      rw [hnone] at hsome
      cases hsome
  cases hgate : config.tabletopReleaseHeightGate with
  | none =>
    have hnone := h.noMotion hgate
    simp only [wp_bind, wp_read]
    rw [wp_ite]
    refine ⟨fun hdetected => ?_, fun hdetected => ?_⟩
    · rw [wp_ret]
      refine ⟨⟨⟨_, rfl, ?_⟩, hnoArming⟩, fun hnone => by cases hnone⟩
      rw [DetectedRightly, hgate]
      exact ⟨t, _, rfl, hstep.detects hdetected fun hstable => h.reference hstable hnone,
        hstep.frameId, rfl, rfl⟩
    · rw [wp_ret]
      have hdetected : decision.detected = false := Bool.not_eq_true _ ▸ hdetected
      exact ⟨hquiet hdetected hnone, fun _ _ => hnoArming⟩
  | some gate =>
    simp only [gateFrame, wp_bind, wp_read, wp_runIf]
    cases hmotion : s.motionDetectedDecision with
    | none =>
      rw [Option.isNone_none, Bool.and_true]
      refine ⟨fun hdetected => ?_, fun hdetected => ?_⟩
      · -- the first motion: its own frame may be at the height already
        refine wp_noteMotion ?_ fun _ _ => hnoArming
        intro s' htrigger hnoted hcount
        rw [hnoted]
        refine wp_confirmRelease hgate rfl hnoArming (by rw [htrigger]; exact hstep.armed) hnoted
          ?_ rfl
        intro s'' hheight
        have hzero : s'.tabletopHeightConfirmedFrames = 0 := hcount.trans (h.noCount hmotion)
        rw [hzero] at hheight
        exact noted_of_detects hstep.frameId
          (hstep.detects hdetected fun hstable => h.reference hstable hmotion) hheight
      · have hdetected : decision.detected = false := Bool.not_eq_true _ ▸ hdetected
        rw [wp_ret]
        have hnext := hquiet hdetected hmotion
        rw [hmotion] at hnext
        exact ⟨hnext, fun _ _ => hnoArming⟩
    | some motion =>
      rw [Option.isNone_some, Bool.and_false]
      refine ⟨fun hfalse => absurd hfalse Bool.false_ne_true, fun _ => ?_⟩
      refine wp_confirmRelease hgate rfl hnoArming hstep.armed rfl ?_ rfl
      intro s'' hheight
      exact (h.noted gate motion hgate hmotion).snoc hheight

theorem wp_waitForDetection (hardDeadline : D) {reason : ArmedReason} (ticks : List (Tick D))
    {s : WaitState D} {t : List (Processed D)} (h : Detecting hypot config reason s t) :
    wp (waitForRolloutTriggerPhase hypot config false true hardDeadline ticks)
      (DetectOutcome hypot config reason) NoArming s t := by
  induction ticks generalizing s t with
  | nil =>
    rw [waitForRolloutTriggerPhase, wp_ret]
    exact h
  | cons tick ticks ih =>
    rw [waitForRolloutTriggerPhase, wp_bind]
    refine wp_mono (wp_iteration (Q := DetectOutcome hypot config reason) (fun _ => h.noArming) h
      fun camera => wp_processFrame_detecting h) ?_ fun _ _ _ h => h
    intro r s' t' hr
    cases r with
    | none => exact ih hr
    | some r => rwa [wp_ret]

structure Ready (reason : ArmedReason) (s : WaitState D) : Prop where
  armed : s.trigger.armedReason = some reason
  noMotion : s.motionDetectedDecision = none
  noCount : s.tabletopHeightConfirmedFrames = 0

theorem wp_detectRolloutTrigger (hardDeadline readyAt : D) {reason : ArmedReason}
    (ticks : List (Tick D)) {s : WaitState D} (h : Ready reason s) :
    wp (detectRolloutTrigger hypot config hardDeadline readyAt ticks)
      (DetectOutcome hypot config reason) NoArming s [] := by
  have hdetecting : ∀ s' : WaitState D, s'.trigger.armedReason = some reason →
      (reason = .stableObject → s'.trigger.previousVisible = none) →
      s'.motionDetectedDecision = none → s'.tabletopHeightConfirmedFrames = 0 →
      Detecting hypot config reason s' [] := by
    intro s' harmed hreference hmotion hcount
    refine ⟨harmed, fun hstable _ => hreference hstable, fun _ hf => absurd hf List.not_mem_nil,
      fun _ => hcount, fun _ => hmotion, fun gate motion _ hsome => ?_⟩
    rw [hmotion] at hsome
    cases hsome
  simp only [detectRolloutTrigger, wp_bind, wp_read, wp_check, modifyWait, wp_update, wp_runIf]
  refine ⟨fun _ _ hf => absurd hf List.not_mem_nil, fun _ => ⟨fun _ => ?_, fun hother => ?_⟩⟩
  · exact wp_waitForDetection hardDeadline ticks
      (hdetecting _ h.armed (fun _ => rfl) h.noMotion h.noCount)
  · refine wp_waitForDetection hardDeadline ticks
      (hdetecting _ h.armed (fun hstable => ?_) h.noMotion h.noCount)
    rw [hstable] at h
    exact absurd h.armed hother

/-! ## In time -/

def HasDeadline (deadline : D) (s : WaitState D) (_ : List (Processed D)) : Prop :=
  s.configuredDeadlineMonotonicS = deadline

variable {deadline : D}

omit [FloatArith D] in
theorem keeps_modifyWait {f : WaitState D → WaitState D}
    (hf : ∀ s, (f s).configuredDeadlineMonotonicS = s.configuredDeadlineMonotonicS) :
    Keeps (HasDeadline deadline) (modifyWait f) :=
  keeps_update fun s _ h => (hf s).trans h

variable (hypot config) in
theorem keeps_iteration (stopWhenArmed ownersActive : Bool) (hardDeadline : D) (tick : Tick D) :
    Keeps (HasDeadline deadline)
      (iteration hypot config stopWhenArmed ownersActive hardDeadline tick) := by
  have hobserve : ∀ camera, Keeps (HasDeadline deadline) (observeFrame hypot config tick camera) := by
    intro camera
    refine (keeps_ofStep fun s _ h => h).bind fun decision => ?_
    refine Keeps.bind (keeps_modifyWait ?_) fun _ => keeps_read.bind fun s => ?_
    · exact fun _ => rfl
    · exact (keeps_emit fun _ _ h => h).bind fun _ => keeps_ret _
  have hcount : ∀ gate, Keeps (HasDeadline deadline) (countHeight gate tick) := by
    intro gate
    refine (keeps_ofExcept _).bind fun measured => ?_
    cases measured <;> exact keeps_modifyWait fun _ => rfl
  have hnote : ∀ decision, Keeps (HasDeadline deadline) (noteMotion tick decision) := by
    intro decision
    refine Keeps.bind (keeps_modifyWait ?_) fun _ => (keeps_ofExcept _).bind fun measured => ?_
    · exact fun _ => rfl
    cases measured with
    | none => exact keeps_ret _
    | some measured => exact keeps_modifyWait fun _ => rfl
  have hprocess : ∀ camera, Keeps (HasDeadline deadline)
      (processFrame hypot config stopWhenArmed ownersActive tick camera) := by
    intro camera
    refine (hobserve camera).bind fun decision => Keeps.ite ?_ ?_
    · refine Keeps.bind (keeps_modifyWait ?_) fun _ => keeps_read.bind fun _ => keeps_ret _
      exact fun _ => rfl
    · cases config.tabletopReleaseHeightGate with
      | none => exact keeps_read.bind fun _ => Keeps.ite (keeps_ret _) (keeps_ret _)
      | some gate =>
        refine keeps_read.bind fun _ => (Keeps.runIf _ (hnote decision)).bind fun _ =>
          keeps_read.bind fun s => ?_
        cases s.motionDetectedDecision with
        | none => exact keeps_ret _
        | some motion =>
          refine (hcount gate).bind fun _ => keeps_read.bind fun s => Keeps.ite ?_ (keeps_ret _)
          cases s.lastTabletopCenterBaseZM with
          | none => exact keeps_fail _
          | some centerZ => exact keeps_ret _
  refine (keeps_check _ _).bind fun _ => keeps_read.bind fun s => (keeps_check _ _).bind fun _ =>
    (keeps_ofExcept _).bind fun camera =>
      Keeps.ite ((hprocess camera).bind fun r => ?_) ((keeps_ret none).bind fun r => ?_)
  -- a phase that goes on waits for the next frame
  all_goals
    cases r with
    | none => exact (keeps_ofExcept _).bind fun _ => keeps_ret _
    | some result => exact keeps_ret _

/-- **An iteration that reports** starts before the deadline, without a stop request. -/
theorem inTime_of_iteration {stopWhenArmed ownersActive : Bool} {hardDeadline : D} {tick : Tick D}
    {s s' : WaitState D} {r : TriggerResult D} {t : List (Processed D)}
    (h : iteration hypot config stopWhenArmed ownersActive hardDeadline tick s =
      (.ok (some r), s', t)) :
    tick.stopRequested = false ∧
      ¬ FloatArith.stdMin hardDeadline s.configuredDeadlineMonotonicS ≤ tick.now := by
  have hchecked : wp (iteration hypot config stopWhenArmed ownersActive hardDeadline tick)
      (fun _ _ _ => tick.stopRequested = false ∧
        ¬ FloatArith.stdMin hardDeadline s.configuredDeadlineMonotonicS ≤ tick.now)
      (fun _ _ _ => True) s [] := by
    simp only [iteration, wp_bind, wp_check, wp_read]
    refine ⟨fun _ => trivial, fun hrunning => ⟨fun _ => trivial, fun hearly => ?_⟩⟩
    refine wp_mono (wp_top _ _ _) (fun camera s₁ t₁ _ => ?_) fun _ _ _ _ => trivial
    exact wp_mono (wp_top _ _ _) (fun _ _ _ _ => ⟨Bool.not_eq_true _ ▸ hrunning, hearly⟩)
      fun _ _ _ _ => trivial
  unfold wp at hchecked
  rw [h] at hchecked
  exact hchecked

variable (hypot config) in
/-- **A phase reports in time**: the iteration that reports is a single one, it starts before the
deadline and without a stop request, and those before it report nothing. -/
def ReportsInTime (stopWhenArmed ownersActive : Bool) (hardDeadline deadline : D)
    (ticks : List (Tick D)) (s : WaitState D) : Prop :=
  ∀ r s' t, waitForRolloutTriggerPhase hypot config stopWhenArmed ownersActive hardDeadline ticks s =
      (.ok (some r), s', t) →
    ∃ before tick after s₁ t₁ t₂, ticks = before ++ tick :: after ∧
      waitForRolloutTriggerPhase hypot config stopWhenArmed ownersActive hardDeadline before s =
        (.ok none, s₁, t₁) ∧
      iteration hypot config stopWhenArmed ownersActive hardDeadline tick s₁ =
        (.ok (some r), s', t₂) ∧
      t = t₁ ++ t₂ ∧ tick.stopRequested = false ∧
      ¬ FloatArith.stdMin hardDeadline deadline ≤ tick.now

theorem reportsInTime (stopWhenArmed ownersActive : Bool) (hardDeadline : D)
    (ticks : List (Tick D)) {s : WaitState D} (hdeadline : s.configuredDeadlineMonotonicS = deadline) :
    ReportsInTime hypot config stopWhenArmed ownersActive hardDeadline deadline ticks s := by
  induction ticks generalizing s with
  | nil =>
    intro r s' t h
    have h : (Except.ok none, s, []) = (Except.ok (some r), s', t) := h
    cases h
  | cons tick ticks ih =>
    intro r s' t h
    have hkept := wp_outcome (keeps_iteration hypot config stopWhenArmed
      ownersActive hardDeadline tick s [] hdeadline)
    rw [waitForRolloutTriggerPhase] at h
    have h : andThen _ _ s = _ := h
    unfold andThen at h
    rcases hfirst : iteration hypot config stopWhenArmed ownersActive hardDeadline tick s with
      ⟨outcome, s₁, t₁⟩
    rw [hfirst] at h hkept
    cases outcome with
    | error e => cases h
    | ok reported =>
      cases reported with
      | some result =>
        obtain ⟨hresult, hrest⟩ := Prod.mk.inj h
        obtain ⟨rfl, rfl⟩ := Prod.mk.inj hrest
        rw [hresult] at hfirst
        have hintime := inTime_of_iteration hfirst
        rw [hdeadline] at hintime
        exact ⟨[], tick, ticks, s, [], t₁, rfl, rfl, hfirst, by simp, hintime⟩
      | none =>
        rcases hlater : waitForRolloutTriggerPhase hypot config stopWhenArmed ownersActive
          hardDeadline ticks s₁ with ⟨outcome, s₂, w⟩
        dsimp only at h
        rw [hlater] at h
        obtain ⟨rfl, hrest⟩ := Prod.mk.inj h
        obtain ⟨rfl, rfl⟩ := Prod.mk.inj hrest
        obtain ⟨before, reporting, after, s₃, t₃, t₄, rfl, hbefore, hreports, rfl, hintime⟩ :=
          ih hkept r s₂ w hlater
        refine ⟨tick :: before, reporting, after, s₃, t₁ ++ t₃, t₄, rfl, ?_, hreports,
          (List.append_assoc _ _ _).symm, hintime⟩
        rw [waitForRolloutTriggerPhase]
        show andThen _ _ s = _
        unfold andThen
        rw [hfirst]
        dsimp only
        rw [hbefore]

variable (hypot config) in
theorem keeps_waitForRolloutTriggerPhase (stopWhenArmed ownersActive : Bool) (hardDeadline : D)
    (ticks : List (Tick D)) :
    Keeps (HasDeadline deadline)
      (waitForRolloutTriggerPhase hypot config stopWhenArmed ownersActive hardDeadline ticks) := by
  induction ticks with
  | nil => exact keeps_ret _
  | cons tick ticks ih =>
    refine (keeps_iteration hypot config stopWhenArmed ownersActive hardDeadline tick).bind fun r => ?_
    cases r with
    | none => exact ih
    | some result => exact keeps_ret _

/-! ## The law -/

variable (hypot config) in
/-- **Armed at most once, and rightly**: of the processed frames of both phases. -/
structure ArmedOnceRightly (t : List (Processed D)) : Prop where
  once : t.countP (·.decision.armedNow) ≤ 1
  rightly : ∀ before f after, t = before ++ f :: after → f.decision.armedNow = true →
    ArmedRightly hypot config before f

omit [FloatArith D] in
theorem countP_armedNow_eq_zero {t : List (Processed D)}
    (h : ∀ f ∈ t, f.decision.armedNow = false) : t.countP (·.decision.armedNow) = 0 := by
  refine List.countP_eq_zero.mpr fun f hf harms => ?_
  rw [h f hf] at harms
  cases harms

theorem armedOnceRightly_of_noArming {t : List (Processed D)}
    (h : ∀ f ∈ t, f.decision.armedNow = false) : ArmedOnceRightly hypot config t := by
  refine ⟨(countP_armedNow_eq_zero h).le.trans (Nat.zero_le _), ?_⟩
  rintro before f after rfl harms
  rw [h f (by simp)] at harms
  cases harms

/-- **One arming frame** between frames that do not arm. -/
theorem armedOnceRightly_of_frame {before after : List (Processed D)} {f : Processed D}
    (hbefore : ∀ g ∈ before, g.decision.armedNow = false) (hrightly : ArmedRightly hypot config before f)
    (hafter : ∀ g ∈ after, g.decision.armedNow = false) :
    ArmedOnceRightly hypot config (before ++ f :: after) := by
  constructor
  · rw [List.countP_append, List.countP_cons, countP_armedNow_eq_zero hbefore,
      countP_armedNow_eq_zero hafter]
    split <;> omega
  · intro before' g after' hsplit harms
    rcases List.append_eq_append_iff.mp hsplit with ⟨middle, rfl, hrest⟩ | ⟨middle, rfl, hrest⟩
    · cases middle with
      | nil =>
        obtain ⟨rfl, -⟩ := List.cons.inj hrest
        rwa [List.append_nil]
      | cons h middle =>
        obtain ⟨rfl, rfl⟩ := List.cons.inj hrest
        rw [hafter g (by simp)] at harms
        cases harms
    · cases middle with
      | nil =>
        obtain ⟨rfl, -⟩ := List.cons.inj hrest
        rwa [List.append_nil] at hrightly
      | cons h middle =>
        obtain ⟨rfl, rfl⟩ := List.cons.inj hrest
        rw [hbefore g (by simp)] at harms
        cases harms

/-- The wait that the detect phase enters its loop with: it is ready, and a visible object has no
reference. -/
def readied (readyAt : D) (s : WaitState D) : WaitState D :=
  { s with
    readyMonotonicS := some readyAt
    trigger := { s.trigger with
      previousVisible :=
        if s.trigger.armedReason = some .stableObject then none else s.trigger.previousVisible } }

theorem ret_bind_apply {σ ω ε α β : Type} (a : α) (f : α → Program σ ω ε β) (s : σ) :
    ((ret a : Program σ ω ε α) >>= f) s = f a s := by
  show andThen (ret a) f s = _
  simp only [andThen, ret, List.nil_append]

/-- **The detect phase** of an armed trigger is its loop. -/
theorem detectRolloutTrigger_eq (hardDeadline readyAt : D) (ticks : List (Tick D))
    {s : WaitState D} (harmed : s.trigger.armedReason ≠ none) :
    detectRolloutTrigger hypot config hardDeadline readyAt ticks s =
      waitForRolloutTriggerPhase hypot config false true hardDeadline ticks (readied readyAt s) := by
  generalize hloop : waitForRolloutTriggerPhase hypot config false true hardDeadline ticks = loop
  unfold detectRolloutTrigger
  rw [hloop, read_bind_apply, check, if_neg harmed, ret_bind_apply, modifyWait, update_bind_apply,
    runIf]
  by_cases hstable : s.trigger.armedReason = some .stableObject
  · rw [if_pos hstable, modifyWait, update_bind_apply, readied, if_pos hstable]
  · rw [if_neg hstable, ret_bind_apply, readied, if_neg hstable]

theorem detectRolloutTrigger_unarmed (hardDeadline readyAt : D) (ticks : List (Tick D))
    {s : WaitState D} (hnone : s.trigger.armedReason = none) :
    detectRolloutTrigger hypot config hardDeadline readyAt ticks s =
      (.error (liveObservationError
        "throw trigger detection requires a completed pre-arm phase"), s, []) := by
  unfold detectRolloutTrigger
  rw [read_bind_apply, check, if_pos hnone]
  rfl

theorem ArmedRightly.reason {before : List (Processed D)} {f : Processed D}
    (h : ArmedRightly hypot config before f) :
    ∃ reason, f.armedReason = some reason ∧
      (config.tabletopReleaseHeightGate.isSome = true → reason = .stableObject) := by
  rcases h with ⟨hreason, hallowed, -⟩ | ⟨hreason, -⟩
  · refine ⟨.emptyField, hreason, fun hgate => ?_⟩
    rw [config.gate_without_entry hgate] at hallowed
    cases hallowed
  · exact ⟨.stableObject, hreason, fun _ => rfl⟩

/-- **A detect phase after a wait that is not armed** reports nothing. -/
theorem Unarmed.detect {s : WaitState D} {t : List (Processed D)} (h : Unarmed s t)
    (detectBy readyAt : D) (detecting : List (Tick D)) :
    ArmedOnceRightly hypot config
        (t ++ (detectRolloutTrigger hypot config detectBy readyAt detecting s).2.2) ∧
      ∀ r, (detectRolloutTrigger hypot config detectBy readyAt detecting s).1 ≠ .ok (some r) := by
  rw [detectRolloutTrigger_unarmed detectBy readyAt detecting h.1, List.append_nil]
  exact ⟨armedOnceRightly_of_noArming h.2, fun _ hr => by cases hr⟩

/-- What the detect phase reports of a wait that was prepared by the frames `t`. -/
def ReportsRightly (hypot : D → D → D) (config : ThrownRolloutTriggerConfig D)
    (t : List (Processed D)) (r : TriggerResult D) (t' : List (Processed D)) : Prop :=
  ∃ reason d, r = .detected d ∧
    (∃ f ∈ t, f.decision.armedNow = true ∧ f.armedReason = some reason) ∧
    (config.tabletopReleaseHeightGate.isSome = true → reason = .stableObject) ∧
    DetectedRightly hypot config reason d t'

/-- **A detect phase after a wait that is prepared** arms nothing and reports rightly. -/
theorem Prepared.detect {r : TriggerResult D} {s : WaitState D} {t : List (Processed D)}
    (h : Prepared hypot config r s t) (detectBy readyAt : D) (detecting : List (Tick D)) :
    ArmedOnceRightly hypot config
        (t ++ (detectRolloutTrigger hypot config detectBy readyAt detecting s).2.2) ∧
      ∀ r, (detectRolloutTrigger hypot config detectBy readyAt detecting s).1 = .ok (some r) →
        ReportsRightly hypot config t r
          (detectRolloutTrigger hypot config detectBy readyAt detecting s).2.2 := by
  obtain ⟨before, f, rfl, hbefore, harms, hrightly, hsame, -⟩ := h.reports
  obtain ⟨reason, hreason, hgate⟩ := hrightly.reason
  have hready : Ready reason s := ⟨hsame.trans hreason, h.noMotion, h.noCount⟩
  have hdetect : wp (detectRolloutTrigger hypot config detectBy readyAt detecting)
      (DetectOutcome hypot config reason) NoArming s [] :=
    wp_detectRolloutTrigger detectBy readyAt detecting hready
  have hresult : (∀ g ∈ (detectRolloutTrigger hypot config detectBy readyAt detecting s).2.2,
        g.decision.armedNow = false) ∧
      ∀ r, (detectRolloutTrigger hypot config detectBy readyAt detecting s).1 = .ok (some r) →
        ∃ d, r = .detected d ∧ DetectedRightly hypot config reason d
          (detectRolloutTrigger hypot config detectBy readyAt detecting s).2.2 := by
    refine wp_result (t := []) (P := fun outcome _ t' =>
        (∀ g ∈ t', g.decision.armedNow = false) ∧ ∀ r, outcome = .ok (some r) →
          ∃ d, r = .detected d ∧ DetectedRightly hypot config reason d t')
      (wp_mono hdetect (fun reported s' t' hr => ?_) fun e s' t' hquiet => ?_)
    · cases reported with
      | none => exact ⟨hr.noArming, fun r hr => by cases hr⟩
      | some r =>
        refine ⟨hr.2, fun r' hr' => ?_⟩
        cases hr'
        exact hr.1
    · exact ⟨hquiet, fun r hr => by cases hr⟩
  constructor
  · rw [List.append_assoc]
    exact armedOnceRightly_of_frame hbefore hrightly hresult.1
  · intro r hr
    obtain ⟨d, hd, hdetected⟩ := hresult.2 r hr
    exact ⟨reason, d, hd, ⟨f, by simp, harms, hreason⟩, hgate, hdetected⟩

/-- **Trigger admission.** For every sequence of frames, clock readings and stop requests: the
trigger is armed at most once, rightly; the prepare phase reports nothing but that; the detect phase
reports only what an armed trigger detects rightly; and both report in time. -/
theorem throw_trigger_admission (hypot : D → D → D) (config : ThrownRolloutTriggerConfig D)
    (started prepareBy readyAt detectBy : D) (preparing detecting : List (Tick D)) :
    let prepared := prepareRolloutTrigger hypot config prepareBy preparing (.init config started)
    let detected := detectRolloutTrigger hypot config detectBy readyAt detecting prepared.2.1
    ArmedOnceRightly hypot config (prepared.2.2 ++ detected.2.2) ∧
    (∀ r, prepared.1 = .ok (some r) → Prepared hypot config r prepared.2.1 prepared.2.2) ∧
    ReportsInTime hypot config true false prepareBy (started + config.maximumWaitS) preparing
      (.init config started) ∧
    ∀ r, detected.1 = .ok (some r) →
      ReportsRightly hypot config prepared.2.2 r detected.2.2 ∧
      detected = waitForRolloutTriggerPhase hypot config false true detectBy detecting
        (readied readyAt prepared.2.1) ∧
      ReportsInTime hypot config false true detectBy (started + config.maximumWaitS) detecting
        (readied readyAt prepared.2.1) := by
  intro prepared detected
  have hdeadline : prepared.2.1.configuredDeadlineMonotonicS = started + config.maximumWaitS :=
    wp_outcome (keeps_waitForRolloutTriggerPhase hypot config true false
      prepareBy preparing (.init config started) [] rfl)
  have hprepare : wp (prepareRolloutTrigger hypot config prepareBy preparing)
      (PrepareOutcome hypot config) (fun _ s t => Unarmed s t) (.init config started) [] :=
    wp_prepareRolloutTrigger prepareBy preparing ⟨watching_init, rfl, rfl⟩
  have hphase : (Unarmed prepared.2.1 prepared.2.2 ∧ ∀ r, prepared.1 ≠ .ok (some r)) ∨
      ∃ r, prepared.1 = .ok (some r) ∧ Prepared hypot config r prepared.2.1 prepared.2.2 := by
    refine wp_result (t := []) (P := fun outcome s t =>
        (Unarmed s t ∧ ∀ r, outcome ≠ .ok (some r)) ∨
          ∃ r, outcome = .ok (some r) ∧ Prepared hypot config r s t)
      (wp_mono hprepare (fun reported s t hr => ?_) fun e s t hr => ?_)
    · cases reported with
      | none => exact .inl ⟨hr.unarmed, fun r hr => by cases hr⟩
      | some r => exact .inr ⟨r, rfl, hr⟩
    · exact .inl ⟨hr, fun r hr => by cases hr⟩
  refine ⟨?_, ?_, reportsInTime true false prepareBy preparing rfl, ?_⟩
  · rcases hphase with ⟨hunarmed, -⟩ | ⟨r, -, hr⟩
    · exact (hunarmed.detect detectBy readyAt detecting).1
    · exact (hr.detect detectBy readyAt detecting).1
  · intro r hr
    rcases hphase with ⟨-, hnone⟩ | ⟨r', hr', hprepared⟩
    · exact absurd hr (hnone r)
    · rw [hr] at hr'
      cases hr'
      exact hprepared
  · intro r hr
    rcases hphase with ⟨hunarmed, -⟩ | ⟨r', -, hr'⟩
    · exact absurd hr ((hunarmed.detect detectBy readyAt detecting).2 r)
    · obtain ⟨before, f, -, -, -, hrightly, hsame, -⟩ := hr'.reports
      obtain ⟨reason, hreason, -⟩ := hrightly.reason
      have harmed : prepared.2.1.trigger.armedReason ≠ none := by
        rw [hsame, hreason]
        exact Option.some_ne_none _
      exact ⟨(hr'.detect detectBy readyAt detecting).2 r hr,
        detectRolloutTrigger_eq detectBy readyAt detecting harmed,
        reportsInTime false true detectBy detecting hdeadline⟩

def entryConfig : ThrownRolloutTriggerConfig ℚ where
  mode := "absent_entry_or_fast_motion"
  maximumWaitS := 60
  minimumMaskAreaPx := 1
  absentArmFrames := 2
  stableArmFrames := 3
  stableMaxCentroidSpeedPxS := 10
  triggerMinCentroidSpeedPxS := 100
  triggerMinDisplacementPx := 5
  minimumAreaRatio := 1 / 2
  maximumAreaRatio := 2
  allowAbsentEntry := true
  tabletopReleaseHeightGate := none
  area_positive := Nat.one_pos
  frames_positive := by decide
  gate_without_entry := fun h => by cases h

def entryTick (frame : ℤ) (pixels : List (ℕ × ℕ)) : Tick ℚ where
  stopRequested := false
  now := frame
  camera := .ok ⟨frame, frame, ⟨2, pixels⟩, true, none, false⟩
  motionAt := frame
  motionHeight := .ok none
  height := .ok none
  reportedAt := frame
  waited := .ok ()

-- an object that enters after two absent frames
example : (match (detectRolloutTrigger (fun x y => x + y) entryConfig 60 3 [entryTick 3 [(0, 0)]]
      (prepareRolloutTrigger (fun x y => x + y) entryConfig 60 [entryTick 1 [], entryTick 2 []]
        (.init entryConfig 0)).2.1).1 with
    | .ok (some (.detected d)) => d.reason
    | _ => none) = some .absentToVisibleEntry := by
  decide +kernel

end FrankaDeploy.LiveObservation
