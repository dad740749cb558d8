import FrankaDeploy.Foundation.Monitor
import FrankaDeploy.Rh56Owner.PhysicalTracking

/-! # The law of physical tracking

Over every sequence of committed targets and feedback samples: a verified axis stays verified and is
not challenged again, a failed axis stays failed, targets that press in the direction of a challenge
leave its window as it is, and a window without progress fails with the first sample at or after its
deadline. -/

namespace FrankaDeploy.Rh56Owner

open FrankaDeploy.Foundation FrankaDeploy.Foundation.Monitor FrankaDeploy.Rh56
open scoped FloatArith

variable {D : Type} [FloatArith D]

/-! ## Runs -/

inductive TrackingStep (D : Type) [FloatArith D] where
  | target (targets : SixIntegers) (now : D)
  | feedback (sample : RH56SafetyFeedback D) (cached realtime : D)

def Tracking.step (C : TrackingConfig D) (s : Tracking D) :
    TrackingStep D → Except PyException Unit × Tracking D
  | .target targets now =>
    match s.register C targets now with
    | .ok s' => (.ok (), s')
    | .error e => (.error e, s)
  | .feedback sample cached realtime => s.cacheFeedback C sample cached realtime

/-- **A run of the tracking**: what it has become, and the exception that has ended it. -/
structure TrackingRun (D : Type) [FloatArith D] where
  tracking : Tracking D
  raised : Option PyException

def TrackingRun.perform (C : TrackingConfig D) (run : TrackingRun D) (step : TrackingStep D) :
    TrackingRun D :=
  match run.raised with
  | some _ => run
  | none =>
    match run.tracking.step C step with
    | (.ok _, s) => ⟨s, none⟩
    | (.error e, s) => ⟨s, some e⟩

/-- **The run of a sequence of steps.** -/
def track (C : TrackingConfig D) (steps : List (TrackingStep D)) : TrackingRun D :=
  steps.foldl (TrackingRun.perform C) ⟨.init, none⟩

theorem track_snoc (C : TrackingConfig D) (steps : List (TrackingStep D)) (step : TrackingStep D) :
    track C (steps ++ [step]) = (track C steps).perform C step := by
  rw [track, List.foldl_append]
  rfl

/-! ## Axes -/

variable {C : TrackingConfig D} {a : AxisTracking D} {feedback : AxisFeedback}
  {previous : Option ℤ} {target : ℤ} {now : D}

/-- **A sound axis**: a verified axis is challenged, has no window and has not failed. -/
structure AxisTracking.Sound (a : AxisTracking D) : Prop where
  challenged : a.verified = true → a.challenged = true
  inactive : a.verified = true → a.active = false
  active : a.active = true → a.challenged = true
  exclusive : a.verified = true → a.failed = false

def AxisTracking.withStream (a : AxisTracking D) (active : Bool) (direction baseline : ℤ) :
    AxisTracking D :=
  { a with
    forceEpochActive := active
    forceEpochDirection := direction
    forceEpochBaselineG := baseline }

omit [FloatArith D] in
theorem AxisTracking.noteStream_eq (a : AxisTracking D) (feedback : AxisFeedback)
    (previous : Option ℤ) (target : ℤ) :
    ∃ active direction baseline,
      a.noteStream feedback previous target = a.withStream active direction baseline := by
  cases previous with
  | none => exact ⟨_, _, _, rfl⟩
  | some previous =>
    unfold noteStream
    dsimp only
    split
    · exact ⟨_, _, _, rfl⟩
    · exact ⟨_, _, _, rfl⟩

/-- **What a target does to an axis**, by its gap. -/
inductive AxisTracking.Registered (C : TrackingConfig D) (a : AxisTracking D)
    (feedback : AxisFeedback) (gap : ℤ) (now : D) : AxisTracking D → Prop where
  | withdrawn (active : Bool) (direction baseline : ℤ) (hgap : |gap| < C.significantGapUnits) :
      Registered C a feedback gap now
        { a.withStream active direction baseline with active := false, direction := 0 }
  /-- A target that moves toward the measured angle challenges nothing. -/
  | approaching (active : Bool) (direction baseline : ℤ) (hfirst : a.challenged = false) :
      Registered C a feedback gap now (a.withStream active direction baseline)
  | proven (active : Bool) (direction baseline : ℤ) (hverified : a.verified = true) :
      Registered C a feedback gap now
        { a.withStream active direction baseline with
          challenged := true, active := false, direction := 0 }
  | kept (active : Bool) (direction baseline : ℤ) (hactive : a.active = true)
      (hdirection : a.direction = directionOf gap) :
      Registered C a feedback gap now
        { a.withStream active direction baseline with challenged := true }
  | opened (active : Bool) (direction baseline : ℤ) (hverified : a.verified = false)
      (hnew : a.active = false ∨ a.direction ≠ directionOf gap) :
      Registered C a feedback gap now
        (({ a.withStream active direction baseline with challenged := true }).openWindow C feedback
          (directionOf gap) now)

theorem AxisTracking.registered (C : TrackingConfig D) (a : AxisTracking D)
    (feedback : AxisFeedback) (previous : Option ℤ) (target : ℤ) (now : D) :
    a.Registered C feedback (target - feedback.angle) now
      (a.register C feedback previous target now) := by
  obtain ⟨active, direction, baseline, hstream⟩ := a.noteStream_eq feedback previous target
  unfold register
  rw [hstream]
  generalize hb : a.withStream active direction baseline = b
  have hchallenged : b.challenged = a.challenged := by rw [← hb]; rfl
  have hverified' : b.verified = a.verified := by rw [← hb]; rfl
  have hactive' : b.active = a.active := by rw [← hb]; rfl
  have hdirection' : b.direction = a.direction := by rw [← hb]; rfl
  dsimp only
  rw [hchallenged, hverified', hactive', hdirection']
  by_cases hgap : |target - feedback.angle| < C.significantGapUnits
  · rw [if_pos hgap, ← hb]
    exact .withdrawn active direction baseline hgap
  rw [if_neg hgap]
  by_cases hfirst : a.challenged = false ∧ approaches previous target feedback.angle = true
  · rw [if_pos hfirst, ← hb]
    exact .approaching active direction baseline hfirst.1
  rw [if_neg hfirst]
  by_cases hverified : a.verified = true
  · rw [if_pos hverified, ← hb]
    exact .proven active direction baseline hverified
  rw [if_neg hverified]
  by_cases hnew : a.active = false ∨ a.direction ≠ directionOf (target - feedback.angle)
  · rw [if_pos hnew, ← hb]
    exact .opened active direction baseline (by simpa using hverified) hnew
  · rw [if_neg hnew, ← hb]
    obtain ⟨hactive, hdirection⟩ := not_or.mp hnew
    exact .kept active direction baseline (by simpa using hactive) (not_not.mp hdirection)

theorem AxisTracking.Registered.flags {gap : ℤ} {b : AxisTracking D}
    (h : a.Registered C feedback gap now b) : b.verified = a.verified ∧ b.failed = a.failed := by
  cases h with
  | withdrawn | approaching | proven | kept | opened => exact ⟨rfl, rfl⟩

theorem AxisTracking.Registered.sound {gap : ℤ} {b : AxisTracking D}
    (h : a.Registered C feedback gap now b) (hsound : a.Sound) : b.Sound := by
  have hexclusive : b.verified = true → b.failed = false := by
    rw [h.flags.1, h.flags.2]
    exact hsound.exclusive
  cases h with
  | withdrawn => exact ⟨hsound.challenged, fun _ => rfl, fun h => (by cases h), hexclusive⟩
  | approaching => exact ⟨hsound.challenged, hsound.inactive, hsound.active, hexclusive⟩
  | proven => exact ⟨fun _ => rfl, fun _ => rfl, fun _ => rfl, hexclusive⟩
  | kept => exact ⟨fun _ => rfl, hsound.inactive, fun _ => rfl, hexclusive⟩
  | opened active direction baseline hverified hnew =>
    refine ⟨fun _ => rfl, fun hverified' => ?_, fun _ => rfl, hexclusive⟩
    exact absurd (hverified'.symm.trans hverified) (by decide)

/-- **The same window**: the same direction, baselines and deadline. -/
structure SameWindow (a b : AxisTracking D) : Prop where
  active : b.active = a.active
  direction : b.direction = a.direction
  baselineAngle : b.baselineAngle = a.baselineAngle
  baselinePosition : b.baselinePosition = a.baselinePosition
  baselineForceG : b.baselineForceG = a.baselineForceG
  deadlineS : b.deadlineS = a.deadlineS

theorem AxisTracking.Registered.sameWindow {gap : ℤ} {b : AxisTracking D}
    (h : a.Registered C feedback gap now b) (hsound : a.Sound) (hactive : a.active = true)
    (hgap : C.significantGapUnits ≤ |gap|) (hdirection : a.direction = directionOf gap) :
    SameWindow a b := by
  cases h with
  | withdrawn active direction baseline hsmall => exact absurd hsmall (not_lt.mpr hgap)
  | approaching => exact ⟨rfl, rfl, rfl, rfl, rfl, rfl⟩
  | proven active direction baseline hverified =>
    exact absurd ((hsound.inactive hverified).symm.trans hactive) (by decide)
  | kept => exact ⟨rfl, rfl, rfl, rfl, rfl, rfl⟩
  | opened active direction baseline hverified hnew =>
    rcases hnew with hnew | hnew
    · exact absurd (hnew.symm.trans hactive) (by decide)
    · exact absurd hdirection hnew

/-- **What a sample does to an axis.** -/
inductive AxisTracking.Evaluated (C : TrackingConfig D) (a : AxisTracking D)
    (feedback : AxisFeedback) (now : D) : AxisTracking D → Prop where
  /-- Nothing, where the window is not over or where there is none. -/
  | left (h : a.active = false ∨ a.progressed C feedback = false ∧ ¬a.deadlineS ≤ now) :
      Evaluated C a feedback now a
  | verified (hactive : a.active = true) (hprogress : a.progressed C feedback = true) :
      Evaluated C a feedback now
        { a with
          verified := true, contactVerified := a.contact C feedback, active := false,
          direction := 0 }
  | failed (hexpires : a.expires C feedback now = true) :
      Evaluated C a feedback now { a with failed := true, active := false }

theorem AxisTracking.evaluated (C : TrackingConfig D) (a : AxisTracking D)
    (feedback : AxisFeedback) (now : D) :
    a.Evaluated C feedback now (a.evaluate C feedback now) := by
  unfold evaluate
  by_cases hactive : a.active = false
  · rw [if_pos hactive]
    exact .left (.inl hactive)
  rw [if_neg hactive]
  by_cases hprogress : a.progressed C feedback = true
  · rw [if_pos hprogress]
    exact .verified (by simpa using hactive) hprogress
  rw [if_neg hprogress]
  by_cases hdeadline : a.deadlineS ≤ now
  · rw [if_pos hdeadline]
    refine .failed ?_
    simp only [expires, Bool.and_eq_true, Bool.not_eq_true', decide_eq_true_eq]
    exact ⟨⟨by simpa using hactive, by simpa using hprogress⟩, hdeadline⟩
  · rw [if_neg hdeadline]
    exact .left (.inr ⟨by simpa using hprogress, hdeadline⟩)

theorem AxisTracking.evaluate_expires {a : AxisTracking D}
    (h : a.expires C feedback now = true) :
    a.evaluate C feedback now = { a with failed := true, active := false } := by
  simp only [expires, Bool.and_eq_true, Bool.not_eq_true', decide_eq_true_eq] at h
  unfold evaluate
  rw [if_neg (by simp [h.1.1]), if_neg (by simp [h.1.2]), if_pos h.2]

theorem AxisTracking.Evaluated.sound {b : AxisTracking D} (h : a.Evaluated C feedback now b)
    (hsound : a.Sound) (hfailed : a.failed = false) : b.Sound := by
  cases h with
  | left => exact hsound
  | verified hactive =>
    exact ⟨fun _ => hsound.active hactive, fun _ => rfl, fun h => (by cases h), fun _ => hfailed⟩
  | failed hexpires =>
    simp only [AxisTracking.expires, Bool.and_eq_true] at hexpires
    refine ⟨hsound.challenged, fun _ => rfl, fun h => (by cases h), fun hverified => ?_⟩
    exact absurd ((hsound.inactive hverified).symm.trans hexpires.1.1) (by decide)

/-! ## The tracking -/

variable {s s' : Tracking D} {run : TrackingRun D} {step : TrackingStep D} {axis : Fin 6}

/-- **A sound run**: its axes are sound, and none has failed before an exception ended it. -/
structure TrackingRun.Sound (run : TrackingRun D) : Prop where
  axes : ∀ axis, (run.tracking.axes axis).Sound
  failed : run.raised = none → ∀ axis, (run.tracking.axes axis).failed = false
  targeted : ∀ axis, (run.tracking.axes axis).active = true → run.tracking.latestTarget ≠ none

/-- **What a step does to an axis** of a run that goes on. -/
inductive AxisStep (C : TrackingConfig D) (s : Tracking D) (axis : Fin 6) :
    TrackingStep D → AxisTracking D → Prop where
  | refused (step : TrackingStep D) : AxisStep C s axis step (s.axes axis)
  | registered (targets : SixIntegers) (now : D) (feedback : RH56SafetyFeedback D)
      (b : AxisTracking D) (hlatest : s.latestFeedback = some feedback)
      (h : (s.axes axis).Registered C (axisFeedback feedback axis)
        (targets axis - feedback.angles axis) now b) :
      AxisStep C s axis (.target targets now) b
  | evaluated (feedback : RH56SafetyFeedback D) (cached realtime : D) (b : AxisTracking D)
      (h : (s.axes axis).Evaluated C (axisFeedback feedback axis) feedback.capturedMonotonicS b) :
      AxisStep C s axis (.feedback feedback cached realtime) b

theorem axisStep (C : TrackingConfig D) (s : Tracking D) (axis : Fin 6) (step : TrackingStep D) :
    AxisStep C s axis step ((s.step C step).2.axes axis) := by
  cases step with
  | target targets now =>
    unfold Tracking.step Tracking.register
    dsimp only
    by_cases hfinite : FloatArith.isFinite now = false
    · rw [if_pos hfinite]
      exact .refused _
    rw [if_neg hfinite]
    cases hlatest : s.latestFeedback with
    | none => exact .refused _
    | some feedback =>
      exact .registered targets now feedback _ hlatest (AxisTracking.registered ..)
  | feedback sample cached realtime =>
    unfold Tracking.step Tracking.cacheFeedback
    dsimp only
    split
    · exact .refused _
    split
    · exact .refused _
    split
    · exact .refused _
    unfold Tracking.evaluate
    cases hlatest : s.latestTarget with
    | none => exact .refused _
    | some targets =>
      dsimp only
      split
      · exact .evaluated sample cached realtime _ (AxisTracking.evaluated ..)
      · exact .evaluated sample cached realtime _ (AxisTracking.evaluated ..)

theorem evaluate_failed {feedback : RH56SafetyFeedback D} (hok : (s.evaluate C feedback).1 = .ok ())
    (hfailed : (s.axes axis).failed = false) :
    ((s.evaluate C feedback).2.axes axis).failed = false := by
  unfold Tracking.evaluate at hok ⊢
  cases htarget : s.latestTarget with
  | none => exact hfailed
  | some targets =>
    rw [htarget] at hok
    dsimp only at hok ⊢
    by_cases hempty : s.failureAxes C feedback = []
    · rw [if_pos hempty]
      have hexpires : (s.axes axis).expires C (axisFeedback feedback axis)
          feedback.capturedMonotonicS = false := by
        have hnot := List.filter_eq_nil_iff.mp hempty axis (List.mem_finRange axis)
        simpa using hnot
      have hevaluated := (s.axes axis).evaluated C (axisFeedback feedback axis)
        feedback.capturedMonotonicS
      dsimp only
      generalize (s.axes axis).evaluate C (axisFeedback feedback axis)
        feedback.capturedMonotonicS = b at hevaluated ⊢
      cases hevaluated with
      | left => exact hfailed
      | verified => exact hfailed
      | failed h => exact absurd (h.symm.trans hexpires) (by decide)
    · rw [if_neg hempty] at hok
      cases hok

def Admits (sample : RH56SafetyFeedback D) (cached realtime : D) : Prop :=
  ¬cached - sample.capturedMonotonicS < FloatArith.zero ∧
    FloatArith.isFinite (realtime - (cached - sample.capturedMonotonicS)) = true ∧
    ¬cached < sample.capturedMonotonicS

theorem cacheFeedback_of_admits {sample : RH56SafetyFeedback D} {cached realtime : D}
    (h : Admits sample cached realtime) : s.cacheFeedback C sample cached realtime =
      { s with latestFeedback := some sample }.evaluate C sample := by
  unfold Tracking.cacheFeedback
  dsimp only
  rw [if_neg h.1, if_neg (by simp [h.2.1]), if_neg h.2.2]

theorem cacheFeedback_of_not_admits {sample : RH56SafetyFeedback D} {cached realtime : D}
    (h : ¬Admits sample cached realtime) :
    ∃ e, s.cacheFeedback C sample cached realtime = (.error e, s) := by
  unfold Tracking.cacheFeedback
  dsimp only
  by_cases hfuture : cached - sample.capturedMonotonicS < FloatArith.zero
  · rw [if_pos hfuture]
    exact ⟨_, rfl⟩
  rw [if_neg hfuture]
  by_cases hrealtime : FloatArith.isFinite (realtime - (cached - sample.capturedMonotonicS)) = false
  · rw [if_pos hrealtime]
    exact ⟨_, rfl⟩
  rw [if_neg hrealtime]
  by_cases hcached : cached < sample.capturedMonotonicS
  · rw [if_pos hcached]
    exact ⟨_, rfl⟩
  · exact absurd ⟨hfuture, by simpa using hrealtime, hcached⟩ h

theorem step_failed (hok : (s.step C step).1 = .ok ()) (hfailed : (s.axes axis).failed = false) :
    ((s.step C step).2.axes axis).failed = false := by
  cases step with
  | target targets now =>
    have hstep := axisStep C s axis (.target targets now)
    generalize (s.step C (.target targets now)).2.axes axis = b at hstep ⊢
    cases hstep with
    | refused => exact hfailed
    | registered _ _ _ _ _ h => exact h.flags.2.trans hfailed
  | feedback sample cached realtime =>
    unfold Tracking.step at hok ⊢
    by_cases hadmits : Admits sample cached realtime
    · simp only [cacheFeedback_of_admits hadmits] at hok ⊢
      exact evaluate_failed hok hfailed
    · obtain ⟨e, herror⟩ := cacheFeedback_of_not_admits (C := C) (s := s) hadmits
      simp only [herror] at hok
      cases hok

theorem step_targeted
    (h : ∀ axis, (s.axes axis).active = true → s.latestTarget ≠ none) (step : TrackingStep D)
    (axis : Fin 6) (hactive : ((s.step C step).2.axes axis).active = true) :
    (s.step C step).2.latestTarget ≠ none := by
  cases step with
  | target targets now =>
    unfold Tracking.step at hactive ⊢
    cases hregister : s.register C targets now with
    | error e =>
      simp only [hregister] at hactive ⊢
      exact h axis hactive
    | ok s' =>
      simp only
      rw [hregister]
      unfold Tracking.register at hregister
      split at hregister
      · cases hregister
      cases hlatest : s.latestFeedback with
      | none => simp only [hlatest] at hregister; cases hregister
      | some feedback =>
        simp only [hlatest] at hregister
        cases hregister
        exact Option.some_ne_none targets
  | feedback sample cached realtime =>
    unfold Tracking.step at hactive ⊢
    by_cases hadmits : Admits sample cached realtime
    · simp only [cacheFeedback_of_admits hadmits] at hactive ⊢
      unfold Tracking.evaluate at hactive ⊢
      cases htarget : s.latestTarget with
      | none =>
        simp only [htarget] at hactive
        exact absurd htarget (h axis hactive)
      | some targets =>
        dsimp only
        split
        · exact Option.some_ne_none targets
        · exact Option.some_ne_none targets
    · obtain ⟨e, herror⟩ := cacheFeedback_of_not_admits (C := C) (s := s) hadmits
      simp only [herror] at hactive ⊢
      exact h axis hactive

theorem AxisStep.sound {b : AxisTracking D} (h : AxisStep C s axis step b)
    (hsound : (s.axes axis).Sound) (hfailed : (s.axes axis).failed = false) : b.Sound := by
  cases h with
  | refused => exact hsound
  | registered _ _ _ _ _ h => exact h.sound hsound
  | evaluated _ _ _ _ h => exact h.sound hsound hfailed

theorem TrackingRun.Sound.perform (h : run.Sound) (step : TrackingStep D) :
    (run.perform C step).Sound := by
  unfold TrackingRun.perform
  cases hraised : run.raised with
  | some e => exact h
  | none =>
    have hfailed := h.failed hraised
    have haxes : ∀ axis, ((run.tracking.step C step).2.axes axis).Sound := by
      intro axis
      exact (axisStep C run.tracking axis step).sound (h.axes axis) (hfailed axis)
    have htargeted := step_targeted (C := C) h.targeted step
    generalize houtcome : run.tracking.step C step = outcome at haxes htargeted
    obtain ⟨result, s⟩ := outcome
    cases result with
    | ok u =>
      refine ⟨haxes, fun _ axis => ?_, htargeted⟩
      have hok : (run.tracking.step C step).1 = .ok () := by rw [houtcome]
      have hstep := step_failed hok (hfailed axis)
      rwa [houtcome] at hstep
    | error e => exact ⟨haxes, fun hnone => (by cases hnone), htargeted⟩

theorem track_sound (C : TrackingConfig D) (steps : List (TrackingStep D)) :
    (track C steps).Sound := by
  induction steps using List.reverseRecOn with
  | nil =>
    refine ⟨fun axis => ⟨fun h => ?_, fun h => ?_, fun h => ?_, fun h => ?_⟩, fun _ _ => rfl,
      fun axis h => ?_⟩
    all_goals cases h
  | append_singleton steps step ih =>
    rw [track_snoc]
    exact ih.perform step

theorem perform_axis (run : TrackingRun D) (step : TrackingStep D) (axis : Fin 6) :
    AxisStep C run.tracking axis step ((run.perform C step).tracking.axes axis) := by
  unfold TrackingRun.perform
  cases run.raised with
  | some e => exact .refused step
  | none =>
    have hstep := axisStep C run.tracking axis step
    generalize run.tracking.step C step = outcome at hstep ⊢
    obtain ⟨result, s⟩ := outcome
    cases result with
    | ok u => exact hstep
    | error e => exact hstep

/-! ## The laws of a step -/

theorem AxisStep.verified {b : AxisTracking D} (h : AxisStep C s axis step b)
    (hverified : (s.axes axis).verified = true) : b.verified = true := by
  cases h with
  | refused => exact hverified
  | registered _ _ _ _ _ h => exact h.flags.1.trans hverified
  | evaluated _ _ _ _ h =>
    cases h with
    | left => exact hverified
    | verified => rfl
    | failed => exact hverified

theorem AxisStep.failed {b : AxisTracking D} (h : AxisStep C s axis step b)
    (hfailed : (s.axes axis).failed = true) : b.failed = true := by
  cases h with
  | refused => exact hfailed
  | registered _ _ _ _ _ h => exact h.flags.2.trans hfailed
  | evaluated _ _ _ _ h =>
    cases h with
    | left => exact hfailed
    | verified => exact hfailed
    | failed => rfl

/-- **The step presses** in a direction: a target keeps a significant gap to the last sample in it. -/
def Presses (C : TrackingConfig D) (direction : ℤ) (axis : Fin 6) (s : Tracking D) :
    TrackingStep D → Prop
  | .target targets _ => ∀ feedback, s.latestFeedback = some feedback →
      C.significantGapUnits ≤ |targets axis - feedback.angles axis| ∧
        direction = directionOf (targets axis - feedback.angles axis)
  | .feedback _ _ _ => True

/-- **The step stalls** a window: a sample shows no progress, and the window is not over. -/
def Stalls (C : TrackingConfig D) (a : AxisTracking D) (axis : Fin 6) : TrackingStep D → Prop
  | .target _ _ => True
  | .feedback sample _ _ => a.progressed C (axisFeedback sample axis) = false ∧
      ¬a.deadlineS ≤ sample.capturedMonotonicS

theorem AxisStep.window {b : AxisTracking D} (h : AxisStep C s axis step b)
    (hsound : (s.axes axis).Sound) (hactive : (s.axes axis).active = true)
    (hpresses : Presses C (s.axes axis).direction axis s step) :
    b.verified = true ∨ b.failed = true ∨ SameWindow (s.axes axis) b := by
  cases h with
  | refused => exact .inr (.inr ⟨rfl, rfl, rfl, rfl, rfl, rfl⟩)
  | registered targets now feedback _ hlatest h =>
    obtain ⟨hgap, hdirection⟩ := hpresses feedback hlatest
    exact .inr (.inr (h.sameWindow hsound hactive hgap hdirection))
  | evaluated _ _ _ _ h =>
    cases h with
    | left => exact .inr (.inr ⟨rfl, rfl, rfl, rfl, rfl, rfl⟩)
    | verified => exact .inl rfl
    | failed => exact .inr (.inl rfl)

omit [FloatArith D] in
theorem SameWindow.trans {a b c : AxisTracking D} (h : SameWindow a b) (h' : SameWindow b c) :
    SameWindow a c :=
  ⟨h'.active.trans h.active, h'.direction.trans h.direction,
    h'.baselineAngle.trans h.baselineAngle, h'.baselinePosition.trans h.baselinePosition,
    h'.baselineForceG.trans h.baselineForceG, h'.deadlineS.trans h.deadlineS⟩

theorem SameWindow.progressed {a b : AxisTracking D} (h : SameWindow a b)
    (feedback : AxisFeedback) : b.progressed C feedback = a.progressed C feedback := by
  unfold AxisTracking.progressed AxisTracking.contact
  rw [h.direction, h.baselineAngle, h.baselinePosition, h.baselineForceG]

theorem AxisStep.stalled {a b : AxisTracking D} (h : AxisStep C s axis step b)
    (hsame : SameWindow a (s.axes axis)) (hsound : (s.axes axis).Sound) (hactive : a.active = true)
    (hpresses : Presses C a.direction axis s step) (hstalls : Stalls C a axis step) :
    SameWindow a b := by
  cases h with
  | refused => exact hsame
  | registered targets now feedback _ hlatest h =>
    obtain ⟨hgap, hdirection⟩ := hpresses feedback hlatest
    exact hsame.trans (h.sameWindow hsound (hsame.active.trans hactive) hgap
      (hsame.direction.trans hdirection))
  | evaluated sample _ _ _ h =>
    obtain ⟨hprogress, hdeadline⟩ := hstalls
    have hprogress' := (hsame.progressed (C := C) (axisFeedback sample axis)).trans hprogress
    cases h with
    | left => exact hsame
    | verified _ h => exact absurd (h.symm.trans hprogress') (by decide)
    | failed h =>
      simp only [AxisTracking.expires, Bool.and_eq_true, decide_eq_true_eq] at h
      exact absurd (hsame.deadlineS ▸ h.2) hdeadline

/-! ## The law of a run -/

/-- **The law of an axis** between two points of a run. -/
structure TrackingLaw (C : TrackingConfig D) (pre post : List (TrackingStep D)) (axis : Fin 6) :
    Prop where
  verified : ((track C pre).tracking.axes axis).verified = true →
    ((track C (pre ++ post)).tracking.axes axis).verified = true ∧
      ((track C (pre ++ post)).tracking.axes axis).failed = false ∧
      ((track C (pre ++ post)).tracking.axes axis).active = false
  failed : ((track C pre).tracking.axes axis).failed = true →
    ((track C (pre ++ post)).tracking.axes axis).failed = true
  window : ((track C pre).tracking.axes axis).active = true →
    Everywhere (fun before => Presses C ((track C pre).tracking.axes axis).direction axis
      (track C (pre ++ before)).tracking) post →
    ((track C (pre ++ post)).tracking.axes axis).verified = true ∨
      ((track C (pre ++ post)).tracking.axes axis).failed = true ∨
      SameWindow ((track C pre).tracking.axes axis) ((track C (pre ++ post)).tracking.axes axis)
  /-- A window under such targets that sees no progress fails with the first sample at or after
  its deadline. -/
  expiry : ((track C pre).tracking.axes axis).active = true →
    Everywhere (fun before step =>
      Presses C ((track C pre).tracking.axes axis).direction axis
        (track C (pre ++ before)).tracking step ∧
        Stalls C ((track C pre).tracking.axes axis) axis step) post →
    (track C (pre ++ post)).raised = none → ∀ sample cached realtime,
    Admits sample cached realtime →
    ((track C pre).tracking.axes axis).progressed C (axisFeedback sample axis) = false →
    ((track C pre).tracking.axes axis).deadlineS ≤ sample.capturedMonotonicS →
    ((track C (pre ++ post ++ [.feedback sample cached realtime])).tracking.axes axis).failed = true
      ∧ ∃ failed, axis ∈ failed ∧
        (track C (pre ++ post ++ [.feedback sample cached realtime])).raised =
          some (ownerError (failureText C failed))

theorem track_verified (pre post : List (TrackingStep D))
    (h : ((track C pre).tracking.axes axis).verified = true) :
    ((track C (pre ++ post)).tracking.axes axis).verified = true := by
  induction post using List.reverseRecOn with
  | nil => rwa [List.append_nil]
  | append_singleton post step ih =>
    rw [← List.append_assoc, track_snoc]
    exact (perform_axis _ step axis).verified ih

theorem track_failed (pre post : List (TrackingStep D))
    (h : ((track C pre).tracking.axes axis).failed = true) :
    ((track C (pre ++ post)).tracking.axes axis).failed = true := by
  induction post using List.reverseRecOn with
  | nil => rwa [List.append_nil]
  | append_singleton post step ih =>
    rw [← List.append_assoc, track_snoc]
    exact (perform_axis _ step axis).failed ih

theorem track_window (pre post : List (TrackingStep D))
    (hactive : ((track C pre).tracking.axes axis).active = true)
    (hpresses : Everywhere (fun before => Presses C ((track C pre).tracking.axes axis).direction axis
      (track C (pre ++ before)).tracking) post) :
    ((track C (pre ++ post)).tracking.axes axis).verified = true ∨
      ((track C (pre ++ post)).tracking.axes axis).failed = true ∨
      SameWindow ((track C pre).tracking.axes axis) ((track C (pre ++ post)).tracking.axes axis) := by
  induction post using List.reverseRecOn with
  | nil =>
    rw [List.append_nil]
    exact .inr (.inr ⟨rfl, rfl, rfl, rfl, rfl, rfl⟩)
  | append_singleton post step ih =>
    obtain ⟨hbefore, hlast⟩ := hpresses.of_snoc
    rw [← List.append_assoc, track_snoc]
    have hstep := perform_axis (C := C) (track C (pre ++ post)) step axis
    rcases ih hbefore with hverified | hfailed | hsame
    · exact .inl (hstep.verified hverified)
    · exact .inr (.inl (hstep.failed hfailed))
    · have hwindow := hstep.window ((track_sound C (pre ++ post)).axes axis)
        (hsame.active.trans hactive) (by rw [hsame.direction]; exact hlast)
      rcases hwindow with hverified | hfailed | hsame'
      · exact .inl hverified
      · exact .inr (.inl hfailed)
      · exact .inr (.inr (hsame.trans hsame'))

theorem track_stalled (pre post : List (TrackingStep D))
    (hactive : ((track C pre).tracking.axes axis).active = true)
    (hstalls : Everywhere (fun before step =>
      Presses C ((track C pre).tracking.axes axis).direction axis
        (track C (pre ++ before)).tracking step ∧
        Stalls C ((track C pre).tracking.axes axis) axis step) post) :
    SameWindow ((track C pre).tracking.axes axis) ((track C (pre ++ post)).tracking.axes axis) := by
  induction post using List.reverseRecOn with
  | nil =>
    rw [List.append_nil]
    exact ⟨rfl, rfl, rfl, rfl, rfl, rfl⟩
  | append_singleton post step ih =>
    obtain ⟨hbefore, hpresses, hlast⟩ := hstalls.of_snoc
    rw [← List.append_assoc, track_snoc]
    exact (perform_axis _ step axis).stalled (ih hbefore)
      ((track_sound C (pre ++ post)).axes axis) hactive hpresses hlast

theorem evaluate_expires {feedback : RH56SafetyFeedback D} (htarget : s.latestTarget ≠ none)
    (hexpires : (s.axes axis).expires C (axisFeedback feedback axis) feedback.capturedMonotonicS =
      true) :
    ((s.evaluate C feedback).2.axes axis).failed = true ∧
      ∃ failed, axis ∈ failed ∧
        (s.evaluate C feedback).1 = .error (ownerError (failureText C failed)) := by
  have hmem : axis ∈ s.failureAxes C feedback :=
    List.mem_filter.mpr ⟨List.mem_finRange axis, hexpires⟩
  unfold Tracking.evaluate
  obtain ⟨targets, hsome⟩ := Option.ne_none_iff_exists'.mp htarget
  rw [hsome]
  dsimp only
  rw [if_neg (List.ne_nil_of_mem hmem)]
  refine ⟨?_, _, hmem, rfl⟩
  simp only [AxisTracking.evaluate_expires hexpires]

/-- **An admitted sample that ends a window** ends the run. -/
theorem perform_expires (hsound : run.Sound) (hraised : run.raised = none)
    {sample : RH56SafetyFeedback D} {cached realtime : D} (hadmits : Admits sample cached realtime)
    (hexpires : (run.tracking.axes axis).expires C (axisFeedback sample axis)
      sample.capturedMonotonicS = true) :
    ((run.perform C (.feedback sample cached realtime)).tracking.axes axis).failed = true ∧
      ∃ failed, axis ∈ failed ∧ (run.perform C (.feedback sample cached realtime)).raised =
        some (ownerError (failureText C failed)) := by
  have hactive : (run.tracking.axes axis).active = true := by
    simp only [AxisTracking.expires, Bool.and_eq_true] at hexpires
    exact hexpires.1.1
  have hevaluate := evaluate_expires (C := C)
    (s := { run.tracking with latestFeedback := some sample }) (hsound.targeted axis hactive) hexpires
  obtain ⟨hfailed, failed, hmem, herror⟩ := hevaluate
  unfold TrackingRun.perform Tracking.step
  simp only [hraised, cacheFeedback_of_admits hadmits]
  generalize Tracking.evaluate C { run.tracking with latestFeedback := some sample } sample =
    outcome at hfailed herror ⊢
  obtain ⟨result, s⟩ := outcome
  obtain rfl : result = .error (ownerError (failureText C failed)) := herror
  exact ⟨hfailed, failed, hmem, rfl⟩

end FrankaDeploy.Rh56Owner
