import FrankaDeploy.PointCloud.Selection
import FrankaDeploy.Foundation.IeeeMaximum
import FrankaDeploy.Foundation.LastSuch

/-! # The fallback law

What a projector returns over any sequence of calls. What it keeps is what the last fresh call
measured; a fallback returns that cloud, or moves it by the centroid of the current mask, at most
so often and for so long, and no fallback becomes the new reference. -/

namespace FrankaDeploy.PointCloud

open FrankaDeploy.Foundation FrankaDeploy.Foundation.Program FrankaDeploy.Foundation.Monitor
open scoped FloatArith

/-! ## The law -/

section Law

variable {D S : Type} [FloatArith D] [FloatArith S] [FloatCast D S] {n : ℕ}
  (numerics : Numerics D) (config : ProjectorConfig D n)

omit [FloatArith D] [FloatArith S] [FloatCast D S] in
def Projection.status? (p : Projection D S n) : Option Status :=
  match p.result with
  | .ok frame => some frame.status
  | .error _ => none

abbrev Projection.Fresh (p : Projection D S n) : Prop := p.status? = some .fresh

abbrev Projection.Compensated (p : Projection D S n) : Prop := p.status? = some .motionCompensated

abbrev compensatedSince (t : List (Projection D S n)) : ℕ :=
  countSince Projection.Fresh Projection.Compensated t

/-- **A cloud shows samples**: the first points are deprojections of some of them, the others are
not valid. -/
structure Shows (latest : LatestGood D S n) (samples shown : List (Sample S)) : Prop where
  selected : ∀ x ∈ shown, x ∈ samples
  count : shown.length = min samples.length n
  source : latest.frame.sourceValidPoints = samples.length
  validity : ∀ i : Fin n,
    latest.frame.valid i = if (i : ℕ) < shown.length then FloatArith.one else FloatArith.zero
  points : ∀ (i : Fin n) (h : (i : ℕ) < shown.length),
    latest.frame.xyzrgbPalm.xyz i = palmPoint numerics config latest.basePalm (shown.get ⟨i, h⟩)
  depth : latest.depthMedianM = FloatCast.widen (medianDepth (shown.map (·.depthM)))

/-- **What a fresh call has measured.** -/
structure Measured (p : Projection D S n) (latest : LatestGood D S n) : Prop where
  result : p.result = .ok latest.frame
  status : latest.frame.status = .fresh
  capturedAt : latest.frame.capturedAtS = p.input.capturedAtS
  frameId : latest.frame.frameId = p.input.frameId
  effectiveMask : p.effectiveMask = some latest.effectiveObjectMask
  inputMask : latest.inputObjectMask = p.input.objectMask
  palm : p.input.basePalmAtCapture = .ok latest.basePalm
  /-- Enough samples of this call's image, in the effective mask, in range and above the support
  plane, are what the cloud shows. -/
  samples : ∃ samples shown : List (Sample S),
    Selection numerics config p.input.depth latest.effectiveObjectMask samples ∧
    (∀ x ∈ samples, aboveSupportPlane numerics config x = true) ∧
    config.minimumValidPoints ≤ samples.length ∧ Shows numerics config latest samples shown

/-- **A frame is compensated** from a measured one: its cloud, its age, its speed and the number of
compensated frames since then. -/
structure CompensatedFrom (latest : LatestGood D S n) (p : Projection D S n) (steps : ℕ)
    (frame : PolicyPointFrame D S n) : Prop where
  /-- The cloud is the measured one, moved by the displacement of the centroid to the current mask,
  at a speed that is not over the limit. -/
  cloud : ∃ displacement palm,
    displacementPx config latest.inputObjectMask p.input.objectMask = some displacement ∧
    p.input.basePalmAtCapture = .ok palm ∧
    frame.xyzrgbPalm = compensatedCloud numerics config latest displacement palm ∧
    ¬config.temporalFallbackMaxImageSpeedPxS <
      imageSpeed numerics displacement frame.fallbackAgeS
  valid : frame.valid = latest.frame.valid
  capturedAt : frame.capturedAtS = p.input.capturedAtS
  frameId : frame.frameId = p.input.frameId
  effectiveMask : p.effectiveMask = some p.input.objectMask
  age : frame.fallbackAgeS = p.input.capturedAtS - latest.frame.capturedAtS
  age_pos : FloatArith.zero < frame.fallbackAgeS
  age_le : frame.fallbackAgeS ≤ config.temporalFallbackMaxStaleS
  next : frame.fallbackSteps = steps + 1
  steps_le : steps + 1 ≤ config.temporalFallbackMaxStaleSteps

structure SameData (frame other : PolicyPointFrame D S n) : Prop where
  cloud : frame.xyzrgbPalm = other.xyzrgbPalm
  valid : frame.valid = other.valid
  capturedAt : frame.capturedAtS = other.capturedAtS
  frameId : frame.frameId = other.frameId

/-- **What a call may return** after the calls before it. -/
structure CallLaw (pre : List (Projection D S n)) (p : Projection D S n) : Prop where
  finite : ∀ frame, p.result = .ok frame → FloatArith.isFinite p.input.capturedAtS = true
  fresh : p.Fresh → ∃ latest, Measured numerics config p latest
  stale : ∀ frame, p.result = .ok frame → frame.status = .stalePalm →
    config.temporalFallback = .legacyStalePalm ∧
    ∃ q latest, IsLast Projection.Fresh q pre ∧ Measured numerics config q latest ∧
      SameData frame latest.frame
  compensated : ∀ frame, p.result = .ok frame → frame.status = .motionCompensated →
    config.temporalFallback = .motionCompensated ∧
    ∃ q latest, IsLast Projection.Fresh q pre ∧ Measured numerics config q latest ∧
      CompensatedFrom numerics config latest p (compensatedSince pre) frame
  invalid : ∀ frame, p.result = .ok frame →
    frame.status = .invalidTooFewPoints ∨ frame.status = .invalidMotionFallbackRejected →
    ∀ i, frame.valid i = FloatArith.zero

/-- **What is kept** is what the last fresh call has measured. -/
structure Retained (s : ProjectorState D S n) (t : List (Projection D S n)) : Prop where
  nothing : s.latestGood = none → ∀ p ∈ t, ¬p.Fresh
  last : ∀ latest, s.latestGood = some latest →
    ∃ q, IsLast Projection.Fresh q t ∧ Measured numerics config q latest
  steps : s.motionCompensatedSteps = compensatedSince t

def CallOutcome (input : ProjectInput D S) (t : List (Projection D S n))
    (r : Except PyException (PolicyPointFrame D S n)) (s : ProjectorState D S n) : Prop :=
  CallLaw numerics config t ⟨input, r, s.lastEffectiveObjectMask⟩ ∧
    Retained numerics config s (t ++ [⟨input, r, s.lastEffectiveObjectMask⟩])

end Law

/-! ## One call -/

variable {S : Type} [FloatArith S] [FloatCast Binary64 S] {n : ℕ}
  {numerics : Numerics Binary64} {config : ProjectorConfig Binary64 n}
  {input : ProjectInput Binary64 S} {t : List (Projection Binary64 S n)}
  {s s' : ProjectorState Binary64 S n}

theorem Retained.snoc (h : Retained numerics config s t) (hlatest : s'.latestGood = s.latestGood)
    {p : Projection Binary64 S n} (hfresh : ¬p.Fresh)
    (hsteps : s'.motionCompensatedSteps = compensatedSince (t ++ [p])) :
    Retained numerics config s' (t ++ [p]) where
  nothing := by
    intro hnone q hq
    rcases List.mem_append.mp hq with hq | hq
    · exact h.nothing (hlatest.symm.trans hnone) q hq
    · rwa [List.mem_singleton.mp hq]
  last := by
    intro latest hsome
    obtain ⟨q, hlast, hmeasured⟩ := h.last latest (hlatest.symm.trans hsome)
    exact ⟨q, hlast.snoc hfresh, hmeasured⟩
  steps := hsteps

theorem Retained.of_kept (h : Retained numerics config s t) (hkept : Kept s s')
    {p : Projection Binary64 S n} (hfresh : ¬p.Fresh) (hcompensated : ¬p.Compensated) :
    Retained numerics config s' (t ++ [p]) := by
  refine h.snoc hkept.latestGood hfresh ?_
  rw [compensatedSince, countSince_snoc, if_neg hfresh, if_neg hcompensated,
    hkept.motionCompensatedSteps, h.steps]

theorem callOutcome_error (h : Retained numerics config s t) (hkept : Kept s s')
    (e : PyException) : CallOutcome numerics config input t (.error e) s' := by
  refine ⟨⟨?_, fun hfresh => (by cases hfresh), ?_, ?_, ?_⟩,
    h.of_kept hkept (fun hfresh => (by cases hfresh)) fun hcompensated => (by cases hcompensated)⟩
  · intro frame hok
    cases hok
  · intro frame hok
    cases hok
  · intro frame hok
    cases hok
  · intro frame hok
    cases hok

/-- **An invalid frame** leaves everything that is kept and has no valid point. -/
theorem callOutcome_invalid (h : Retained numerics config s t) (hkept : Kept s s')
    (hfinite : FloatArith.isFinite input.capturedAtS = true) {status : Status}
    (hstatus : status = .invalidTooFewPoints ∨ status = .invalidMotionFallbackRejected)
    (timestamp : Binary64) (frameId : ℤ) (count : ℕ) :
    CallOutcome numerics config input t
      (.ok (invalidFrame config timestamp frameId count status)) s' := by
  have hfresh : status ≠ .fresh := by
    rcases hstatus with rfl | rfl <;> decide
  have hstale : status ≠ .stalePalm := by
    rcases hstatus with rfl | rfl <;> decide
  have hcompensated : status ≠ .motionCompensated := by
    rcases hstatus with rfl | rfl <;> decide
  refine ⟨⟨fun _ _ => hfinite, fun h' => ?_, ?_, ?_, ?_⟩,
    h.of_kept hkept (fun h' => ?_) fun h' => ?_⟩
  · exact (hfresh (Option.some.inj h')).elim
  · intro frame hok h'
    cases hok
    exact (hstale h').elim
  · intro frame hok h'
    cases hok
    exact (hcompensated h').elim
  · intro frame hok _ i
    cases hok
    rfl
  · exact hfresh (Option.some.inj h')
  · exact hcompensated (Option.some.inj h')

theorem callOutcome_stale (h : Retained numerics config s t) (hkept : Kept s s')
    (hfinite : FloatArith.isFinite input.capturedAtS = true)
    (hmode : config.temporalFallback = .legacyStalePalm) {latest : LatestGood Binary64 S n}
    (hlatest : s.latestGood = some latest) (count : ℕ) :
    CallOutcome numerics config input t (.ok (stalePalmFrame latest count)) s' := by
  refine ⟨⟨fun _ _ => hfinite, fun h' => ?_, ?_, ?_, ?_⟩,
    h.of_kept hkept (fun h' => ?_) fun h' => ?_⟩
  · cases h'
  · intro frame hok _
    cases hok
    obtain ⟨q, hlast, hmeasured⟩ := h.last latest hlatest
    exact ⟨hmode, q, latest, hlast, hmeasured, rfl, rfl, rfl, rfl⟩
  · intro frame hok h'
    cases hok
    cases h'
  · intro frame hok h'
    cases hok
    rcases h' with h' | h' <;> cases h'
  · cases h'
  · cases h'

theorem not_rejected {latest : LatestGood Binary64 S n} {displacement : Binary64 × Binary64}
    {palm : Pose Binary64} {ageS : Binary64} {nextStep : ℕ}
    (h : ¬compensationRejected numerics config latest displacement palm ageS nextStep = true) :
    FloatArith.zero < ageS ∧ ageS ≤ config.temporalFallbackMaxStaleS ∧
      nextStep ≤ config.temporalFallbackMaxStaleSteps ∧
      ¬config.temporalFallbackMaxImageSpeedPxS < imageSpeed numerics displacement ageS := by
  rw [Bool.not_eq_true] at h
  simp only [compensationRejected, Bool.or_eq_false_iff, Bool.not_eq_false', decide_eq_false_iff_not]
    at h
  obtain ⟨⟨⟨⟨⟨⟨⟨⟨⟨hfinite, hpositive⟩, hstale⟩, hsteps⟩, hspeed⟩, -⟩, -⟩, -⟩, -⟩, -⟩ := h
  have hnumber : ageS.isNaN = false := Ieee.isNaN_of_isFinite hfinite
  have hlimit : config.temporalFallbackMaxStaleS.isNaN = false :=
    Ieee.isNaN_of_isFinite config.stale_finite
  refine ⟨?_, ?_, Nat.not_lt.mp hsteps, hspeed⟩
  · exact Ieee.lt_of_not_le (by decide +kernel) hnumber hpositive
  · exact (Ieee.not_lt_iff_le hnumber hlimit).mp hstale

theorem compensatedFrom_of_some {latest : LatestGood Binary64 S n} {palm : Pose Binary64}
    {steps count : ℕ} {frame : PolicyPointFrame Binary64 S n}
    (result : Except PyException (PolicyPointFrame Binary64 S n))
    (hpalm : input.basePalmAtCapture = .ok palm)
    (h : motionCompensatedPointFrame numerics config latest steps input.objectMask palm
      input.capturedAtS input.frameId count = some frame) :
    frame.status = .motionCompensated ∧
      CompensatedFrom numerics config latest ⟨input, result, some input.objectMask⟩ steps frame := by
  unfold motionCompensatedPointFrame at h
  cases hdisplacement : displacementPx config latest.inputObjectMask input.objectMask with
  | none =>
    rw [hdisplacement] at h
    cases h
  | some displacement =>
    rw [hdisplacement] at h
    by_cases hrejected : compensationRejected numerics config latest displacement palm
        (input.capturedAtS - latest.frame.capturedAtS) (steps + 1) = true
    · simp only [hrejected, if_true] at h
      cases h
    · obtain ⟨hpositive, hstale, hsteps, hspeed⟩ := not_rejected hrejected
      simp only [hrejected] at h
      cases h
      exact ⟨rfl, ⟨displacement, palm, hdisplacement, hpalm, rfl, hspeed⟩, rfl, rfl, rfl, rfl, rfl,
        hpositive, hstale, rfl, hsteps⟩

/-- **A compensated frame** leaves the reference and counts. -/
theorem callOutcome_compensated (h : Retained numerics config s t)
    (hmode : config.temporalFallback = .motionCompensated) {latest : LatestGood Binary64 S n}
    (hlatest : s.latestGood = some latest) {palm : Pose Binary64} {count : ℕ}
    {frame : PolicyPointFrame Binary64 S n} (hpalm : input.basePalmAtCapture = .ok palm)
    (hframe : motionCompensatedPointFrame numerics config latest s.motionCompensatedSteps
      input.objectMask palm input.capturedAtS input.frameId count = some frame)
    (hfinite : FloatArith.isFinite input.capturedAtS = true)
    (hlatest' : s'.latestGood = s.latestGood)
    (heffective : s'.lastEffectiveObjectMask = some input.objectMask)
    (hsteps' : s'.motionCompensatedSteps = s.motionCompensatedSteps + 1) :
    CallOutcome numerics config input t (.ok frame) s' := by
  obtain ⟨hstatus, hfrom⟩ := compensatedFrom_of_some (.ok frame) hpalm hframe
  rw [h.steps, ← heffective] at hfrom
  have hstatus? : (⟨input, .ok frame, s'.lastEffectiveObjectMask⟩ :
      Projection Binary64 S n).status? = some .motionCompensated := congrArg some hstatus
  have hfresh : ¬(⟨input, .ok frame, s'.lastEffectiveObjectMask⟩ :
      Projection Binary64 S n).Fresh := by
    rw [Projection.Fresh, hstatus?]
    decide
  refine ⟨⟨fun _ _ => hfinite, fun h' => (hfresh h').elim, ?_, ?_, ?_⟩, h.snoc hlatest' hfresh ?_⟩
  · intro frame' hok h'
    cases hok
    rw [hstatus] at h'
    cases h'
  · intro frame' hok _
    cases hok
    obtain ⟨q, hlast, hmeasured⟩ := h.last latest hlatest
    exact ⟨hmode, q, latest, hlast, hmeasured, hfrom⟩
  · intro frame' hok h'
    cases hok
    rw [hstatus] at h'
    rcases h' with h' | h' <;> cases h'
  · rw [compensatedSince, countSince_snoc, if_neg hfresh, if_pos hstatus?, hsteps', h.steps]

/-- **A fresh frame** is the new reference and resets the count. -/
theorem callOutcome_fresh (latest : LatestGood Binary64 S n) (hlatest : s'.latestGood = some latest)
    (hsteps : s'.motionCompensatedSteps = 0)
    (hfinite : FloatArith.isFinite input.capturedAtS = true)
    (hmeasured : Measured numerics config ⟨input, .ok latest.frame, s'.lastEffectiveObjectMask⟩
      latest) :
    CallOutcome numerics config input t (.ok latest.frame) s' := by
  have hfresh : (⟨input, .ok latest.frame, s'.lastEffectiveObjectMask⟩ :
      Projection Binary64 S n).Fresh := congrArg some hmeasured.status
  refine ⟨⟨fun _ _ => hfinite, fun _ => ⟨latest, hmeasured⟩, ?_, ?_, ?_⟩, ⟨?_, ?_, ?_⟩⟩
  · intro frame hok h'
    cases hok
    rw [hmeasured.status] at h'
    cases h'
  · intro frame hok h'
    cases hok
    rw [hmeasured.status] at h'
    cases h'
  · intro frame hok h'
    cases hok
    rw [hmeasured.status] at h'
    rcases h' with h' | h' <;> cases h'
  · intro hnone
    rw [hlatest] at hnone
    cases hnone
  · intro latest' hsome
    rw [hlatest] at hsome
    cases hsome
    exact ⟨_, isLast_snoc_self hfresh, hmeasured⟩
  · rw [compensatedSince, countSince_snoc, if_pos hfresh, hsteps]

/-! ## Runs -/

variable {fit : List (Vec 3 Binary64) → Binary64 → SphereFit Binary64}

abbrev Ends (numerics : Numerics Binary64) (config : ProjectorConfig Binary64 n)
    (input : ProjectInput Binary64 S) (t : List (Projection Binary64 S n))
    (r : Except PyException (PolicyPointFrame Binary64 S n)) (s : ProjectorState Binary64 S n)
    (t' : List (Projection Binary64 S n)) : Prop :=
  t' = t ∧ CallOutcome numerics config input t r s

/-- **With too few samples** the frame is a fallback or invalid. -/
theorem wp_fallbackFrame (h : Retained numerics config s t) {palm : Pose Binary64}
    (hpalm : input.basePalmAtCapture = .ok palm)
    (hfinite : FloatArith.isFinite input.capturedAtS = true) (count : ℕ) (hkept : Kept s s') :
    wp (fallbackFrame numerics config input palm count)
      (fun frame => Ends numerics config input t (.ok frame))
      (fun e => Ends numerics config input t (.error e)) s' t := by
  unfold fallbackFrame setEffectiveMask
  simp only [wp_bind, wp_read]
  have hkept' : ∀ mask provenance, Kept s { s' with
      lastEffectiveObjectMask := mask, lastEffectiveObjectMaskProvenance := provenance } :=
    fun _ _ => ⟨hkept.latestGood, hkept.motionCompensatedSteps⟩
  cases hlatest : s'.latestGood with
  | none =>
    simp only [wp_bind, wp_update, wp_ret]
    exact ⟨rfl, callOutcome_invalid h (hkept' _ _) hfinite (.inl rfl) _ _ _⟩
  | some latest =>
    have hlatest' : s.latestGood = some latest := hkept.latestGood.symm.trans hlatest
    cases hmode : config.temporalFallback with
    | legacyStalePalm =>
      simp only [wp_bind, wp_update, wp_ret]
      exact ⟨rfl, callOutcome_stale h (hkept' _ _) hfinite hmode hlatest' _⟩
    | motionCompensated =>
      dsimp only
      cases hframe : motionCompensatedPointFrame numerics config latest
          s'.motionCompensatedSteps input.objectMask palm input.capturedAtS input.frameId
          count with
      | none =>
        simp only [wp_bind, wp_update, wp_ret]
        exact ⟨rfl, callOutcome_invalid h (hkept' _ _) hfinite (.inr rfl) _ _ _⟩
      | some frame =>
        simp only [wp_bind, wp_update, wp_ret]
        rw [hkept.motionCompensatedSteps] at hframe
        exact ⟨rfl, callOutcome_compensated h hmode hlatest' hpalm hframe hfinite hkept.latestGood
          rfl (congrArg (· + 1) hkept.motionCompensatedSteps)⟩

theorem wp_projectFresh (h : Retained numerics config s t) {palm : Pose Binary64}
    (hpalm : input.basePalmAtCapture = .ok palm)
    (hfinite : FloatArith.isFinite input.capturedAtS = true)
    {samples : List (Sample S)} {effective : Mask}
    (hkept : Kept s s') (heffective : s'.lastEffectiveObjectMask = some effective)
    (hselection : Selection numerics config input.depth effective samples)
    (habove : ∀ x ∈ samples, aboveSupportPlane numerics config x = true)
    (hcount : config.minimumValidPoints ≤ samples.length) :
    wp (projectFresh numerics config input palm samples)
      (fun frame => Ends numerics config input t (.ok frame))
      (fun e => Ends numerics config input t (.error e)) s' t := by
  unfold projectFresh
  simp only [wp_bind, wp_ofExcept, wp_read]
  refine ⟨fun shown hshown => ?_, fun e _ => ⟨rfl, callOutcome_error h hkept e⟩⟩
  obtain ⟨hselected, hlength⟩ := resampled_ok hshown
  rw [heffective]
  simp only [wp_bind, wp_update, wp_ret]
  refine ⟨rfl, callOutcome_fresh
    ⟨freshFrame numerics config input palm samples.length shown, effective, input.objectMask, palm,
      FloatCast.widen (medianDepth (shown.map (·.depthM)))⟩
    rfl rfl hfinite ⟨rfl, rfl, rfl, rfl, heffective, rfl, hpalm, ?_⟩⟩
  refine ⟨samples, shown, hselection, habove, hcount, hselected, hlength, rfl, fun _ => rfl, ?_, rfl⟩
  intro i hi
  show (sampleCloud numerics config input palm shown).xyz i = _
  simp only [sampleCloud, List.getElem?_eq_getElem hi]
  rfl

theorem wp_project (h : Retained numerics config s t) :
    wp (project numerics fit config input)
      (fun frame => Ends numerics config input t (.ok frame))
      (fun e => Ends numerics config input t (.error e)) s t := by
  unfold project
  simp only [wp_bind, wp_ofExcept, wp_check, wp_update]
  have herror : ∀ e s', Kept s s' → Ends numerics config input t (.error e) s' t :=
    fun e s' hkept => ⟨rfl, callOutcome_error h hkept e⟩
  refine ⟨fun _ _ => ⟨fun _ => herror _ s ⟨rfl, rfl⟩, fun hfinite => ⟨fun palm hpalm => ?_,
    fun e _ => herror e s ⟨rfl, rfl⟩⟩⟩, fun e _ => herror e s ⟨rfl, rfl⟩⟩
  refine ⟨fun _ _ => ⟨fun _ _ => ?_, fun e _ => herror e _ ⟨rfl, rfl⟩⟩,
    fun e _ => herror e _ ⟨rfl, rfl⟩⟩
  have hfinite' : FloatArith.isFinite input.capturedAtS = true := eq_true_of_ne_false hfinite
  have hmeasured : Selection numerics config input.depth input.objectMask (filterForeground config
      (filterPixelsAboveSupportPlane numerics config
        (selectSamples config input.objectMask input.depth))) :=
    (selection_selectSamples input.objectMask input.depth).abovePlane.foreground
  refine wp_completeFixedSphereDepth hmeasured rfl ?_ ?_
  · intro completed s' effective hkept heffective hselection
    have hkept' : Kept s s' := ⟨hkept.latestGood, hkept.motionCompensatedSteps⟩
    rw [wp_ite]
    refine ⟨fun _ => wp_fallbackFrame h hpalm hfinite' _ hkept', fun henough => ?_⟩
    exact wp_projectFresh h hpalm hfinite' hkept' heffective hselection.abovePlane
      (fun x hx => (List.mem_filter.mp hx).2) (Nat.not_lt.mp henough)
  · intro e s' hkept
    exact herror e s' ⟨hkept.latestGood, hkept.motionCompensatedSteps⟩

theorem project_outcome (h : Retained numerics config s t) (run : Except PyException
      (PolicyPointFrame Binary64 S n) × ProjectorState Binary64 S n × List (Projection Binary64 S n))
    (hrun : project numerics fit config input s = run) :
    run.2.2 = [] ∧ CallOutcome numerics config input t run.1 run.2.1 := by
  have hproject : wp (project numerics fit config input)
      (fun frame => Ends numerics config input t (.ok frame))
      (fun e => Ends numerics config input t (.error e)) s t := wp_project h
  have hends := wp_result (P := Ends numerics config input t) hproject
  rw [hrun] at hends
  exact ⟨List.append_right_eq_self.mp hends.1, hends.2⟩

def Lawful (numerics : Numerics Binary64) (config : ProjectorConfig Binary64 n)
    (s : ProjectorState Binary64 S n) (t : List (Projection Binary64 S n)) : Prop :=
  Everywhere (CallLaw numerics config) t ∧ Retained numerics config s t

theorem wp_projectAll (inputs : List (ProjectInput Binary64 S)) (h : Lawful numerics config s t) :
    wp (projectAll numerics fit config inputs)
      (fun _ s' t' => Lawful numerics config s' t' ∧ t'.map (·.input) = t.map (·.input) ++ inputs)
      (fun _ _ _ => False) s t := by
  induction inputs generalizing s t with
  | nil =>
    rw [projectAll, wp_ret]
    exact ⟨h, (List.append_nil _).symm⟩
  | cons input inputs ih =>
    rw [projectAll]
    simp only [wp_bind, wp_attempt, wp_read, wp_emit]
    have hrest : ∀ r s' t', Ends numerics config input t r s' t' →
        wp (projectAll numerics fit config inputs)
          (fun _ s' t' => Lawful numerics config s' t' ∧
            t'.map (·.input) = t.map (·.input) ++ input :: inputs)
          (fun _ _ _ => False) s' (t' ++ [⟨input, r, s'.lastEffectiveObjectMask⟩]) := by
      rintro r s' t' ⟨rfl, hcall, hretained⟩
      refine wp_mono (ih ⟨h.1.snoc hcall, hretained⟩) ?_ fun _ _ _ hfalse => hfalse
      rintro _ s'' t'' ⟨hlawful, hinputs⟩
      refine ⟨hlawful, ?_⟩
      rw [hinputs, List.map_append, List.append_assoc]
      rfl
    exact wp_mono (wp_project h.2) (fun frame => hrest (.ok frame)) fun e => hrest (.error e)

theorem projectAll_cons (input : ProjectInput Binary64 S) (inputs : List (ProjectInput Binary64 S)) :
    projectAll numerics fit config (input :: inputs) s =
      let call : Except PyException (PolicyPointFrame Binary64 S n) × ProjectorState Binary64 S n ×
        List (Projection Binary64 S n) := project numerics fit config input s
      let rest := projectAll numerics fit config inputs call.2.1
      (rest.1, rest.2.1, call.2.2 ++ ⟨input, call.1, call.2.1.lastEffectiveObjectMask⟩ :: rest.2.2) := by
  rw [projectAll]
  show andThen (attempt (project numerics fit config input)) (fun result =>
    andThen Program.read fun s => andThen (emit ⟨input, result, s.lastEffectiveObjectMask⟩) fun _ =>
      projectAll numerics fit config inputs) s = _
  unfold andThen attempt Program.read emit
  rcases project numerics fit config input s with ⟨r, s', w⟩
  rfl

theorem projectAll_snoc {inputs : List (ProjectInput Binary64 S)}
    {start : ProjectorState Binary64 S n}
    (h : projectAll numerics fit config inputs start = (.ok (), s, t)) (run : Except PyException
      (PolicyPointFrame Binary64 S n) × ProjectorState Binary64 S n × List (Projection Binary64 S n))
    (hrun : project numerics fit config input s = run) (hquiet : run.2.2 = []) :
    projectAll numerics fit config (inputs ++ [input]) start =
      (.ok (), run.2.1, t ++ [⟨input, run.1, run.2.1.lastEffectiveObjectMask⟩]) := by
  induction inputs generalizing start t with
  | nil =>
    cases h
    rw [List.nil_append, projectAll_cons, hrun]
    dsimp only
    rw [hquiet]
    rfl
  | cons first inputs ih =>
    rw [projectAll_cons] at h
    rw [List.cons_append, projectAll_cons]
    dsimp only at h ⊢
    generalize hrest : projectAll numerics fit config inputs _ = rest at h
    obtain ⟨r, s', w⟩ := rest
    cases h
    rw [ih hrest, List.append_assoc, List.cons_append]

/-- **The fallback law** of any sequence of calls: each call is recorded and lawful, what is kept is
what the last fresh one measured, and between two fresh ones there are no more compensated ones than
the limit. -/
theorem fallback_law (numerics : Numerics Binary64)
    (fit : List (Vec 3 Binary64) → Binary64 → SphereFit Binary64)
    (config : ProjectorConfig Binary64 n) (inputs : List (ProjectInput Binary64 S)) :
    let run := projectAll numerics fit config inputs .init
    run.2.2.map (·.input) = inputs ∧ Everywhere (CallLaw numerics config) run.2.2 ∧
      Retained numerics config run.2.1 run.2.2 ∧
      ∀ pre mid post, run.2.2 = pre ++ mid ++ post → (∀ p ∈ mid, ¬p.Fresh) →
        mid.countP (fun p => decide p.Compensated) ≤ config.temporalFallbackMaxStaleSteps := by
  intro run
  have hstart : Lawful numerics config (.init : ProjectorState Binary64 S n) [] := by
    refine ⟨everywhere_nil, ⟨fun _ p hp => ?_, fun latest hsome => ?_, rfl⟩⟩
    · cases hp
    · cases hsome
  have hrun : wp (projectAll numerics fit config inputs) _ _ .init [] := wp_projectAll inputs hstart
  obtain ⟨⟨hlaw, hretained⟩, hinputs⟩ := wp_outcome (wp_mono hrun (fun _ _ _ h => h)
    fun _ _ _ hfalse => hfalse.elim)
  refine ⟨hinputs, hlaw, hretained, ?_⟩
  intro pre mid post hsplit hmid
  have hadmitted : Everywhere (fun before p => p.Compensated →
      compensatedSince before + 1 ≤ config.temporalFallbackMaxStaleSteps) (pre ++ mid ++ post) := by
    intro before p after hsplit' hcompensated
    have hcall := hlaw before p after (hsplit.trans hsplit')
    cases hresult : p.result with
    | error e =>
      simp only [Projection.Compensated, Projection.status?, hresult] at hcompensated
      cases hcompensated
    | ok frame =>
      simp only [Projection.Compensated, Projection.status?, hresult] at hcompensated
      obtain ⟨-, q, latest, -, -, hfrom⟩ := hcall.compensated frame hresult
        (Option.some.inj hcompensated)
      exact hfrom.steps_le
  exact countP_le_of_everywhere hadmitted hmid

end FrankaDeploy.PointCloud
