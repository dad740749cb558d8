import FrankaDeploy.Foundation.Ieee754
import FrankaDeploy.Rh56Owner.TrackingLaw

/-! # The admission of a final settle

`begin_final_tracking_settle` and `physical_tracking_snapshot` classify the same axes. They agree
unless a challenge has been withdrawn beside a verified axis: the snapshot calls such a hand
verified, and the settle rejects it. -/

namespace FrankaDeploy.Rh56Owner

open FrankaDeploy.Foundation FrankaDeploy.Rh56
open scoped FloatArith

variable {D : Type} [FloatArith D]

/-! ## Axes -/

def AxisTracking.withdrawn (a : AxisTracking D) : Bool := a.challenged && !a.verified && !a.active

omit [FloatArith D] in
theorem AxisTracking.unverified_iff (a : AxisTracking D) :
    a.unverified = true ↔ a.activeUnverified = true ∨ a.withdrawn = true := by
  unfold unverified activeUnverified withdrawn
  cases a.active with
  | false => simp
  | true => simp

theorem any_axes {s : Tracking D} {p : AxisTracking D → Bool} :
    s.axes.any p = true ↔ ∃ axis, p (s.axes axis) = true := by
  simp [Vec.any]

theorem not_any_axes {s : Tracking D} {p : AxisTracking D → Bool} :
    s.axes.any p = false ↔ ∀ axis, p (s.axes axis) = false := by
  simp [Vec.any]

theorem lastDeadline_eq_none {s : Tracking D} {p : AxisTracking D → Bool} :
    s.lastDeadline p = none ↔ s.axes.any p = false := by
  rw [not_any_axes]
  unfold Tracking.lastDeadline
  cases haxes : (List.finRange 6).filter fun axis => p (s.axes axis) with
  | nil =>
    refine ⟨fun _ axis => ?_, fun _ => rfl⟩
    have hnot := List.filter_eq_nil_iff.mp haxes axis (List.mem_finRange axis)
    simpa using hnot
  | cons first others =>
    refine ⟨fun h => (by cases h), fun h => ?_⟩
    have hfirst : first ∈ (List.finRange 6).filter fun axis => p (s.axes axis) := by
      rw [haxes]
      exact List.mem_cons_self ..
    exact absurd ((List.mem_filter.mp hfirst).2.symm.trans (h first)) (by decide)

/-! ## Agreement -/

/-- **The settle agrees with the snapshot**: it does not reject a verified hand as unverified, and
what it rejects so is not verified. -/
def Agrees (C : TrackingConfig D) (feedbackHardAgeS : D) (s : Tracking D) (now : D) : Prop :=
  (s.verdict = .verified →
      s.settleAdmission C feedbackHardAgeS now ≠ .error unverifiedWithoutWindow) ∧
    (s.settleAdmission C feedbackHardAgeS now = .error unverifiedWithoutWindow →
      s.verdict ≠ .verified)

/-- **A challenge was withdrawn beside a verified axis**, and no window is open. -/
structure WithdrawnBesideVerified (s : Tracking D) : Prop where
  verified : ∃ axis, (s.axes axis).verified = true
  withdrawn : ∃ axis, (s.axes axis).withdrawn = true
  failed : ∀ axis, (s.axes axis).failed = false
  active : ∀ axis, (s.axes axis).activeUnverified = false

theorem verdict_eq_verified {s : Tracking D} : s.verdict = .verified ↔
    (∀ axis, (s.axes axis).failed = false) ∧ (∀ axis, (s.axes axis).activeUnverified = false) ∧
      (∃ axis, (s.axes axis).challenged = true) ∧ ∃ axis, (s.axes axis).verified = true := by
  rw [← not_any_axes (p := (·.failed)), ← not_any_axes (p := (·.activeUnverified)),
    ← any_axes (p := (·.challenged)), ← any_axes (p := (·.verified))]
  unfold Tracking.verdict
  cases s.axes.any (·.failed) with
  | true => simp
  | false =>
    cases s.axes.any (·.activeUnverified) with
    | true => simp
    | false =>
      cases s.axes.any (·.challenged) with
      | false => simp
      | true =>
        cases s.axes.any (·.verified) with
        | false => simp
        | true => simp

/-- **What the settle rejects as unverified**, where nothing has failed and no window is open: an
unverified axis. -/
theorem settleAdmission_of_quiet {C : TrackingConfig D} {feedbackHardAgeS now : D} {s : Tracking D}
    (hfailed : ∀ axis, (s.axes axis).failed = false)
    (hactive : ∀ axis, (s.axes axis).activeUnverified = false) :
    s.settleAdmission C feedbackHardAgeS now = .error unverifiedWithoutWindow ↔
      ∃ axis, (s.axes axis).withdrawn = true := by
  have hfailed' := not_any_axes (p := (·.failed)).mpr hfailed
  have hnone := lastDeadline_eq_none.mpr (not_any_axes (p := (·.activeUnverified)).mpr hactive)
  unfold Tracking.settleAdmission
  rw [if_neg (by rw [hfailed']; decide)]
  by_cases hall : s.axes.all (fun a => !a.unverified) = true
  · rw [if_pos hall]
    refine ⟨fun h => (by cases h), fun ⟨axis, haxis⟩ => ?_⟩
    have hverified : (s.axes axis).unverified = false := by
      simpa using List.all_eq_true.mp hall axis (List.mem_finRange axis)
    exact absurd ((AxisTracking.unverified_iff _).mpr (.inr haxis)) (by rw [hverified]; decide)
  · rw [if_neg hall, hnone]
    refine ⟨fun _ => ?_, fun _ => rfl⟩
    have hsome : ∃ axis, (s.axes axis).unverified = true := by simpa [Vec.all] using hall
    obtain ⟨axis, haxis⟩ := hsome
    rcases (AxisTracking.unverified_iff _).mp haxis with hopen | hwithdrawn
    · exact absurd (hopen.symm.trans (hactive axis)) (by decide)
    · exact ⟨axis, hwithdrawn⟩

def defaultTracking : TrackingConfig Binary64 where
  significantGapUnits := 30
  minProgressUnits := 3
  contactForceDeltaG := 150
  contactForceAbsoluteG := 200
  timeoutS := FloatArith.ofRat (3 / 4)
  gap_within := by decide
  progress_within := by decide
  force_within := by decide
  timeout_pos := by decide +kernel

def closedSample : RH56SafetyFeedback Binary64 :=
  restingSample (FloatArith.ofRat 1) (by decide +kernel)

def movedSample : RH56SafetyFeedback Binary64 :=
  { closedSample with
    capturedMonotonicS := FloatArith.ofRat (33 / 32)
    angles := fun axis => if axis = 0 then 550 else 500
    captured_finite := by decide +kernel
    angles_within := by decide }

def benchTargets (first second : ℤ) : SixIntegers := fun axis =>
  if axis = 0 then first else if axis = 1 then second else 500

def withdrawnSteps : List (TrackingStep Binary64) :=
  [.feedback closedSample (FloatArith.ofRat 1) (FloatArith.ofRat 1000),
    .target (benchTargets 600 600) (FloatArith.ofRat 1),
    .feedback movedSample (FloatArith.ofRat (33 / 32)) (FloatArith.ofRat 1000),
    .target (benchTargets 600 500) (FloatArith.ofRat (33 / 32))]

end FrankaDeploy.Rh56Owner
