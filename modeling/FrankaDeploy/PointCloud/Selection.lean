import FrankaDeploy.Foundation.ExceptList
import FrankaDeploy.PointCloud.Projector
import Mathlib.Data.List.Nodup

/-! # What a frame selects

The samples of a frame are distinct pixels of its effective mask whose depths are in range, whether
they are measured or on the completed sphere. -/

namespace FrankaDeploy.PointCloud

open FrankaDeploy.Foundation FrankaDeploy.Foundation.Program
open scoped FloatArith

variable {D S : Type} [FloatArith D] [FloatArith S] [FloatCast D S] {n : ℕ} {E : Type}
  (numerics : Numerics D) (config : ProjectorConfig D n)

/-! ## Selections -/

/-- **A depth in range**: measured at its pixel, or where the viewing ray meets a sphere of the
configured radius; the latter is rounded to single precision after its check. -/
inductive DepthInRange (image : DepthImage D S) (sample : Sample S) : Prop where
  | measured (hdepth : sample.depthM = image.at sample.pixel)
      (hrange : inDepthRange config sample.depthM = true)
  | completed {radius : D} {center : Vec 3 D} {depth : D}
      (hradius : config.fixedSphereCompletionRadiusM = some radius)
      (hdepth : nearIntersection numerics config center radius sample.pixel = some depth)
      (hrange : inCompletedRange config depth = true)
      (hrounded : sample.depthM = FloatCast.narrow depth)

/-- **A selection** of samples from a depth image and an effective mask. -/
structure Selection (image : DepthImage D S) (effective : Mask) (samples : List (Sample S)) :
    Prop where
  inside : ∀ x ∈ samples, (x.pixel.1 < config.height ∧ x.pixel.2 < config.width) ∧
    effective x.pixel = true
  range : ∀ x ∈ samples, DepthInRange numerics config image x
  distinct : (samples.map (·.pixel)).Nodup

variable {numerics config} {image : DepthImage D S} {effective mask : Mask}
  {samples samples' : List (Sample S)}

theorem Selection.sublist (h : Selection numerics config image effective samples)
    (hsub : samples'.Sublist samples) : Selection numerics config image effective samples' where
  inside := fun x hx => h.inside x (hsub.subset hx)
  range := fun x hx => h.range x (hsub.subset hx)
  distinct := h.distinct.sublist (hsub.map _)

theorem Selection.abovePlane (h : Selection numerics config image effective samples) :
    Selection numerics config image effective
      (filterPixelsAboveSupportPlane numerics config samples) :=
  h.sublist List.filter_sublist

theorem Selection.foreground (h : Selection numerics config image effective samples) :
    Selection numerics config image effective (filterForeground config samples) := by
  unfold filterForeground
  split
  · exact h.sublist List.filter_sublist
  · exact h

theorem nodup_allPixels (height width : ℕ) : (allPixels height width).Nodup := by
  refine List.nodup_flatMap.mpr ⟨fun row _ => ?_, ?_⟩
  · refine List.nodup_range.map ?_
    intro column column' heq
    exact (Prod.mk.inj heq).2
  · refine List.nodup_range.imp ?_
    intro row row' hne p hp hp'
    obtain ⟨column, -, rfl⟩ := List.mem_map.mp hp
    obtain ⟨column', -, heq⟩ := List.mem_map.mp hp'
    exact hne (Prod.mk.inj heq).1.symm

theorem selection_selectSamples (mask : Mask) (image : DepthImage D S) :
    Selection numerics config image mask (selectSamples config mask image) where
  inside := by
    intro x hx
    obtain ⟨hx, -⟩ := List.mem_filter.mp hx
    obtain ⟨pixel, hpixel, rfl⟩ := List.mem_map.mp hx
    exact mem_nonzero.mp hpixel
  range := by
    intro x hx
    obtain ⟨hx, hrange⟩ := List.mem_filter.mp hx
    obtain ⟨pixel, -, rfl⟩ := List.mem_map.mp hx
    exact .measured rfl hrange
  distinct := by
    have hpixels : (((mask.nonzero config.height config.width).map fun pixel =>
        (⟨pixel, image.at pixel⟩ : Sample S)).map (·.pixel)).Nodup := by
      rw [List.map_map]
      show ((mask.nonzero config.height config.width).map id).Nodup
      rw [List.map_id]
      exact (nodup_allPixels _ _).filter _
    exact hpixels.sublist (List.filter_sublist.map _)

/-! ## Completed samples -/

theorem mem_completedSamples {window : Window} {center : Vec 3 D} {radius : D} {x : Pixel × D}
    (hx : x ∈ completedSamples numerics config mask window center radius) :
    x.1 ∈ allPixels config.height config.width ∧
      nearIntersection numerics config center radius x.1 = some x.2 ∧
      inCompletedRange config x.2 = true := by
  obtain ⟨pixel, hpixel, hsome⟩ := List.mem_filterMap.mp hx
  obtain ⟨depth, hdepth, rfl⟩ := Option.map_eq_some_iff.mp hsome
  refine ⟨hpixel, ?_⟩
  unfold completedDepth at hdepth
  by_cases hnear : (window.holds pixel && dilated config.height config.width mask window 8 pixel) =
    true
  · rw [if_pos hnear] at hdepth
    exact Option.filter_eq_some_iff.mp hdepth
  · rw [if_neg hnear] at hdepth
    cases hdepth

theorem nodup_completedSamples (mask : Mask) (window : Window) (center : Vec 3 D) (radius : D) :
    ((completedSamples numerics config mask window center radius).map (·.1)).Nodup := by
  have hpixels : (completedSamples numerics config mask window center radius).map (·.1) =
      (allPixels config.height config.width).filter fun pixel =>
        (completedDepth numerics config mask window center radius pixel).isSome := by
    unfold completedSamples
    rw [List.map_filterMap, ← List.filterMap_eq_filter]
    congr 1
    funext pixel
    rw [Option.map_map]
    cases hdepth : completedDepth numerics config mask window center radius pixel with
    | none => simp [Option.guard, hdepth]
    | some depth => simp [Option.guard, hdepth]
  rw [hpixels]
  exact (nodup_allPixels _ _).filter _

/-- **The samples on the sphere** are a selection from the mask that they make up. -/
theorem selection_completedSamples {radius : D}
    (hradius : config.fixedSphereCompletionRadiusM = some radius) (image : DepthImage D S)
    (mask : Mask) (window : Window) (center : Vec 3 D) :
    Selection numerics config image
      (fun pixel =>
        ((completedSamples numerics config mask window center radius).map (·.1)).contains pixel)
      ((completedSamples numerics config mask window center radius).map fun x =>
        (⟨x.1, FloatCast.narrow x.2⟩ : Sample S)) where
  inside := by
    intro x hx
    obtain ⟨y, hy, rfl⟩ := List.mem_map.mp hx
    refine ⟨mem_allPixels.mp (mem_completedSamples hy).1, ?_⟩
    rw [List.contains_iff_mem]
    exact List.mem_map_of_mem hy
  range := by
    intro x hx
    obtain ⟨y, hy, rfl⟩ := List.mem_map.mp hx
    obtain ⟨-, hnear, hrange⟩ := mem_completedSamples hy
    exact .completed hradius hnear hrange rfl
  distinct := by
    rw [List.map_map]
    exact nodup_completedSamples mask window center radius

/-! ## Resampling -/

omit [FloatArith S] [FloatCast D S] in
theorem resampled_ok {shown : List (Sample S)} (h : resampled D n samples = .ok shown) :
    (∀ x ∈ shown, x ∈ samples) ∧ shown.length = min samples.length n := by
  unfold resampled at h
  by_cases hmany : n < samples.length
  · rw [if_pos hmany] at h
    have hall := forall₂_of_mapM_ok h
    constructor
    · intro x hx
      obtain ⟨k, hk, rfl⟩ := List.mem_iff_getElem.mp hx
      have hget := hall.get (by rw [hall.length_eq]; exact hk) hk
      split at hget
      next sample hsample =>
        cases hget
        exact List.mem_of_getElem? hsample
      next => cases hget
    · rw [← hall.length_eq, List.length_range]
      omega
  · rw [if_neg hmany] at h
    cases h
    exact ⟨fun _ hx => hx, by omega⟩

/-! ## The completion -/

structure Kept (s s' : ProjectorState D S n) : Prop where
  latestGood : s'.latestGood = s.latestGood
  motionCompensatedSteps : s'.motionCompensatedSteps = s.motionCompensatedSteps

omit [FloatArith S] [FloatCast D S] [FloatArith D] in
theorem Kept.trans {s s' s'' : ProjectorState D S n} (h : Kept s s') (h' : Kept s' s'') :
    Kept s s'' :=
  ⟨h'.latestGood.trans h.latestGood, h'.motionCompensatedSteps.trans h.motionCompensatedSteps⟩

variable {s : ProjectorState D S n} {t : List E}

omit [FloatArith S] [FloatCast D S] in
theorem wp_anchoredCenter {pixels : List Pixel} {center : Vec 3 D}
    {Q : Option (Vec 3 D) → ProjectorState D S n → List E → Prop}
    {X : PyException → ProjectorState D S n → List E → Prop}
    (hnone : Q none s t)
    (hsome : ∀ anchored s', Kept s s' → s'.lastEffectiveObjectMask = s.lastEffectiveObjectMask →
      Q (some anchored) s' t) :
    wp (anchoredCenter numerics config pixels center) Q X s t := by
  unfold anchoredCenter
  simp only [wp_bind, wp_read]
  cases s.sphereCenterCameraOffset with
  | some offset =>
    simp only [wp_ret]
    exact hsome _ s ⟨rfl, rfl⟩ rfl
  | none =>
    simp only [wp_ite, wp_ret, wp_bind, wp_update]
    exact ⟨fun _ => hnone, fun _ => hsome _ _ ⟨rfl, rfl⟩ rfl⟩

theorem wp_sphereSamples (image : DepthImage D S) {radius : D} {center : Vec 3 D}
    (hradius : config.fixedSphereCompletionRadiusM = some radius)
    {Q : Option (List (Sample S)) → ProjectorState D S n → List E → Prop}
    {X : PyException → ProjectorState D S n → List E → Prop}
    (hnone : Q none s t) (hX : ∀ e, X e s t)
    (hsome : ∀ samples s' effective, Kept s s' → s'.lastEffectiveObjectMask = some effective →
      Selection numerics config image effective samples → Q (some samples) s' t) :
    wp (sphereSamples numerics config mask radius center) Q X s t := by
  unfold sphereSamples
  simp only [wp_bind, wp_ofExcept, wp_ite, wp_ret, wp_update]
  refine ⟨fun window _ => ⟨fun _ => hnone, fun _ => ?_⟩, fun e _ => hX e⟩
  exact hsome _ _ _ ⟨rfl, rfl⟩ rfl (selection_completedSamples hradius image mask window center)

/-- **The completion selects** from the effective mask that it leaves, whatever the fit returns. -/
theorem wp_completeFixedSphereDepth {fit : List (Vec 3 D) → D → SphereFit D}
    {reliable : List (Sample S)} {Q : List (Sample S) → ProjectorState D S n → List E → Prop}
    {X : PyException → ProjectorState D S n → List E → Prop}
    (hreliable : Selection numerics config image mask reliable)
    (hmask : s.lastEffectiveObjectMask = some mask)
    (hQ : ∀ samples s' effective, Kept s s' → s'.lastEffectiveObjectMask = some effective →
      Selection numerics config image effective samples → Q samples s' t)
    (hX : ∀ e s', Kept s s' → X e s' t) :
    wp (completeFixedSphereDepth numerics config fit mask reliable) Q X s t := by
  -- the samples stay as they are on every path but the last one
  have hkeep : ∀ s', Kept s s' → s'.lastEffectiveObjectMask = s.lastEffectiveObjectMask →
      Q reliable s' t := fun s' hkept heffective =>
    hQ reliable s' mask hkept (heffective.trans hmask) hreliable
  unfold completeFixedSphereDepth
  simp only [wp_bind, wp_update]
  cases hradius : config.fixedSphereCompletionRadiusM with
  | none =>
    simp only [wp_ret]
    exact hkeep _ ⟨rfl, rfl⟩ rfl
  | some radius =>
    simp only [wp_ite, wp_ret, wp_bind]
    refine ⟨fun _ => hkeep _ ⟨rfl, rfl⟩ rfl, fun _ => ⟨fun _ => hkeep _ ⟨rfl, rfl⟩ rfl,
      fun _ => ⟨fun _ => hkeep _ ⟨rfl, rfl⟩ rfl, fun _ => ?_⟩⟩⟩
    -- the centre may be rejected, or it is the anchored one
    refine wp_anchoredCenter ?_ ?_
    · simp only [wp_ret]
      exact hkeep _ ⟨rfl, rfl⟩ rfl
    intro center s' hkept heffective
    have hkept' : Kept s s' := ⟨hkept.latestGood, hkept.motionCompensatedSteps⟩
    simp only [wp_bind, wp_read, wp_ite, wp_ret]
    refine ⟨fun _ => hkeep s' hkept' heffective, fun _ => ?_⟩
    refine wp_sphereSamples image hradius ?_ (fun e => hX e s' hkept') ?_
    · simp only [wp_ret]
      exact hkeep s' hkept' heffective
    · intro samples s'' effective hkept'' heffective' hselection
      simp only [wp_ret]
      exact hQ samples s'' effective (hkept'.trans hkept'') heffective' hselection

end FrankaDeploy.PointCloud
