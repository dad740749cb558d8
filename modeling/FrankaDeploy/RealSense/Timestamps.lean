import FrankaDeploy.Foundation.Python
import FrankaDeploy.Foundation.IeeeMaximum

/-! # Capture timestamps

`_validated_epoch_capture_timestamp` of `dynamic_pcd.camera.realsense_camera`: what makes the
timestamps of a colour and a depth frame valid at a reading of the host's clock. The rejections that
a capture loop survives have constructors of their own. -/

namespace FrankaDeploy.RealSense

open FrankaDeploy.Foundation
open scoped FloatArith

variable {D : Type} [FloatArith D]

/-! ## Frames -/

structure Frame (D : Type) where
  number : ℤ
  timestampMs : D
  domain : String
  frameTimestampUs : Option D
  deriving DecidableEq

structure Frameset (D : Type) where
  color : Option (Frame D)
  depth : Option (Frame D)
  deriving DecidableEq

def Frameset.numbers (frames : Frameset D) : Option (ℤ × ℤ) :=
  match frames.color, frames.depth with
  | some color, some depth => some (color.number, depth.number)
  | _, _ => none

/-! ## Validation -/

structure TimestampLimits (D : Type) where
  maximumColorDepthSkewS : D
  maximumTransportAgeS : D
  maximumFutureSkewS : D
  maximumRetryableFutureSkewS : D

def defaultMaxRetryableFutureSkewS : D := FloatArith.ofRat (1 / 10)

def epochTimestampDomains : List String :=
  ["timestamp_domain.global_time", "timestamp_domain.system_time"]

inductive TimestampError (D : Type) where
  | colorDepthSkew (skew : D)
  | futureSkew (skew : D)
  | stale (transportAge : D)
  | fatal (exception : PyException)

def runtimeError (message : String) : PyException := ⟨.ordinary, "RuntimeError", message⟩

def valueError (message : String) : PyException := ⟨.ordinary, "ValueError", message⟩

def milli : D := FloatArith.ofRat (1 / 1000)

@[inherit_doc milli] def micro : D := FloatArith.ofRat (1 / 1000000)

/-- `color_timestamp_s` and `depth_timestamp_s`. -/
def Frame.timestampS (frame : Frame D) : D := frame.timestampMs * milli

def epochSkew (color depth : Frame D) : D := FloatArith.abs (color.timestampS - depth.timestampS)

/-- `color_depth_skew_s`: on the clock of the device where both frames carry its time. -/
def colorDepthSkew (color depth : Frame D) : Except PyException D :=
  match color.frameTimestampUs, depth.frameTimestampUs with
  | some colorUs, some depthUs =>
    if !FloatArith.isFinite colorUs ∨ !FloatArith.isFinite depthUs then
      .error (runtimeError "RealSense RGB-D sensor timestamps must be finite")
    else .ok (FloatArith.abs (colorUs - depthUs) * micro)
  | none, none => .ok (epochSkew color depth)
  | _, _ =>
    .error (runtimeError "RealSense RGB-D sensor timestamps must be present for both streams")

structure CaptureTimestamp (D : Type) where
  captureTimestampS : D
  colorDepthSkewS : D
  epochSkewS : D

def timestampValues (limits : TimestampLimits D) (color depth : Frame D) (retrievedAtS : D) :
    List D :=
  [color.timestampMs, depth.timestampMs, retrievedAtS, limits.maximumColorDepthSkewS,
    limits.maximumTransportAgeS, limits.maximumFutureSkewS, limits.maximumRetryableFutureSkewS]

def TimestampLimits.Invalid (limits : TimestampLimits D) : Prop :=
  limits.maximumColorDepthSkewS ≤ FloatArith.zero ∨ limits.maximumTransportAgeS ≤ FloatArith.zero ∨
    limits.maximumFutureSkewS < FloatArith.zero ∨
    limits.maximumRetryableFutureSkewS < limits.maximumFutureSkewS

instance (limits : TimestampLimits D) : Decidable limits.Invalid :=
  inferInstanceAs (Decidable (_ ∨ _ ∨ _ ∨ _))

def checkedAge (limits : TimestampLimits D) (transportAgeS : D) :
    Except (TimestampError D) Unit :=
  if transportAgeS < -limits.maximumFutureSkewS then
    if -transportAgeS ≤ limits.maximumRetryableFutureSkewS then .error (.futureSkew (-transportAgeS))
    else
      .error (.fatal (runtimeError "RealSense capture timestamp is unexpectedly in the future"))
  else if limits.maximumTransportAgeS < transportAgeS then .error (.stale transportAgeS)
  else .ok ()

def validatedEpochCaptureTimestamp (limits : TimestampLimits D) (color depth : Frame D)
    (retrievedAtS : D) : Except (TimestampError D) (CaptureTimestamp D) :=
  if !(timestampValues limits color depth retrievedAtS).all FloatArith.isFinite then
    .error (.fatal (runtimeError "RealSense capture timestamps must be finite"))
  else if limits.Invalid then
    .error (.fatal (valueError "RealSense timestamp limits are invalid"))
  else if color.domain ≠ depth.domain ∨ color.domain ∉ epochTimestampDomains then
    .error (.fatal (runtimeError
      "RealSense RGB-D timestamps require one shared global/system-time domain"))
  else
    match colorDepthSkew color depth with
    | .error e => .error (.fatal e)
    | .ok skew =>
      if limits.maximumColorDepthSkewS < skew then .error (.colorDepthSkew skew)
      else
        match checkedAge limits (retrievedAtS - color.timestampS) with
        | .error e => .error e
        | .ok () => .ok ⟨color.timestampS, skew, epochSkew color depth⟩

/-- **What is validated** is the capture of the colour frame and the skew of the pair. -/
theorem validatedEpochCaptureTimestamp_eq {limits : TimestampLimits D} {color depth : Frame D}
    {retrievedAtS : D} {capture : CaptureTimestamp D}
    (h : validatedEpochCaptureTimestamp limits color depth retrievedAtS = .ok capture) :
    capture.captureTimestampS = color.timestampS ∧
      colorDepthSkew color depth = .ok capture.colorDepthSkewS := by
  unfold validatedEpochCaptureTimestamp at h
  obtain ⟨-, h⟩ := ite_error_eq_ok.mp h
  obtain ⟨-, h⟩ := ite_error_eq_ok.mp h
  obtain ⟨-, h⟩ := ite_error_eq_ok.mp h
  cases hskew : colorDepthSkew color depth with
  | error e =>
    rw [hskew] at h
    cases h
  | ok skew =>
    rw [hskew] at h
    obtain ⟨-, h⟩ := ite_error_eq_ok.mp h
    cases hage : checkedAge limits (retrievedAtS - color.timestampS) with
    | error e =>
      rw [hage] at h
      cases h
    | ok u =>
      rw [hage] at h
      obtain rfl := Except.ok.inj h
      exact ⟨rfl, rfl⟩

/-! ## What a valid pair is -/

/-- **A timestamp-valid pair** at a reading of the host's clock. -/
structure TimestampValid (limits : TimestampLimits D) (color depth : Frame D) (retrievedAtS : D) :
    Prop where
  finite : ∀ value ∈ timestampValues limits color depth retrievedAtS,
    FloatArith.isFinite value = true
  limits_valid : ¬limits.Invalid
  sameDomain : color.domain = depth.domain
  epochDomain : color.domain ∈ epochTimestampDomains
  skew : ∃ skew, colorDepthSkew color depth = .ok skew ∧ skew ≤ limits.maximumColorDepthSkewS
  notFuture : -limits.maximumFutureSkewS ≤ retrievedAtS - color.timestampS
  fresh : retrievedAtS - color.timestampS ≤ limits.maximumTransportAgeS

section Law

variable {limits : TimestampLimits Binary64} {color depth : Frame Binary64}
  {retrievedAtS : Binary64}

theorem isNaN_timestampS {frame : Frame Binary64}
    (h : FloatArith.isFinite frame.timestampMs = true) : frame.timestampS.isNaN = false :=
  Ieee.isNaN_mul h (by decide +kernel)

theorem isNaN_colorDepthSkew {skew : Binary64}
    (hcolor : FloatArith.isFinite color.timestampS = true) (hdepth : depth.timestampS.isNaN = false)
    (h : colorDepthSkew color depth = .ok skew) : skew.isNaN = false := by
  unfold colorDepthSkew at h
  split at h
  · next colorUs depthUs _ _ =>
    obtain ⟨hfinite, hskew⟩ := ite_error_eq_ok.mp h
    cases hskew
    rw [not_or, Bool.not_eq_true', Bool.not_eq_false, Bool.not_eq_true', Bool.not_eq_false]
      at hfinite
    exact Ieee.isNaN_mul_of_nonzero (Ieee.isNaN_sub hfinite.1 hfinite.2) (by decide +kernel)
      (by decide +kernel)
  · cases h
    exact Ieee.isNaN_sub_of_isFinite_left hcolor hdepth
  · cases h

/-- **The age of a number** is checked against both limits. -/
theorem checkedAge_eq_ok_iff {age : Binary64} (hage : age.isNaN = false)
    (hfuture : limits.maximumFutureSkewS.isNaN = false)
    (hmax : limits.maximumTransportAgeS.isNaN = false) :
    checkedAge limits age = .ok () ↔
      -limits.maximumFutureSkewS ≤ age ∧ age ≤ limits.maximumTransportAgeS := by
  have hneg : (-limits.maximumFutureSkewS).isNaN = false := hfuture
  unfold checkedAge
  by_cases hearly : age < -limits.maximumFutureSkewS
  · rw [if_pos hearly]
    refine iff_of_false ?_ fun h => (Ieee.not_lt_iff_le hneg hage).mpr h.1 hearly
    by_cases hretry : -age ≤ limits.maximumRetryableFutureSkewS
    · rw [if_pos hretry]
      exact fun h => by cases h
    · rw [if_neg hretry]
      exact fun h => by cases h
  · rw [if_neg hearly, ite_error_eq_ok]
    have hnotFuture : -limits.maximumFutureSkewS ≤ age := (Ieee.not_lt_iff_le hneg hage).mp hearly
    constructor
    · exact fun h => ⟨hnotFuture, (Ieee.not_lt_iff_le hage hmax).mp h.1⟩
    · exact fun h => ⟨(Ieee.not_lt_iff_le hage hmax).mpr h.2, rfl⟩

/-- **What the validation accepts** is a timestamp-valid pair. -/
theorem validatedEpochCaptureTimestamp_ok_iff :
    (∃ capture, validatedEpochCaptureTimestamp limits color depth retrievedAtS = .ok capture) ↔
      TimestampValid limits color depth retrievedAtS := by
  -- what the finite numbers give, in both directions
  have hnumbers : (∀ value ∈ timestampValues limits color depth retrievedAtS,
      FloatArith.isFinite value = true) →
      (retrievedAtS - color.timestampS).isNaN = false ∧
        limits.maximumFutureSkewS.isNaN = false ∧ limits.maximumTransportAgeS.isNaN = false := by
    intro h
    have hcolor : FloatArith.isFinite color.timestampMs = true := h _ (by simp [timestampValues])
    have hretrieved : FloatArith.isFinite retrievedAtS = true := h _ (by simp [timestampValues])
    exact ⟨Ieee.isNaN_sub_of_isFinite_left hretrieved (isNaN_timestampS hcolor),
      Ieee.isNaN_of_isFinite (h _ (by simp [timestampValues])),
      Ieee.isNaN_of_isFinite (h _ (by simp [timestampValues]))⟩
  -- an age within finite limits is one of a finite capture
  have hcolorFinite : (∀ value ∈ timestampValues limits color depth retrievedAtS,
      FloatArith.isFinite value = true) →
      -limits.maximumFutureSkewS ≤ retrievedAtS - color.timestampS →
      retrievedAtS - color.timestampS ≤ limits.maximumTransportAgeS →
      FloatArith.isFinite color.timestampS = true := by
    intro h hnotFuture hfresh
    have hfuture : FloatArith.isFinite limits.maximumFutureSkewS = true :=
      h _ (by simp [timestampValues])
    have hneg : FloatArith.isFinite (-limits.maximumFutureSkewS) = true :=
      Ieee.isFinite_iff.mpr (show limits.maximumFutureSkewS.magnitude.toNat < _ from
        Ieee.isFinite_iff.mp hfuture)
    exact Ieee.isFinite_of_isFinite_sub (h _ (by simp [timestampValues]))
      (isNaN_timestampS (h _ (by simp [timestampValues])))
      (Ieee.isFinite_of_le_of_le hneg (h _ (by simp [timestampValues])) hnotFuture hfresh)
  constructor
  · rintro ⟨capture, h⟩
    unfold validatedEpochCaptureTimestamp at h
    obtain ⟨hfinite, h⟩ := ite_error_eq_ok.mp h
    obtain ⟨hlimits, h⟩ := ite_error_eq_ok.mp h
    obtain ⟨hdomain, h⟩ := ite_error_eq_ok.mp h
    rw [not_or, not_not, not_not] at hdomain
    have hfinite : ∀ value ∈ timestampValues limits color depth retrievedAtS,
        FloatArith.isFinite value = true := by simpa using hfinite
    obtain ⟨hage, hfuture, hmax⟩ := hnumbers hfinite
    cases hskew : colorDepthSkew color depth with
    | error e =>
      rw [hskew] at h
      cases h
    | ok skew =>
      rw [hskew] at h
      dsimp only at h
      obtain ⟨hwithin, h⟩ := ite_error_eq_ok.mp h
      cases hchecked : checkedAge limits (retrievedAtS - color.timestampS) with
      | error e =>
        rw [hchecked] at h
        cases h
      | ok u =>
        obtain ⟨hnotFuture, hfresh⟩ := (checkedAge_eq_ok_iff hage hfuture hmax).mp hchecked
        refine ⟨hfinite, hlimits, hdomain.1, hdomain.2, ⟨skew, hskew, ?_⟩, hnotFuture, hfresh⟩
        have hskewNumber := isNaN_colorDepthSkew (hcolorFinite hfinite hnotFuture hfresh)
          (isNaN_timestampS (hfinite _ (by simp [timestampValues]))) hskew
        exact (Ieee.not_lt_iff_le hskewNumber (Ieee.isNaN_of_isFinite
          (hfinite _ (by simp [timestampValues])))).mp hwithin
  · intro h
    obtain ⟨skew, hskew, hwithin⟩ := h.skew
    obtain ⟨hage, hfuture, hmax⟩ := hnumbers h.finite
    refine ⟨⟨color.timestampS, skew, epochSkew color depth⟩, ?_⟩
    have hnumber : skew.isNaN = false := (Ieee.le_iff.mp hwithin).1
    have hlimit : limits.maximumColorDepthSkewS.isNaN = false := (Ieee.le_iff.mp hwithin).2.1
    unfold validatedEpochCaptureTimestamp
    rw [if_neg (by simpa using h.finite), if_neg h.limits_valid,
      if_neg (by rw [not_or, not_not, not_not]; exact ⟨h.sameDomain, h.epochDomain⟩), hskew]
    have hnotAbove : ¬limits.maximumColorDepthSkewS < skew :=
      (Ieee.not_lt_iff_le hnumber hlimit).mpr hwithin
    dsimp only
    rw [if_neg hnotAbove, (checkedAge_eq_ok_iff hage hfuture hmax).mpr ⟨h.notFuture, h.fresh⟩]

end Law

end FrankaDeploy.RealSense
