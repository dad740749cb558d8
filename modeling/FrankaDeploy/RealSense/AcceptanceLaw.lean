import FrankaDeploy.RealSense.StartupLaw

/-! # The acceptance law

Which framesets a camera accepts. After its startup a candidate is accepted exactly when it is
complete, timestamp-valid, newer than the last accepted pair and in time, so that what a camera
returns since its start only ever advances. -/

namespace FrankaDeploy.RealSense

open FrankaDeploy.Foundation FrankaDeploy.Foundation.Program FrankaDeploy.Foundation.Monitor
open scoped FloatArith

variable {config : CameraConfig Binary64}

/-! ## Capture -/

theorem newer_of_last {seen : List (ℤ × ℤ)} (hadvance : seen.Pairwise Newer) {q : ℤ × ℤ}
    (hlast : ∀ p, seen.getLast? = some p → Newer p q) : ∀ p ∈ seen, Newer p q := by
  intro p hp
  rcases List.eq_nil_or_concat seen with rfl | ⟨earlier, last, rfl⟩
  · cases hp
  have hq : Newer last q := hlast last (by simp)
  rw [List.concat_eq_append] at hp hadvance
  rcases List.mem_append.mp hp with hp | hp
  · have hpl : Newer p last := (List.pairwise_append.mp hadvance).2.2 p hp last (by simp)
    exact ⟨hpl.1.trans hq.1, hpl.2.trans hq.2⟩
  · rw [List.mem_singleton.mp hp]
    exact hq

/-- **The anchor decides** whether a pair is newer than the last accepted one. -/
theorem Lawful.increases_iff {s : CameraState Binary64} {t : List (Event Binary64)}
    (h : Lawful config s t) (color depth : ℤ) :
    (increases s.lastAcceptedSensorFrameNumber color = true ∧
      increases s.lastAcceptedDepthSensorFrameNumber depth = true) ↔
      ∀ p, (acceptedSince t).getLast? = some p → Newer p (color, depth) := by
  rw [h.color, h.depth]
  cases (acceptedSince t).getLast? with
  | none => simp [increases]
  | some p => simp [increases, Newer]

/-- **A rejected candidate** of the capture loop is one that need not be accepted. -/
theorem Lawful.rejectedDequeue {s : CameraState Binary64} {t : List (Event Binary64)}
    (h : Lawful config s t) (record : Dequeue Binary64) (houtcome : record.outcome ≠ .accepted)
    (hnot : ¬Acceptable config (acceptedSince t) record) :
    Lawful config s (t ++ [.dequeued record]) := by
  refine h.snoc (fun _ => iff_of_false houtcome hnot) (if_neg ?_) rfl
  exact fun hruntime => houtcome hruntime.2

theorem Lawful.acceptedDequeue {s s' : CameraState Binary64} {t : List (Event Binary64)}
    (h : Lawful config s t) {record : Dequeue Binary64} {color depth : Frame Binary64}
    (hstage : record.stage = .runtime) (houtcome : record.outcome = .accepted)
    (hframes : record.frames = ⟨some color, some depth⟩)
    (hacceptable : Acceptable config (acceptedSince t) record)
    (hcolor : s'.lastAcceptedSensorFrameNumber = some color.number)
    (hdepth : s'.lastAcceptedDepthSensorFrameNumber = some depth.number)
    (hstarted : s'.started = true → s.started = true) :
    Lawful config s' (t ++ [.dequeued record]) ∧
      acceptedSince (t ++ [.dequeued record]) =
        acceptedSince t ++ [(color.number, depth.number)] ∧
      ∀ p ∈ acceptedSince t, Newer p (color.number, depth.number) := by
  have hnumbers : record.frames.numbers = some (color.number, depth.number) := by
    rw [hframes]
    rfl
  have haccepted : acceptedSince (t ++ [.dequeued record]) =
      acceptedSince t ++ [(color.number, depth.number)] := by
    rw [acceptedSince_snoc]
    show (if _ then _ else _) = _
    rw [if_pos ⟨hstage, houtcome⟩, hnumbers]
    rfl
  have hnewer : ∀ p ∈ acceptedSince t, Newer p (color.number, depth.number) := by
    obtain ⟨color', depth', hframes', -, hlast, -⟩ := hacceptable
    rw [hframes] at hframes'
    cases hframes'
    exact newer_of_last h.advance hlast
  refine ⟨⟨h.law.snoc fun _ => iff_of_true houtcome hacceptable, ?_, ?_, ?_, ?_⟩, haccepted, hnewer⟩
  · rw [haccepted, List.getLast?_concat]
    exact hcolor
  · rw [haccepted, List.getLast?_concat]
    exact hdepth
  · rw [haccepted, List.pairwise_append]
    refine ⟨h.advance, List.pairwise_singleton _ _, fun p hp q hq => ?_⟩
    rw [List.mem_singleton.mp hq]
    exact hnewer p hp
  · rw [startedSince_snoc]
    exact fun h' => h.ready (hstarted h')

/-- **What the capture loop has accepted last.** -/
structure Pending (config : CameraConfig Binary64) (accepted : Accepted Binary64)
    (t : List (Event Binary64)) : Prop where
  newest : ∃ earlier, acceptedSince t = earlier ++ [(accepted.color.number, accepted.depth.number)] ∧
    ∀ p ∈ earlier, Newer p (accepted.color.number, accepted.depth.number)
  dequeued : ∃ record, .dequeued record ∈ t ∧
    record.frames = ⟨some accepted.color, some accepted.depth⟩ ∧ record.host = accepted.host
  valid : validatedEpochCaptureTimestamp config.limits accepted.color accepted.depth
    accepted.host.realtimeS = .ok accepted.capture

def CaptureOutcome (config : CameraConfig Binary64) (r : Option (Accepted Binary64))
    (s : CameraState Binary64) (t : List (Event Binary64)) : Prop :=
  Lawful config s t ∧ ∀ accepted, r = some accepted → Pending config accepted t

theorem wp_capturePair {deadlineS pairSpanS : Binary64} {tick : CaptureTick Binary64}
    {drained : List (Frameset Binary64)} {color depth : Frame Binary64} {s : CameraState Binary64}
    {t : List (Event Binary64)} (h : Lawful config s t)
    (hintime : ¬deadlineS ≤ tick.host.monotonicAfterS) :
    wp (capturePair config deadlineS tick pairSpanS
        (fun outcome => ⟨.runtime, drained, ⟨some color, some depth⟩, tick.host, deadlineS, outcome⟩)
        color depth)
      (CaptureOutcome config) (fun _ => Lawful config) s t := by
  simp only [capturePair, recordNumbers, wp_bind, wp_update]
  cases hvalid : validatedEpochCaptureTimestamp config.limits color depth tick.host.realtimeS with
  | ok capture =>
    have hvalid' := validatedEpochCaptureTimestamp_ok_iff.mp ⟨capture, hvalid⟩
    simp only [wp_bind, wp_read, wp_ite, wp_update, wp_emit, wp_check, wp_ret]
    refine ⟨fun hregressed => ?_, fun hincreases => ?_⟩
    · -- not newer than the last accepted pair
      have hlawful : Lawful config s (t ++ [.dequeued ⟨.runtime, drained, ⟨some color, some depth⟩,
          tick.host, deadlineS, .rejectedNonIncreasingSequence⟩]) := by
        refine h.rejectedDequeue _ (fun hfalse => by cases hfalse) ?_
        rintro ⟨color', depth', hframes, -, hlast, -⟩
        cases hframes
        obtain ⟨hcolor, hdepth⟩ := (h.increases_iff _ _).mpr hlast
        rw [hcolor, hdepth] at hregressed
        simp at hregressed
      exact ⟨fun _ => hlawful.of_anchor ⟨rfl, rfl, id⟩, fun _ =>
        ⟨hlawful.of_anchor ⟨rfl, rfl, id⟩, fun _ hnone => by cases hnone⟩⟩
    · rw [not_or, Bool.not_eq_true', Bool.not_eq_false, Bool.not_eq_true', Bool.not_eq_false]
        at hincreases
      have hacceptable : Acceptable config (acceptedSince t) ⟨.runtime, drained,
          ⟨some color, some depth⟩, tick.host, deadlineS, .accepted⟩ :=
        ⟨color, depth, rfl, hvalid', (h.increases_iff _ _).mp hincreases, hintime⟩
      obtain ⟨hlawful, haccepted, hnewer⟩ : Lawful config
          { s with
            lastAcceptedSensorFrameNumber := some color.number
            lastAcceptedDepthSensorFrameNumber := some depth.number } _ ∧ _ ∧ _ :=
        h.acceptedDequeue rfl rfl rfl hacceptable rfl rfl id
      refine ⟨hlawful.of_anchor ⟨rfl, rfl, id⟩, fun accepted hsome => ?_⟩
      cases hsome
      exact ⟨⟨_, haccepted, hnewer⟩, ⟨_, List.mem_append_right _ (List.mem_singleton.mpr rfl),
        rfl, rfl⟩, hvalid⟩
  | error e =>
    -- not timestamp-valid
    have hlawful : ∀ (s' : CameraState Binary64) outcome, SameAnchor s s' →
        outcome ≠ Outcome.accepted → Lawful config s' (t ++ [.dequeued ⟨.runtime, drained,
          ⟨some color, some depth⟩, tick.host, deadlineS, outcome⟩]) := by
      intro s' outcome hsame houtcome
      refine (h.of_anchor hsame).rejectedDequeue _ houtcome ?_
      rintro ⟨color', depth', hframes, hvalid', -, -⟩
      cases hframes
      obtain ⟨capture, hok⟩ := validatedEpochCaptureTimestamp_ok_iff.mpr hvalid'
      rw [hvalid] at hok
      cases hok
    -- a rejection that the loop survives, unless it is over
    have hretryable : ∀ (s' : CameraState Binary64) outcome, SameAnchor s s' →
        outcome ≠ Outcome.accepted →
        (deadlineS ≤ tick.rejectedAtS → Lawful config s' (t ++ [.dequeued ⟨.runtime, drained,
          ⟨some color, some depth⟩, tick.host, deadlineS, outcome⟩])) ∧
        (¬deadlineS ≤ tick.rejectedAtS → CaptureOutcome config none s' (t ++ [.dequeued ⟨.runtime,
          drained, ⟨some color, some depth⟩, tick.host, deadlineS, outcome⟩])) := by
      intro s' outcome hsame houtcome
      exact ⟨fun _ => hlawful s' outcome hsame houtcome,
        fun _ => ⟨hlawful s' outcome hsame houtcome, fun _ hnone => by cases hnone⟩⟩
    dsimp only
    cases e with
    | colorDepthSkew skew =>
      simp only [countRejection, wp_bind, wp_update, wp_ret, wp_emit, wp_ofExcept, wp_check]
      exact ⟨fun _ _ => hretryable _ .rejectedRgbdSkew ⟨rfl, rfl, id⟩ (by decide),
        fun _ hfalse => by cases hfalse⟩
    | futureSkew skew =>
      simp only [countRejection, wp_bind, wp_update, wp_ret, wp_emit, wp_ofExcept, wp_check]
      exact ⟨fun _ _ => hretryable _ .rejectedFutureSkew ⟨rfl, rfl, id⟩ (by decide),
        fun _ hfalse => by cases hfalse⟩
    | stale age =>
      simp only [countRejection, wp_bind, wp_update, wp_ret, wp_emit, wp_ofExcept, wp_check]
      exact ⟨fun _ _ => hretryable _ .rejectedTransportStale ⟨rfl, rfl, id⟩ (by decide),
        fun _ hfalse => by cases hfalse⟩
    | fatal e =>
      simp only [countRejection, wp_bind, wp_ret, wp_emit, wp_ofExcept]
      exact ⟨fun _ hfatal => (by cases hfatal),
        fun _ _ => hlawful _ .fatalTimestampValidation ⟨rfl, rfl, id⟩ (by decide)⟩

theorem wp_captureStep {deadlineS : Binary64} (tick : CaptureTick Binary64)
    {s : CameraState Binary64} {t : List (Event Binary64)} (h : Lawful config s t) :
    wp (captureStep config deadlineS tick) (CaptureOutcome config) (fun _ => Lawful config) s t := by
  simp only [captureStep, wp_bind, wp_check, wp_ofExcept, wp_attempt]
  refine ⟨fun _ => h, fun _ => ⟨fun _ _ => ?_, fun _ _ => h⟩⟩
  refine wp_waitForLatestFrameset ?_ ?_
  · rintro ⟨drained, frames⟩ s' hsame
    have hlawful : Lawful config s' t := h.of_anchor hsame
    refine ⟨fun pairSpanS _ => ?_, fun _ _ => hlawful⟩
    rw [wp_ite]
    refine ⟨fun hlate => ?_, fun hintime => ?_⟩
    · simp only [wp_bind, wp_emit, wp_fail]
      refine hlawful.rejectedDequeue _ (fun hfalse => by cases hfalse) ?_
      rintro ⟨color, depth, -, -, -, hnot⟩
      exact hnot hlate
    -- without both streams there is no pair to accept
    have hmissing : ¬(∃ color depth, frames = ⟨some color, some depth⟩) → Lawful config s' (t ++
        [.dequeued ⟨.runtime, drained, frames, tick.host, deadlineS, .missingRgbdStream⟩]) := by
      intro hincomplete
      refine hlawful.rejectedDequeue _ (fun hfalse => by cases hfalse) ?_
      rintro ⟨color, depth, hframes, -⟩
      exact hincomplete ⟨color, depth, hframes⟩
    obtain ⟨color, depth⟩ := frames
    cases color with
    | none =>
      simp only [wp_bind, wp_emit, wp_fail]
      exact hmissing fun ⟨_, _, hframes⟩ => by cases hframes
    | some color =>
      cases depth with
      | none =>
        simp only [wp_bind, wp_emit, wp_fail]
        exact hmissing fun ⟨_, _, hframes⟩ => by cases hframes
      | some depth => exact wp_capturePair hlawful hintime
  · intro e s' hsame
    have hlawful : Lawful config s' t := h.of_anchor hsame
    rw [wp_ite]
    refine ⟨fun _ => ?_, fun _ => ?_⟩
    · rwa [wp_fail]
    · rwa [wp_fail]

theorem wp_captureLoop {deadlineS : Binary64} (ticks : List (CaptureTick Binary64))
    {s : CameraState Binary64} {t : List (Event Binary64)} (h : Lawful config s t) :
    wp (captureLoop config deadlineS ticks) (CaptureOutcome config) (fun _ => Lawful config) s t := by
  induction ticks generalizing s t with
  | nil =>
    rw [captureLoop, wp_ret]
    exact ⟨h, fun _ hnone => by cases hnone⟩
  | cons tick ticks ih =>
    rw [captureLoop, wp_bind]
    refine wp_mono (wp_captureStep tick h) ?_ fun _ _ _ h => h
    intro r s' t' hr
    cases r with
    | none => exact ih hr.1
    | some accepted =>
      rw [wp_ret]
      exact hr

/-- **The frame of what is accepted last** is rightly returned. -/
theorem Pending.returnedRightly {accepted : Accepted Binary64} {t : List (Event Binary64)}
    (h : Pending config accepted t) (s : CameraState Binary64) :
    ReturnedRightly config t (rgbdFrame s accepted) := by
  obtain ⟨htime, hskew⟩ := validatedEpochCaptureTimestamp_eq h.valid
  have hvalid := validatedEpochCaptureTimestamp_ok_iff.mp ⟨_, h.valid⟩
  obtain ⟨record, hmem, hframes, hhost⟩ := h.dequeued
  obtain ⟨skew, hskew', hwithin⟩ := hvalid.skew
  rw [hskew] at hskew'
  obtain rfl := Except.ok.inj hskew'
  refine ⟨h.newest, ⟨record, accepted.color, accepted.depth, hmem, hframes, rfl, rfl, ?_, htime.symm,
    hskew⟩, hwithin, ?_, ?_⟩
  · rw [hhost]
    rfl
  · have hnotFuture := hvalid.notFuture
    rwa [← htime] at hnotFuture
  · have hfresh := hvalid.fresh
    rwa [← htime] at hfresh

theorem wp_getFrame (input : CaptureInput Binary64) {s : CameraState Binary64}
    {t : List (Event Binary64)} (h : Lawful config s t) :
    wp (getFrame config input) (fun _ => Lawful config) (fun _ => Lawful config) s t := by
  rw [getFrame, wp_bind]
  refine wp_mono (wp_start input.startInput h) ?_ fun _ _ _ h => h
  rintro r s' t' ⟨hstarted, -⟩
  cases r with
  | none => rwa [wp_ret]
  | some u =>
    simp only [wp_bind, wp_check]
    refine ⟨fun _ => hstarted, fun _ => ?_⟩
    refine wp_mono (wp_captureLoop input.ticks hstarted) ?_ fun _ _ _ h => h
    rintro r s'' t'' ⟨hlawful, hpending⟩
    cases r with
    | none => rwa [wp_ret]
    | some accepted =>
      simp only [wp_bind, wp_ofExcept, wp_update, wp_read, wp_emit, wp_ret]
      refine ⟨fun _ _ => ?_, fun _ _ => hlawful⟩
      have hframe := (hpending accepted rfl).returnedRightly { s'' with frameId := s''.frameId + 1 }
      exact (hlawful.snoc (e := .returned _) hframe rfl rfl).of_anchor ⟨rfl, rfl, id⟩

theorem wp_call (c : Call Binary64) {s : CameraState Binary64} {t : List (Event Binary64)}
    (h : Lawful config s t) :
    wp (call config c) (fun _ => Lawful config) (fun _ => Lawful config) s t := by
  cases c with
  | start input =>
    rw [call, wp_bind, wp_attempt]
    refine wp_mono (wp_start input h) ?_ ?_
    · rintro r s' t' ⟨hr, -⟩
      cases r <;> rwa [wp_ret]
    · intro e s' t' hr
      rwa [wp_ret]
  | getFrame input =>
    rw [call, wp_bind, wp_attempt]
    refine wp_mono (wp_getFrame input h) ?_ ?_
    · intro r s' t' hr
      cases r <;> rwa [wp_ret]
    · intro e s' t' hr
      rwa [wp_ret]
  | stop =>
    simp only [call, wp_bind, wp_update, wp_ret]
    exact h.of_anchor ⟨rfl, rfl, fun hfalse => by cases hfalse⟩

theorem keeps_calls (cs : List (Call Binary64)) : Keeps (Lawful config) (calls config cs) := by
  induction cs with
  | nil => exact keeps_ret ()
  | cons c cs ih =>
    refine Keeps.bind (fun s t h => wp_call c h) fun goesOn => Keeps.ite ih (keeps_ret ())

/-! ## The law of a camera -/

/-- **Camera acceptance.** After every sequence of calls, over every stream of framesets and every
reading of the clocks: every event was lawful, the anchor is the last accepted pair, and a start that
succeeds has completed a startup run. -/
theorem camera_acceptance (config : CameraConfig Binary64) (cs : List (Call Binary64)) :
    let run := calls config cs .init
    Lawful config run.2.1 run.2.2 ∧ ∀ input, (start config input run.2.1).1 = .ok (some ()) →
      Lawful config (start config input run.2.1).2.1 (run.2.2 ++ (start config input run.2.1).2.2) ∧
      startedSince (run.2.2 ++ (start config input run.2.1).2.2) = true := by
  intro run
  have hrun : Lawful config run.2.1 run.2.2 := wp_outcome (keeps_calls cs .init [] lawful_init)
  refine ⟨hrun, fun input hstarted => ?_⟩
  have hresult := wp_result (P := fun r s t => Lawful config s t ∧
      (r = .ok (some ()) → startedSince t = true))
    (wp_mono (wp_start input hrun)
      (fun r s t hr => ⟨hr.1, fun hsome => hr.2 (Except.ok.inj hsome)⟩)
      fun e s t hr => ⟨hr, fun hsome => by cases hsome⟩)
  exact ⟨hresult.1, hresult.2 hstarted⟩

/-! ### A drained pair -/

def twoFrameConfig : CameraConfig Binary64 where
  startupRequiredConsecutiveFrames := 2
  startupTimeoutS := FloatArith.ofRat 5
  startupMaxClockOffsetJitterS := FloatArith.ofRat (5 / 1000)
  maxColorDepthTimestampSkewS := FloatArith.ofRat (8 / 1000)
  maxCaptureToRetrievalS := FloatArith.ofRat (1 / 10)
  maxTimestampFutureSkewS := FloatArith.ofRat (5 / 100)

def frameAt (number : ℤ) (timestampMs : ℚ) : Frame Binary64 :=
  ⟨number, FloatArith.ofRat timestampMs, "timestamp_domain.global_time", none⟩

def pairAt (number : ℤ) : Frameset Binary64 :=
  ⟨some (frameAt number (number * 1000)), some (frameAt number (number * 1000))⟩

def skewedPairAt (number : ℤ) : Frameset Binary64 :=
  ⟨some (frameAt number (number * 1000)), some (frameAt number (number * 1000 + 20))⟩

def clocksAt (second : ℚ) : ClockSample Binary64 :=
  ⟨FloatArith.ofRat second, FloatArith.ofRat second, FloatArith.ofRat second⟩

def drainingCalls : List (Call Binary64) :=
  let startup : StartInput Binary64 :=
    { imported := .ok ()
      opened := .ok ()
      startedAtS := FloatArith.ofRat 0
      ticks := [⟨FloatArith.ofRat 1, .ok (pairAt 1, []), clocksAt 1⟩,
        ⟨FloatArith.ofRat 2, .ok (pairAt 2, []), clocksAt 2⟩] }
  [.start startup,
    .getFrame
      { startInput := startup
        timeoutMs := FloatArith.ofRat 1000
        startedAtS := FloatArith.ofRat 3
        ticks := [⟨FloatArith.ofRat 3, .ok (pairAt 3, [skewedPairAt 3]), clocksAt 3,
          FloatArith.ofRat 4⟩]
        aligned := .ok () }]

/-- **A drained pair is not accepted**: it is complete, timestamp-valid, newer than the last accepted
pair and in time, but a newer frameset has replaced it as the candidate. -/
theorem drained_pair_is_not_accepted :
    ∃ record ∈ dequeuedSince (calls twoFrameConfig drainingCalls .init).2.2, ∃ color depth,
      record.stage = .runtime ∧ ⟨some color, some depth⟩ ∈ record.drained ∧
      TimestampValid twoFrameConfig.limits color depth record.host.realtimeS ∧
      ¬record.deadlineS ≤ record.host.monotonicAfterS ∧
      acceptedSince (calls twoFrameConfig drainingCalls .init).2.2 = [(2, 2)] ∧
      Newer (2, 2) (color.number, depth.number) := by
  refine ⟨⟨.runtime, [pairAt 3], skewedPairAt 3, clocksAt 3, FloatArith.ofRat 4, .rejectedRgbdSkew⟩,
    by decide +kernel, frameAt 3 3000, frameAt 3 3000, rfl, by decide +kernel, ?_, by decide +kernel,
    by decide +kernel, by decide, by decide⟩
  have hok : (validatedEpochCaptureTimestamp twoFrameConfig.limits (frameAt 3 3000) (frameAt 3 3000)
      (FloatArith.ofRat 3)).isOk = true := by decide +kernel
  refine validatedEpochCaptureTimestamp_ok_iff.mp ?_
  show ∃ capture, validatedEpochCaptureTimestamp _ _ _ (FloatArith.ofRat 3) = .ok capture
  cases hvalid : validatedEpochCaptureTimestamp twoFrameConfig.limits (frameAt 3 3000)
      (frameAt 3 3000) (FloatArith.ofRat 3) with
  | ok capture => exact ⟨capture, rfl⟩
  | error e =>
    rw [hvalid] at hok
    cases hok

end FrankaDeploy.RealSense
