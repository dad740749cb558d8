import FrankaDeploy.Foundation.IeeeMaximum
import FrankaDeploy.LiveSnapshot.CacheLaw

/-! # The coherence law

What a guarded owner returns over any sequence of calls: an observation is made from the camera
sample that its call has read, at a capture pose near that sample and with a recent arm sample; a
stale cloud raises the hold; a cached cloud is what the projection of that sample returned. -/

namespace FrankaDeploy.LiveSnapshot

open FrankaDeploy.Foundation FrankaDeploy.Foundation.Program FrankaDeploy.Foundation.Monitor
open FrankaDeploy.ClosedLoop FrankaDeploy.LiveObservation FrankaDeploy.TickSource
open FrankaDeploy.PointCloud (Numerics SphereFit PolicyPointFrame Projection projectAll lit)
open scoped FloatArith

/-! ## Readings -/

section Readings

variable {S : Type} [FloatArith S]

omit [FloatArith S] in
theorem isNaN_monotonic (reads : ClockReads Binary64) : reads.monotonic.isNaN = false := by
  have hsum : (reads.before.val + reads.after.val).isNaN = false :=
    Ieee.isNaN_add reads.before.property reads.after.property
  show (Ieee.mul _ _).isNaN = false
  rw [Ieee.mul_symm]
  exact Ieee.isNaN_mul_of_nonzero hsum (by decide +kernel) (by decide +kernel)

/-- **The age of a sample** that is not over a limit is within it. -/
theorem age_le {reads : ClockReads Binary64} {captured limit : Reading Binary64}
    (h : ¬limit.val < reads.monotonic - captured.val) :
    reads.monotonic - captured.val ≤ limit.val := by
  refine (Ieee.not_lt_iff_le ?_ (Ieee.isNaN_of_isFinite limit.property)).mp h
  exact Ieee.isNaN_sub_of_isFinite_right (isNaN_monotonic reads) captured.property

theorem nearestOf_mem (timestampS : Binary64) (first : FrankaPoseSample Binary64 S)
    (others : List (FrankaPoseSample Binary64 S)) :
    nearestOf timestampS first others ∈ first :: others := by
  induction others generalizing first with
  | nil => exact List.mem_singleton.mpr rfl
  | cons sample others ih =>
    unfold nearestOf
    rw [List.foldl_cons]
    by_cases hnearer : captureSkew timestampS sample < captureSkew timestampS first
    · rw [if_pos hnearer]
      exact List.mem_cons_of_mem _ (ih sample)
    · rw [if_neg hnearer]
      rcases List.mem_cons.mp (ih first) with hfirst | hother
      · exact List.mem_cons.mpr (.inl hfirst)
      · exact List.mem_cons_of_mem _ (List.mem_cons_of_mem _ hother)

/-- **The capture pose** is one of the samples and near the capture. -/
theorem nearestPose_ok {samples : List (FrankaPoseSample Binary64 S)} {timestampS : Binary64}
    {maximumSkewS : Reading Binary64} {pose : FrankaPoseSample Binary64 S}
    (h : nearestPose samples timestampS maximumSkewS.val = .ok pose)
    (hfinite : FloatArith.isFinite timestampS = true) :
    pose ∈ samples ∧ captureSkew timestampS pose ≤ maximumSkewS.val := by
  cases samples with
  | nil => cases h
  | cons first others =>
    obtain ⟨hnear, h⟩ := ite_error_eq_ok.mp h
    cases h
    refine ⟨nearestOf_mem timestampS first others, ?_⟩
    refine (Ieee.not_lt_iff_le ?_ (Ieee.isNaN_of_isFinite maximumSkewS.property)).mp hnear
    exact Ieee.isNaN_sub (nearestOf timestampS first others).realtimeS.property hfinite

theorem nonnegativeInteger_counted {k : ℕ} (hk : k < 2 ^ 53) (name : String) :
    nonnegativeInteger Binary64 (k : ℤ) name = .ok k := by
  have hexact : FloatArith.toRat? (FloatArith.ofRat ((k : ℤ) : ℚ) : Binary64) = some (k : ℚ) := by
    rw [Int.cast_natCast]
    exact Ieee.toRat?_ofRat_natCast hk (by decide)
  unfold nonnegativeInteger
  rw [hexact]
  have hinteger : isInteger (k : ℚ) = true := by simp [isInteger]
  simp [hinteger]

end Readings

/-! ## Observations -/

variable {S : Type} [FloatArith S] {validSum : Vec 128 S → Binary64}
  {frame : PolicyPointFrame Binary64 S 128} {proprio67 : Vec 67 S}
  {latest : FrankaPoseSample Binary64 S} {realtime : Reading Binary64} {cameraFrameId : ℕ}

/-- **What an observation takes** from its frame and from the latest pose. -/
structure ObservationOf (frame : PolicyPointFrame Binary64 S 128)
    (latest : FrankaPoseSample Binary64 S) (cameraFrameId : ℕ)
    (observation : V94PolicyObservation Binary64 S) : Prop where
  points : readonlyPolicyPoints frame.xyzrgbPalm "pointcloud_xyzrgb_palm" =
    .ok observation.pointcloudXyzrgbPalm
  valid : observation.pointcloudValid.val = frame.valid
  status : observation.pointcloudStatus = statusText frame.status
  cameraFrameId : nonnegativeInteger Binary64 cameraFrameId "camera_frame_id" =
    .ok observation.cameraFrameId
  sourceFrameId : nonnegativeInteger Binary64 frame.frameId "pointcloud_source_frame_id" =
    .ok observation.pointcloudSourceFrameId
  capturedAt : observation.pointcloudCapturedRealtimeS = frame.capturedAtS
  joints : observation.measuredFrankaQRad = latest.qRad
  armCaptured : observation.frankaStateCapturedMonotonicS = latest.monotonicS.val

theorem policyObservation_ok {observation : V94PolicyObservation Binary64 S}
    (h : policyObservation validSum frame proprio67 latest realtime cameraFrameId =
      .ok observation) : ObservationOf frame latest cameraFrameId observation := by
  unfold policyObservation at h
  obtain ⟨points, hpoints, h⟩ := except_bind_eq_ok.mp h
  obtain ⟨valid, hvalid, h⟩ := except_bind_eq_ok.mp h
  have h := (ok_of_guard h).2
  have h := (ok_of_guard h).2
  obtain ⟨prefix54, -, h⟩ := except_bind_eq_ok.mp h
  by_cases hfinite : FloatArith.isFinite frame.capturedAtS = true
  · rw [dif_pos hfinite] at h
    obtain ⟨frameId, hframe, h⟩ := except_bind_eq_ok.mp h
    obtain ⟨sourceFrameId, hsource, h⟩ := except_bind_eq_ok.mp h
    obtain ⟨sourcePoints, -, h⟩ := except_bind_eq_ok.mp h
    cases h
    refine ⟨hpoints, ?_, rfl, hframe, hsource, rfl, rfl, rfl⟩
    unfold readonlyFloatArray at hvalid
    split at hvalid
    · cases hvalid
      rfl
    · cases hvalid
  · rw [dif_neg hfinite] at h
    cases h

/-! ## What a call returns -/

variable {numerics : Numerics Binary64} [FloatCast Binary64 S]
  {fit : List (Vec 3 Binary64) → Binary64 → SphereFit Binary64}
  {basePolicyPalm : Transform Binary64 → Except PyException (Transform Binary64)}
  {cameras : CameraId → CameraSample Binary64 S} {config : OwnerConfig Binary64}
  {call : SnapshotCall Binary64 S} {s : OwnerState Binary64 S} {t : List (Event Binary64 S)}
  {id : CameraId} {pose : FrankaPoseSample Binary64 S} {palm : Transform Binary64}

omit [FloatCast Binary64 S] in
theorem returnedLaw_quiet (hquiet : lastCloud t = none) (e : TickException Binary64 S) :
    ReturnedLaw basePolicyPalm cameras config t call (.error e) := by
  constructor
  · intro _ observation hok
    cases hok
  · intro _ use huse
    rw [hquiet] at huse
    cases huse

omit [FloatCast Binary64 S] in
theorem returnedLaw_error (hcloud : lastCloud t = some ⟨id, pose, palm, frame⟩)
    (hguard : ¬(frame.status = .stalePalm ∧ config.legacyStalePalmCompatibilityEnabled = false))
    (e : TickException Binary64 S) :
    ReturnedLaw basePolicyPalm cameras config t call (.error e) := by
  constructor
  · intro _ observation hok
    cases hok
  · intro hguarded use huse hstale
    obtain rfl := Option.some.inj (hcloud.symm.trans huse)
    exact absurd ⟨hstale, hguarded⟩ hguard

omit [FloatCast Binary64 S] in
theorem returnedLaw_stale (hcamera : call.camera = .ok id)
    (hcloud : lastCloud t = some ⟨id, pose, palm, frame⟩)
    (fresh : Option (V94FreshActuatorSnapshot Binary64 S)) :
    ReturnedLaw basePolicyPalm cameras config t call (.error
      (recoverableHold (cameras id).frameId (stalePalmReason config (cameras id).frameId frame)
        fresh)) := by
  constructor
  · intro _ observation hok
    cases hok
  · intro _ use huse _
    obtain rfl := Option.some.inj (hcloud.symm.trans huse)
    have hcounted := nonnegativeInteger_counted (cameras id).frame_counted "camera_frame_id"
    refine ⟨⟨(cameras id).frameId, stalePalmReason config (cameras id).frameId frame, fresh⟩, ?_,
      hcamera, rfl, rfl⟩
    simp only [recoverableHold, hcounted]

/-- **What a call has checked** before it takes its point frame. -/
structure Checked (basePolicyPalm : Transform Binary64 → Except PyException (Transform Binary64))
    (cameras : CameraId → CameraSample Binary64 S) (config : OwnerConfig Binary64)
    (call : SnapshotCall Binary64 S) (id : CameraId) (pose latest : FrankaPoseSample Binary64 S)
    (palm : Transform Binary64) : Prop where
  camera : call.camera = .ok id
  nearest : nearestPose call.poseSamples (cameras id).timestampS config.maximumPoseSkewS.val = .ok pose
  palm : basePolicyPalm pose.tBaseEef = .ok palm
  armLatest : call.poseSamples.getLast? = some latest
  age : call.start.monotonic - latest.monotonicS.val ≤ config.maximumFrankaActionAgeS.val

omit [FloatCast Binary64 S] in
/-- **An observation is coherent** when its cloud is fresh or compensated. -/
theorem Checked.coherent
    (h : Checked basePolicyPalm cameras config call id pose latest palm)
    (hframe : FrameOf (cameras id) frame)
    (hstatus : frame.status = .fresh ∨ frame.status = .motionCompensated)
    {observation : V94PolicyObservation Binary64 S}
    (hobservation : ObservationOf frame latest (cameras id).frameId observation) :
    Coherent basePolicyPalm cameras config call ⟨id, pose, palm, frame⟩ observation := by
  obtain ⟨hmem, hskew⟩ := nearestPose_ok h.nearest hframe.finite
  obtain ⟨hid, hcaptured⟩ := hframe.current hstatus
  have hcounted := fun name => nonnegativeInteger_counted (cameras id).frame_counted name
  exact {
    camera := h.camera
    status := hstatus
    statusText := hobservation.status
    points := hobservation.points
    valid := hobservation.valid
    cameraFrameId := Except.ok.inj (hobservation.cameraFrameId.symm.trans (hcounted _))
    sourceFrameId := by
      have hsource := hobservation.sourceFrameId
      rw [hid, hcounted] at hsource
      exact (Except.ok.inj hsource).symm
    capturedAt := hobservation.capturedAt.trans hcaptured
    pose_mem := hmem
    palm := h.palm
    skew := hskew
    arm := ⟨latest, h.armLatest, hobservation.joints, hobservation.armCaptured, h.age⟩ }

theorem wp_observe (h : Lawful numerics basePolicyPalm cameras config fit s t)
    (hcloud : lastCloud t = some ⟨id, pose, palm, frame⟩) (hframe : FrameOf (cameras id) frame)
    (hchecked : Checked basePolicyPalm cameras config call id pose latest palm)
    (source : Option (RetainedPointcloudSource Binary64 S)) :
    wp (observe validSum config call (cameras id) latest proprio67 frame source)
      (fun observation s' t' => Lawful numerics basePolicyPalm cameras config fit s' t' ∧
        ReturnedLaw basePolicyPalm cameras config t' call (.ok observation))
      (fun e s' t' => Lawful numerics basePolicyPalm cameras config fit s' t' ∧
        ReturnedLaw basePolicyPalm cameras config t' call (.error e)) s t := by
  unfold observe
  simp only [wp_bind, wp_check, wp_raised, wp_ofExcept, wp_ret]
  refine ⟨fun _ => ⟨h, returnedLaw_stale hchecked.camera hcloud _⟩, fun hguard => ?_⟩
  have herror : ∀ e, Lawful numerics basePolicyPalm cameras config fit s t ∧
      ReturnedLaw basePolicyPalm cameras config t call (.error e) := fun e =>
    ⟨h, returnedLaw_error hcloud hguard e⟩
  refine ⟨fun _ => herror _, fun hvalid => ⟨fun clock _ => ?_, fun e _ => herror _⟩⟩
  refine ⟨fun _ => herror _, fun _ => ⟨fun observation hok => ?_, fun e _ => herror _⟩⟩
  refine ⟨fun _ => herror _, fun _ => ⟨h, ?_⟩⟩
  have hobservation : ObservationOf frame latest (cameras id).frameId observation :=
    policyObservation_ok (ofSource_eq_ok.mp hok)
  constructor
  · intro hguarded observation' hsame
    obtain rfl := Except.ok.inj hsame
    refine ⟨_, hcloud, hchecked.coherent hframe ?_ hobservation⟩
    -- every other status was raised above
    cases hstatus : frame.status with
    | fresh => exact .inl rfl
    | motionCompensated => exact .inr rfl
    | stalePalm => exact absurd ⟨hstatus, hguarded⟩ hguard
    | invalidTooFewPoints => exact absurd (.inl hstatus) hvalid
    | invalidMotionFallbackRejected => exact absurd (.inr (.inl hstatus)) hvalid
  · intro hguarded use huse hstale
    obtain rfl := Option.some.inj (hcloud.symm.trans huse)
    exact absurd ⟨hstale, hguarded⟩ hguard

/-! ## Calls -/

theorem wp_snapshot (h : Lawful numerics basePolicyPalm cameras config fit s t)
    (hquiet : lastCloud t = none) :
    wp (snapshot numerics fit basePolicyPalm validSum cameras config call)
      (fun observation s' t' => Lawful numerics basePolicyPalm cameras config fit s' t' ∧
        ReturnedLaw basePolicyPalm cameras config t' call (.ok observation))
      (fun e s' t' => Lawful numerics basePolicyPalm cameras config fit s' t' ∧
        ReturnedLaw basePolicyPalm cameras config t' call (.error e)) s t := by
  have herror : ∀ e, Lawful numerics basePolicyPalm cameras config fit s t ∧
      ReturnedLaw basePolicyPalm cameras config t call (.error e) := fun e =>
    ⟨h, returnedLaw_quiet hquiet e⟩
  unfold snapshot
  simp only [wp_bind, wp_raised, wp_check]
  refine ⟨fun _ _ => ⟨fun _ _ => ⟨fun started _ => ⟨fun _ => herror _, fun _ =>
    ⟨fun _ => herror _, fun _ => ?_⟩⟩, fun e _ => herror _⟩, fun e _ => herror _⟩,
    fun e _ => herror _⟩
  refine ⟨fun id hcamera => ⟨fun _ _ => ⟨fun _ _ => ⟨fun _ => herror _, fun _ =>
    ⟨fun hand _ => ?_, fun e _ => herror _⟩⟩, fun e _ => herror _⟩, fun e _ => herror _⟩,
    fun e _ => herror _⟩
  cases hlatest : call.poseSamples.getLast? with
  | none =>
    simp only [wp_fail]
    exact herror _
  | some latest =>
    cases hhand : hand.getLast? with
    | none =>
      simp only [wp_fail]
      exact herror _
    | some handCapturedS =>
      simp only [checkAges, wp_bind, wp_check, wp_raised]
      refine ⟨fun _ => herror _, fun _ => ⟨fun _ => herror _, fun _ => ⟨fun _ => herror _,
        fun _ => ⟨fun _ => herror _, fun _ => ⟨fun _ => herror _, fun hage => ?_⟩⟩⟩⟩⟩
      refine ⟨fun pose hpose => ⟨fun palm hpalm => ⟨fun _ _ => ⟨fun proprio67 _ => ?_,
        fun e _ => herror _⟩, fun e _ => herror _⟩, fun e _ => herror _⟩, fun e _ => herror _⟩
      have hchecked : Checked basePolicyPalm cameras config call id pose latest palm :=
        ⟨hcamera, hpose, hpalm, hlatest, age_le hage⟩
      refine wp_pointFrame h hquiet ?_ ?_
      · intro frame source s' t' hlawful hcloud hframe
        exact wp_observe hlawful hcloud hframe hchecked source
      · intro e s' t' hlawful hquiet'
        exact ⟨hlawful, returnedLaw_quiet hquiet' e⟩

def Ended (calls : List (SnapshotCall Binary64 S)) (_ : OwnerState Binary64 S)
    (t : List (Event Binary64 S)) : Prop :=
  t.filterMap Event.call? = calls

omit [FloatCast Binary64 S] in
theorem ended_snoc {calls : List (SnapshotCall Binary64 S)} {e : Event Binary64 S}
    (he : e.call? = none) (h : Ended calls s t) : Ended calls s (t ++ [e]) := by
  rw [Ended, List.filterMap_append, List.filterMap_cons_none he, List.filterMap_nil,
    List.append_nil]
  exact h

omit [FloatCast Binary64 S] in
theorem keeps_raised {calls : List (SnapshotCall Binary64 S)} {α : Type} (r : Except PyException α) :
    Keeps (Ended calls) (raised r : OwnerM Binary64 S α) :=
  keeps_ofExcept _

theorem keeps_pointFrame (calls : List (SnapshotCall Binary64 S)) :
    Keeps (Ended calls) (pointFrame numerics fit cameras config id pose palm) := by
  have hrgbd : Keeps (Ended calls) (policyRgbd cameras config id) := by
    refine keeps_read.bind fun state => ?_
    cases state.adaptedPolicyRgbdCache.filter fun cached => cached.camera = id with
    | some cached => exact keeps_ret _
    | none =>
      refine Keeps.bind (keeps_raised _) fun adapted => ?_
      refine Keeps.bind (keeps_update fun _ _ h => h) fun _ => ?_
      exact keeps_ret _
  have hproject : ∀ rgbd, Keeps (Ended calls)
      (callProject numerics fit cameras config id pose palm rgbd) := by
    intro rgbd
    refine (keeps_ofStep fun _ _ h => h).bind fun result => keeps_read.bind fun state => ?_
    exact (keeps_emit fun _ _ h => ended_snoc rfl h).bind fun _ => keeps_raised _
  have hsource : ∀ frame, Keeps (Ended calls) (visualSource cameras config id palm frame) := by
    intro frame
    refine keeps_read.bind fun state => ?_
    cases frame.status with
    | fresh =>
      cases state.projector.lastEffectiveObjectMask with
      | none => exact keeps_fail _
      | some effective =>
        refine Keeps.bind (Keeps.runIf _ (keeps_update fun _ _ h => h)) fun _ => ?_
        exact keeps_ret _
    | motionCompensated =>
      cases state.projector.lastEffectiveObjectMask with
      | none => exact keeps_fail _
      | some effective =>
        refine Keeps.bind (Keeps.runIf _ (keeps_update fun _ _ h => h)) fun _ => ?_
        exact keeps_ret _
    | stalePalm =>
      cases state.retainedPointcloudSource with
      | none => exact keeps_fail _
      | some source => exact Keeps.bind (keeps_check _ _) fun _ => keeps_ret _
    | invalidTooFewPoints => exact keeps_ret _
    | invalidMotionFallbackRejected => exact keeps_ret _
  refine hrgbd.bind fun rgbd => keeps_read.bind fun state => ?_
  cases state.projectedPointcloudCache.filter fun cached => cached.matches id pose palm with
  | some cached => exact (keeps_emit fun _ _ h => ended_snoc rfl h).bind fun _ => keeps_ret _
  | none =>
    refine (hproject rgbd).bind fun frame => (hsource frame).bind fun source => ?_
    exact Keeps.bind (keeps_update fun _ _ h => h) fun _ => keeps_ret _

theorem keeps_snapshot (calls : List (SnapshotCall Binary64 S)) :
    Keeps (Ended calls) (snapshot numerics fit basePolicyPalm validSum cameras config call) := by
  have hobserve : ∀ camera latest proprio67 frame source, Keeps (Ended calls)
      (observe validSum config call camera latest proprio67 frame source) := by
    intro camera latest proprio67 frame source
    refine (keeps_check _ _).bind fun _ => (keeps_check _ _).bind fun _ => ?_
    refine (keeps_raised _).bind fun _ => (keeps_check _ _).bind fun _ => ?_
    exact (keeps_ofExcept _).bind fun _ => (keeps_check _ _).bind fun _ => keeps_ret _
  refine (keeps_raised _).bind fun _ => (keeps_raised _).bind fun _ => ?_
  refine (keeps_raised _).bind fun _ => (keeps_check _ _).bind fun _ => ?_
  refine (keeps_check _ _).bind fun _ => (keeps_raised _).bind fun id => ?_
  refine (keeps_raised _).bind fun _ => (keeps_raised _).bind fun _ => ?_
  refine (keeps_check _ _).bind fun _ => (keeps_raised _).bind fun hand => ?_
  cases call.poseSamples.getLast? with
  | none => exact keeps_fail _
  | some latest =>
    cases hand.getLast? with
    | none => exact keeps_fail _
    | some handCapturedS =>
      have hages : Keeps (Ended calls)
          (checkAges config call (cameras id).frameId latest handCapturedS) := by
        refine (keeps_check _ _).bind fun _ => (keeps_check _ _).bind fun _ => ?_
        refine (keeps_check _ _).bind fun _ => (keeps_check _ _).bind fun _ => ?_
        exact keeps_check _ _
      refine hages.bind fun _ => (keeps_raised _).bind fun pose => ?_
      refine (keeps_raised _).bind fun palm => (keeps_raised _).bind fun _ => ?_
      refine (keeps_raised _).bind fun proprio67 => ?_
      refine (keeps_pointFrame calls).bind fun point => ?_
      exact hobserve (cameras id) latest proprio67 point.1 point.2

/-- **A sequence of calls** is lawful, and its calls are recorded in order. -/
theorem wp_snapshotAll (calls : List (SnapshotCall Binary64 S))
    (h : Lawful numerics basePolicyPalm cameras config fit s t) (hquiet : lastCloud t = none) :
    wp (snapshotAll numerics fit basePolicyPalm validSum cameras config calls)
      (fun _ s' t' => Lawful numerics basePolicyPalm cameras config fit s' t' ∧
        t'.filterMap Event.call? = t.filterMap Event.call? ++ calls)
      (fun _ _ _ => False) s t := by
  induction calls generalizing s t with
  | nil =>
    simp only [snapshotAll, wp_ret, List.append_nil, and_true]
    exact h
  | cons call calls ih =>
    unfold snapshotAll
    simp only [wp_bind, wp_attempt, wp_emit]
    have hlaw : wp (snapshot numerics fit basePolicyPalm validSum cameras config call) _ _ s t :=
      wp_snapshot h hquiet
    have hended : wp (snapshot numerics fit basePolicyPalm validSum cameras config call) _ _ s t :=
      keeps_snapshot (t.filterMap Event.call?) s t rfl
    -- whatever the call returns, the history with its end is lawful and quiet
    have hnext : ∀ result s' t', (Lawful numerics basePolicyPalm cameras config fit s' t' ∧
        ReturnedLaw basePolicyPalm cameras config t' call result) ∧
        Ended (t.filterMap Event.call?) s' t' →
        wp (snapshotAll numerics fit basePolicyPalm validSum cameras config calls)
          (fun _ s'' t'' => Lawful numerics basePolicyPalm cameras config fit s'' t'' ∧
            t''.filterMap Event.call? = t.filterMap Event.call? ++ call :: calls)
          (fun _ _ _ => False) s' (t' ++ [.returned call result]) := by
      intro result s' t' hcall
      obtain ⟨⟨hlawful, hreturned⟩, hcalls⟩ := hcall
      have hsnoc := hlawful.snoc (e := .returned call result) rfl
        (by simp [Event.Stores, Event.stored?]) hreturned
      refine wp_mono (ih hsnoc (lastCloud_snoc _ _)) ?_ fun _ _ _ hfalse => hfalse
      rintro - s'' t'' ⟨hlawful', hcalls'⟩
      refine ⟨hlawful', ?_⟩
      rw [hcalls', List.filterMap_append, hcalls, List.append_assoc]
      rfl
    exact wp_mono (wp_and hlaw hended) (fun observation => hnext (.ok observation))
      fun e => hnext (.error e)

/-! ## Runs -/

theorem lawful_init : Lawful numerics basePolicyPalm cameras config fit
    (.init : OwnerState Binary64 S) [] where
  law := everywhere_nil
  replay := rfl
  projector := by
    refine ⟨everywhere_nil, ⟨fun _ p hp => ?_, fun latest hsome => ?_, rfl⟩⟩
    · cases hp
    · cases hsome
  adapted := by
    intro cached hcached
    cases hcached
  cached := by
    intro cached hcached
    cases hcached
  retained := by
    rintro q ⟨-, pre, post, hsplit, -⟩
    cases pre <;> cases hsplit

/-- **Live snapshot coherence.** Over every sequence of calls of a new owner, the history obeys its
law: an observation in a guarded mode is of the camera sample that its call has read, a stale cloud
raises the hold, and a reused cloud is what the projection of the same sample returned. The calls
of the projector are one sequence. -/
theorem snapshot_coherence (numerics : Numerics Binary64)
    (fit : List (Vec 3 Binary64) → Binary64 → SphereFit Binary64)
    (basePolicyPalm : Transform Binary64 → Except PyException (Transform Binary64))
    (validSum : Vec 128 S → Binary64) (cameras : CameraId → CameraSample Binary64 S)
    (config : OwnerConfig Binary64) (calls : List (SnapshotCall Binary64 S)) :
    let run := snapshotAll numerics fit basePolicyPalm validSum cameras config calls .init
    run.1 = .ok () ∧ run.2.2.filterMap Event.call? = calls ∧
      Everywhere (EventLaw numerics basePolicyPalm cameras config) run.2.2 ∧
      projectAll numerics fit config.projector ((projections run.2.2).map (·.input)) .init =
        (.ok (), run.2.1.projector, projections run.2.2) := by
  have hrun : wp (snapshotAll numerics fit basePolicyPalm validSum cameras config calls) _ _
      .init [] := wp_snapshotAll calls lawful_init rfl
  have hresult := wp_result (P := fun r s' t' => r = .ok () ∧
    Lawful numerics basePolicyPalm cameras config fit s' t' ∧ t'.filterMap Event.call? = calls)
    (wp_mono hrun (fun _ _ _ h => ⟨rfl, h⟩) fun _ _ _ hfalse => hfalse.elim)
  obtain ⟨hok, hlawful, hcalls⟩ := hresult
  rw [List.nil_append] at hlawful hcalls
  exact ⟨hok, hcalls, hlawful.law, hlawful.replay⟩

end FrankaDeploy.LiveSnapshot
