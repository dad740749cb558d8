import FrankaDeploy.LiveSnapshot.Coherence

/-! # The caches of an owner

What a call does under the projector's lock keeps the history lawful: a reused cloud is the last one
that the projector returned, and a stale one always finds the source of the fresh one before it. -/

namespace FrankaDeploy.LiveSnapshot

open FrankaDeploy.Foundation FrankaDeploy.Foundation.Program FrankaDeploy.Foundation.Monitor
open FrankaDeploy.LiveObservation FrankaDeploy.TickSource
open FrankaDeploy.PointCloud (Numerics SphereFit ProjectorState PolicyPointFrame Projection
  projectAll)
open scoped FloatArith

/-! ## Events -/

section Events

variable {S : Type} [FloatArith S]

theorem projections_snoc_projected (t : List (Event Binary64 S)) (camera : CameraId)
    (pose : FrankaPoseSample Binary64 S) (palm : Transform Binary64)
    (p : Projection Binary64 S 128) :
    projections (t ++ [.projected camera pose palm p]) = projections t ++ [p] := by
  rw [projections, List.filterMap_append]
  rfl

theorem projections_snoc_other (t : List (Event Binary64 S)) {e : Event Binary64 S}
    (he : e.projection? = none) : projections (t ++ [e]) = projections t := by
  rw [projections, List.filterMap_append, List.filterMap_cons_none he, List.filterMap_nil,
    List.append_nil]
  rfl

theorem lastCloud_snoc (t : List (Event Binary64 S)) (e : Event Binary64 S) :
    lastCloud (t ++ [e]) = e.cloud? := by
  rw [lastCloud, List.getLast?_concat]
  rfl

end Events

variable {S : Type} [FloatArith S] [FloatCast Binary64 S] {numerics : Numerics Binary64}
  {fit : List (Vec 3 Binary64) → Binary64 → SphereFit Binary64}
  {basePolicyPalm : Transform Binary64 → Except PyException (Transform Binary64)}
  {cameras : CameraId → CameraSample Binary64 S} {config : OwnerConfig Binary64}
  {s s' : OwnerState Binary64 S} {t : List (Event Binary64 S)} {id : CameraId}
  {pose : FrankaPoseSample Binary64 S} {palm : Transform Binary64}
  {p : Projection Binary64 S 128} {frame : PolicyPointFrame Binary64 S 128}

/-! ## Frames -/

omit [FloatCast Binary64 S] in
/-- **A frame of a camera sample**: a fresh or compensated one has its id and its time. -/
structure FrameOf (camera : CameraSample Binary64 S) (frame : PolicyPointFrame Binary64 S 128) :
    Prop where
  finite : FloatArith.isFinite camera.timestampS = true
  current : frame.status = .fresh ∨ frame.status = .motionCompensated →
    frame.frameId = camera.frameId ∧ frame.capturedAtS = camera.timestampS

theorem ProjectedLaw.frameOf {pre : List (Event Binary64 S)}
    (h : ProjectedLaw numerics cameras config pre id palm p) (hok : p.result = .ok frame) :
    FrameOf (cameras id) frame := by
  obtain ⟨⟨rgbd, -, hinput⟩, hcall⟩ := h
  have htime : p.input.capturedAtS = (cameras id).timestampS := by rw [hinput]; rfl
  have hid : p.input.frameId = (cameras id).frameId := by rw [hinput]; rfl
  refine ⟨htime ▸ hcall.finite frame hok, ?_⟩
  rintro (hstatus | hstatus)
  · have hfresh : p.Fresh := by
      rw [Projection.Fresh, Projection.status?, hok]
      exact congrArg some hstatus
    obtain ⟨latest, hmeasured⟩ := hcall.fresh hfresh
    obtain rfl : frame = latest.frame := by
      have hresult := hmeasured.result
      rw [hok] at hresult
      exact Except.ok.inj hresult
    exact ⟨hmeasured.frameId.trans hid, hmeasured.capturedAt.trans htime⟩
  · obtain ⟨-, q, latest, -, -, hfrom⟩ := hcall.compensated frame hok hstatus
    exact ⟨hfrom.frameId.trans hid, hfrom.capturedAt.trans htime⟩

theorem frameOf_stored
    (h : Everywhere (EventLaw numerics basePolicyPalm cameras config) t) {e : Event Binary64 S}
    (he : e ∈ t) {stored : CloudUse Binary64 S} (hstored : e.stored? = some stored) :
    FrameOf (cameras stored.camera) stored.frame := by
  obtain ⟨pre, post, rfl⟩ := List.append_of_mem he
  have hlaw := h pre e post rfl
  cases e with
  | projected camera pose palm p =>
    cases hresult : p.result with
    | error e =>
      simp only [Event.stored?, hresult] at hstored
      cases hstored
    | ok frame =>
      simp only [Event.stored?, hresult] at hstored
      cases hstored
      exact ProjectedLaw.frameOf hlaw hresult
  | reused use => cases hstored
  | returned call result => cases hstored

/-! ## Lawful histories -/

theorem Lawful.snoc (h : Lawful numerics basePolicyPalm cameras config fit s t)
    {e : Event Binary64 S} (hother : e.projection? = none) (hstores : ¬e.Stores)
    (hlaw : EventLaw numerics basePolicyPalm cameras config t e) :
    Lawful numerics basePolicyPalm cameras config fit s (t ++ [e]) where
  law := h.law.snoc hlaw
  replay := by rw [projections_snoc_other t hother]; exact h.replay
  projector := by rw [projections_snoc_other t hother]; exact h.projector
  adapted := h.adapted
  cached := by
    intro cached hcached
    obtain ⟨e', stored, hlast, hrest⟩ := h.cached cached hcached
    exact ⟨e', stored, hlast.snoc hstores, hrest⟩
  retained := by rw [projections_snoc_other t hother]; exact h.retained

omit [FloatCast Binary64 S] in
@[simp] theorem wp_raised {α : Type} (r : Except PyException α)
    {Q : α → OwnerState Binary64 S → List (Event Binary64 S) → Prop}
    {X : TickException Binary64 S → OwnerState Binary64 S → List (Event Binary64 S) → Prop} :
    wp (raised r) Q X = fun s t =>
      (∀ a, r = .ok a → Q a s t) ∧ ∀ e, r = .error e → X (.raised e) s t := by
  funext s t
  unfold raised
  cases r with
  | ok a => simp [Except.mapError]
  | error e => simp [Except.mapError]

/-- **The images** that a call works with are those of its camera sample. -/
theorem wp_policyRgbd (h : Lawful numerics basePolicyPalm cameras config fit s t)
    {Q : PolicyRgbdInputs S → OwnerState Binary64 S → List (Event Binary64 S) → Prop}
    {X : TickException Binary64 S → OwnerState Binary64 S → List (Event Binary64 S) → Prop}
    (hQ : ∀ rgbd s', adapt config.stride (cameras id) = .ok rgbd →
      Lawful numerics basePolicyPalm cameras config fit s' t → Q rgbd s' t)
    (hX : ∀ e, X e s t) : wp (policyRgbd cameras config id) Q X s t := by
  unfold policyRgbd
  simp only [wp_bind, wp_read]
  cases hcached : s.adaptedPolicyRgbdCache.filter fun cached => cached.camera = id with
  | some cached =>
    obtain ⟨hsome, hid⟩ := Option.filter_eq_some_iff.mp hcached
    simp only [wp_ret]
    refine hQ _ s ?_ h
    rw [← of_decide_eq_true hid]
    exact h.adapted cached hsome
  | none =>
    simp only [wp_bind, wp_raised, wp_update, wp_ret]
    refine ⟨fun rgbd hadapt => hQ rgbd _ hadapt { h with adapted := ?_ }, fun e _ => hX _⟩
    rintro cached hsome
    cases hsome
    exact hadapt

/-- **After a call of the projector**: it obeys its law and continues the sequence; the caches are
as before. -/
structure AfterProject (numerics : Numerics Binary64)
    (fit : List (Vec 3 Binary64) → Binary64 → SphereFit Binary64)
    (cameras : CameraId → CameraSample Binary64 S) (config : OwnerConfig Binary64) (id : CameraId)
    (palm : Transform Binary64) (s s' : OwnerState Binary64 S) (t : List (Event Binary64 S))
    (p : Projection Binary64 S 128) : Prop where
  law : ProjectedLaw numerics cameras config t id palm p
  replay : projectAll numerics fit config.projector ((projections t ++ [p]).map (·.input)) .init =
    (.ok (), s'.projector, projections t ++ [p])
  projector : PointCloud.Lawful numerics config.projector s'.projector (projections t ++ [p])
  effectiveMask : p.effectiveMask = s'.projector.lastEffectiveObjectMask
  adapted : s'.adaptedPolicyRgbdCache = s.adaptedPolicyRgbdCache
  cached : s'.projectedPointcloudCache = s.projectedPointcloudCache
  retained : s'.retainedPointcloudSource = s.retainedPointcloudSource

theorem wp_callProject (h : Lawful numerics basePolicyPalm cameras config fit s t)
    {rgbd : PolicyRgbdInputs S} (hadapt : adapt config.stride (cameras id) = .ok rgbd)
    {Q : PolicyPointFrame Binary64 S 128 → OwnerState Binary64 S → List (Event Binary64 S) → Prop}
    {X : TickException Binary64 S → OwnerState Binary64 S → List (Event Binary64 S) → Prop}
    (hQ : ∀ frame s' p, p.result = .ok frame →
      AfterProject numerics fit cameras config id palm s s' t p →
      Q frame s' (t ++ [.projected id pose palm p]))
    (hX : ∀ e s' p, p.result = .error e →
      AfterProject numerics fit cameras config id palm s s' t p →
      X (.raised e) s' (t ++ [.projected id pose palm p])) :
    wp (callProject numerics fit cameras config id pose palm rgbd) Q X s t := by
  unfold callProject
  simp only [wp_bind, wp_ofStep, wp_read, wp_emit, wp_raised]
  generalize hrun : PointCloud.project numerics fit config.projector
    (projectInput (cameras id) rgbd palm) s.projector = run
  obtain ⟨hquiet, hcall, hretained⟩ := PointCloud.project_outcome h.projector.2 run hrun
  have hafter : AfterProject numerics fit cameras config id palm s
      { s with projector := run.2.1 } t
      ⟨projectInput (cameras id) rgbd palm, run.1, run.2.1.lastEffectiveObjectMask⟩ :=
    { law := ⟨⟨rgbd, hadapt, rfl⟩, hcall⟩
      replay := by
        rw [List.map_append]
        exact PointCloud.projectAll_snoc h.replay run hrun hquiet
      projector := ⟨h.projector.1.snoc hcall, hretained⟩
      effectiveMask := rfl
      adapted := rfl
      cached := rfl
      retained := rfl }
  refine ⟨fun result hresult => ?_, fun e herror => (by cases herror)⟩
  cases hresult
  exact ⟨fun frame hok => hQ frame _ _ hok hafter, fun e herror => hX e _ _ herror hafter⟩

/-! ## The retained source -/

omit [FloatArith S] [FloatCast Binary64 S] in
theorem RetainedSource.snoc {ps : List (Projection Binary64 S 128)} (h : RetainedSource s ps)
    (hretained : s'.retainedPointcloudSource = s.retainedPointcloudSource) (hfresh : ¬p.Fresh) :
    RetainedSource s' (ps ++ [p]) := by
  intro q hq
  rcases isLast_snoc_iff.mp hq with ⟨hp, -⟩ | ⟨-, hq⟩
  · exact (hfresh hp).elim
  · rw [hretained]
    exact h q hq

omit [FloatArith S] [FloatCast Binary64 S] in
theorem fresh_iff (hok : p.result = .ok frame) : p.Fresh ↔ frame.status = .fresh := by
  rw [Projection.Fresh, Projection.status?, hok]
  exact ⟨Option.some.inj, congrArg some⟩

theorem wp_visualSource (h : Lawful numerics basePolicyPalm cameras config fit s t)
    (hafter : AfterProject numerics fit cameras config id palm s s' t p)
    (hok : p.result = .ok frame) {t' : List (Event Binary64 S)}
    {Q : Option (RetainedPointcloudSource Binary64 S) → OwnerState Binary64 S →
      List (Event Binary64 S) → Prop}
    {X : TickException Binary64 S → OwnerState Binary64 S → List (Event Binary64 S) → Prop}
    (hQ : ∀ source retained, RetainedSource { s' with retainedPointcloudSource := retained }
      (projections t ++ [p]) → Q source { s' with retainedPointcloudSource := retained } t') :
    wp (visualSource cameras config id palm frame) Q X s' t' := by
  have hinput : p.input.capturedAtS = (cameras id).timestampS ∧
      p.input.frameId = (cameras id).frameId := by
    obtain ⟨rgbd, -, hinput⟩ := hafter.law.input
    rw [hinput]
    exact ⟨rfl, rfl⟩
  -- every status but a fresh one leaves the source
  have hkeep : frame.status ≠ .fresh → ∀ source, Q source s' t' := by
    intro hstatus source
    exact hQ source s'.retainedPointcloudSource
      (RetainedSource.snoc h.retained hafter.retained fun hp => hstatus ((fresh_iff hok).mp hp))
  unfold visualSource
  simp only [wp_bind, wp_read]
  cases hstatus : frame.status with
  | fresh =>
    obtain ⟨latest, hmeasured⟩ := hafter.law.call.fresh ((fresh_iff hok).mpr hstatus)
    have heffective := hafter.effectiveMask.symm.trans hmeasured.effectiveMask
    simp only [heffective, wp_bind, wp_runIf, wp_update, wp_ret]
    refine ⟨fun _ => hQ _ _ ?_, fun hfalse => absurd trivial hfalse⟩
    intro q hq
    rcases isLast_snoc_iff.mp hq with ⟨-, rfl⟩ | ⟨hfresh, -⟩
    · exact ⟨_, rfl, hinput.2.symm, hinput.1.symm⟩
    · exact (hfresh ((fresh_iff hok).mpr hstatus)).elim
  | motionCompensated =>
    obtain ⟨-, q, latest, -, -, hfrom⟩ := hafter.law.call.compensated frame hok hstatus
    have heffective := hafter.effectiveMask.symm.trans hfrom.effectiveMask
    simp only [heffective, wp_bind, wp_runIf, wp_update, wp_ret]
    refine ⟨fun hfalse => (by cases hfalse), fun _ => hkeep ?_ _⟩
    rw [hstatus]
    decide
  | stalePalm =>
    obtain ⟨-, q, latest, hlast, hmeasured, hsame⟩ := hafter.law.call.stale frame hok hstatus
    obtain ⟨source, hsource, hid, htime⟩ := h.retained q hlast
    simp only [hafter.retained.trans hsource, wp_bind, wp_check, wp_ret]
    refine ⟨fun hinconsistent => ?_, fun _ => hkeep ?_ _⟩
    · -- the source has the id and the time of the fresh frame
      exfalso
      have hframe : (source.camera.frameId : ℤ) = frame.frameId := by
        rw [hid, hsame.frameId, hmeasured.frameId]
      have hcaptured : source.camera.timestampS = frame.capturedAtS := by
        rw [htime, hsame.capturedAt, hmeasured.capturedAt]
      obtain ⟨-, before, after, hsplit, -⟩ := hlast
      have hfinite := (h.projector.1 before q after hsplit).finite latest.frame hmeasured.result
      rcases hinconsistent with hne | hne
      · exact hne hframe
      · have heqv : FloatArith.eqv frame.capturedAtS frame.capturedAtS = true := by
          refine Ieee.eqv_self (Ieee.isNaN_of_isFinite ?_)
          rw [← hcaptured, htime]
          exact hfinite
        rw [hcaptured, heqv] at hne
        cases hne
    · rw [hstatus]
      decide
  | invalidTooFewPoints =>
    simp only [wp_ret]
    refine hkeep ?_ _
    rw [hstatus]
    decide
  | invalidMotionFallbackRejected =>
    simp only [wp_ret]
    refine hkeep ?_ _
    rw [hstatus]
    decide

/-! ## The point frame -/

/-- **The history after a call of the projector** is lawful again, once the source and the cache are
what they have to be. -/
theorem AfterProject.lawful (h : Lawful numerics basePolicyPalm cameras config fit s t)
    (hafter : AfterProject numerics fit cameras config id palm s s' t p)
    (pose : FrankaPoseSample Binary64 S) (source : Option (RetainedPointcloudSource Binary64 S))
    (cache : Option (ProjectedPointcloudCache Binary64 S))
    (hretained : RetainedSource { s' with retainedPointcloudSource := source }
      (projections t ++ [p]))
    (hcached : ∀ cached, cache = some cached →
      ∃ e stored, IsLast Event.Stores e (t ++ [.projected id pose palm p]) ∧
        e.stored? = some stored ∧ stored.camera = cached.camera ∧
        stored.pose.cycle = cached.capturePoseCycle ∧ stored.palm = cached.tBasePalmAtCapture ∧
        stored.frame = cached.pointFrame) :
    Lawful numerics basePolicyPalm cameras config fit
      { s' with retainedPointcloudSource := source, projectedPointcloudCache := cache }
      (t ++ [.projected id pose palm p]) where
  law := h.law.snoc hafter.law
  replay := by rw [projections_snoc_projected]; exact hafter.replay
  projector := by rw [projections_snoc_projected]; exact hafter.projector
  adapted := by
    intro cached hsome
    exact h.adapted cached (hafter.adapted.symm.trans hsome)
  cached := hcached
  retained := by rw [projections_snoc_projected]; exact hretained

theorem AfterProject.lawful_error (h : Lawful numerics basePolicyPalm cameras config fit s t)
    (hafter : AfterProject numerics fit cameras config id palm s s' t p)
    (pose : FrankaPoseSample Binary64 S) {e : PyException} (herror : p.result = .error e) :
    Lawful numerics basePolicyPalm cameras config fit s' (t ++ [.projected id pose palm p]) ∧
      lastCloud (t ++ [.projected id pose palm p]) = none := by
  have hnone : (Event.projected id pose palm p).stored? = none := by
    simp only [Event.stored?, herror]
  have hfresh : ¬p.Fresh := by
    simp [Projection.Fresh, Projection.status?, herror]
  constructor
  · refine hafter.lawful h pose s'.retainedPointcloudSource s'.projectedPointcloudCache
      (RetainedSource.snoc h.retained hafter.retained hfresh) ?_
    intro cached hsome
    obtain ⟨e', stored, hlast, hrest⟩ := h.cached cached (hafter.cached.symm.trans hsome)
    refine ⟨e', stored, hlast.snoc ?_, hrest⟩
    simp [Event.Stores, hnone]
  · rw [lastCloud_snoc]
    exact hnone

/-- **The point frame of a call**: reused or projected, it is of the camera sample. -/
theorem wp_pointFrame (h : Lawful numerics basePolicyPalm cameras config fit s t)
    (hquiet : lastCloud t = none)
    {Q : PolicyPointFrame Binary64 S 128 × Option (RetainedPointcloudSource Binary64 S) →
      OwnerState Binary64 S → List (Event Binary64 S) → Prop}
    {X : TickException Binary64 S → OwnerState Binary64 S → List (Event Binary64 S) → Prop}
    (hQ : ∀ frame source s' t', Lawful numerics basePolicyPalm cameras config fit s' t' →
      lastCloud t' = some ⟨id, pose, palm, frame⟩ → FrameOf (cameras id) frame →
      Q (frame, source) s' t')
    (hX : ∀ e s' t', Lawful numerics basePolicyPalm cameras config fit s' t' →
      lastCloud t' = none → X e s' t') :
    wp (pointFrame numerics fit cameras config id pose palm) Q X s t := by
  unfold pointFrame
  rw [wp_bind]
  refine wp_policyRgbd h ?_ fun e => hX e s t h hquiet
  intro rgbd s₁ hadapt h₁
  simp only [wp_bind, wp_read]
  cases hcached : s₁.projectedPointcloudCache.filter fun cached => cached.matches id pose palm with
  | some cached =>
    simp only [wp_bind, wp_emit, wp_ret]
    obtain ⟨hsome, hmatches⟩ := Option.filter_eq_some_iff.mp hcached
    obtain ⟨e, stored, hlast, hstored, hcamera, hcycle, hpalm, hframe⟩ := h₁.cached cached hsome
    simp only [ProjectedPointcloudCache.matches, Bool.and_eq_true, decide_eq_true_eq] at hmatches
    obtain ⟨⟨hid, hpose⟩, hequal⟩ := hmatches
    have hframeOf : FrameOf (cameras id) cached.pointFrame := by
      obtain ⟨-, before, after, hsplit, -⟩ := hlast
      have hmem : e ∈ t := by
        rw [hsplit]
        exact List.mem_append_right _ (List.mem_cons_self ..)
      have hof := frameOf_stored h₁.law hmem hstored
      rwa [hcamera, hid, hframe] at hof
    have hreused : ReusedLaw t ⟨id, pose, palm, cached.pointFrame⟩ :=
      ⟨e, stored, hlast, hstored, hcamera.trans hid, hcycle.trans hpose, hpalm ▸ hequal,
        hframe.symm⟩
    exact hQ _ _ _ _ (h₁.snoc rfl (by simp [Event.Stores, Event.stored?]) hreused)
      (lastCloud_snoc _ _) hframeOf
  | none =>
    simp only [wp_bind]
    refine wp_callProject h₁ hadapt ?_ ?_
    · intro frame s₂ p hok hafter
      refine wp_visualSource h₁ hafter hok ?_
      intro source retained hretained
      simp only [wp_update, wp_ret]
      have hstored : (Event.projected id pose palm p).stored? = some ⟨id, pose, palm, frame⟩ := by
        simp only [Event.stored?, hok]
      refine hQ _ _ _ _ (hafter.lawful h₁ pose retained _ hretained ?_) ?_ (hafter.law.frameOf hok)
      · rintro cached hsome
        cases hsome
        exact ⟨_, _, isLast_snoc_self (by rw [Event.Stores, hstored]; rfl), hstored, rfl, rfl, rfl,
          rfl⟩
      · rw [lastCloud_snoc]
        exact hstored
    · intro e s₂ p herror hafter
      obtain ⟨hlawful, hnone⟩ := hafter.lawful_error h₁ pose herror
      exact hX _ _ _ hlawful hnone

end FrankaDeploy.LiveSnapshot
