import FrankaDeploy.Foundation.EndingRun
import FrankaDeploy.Foundation.Monitor
import FrankaDeploy.Rh56Stream.Frames

/-! # The motion gate

When the stream may move the hand: it is armed by a run of fresh measured frames and two checks of
the hand, it does not move once `request_stop` has returned but for the hold of its shutdown, and it
counts as stopped only after an idle window and a last release that was read back. -/

namespace FrankaDeploy.Rh56Stream

open FrankaDeploy.Foundation FrankaDeploy.Foundation.Program FrankaDeploy.Foundation.Monitor

variable {cal : PipelineCalibration} {selected : Fin 6 → Bool}

/-! ## Observations -/

structure Observation where
  loopStart : ℚ
  frame : TargetFrame

def StreamEvent.observation : StreamEvent → Option Observation
  | .taken loopStart frame => some ⟨loopStart, frame⟩
  | _ => none

/-- **The observations of a trace**, oldest first. -/
def observations (t : List StreamEvent) : List Observation :=
  t.filterMap StreamEvent.observation

@[simp] theorem observations_append (t w : List StreamEvent) :
    observations (t ++ w) = observations t ++ observations w :=
  List.filterMap_append

/-- **A fresh measured MANO frame**, when it was observed. -/
structure FreshMeasured (cal : PipelineCalibration) (o : Observation) : Prop where
  mano : o.frame.source = .mano
  measured : o.frame.depthSource = .measured
  captured : o.loopStart - o.frame.capturedAtMonotonic ≤ cal.trackingTimeoutSeconds
  evidence : ∃ evidence, o.frame.depthEvidenceAtMonotonic = some evidence ∧
    o.loopStart - evidence ≤ cal.trackingTimeoutSeconds

/-- **A frame within the bounds** of the one before it. -/
structure Close (cal : PipelineCalibration) (selected : Fin 6 → Bool) (before after : Observation) :
    Prop where
  gap : after.frame.capturedAtMonotonic - before.frame.capturedAtMonotonic ≤
    cal.armingMaxFrameGapSeconds
  delta : ∀ joint, selected joint = true →
    |after.frame.targets joint - before.frame.targets joint| ≤ cal.armingMaxTargetDeltaUnits

/-- **The observations arm the stream**: they end in enough consecutive fresh measured frames, each
within the bounds of the one before it. -/
def Arms (cal : PipelineCalibration) (selected : Fin 6 → Bool) (t : List StreamEvent) : Prop :=
  ∃ n : ℕ, cal.validFramesToArm ≤ n ∧
    EndsInRun (FreshMeasured cal) (Close cal selected) n (observations t)

/-! ## The law of the events -/

def StreamEvent.ofCaller : StreamEvent → Bool
  | .accepted _ | .stopRequested => true
  | _ => false

/-- **The checks of an arming**: after the observations that arm the stream the worker has read a
healthy feedback and then `ANGLE_SET` = -1 on all axes, and has done nothing else. -/
def Checked (cal : PipelineCalibration) (selected : Fin 6 → Bool) (t : List StreamEvent) : Prop :=
  ∃ seen between after,
    t = seen ++ .healthy false :: between ++ .angleSetRead disabled :: after ∧
      (∀ event ∈ between, event.ofCaller = true) ∧ (∀ event ∈ after, event.ofCaller = true) ∧
      Arms cal selected seen

/-- **What an event says about the events before it**: a numeric write of `ANGLE_SET` that is no hold
comes before the return of every `request_stop`, and an arming is checked. -/
def Gated (cal : PipelineCalibration) (selected : Fin 6 → Bool) (pre : List StreamEvent) :
    StreamEvent → Prop
  | .write .angleSet values purpose =>
    values ≠ disabled → purpose ≠ .hold → .stopRequested ∉ pre
  | .armed => Checked cal selected pre
  | _ => True

def StreamEvent.isHold : StreamEvent → Bool
  | .write .angleSet _ .hold => true
  | _ => false

def StreamEvent.movesHand : StreamEvent → Bool
  | .write .angleSet _ _ => true
  | _ => false

/-- **A confirmed stop**: an idle window of three samples, only settings after it, then the last
write of the run, which releases all six axes and is read back. -/
def Confirmed (t : List StreamEvent) : Prop :=
  ∃ before window settings after,
    t = before ++ .idleVerified window :: settings ++
        .write .angleSet disabled .setting :: .angleSetRead disabled :: after ∧
      window.length = 3 ∧ checkIdle window = .ok () ∧
      (∀ event ∈ settings, event.movesHand = false) ∧ (∀ event ∈ after, event.ofCaller = true)

/-! ## The invariant -/

def Loop.Counts (cal : PipelineCalibration) (selected : Fin 6 → Bool) (l : Loop)
    (t : List StreamEvent) : Prop :=
  EndsInRun (FreshMeasured cal) (Close cal selected) l.consecutiveValid (observations t) ∧
    (0 < l.consecutiveValid → ∃ last, (observations t).getLast? = some last ∧
      l.lastValidCapture = some last.frame.capturedAtMonotonic ∧
      l.lastArmingTargets = some last.frame.targets)

def StreamState.over (state : StreamState) : Bool := state == .stopped || state == .faultLatched

/-- **The shutdown has not begun.** -/
structure Running (state : StreamState) (stopConfirmed : Bool) (t : List StreamEvent) : Prop where
  hold : t.countP StreamEvent.isHold = 0
  unconfirmed : stopConfirmed = false
  state : state.over = false

/-- **What holds at a point of the worker.** -/
def WorkerPoint.Gate (cal : PipelineCalibration) (selected : Fin 6 → Bool) (state : StreamState)
    (stopConfirmed : Bool) (t : List StreamEvent) : WorkerPoint → Prop
  | .created | .opening | .preflighting =>
    Running state stopConfirmed t ∧ observations t = []
  | .top l | .snapshotting l _ | .gating l _ | .writing l _ _ _ | .feeding l _ =>
    Running state stopConfirmed t ∧ (state = .waitingForTracking → l.Counts cal selected t)
  | .arming _ _ => Running state stopConfirmed t ∧ Arms cal selected t
  | .confirming _ _ => Running state stopConfirmed t ∧
    ∃ seen between, t = seen ++ .healthy false :: between ∧
      (∀ event ∈ between, event.ofCaller = true) ∧ Arms cal selected seen
  | .activating _ _ => Running state stopConfirmed t ∧ Checked cal selected t
  | .raising _ | .leaving _ | .disabling _ => Running state stopConfirmed t
  | .closing _ _ | .finishing _ _ _ =>
    t.countP StreamEvent.isHold ≤ 1 ∧ state.over = false ∧ (stopConfirmed = true → Confirmed t)
  | .ended => t.countP StreamEvent.isHold ≤ 1 ∧ (state.over = true → stopConfirmed = true) ∧
    (stopConfirmed = true → Confirmed t)

/-- **The invariant.** -/
structure MotionGate (cal : PipelineCalibration) (selected : Fin 6 → Bool) (s : Stream)
    (t : List StreamEvent) : Prop where
  stop : .stopRequested ∈ t → s.shared.stopEvent = true
  active : s.shared.state = .active → .armed ∈ t
  events : Everywhere (Gated cal selected) t
  point : s.worker.Gate cal selected s.shared.state s.shared.stopConfirmed t

variable {t w : List StreamEvent} {state : StreamState} {stopConfirmed : Bool} {l : Loop}

/-! ## Events of the callers -/

theorem countP_callers (hw : ∀ event ∈ w, event.ofCaller = true) :
    (t ++ w).countP StreamEvent.isHold = t.countP StreamEvent.isHold := by
  have hnone : w.countP StreamEvent.isHold = 0 := by
    rw [List.countP_eq_zero]
    intro event hevent
    have hcaller := hw event hevent
    cases event with
    | accepted | stopRequested => simp [StreamEvent.isHold]
    | ticked | seeded | taken | healthy | angleSetRead | armed | write | idleVerified =>
      cases hcaller
  rw [List.countP_append, hnone, Nat.add_zero]

theorem observations_callers (hw : ∀ event ∈ w, event.ofCaller = true) : observations w = [] := by
  unfold observations
  rw [List.filterMap_eq_nil_iff]
  intro event hevent
  have hcaller := hw event hevent
  cases event with
  | accepted | stopRequested => rfl
  | ticked | seeded | taken | healthy | angleSetRead | armed | write | idleVerified => cases hcaller

theorem callers_append {u : List StreamEvent} (hu : ∀ event ∈ u, event.ofCaller = true)
    (hw : ∀ event ∈ w, event.ofCaller = true) : ∀ event ∈ u ++ w, event.ofCaller = true := by
  intro event hevent
  rcases List.mem_append.1 hevent with hevent | hevent
  · exact hu event hevent
  · exact hw event hevent

theorem Running.callers (h : Running state stopConfirmed t)
    (hw : ∀ event ∈ w, event.ofCaller = true) : Running state stopConfirmed (t ++ w) :=
  ⟨(countP_callers hw).trans h.hold, h.unconfirmed, h.state⟩

theorem Loop.Counts.congr {l' : Loop} {t' : List StreamEvent} (h : l.Counts cal selected t)
    (ht : observations t' = observations t) (hcount : l'.consecutiveValid = l.consecutiveValid)
    (hcapture : l'.lastValidCapture = l.lastValidCapture)
    (htargets : l'.lastArmingTargets = l.lastArmingTargets) : l'.Counts cal selected t' := by
  unfold Counts
  rw [ht, hcount, hcapture, htargets]
  exact h

/-- **Events of the callers keep what holds at a point.** -/
theorem WorkerPoint.Gate.callers {worker : WorkerPoint}
    (h : worker.Gate cal selected state stopConfirmed t)
    (hw : ∀ event ∈ w, event.ofCaller = true) :
    worker.Gate cal selected state stopConfirmed (t ++ w) := by
  have hobserved : observations (t ++ w) = observations t := by
    rw [observations_append, observations_callers hw, List.append_nil]
  have hconfirmed : Confirmed t → Confirmed (t ++ w) := by
    rintro ⟨before, window, settings, after, rfl, hlength, hidle, hsettings, hafter⟩
    exact ⟨before, window, settings, after ++ w, by simp, hlength, hidle, hsettings,
      callers_append hafter hw⟩
  cases worker with
  | created | opening | preflighting => exact ⟨h.1.callers hw, hobserved.trans h.2⟩
  | top l | snapshotting l | gating l | writing l | feeding l =>
    exact ⟨h.1.callers hw, fun hwaiting => (h.2 hwaiting).congr hobserved rfl rfl rfl⟩
  | arming =>
    obtain ⟨hrunning, n, hn, hrun⟩ := h
    exact ⟨hrunning.callers hw, n, hn, by rwa [hobserved]⟩
  | confirming =>
    obtain ⟨hrunning, seen, between, rfl, hbetween, harms⟩ := h
    exact ⟨hrunning.callers hw, seen, between ++ w, by simp, callers_append hbetween hw, harms⟩
  | activating =>
    obtain ⟨hrunning, seen, between, after, rfl, hbetween, hafter, harms⟩ := h
    exact ⟨hrunning.callers hw, seen, between, after ++ w, by simp, hbetween,
      callers_append hafter hw, harms⟩
  | raising | leaving | disabling => exact Running.callers h hw
  | closing | finishing =>
    obtain ⟨hhold, hstate, hstop⟩ := h
    exact ⟨(countP_callers hw).trans_le hhold, hstate, fun hc => hconfirmed (hstop hc)⟩
  | ended =>
    obtain ⟨hhold, hstate, hstop⟩ := h
    exact ⟨(countP_callers hw).trans_le hhold, hstate, fun hc => hconfirmed (hstop hc)⟩

/-! ## The shutdown -/

def Windowed (t : List StreamEvent) : Prop :=
  ∃ before window settings, t = before ++ .idleVerified window :: settings ∧ window.length = 3 ∧
    checkIdle window = .ok () ∧ ∀ event ∈ settings, event.movesHand = false

variable {s : Shared}

theorem wp_verifyPostReleaseStop (input : ShutdownInput) :
    wp (verifyPostReleaseStop input) (fun _ _ w => Windowed w) (fun _ _ _ => True) s t := by
  unfold verifyPostReleaseStop
  rw [wp_bind, wp_ofExcept]
  refine ⟨fun samples hsamples => ?_, fun _ _ => trivial⟩
  have hlength : samples.length = 5 := by
    rw [← (forall₂_of_mapM_ok hsamples).length_eq, List.length_finRange]
  rw [wp_bind, wp_ofExcept]
  refine ⟨fun _ hidle => ?_, fun _ _ => trivial⟩
  rw [wp_bind, wp_update, wp_emit]
  exact ⟨t, samples.drop 2, [], rfl, by rw [List.length_drop, hlength], hidle,
    fun _ h => absurd h List.not_mem_nil⟩

theorem keeps_windowed_restore {register : Register} (hregister : register ≠ .angleSet)
    (what : String) (original : Option Targets) (write : Except PyException Unit) :
    Keeps (fun _ w => Windowed w) (restore register what original write) := by
  unfold restore
  cases original with
  | none => exact keeps_ret _
  | some values =>
    have hquiet : (StreamEvent.write register values .setting).movesHand = false := by
      cases register with
      | angleSet => exact absurd rfl hregister
      | speedSet | forceSet => rfl
    apply Keeps.bind
    · apply Program.keeps_emit
      rintro s t ⟨before, window, settings, rfl, hlength, hidle, hsettings⟩
      refine ⟨before, window, settings ++ [.write register values .setting], by simp, hlength, hidle,
        ?_⟩
      intro event hevent
      rcases List.mem_append.1 hevent with hevent | hevent
      · exact hsettings event hevent
      · rwa [List.mem_singleton.1 hevent]
    · intro _
      cases write with
      | ok _ => exact keeps_ret _
      | error e => exact keeps_ret _

theorem wp_release (write : Except PyException Unit) (readback : Except PyException Targets) :
    wp (release write readback)
      (fun targets _ w => w = t ++ [.write .angleSet disabled .setting, .angleSetRead targets])
      (fun _ _ _ => True) s t := by
  unfold release
  rw [wp_bind, wp_emit, wp_bind, wp_ofExcept]
  refine ⟨fun _ _ => ?_, fun _ _ => trivial⟩
  rw [wp_bind, wp_ofExcept]
  refine ⟨fun targets _ => ?_, fun _ _ => trivial⟩
  rw [wp_bind, wp_emit, wp_bind, wp_update, wp_ret]
  exact List.append_assoc _ _ _

theorem wp_releaseAndRestore (input : ShutdownInput) (originals : Originals) (held : List String) :
    wp (releaseAndRestore input originals held) (fun _ _ w => Confirmed w) (fun _ _ _ => True)
      s t := by
  unfold releaseAndRestore
  rw [wp_bind]
  refine wp_mono (wp_release _ _) (fun first s t _ => ?_) fun _ _ _ _ => trivial
  rw [wp_bind, wp_check]
  refine ⟨fun _ => trivial, fun _ => ?_⟩
  rw [wp_bind, wp_attempt]
  refine wp_mono (wp_verifyPostReleaseStop input) (fun _ s t hwindow => ?_) fun stop s t _ => ?_
  · dsimp only
    refine (keeps_windowed_restore (by decide) _ _ _).wp_bind hwindow (fun speeds s t hwindow => ?_)
      fun _ _ _ _ => trivial
    refine (keeps_windowed_restore (by decide) _ _ _).wp_bind hwindow (fun forces s t hwindow => ?_)
      fun _ _ _ _ => trivial
    rw [wp_bind]
    refine wp_mono (wp_release _ _) (fun final s w hw => ?_) fun _ _ _ _ => trivial
    rw [wp_bind, wp_check]
    refine ⟨fun _ => trivial, fun hfinal => ?_⟩
    rw [wp_update]
    obtain ⟨before, window, settings, rfl, hlength, hidle, hsettings⟩ := hwindow
    refine ⟨before, window, settings, [], ?_, hlength, hidle, hsettings,
      fun _ h => absurd h List.not_mem_nil⟩
    rw [hw, not_not.1 hfinal]
  · -- the failure of the window stays
    unfold reassert
    rw [wp_bind, wp_attempt]
    refine wp_mono (wp_release _ _) (fun _ s t _ => ?_) fun _ s t _ => ?_
    · dsimp only
      rw [wp_fail]
      trivial
    · dsimp only
      rw [wp_fail]
      trivial

def HoldsAtMost (n : ℕ) (_ : Shared) (t : List StreamEvent) : Prop :=
  t.countP StreamEvent.isHold ≤ n

theorem untouched_holdsAtMost (n : ℕ) : Untouched (HoldsAtMost n) where
  event s t event hevent h := by
    unfold HoldsAtMost at h ⊢
    have hnone : [event].countP StreamEvent.isHold = 0 := by
      cases event with
      | write register values purpose =>
        cases purpose with
        | setting => cases register <;> rfl
        | motion | hold => cases register <;> cases hevent
      | accepted | stopRequested | ticked | seeded | taken | healthy | angleSetRead | armed
        | idleVerified => rfl
    rw [List.countP_append, hnone]
    exact h
  readback _ _ _ h := h
  verified _ _ h := h
  reason _ _ _ h := h

theorem wp_holdInPlace (input : ShutdownInput) (h : HoldsAtMost 0 s t) :
    wp (holdInPlace cal selected input) (fun _ => HoldsAtMost 1) (fun _ => HoldsAtMost 1) s t := by
  have hmore : ∀ (s : Shared) (t : List StreamEvent), HoldsAtMost 0 s t → HoldsAtMost 1 s t :=
    fun _ _ h => h.trans (Nat.zero_le 1)
  unfold holdInPlace
  refine (keeps_ofExcept _).wp_bind h (fun actual s t h => ?_) fun _ s t h => hmore s t h
  refine (keeps_check _ _).wp_bind h (fun _ s t h => ?_) fun _ s t h => hmore s t h
  refine (keeps_ofExcept _).wp_bind h (fun hold s t h => ?_) fun _ s t h => hmore s t h
  rw [wp_bind, wp_emit]
  have hone : HoldsAtMost 1 s (t ++ [.write .angleSet hold .hold]) := by
    unfold HoldsAtMost at h ⊢
    rw [List.countP_append]
    exact Nat.add_le_add_right h 1
  refine (keeps_ofExcept _).wp_bind hone (fun _ s t h => ?_) fun _ _ _ h => h
  refine (keeps_ofExcept _).wp_bind h (fun readback s t h => ?_) fun _ _ _ h => h
  exact keeps_check _ _ s t h

variable (cal selected) in
theorem wp_disable_holds (input : ShutdownInput) (stopInPlace : Bool) (originals : Originals)
    (h : HoldsAtMost 0 s t) :
    wp (disable cal selected input stopInPlace originals) (fun _ => HoldsAtMost 1)
      (fun _ => HoldsAtMost 1) s t := by
  have hrest (held : List String) (s : Shared) (t : List StreamEvent) (h : HoldsAtMost 1 s t) :=
    (untouched_holdsAtMost 1).keeps_releaseAndRestore input originals held s t h
  unfold disable degraded
  rw [wp_bind]
  split
  · rw [wp_bind, wp_attempt]
    refine wp_mono (wp_holdInPlace input h) (fun _ s t h => ?_) fun e s t h => ?_
    · dsimp only
      rw [wp_ret]
      exact hrest _ s t h
    · dsimp only
      rw [wp_ret]
      exact hrest _ s t h
  · rw [wp_ret]
    exact hrest _ s t (h.trans (Nat.zero_le 1))

variable (cal selected) in
theorem wp_disable_confirmed (input : ShutdownInput) (stopInPlace : Bool) (originals : Originals) :
    wp (disable cal selected input stopInPlace originals) (fun _ _ w => Confirmed w)
      (fun _ _ _ => True) s t := by
  unfold disable
  rw [wp_bind]
  refine wp_mono (wp_top _ s t) (fun held s t _ => ?_) fun _ _ _ _ => trivial
  exact wp_releaseAndRestore input originals held

/-! ## A tick -/

theorem counts_reset (l : Loop) (t : List StreamEvent) : l.reset.Counts cal selected t :=
  ⟨endsInRun_zero _, fun h => absurd h (Nat.lt_irrefl 0)⟩

theorem Loop.Counts.fitting {waiting : Bool} {tick : Tick} (h : l.Counts cal selected t) :
    (l.fitting cal waiting tick).Counts cal selected t := by
  unfold Loop.fitting
  split
  · exact counts_reset l t
  · exact h

theorem freshMeasured_of_admissible {loopStart : ℚ} {frame : TargetFrame}
    (h : admissible cal true loopStart frame = true) : FreshMeasured cal ⟨loopStart, frame⟩ := by
  have hmano : frame.source = .mano := by
    by_contra hmano
    simp [admissible, hmano] at h
  simp only [admissible, hmano, Bool.and_eq_true, Bool.or_eq_true, bne_self_eq_false,
    Bool.false_eq_true, false_or, beq_iff_eq, Bool.not_eq_true', Bool.not_true] at h
  obtain ⟨⟨hcaptured, hmeasured, hevidence⟩, -⟩ := h
  refine ⟨hmano, hmeasured, not_lt.1 (of_decide_eq_false hcaptured), ?_⟩
  unfold freshEvidence at hevidence
  split at hevidence
  · cases hevidence
  · rename_i evidence hsome
    have htime : timedOut cal loopStart evidence = false := by simpa using hevidence
    exact ⟨evidence, hsome, not_lt.1 (of_decide_eq_false htime)⟩

/-- **An admitted frame counts one more**, or starts a new run. -/
theorem Loop.Counts.admitted (h : l.Counts cal selected t) {loopStart : ℚ} {frame : TargetFrame}
    (hfresh : FreshMeasured cal ⟨loopStart, frame⟩) (hw : observations w = [⟨loopStart, frame⟩]) :
    (l.admitted cal selected frame).Counts cal selected (t ++ w) := by
  obtain ⟨hrun, hlast⟩ := h
  unfold Counts
  rw [observations_append, hw]
  refine ⟨?_, fun _ => ⟨⟨loopStart, frame⟩, List.getLast?_concat, rfl, rfl⟩⟩
  show EndsInRun _ _ (if l.withinFrameGap cal frame && l.withinTargetDelta cal selected frame then
    l.consecutiveValid + 1 else 1) _
  split
  · rename_i hwithin
    obtain ⟨hgap, hdelta⟩ := Bool.and_eq_true_iff.1 hwithin
    by_cases hcount : l.consecutiveValid = 0
    · rw [hcount]
      exact endsInRun_one _ hfresh
    · apply hrun.snoc hfresh
      intro before hbefore
      obtain ⟨last, hlast, hcapture, htargets⟩ := hlast (Nat.pos_of_ne_zero hcount)
      obtain rfl : last = before := Option.some.inj (hlast.symm.trans hbefore)
      unfold Loop.withinFrameGap at hgap
      unfold Loop.withinTargetDelta at hdelta
      rw [hcapture] at hgap
      rw [htargets] at hdelta
      exact ⟨of_decide_eq_true hgap, of_decide_eq_true hdelta⟩
  · exact endsInRun_one _ hfresh

/-- **A tick counts its observation** while the stream waits. -/
theorem Loop.Counts.take {tick : Tick} {taken : Loop × List StreamEvent}
    (h : l.Counts cal selected t) (htakes : l.Takes cal selected true tick taken) :
    taken.1.Counts cal selected (t ++ .ticked tick.loopStart tick.targetFrame :: taken.2) := by
  cases htakes with
  | missing | known =>
    apply h.fitting.congr _ rfl rfl rfl
    rw [observations_append]
    exact List.append_nil _
  | admitted frame hframe hgeneration hadmissible =>
    have hfit : ({ l.fitting cal true tick with lastGeneration := tick.generation } : Loop).Counts
        cal selected t := h.fitting.congr rfl rfl rfl rfl
    exact hfit.admitted (freshMeasured_of_admissible hadmissible) rfl
  | refused => exact counts_reset _ _

/-! ## Sections of the worker -/

/-- **What a section leaves** of the gate. -/
structure Passes (cal : PipelineCalibration) (selected : Fin 6 → Bool) (before : Stream)
    (t : List StreamEvent) (outcome : Stream × List StreamEvent) : Prop where
  stopEvent : outcome.1.shared.stopEvent = before.shared.stopEvent
  noRequest : .stopRequested ∉ outcome.2
  active : outcome.1.shared.state = .active →
    before.shared.state = .active ∨ .armed ∈ outcome.2
  events : Everywhere (Gated cal selected) (t ++ outcome.2)
  point : outcome.1.worker.Gate cal selected outcome.1.shared.state outcome.1.shared.stopConfirmed
    (t ++ outcome.2)

variable {stream : Stream} (hevents : Everywhere (Gated cal selected) t)
include hevents

theorem passes_nil {s' : Stream} (hstop : s'.shared.stopEvent = stream.shared.stopEvent)
    (hactive : s'.shared.state = .active → stream.shared.state = .active)
    (h : s'.worker.Gate cal selected s'.shared.state s'.shared.stopConfirmed t) :
    Passes cal selected stream t (s', []) := by
  refine ⟨hstop, List.not_mem_nil, fun h => .inl (hactive h), ?_, ?_⟩
  · rwa [List.append_nil]
  · rwa [List.append_nil]

theorem passes_one {s' : Stream} {event : StreamEvent}
    (hstop : s'.shared.stopEvent = stream.shared.stopEvent)
    (hactive : s'.shared.state = .active → stream.shared.state = .active ∨ event = .armed)
    (hevent : event ≠ .stopRequested) (hgated : Gated cal selected t event)
    (h : s'.worker.Gate cal selected s'.shared.state s'.shared.stopConfirmed (t ++ [event])) :
    Passes cal selected stream t (s', [event]) := by
  refine ⟨hstop, ?_, ?_, hevents.snoc hgated, h⟩
  · intro hmem
    exact hevent (List.mem_singleton.1 hmem).symm
  · intro h
    rcases hactive h with h | rfl
    · exact .inl h
    · exact .inr (List.mem_singleton.2 rfl)

variable (input : WorkerInput)

omit hevents in
theorem Running.append (h : Running state stopConfirmed t)
    (hw : w.countP StreamEvent.isHold = 0) : Running state stopConfirmed (t ++ w) := by
  refine ⟨?_, h.unconfirmed, h.state⟩
  rw [List.countP_append, h.hold, hw]

omit hevents in
theorem mem_writes {outcome : PreflightOutcome} {event : StreamEvent}
    (h : event ∈ outcome.writes) : ∃ register values, register ≠ .angleSet ∧
      event = .write register values .setting := by
  rcases List.mem_append.1 h with h | h
  · obtain ⟨values, -, rfl⟩ := List.mem_map.1 h
    exact ⟨.speedSet, values, by decide, rfl⟩
  · obtain ⟨values, -, rfl⟩ := List.mem_map.1 h
    exact ⟨.forceSet, values, by decide, rfl⟩

omit hevents in
variable (cal selected) in
theorem setting_harmless {register : Register} (hregister : register ≠ .angleSet)
    (values : Targets) (pre : List StreamEvent) :
    Gated cal selected pre (.write register values .setting) ∧
      StreamEvent.isHold (.write register values .setting) = false ∧
      StreamEvent.observation (.write register values .setting) = none := by
  cases register with
  | angleSet => exact absurd rfl hregister
  | speedSet | forceSet => exact ⟨trivial, rfl, rfl⟩

theorem passes_preflight
    (h : WorkerPoint.preflighting.Gate cal selected stream.shared.state
      stream.shared.stopConfirmed t) :
    Passes cal selected stream t (stream.preflight cal selected input) := by
  obtain ⟨hrunning, hobserved⟩ := h
  have hwrites : ∀ event ∈ input.preflight.writes, ∀ pre, Gated cal selected pre event := by
    intro event hevent pre
    obtain ⟨register, values, hregister, rfl⟩ := mem_writes hevent
    exact (setting_harmless cal selected hregister values pre).1
  have hnoRequest : .stopRequested ∉ input.preflight.writes := by
    intro hmem
    obtain ⟨_, _, -, h⟩ := mem_writes hmem
    cases h
  have hholds : input.preflight.writes.countP StreamEvent.isHold = 0 := by
    rw [List.countP_eq_zero]
    intro event hevent
    obtain ⟨register, values, hregister, rfl⟩ := mem_writes hevent
    rw [(setting_harmless cal selected hregister values []).2.1]
    decide
  have hnone : observations input.preflight.writes = [] := by
    unfold observations
    rw [List.filterMap_eq_nil_iff]
    intro event hevent
    obtain ⟨register, values, hregister, rfl⟩ := mem_writes hevent
    exact (setting_harmless cal selected hregister values []).2.2
  unfold Stream.preflight
  dsimp only
  cases input.preflight.result with
  | error e =>
    exact ⟨rfl, hnoRequest, .inl, hevents.append hwrites, hrunning.append hholds⟩
  | ok angles =>
    dsimp only
    have hwaiting : Running .waitingForTracking stream.shared.stopConfirmed
        (t ++ input.preflight.writes) :=
      ⟨(hrunning.append hholds).hold, hrunning.unconfirmed, rfl⟩
    cases selectedCommandsFromActual cal selected angles with
    | error e => exact ⟨rfl, hnoRequest, nofun, hevents.append hwrites, hwaiting⟩
    | ok seed =>
      refine ⟨rfl, ?_, nofun, ?_, ?_, fun _ => ?_⟩
      · intro hmem
        rcases List.mem_append.1 hmem with hmem | hmem
        · exact hnoRequest hmem
        · cases List.mem_singleton.1 hmem
      · rw [← List.append_assoc]
        exact (hevents.append hwrites).snoc trivial
      · rw [← List.append_assoc]
        exact hwaiting.append rfl
      · exact ⟨endsInRun_zero _, fun h => absurd h (Nat.lt_irrefl 0)⟩

theorem passes_arm {l : Loop} {tick : Tick}
    (h : (WorkerPoint.arming l tick).Gate cal selected stream.shared.state
      stream.shared.stopConfirmed t) :
    Passes cal selected stream t (stream.arm cal selected input l tick) := by
  obtain ⟨hrunning, harms⟩ := h
  unfold Stream.arm
  split
  · exact passes_nil hevents rfl id hrunning
  · cases input.readSafetyFeedback cal selected l.sent false with
    | error e => exact passes_nil hevents rfl id hrunning
    | ok _ =>
      refine passes_one hevents rfl .inl (by simp) trivial ⟨hrunning.append rfl, t, [], rfl, ?_, harms⟩
      exact fun _ h => absurd h List.not_mem_nil

theorem passes_confirm {l : Loop} {tick : Tick}
    (h : (WorkerPoint.confirming l tick).Gate cal selected stream.shared.state
      stream.shared.stopConfirmed t) :
    Passes cal selected stream t (stream.confirm input l tick) := by
  obtain ⟨hrunning, seen, between, rfl, hbetween, harms⟩ := h
  unfold Stream.confirm
  split
  · exact passes_nil hevents rfl id hrunning
  · cases input.angleSet with
    | error e => exact passes_nil hevents rfl id hrunning
    | ok targets =>
      dsimp only
      split
      · exact passes_one hevents rfl .inl (by simp) trivial (hrunning.append rfl)
      · rename_i htargets
        refine passes_one hevents rfl .inl (by simp) trivial ⟨hrunning.append rfl, seen, between, [], ?_,
          hbetween, fun _ h => absurd h List.not_mem_nil, harms⟩
        rw [not_not.1 htargets]

theorem passes_activate {l : Loop} {tick : Tick}
    (h : (WorkerPoint.activating l tick).Gate cal selected stream.shared.state
      stream.shared.stopConfirmed t) :
    Passes cal selected stream t (stream.activate l tick) := by
  obtain ⟨hrunning, hchecked⟩ := h
  unfold Stream.activate
  split
  · exact passes_nil hevents rfl id hrunning
  · have hactive := hrunning.append (w := [.armed]) rfl
    refine passes_one hevents rfl (fun _ => .inr rfl) (by simp) hchecked
      ⟨⟨hactive.hold, hactive.unconfirmed, rfl⟩, fun hwaiting => ?_⟩
    cases hwaiting

theorem passes_snapshot {l : Loop} {loopStart : ℚ}
    (h : (WorkerPoint.snapshotting l loopStart).Gate cal selected stream.shared.state
      stream.shared.stopConfirmed t) :
    Passes cal selected stream t (stream.snapshot cal selected l loopStart) := by
  obtain ⟨hrunning, hcounts⟩ := h
  have htakes := l.takes cal selected
    (stream.shared.state == .waitingForTracking)
    ⟨loopStart, stream.shared.latestTarget, stream.shared.targetGeneration⟩
  unfold Stream.snapshot
  dsimp only
  generalize l.take cal selected (stream.shared.state == .waitingForTracking)
    ⟨loopStart, stream.shared.latestTarget, stream.shared.targetGeneration⟩ = taken at htakes ⊢
  have hcounted (hwaiting : stream.shared.state = .waitingForTracking) : taken.1.Counts cal selected
      (t ++ .ticked loopStart stream.shared.latestTarget :: taken.2) := by
    have hwait : (stream.shared.state == .waitingForTracking) = true := by
      rw [hwaiting]
      rfl
    rw [hwait] at htakes
    exact (hcounts hwaiting).take htakes
  -- the events of a tick say nothing
  have hquiet : .stopRequested ∉ taken.2 ∧ taken.2.countP StreamEvent.isHold = 0 ∧
      ∀ event ∈ taken.2, ∀ pre, Gated cal selected pre event := by
    cases htakes with
    | missing | known =>
      exact ⟨List.not_mem_nil, rfl, fun _ h => absurd h List.not_mem_nil⟩
    | admitted | refused =>
      refine ⟨fun h => absurd (List.mem_singleton.1 h) (by simp), rfl, fun event h pre => ?_⟩
      rw [List.mem_singleton.1 h]
      trivial
  have hrunning' : Running stream.shared.state stream.shared.stopConfirmed
      (t ++ .ticked loopStart stream.shared.latestTarget :: taken.2) := by
    apply hrunning.append
    rw [List.countP_cons, hquiet.2.1]
    rfl
  refine ⟨rfl, ?_, .inl, ?_, ?_⟩
  · intro hmem
    rcases List.mem_cons.1 hmem with hmem | hmem
    · cases hmem
    · exact hquiet.1 hmem
  · apply hevents.append
    intro event hmem pre
    rcases List.mem_cons.1 hmem with rfl | hmem
    · trivial
    · exact hquiet.2.2 event hmem pre
  · show WorkerPoint.Gate _ _ _ _ _ (if _ then _ else _)
    split
    · rename_i harm
      obtain ⟨hwaiting, hcount⟩ := Bool.and_eq_true_iff.1 harm
      have hrun := hcounted (by simpa using hwaiting)
      exact ⟨hrunning', _, of_decide_eq_true hcount, hrun.1⟩
    · exact ⟨hrunning', hcounted⟩

/-- **The motion write** is not made once a stop was requested. -/
theorem passes_write (hstop : .stopRequested ∈ t → stream.shared.stopEvent = true) {l : Loop}
    {tick : Tick} {dt : ℚ} {previous : Targets}
    (h : (WorkerPoint.writing l tick dt previous).Gate cal selected stream.shared.state
      stream.shared.stopConfirmed t) :
    Passes cal selected stream t (stream.write input l tick dt previous) := by
  obtain ⟨hrunning, hcounts⟩ := h
  unfold Stream.write
  split
  · exact passes_nil hevents rfl id hrunning
  · rename_i hopen
    have hgated : Gated cal selected t
        (.write .angleSet l.sent (.motion tick.loopStart dt previous)) :=
      fun _ _ hrequested => hopen (hstop hrequested)
    cases input.result with
    | error e => exact passes_one hevents rfl .inl (by simp) hgated (hrunning.append rfl)
    | ok _ =>
      refine passes_one hevents rfl .inl (by simp) hgated
        ⟨hrunning.append rfl, fun hwaiting => (hcounts hwaiting).congr ?_ rfl rfl rfl⟩
      rw [observations_append]
      exact List.append_nil _

theorem passes_feed {l : Loop} {tick : Tick}
    (h : (WorkerPoint.feeding l tick).Gate cal selected stream.shared.state
      stream.shared.stopConfirmed t) :
    Passes cal selected stream t (stream.feed cal selected input l tick) := by
  obtain ⟨hrunning, hcounts⟩ := h
  unfold Stream.feed
  split
  · cases input.readSafetyFeedback cal selected l.sent stream.shared.everActive with
    | error e => exact passes_nil hevents rfl id hrunning
    | ok _ =>
      refine passes_one hevents rfl .inl (by simp) trivial
        ⟨hrunning.append rfl, fun hwaiting => (hcounts hwaiting).congr ?_ rfl rfl rfl⟩
      rw [observations_append]
      exact List.append_nil _
  · exact passes_nil hevents rfl id
      ⟨hrunning, fun hwaiting => (hcounts hwaiting).congr rfl rfl rfl rfl⟩

omit hevents in
structure Calm (cal : PipelineCalibration) (selected : Fin 6 → Bool) (before s : Shared)
    (w : List StreamEvent) : Prop where
  state : s.state = before.state
  stopEvent : s.stopEvent = before.stopEvent
  stopConfirmed : s.stopConfirmed = before.stopConfirmed
  noRequest : .stopRequested ∉ w
  events : ∀ event ∈ w, ∀ pre, Gated cal selected pre event

omit hevents in
theorem Calm.snoc {before s : Shared} {event : StreamEvent} (h : Calm cal selected before s w)
    (hrequest : event ≠ .stopRequested) (hevent : ∀ pre, Gated cal selected pre event) :
    Calm cal selected before s (w ++ [event]) := by
  refine ⟨h.state, h.stopEvent, h.stopConfirmed, ?_, ?_⟩
  · intro hmem
    rcases List.mem_append.1 hmem with hmem | hmem
    · exact h.noRequest hmem
    · exact hrequest (List.mem_singleton.1 hmem).symm
  · intro e hmem
    rcases List.mem_append.1 hmem with hmem | hmem
    · exact h.events e hmem
    · rwa [List.mem_singleton.1 hmem]

omit hevents in
variable (cal selected) in
theorem untouched_calm (before : Shared) : Untouched (Calm cal selected before) where
  event s w event hevent h := by
    apply h.snoc
    · rintro rfl
      cases hevent
    · intro pre
      cases event with
      | write register values purpose =>
        cases purpose with
        | motion | hold => cases register <;> cases hevent
        | setting =>
          cases register with
          | angleSet => exact fun hnumeric => absurd (of_decide_eq_true hevent) hnumeric
          | speedSet | forceSet => trivial
      | angleSetRead | idleVerified => trivial
      | accepted | stopRequested | ticked | seeded | taken | healthy | armed => cases hevent
  readback _ _ _ h := ⟨h.state, h.stopEvent, h.stopConfirmed, h.noRequest, h.events⟩
  verified _ _ h := ⟨h.state, h.stopEvent, h.stopConfirmed, h.noRequest, h.events⟩
  reason _ _ _ h := ⟨h.state, h.stopEvent, h.stopConfirmed, h.noRequest, h.events⟩

theorem passes_shutdown {operationError : Option PyException}
    (hrunning : Running stream.shared.state stream.shared.stopConfirmed t) :
    Passes cal selected stream t (stream.shutdown cal selected input operationError) := by
  have hcalm := wp_outcome ((untouched_calm cal selected stream.shared).keeps_disable cal selected
    (fun s w values h => h.snoc (by simp) fun pre _ hhold => absurd rfl hhold)
    input.shutdown (stream.shared.everActive && operationError.isNone) stream.originals
    stream.shared [] ⟨rfl, rfl, rfl, List.not_mem_nil, fun _ h => absurd h List.not_mem_nil⟩)
  have hholds := wp_outcome (wp_disable_holds cal selected (t := [])
    (s := stream.shared) input.shutdown (stream.shared.everActive && operationError.isNone)
    stream.originals (Nat.le_refl 0))
  have hconfirmed := wp_disable_confirmed cal selected (t := [])
    (s := stream.shared) input.shutdown (stream.shared.everActive && operationError.isNone)
    stream.originals
  have hcount (w : List StreamEvent) (hw : w.countP StreamEvent.isHold ≤ 1) :
      (t ++ w).countP StreamEvent.isHold ≤ 1 := by
    rw [List.countP_append, hrunning.hold]
    omega
  unfold Stream.shutdown
  unfold wp at hconfirmed
  generalize disable cal selected input.shutdown
    (stream.shared.everActive && operationError.isNone) stream.originals stream.shared = outcome
    at hcalm hholds hconfirmed ⊢
  obtain ⟨result, shared, events⟩ := outcome
  have hstate : shared.state.over = false := by
    rw [show shared.state = stream.shared.state from hcalm.state]
    exact hrunning.state
  have hactive : shared.state = .active → stream.shared.state = .active ∨ .armed ∈ events :=
    fun h => .inl (hcalm.state ▸ h)
  cases result with
  | ok _ =>
    refine ⟨hcalm.stopEvent, hcalm.noRequest, hactive, hevents.append hcalm.events,
      hcount events hholds, hstate, fun _ => ?_⟩
    obtain ⟨before, window, settings, after, hsplit, hrest⟩ := hconfirmed
    refine ⟨t ++ before, window, settings, after, ?_, hrest⟩
    show t ++ events = _
    rw [show events = _ from hsplit]
    simp
  | error e =>
    refine ⟨hcalm.stopEvent, hcalm.noRequest, hactive, hevents.append hcalm.events,
      hcount events hholds, hstate, fun hconfirmed => ?_⟩
    cases hconfirmed

omit hevents in
theorem passes_work (h : MotionGate cal selected stream t) :
    Passes cal selected stream t (stream.work cal selected input) := by
  obtain ⟨hstop, hactive, hevents, hpoint⟩ := h
  unfold Stream.work
  cases hworker : stream.worker with
  | created => exact passes_nil hevents rfl id (by rw [hworker] at hpoint ⊢; exact hpoint)
  | opening =>
    rw [hworker] at hpoint
    obtain ⟨hrunning, hobserved⟩ := hpoint
    cases input.result with
    | error e =>
      refine passes_nil hevents rfl id ⟨hrunning.hold.trans_le (Nat.zero_le 1), hrunning.state, ?_⟩
      intro hconfirmed
      rw [show (stream.shared.fail e).stopConfirmed = false from hrunning.unconfirmed] at hconfirmed
      cases hconfirmed
    | ok _ => exact passes_nil hevents rfl id ⟨hrunning, hobserved⟩
  | preflighting =>
    rw [hworker] at hpoint
    exact passes_preflight hevents input hpoint
  | top l =>
    rw [hworker] at hpoint
    dsimp only
    unfold Stream.loopTop
    split
    · exact passes_nil hevents rfl id hpoint.1
    · exact passes_nil hevents rfl id hpoint
  | snapshotting l loopStart =>
    rw [hworker] at hpoint
    exact passes_snapshot hevents hpoint
  | arming l tick =>
    rw [hworker] at hpoint
    exact passes_arm hevents input hpoint
  | confirming l tick =>
    rw [hworker] at hpoint
    exact passes_confirm hevents input hpoint
  | activating l tick =>
    rw [hworker] at hpoint
    exact passes_activate hevents hpoint
  | gating l tick =>
    rw [hworker] at hpoint
    obtain ⟨hrunning, hcounts⟩ := hpoint
    dsimp only
    unfold Stream.gate
    split
    · exact passes_nil hevents rfl id ⟨hrunning, hcounts⟩
    split
    · exact passes_nil hevents rfl id hrunning
    dsimp only
    split
    · exact passes_nil hevents rfl id hrunning
    · exact passes_nil hevents rfl id
        ⟨hrunning, fun hwaiting => (hcounts hwaiting).congr rfl rfl rfl rfl⟩
  | writing l tick dt previous =>
    rw [hworker] at hpoint
    exact passes_write hevents input hstop hpoint
  | feeding l tick =>
    rw [hworker] at hpoint
    exact passes_feed hevents input hpoint
  | raising e =>
    rw [hworker] at hpoint
    have hrunning : Running stream.shared.state stream.shared.stopConfirmed t := hpoint
    exact passes_nil hevents rfl id hrunning
  | leaving operationError =>
    rw [hworker] at hpoint
    have hrunning : Running stream.shared.state stream.shared.stopConfirmed t := hpoint
    exact passes_nil hevents rfl (fun h => by cases h)
      ⟨hrunning.hold, hrunning.unconfirmed, rfl⟩
  | disabling operationError =>
    rw [hworker] at hpoint
    exact passes_shutdown hevents input hpoint
  | closing operationError stopError =>
    rw [hworker] at hpoint
    dsimp only
    unfold Stream.close
    split
    · exact passes_nil hevents rfl id hpoint
    · exact passes_nil hevents rfl id hpoint
  | finishing operationError stopError contextOpened =>
    rw [hworker] at hpoint
    obtain ⟨hhold, -, hconfirmed⟩ := hpoint
    refine passes_nil hevents rfl ?_ ⟨hhold, ?_, ?_⟩
    · intro h
      change finalState _ operationError stopError contextOpened = .active at h
      unfold finalState at h
      split at h
      · cases h
      split at h
      · split at h <;> cases h
      · split at h <;> cases h
    · intro hover
      change (finalState (stream.shared.stopConfirmed && stopError.isNone) operationError stopError
        contextOpened).over = true at hover
      show (stream.shared.stopConfirmed && stopError.isNone) = true
      generalize (stream.shared.stopConfirmed && stopError.isNone) = confirmed at hover ⊢
      cases confirmed with
      | true => rfl
      | false =>
        unfold finalState at hover
        split at hover
        · cases hover
        split at hover
        · cases hover
        · rw [Bool.not_false, Bool.or_true] at hover
          cases hover
    · intro h
      exact hconfirmed (Bool.and_eq_true_iff.1 h).1
  | ended => exact passes_nil hevents rfl id (by rw [hworker] at hpoint ⊢; exact hpoint)

/-! ## Runs -/

omit hevents in
theorem motionGate_caller (h : MotionGate cal selected stream t) {shared : Shared}
    (hw : ∀ event ∈ w, event.ofCaller = true) (hstate : shared.state = stream.shared.state)
    (hconfirmed : shared.stopConfirmed = stream.shared.stopConfirmed)
    (hkeeps : stream.shared.stopEvent = true → shared.stopEvent = true)
    (hrequest : .stopRequested ∈ w → shared.stopEvent = true) :
    MotionGate cal selected { stream with shared := shared } (t ++ w) := by
  constructor
  · intro hmem
    rcases List.mem_append.1 hmem with hmem | hmem
    · exact hkeeps (h.stop hmem)
    · exact hrequest hmem
  · intro hactive
    exact List.mem_append_left _ (h.active (hstate ▸ hactive))
  · apply h.events.append
    intro event hevent pre
    have hcaller := hw event hevent
    cases event with
    | accepted | stopRequested => trivial
    | ticked | seeded | taken | healthy | angleSetRead | armed | write | idleVerified =>
      cases hcaller
  · show stream.worker.Gate cal selected shared.state shared.stopConfirmed (t ++ w)
    rw [hstate, hconfirmed]
    exact h.point.callers hw

omit hevents in
theorem motionGate_step (s : Stream) (t : List StreamEvent) (i : StreamInput)
    (h : MotionGate cal selected s t) :
    MotionGate cal selected ((machine cal selected).step s i).1
      (t ++ ((machine cal selected).step s i).2) := by
  cases i with
  | start =>
    show MotionGate cal selected s.start (t ++ [])
    rw [List.append_nil]
    unfold Stream.start
    split
    · rename_i hworker
      have hpoint := h.point
      rw [hworker] at hpoint
      obtain ⟨hrunning, hobserved⟩ := hpoint
      exact ⟨h.stop, nofun, h.events, ⟨hrunning.hold, hrunning.unconfirmed, rfl⟩, hobserved⟩
    · exact h
  | submit frame early =>
    show MotionGate cal selected
      { s with shared := (s.shared.submit cal selected frame early).2.1 } _
    rcases submit_cases cal selected s.shared frame early with
      hnone | ⟨accepted, -, -, -, -, -, hsome⟩
    · rw [show ((machine cal selected).step s (.submit frame early)).2 =
        (s.shared.submit cal selected frame early).2.2 from rfl, hnone, List.append_nil]
      exact h
    · rw [show ((machine cal selected).step s (.submit frame early)).2 =
        (s.shared.submit cal selected frame early).2.2 from rfl, hsome]
      refine motionGate_caller h ?_ rfl rfl id ?_
      · intro event hevent
        rw [List.mem_singleton.1 hevent]
        rfl
      · intro hmem
        cases List.mem_singleton.1 hmem
  | requestStop reason =>
    refine motionGate_caller h ?_ rfl rfl (fun _ => rfl) fun _ => rfl
    intro event hevent
    rw [List.mem_singleton.1 hevent]
    rfl
  | work input =>
    have hpasses := passes_work input h
    show MotionGate cal selected (s.work cal selected input).1
      (t ++ (s.work cal selected input).2)
    refine ⟨?_, ?_, hpasses.events, hpasses.point⟩
    · intro hmem
      rw [hpasses.stopEvent]
      rcases List.mem_append.1 hmem with hmem | hmem
      · exact h.stop hmem
      · exact absurd hmem hpasses.noRequest
    · intro hactive
      rcases hpasses.active hactive with hactive | hmem
      · exact List.mem_append_left _ (h.active hactive)
      · exact List.mem_append_right _ hmem

omit hevents in
variable (cal selected) in
theorem motionGate_run (inputs : List StreamInput) :
    MotionGate cal selected ((machine cal selected).run .init inputs)
      ((machine cal selected).trace .init inputs) := by
  apply (machine cal selected).monitor_induction (P := MotionGate cal selected)
  · exact ⟨fun h => absurd h List.not_mem_nil, nofun, everywhere_nil, ⟨rfl, rfl, rfl⟩, rfl⟩
  · exact motionGate_step

omit hevents in
theorem WorkerPoint.Gate.ending {worker : WorkerPoint}
    (h : worker.Gate cal selected state stopConfirmed t) :
    t.countP StreamEvent.isHold ≤ 1 ∧ (stopConfirmed = true → Confirmed t) ∧
      (state.over = true → stopConfirmed = true) := by
  have hearly : Running state stopConfirmed t → t.countP StreamEvent.isHold ≤ 1 ∧
      (stopConfirmed = true → Confirmed t) ∧ (state.over = true → stopConfirmed = true) := by
    intro hrunning
    refine ⟨hrunning.hold.trans_le (Nat.zero_le 1), fun hc => ?_, fun hc => ?_⟩
    · rw [hrunning.unconfirmed] at hc
      cases hc
    · rw [hrunning.state] at hc
      cases hc
  cases worker with
  | created | opening | preflighting | top | snapshotting | gating | writing | feeding | arming
    | confirming | activating => exact hearly h.1
  | raising | leaving | disabling => exact hearly h
  | closing | finishing =>
    obtain ⟨hhold, hstate, hconfirmed⟩ := h
    refine ⟨hhold, hconfirmed, fun hc => ?_⟩
    rw [hstate] at hc
    cases hc
  | ended => exact ⟨h.1, h.2.2, h.2.1⟩

omit hevents in
/-- **The motion gate.** In every run, whatever the callers and the hand do:
(a) once `request_stop` has returned, the only numeric write of `ANGLE_SET` is the one hold;
(b) the stream is active only after it was armed, and each arming is checked;
(c) each accepted frame is newer than those before it, and fallback frames are accepted in the state
`ACTIVE` only;
(d) a confirmed stop is one, and the run ends as `STOPPED` or `FAULT_LATCHED` only with it. -/
theorem motion_gate (cal : PipelineCalibration) (selected : Fin 6 → Bool)
    (inputs : List StreamInput) :
    let s := (machine cal selected).run .init inputs
    let t := (machine cal selected).trace .init inputs
    (∀ pre values purpose post, t = pre ++ .write .angleSet values purpose :: post →
      .stopRequested ∈ pre → values ≠ disabled → purpose = .hold) ∧
    t.countP StreamEvent.isHold ≤ 1 ∧
    (s.shared.state = .active → .armed ∈ t) ∧
    (∀ pre post, t = pre ++ .armed :: post → Checked cal selected pre) ∧
    (acceptedFrames t).Pairwise Newer ∧
    (∀ pre i post frame, inputs = pre ++ i :: post →
      .accepted frame ∈ ((machine cal selected).step ((machine cal selected).run .init pre) i).2 →
      frame.source = .fallbackOpen →
      ((machine cal selected).run .init pre).shared.state = .active) ∧
    (s.shared.stopConfirmed = true → Confirmed t) ∧
    (s.shared.state = .stopped ∨ s.shared.state = .faultLatched →
      s.shared.stopConfirmed = true) := by
  intro s t
  obtain ⟨-, hactive, hevents, hpoint⟩ :=
    motionGate_run cal selected inputs
  obtain ⟨hhold, hconfirmed, hover⟩ := hpoint.ending
  have hframes := frames_run cal selected inputs
  refine ⟨?_, hhold, hactive, fun pre post hsplit => hevents pre _ post hsplit, ?_, ?_, hconfirmed,
    ?_⟩
  · intro pre values purpose post hsplit hrequested hnumeric
    by_contra hpurpose
    exact hevents pre _ post hsplit hnumeric hpurpose hrequested
  · have htrans : IsTrans TargetFrame Newer :=
      ⟨fun _ _ _ h h' => ⟨h.1.trans h'.1, h.2.trans h'.2⟩⟩
    exact List.isChain_iff_pairwise.1 hframes.ordered
  · intro pre i post frame _ haccepted hsource
    exact fallback_active haccepted hsource
  · rintro (hstate | hstate)
    · exact hover (by rw [hstate]; rfl)
    · exact hover (by rw [hstate]; rfl)

end FrankaDeploy.Rh56Stream
