import FrankaDeploy.Rh56Stream.Frames
import FrankaDeploy.Rh56Stream.RateLaw

/-! # What the motion writes move towards

Every motion write is a rate-limited step from the last commands towards the targets of the last
frame without held depth that a tick has taken. A frame with held depth refreshes the watchdog with
the time of its evidence, but its targets are never taken. -/

namespace FrankaDeploy.Rh56Stream

open FrankaDeploy.Foundation FrankaDeploy.Foundation.Program

variable {cal : PipelineCalibration} {selected : Fin 6 → Bool}

/-! ## Taken frames and commands of a trace -/

def StreamEvent.takenFrame : StreamEvent → Option TargetFrame
  | .taken _ frame => some frame
  | _ => none

/-- **The frames that were new to a tick**, oldest first. -/
def takenFrames (t : List StreamEvent) : List TargetFrame :=
  t.filterMap StreamEvent.takenFrame

@[simp] theorem takenFrames_append (t w : List StreamEvent) :
    takenFrames (t ++ w) = takenFrames t ++ takenFrames w :=
  List.filterMap_append

/-- **The last of them without held depth.** -/
def lastUnheld (t : List StreamEvent) : Option TargetFrame :=
  ((takenFrames t).filter fun frame => frame.depthSource != .held).getLast?

def StreamEvent.command : StreamEvent → Option Targets
  | .seeded seed => some seed
  | .write .angleSet values (.motion _ _ _) => some values
  | _ => none

/-- **The last commands.** -/
def lastCommand (t : List StreamEvent) : Option Targets :=
  (t.filterMap StreamEvent.command).getLast?

variable {t w : List StreamEvent}

theorem lastUnheld_append (h : takenFrames w = []) : lastUnheld (t ++ w) = lastUnheld t := by
  unfold lastUnheld
  rw [takenFrames_append, h, List.append_nil]

theorem lastUnheld_taken {frame : TargetFrame} (h : frame.depthSource ≠ .held)
    (hw : takenFrames w = [frame]) : lastUnheld (t ++ w) = some frame := by
  unfold lastUnheld
  rw [takenFrames_append, hw, List.filter_append, List.filter_cons_of_pos (by simpa using h),
    List.filter_nil, List.getLast?_concat]

theorem lastUnheld_held {frame : TargetFrame} (h : frame.depthSource = .held)
    (hw : takenFrames w = [frame]) : lastUnheld (t ++ w) = lastUnheld t := by
  unfold lastUnheld
  rw [takenFrames_append, hw, List.filter_append, List.filter_cons_of_neg (by simpa using h),
    List.filter_nil, List.append_nil]

theorem lastCommand_append (h : w.filterMap StreamEvent.command = []) :
    lastCommand (t ++ w) = lastCommand t := by
  unfold lastCommand
  rw [List.filterMap_append, h, List.append_nil]

theorem lastCommand_snoc {event : StreamEvent} {values : Targets}
    (h : event.command = some values) : lastCommand (t ++ [event]) = some values := by
  unfold lastCommand
  rw [List.filterMap_append, List.filterMap_cons_some h, List.filterMap_nil, List.getLast?_concat]

/-! ## The law -/

/-- **A step towards a fresh target**: a motion write that moves from the last commands, rate-limited
over at most one period, towards the targets of an accepted frame that was captured no longer than
the timeout before the tick. -/
def TowardsFresh (cal : PipelineCalibration) (selected : Fin 6 → Bool) (t : List StreamEvent)
    (values : Targets) (purpose : Purpose) : Prop :=
  ∃ loopStart dt previous, ∃ frame : TargetFrame,
    purpose = .motion loopStart dt previous ∧ .accepted frame ∈ t ∧
      loopStart - frame.capturedAtMonotonic ≤ cal.trackingTimeoutSeconds ∧
      lastCommand t = some previous ∧ 0 ≤ dt ∧ dt ≤ cal.period ∧
      rateLimit cal selected previous frame.targets dt = .ok values

/-- **No motion towards stale targets**: every numeric write of `ANGLE_SET` in the state `ACTIVE` is
a step towards a fresh target. -/
def NoStaleMotion (cal : PipelineCalibration) (selected : Fin 6 → Bool)
    (inputs : List StreamInput) : Prop :=
  ∀ pre input post, inputs = pre ++ input :: post →
    ((machine cal selected).run .init pre).shared.state = .active →
    ∀ values purpose, .write .angleSet values purpose ∈
      ((machine cal selected).step ((machine cal selected).run .init pre) input).2 →
    values ≠ disabled →
    TowardsFresh cal selected ((machine cal selected).trace .init pre) values purpose

/-- **The condition**: when a tick is about to write and found a frame with held depth as the newest
one, the last frame without held depth that a tick has taken was captured no longer than the timeout
before it. -/
def AimInTime (cal : PipelineCalibration) (s : Stream) (t : List StreamEvent) :
    StreamInput → Prop
  | .work _ =>
    match s.worker with
    | .writing _ tick _ _ =>
      ∀ newest ∈ tick.targetFrame, newest.depthSource = .held → ∀ aim ∈ lastUnheld t,
        tick.loopStart - aim.capturedAtMonotonic ≤ cal.trackingTimeoutSeconds
    | _ => True
  | _ => True

instance (s : Stream) (t : List StreamEvent) (i : StreamInput) : Decidable (AimInTime cal s t i) := by
  unfold AimInTime
  split
  · split
    · infer_instance
    · infer_instance
  · infer_instance

/-! ## The invariant -/

def Loop.Aimed (l : Loop) (t : List StreamEvent) : Prop :=
  ∃ frame, lastUnheld t = some frame ∧ l.desired = frame.targets

/-- **The loop and its history**: the generation stands for the last frame that was taken, the
commands are known, and the desired targets are where `must` holds. -/
structure Loop.Follows (l : Loop) (must : Prop) (command : Targets) (t : List StreamEvent) :
    Prop where
  generation_le : l.lastGeneration ≤ (acceptedFrames t).length
  taken : (takenFrames t).getLast? = ((acceptedFrames t).take l.lastGeneration).getLast?
  aimed : must → l.Aimed t
  command : lastCommand t = some command

def Loop.Matters (l : Loop) (state : StreamState) : Prop :=
  state = .active ∨ 0 < l.consecutiveValid

def Loop.MattersIn (cal : PipelineCalibration) (l : Loop) (state : StreamState) (tick : Tick) :
    Prop :=
  (state = .active ∧ tick.stale cal = false) ∨ 0 < l.consecutiveValid

/-- **What holds at a point of the worker.** -/
def WorkerPoint.Law (cal : PipelineCalibration) (selected : Fin 6 → Bool) (state : StreamState)
    (t : List StreamEvent) : WorkerPoint → Prop
  | .created | .opening | .preflighting => state ≠ .active ∧ takenFrames t = []
  | .top l | .snapshotting l _ => l.Follows (l.Matters state) l.sent t
  | .feeding l _ => l.Follows (l.Matters state) l.sent t
  | .arming l tick | .confirming l tick | .activating l tick =>
    l.Follows True l.sent t ∧ tick.targetFrame = (takenFrames t).getLast?
  | .gating l tick =>
    l.Follows (l.MattersIn cal state tick) l.sent t ∧
      tick.targetFrame = (takenFrames t).getLast?
  | .writing l tick dt previous =>
    l.Follows True previous t ∧ tick.targetFrame = (takenFrames t).getLast? ∧
      tick.stale cal = false ∧ 0 ≤ dt ∧ dt ≤ cal.period ∧
      rateLimit cal selected previous l.desired dt = .ok l.sent
  | .disabling _ => state ≠ .active
  | .raising _ | .leaving _ | .closing _ _ | .finishing _ _ _ | .ended => True

/-- **The invariant.** -/
structure Steering (cal : PipelineCalibration) (selected : Fin 6 → Bool) (s : Stream)
    (t : List StreamEvent) : Prop where
  frames : Frames s.shared t
  taken : ∀ frame ∈ takenFrames t, frame ∈ acceptedFrames t
  point : s.worker.Law cal selected s.shared.state t

/-! ## Events that matter to no tick -/

def Idle (w : List StreamEvent) : Prop :=
  takenFrames w = [] ∧ w.filterMap StreamEvent.command = []

theorem Loop.Follows.idle {l : Loop} {must : Prop} {command : Targets}
    (h : l.Follows must command t) (hw : Idle w) : l.Follows must command (t ++ w) := by
  constructor
  · rw [acceptedFrames_append, List.length_append]
    exact h.generation_le.trans (Nat.le_add_right _ _)
  · rw [takenFrames_append, hw.1, List.append_nil, acceptedFrames_append,
      List.take_append_of_le_length h.generation_le]
    exact h.taken
  · intro hmust
    obtain ⟨frame, hframe, hdesired⟩ := h.aimed hmust
    exact ⟨frame, (lastUnheld_append hw.1).trans hframe, hdesired⟩
  · rw [lastCommand_append hw.2]
    exact h.command

theorem Loop.Follows.weaken {l : Loop} {must must' : Prop} {command : Targets}
    (h : l.Follows must command t) (himp : must' → must) : l.Follows must' command t :=
  ⟨h.generation_le, h.taken, fun hmust => h.aimed (himp hmust), h.command⟩

theorem Loop.Follows.congr {l l' : Loop} {must : Prop} {command : Targets}
    (h : l.Follows must command t) (hgeneration : l'.lastGeneration = l.lastGeneration)
    (hdesired : l'.desired = l.desired) : l'.Follows must command t := by
  constructor
  · rw [hgeneration]
    exact h.generation_le
  · rw [hgeneration]
    exact h.taken
  · intro hmust
    obtain ⟨frame, hframe, haim⟩ := h.aimed hmust
    exact ⟨frame, hframe, hdesired.trans haim⟩
  · exact h.command

theorem WorkerPoint.Law.idle {worker : WorkerPoint} {state : StreamState}
    (h : worker.Law cal selected state t) (hw : Idle w) :
    worker.Law cal selected state (t ++ w) := by
  have hnewest : takenFrames (t ++ w) = takenFrames t := by
    rw [takenFrames_append, hw.1, List.append_nil]
  cases worker with
  | created | opening | preflighting => exact ⟨h.1, hnewest.trans h.2⟩
  | top l | snapshotting l | feeding l => exact Loop.Follows.idle h hw
  | arming l tick | confirming l tick | activating l tick | gating l tick =>
    exact ⟨h.1.idle hw, by rw [hnewest]; exact h.2⟩
  | writing l tick dt previous => exact ⟨h.1.idle hw, by rw [hnewest]; exact h.2.1, h.2.2⟩
  | disabling => exact h
  | raising | leaving | closing | finishing | ended => trivial

theorem taken_append (h : ∀ frame ∈ takenFrames t, frame ∈ acceptedFrames t)
    (hw : takenFrames w = []) : ∀ frame ∈ takenFrames (t ++ w), frame ∈ acceptedFrames (t ++ w) := by
  rw [takenFrames_append, hw, List.append_nil, acceptedFrames_append]
  intro frame hframe
  exact List.mem_append_left _ (h frame hframe)

/-! ## A tick -/

theorem not_held_of_admissible {waiting : Bool} {loopStart : ℚ} {frame : TargetFrame}
    (hframe : frame.WellFormed) (h : admissible cal waiting loopStart frame = true) :
    frame.depthSource ≠ .held := by
  intro hheld
  by_cases hmano : frame.source = .mano
  · simp [admissible, hmano, hheld] at h
  · rw [(hframe.fallback hmano).2] at hheld
    cases hheld

/-- **An active stream refuses a frame without held depth only when it is stale.** -/
theorem stale_of_refused {tick : Tick} {frame : TargetFrame} (hframe : frame.WellFormed)
    (htick : tick.targetFrame = some frame)
    (h : admissible cal false tick.loopStart frame = false) (hheld : frame.depthSource ≠ .held) :
    tick.stale cal = true := by
  unfold Tick.stale
  rw [htick]
  dsimp only
  by_cases htime : timedOut cal tick.loopStart frame.capturedAtMonotonic = true
  · rw [htime, Bool.true_or]
  have hfresh : timedOut cal tick.loopStart frame.capturedAtMonotonic = false := by simpa using htime
  by_cases hmano : frame.source = .mano
  · have hmeasured : frame.depthSource = .measured :=
      (hframe.mano hmano).resolve_right hheld
    simp only [admissible, hfresh, hmano, hmeasured] at h
    rw [hfresh, hmano]
    simpa using h
  · simp [admissible, hfresh, hmano] at h

variable {s : Stream} {l : Loop} {shared : Shared}

theorem Loop.Follows.fitting (cal : PipelineCalibration) {state : StreamState}
    (h : l.Follows (l.Matters state) l.sent t) (tick : Tick) :
    let l' := l.fitting cal (state == .waitingForTracking) tick
    l'.Follows (l'.MattersIn cal state tick) l'.sent t := by
  intro l'
  by_cases hunfit : ((state == .waitingForTracking) && tick.unfit cal) = true
  · have hl' : l' = l.reset := if_pos hunfit
    rw [hl']
    refine ⟨h.generation_le, h.taken, ?_, h.command⟩
    rintro (⟨hactive, -⟩ | hcount)
    · rw [hactive] at hunfit
      cases hunfit
    · exact absurd hcount (Nat.lt_irrefl 0)
  · have hl' : l' = l := if_neg hunfit
    rw [hl']
    apply h.weaken
    rintro (⟨hactive, -⟩ | hcount)
    · exact Or.inl hactive
    · exact Or.inr hcount

variable (cal selected) in
/-- **A tick**: whatever it does with the newest frame, the loop follows its history. -/
theorem Loop.Follows.take (h : l.Follows (l.Matters shared.state) l.sent t)
    (hframes : Frames shared t) (loopStart : ℚ) :
    let tick : Tick := ⟨loopStart, shared.latestTarget, shared.targetGeneration⟩
    let taken := l.take cal selected (shared.state == .waitingForTracking) tick
    let events := StreamEvent.ticked loopStart shared.latestTarget :: taken.2
    taken.1.Follows (taken.1.MattersIn cal shared.state tick) taken.1.sent (t ++ events) ∧
      tick.targetFrame = (takenFrames (t ++ events)).getLast? := by
  intro tick taken events
  have hfit := h.fitting cal tick
  have htakes := l.takes cal selected
    (shared.state == .waitingForTracking) tick
  have hlatest : tick.targetFrame = (acceptedFrames t).getLast? := hframes.latest
  -- without a new frame the tick only emits its begin
  have hold (hsame : tick.targetFrame = (takenFrames t).getLast?)
      (hevents : taken = (l.fitting cal (shared.state == .waitingForTracking) tick, [])) :
      taken.1.Follows (taken.1.MattersIn cal shared.state tick) taken.1.sent (t ++ events) ∧
        tick.targetFrame = (takenFrames (t ++ events)).getLast? := by
    have hidle : Idle [StreamEvent.ticked loopStart shared.latestTarget] := ⟨rfl, rfl⟩
    have hw : events = [StreamEvent.ticked loopStart shared.latestTarget] := by
      show _ :: taken.2 = _
      rw [hevents]
    rw [hw, hevents]
    refine ⟨hfit.idle hidle, ?_⟩
    rw [takenFrames_append, hidle.1, List.append_nil]
    exact hsame
  -- a new frame is the last one that was taken
  have hnew {frame : TargetFrame} {l' : Loop} (hframe : tick.targetFrame = some frame)
      (hgeneration : l'.lastGeneration = tick.generation)
      (hcommand : l'.sent = l.sent)
      (haimed : l'.MattersIn cal shared.state tick →
        l'.Aimed (t ++ [.ticked loopStart shared.latestTarget, .taken loopStart frame]))
      (hevents : taken = (l', [.taken loopStart frame])) :
      taken.1.Follows (taken.1.MattersIn cal shared.state tick) taken.1.sent (t ++ events) ∧
        tick.targetFrame = (takenFrames (t ++ events)).getLast? := by
    have hw : events = [.ticked loopStart shared.latestTarget, .taken loopStart frame] := by
      show _ :: taken.2 = _
      rw [hevents]
    have hgen : l'.lastGeneration = (acceptedFrames t).length :=
      hgeneration.trans hframes.generation
    have haccepted : acceptedFrames (t ++ events) = acceptedFrames t := by
      rw [hw, acceptedFrames_append]
      exact List.append_nil _
    have hlast : (takenFrames (t ++ events)).getLast? = some frame := by
      rw [hw, takenFrames_append]
      exact List.getLast?_concat
    rw [hevents]
    refine ⟨⟨?_, ?_, ?_, ?_⟩, hframe.trans hlast.symm⟩
    · rw [haccepted, hgen]
    · rw [hlast, haccepted, hgen, List.take_length, ← hlatest, hframe]
    · rw [hw]
      exact haimed
    · rw [hw, hcommand, ← h.command]
      exact lastCommand_append rfl
  have htaken : taken = l.take cal selected (shared.state == .waitingForTracking) tick := rfl
  generalize hgeneral : l.take cal selected (shared.state == .waitingForTracking) tick = outcome
    at htakes htaken
  cases htakes with
  | missing hframe =>
    refine hold ?_ htaken
    have hempty : acceptedFrames t = [] := by
      rw [hlatest] at hframe
      exact List.getLast?_eq_none_iff.1 hframe
    rw [hframe, h.taken, hempty, List.take_nil]
    rfl
  | known frame hframe hgeneration =>
    refine hold ?_ htaken
    have hgen : l.lastGeneration = (acceptedFrames t).length :=
      hgeneration.symm.trans hframes.generation
    rw [h.taken, hgen, List.take_length, hlatest]
  | admitted frame hframe hgeneration hadmissible =>
    have hwf : frame.WellFormed := by
      rw [hlatest] at hframe
      exact hframes.wellFormed frame (List.mem_of_getLast? hframe)
    refine hnew hframe rfl ?_ ?_ htaken
    · show (l.fitting cal (shared.state == .waitingForTracking) tick).sent = l.sent
      unfold Loop.fitting
      split <;> rfl
    · intro _
      exact ⟨frame, lastUnheld_taken (not_held_of_admissible hwf hadmissible) rfl, rfl⟩
  | refused frame hframe hgeneration hadmissible =>
    have hwf : frame.WellFormed := by
      rw [hlatest] at hframe
      exact hframes.wellFormed frame (List.mem_of_getLast? hframe)
    refine hnew hframe rfl ?_ ?_ htaken
    · show (l.fitting cal (shared.state == .waitingForTracking) tick).sent = l.sent
      unfold Loop.fitting
      split <;> rfl
    · rintro (⟨hactive, hfresh⟩ | hcount)
      · have hwaiting : (shared.state == .waitingForTracking) = false := by
          rw [hactive]
          rfl
        rw [hwaiting] at hadmissible
        by_cases hheld : frame.depthSource = .held
        · obtain ⟨aim, haim, hdesired⟩ := h.aimed (Or.inl hactive)
          refine ⟨aim, (lastUnheld_held hheld rfl).trans haim, ?_⟩
          show (l.fitting cal (shared.state == .waitingForTracking) tick).desired = aim.targets
          unfold Loop.fitting
          rw [hwaiting]
          exact hdesired
        · rw [stale_of_refused hwf hframe hadmissible hheld] at hfresh
          cases hfresh
      · exact absurd hcount (Nat.lt_irrefl 0)

/-! ## Sections of the worker -/

/-- **What a section leaves**: no frame is taken but in a tick, and the law of the next point. -/
def Leaves (cal : PipelineCalibration) (selected : Fin 6 → Bool) (t : List StreamEvent)
    (outcome : Stream × List StreamEvent) : Prop :=
  takenFrames outcome.2 = [] ∧
    outcome.1.worker.Law cal selected outcome.1.shared.state (t ++ outcome.2)

theorem leaves_nil {s' : Stream} (h : s'.worker.Law cal selected s'.shared.state t) :
    Leaves cal selected t (s', []) := by
  refine ⟨rfl, ?_⟩
  rw [List.append_nil]
  exact h

variable (input : WorkerInput)

theorem takenFrames_writes (outcome : PreflightOutcome) : takenFrames outcome.writes = [] := by
  unfold PreflightOutcome.writes
  cases outcome.speeds <;> cases outcome.forces <;> rfl

theorem leaves_preflight (h : takenFrames t = []) :
    Leaves cal selected t (s.preflight cal selected input) := by
  have hwrites := takenFrames_writes input.preflight
  unfold Stream.preflight
  dsimp only
  cases input.preflight.result with
  | error e => exact ⟨hwrites, trivial⟩
  | ok angles =>
    dsimp only
    cases selectedCommandsFromActual cal selected angles with
    | error e => exact ⟨hwrites, trivial⟩
    | ok seed =>
      have hnone : takenFrames (input.preflight.writes ++ [StreamEvent.seeded seed]) = [] := by
        rw [takenFrames_append, hwrites]
        rfl
      refine ⟨hnone, Nat.zero_le _, ?_, ?_, ?_⟩
      · rw [takenFrames_append, h, hnone]
        rfl
      · rintro (hactive | hcount)
        · cases hactive
        · exact absurd hcount (Nat.lt_irrefl 0)
      · rw [← List.append_assoc]
        exact lastCommand_snoc rfl

theorem leaves_arm {l : Loop} {tick : Tick}
    (h : (WorkerPoint.arming l tick).Law cal selected s.shared.state t) :
    Leaves cal selected t (s.arm cal selected input l tick) := by
  unfold Stream.arm
  split
  · exact leaves_nil trivial
  · cases input.readSafetyFeedback cal selected l.sent false with
    | error e => exact leaves_nil trivial
    | ok _ => exact ⟨rfl, (show (WorkerPoint.confirming l tick).Law _ _ _ _ from h).idle ⟨rfl, rfl⟩⟩

theorem leaves_confirm {l : Loop} {tick : Tick}
    (h : (WorkerPoint.confirming l tick).Law cal selected s.shared.state t) :
    Leaves cal selected t (s.confirm input l tick) := by
  unfold Stream.confirm
  split
  · exact leaves_nil trivial
  · cases input.angleSet with
    | error e => exact leaves_nil trivial
    | ok targets =>
      dsimp only
      split
      · exact ⟨rfl, trivial⟩
      · exact ⟨rfl, (show (WorkerPoint.activating l tick).Law _ _ _ _ from h).idle ⟨rfl, rfl⟩⟩

theorem leaves_activate {l : Loop} {tick : Tick}
    (h : (WorkerPoint.activating l tick).Law cal selected s.shared.state t) :
    Leaves cal selected t (s.activate l tick) := by
  unfold Stream.activate
  split
  · exact leaves_nil trivial
  · have hidle : Idle [StreamEvent.armed] := ⟨rfl, rfl⟩
    refine ⟨rfl, (h.1.idle hidle).weaken fun _ => trivial, ?_⟩
    rw [takenFrames_append, hidle.1, List.append_nil]
    exact h.2

theorem Loop.elapsed_mem (hcal : cal.Accepted) (l : Loop) (tick : Tick) :
    0 ≤ l.elapsed cal tick ∧ l.elapsed cal tick ≤ cal.period := by
  have hperiod : 0 ≤ cal.period := by
    unfold PipelineCalibration.period
    have := hcal.five_le_hz
    positivity
  exact ⟨le_min (le_max_right _ _) hperiod, min_le_right _ _⟩

/-- **The stale check**: the desired targets are known when it passes. -/
theorem leaves_gate (hcal : cal.Accepted) {l : Loop} {tick : Tick}
    (h : (WorkerPoint.gating l tick).Law cal selected s.shared.state t) :
    (s.gate cal selected l tick).worker.Law cal selected
      (s.gate cal selected l tick).shared.state t := by
  obtain ⟨hfollows, hnewest⟩ := h
  unfold Stream.gate
  split
  · rename_i hstate
    refine hfollows.weaken ?_
    rintro (hactive | hcount)
    · exact absurd hactive hstate
    · exact Or.inr hcount
  split
  · trivial
  rename_i hstate hstale
  have hfresh : tick.stale cal = false := by simpa using hstale
  have hactive : s.shared.state = .active := not_not.1 hstate
  dsimp only
  cases hrate : rateLimit cal selected l.sent l.desired (l.elapsed cal tick) with
  | error e => trivial
  | ok sent =>
    obtain ⟨hnonneg, hle⟩ := Loop.elapsed_mem hcal l tick
    refine ⟨?_, hnewest, hfresh, hnonneg, hle, hrate⟩
    exact (hfollows.weaken fun _ => Or.inl ⟨hactive, hfresh⟩).congr rfl rfl

theorem leaves_write {l : Loop} {tick : Tick} {dt : ℚ} {previous : Targets}
    (h : (WorkerPoint.writing l tick dt previous).Law cal selected s.shared.state t) :
    Leaves cal selected t (s.write input l tick dt previous) := by
  unfold Stream.write
  split
  · exact leaves_nil trivial
  · cases input.result with
    | error e => exact ⟨rfl, trivial⟩
    | ok _ =>
      obtain ⟨hfollows, -⟩ := h
      refine ⟨rfl, ?_, ?_, ?_, lastCommand_snoc rfl⟩
      · rw [acceptedFrames_append]
        exact hfollows.generation_le.trans (by simp)
      · rw [takenFrames_append, acceptedFrames_append,
          List.take_append_of_le_length hfollows.generation_le]
        exact (congrArg _ (List.append_nil _)).trans hfollows.taken
      · intro _
        obtain ⟨frame, hframe, hdesired⟩ := hfollows.aimed trivial
        exact ⟨frame, (lastUnheld_append rfl).trans hframe, hdesired⟩

theorem leaves_feed {l : Loop} {tick : Tick}
    (h : (WorkerPoint.feeding l tick).Law cal selected s.shared.state t) :
    Leaves cal selected t (s.feed cal selected input l tick) := by
  have hfollows : l.Follows (l.Matters s.shared.state) l.sent t := h
  unfold Stream.feed
  split
  · cases input.readSafetyFeedback cal selected l.sent s.shared.everActive with
    | error e => exact leaves_nil trivial
    | ok _ =>
      have htop : (WorkerPoint.top { l with
          nextFeedback := tick.loopStart + 1 / cal.feedbackHz
          lastTick := tick.loopStart }).Law cal selected s.shared.state t :=
        hfollows.congr rfl rfl
      exact ⟨rfl, htop.idle ⟨rfl, rfl⟩⟩
  · exact leaves_nil (hfollows.congr rfl rfl)

theorem takenFrames_shutdown (operationError : Option PyException) :
    takenFrames (s.shutdown cal selected input operationError).2 = [] := by
  have huntouched : Untouched fun _ w => takenFrames w = [] := by
    refine ⟨fun s w event hevent h => ?_, fun _ _ _ h => h, fun _ _ h => h, fun _ _ _ h => h⟩
    rw [takenFrames_append, h, List.nil_append]
    cases event with
    | write | angleSetRead | idleVerified => rfl
    | accepted | stopRequested | ticked | seeded | taken | healthy | armed => cases hevent
  have hhold : ∀ (_ : Shared) (w : List StreamEvent) (values : Targets), takenFrames w = [] →
      takenFrames (w ++ [.write .angleSet values .hold]) = [] := by
    intro _ w values h
    rw [takenFrames_append, h]
    rfl
  have hkeeps := wp_outcome (huntouched.keeps_disable cal selected hhold
    input.shutdown (s.shared.everActive && operationError.isNone) s.originals s.shared [] rfl)
  unfold Stream.shutdown
  generalize disable cal selected input.shutdown (s.shared.everActive && operationError.isNone)
    s.originals s.shared = outcome at hkeeps ⊢
  obtain ⟨result, shared, events⟩ := outcome
  cases result with
  | ok _ => exact hkeeps
  | error e => exact hkeeps

/-! ## Runs -/

theorem leaves_work (hcal : cal.Accepted) (h : s.worker.Law cal selected s.shared.state t)
    (hlook : ∀ l loopStart, s.worker ≠ .snapshotting l loopStart) :
    Leaves cal selected t (s.work cal selected input) := by
  unfold Stream.work
  cases hworker : s.worker with
  | created => exact leaves_nil h
  | opening =>
    rw [hworker] at h
    cases input.result with
    | error e => exact leaves_nil trivial
    | ok _ => exact leaves_nil h
  | preflighting =>
    rw [hworker] at h
    exact leaves_preflight input h.2
  | top l =>
    rw [hworker] at h
    apply leaves_nil
    unfold Stream.loopTop
    split
    · trivial
    · exact h
  | snapshotting l loopStart => exact absurd hworker (hlook l loopStart)
  | arming l tick =>
    rw [hworker] at h
    exact leaves_arm input h
  | confirming l tick =>
    rw [hworker] at h
    exact leaves_confirm input h
  | activating l tick =>
    rw [hworker] at h
    exact leaves_activate h
  | gating l tick =>
    rw [hworker] at h
    exact leaves_nil (leaves_gate hcal h)
  | writing l tick dt previous =>
    rw [hworker] at h
    exact leaves_write input h
  | feeding l tick =>
    rw [hworker] at h
    exact leaves_feed input h
  | raising e => exact leaves_nil trivial
  | leaving operationError =>
    apply leaves_nil
    show StreamState.stopping ≠ .active
    decide
  | disabling operationError =>
    refine ⟨takenFrames_shutdown input operationError, ?_⟩
    dsimp only
    unfold Stream.shutdown
    split
    · trivial
    · trivial
  | closing operationError stopError =>
    apply leaves_nil
    unfold Stream.close
    split
    · trivial
    · trivial
  | finishing operationError stopError contextOpened => exact leaves_nil trivial
  | ended => exact leaves_nil h

theorem steering_snapshot (hcal : cal.Accepted) (h : Steering cal selected s t) {l : Loop}
    {loopStart : ℚ} (hworker : s.worker = .snapshotting l loopStart) :
    (∀ frame ∈ takenFrames (t ++ (s.snapshot cal selected l loopStart).2),
      frame ∈ acceptedFrames (t ++ (s.snapshot cal selected l loopStart).2)) ∧
    (s.snapshot cal selected l loopStart).1.worker.Law cal selected s.shared.state
      (t ++ (s.snapshot cal selected l loopStart).2) := by
  obtain ⟨hframes, htaken, hpoint⟩ := h
  rw [hworker] at hpoint
  have hfollows : l.Follows (l.Matters s.shared.state) l.sent t := hpoint
  obtain ⟨hfollows', hnewest⟩ := hfollows.take cal selected hframes loopStart
  have htakes := l.takes cal selected
    (s.shared.state == .waitingForTracking) ⟨loopStart, s.shared.latestTarget, s.shared.targetGeneration⟩
  unfold Stream.snapshot
  dsimp only at hfollows' hnewest ⊢
  constructor
  · generalize l.take cal selected (s.shared.state == .waitingForTracking) _ = taken at htakes
    cases htakes with
    | missing | known => exact taken_append htaken rfl
    | admitted frame hframe | refused frame hframe =>
      intro other hother
      rw [takenFrames_append] at hother
      rw [acceptedFrames_append]
      apply List.mem_append_left
      rcases List.mem_append.1 hother with hother | hother
      · exact htaken other hother
      · obtain rfl : other = frame := List.mem_singleton.1 hother
        rw [hframes.latest] at hframe
        exact List.mem_of_getLast? hframe
  · split
    · rename_i harm
      have hcount := of_decide_eq_true (Bool.and_eq_true_iff.1 harm).2
      refine ⟨hfollows'.weaken fun _ => Or.inr ?_, hnewest⟩
      have := hcal.one_le_frames
      omega
    · exact ⟨hfollows', hnewest⟩

theorem steering_step (hcal : cal.Accepted) (s : Stream) (t : List StreamEvent) (i : StreamInput)
    (h : Steering cal selected s t) :
    Steering cal selected ((machine cal selected).step s i).1
      (t ++ ((machine cal selected).step s i).2) := by
  have hframes := frames_step cal selected s t i h.frames
  cases i with
  | start =>
    refine ⟨hframes, taken_append h.taken rfl, ?_⟩
    have hpoint := h.point
    show s.start.worker.Law cal selected s.start.shared.state (t ++ [])
    rw [List.append_nil]
    unfold Stream.start
    split
    · rename_i hworker
      rw [hworker] at hpoint
      refine ⟨?_, hpoint.2⟩
      show StreamState.starting ≠ .active
      decide
    · exact hpoint
  | submit frame early =>
    have hstate : (s.shared.submit cal selected frame early).2.1.state = s.shared.state ∧
        Idle (s.shared.submit cal selected frame early).2.2 := by
      rcases submit_cases cal selected s.shared frame early with
        hnone | ⟨accepted, -, -, -, -, -, hsome⟩
      · rw [hnone]
        exact ⟨rfl, rfl, rfl⟩
      · rw [hsome]
        exact ⟨rfl, rfl, rfl⟩
    refine ⟨hframes, taken_append h.taken hstate.2.1, ?_⟩
    show s.worker.Law cal selected (s.shared.submit cal selected frame early).2.1.state _
    rw [hstate.1]
    exact h.point.idle hstate.2
  | requestStop reason =>
    exact ⟨hframes, taken_append h.taken rfl, h.point.idle ⟨rfl, rfl⟩⟩
  | work input =>
    by_cases hlook : ∃ l loopStart, s.worker = .snapshotting l loopStart
    · obtain ⟨l, loopStart, hworker⟩ := hlook
      obtain ⟨htaken, hpoint⟩ := steering_snapshot hcal h hworker
      have hstep : (machine cal selected).step s (.work input) =
          s.snapshot cal selected l loopStart := by
        show s.work cal selected input = _
        unfold Stream.work
        rw [hworker]
      rw [hstep] at hframes ⊢
      exact ⟨hframes, htaken, hpoint⟩
    · have hleaves := leaves_work input hcal h.point fun l loopStart hworker =>
        hlook ⟨l, loopStart, hworker⟩
      exact ⟨hframes, taken_append h.taken hleaves.1, hleaves.2⟩

theorem steering_run (hcal : cal.Accepted) (selected : Fin 6 → Bool) (inputs : List StreamInput) :
    Steering cal selected ((machine cal selected).run .init inputs)
      ((machine cal selected).trace .init inputs) := by
  apply (machine cal selected).monitor_induction (P := Steering cal selected)
  · exact ⟨frames_init, fun _ h => absurd h List.not_mem_nil, by decide, rfl⟩
  · exact steering_step hcal

/-! ## Motion writes -/

/-- **In the state `ACTIVE` only the loop writes `ANGLE_SET`.** -/
theorem writing_of_write (h : s.worker.Law cal selected s.shared.state t)
    (hactive : s.shared.state = .active) {i : StreamInput} {values : Targets} {purpose : Purpose}
    (hwrite : .write .angleSet values purpose ∈ ((machine cal selected).step s i).2) :
    ∃ input l tick dt previous, i = .work input ∧ s.worker = .writing l tick dt previous ∧
      values = l.sent ∧ purpose = .motion tick.loopStart dt previous := by
  cases i with
  | start => cases hwrite
  | submit frame early =>
    change _ ∈ (s.shared.submit cal selected frame early).2.2 at hwrite
    rcases submit_cases cal selected s.shared frame early with
      hnone | ⟨accepted, -, -, -, -, -, hsome⟩
    · rw [hnone] at hwrite
      cases hwrite
    · rw [hsome] at hwrite
      exact absurd (List.mem_singleton.1 hwrite) (by simp)
  | requestStop reason => exact absurd (List.mem_singleton.1 hwrite) (by simp)
  | work input =>
    change _ ∈ (s.work cal selected input).2 at hwrite
    unfold Stream.work at hwrite
    cases hworker : s.worker with
    | preflighting =>
      rw [hworker] at h
      exact absurd hactive h.1
    | disabling operationError =>
      rw [hworker] at h
      exact absurd hactive h
    | writing l tick dt previous =>
      rw [hworker] at hwrite
      dsimp only at hwrite
      unfold Stream.write at hwrite
      split at hwrite
      · cases hwrite
      · obtain ⟨-, rfl, rfl⟩ := StreamEvent.write.inj (List.mem_singleton.1 hwrite)
        exact ⟨input, l, tick, dt, previous, rfl, rfl, rfl, rfl⟩
    | created | opening | top | gating | raising | leaving | closing | finishing | ended =>
      rw [hworker] at hwrite
      cases hwrite
    | snapshotting l loopStart =>
      rw [hworker] at hwrite
      dsimp only at hwrite
      unfold Stream.snapshot at hwrite
      have htakes := l.takes cal selected
        (s.shared.state == .waitingForTracking)
        ⟨loopStart, s.shared.latestTarget, s.shared.targetGeneration⟩
      dsimp only at hwrite
      generalize l.take cal selected (s.shared.state == .waitingForTracking) _ = taken
        at htakes hwrite
      cases htakes with
      | missing | known | admitted | refused => simp at hwrite
    | arming l tick =>
      rw [hworker] at hwrite
      dsimp only at hwrite
      unfold Stream.arm at hwrite
      split at hwrite
      · cases hwrite
      · generalize input.readSafetyFeedback cal selected l.sent false = result at hwrite
        cases result with
        | error e => cases hwrite
        | ok _ => exact absurd (List.mem_singleton.1 hwrite) (by simp)
    | confirming l tick =>
      rw [hworker] at hwrite
      dsimp only at hwrite
      unfold Stream.confirm at hwrite
      split at hwrite
      · cases hwrite
      · generalize input.angleSet = result at hwrite
        cases result with
        | error e => cases hwrite
        | ok targets =>
          dsimp only at hwrite
          split at hwrite
          · exact absurd (List.mem_singleton.1 hwrite) (by simp)
          · exact absurd (List.mem_singleton.1 hwrite) (by simp)
    | activating l tick =>
      rw [hworker] at hwrite
      dsimp only at hwrite
      unfold Stream.activate at hwrite
      split at hwrite
      · cases hwrite
      · exact absurd (List.mem_singleton.1 hwrite) (by simp)
    | feeding l tick =>
      rw [hworker] at hwrite
      dsimp only at hwrite
      unfold Stream.feed at hwrite
      split at hwrite
      · generalize input.readSafetyFeedback cal selected l.sent s.shared.everActive = result at hwrite
        cases result with
        | error e => cases hwrite
        | ok _ => exact absurd (List.mem_singleton.1 hwrite) (by simp)
      · cases hwrite

theorem mem_of_lastUnheld {aim : TargetFrame} (h : lastUnheld t = some aim) :
    aim ∈ takenFrames t :=
  (List.mem_filter.1 (List.mem_of_getLast? h)).1

theorem lastUnheld_of_newest {newest : TargetFrame} (h : (takenFrames t).getLast? = some newest)
    (hheld : newest.depthSource ≠ .held) : lastUnheld t = some newest := by
  obtain ⟨before, hbefore⟩ := List.getLast?_eq_some_iff.1 h
  unfold lastUnheld
  rw [hbefore, List.filter_append, List.filter_cons_of_pos (by simpa using hheld), List.filter_nil,
    List.getLast?_concat]

/-- **No motion towards stale targets**, in every run that meets the condition at each of its
writes. -/
theorem no_stale_motion {data : PipelineMapping} (hload : PipelineCalibration.load data = .ok cal)
    (selected : Fin 6 → Bool) {inputs : List StreamInput}
    (haim : (machine cal selected).Admits (AimInTime cal) .init inputs) :
    NoStaleMotion cal selected inputs := by
  intro pre i post hsplit hactive values purpose hwrite _
  have hcal := PipelineCalibration.accepted_of_load hload
  have hcondition := haim pre i post hsplit
  obtain ⟨hframes, htaken, hpoint⟩ := steering_run hcal selected pre
  obtain ⟨input, l, tick, dt, previous, rfl, hworker, rfl, rfl⟩ :=
    writing_of_write hpoint hactive hwrite
  rw [hworker] at hpoint
  obtain ⟨hfollows, hnewest, hstale, hnonneg, hle, hrate⟩ := hpoint
  obtain ⟨aim, haimed, hdesired⟩ := hfollows.aimed trivial
  refine ⟨tick.loopStart, dt, previous, aim, rfl,
    mem_acceptedFrames.1 (htaken aim (mem_of_lastUnheld haimed)), ?_, hfollows.command, hnonneg, hle,
    hdesired ▸ hrate⟩
  unfold Tick.stale at hstale
  cases hframe : tick.targetFrame with
  | none =>
    rw [hframe] at hstale
    cases hstale
  | some newest =>
    rw [hframe] at hstale
    by_cases hheld : newest.depthSource = .held
    · unfold AimInTime at hcondition
      rw [hworker] at hcondition
      exact hcondition newest hframe hheld aim haimed
    · -- the newest frame is the one that is aimed at
      obtain rfl : newest = aim := by
        rw [hframe] at hnewest
        exact Option.some.inj ((lastUnheld_of_newest hnewest.symm hheld).symm.trans haimed)
      have htime := (Bool.or_eq_false_iff.1 hstale).1
      unfold timedOut at htime
      exact not_lt.1 (of_decide_eq_false htime)

/-! ## Held frames -/

def briskAxis : AxisMapping := { slowAxis with maxRateUnitsPerSecond := none }

def briskMapping : PipelineMapping :=
  { slowMapping with
    axes := fun _ => briskAxis
    trackingTimeoutSeconds := some (3 / 20)
    validFramesToArm := some 1
    armingMaxFrameGapSeconds := some (1 / 10) }

def briskCalibration : PipelineCalibration :=
  { slowCalibration with
    axes := fun _ => AxisCalibration.read briskAxis
    trackingTimeoutSeconds := 3 / 20
    validFramesToArm := 1
    armingMaxFrameGapSeconds := 1 / 10 }

theorem load_briskMapping : PipelineCalibration.load briskMapping = .ok briskCalibration := by
  have haxis : AxisCalibration.fromMapping briskAxis = .ok (AxisCalibration.read briskAxis) := by
    unfold AxisCalibration.fromMapping
    simp only [requireThat_bind_eq_ok]
    refine ⟨by decide, by decide +kernel, by decide +kernel, by decide, by decide, by decide,
      by decide +kernel, by decide, by decide, by decide, by decide, by decide +kernel, rfl⟩
  have haxes := getD_replicate_six (AxisCalibration.read briskAxis) (AxisCalibration.read briskAxis)
  unfold PipelineCalibration.load
  rw [except_bind_eq_ok]
  refine ⟨_, mapM_fromMapping haxis, ?_⟩
  dsimp only [briskMapping]
  rw [haxes, except_bind_eq_ok]
  refine ⟨(), ?_, rfl⟩
  unfold PipelineCalibration.validate
  simp only [requireThat_bind_eq_ok, requireThat_eq_ok]
  decide +kernel

def quietShutdown : ShutdownInput where
  actual := .ok fun _ => 600
  holdWrite := .ok ()
  holdReadback := .ok fun _ => 600
  firstWrite := .ok ()
  firstReadback := .ok disabled
  samples := fun _ => .ok ⟨fun _ => 600, fun _ => 600, fun _ => 0, fun _ => 0, fun _ => 2, fun _ => 30⟩
  reassertWrite := .ok ()
  reassertReadback := .ok disabled
  speedWrite := .ok ()
  forceWrite := .ok ()
  finalWrite := .ok ()
  finalReadback := .ok disabled

/-- `n` sections of the worker at one time, with a hand that stands at 600. -/
def sections (now : ℚ) (n : ℕ) : List StreamInput :=
  List.replicate n (.work
    { now := now
      result := .ok ()
      preflight := ⟨.ok fun _ => 600, ⟨none, none⟩, none, none⟩
      feedback := .ok ⟨fun _ => 0, fun _ => 2, fun _ => 30, fun _ => 0⟩
      angleSet := .ok disabled
      shutdown := quietShutdown })

def submitMeasured (state : StreamState) (now : ℚ) (number : ℤ) (target : ℤ) : StreamInput :=
  .submit ⟨List.replicate 6 target, some now, number, .mano, none, .measured⟩
    ⟨false, state, state == .active, state, now⟩

def submitHeld (now evidence : ℚ) (number : ℤ) (target : ℤ) : StreamInput :=
  .submit ⟨List.replicate 6 target, some now, number, .mano, some (some evidence), .held⟩
    ⟨false, .active, true, .active, now⟩

def armedRun : List StreamInput :=
  [.start] ++ sections 0 2 ++ [submitMeasured .waitingForTracking 0 0 800] ++ sections (1 / 100) 8

/-- **Frames that no tick sees**: before each of three ticks a measured frame towards 450 is followed
by one with held depth. The third tick is about to write. -/
def heldRun : List StreamInput :=
  armedRun ++
    [submitMeasured .active (2 / 100) 1 450, submitHeld (4 / 100) (2 / 100) 2 450] ++
    sections (6 / 100) 5 ++
    [submitMeasured .active (7 / 100) 3 450, submitHeld (9 / 100) (7 / 100) 4 450] ++
    sections (11 / 100) 5 ++
    [submitMeasured .active (12 / 100) 5 450, submitHeld (14 / 100) (12 / 100) 6 450] ++
    sections (16 / 100) 3

def IsMotion (values previous : Targets) (loopStart dt : ℚ) : List StreamEvent → Prop
  | [.write .angleSet values' (.motion loopStart' dt' previous')] =>
    values' = values ∧ loopStart' = loopStart ∧ dt' = dt ∧ previous' = previous
  | _ => False

instance (values previous : Targets) (loopStart dt : ℚ) (w : List StreamEvent) :
    Decidable (IsMotion values previous loopStart dt w) := by
  unfold IsMotion
  split
  · infer_instance
  · infer_instance

theorem mem_of_isMotion {values previous : Targets} {loopStart dt : ℚ}
    (h : IsMotion values previous loopStart dt w) :
    .write .angleSet values (.motion loopStart dt previous) ∈ w := by
  unfold IsMotion at h
  split at h
  · obtain ⟨rfl, rfl, rfl, rfl⟩ := h
    exact List.mem_singleton.2 rfl
  · exact h.elim

/-- **The stream moves towards a stale target**: its write moves up to the first frame's 800, which was
captured longer than the timeout ago, while every frame of the last 0.15 s asks for 450. -/
theorem held_frames_move_stale :
    PipelineCalibration.load briskMapping = .ok briskCalibration ∧
      ¬NoStaleMotion briskCalibration (fun _ => true) (heldRun ++ sections (16 / 100) 1) := by
  refine ⟨load_briskMapping, fun h => ?_⟩
  obtain ⟨loopStart, dt, previous, frame, hpurpose, haccepted, hfresh, -, -, -, hrate⟩ :=
    h heldRun _ [] rfl (by decide +kernel) (fun _ => 629)
      (.motion (16 / 100) (1 / 20) fun _ => 620) (mem_of_isMotion (by decide +kernel)) (by decide)
  obtain ⟨rfl, rfl, rfl⟩ := Purpose.motion.inj hpurpose
  have hall : ∀ frame ∈ acceptedFrames
      ((machine briskCalibration (fun _ => true)).trace .init heldRun),
      16 / 100 - frame.capturedAtMonotonic ≤ briskCalibration.trackingTimeoutSeconds →
      (rateLimit briskCalibration (fun _ => true) (fun _ => 620) frame.targets (1 / 20)).toOption ≠
        some fun _ => 629 := by decide +kernel
  refine hall frame (mem_acceptedFrames.2 haccepted) hfresh ?_
  rw [hrate]
  rfl

theorem no_stale_motion_brisk :
    NoStaleMotion briskCalibration (fun _ => true)
      (armedRun ++ [submitHeld (3 / 100) 0 1 450] ++ sections (6 / 100) 5) :=
  no_stale_motion load_briskMapping _ (Machine.AdmitsFrom.admits _ (by decide +kernel))

end FrankaDeploy.Rh56Stream
