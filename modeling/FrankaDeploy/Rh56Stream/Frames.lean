import FrankaDeploy.Rh56Stream.Worker

/-! # The accepted frames of a run

What `submit` leaves, and what holds of the accepted frames after every run: the newest frame is the
last one, the generation counts them, and each is newer than the one before it. -/

namespace FrankaDeploy.Rh56Stream

open FrankaDeploy.Foundation FrankaDeploy.Foundation.Program

variable {cal : PipelineCalibration} {selected : Fin 6 → Bool}

/-! ## Frames of a trace -/

def StreamEvent.acceptedFrame : StreamEvent → Option TargetFrame
  | .accepted frame => some frame
  | _ => none

/-- **The accepted frames**, oldest first. -/
def acceptedFrames (t : List StreamEvent) : List TargetFrame :=
  t.filterMap StreamEvent.acceptedFrame

@[simp] theorem acceptedFrames_nil : acceptedFrames [] = [] := rfl

@[simp] theorem acceptedFrames_append (t w : List StreamEvent) :
    acceptedFrames (t ++ w) = acceptedFrames t ++ acceptedFrames w :=
  List.filterMap_append

theorem mem_acceptedFrames {t : List StreamEvent} {frame : TargetFrame} :
    frame ∈ acceptedFrames t ↔ .accepted frame ∈ t := by
  unfold acceptedFrames
  rw [List.mem_filterMap]
  constructor
  · rintro ⟨event, hmem, hevent⟩
    cases event with
    | accepted accepted =>
      cases hevent
      exact hmem
    | stopRequested | ticked | seeded | taken | healthy | angleSetRead | armed | write
      | idleVerified => cases hevent
  · intro hmem
    exact ⟨_, hmem, rfl⟩

/-! ## `submit` -/

/-- **An accepted frame**: MANO frames have measured or held depth with its evidence, and fallback
frames need none. -/
structure TargetFrame.WellFormed (frame : TargetFrame) : Prop where
  mano : frame.source = .mano → frame.depthSource = .measured ∨ frame.depthSource = .held
  fallback : frame.source ≠ .mano →
    frame.source = .fallbackOpen ∧ frame.depthSource = .notRequired

theorem wellFormed_of_validateTargets {frame : SubmittedFrame} {targets : Targets}
    {capturedAt now : ℚ} {accepted : TargetFrame} (hsource : frame.source ≠ .other)
    (h : validateTargets cal selected frame targets capturedAt now = .ok (some accepted)) :
    accepted.WellFormed := by
  unfold validateTargets at h
  rw [ite_error_eq_ok] at h
  obtain ⟨-, h⟩ := h
  split at h
  · cases h
  rw [ite_error_eq_ok, ite_error_eq_ok] at h
  obtain ⟨-, hother, h⟩ := h
  cases hevidence : depthEvidence cal frame capturedAt now with
  | error e =>
    rw [hevidence] at h
    cases h
  | ok evidence =>
    rw [hevidence] at h
    cases evidence with
    | none => cases h
    | some evidence =>
      obtain ⟨_, -, h⟩ := except_bind_eq_ok.1 h
      cases h
      constructor
      · intro hmano
        change frame.source = .mano at hmano
        show (if frame.source = .mano then frame.depthSource else .notRequired) = _ ∨
          (if frame.source = .mano then frame.depthSource else .notRequired) = _
        rw [if_pos hmano]
        unfold depthEvidence at hevidence
        rw [if_pos hmano, ite_error_eq_ok] at hevidence
        cases hdepth : frame.depthSource with
        | measured => exact .inl rfl
        | held => exact .inr rfl
        | notRequired => exact absurd hdepth hevidence.1
        | other => exact absurd hdepth hother
      · intro hmano
        change frame.source ≠ .mano at hmano
        show frame.source = _ ∧ (if frame.source = .mano then frame.depthSource else .notRequired) = _
        rw [if_neg hmano]
        cases hframe : frame.source with
        | mano => exact absurd hframe hmano
        | fallbackOpen => exact ⟨rfl, rfl⟩
        | other => exact absurd hframe hsource

theorem wellFormed_of_validateFrame {frame : SubmittedFrame} {early : EarlyReads}
    {accepted : TargetFrame} (h : validateFrame cal selected frame early = .ok (some accepted)) :
    accepted.WellFormed := by
  unfold validateFrame at h
  rw [ite_error_eq_ok] at h
  obtain ⟨hsource, h⟩ := h
  split at h
  · cases h
  split at h
  · cases h
  split at h
  · cases h
  split at h
  · split at h
    · cases h
    · exact wellFormed_of_validateTargets hsource h
  · cases h

variable (cal selected) in
/-- **What `submit` leaves**: the same state, or a newer frame that was accepted while the stream
waits or is active, a fallback frame only while it is active. -/
theorem submit_cases (s : Shared) (frame : SubmittedFrame) (early : EarlyReads) :
    (s.submit cal selected frame early).2 = (s, []) ∨
      ∃ accepted : TargetFrame, accepted.WellFormed ∧ s.stopEvent = false ∧
        s.state.accepting = true ∧ (accepted.source = .fallbackOpen → s.state = .active) ∧
        s.outdated accepted = false ∧
        (s.submit cal selected frame early).2 =
          ({ s with latestTarget := some accepted, targetGeneration := s.targetGeneration + 1 },
            [.accepted accepted]) := by
  unfold Shared.submit
  cases hvalid : validateFrame cal selected frame early with
  | error e => exact .inl rfl
  | ok validated =>
    cases validated with
    | none => exact .inl rfl
    | some accepted =>
      dsimp only
      unfold Shared.store
      split
      · exact .inl rfl
      split
      · exact .inl rfl
      split
      · exact .inl rfl
      rename_i hopen hfallback hnew
      rw [not_or, not_not] at hopen
      refine .inr ⟨accepted, wellFormed_of_validateFrame hvalid, by simpa using hopen.1, hopen.2, ?_,
        by simpa using hnew, rfl⟩
      intro hsource
      by_contra hstate
      exact hfallback ⟨hsource, .inl hstate⟩

/-! ## The worker -/

def SameFrames (before s : Shared) (t : List StreamEvent) : Prop :=
  s.latestTarget = before.latestTarget ∧ s.targetGeneration = before.targetGeneration ∧
    acceptedFrames t = []

theorem untouched_sameFrames (before : Shared) : Untouched (SameFrames before) where
  event s t event hevent h := by
    obtain ⟨hlatest, hgeneration, hframes⟩ := h
    refine ⟨hlatest, hgeneration, ?_⟩
    rw [acceptedFrames_append, hframes, List.nil_append]
    cases event with
    | write | angleSetRead | idleVerified => rfl
    | accepted | stopRequested | ticked | seeded | taken | healthy | armed => cases hevent
  readback _ _ _ h := h
  verified _ _ h := h
  reason _ _ _ h := h

variable (s : Stream) (input : WorkerInput)

theorem sameFrames_shutdown (operationError : Option PyException) :
    SameFrames s.shared (s.shutdown cal selected input operationError).1.shared
      (s.shutdown cal selected input operationError).2 := by
  have hhold : ∀ after t values, SameFrames s.shared after t →
      SameFrames s.shared after (t ++ [.write .angleSet values .hold]) := by
    rintro after t values ⟨hlatest, hgeneration, hframes⟩
    refine ⟨hlatest, hgeneration, ?_⟩
    rw [acceptedFrames_append, hframes]
    rfl
  have hkeeps := wp_outcome ((untouched_sameFrames s.shared).keeps_disable cal
    selected hhold input.shutdown (s.shared.everActive && operationError.isNone)
    s.originals s.shared [] ⟨rfl, rfl, rfl⟩)
  unfold Stream.shutdown
  generalize disable cal selected input.shutdown (s.shared.everActive && operationError.isNone)
    s.originals s.shared = outcome at hkeeps ⊢
  obtain ⟨result, shared, events⟩ := outcome
  cases result with
  | ok _ => exact hkeeps
  | error e => exact hkeeps

theorem sameFrames_preflight :
    SameFrames s.shared (s.preflight cal selected input).1.shared
      (s.preflight cal selected input).2 := by
  have hwrites : acceptedFrames input.preflight.writes = [] := by
    unfold PreflightOutcome.writes
    cases input.preflight.speeds <;> cases input.preflight.forces <;> rfl
  unfold Stream.preflight
  dsimp only
  cases input.preflight.result with
  | error e => exact ⟨rfl, rfl, hwrites⟩
  | ok angles =>
    dsimp only
    cases selectedCommandsFromActual cal selected angles with
    | error e => exact ⟨rfl, rfl, hwrites⟩
    | ok seed =>
      refine ⟨rfl, rfl, ?_⟩
      rw [acceptedFrames_append, hwrites]
      rfl

def Loop.fitting (cal : PipelineCalibration) (l : Loop) (waiting : Bool) (tick : Tick) : Loop :=
  if waiting && tick.unfit cal then l.reset else l

theorem Loop.fitting_lastGeneration (cal : PipelineCalibration) (l : Loop) (waiting : Bool) (tick : Tick) :
    (l.fitting cal waiting tick).lastGeneration = l.lastGeneration := by
  unfold fitting
  split
  · rfl
  · rfl

/-- **What a tick does with the newest frame.** -/
inductive Loop.Takes (cal : PipelineCalibration) (selected : Fin 6 → Bool) (l : Loop)
    (waiting : Bool) (tick : Tick) : Loop × List StreamEvent → Prop where
  | missing (hframe : tick.targetFrame = none) :
      Takes cal selected l waiting tick (l.fitting cal waiting tick, [])
  | known (frame : TargetFrame) (hframe : tick.targetFrame = some frame)
      (hgeneration : tick.generation = l.lastGeneration) :
      Takes cal selected l waiting tick (l.fitting cal waiting tick, [])
  | admitted (frame : TargetFrame) (hframe : tick.targetFrame = some frame)
      (hgeneration : tick.generation ≠ l.lastGeneration)
      (hadmissible : admissible cal waiting tick.loopStart frame = true) :
      Takes cal selected l waiting tick
        ({ l.fitting cal waiting tick with lastGeneration := tick.generation }.admitted cal selected
          frame, [.taken tick.loopStart frame])
  | refused (frame : TargetFrame) (hframe : tick.targetFrame = some frame)
      (hgeneration : tick.generation ≠ l.lastGeneration)
      (hadmissible : admissible cal waiting tick.loopStart frame = false) :
      Takes cal selected l waiting tick
        ({ l.fitting cal waiting tick with lastGeneration := tick.generation }.reset,
          [.taken tick.loopStart frame])

variable (cal selected) in
theorem Loop.takes (l : Loop) (waiting : Bool) (tick : Tick) :
    l.Takes cal selected waiting tick (l.take cal selected waiting tick) := by
  have hgen := l.fitting_lastGeneration cal waiting tick
  unfold take
  cases hframe : tick.targetFrame with
  | none => exact .missing hframe
  | some frame =>
    change Takes _ _ _ _ _ (if tick.generation = (l.fitting cal waiting tick).lastGeneration then
      (l.fitting cal waiting tick, []) else _)
    rw [hgen]
    by_cases hgeneration : tick.generation = l.lastGeneration
    · rw [if_pos hgeneration]
      exact .known frame hframe hgeneration
    · rw [if_neg hgeneration]
      dsimp only
      by_cases hadmissible : admissible cal waiting tick.loopStart frame = true
      · rw [if_pos hadmissible]
        exact .admitted frame hframe hgeneration hadmissible
      · rw [if_neg hadmissible]
        exact .refused frame hframe hgeneration (by simpa using hadmissible)

theorem acceptedFrames_take (l : Loop) (waiting : Bool) (tick : Tick) :
    acceptedFrames (l.take cal selected waiting tick).2 = [] := by
  have h := l.takes cal selected waiting tick
  generalize l.take cal selected waiting tick = taken at h
  cases h with
  | missing | known | admitted | refused => rfl

variable (cal selected) in
theorem sameFrames_work :
    SameFrames s.shared (s.work cal selected input).1.shared (s.work cal selected input).2 := by
  unfold Stream.work
  split
  · exact ⟨rfl, rfl, rfl⟩
  · cases input.result with
    | error e => exact ⟨rfl, rfl, rfl⟩
    | ok _ => exact ⟨rfl, rfl, rfl⟩
  · exact sameFrames_preflight s input
  · unfold Stream.loopTop
    split
    · exact ⟨rfl, rfl, rfl⟩
    · exact ⟨rfl, rfl, rfl⟩
  · refine ⟨rfl, rfl, ?_⟩
    exact acceptedFrames_take _ _ _
  · unfold Stream.arm
    split
    · exact ⟨rfl, rfl, rfl⟩
    · cases input.readSafetyFeedback cal selected _ _ with
      | error e => exact ⟨rfl, rfl, rfl⟩
      | ok _ => exact ⟨rfl, rfl, rfl⟩
  · unfold Stream.confirm
    split
    · exact ⟨rfl, rfl, rfl⟩
    · cases input.angleSet with
      | error e => exact ⟨rfl, rfl, rfl⟩
      | ok targets =>
        dsimp only
        split
        · exact ⟨rfl, rfl, rfl⟩
        · exact ⟨rfl, rfl, rfl⟩
  · unfold Stream.activate
    split
    · exact ⟨rfl, rfl, rfl⟩
    · exact ⟨rfl, rfl, rfl⟩
  · unfold Stream.gate
    split
    · exact ⟨rfl, rfl, rfl⟩
    split
    · exact ⟨rfl, rfl, rfl⟩
    · dsimp only
      split
      · exact ⟨rfl, rfl, rfl⟩
      · exact ⟨rfl, rfl, rfl⟩
  · unfold Stream.write
    split
    · exact ⟨rfl, rfl, rfl⟩
    · cases input.result with
      | error e => exact ⟨rfl, rfl, rfl⟩
      | ok _ => exact ⟨rfl, rfl, rfl⟩
  · unfold Stream.feed
    split
    · cases input.readSafetyFeedback cal selected _ _ with
      | error e => exact ⟨rfl, rfl, rfl⟩
      | ok _ => exact ⟨rfl, rfl, rfl⟩
    · exact ⟨rfl, rfl, rfl⟩
  · exact ⟨rfl, rfl, rfl⟩
  · exact ⟨rfl, rfl, rfl⟩
  · exact sameFrames_shutdown s input _
  · unfold Stream.close
    split
    · exact ⟨rfl, rfl, rfl⟩
    · exact ⟨rfl, rfl, rfl⟩
  · exact ⟨rfl, rfl, rfl⟩
  · exact ⟨rfl, rfl, rfl⟩

/-! ## Runs -/

def Newer (before after : TargetFrame) : Prop :=
  before.capturedAtMonotonic < after.capturedAtMonotonic ∧ before.frameNumber < after.frameNumber

/-- **What the shared state says of the accepted frames.** -/
structure Frames (s : Shared) (t : List StreamEvent) : Prop where
  latest : s.latestTarget = (acceptedFrames t).getLast?
  generation : s.targetGeneration = (acceptedFrames t).length
  wellFormed : ∀ frame ∈ acceptedFrames t, frame.WellFormed
  ordered : List.IsChain Newer (acceptedFrames t)

theorem frames_init : Frames .init [] where
  latest := rfl
  generation := rfl
  wellFormed _ h := absurd h List.not_mem_nil
  ordered := List.IsChain.nil

variable {before after : Shared} {t w : List StreamEvent}

theorem Frames.same (h : Frames before t) (hsame : SameFrames before after w) :
    Frames after (t ++ w) := by
  obtain ⟨hlatest, hgeneration, hframes⟩ := hsame
  have happend : acceptedFrames (t ++ w) = acceptedFrames t := by
    rw [acceptedFrames_append, hframes, List.append_nil]
  constructor
  · rw [happend, hlatest, h.latest]
  · rw [happend, hgeneration, h.generation]
  · rw [happend]
    exact h.wellFormed
  · rw [happend]
    exact h.ordered

theorem Frames.accept (h : Frames before t) {frame : TargetFrame} (hframe : frame.WellFormed)
    (hnew : before.outdated frame = false) :
    Frames { before with
      latestTarget := some frame
      targetGeneration := before.targetGeneration + 1 } (t ++ [.accepted frame]) := by
  have happend : acceptedFrames (t ++ [.accepted frame]) = acceptedFrames t ++ [frame] := by
    rw [acceptedFrames_append]
    rfl
  constructor
  · rw [happend, List.getLast?_concat]
  · rw [happend, List.length_append, ← h.generation]
    rfl
  · rw [happend]
    intro other hother
    rcases List.mem_append.1 hother with hother | hother
    · exact h.wellFormed other hother
    · rwa [List.mem_singleton.1 hother]
  · rw [happend, List.isChain_append]
    refine ⟨h.ordered, List.IsChain.singleton _, ?_⟩
    intro last hlast first hfirst
    rw [List.head?_cons, Option.mem_some_iff] at hfirst
    subst hfirst
    rw [Option.mem_def, ← h.latest] at hlast
    unfold Shared.outdated at hnew
    rw [hlast] at hnew
    simp only [Bool.or_eq_false_iff, decide_eq_false_iff_not, not_le] at hnew
    exact hnew

/-- **A fallback frame is accepted in the state `ACTIVE` only.** -/
theorem fallback_active {s : Stream} {i : StreamInput} {frame : TargetFrame}
    (h : .accepted frame ∈ ((machine cal selected).step s i).2)
    (hsource : frame.source = .fallbackOpen) : s.shared.state = .active := by
  cases i with
  | start => cases h
  | submit submitted early =>
    change _ ∈ (s.shared.submit cal selected submitted early).2.2 at h
    rcases submit_cases cal selected s.shared submitted early with
      hnone | ⟨accepted, -, -, -, hfallback, -, hsome⟩
    · rw [hnone] at h
      cases h
    · rw [hsome] at h
      obtain rfl : frame = accepted := StreamEvent.accepted.inj (List.mem_singleton.1 h)
      exact hfallback hsource
  | requestStop reason => cases List.mem_singleton.1 h
  | work input =>
    have hnone := (sameFrames_work cal selected s input).2.2
    have hmem := mem_acceptedFrames.2 h
    change frame ∈ acceptedFrames (s.work cal selected input).2 at hmem
    rw [hnone] at hmem
    cases hmem

variable (cal selected) in
theorem frames_step (s : Stream) (t : List StreamEvent) (i : StreamInput) (h : Frames s.shared t) :
    Frames ((machine cal selected).step s i).1.shared
      (t ++ ((machine cal selected).step s i).2) := by
  cases i with
  | start =>
    refine h.same ⟨?_, ?_, rfl⟩
    · show s.start.shared.latestTarget = _
      unfold Stream.start
      split <;> rfl
    · show s.start.shared.targetGeneration = _
      unfold Stream.start
      split <;> rfl
  | submit frame early =>
    show Frames (s.shared.submit cal selected frame early).2.1
      (t ++ (s.shared.submit cal selected frame early).2.2)
    rcases submit_cases cal selected s.shared frame early with
      hnone | ⟨accepted, hframe, -, -, -, hnew, hsome⟩
    · rw [hnone]
      exact h.same ⟨rfl, rfl, rfl⟩
    · rw [hsome]
      exact h.accept hframe hnew
  | requestStop reason => exact h.same ⟨rfl, rfl, rfl⟩
  | work input => exact h.same (sameFrames_work cal selected s input)

variable (cal selected) in
theorem frames_run (inputs : List StreamInput) :
    Frames ((machine cal selected).run .init inputs).shared
      ((machine cal selected).trace .init inputs) :=
  (machine cal selected).monitor_induction (P := fun s t => Frames s.shared t) frames_init
    (frames_step cal selected) inputs

end FrankaDeploy.Rh56Stream
