import FrankaDeploy.RealSense.Camera
import FrankaDeploy.Foundation.Monitor

/-! # The law of a camera, and its startup

What every event of a camera's trace has to be, given the events before it. The startup succeeds
only at the end of an uninterrupted run of valid candidates, for which the gate's counter stands. -/

namespace FrankaDeploy.RealSense

open FrankaDeploy.Foundation FrankaDeploy.Foundation.Program FrankaDeploy.Foundation.Monitor
open scoped FloatArith

variable {config : CameraConfig Binary64}

/-! ## What a trace tells -/

def Newer (p q : ℤ × ℤ) : Prop := p.1 < q.1 ∧ p.2 < q.2

def acceptedStep (seen : List (ℤ × ℤ)) : Event Binary64 → List (ℤ × ℤ)
  | .starting => []
  | .started (some color) (some depth) => [(color, depth)]
  | .dequeued record =>
    if record.stage = .runtime ∧ record.outcome = .accepted then
      seen ++ record.frames.numbers.toList
    else seen
  | _ => seen

/-- **The pairs accepted since the last start**, from the last one of its startup on. -/
def acceptedSince (t : List (Event Binary64)) : List (ℤ × ℤ) := t.foldl acceptedStep []

def dequeuedStep (seen : List (Dequeue Binary64)) : Event Binary64 → List (Dequeue Binary64)
  | .starting => []
  | .dequeued record => seen ++ [record]
  | _ => seen

/-- **The candidates dequeued since the last start.** -/
def dequeuedSince (t : List (Event Binary64)) : List (Dequeue Binary64) := t.foldl dequeuedStep []

def startedStep (completed : Bool) : Event Binary64 → Bool
  | .starting => false
  | .started _ _ => true
  | _ => completed

/-- **The startup of the last start is completed.** -/
def startedSince (t : List (Event Binary64)) : Bool := t.foldl startedStep false

@[simp] theorem acceptedSince_snoc (t : List (Event Binary64)) (e : Event Binary64) :
    acceptedSince (t ++ [e]) = acceptedStep (acceptedSince t) e := by
  rw [acceptedSince, List.foldl_append]
  rfl

@[simp] theorem dequeuedSince_snoc (t : List (Event Binary64)) (e : Event Binary64) :
    dequeuedSince (t ++ [e]) = dequeuedStep (dequeuedSince t) e := by
  rw [dequeuedSince, List.foldl_append]
  rfl

@[simp] theorem startedSince_snoc (t : List (Event Binary64)) (e : Event Binary64) :
    startedSince (t ++ [e]) = startedStep (startedSince t) e := by
  rw [startedSince, List.foldl_append]
  rfl

/-! ## The law -/

structure StartupValid (config : CameraConfig Binary64) (lower upper : Binary64)
    (record : Dequeue Binary64) : Prop where
  accepted : record.stage = .startup ∧ record.outcome = .startupAccepted
  valid : ∃ color depth, record.frames = ⟨some color, some depth⟩ ∧
    TimestampValid config.limits color depth record.host.realtimeS
  lower_le : lower ≤ record.host.offset
  le_upper : record.host.offset ≤ upper

def Increases (record next : Dequeue Binary64) : Prop :=
  ∃ p q, record.frames.numbers = some p ∧ next.frames.numbers = some q ∧ Newer p q

/-- **A completed startup run**: the last candidates, as many as required, are valid, their numbers
increase, and their clock offsets lie in a window within the jitter limit. -/
def StartupRun (config : CameraConfig Binary64) (records : List (Dequeue Binary64)) (p : ℤ × ℤ) :
    Prop :=
  ∃ lower upper, ¬config.startupMaxClockOffsetJitterS < upper - lower ∧
    EndsInRun (StartupValid config lower upper) Increases
      config.startupRequiredConsecutiveFrames.toNat records ∧
    ∃ last, records.getLast? = some last ∧ last.frames.numbers = some p

/-- **A candidate that has to be accepted** after the pairs `seen`: it is complete, timestamp-valid,
newer than the last of them and not after the deadline. -/
def Acceptable (config : CameraConfig Binary64) (seen : List (ℤ × ℤ)) (record : Dequeue Binary64) :
    Prop :=
  ∃ color depth, record.frames = ⟨some color, some depth⟩ ∧
    TimestampValid config.limits color depth record.host.realtimeS ∧
    (∀ p, seen.getLast? = some p → Newer p (color.number, depth.number)) ∧
    ¬record.deadlineS ≤ record.host.monotonicAfterS

/-- **A rightly returned frame**: it is the pair accepted last, newer than all that were accepted
before it, and it is timestamp-valid. -/
structure ReturnedRightly (config : CameraConfig Binary64) (t : List (Event Binary64))
    (frame : RGBDFrame Binary64) : Prop where
  newest : ∃ earlier, acceptedSince t =
      earlier ++ [(frame.sensorFrameNumber, frame.depthSensorFrameNumber)] ∧
    ∀ p ∈ earlier, Newer p (frame.sensorFrameNumber, frame.depthSensorFrameNumber)
  pair : ∃ record color depth, .dequeued record ∈ t ∧ record.frames = ⟨some color, some depth⟩ ∧
    color.number = frame.sensorFrameNumber ∧ depth.number = frame.depthSensorFrameNumber ∧
    record.host.realtimeS = frame.retrievedAtS ∧ color.timestampS = frame.timestamp ∧
    colorDepthSkew color depth = .ok frame.colorDepthTimestampSkewS
  skew : frame.colorDepthTimestampSkewS ≤ config.maxColorDepthTimestampSkewS
  notFuture : -config.maxTimestampFutureSkewS ≤ frame.retrievedAtS - frame.timestamp
  fresh : frame.retrievedAtS - frame.timestamp ≤ config.maxCaptureToRetrievalS

/-- **The law of an event** after the events `before`. -/
def EventLaw (config : CameraConfig Binary64) (before : List (Event Binary64)) :
    Event Binary64 → Prop
  | .starting => True
  | .started color depth => ∃ p, color = some p.1 ∧ depth = some p.2 ∧
      StartupRun config (dequeuedSince before) p
  | .dequeued record => record.stage = .runtime →
      (record.outcome = .accepted ↔ Acceptable config (acceptedSince before) record)
  | .returned frame => ReturnedRightly config before frame

/-- **The camera after the events `t`**: every event was lawful, and the anchor is the pair that was
accepted last. -/
structure Lawful (config : CameraConfig Binary64) (s : CameraState Binary64)
    (t : List (Event Binary64)) : Prop where
  law : Everywhere (EventLaw config) t
  color : s.lastAcceptedSensorFrameNumber = (acceptedSince t).getLast?.map (·.1)
  depth : s.lastAcceptedDepthSensorFrameNumber = (acceptedSince t).getLast?.map (·.2)
  advance : (acceptedSince t).Pairwise Newer
  ready : s.started = true → startedSince t = true

theorem lawful_init : Lawful config CameraState.init [] :=
  ⟨everywhere_nil, rfl, rfl, List.Pairwise.nil, fun hfalse => by cases hfalse⟩

/-- **An event that accepts nothing** keeps the anchor. -/
theorem Lawful.snoc {s : CameraState Binary64} {t : List (Event Binary64)} (h : Lawful config s t)
    {e : Event Binary64} (hevent : EventLaw config t e)
    (hsame : acceptedStep (acceptedSince t) e = acceptedSince t)
    (hcompleted : startedStep (startedSince t) e = startedSince t) :
    Lawful config s (t ++ [e]) := by
  refine ⟨h.law.snoc hevent, ?_, ?_, ?_, ?_⟩
  · rw [acceptedSince_snoc, hsame]
    exact h.color
  · rw [acceptedSince_snoc, hsame]
    exact h.depth
  · rw [acceptedSince_snoc, hsame]
    exact h.advance
  · rw [startedSince_snoc, hcompleted]
    exact h.ready

/-- **The anchor is kept**, and the camera is not started by it. -/
structure SameAnchor (s s' : CameraState Binary64) : Prop where
  color : s'.lastAcceptedSensorFrameNumber = s.lastAcceptedSensorFrameNumber
  depth : s'.lastAcceptedDepthSensorFrameNumber = s.lastAcceptedDepthSensorFrameNumber
  started : s'.started = true → s.started = true

theorem Lawful.of_anchor {s s' : CameraState Binary64} {t : List (Event Binary64)}
    (h : Lawful config s t) (hsame : SameAnchor s s') : Lawful config s' t :=
  ⟨h.law, hsame.color.trans h.color, hsame.depth.trans h.depth, h.advance,
    fun hstarted => h.ready (hsame.started hstarted)⟩

/-! ## The gate -/

/-- **The gate after the candidates `records`**: its counter stands for a run at their end. -/
structure GateStands (config : CameraConfig Binary64) (gate : Gate Binary64)
    (records : List (Dequeue Binary64)) : Prop where
  required : gate.requiredConsecutiveFrames = config.startupRequiredConsecutiveFrames
  two_le : 2 ≤ gate.requiredConsecutiveFrames
  jitter : gate.maximumClockOffsetJitterS = config.startupMaxClockOffsetJitterS
  window : ∀ lower upper, gate.sequenceClockOffset = some (lower, upper) →
    lower.isNaN = false ∧ upper.isNaN = false
  run : 0 < gate.consecutiveValidFrames → ∃ lower upper p last,
    gate.sequenceClockOffset = some (lower, upper) ∧
    ¬config.startupMaxClockOffsetJitterS < upper - lower ∧
    EndsInRun (StartupValid config lower upper) Increases gate.consecutiveValidFrames records ∧
    records.getLast? = some last ∧ last.frames.numbers = some p ∧
    gate.lastSensorFrameNumber = some p.1 ∧ gate.lastDepthSensorFrameNumber = some p.2

variable {gate : Gate Binary64} {records : List (Dequeue Binary64)}

theorem GateStands.clearSequence (h : GateStands config gate records)
    (color depth : Option ℤ) {reference : Option Binary64}
    (hreference : ∀ offset, reference = some offset → offset.isNaN = false)
    (records' : List (Dequeue Binary64)) :
    GateStands config (Gate.clearSequence
      { gate with lastSensorFrameNumber := color, lastDepthSensorFrameNumber := depth } reference)
      records' := by
  refine ⟨h.required, h.two_le, h.jitter, ?_, fun hpos => absurd hpos (Nat.lt_irrefl 0)⟩
  intro lower upper hwindow
  cases hsome : reference with
  | none =>
    rw [hsome] at hwindow
    cases hwindow
  | some offset =>
    rw [hsome] at hwindow
    obtain ⟨rfl, rfl⟩ := Prod.mk.inj (Option.some.inj hwindow)
    exact ⟨hreference _ hsome, hreference _ hsome⟩

theorem GateStands.reject (h : GateStands config gate records) (color depth : Option ℤ)
    (host : Option (ClockSample Binary64)) (records' : List (Dequeue Binary64)) :
    GateStands config (gate.reject color depth host) records' := by
  unfold Gate.reject
  cases recordObservation color depth host with
  | error e =>
    exact h.clearSequence gate.lastSensorFrameNumber gate.lastDepthSensorFrameNumber
      (fun _ hsome => by cases hsome) records'
  | ok validated => exact h.clearSequence _ _ (fun _ hsome => by cases hsome) records'

theorem isNaN_offset {host : ClockSample Binary64} {pairSpanS : Binary64}
    (h : hostClockSample host = .ok pairSpanS) : host.offset.isNaN = false := by
  obtain ⟨hfinite, -⟩ := ite_error_eq_ok.mp h
  have hfinite : ∀ value ∈ [host.monotonicBeforeS, host.realtimeS, host.monotonicAfterS],
      FloatArith.isFinite value = true := by simpa using hfinite
  exact Ieee.isNaN_sub (hfinite _ (by simp)) (hfinite _ (by simp))

theorem widened_holds {window : Option (Binary64 × Binary64)} {offset : Binary64}
    (hoffset : offset.isNaN = false) (hwindow : ∀ lower upper, window = some (lower, upper) →
      lower.isNaN = false ∧ upper.isNaN = false) :
    ((widened window offset).1 ≤ offset ∧ offset ≤ (widened window offset).2) ∧
      ∀ lower upper, window = some (lower, upper) →
        (widened window offset).1 ≤ lower ∧ upper ≤ (widened window offset).2 := by
  cases window with
  | none =>
    exact ⟨⟨Ieee.le_refl hoffset, Ieee.le_refl hoffset⟩, fun _ _ hsome => by cases hsome⟩
  | some window =>
    obtain ⟨lower, upper⟩ := window
    obtain ⟨hlower, hupper⟩ := hwindow lower upper rfl
    refine ⟨⟨(Ieee.stdMin_le hlower hoffset).2, (Ieee.le_stdMax hupper hoffset).2⟩, ?_⟩
    intro lower' upper' hsome
    obtain ⟨rfl, rfl⟩ := Prod.mk.inj (Option.some.inj hsome)
    exact ⟨(Ieee.stdMin_le hlower hoffset).1, (Ieee.le_stdMax hupper hoffset).1⟩

/-- **What the gate makes of a timestamp-valid candidate**: it clears its run, or the candidate
increases the numbers, fits the window and is counted. -/
theorem observeValid_cases (gate : Gate Binary64) (color depth : ℤ) (host : ClockSample Binary64) :
    (∃ color' depth' reference, (∀ offset, reference = some offset → offset = host.offset) ∧
      gate.observeValid color depth host = Gate.clearSequence
        { gate with lastSensorFrameNumber := color', lastDepthSensorFrameNumber := depth' }
        reference) ∨
    (increases gate.lastSensorFrameNumber color = true ∧
      increases gate.lastDepthSensorFrameNumber depth = true ∧
      ¬gate.maximumClockOffsetJitterS < (widened gate.sequenceClockOffset host.offset).2 -
        (widened gate.sequenceClockOffset host.offset).1 ∧
      gate.observeValid color depth host =
        { gate with
          lastSensorFrameNumber := some color
          lastDepthSensorFrameNumber := some depth
          sequenceClockOffset := some (widened gate.sequenceClockOffset host.offset)
          consecutiveValidFrames := gate.consecutiveValidFrames + 1 }) := by
  unfold Gate.observeValid
  cases recordObservation (some color) (some depth) (some host) with
  | error e =>
    exact .inl ⟨gate.lastSensorFrameNumber, gate.lastDepthSensorFrameNumber, none,
      fun _ hsome => (by cases hsome), rfl⟩
  | ok validated =>
    dsimp only
    by_cases hregressed : !increases gate.lastSensorFrameNumber color ∨
        !increases gate.lastDepthSensorFrameNumber depth
    · rw [if_pos hregressed]
      exact .inl ⟨some color, some depth, none, fun _ hsome => (by cases hsome), rfl⟩
    · rw [if_neg hregressed]
      rw [not_or, Bool.not_eq_true', Bool.not_eq_false, Bool.not_eq_true', Bool.not_eq_false]
        at hregressed
      by_cases hjump : gate.maximumClockOffsetJitterS <
          (widened gate.sequenceClockOffset host.offset).2 -
            (widened gate.sequenceClockOffset host.offset).1
      · rw [if_pos hjump]
        exact .inl ⟨some color, some depth, some host.offset,
          fun _ hsome => (Option.some.inj hsome).symm, rfl⟩
      · rw [if_neg hjump]
        exact .inr ⟨hregressed.1, hregressed.2, hjump, rfl⟩

theorem lt_of_increases {previous : Option ℤ} {last number : ℤ} (hlast : previous = some last)
    (h : increases previous number = true) : last < number := by
  rw [hlast] at h
  simpa [increases] using h

def gateRecord (gate observed : Gate Binary64) (record : Outcome → Dequeue Binary64) :
    Dequeue Binary64 :=
  record (if gate.resetCount < observed.resetCount then .startupGateRejected else .startupAccepted)

/-- **A timestamp-valid candidate** clears the gate or extends its run. -/
theorem GateStands.observeValid (h : GateStands config gate records) {color depth : Frame Binary64}
    {drained : List (Frameset Binary64)} {frames : Frameset Binary64} {host : ClockSample Binary64}
    {deadlineS pairSpanS : Binary64} (hhost : hostClockSample host = .ok pairSpanS)
    (hframes : frames = ⟨some color, some depth⟩)
    (hvalid : TimestampValid config.limits color depth host.realtimeS) :
    GateStands config (gate.observeValid color.number depth.number host)
      (records ++ [gateRecord gate (gate.observeValid color.number depth.number host)
        fun outcome => ⟨.startup, drained, frames, host, deadlineS, outcome⟩]) := by
  have hoffset := isNaN_offset hhost
  rcases observeValid_cases gate color.number depth.number host with
    ⟨color', depth', reference, hreference, heq⟩ | ⟨hcolor, hdepth, hwithin, heq⟩
  · rw [heq]
    exact h.clearSequence color' depth' (fun offset hsome => hreference offset hsome ▸ hoffset) _
  rw [heq]
  obtain ⟨⟨hlower, hupper⟩, hwider⟩ := widened_holds hoffset h.window
  generalize hwindow : widened gate.sequenceClockOffset host.offset = window at *
  obtain ⟨lower, upper⟩ := window
  dsimp only at hlower hupper hwider hwithin ⊢
  rw [gateRecord, if_neg (Nat.lt_irrefl _)]
  have hlast : StartupValid config lower upper
      ⟨.startup, drained, frames, host, deadlineS, .startupAccepted⟩ :=
    ⟨⟨rfl, rfl⟩, ⟨color, depth, hframes, hvalid⟩, hlower, hupper⟩
  have hnumbers : frames.numbers = some (color.number, depth.number) := by
    rw [hframes]
    rfl
  refine ⟨h.required, h.two_le, h.jitter, ?_, fun _ => ?_⟩
  · intro lower' upper' hsome
    obtain ⟨rfl, rfl⟩ := Prod.mk.inj (Option.some.inj hsome)
    exact ⟨(Ieee.le_iff.mp hlower).1, (Ieee.le_iff.mp hupper).2.1⟩
  rw [h.jitter] at hwithin
  refine ⟨lower, upper, (color.number, depth.number), _, rfl, hwithin, ?_,
    List.getLast?_concat .., hnumbers, rfl, rfl⟩
  rcases Nat.eq_zero_or_pos gate.consecutiveValidFrames with hzero | hpos
  · rw [hzero]
    exact endsInRun_one _ hlast
  · obtain ⟨lower', upper', p, last, hsome, -, hrun, hend, hp, hpcolor, hpdepth⟩ := h.run hpos
    obtain ⟨hlower', hupper'⟩ := hwider lower' upper' hsome
    refine (hrun.imp fun record hrecord => ?_).snoc hlast fun last' hlast' => ?_
    · exact ⟨hrecord.accepted, hrecord.valid, Ieee.le_trans hlower' hrecord.lower_le,
        Ieee.le_trans hrecord.le_upper hupper'⟩
    · rw [hend] at hlast'
      obtain rfl := Option.some.inj hlast'
      exact ⟨p, _, hp, hnumbers, lt_of_increases hpcolor hcolor, lt_of_increases hpdepth hdepth⟩

/-- **A ready gate** stands for a completed startup run. -/
theorem GateStands.startupRun (h : GateStands config gate records) (hready : gate.ready = true) :
    ∃ p, gate.lastSensorFrameNumber = some p.1 ∧ gate.lastDepthSensorFrameNumber = some p.2 ∧
      StartupRun config records p := by
  have hready : gate.requiredConsecutiveFrames ≤ gate.consecutiveValidFrames := by
    simpa [Gate.ready] using hready
  have htwo := h.two_le
  obtain ⟨lower, upper, p, last, -, hwithin, hrun, hend, hp, hcolor, hdepth⟩ := h.run (by omega)
  refine ⟨p, hcolor, hdepth, lower, upper, hwithin, hrun.mono ?_, last, hend, hp⟩
  rw [← h.required]
  omega

theorem gateStands_of_settings (h : validatedStartupSettings config = .ok gate) :
    GateStands config gate records := by
  obtain ⟨gate', hinit, h⟩ := except_bind_eq_ok.mp h
  obtain ⟨-, h⟩ := ok_of_guard h
  obtain ⟨-, h⟩ := ok_of_guard h
  obtain ⟨-, h⟩ := ok_of_guard h
  obtain rfl : gate' = gate := Except.ok.inj h
  unfold Gate.init at hinit
  obtain ⟨htwo, hinit⟩ := ite_error_eq_ok.mp hinit
  obtain ⟨-, hinit⟩ := ite_error_eq_ok.mp hinit
  obtain rfl := Except.ok.inj hinit
  exact ⟨rfl, not_lt.mp htwo, rfl, fun _ _ hnone => (by cases hnone),
    fun hpos => absurd hpos (Nat.lt_irrefl 0)⟩

/-! ## Startup -/

theorem wp_waitForLatestFrameset {received : Received Binary64}
    {Q : List (Frameset Binary64) × Frameset Binary64 → CameraState Binary64 →
      List (Event Binary64) → Prop}
    {E : PyException → CameraState Binary64 → List (Event Binary64) → Prop}
    {s : CameraState Binary64} {t : List (Event Binary64)}
    (hQ : ∀ a s', SameAnchor s s' → Q a s' t) (hE : ∀ e s', SameAnchor s s' → E e s' t) :
    wp (waitForLatestFrameset received) Q E s t := by
  simp only [waitForLatestFrameset, wp_bind, wp_ofExcept]
  refine ⟨fun a _ => ?_, fun e _ => hE e s ⟨rfl, rfl, id⟩⟩
  rw [wp_ite]
  refine ⟨fun _ => ?_, fun _ => ?_⟩
  · simp only [wp_bind, wp_update, wp_fail]
    exact hE _ _ ⟨rfl, rfl, id⟩
  · simp only [wp_bind, wp_update, wp_ret]
    exact hQ _ _ ⟨rfl, rfl, id⟩

/-- **The camera in its startup**, with a gate. -/
structure Starting (config : CameraConfig Binary64) (gate : Gate Binary64)
    (s : CameraState Binary64) (t : List (Event Binary64)) : Prop where
  lawful : Lawful config s t
  nothing : acceptedSince t = []
  stands : GateStands config gate (dequeuedSince t)

theorem Lawful.startupDequeue {s : CameraState Binary64} {t : List (Event Binary64)}
    (h : Lawful config s t) (record : Dequeue Binary64) (hstage : record.stage = .startup) :
    Lawful config s (t ++ [.dequeued record]) ∧
      acceptedSince (t ++ [.dequeued record]) = acceptedSince t := by
  have hnot : ¬(record.stage = .runtime ∧ record.outcome = .accepted) := by
    rw [hstage]
    exact fun hruntime => by cases hruntime.1
  have hsame : acceptedStep (acceptedSince t) (.dequeued record) = acceptedSince t := if_neg hnot
  refine ⟨h.snoc (fun hruntime => ?_) hsame rfl, ?_⟩
  · rw [hstage] at hruntime
    cases hruntime
  · rw [acceptedSince_snoc, hsame]

def StartupOutcome (config : CameraConfig Binary64) (r : Option (Gate Binary64))
    (s : CameraState Binary64) (t : List (Event Binary64)) : Prop :=
  match r with
  | none => Lawful config s t
  | some gate => Starting config gate s t

/-- What the `try` of the startup leaves: for a timestamp-valid candidate the record is still to be
emitted. -/
def CandidateOutcome (config : CameraConfig Binary64) (gate : Gate Binary64)
    (host : ClockSample Binary64) (r : StartupCandidate Binary64) (s : CameraState Binary64)
    (t : List (Event Binary64)) : Prop :=
  match r with
  | .late => Lawful config s t
  | .rejected numbers host =>
    Starting config (gate.reject (numbers.map (·.1)) (numbers.map (·.2)) host) s t
  | .valid record color depth => (∀ outcome, (record outcome).stage = .startup) ∧
      Lawful config s t ∧ acceptedSince t = [] ∧
      GateStands config (gate.observeValid color depth host) (dequeuedSince t ++
        [gateRecord gate (gate.observeValid color depth host) record])

theorem wp_startupCandidate {deadlineS : Binary64} {host : ClockSample Binary64}
    {drained : List (Frameset Binary64)} {frames : Frameset Binary64} {s : CameraState Binary64}
    {t : List (Event Binary64)} (h : Starting config gate s t) :
    wp (startupCandidate config deadlineS host drained frames) (CandidateOutcome config gate host)
      (fun _ s t => Lawful config s t) s t := by
  -- a rejected candidate clears the gate
  have hrejected : ∀ (record : Dequeue Binary64) (s' : CameraState Binary64)
      (numbers : Option (ℤ × ℤ)) (host' : Option (ClockSample Binary64)), SameAnchor s s' →
      record.stage = .startup →
      CandidateOutcome config gate host (.rejected numbers host') s' (t ++ [.dequeued record]) := by
    intro record s' numbers host' hsame hstage
    obtain ⟨hlawful, haccepted⟩ := (h.lawful.of_anchor hsame).startupDequeue record hstage
    exact ⟨hlawful, haccepted.trans h.nothing, h.stands.reject _ _ _ _⟩
  unfold startupCandidate
  cases hhost : hostClockSample host with
  | error e =>
    rw [wp_ret]
    exact ⟨h.lawful, h.nothing, h.stands.reject _ _ _ _⟩
  | ok pairSpanS =>
    dsimp only
    rw [wp_ite]
    refine ⟨fun _ => ?_, fun _ => ?_⟩
    · simp only [wp_bind, wp_emit, wp_ret]
      exact (h.lawful.startupDequeue _ rfl).1
    obtain ⟨color, depth⟩ := frames
    cases color with
    | none =>
      simp only [wp_bind, wp_emit, wp_ret]
      exact hrejected _ s none (some host) ⟨rfl, rfl, id⟩ rfl
    | some color =>
      cases depth with
      | none =>
        simp only [wp_bind, wp_emit, wp_ret]
        exact hrejected _ s none (some host) ⟨rfl, rfl, id⟩ rfl
      | some depth =>
        dsimp only
        cases hvalid : validatedEpochCaptureTimestamp config.limits color depth
            host.realtimeS with
        | ok capture =>
          rw [wp_ret]
          exact ⟨fun _ => rfl, h.lawful, h.nothing, h.stands.observeValid hhost rfl
            (validatedEpochCaptureTimestamp_ok_iff.mp ⟨capture, hvalid⟩)⟩
        | error e =>
          dsimp only
          cases e with
          | colorDepthSkew skew =>
            simp only [countStartupRejection, wp_bind, wp_update, wp_ret, wp_emit]
            exact hrejected _ _ _ _ ⟨rfl, rfl, id⟩ rfl
          | stale age =>
            simp only [countStartupRejection, wp_bind, wp_update, wp_ret, wp_emit]
            exact hrejected _ _ _ _ ⟨rfl, rfl, id⟩ rfl
          | futureSkew skew =>
            simp only [countStartupRejection, wp_bind, wp_ret, wp_emit]
            exact hrejected _ s _ _ ⟨rfl, rfl, id⟩ rfl
          | fatal e =>
            simp only [countStartupRejection, wp_bind, wp_ret, wp_emit]
            exact hrejected _ s _ _ ⟨rfl, rfl, id⟩ rfl

theorem wp_startupStep {deadlineS : Binary64} {tick : StartupTick Binary64}
    {s : CameraState Binary64} {t : List (Event Binary64)} (h : Starting config gate s t) :
    wp (startupStep config deadlineS tick gate) (StartupOutcome config)
      (fun _ s t => Lawful config s t) s t := by
  rw [startupStep, wp_bind, wp_attempt]
  refine wp_waitForLatestFrameset ?_ ?_
  · rintro ⟨drained, frames⟩ s' hsame
    dsimp only
    rw [wp_bind]
    have hstarting : Starting config gate s' t :=
      ⟨h.lawful.of_anchor hsame, h.nothing, h.stands⟩
    refine wp_mono (wp_startupCandidate hstarting) ?_ fun _ _ _ h => h
    intro r s'' t' hr
    cases r with
    | late =>
      rw [wp_ret]
      exact hr
    | rejected numbers host =>
      rw [wp_ret]
      exact hr
    | valid record color depth =>
      obtain ⟨hstage, hlawful, hnothing, hstands⟩ := hr
      simp only [wp_bind, wp_emit, wp_ret]
      obtain ⟨hlawful, haccepted⟩ := hlawful.startupDequeue (gateRecord gate
        (gate.observeValid color depth tick.host) record) (hstage _)
      refine ⟨hlawful, haccepted.trans hnothing, ?_⟩
      rw [dequeuedSince_snoc]
      exact hstands
  · intro e s' hsame
    dsimp only
    rw [wp_ite]
    refine ⟨fun _ => ?_, fun _ => ?_⟩
    · rw [wp_ret]
      exact ⟨h.lawful.of_anchor hsame, h.nothing, h.stands.reject _ _ _ _⟩
    · rw [wp_fail]
      exact h.lawful.of_anchor hsame

theorem wp_waitForStartupReadiness {deadlineS : Binary64} (ticks : List (StartupTick Binary64))
    {s : CameraState Binary64} {t : List (Event Binary64)} (h : Starting config gate s t) :
    wp (waitForStartupReadiness config deadlineS ticks gate)
      (fun r s t => Lawful config s t ∧ (r = some () → startedSince t = true))
      (fun _ => Lawful config) s t := by
  induction ticks generalizing gate s t with
  | nil =>
    rw [waitForStartupReadiness, wp_ret]
    exact ⟨h.lawful, fun hnone => by cases hnone⟩
  | cons tick ticks ih =>
    rw [waitForStartupReadiness, wp_ite]
    refine ⟨fun _ => ?_, fun _ => ?_⟩
    · rw [wp_fail]
      exact h.lawful
    rw [wp_bind, wp_ofExcept]
    refine ⟨fun _ _ => ?_, fun _ _ => h.lawful⟩
    rw [wp_bind]
    refine wp_mono (wp_startupStep h) ?_ fun _ _ _ h => h
    intro r s' t' hr
    cases r with
    | none =>
      rw [wp_fail]
      exact hr
    | some gate' =>
      dsimp only
      rw [wp_ite]
      refine ⟨fun hready => ?_, fun _ => ih hr⟩
      obtain ⟨p, hcolor, hdepth, hrun⟩ := hr.stands.startupRun hready
      simp only [wp_bind, wp_update, wp_emit, wp_ret]
      -- the last pair of the run is the anchor
      have haccepted : acceptedSince
          (t' ++ [.started gate'.lastSensorFrameNumber gate'.lastDepthSensorFrameNumber]) = [p] := by
        rw [acceptedSince_snoc, hcolor, hdepth]
        rfl
      have hcompleted : startedSince
          (t' ++ [.started gate'.lastSensorFrameNumber gate'.lastDepthSensorFrameNumber]) = true :=
        startedSince_snoc _ _
      refine ⟨⟨hr.lawful.law.snoc ⟨p, hcolor, hdepth, hrun⟩, ?_, ?_, ?_, fun _ => hcompleted⟩,
        fun _ => hcompleted⟩
      · rw [haccepted]
        exact hcolor
      · rw [haccepted]
        exact hdepth
      · rw [haccepted]
        exact List.pairwise_singleton _ _

theorem wp_start (input : StartInput Binary64) {s : CameraState Binary64}
    {t : List (Event Binary64)} (h : Lawful config s t) :
    wp (start config input)
      (fun r s t => Lawful config s t ∧ (r = some () → startedSince t = true))
      (fun _ => Lawful config) s t := by
  simp only [start, wp_bind, wp_read, wp_ite, wp_ret, wp_ofExcept, wp_update, wp_emit, wp_attempt]
  refine ⟨fun hstarted => ⟨h, fun _ => h.ready hstarted⟩, fun _ => ⟨fun gate hgate => ⟨fun _ _ => ?_, fun _ _ => h⟩, fun _ _ => h⟩⟩
  have haccepted : acceptedSince (t ++ [.starting]) = [] := acceptedSince_snoc _ _
  have hdequeued : dequeuedSince (t ++ [.starting]) = [] := dequeuedSince_snoc _ _
  have hlawful : Lawful config (CameraState.reset s.frameId) (t ++ [.starting]) := by
    refine ⟨h.law.snoc trivial, ?_, ?_, ?_, fun hfalse => by cases hfalse⟩
    · rw [haccepted]
      rfl
    · rw [haccepted]
      rfl
    · rw [haccepted]
      exact List.Pairwise.nil
  refine ⟨fun _ _ => ?_, fun _ _ => ?_⟩
  · refine wp_mono (wp_waitForStartupReadiness input.ticks
      ⟨hlawful, haccepted, gateStands_of_settings hgate⟩) ?_ ?_
    · intro r s' t' hr
      cases r with
      | none =>
        rw [wp_ret]
        exact ⟨hr.1, fun hnone => by cases hnone⟩
      | some u =>
        simp only [wp_bind, wp_update, wp_ret]
        have hcompleted := hr.2 rfl
        exact ⟨⟨hr.1.law, hr.1.color, hr.1.depth, hr.1.advance, fun _ => hcompleted⟩,
          fun _ => hcompleted⟩
    · intro e s' t' hr
      simp only [wp_fail]
      exact hr.of_anchor ⟨rfl, rfl, fun hfalse => by cases hfalse⟩
  · simp only [wp_fail]
    exact hlawful.of_anchor ⟨rfl, rfl, fun hfalse => by cases hfalse⟩

end FrankaDeploy.RealSense
