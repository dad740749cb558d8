import FrankaDeploy.Foundation.Ieee754
import FrankaDeploy.Servo.ActiveLoop
import FrankaDeploy.Servo.HistoryProtocol

/-! # The active loop keeps the chain of histories

The variables `confirmed_history` and `last_sent_history` of the active loop are the reference and
the sent command of the bookkeeping, so every run of the loop keeps the chain, for every pattern of
accepted and dropped commands and every admitted period. -/

namespace FrankaDeploy.Servo

open FrankaDeploy.Foundation FrankaDeploy.Foundation.Monitor
open FrankaDeploy.Foundation.Program
open scoped FloatArith

variable {D S : Type} [FloatArith D]

/-! ## The relation -/

/-- **The variables of the loop are those of the bookkeeping** while a cycle stands at `stage`;
`known` says whether there is a reference history yet. -/
structure Books (stage : HistoryStage) (known : Bool) (s : ServoLoop D)
    (w : HistoryWatch D) : Prop where
  stage : w.stage = stage
  bootstrapped : w.bootstrapped = known
  confirmed : known = true → w.reference = s.confirmedHistory
  sent : w.sent = s.lastSentHistory

/-- **Inside a cycle** the bookkeeping allows the trace and follows the variables. -/
def Booking (admits : ℕ → Prop) (stage : HistoryStage) (known : Bool) (s : ServoLoop D)
    (t : List (ServoEvent D)) : Prop :=
  ∃ w, Booked admits t w ∧ Books stage known s w

variable (S) in
/-- **A drop is admitted**: if the returned state shows that the last command was dropped, then the
continuation grows to an admitted number of packets. -/
def DropAdmitted [FloatArith S] [FloatCast D S] (admits : ℕ → Prop) (sample : RobotSample D)
    (s : ServoLoop D) (t : List (ServoEvent D)) : Prop :=
  s.firstPeriod = false →
    selectReturnedDesiredHistory S sample s.confirmedHistory s.lastSentHistory = .ok .dropped →
    admits (continuationPackets t + sample.controlPeriodMs)

variable (S) in
/-- **After reading** the period of the last state is known, and it is a recoverable one after the
first cycle. -/
structure BookingRead [FloatArith S] [FloatCast D S] (admits : ℕ → Prop) (sample : RobotSample D)
    (s : ServoLoop D) (t : List (ServoEvent D)) : Prop where
  books : ∃ w, Booked admits t w ∧ Books .begun (!s.firstPeriod) s w ∧
    w.period = sample.controlPeriodMs
  period : s.firstPeriod = false → 1 ≤ sample.controlPeriodMs ∧
    sample.controlPeriodMs ≤ HardSafetyLimits.maximumRecoverableControlPeriodMs
  drop : DropAdmitted S admits sample s t

/-- **However the loop is left**, the bookkeeping allows the trace. -/
def Chained (admits : ℕ → Prop) (t : List (ServoEvent D)) : Prop :=
  ∃ w : HistoryWatch D, Booked admits t w

section Relation

variable {admits : ℕ → Prop} {stage : HistoryStage} {known : Bool} {s s' : ServoLoop D}
  {t : List (ServoEvent D)}

theorem Booking.chained (h : Booking admits stage known s t) : Chained admits t := by
  obtain ⟨w, hw, -⟩ := h
  exact ⟨w, hw⟩

theorem Booking.frame (h : Booking admits stage known s t)
    (hconfirmed : s'.confirmedHistory = s.confirmedHistory)
    (hsent : s'.lastSentHistory = s.lastSentHistory) : Booking admits stage known s' t := by
  obtain ⟨w, hw, hbooks⟩ := h
  refine ⟨w, hw, hbooks.stage, hbooks.bootstrapped, ?_, ?_⟩
  · rw [hconfirmed]
    exact hbooks.confirmed
  · rw [hsent]
    exact hbooks.sent

theorem Booking.event {event : ServoEvent D} (h : Booking admits stage known s t)
    (hevent : ∀ w, HistoryStep admits w event w) :
    Booking admits stage known s (t ++ [event]) := by
  obtain ⟨w, hw, hbooks⟩ := h
  exact ⟨w, .snoc hw (hevent w), hbooks⟩

end Relation

/-! ## Phases -/

section Phases

variable [FloatArith S] [FloatCast D S] {session : ServoSession D} {env : CycleEnv D}
  {sample : RobotSample D} {admits : ℕ → Prop} {stage : HistoryStage} {known : Bool}
  {s : ServoLoop D} {t : List (ServoEvent D)}

theorem readPhase_booking (h : Booking admits .written (!s.firstPeriod) s t)
    (hdrop : ∀ sample, env.readOnce = .ok sample → DropAdmitted S admits sample s t) :
    wp (readPhase env) (BookingRead S admits) (fun _ _ => Chained admits) s t := by
  unfold readPhase
  cases hread : env.readOnce with
  | error what =>
    rw [wp_fail]
    exact h.chained
  | ok sample =>
    obtain ⟨w, hw, hbooks⟩ := h
    have hbegun : Booked admits (t ++ [.cycleStarted sample])
        { w with period := sample.controlPeriodMs, stage := .begun } :=
      .snoc hw (.cycleStarted hbooks.stage)
    simp only [wp_bind, wp_emit, wp_read, wp_modifyRuntime, wp_faultIf, wp_update, wp_pure]
    refine ⟨fun _ => ⟨_, hbegun⟩, fun _ => ⟨fun _ => ⟨_, hbegun⟩, fun hperiod => ?_⟩⟩
    constructor
    · exact ⟨_, hbegun, { hbooks with stage := rfl }, rfl⟩
    · intro hfirst
      unfold periodRefused at hperiod
      rw [show s.firstPeriod = false from hfirst] at hperiod
      simp at hperiod
      omega
    · -- the state that was read is the one that the condition speaks about
      intro hfirst hdropped
      rw [continuationPackets_snoc]
      exact hdrop sample hread hfirst hdropped

theorem bootstrapPhase_booking (h : BookingRead S admits sample s t) (hfirst : s.firstPeriod = true) :
    wp (bootstrapPhase S session sample) (fun _ => Booking admits .referenced true)
      (fun _ _ => Chained admits) s t := by
  obtain ⟨w, hw, hbooks, -⟩ := h.books
  rw [hfirst] at hbooks
  have hstep : HistoryStep admits w (.bootstrapped sample.desiredHistory)
      { w with
        bootstrapped := true
        reference := sample.desiredHistory
        packets := 0
        stage := .referenced } :=
    .bootstrapped hbooks.stage hbooks.bootstrapped
  unfold bootstrapPhase
  simp only [wp_bind, wp_orFault, wp_modifyRuntime, wp_orException, wp_update, wp_emit, wp_pure]
  refine ⟨fun _ _ => ⟨fun _ _ => ⟨fun _ _ => ?_, fun _ _ => ⟨w, hw⟩⟩, fun _ _ => ⟨w, hw⟩⟩,
    fun _ _ => ⟨w, hw⟩⟩
  exact ⟨_, .snoc hw hstep, rfl, rfl, fun _ => rfl, hbooks.sent⟩

/-- **A returned state selects the reference history.** -/
theorem returnedPhase_booking (h : BookingRead S admits sample s t) (hfirst : s.firstPeriod = false) :
    wp (returnedPhase S session sample) (fun _ => Booking admits .referenced true)
      (fun _ _ => Chained admits) s t := by
  obtain ⟨w, hw, hbooks, hperiod⟩ := h.books
  obtain ⟨hone, hmaximum⟩ := h.period hfirst
  rw [hfirst] at hbooks
  unfold returnedPhase
  simp only [wp_bind, wp_read, wp_orFault, wp_faultIf, wp_update, wp_emit, wp_pure]
  refine ⟨fun _ _ => ⟨fun _ => ⟨w, hw⟩, fun _ => ⟨fun choice hselected => ⟨fun _ _ => ?_,
    fun _ _ => ⟨w, hw⟩⟩, fun _ _ => ⟨w, hw⟩⟩⟩, fun _ _ => ⟨w, hw⟩⟩
  cases choice with
  | accepted =>
    have hstep : HistoryStep admits w _ _ := .accepted hbooks.stage hbooks.bootstrapped
      (by rw [hperiod]; exact hone) (by rw [hperiod]; exact hmaximum)
    rw [hperiod, hbooks.sent] at hstep
    exact ⟨_, .snoc hw hstep, rfl, hbooks.bootstrapped, fun _ => rfl, rfl⟩
  | dropped =>
    have hadmits : admits (w.packets + w.period) := by
      rw [hw.reads.packets, hperiod]
      exact h.drop hfirst hselected
    have hstep := HistoryStep.dropped hbooks.stage hbooks.bootstrapped hadmits
    rw [hperiod, hbooks.confirmed rfl] at hstep
    exact ⟨_, .snoc hw hstep, rfl, hbooks.bootstrapped, fun _ => rfl, hbooks.sent⟩

theorem historyPhase_booking (h : BookingRead S admits sample s t) :
    wp (historyPhase S session sample) (fun _ => Booking admits .referenced true)
      (fun _ _ => Chained admits) s t := by
  unfold historyPhase
  simp only [wp_bind, wp_read, wp_ite]
  refine ⟨bootstrapPhase_booking h, fun hreturned => returnedPhase_booking h ?_⟩
  simpa using hreturned

theorem drainKeeps_booking : DrainKeeps session (Booking admits stage known) where
  packet _ _ h := h.frame rfl rfl
  heartbeat _ _ _ _ h := h.frame rfl rfl
  target _ _ _ _ h _ := Booking.frame (h.event fun _ => .targetAccepted) rfl rfl

theorem supervisionPhase_booking [FloatBits D] (h : Booking admits stage known s t) :
    wp (supervisionPhase session env) (fun _ => Booking admits stage known)
      (fun _ _ => Chained admits) s t := by
  unfold supervisionPhase
  simp only [wp_bind, wp_read]
  refine wp_mono (drainKeeps_booking.drainCritical env h) ?_ fun _ _ _ h => h.chained
  intro stop s t h
  unfold watchdogPhase
  simp only [wp_check, wp_bind, wp_read, wp_faultIf]
  exact ⟨fun _ => h.chained, fun _ => ⟨fun _ => h.chained, fun _ => ⟨fun _ => h.chained, fun _ =>
    ⟨fun _ => h.chained, fun _ => ⟨fun _ => h.chained, fun _ => ⟨fun _ => h.chained, fun _ =>
      h⟩⟩⟩⟩⟩⟩

theorem commandPhase_booking {reference : ExactDesiredHistory D}
    (h : Booking admits stage known s t) :
    wp (commandPhase S session env sample reference) (fun _ => Booking admits stage known)
      (fun _ _ => Chained admits) s t := by
  unfold commandPhase
  simp only [wp_bind, wp_read]
  cases s.interpolator with
  | none =>
    rw [wp_fail]
    exact h.chained
  | some interpolator =>
    simp only [wp_bind, wp_orException, wp_orFault, wp_faultIf, wp_update, wp_emit, wp_pure]
    refine ⟨fun _ _ => ⟨fun _ _ => ⟨fun _ => h.chained, fun _ => ⟨fun _ _ => ?_,
      fun _ _ => h.chained⟩⟩, fun _ _ => h.chained⟩, fun _ _ => h.chained⟩
    exact Booking.frame (h.event fun _ => .computed) rfl rfl

theorem writePhase_booking {command : ExactDesiredHistory D} (h : Booking admits .referenced true s t) :
    wp (writePhase S session env command) (fun _ => Booking admits .written true)
      (fun _ _ => Chained admits) s t := by
  unfold writePhase
  simp only [wp_bind, wp_modifyRuntime, wp_faultIf]
  refine ⟨fun _ => h.chained, fun _ => ?_⟩
  cases env.writeOnce with
  | error what =>
    rw [wp_fail]
    exact h.chained
  | ok _ =>
    simp only [wp_bind, wp_emit, wp_update]
    obtain ⟨w, hw, hbooks⟩ := h
    have hwritten : Booked admits (t ++ [.written command])
        { w with sent := command, stage := .written } :=
      .snoc hw (.written hbooks.stage)
    unfold synchronizeWritten
    simp only [wp_bind, wp_read]
    cases s.interpolator with
    | none =>
      rw [wp_fail]
      exact ⟨_, hwritten⟩
    | some interpolator =>
      simp only [wp_bind, wp_orException, wp_update, wp_modifyRuntime, wp_faultIf]
      refine ⟨fun _ _ => ⟨fun _ => ⟨_, hwritten⟩, fun _ => ⟨_, hwritten, ?_⟩⟩,
        fun _ _ => ⟨_, hwritten⟩⟩
      exact ⟨rfl, hbooks.bootstrapped, hbooks.confirmed, rfl⟩

theorem healthPhase_booking (h : Booking admits stage known s t) :
    wp (healthPhase sample) (fun _ => Booking admits stage known) (fun _ _ => Chained admits) s t := by
  unfold healthPhase
  simp only [wp_bind, wp_read, wp_ite, wp_update, wp_emit, wp_pure]
  exact ⟨fun _ => h, fun _ => Booking.frame (h.event fun _ => .judged) rfl rfl⟩

theorem readyPhase_booking (h : Booking admits stage known s t) :
    wp (readyPhase env sample) (fun _ => Booking admits stage known) (fun _ _ => Chained admits) s t := by
  unfold readyPhase sendCriticalOrFault
  simp only [wp_bind, wp_read, wp_ite, wp_pure, wp_modifyRuntime]
  refine ⟨fun _ => ?_, fun _ => h⟩
  cases env.sendActionReady with
  | error systemErrno =>
    rw [wp_fail]
    exact h.chained
  | ok _ =>
    simp only [wp_modifyRuntime, wp_emit]
    exact Booking.frame (h.event fun _ => .actionReady) rfl rfl

theorem ackPhase_booking {commandQ : Vec 7 D} (h : Booking admits stage known s t) :
    wp (ackPhase env sample commandQ) (fun _ => Booking admits stage known) (fun _ _ => Chained admits)
      s t := by
  unfold ackPhase sendCriticalOrFault
  simp only [wp_bind, wp_read, wp_ite, wp_pure]
  refine ⟨fun _ => ?_, fun _ => h⟩
  cases env.sendAck with
  | error systemErrno =>
    rw [wp_fail]
    exact h.chained
  | ok _ =>
    simp only [wp_modifyRuntime, wp_emit]
    exact Booking.frame (h.event fun _ => .acknowledged) rfl rfl

theorem cycle_booking [FloatBits D] (h : Booking admits .written (!s.firstPeriod) s t)
    (hdrop : ∀ sample, env.readOnce = .ok sample → DropAdmitted S admits sample s t) :
    wp (cycle S session env) (fun _ s => Booking admits .written (!s.firstPeriod) s)
      (fun _ _ => Chained admits) s t := by
  unfold cycle
  simp only [wp_bind, wp_check]
  refine ⟨fun _ => h.chained, fun _ => ?_⟩
  refine wp_mono (readPhase_booking h hdrop) ?_ fun _ _ _ => id
  intro sample s t h
  refine wp_mono (historyPhase_booking h) ?_ fun _ _ _ => id
  intro reference s t h
  refine wp_mono (supervisionPhase_booking h) ?_ fun _ _ _ => id
  intro _ s t h
  refine wp_mono (commandPhase_booking h) ?_ fun _ _ _ => id
  intro command s t h
  refine wp_mono (writePhase_booking h) ?_ fun _ _ _ => id
  intro _ s t h
  refine wp_mono (healthPhase_booking h) ?_ fun _ _ _ => id
  intro _ s t h
  refine wp_mono (readyPhase_booking h) ?_ fun _ _ _ => id
  intro _ s t h
  refine wp_mono (ackPhase_booking h) ?_ fun _ _ _ => id
  intro _ s t h
  unfold publishStatePhase
  simp only [wp_modifyRuntime, wp_update]
  exact h.frame rfl rfl

end Phases

/-! ## Every run -/

section Run

variable [FloatArith S] [FloatCast D S] [FloatBits D]

variable (S) in
/-- **The condition on one turn**: a drop that the state read in it shows is admitted, unless the
loop was left before. -/
def TurnAdmitted (admits : ℕ → Prop) (s : ServoLoop D) (t : List (ServoEvent D))
    (env : CycleEnv D) : Prop :=
  s.exit = none → ∀ sample, env.readOnce = .ok sample → DropAdmitted S admits sample s t

/-- **The loop refines the bookkeeping** in every run whose drops are admitted. -/
theorem servo_chained {admits : ℕ → Prop} (session : ServoSession D)
    (preflightRobotTimeMs sessionStartNs : ℕ) (envs : List (CycleEnv D))
    (hadmitted : (servoMachine S session).Admits (TurnAdmitted S admits)
      (ServoLoop.start preflightRobotTimeMs sessionStartNs) envs) :
    Chained admits ((servoMachine S session).trace
      (ServoLoop.start preflightRobotTimeMs sessionStartNs) envs) := by
  refine (servo_induction_of_admits (S := S)
    (I := fun s t => (s.exit = none → Booking admits .written (!s.firstPeriod) s t) ∧
      Chained admits t)
    (J := fun _ t => Chained admits t) ?_ ?_ ?_ envs hadmitted).2
  · exact ⟨fun _ => ⟨.start, .start, rfl, rfl, nofun, rfl⟩, ⟨.start, .start⟩⟩
  · intro s t env hI hrunning hturn
    refine wp_mono (cycle_booking (hI.1 hrunning) (hturn hrunning)) ?_ fun _ _ _ => id
    intro _ s t h
    exact ⟨fun _ => h, h.chained⟩
  · intro s t exit h
    exact ⟨nofun, h⟩

/-- **The chain of command histories.** In every run each selected reference history is the
continuation of exactly one earlier sent command, over the packets between the state that it
answered and the current one, less one, or of the bootstrap state, over all packets since; and
continuing over `a` and then over `b` packets is continuing over their sum. -/
theorem command_history_chain (session : ServoSession D)
    (preflightRobotTimeMs sessionStartNs : ℕ) (envs : List (CycleEnv D)) :
    HistoryContract ((servoMachine S session).trace
      (ServoLoop.start preflightRobotTimeMs sessionStartNs) envs) ∧
    ∀ (history : ExactDesiredHistory D) (a b : ℕ),
      extrapolateConstantAcceleration (extrapolateConstantAcceleration history a) b =
        extrapolateConstantAcceleration history (a + b) := by
  refine ⟨?_, extrapolate_add⟩
  have hchained : Chained (fun _ => True) ((servoMachine S session).trace
      (ServoLoop.start preflightRobotTimeMs sessionStartNs) envs) :=
    servo_chained session _ _ _ fun _ _ _ _ _ _ _ _ _ => trivial
  obtain ⟨w, hw⟩ := hchained
  exact hw.contract

/-! ## The horizon of a continuation -/

variable (S) in
/-- **A turn stays within the horizon**: if the state read in it shows that the last command was
dropped, then the packets since the last accepted command, together with those of the state, are at
most as many as the motion may continue uncontrolled. -/
def TurnWithinHorizon (s : ServoLoop D) (t : List (ServoEvent D)) (env : CycleEnv D) : Prop :=
  s.exit = none → ∀ sample, env.readOnce = .ok sample → s.firstPeriod = false →
    returnedStateShowsDrop S sample s.confirmedHistory s.lastSentHistory = true →
    continuationPackets t + sample.controlPeriodMs ≤
      HardSafetyLimits.maximumUncontrolledContinuationPackets

end Run

/-! ## A run with dropped commands

At Binary64: the arm drifts at the bootstrap with a velocity just under the admitted one. -/

section Drift

def transported (v : Vec 7 Binary64) : Vec 7 Binary64 := fun i =>
  FloatCast.widen (FloatCast.narrow (v i) : Binary32)

def homeSample (robotTimeMs controlPeriodMs : ℕ) (history : ExactDesiredHistory Binary64) :
    RobotSample Binary64 where
  qRad := qHome
  dqRadS := zeros
  desiredQRad := transported history.q
  desiredDqRadS := transported history.dq
  desiredDdqRadS2 := transported history.ddq
  oTEE := zeros
  robotTimeMs := robotTimeMs
  controlPeriodMs := controlPeriodMs
  mode := .move
  statusFlags := 0
  currentErrorsText := text "[]"
  lastMotionErrorsText := text "[]"
  controlCommandSuccessRate := FloatArith.one

/-- A cycle at the time `now` without a packet and without a failure, in which the limiter has
nothing to limit. -/
def quietCycle (now : ℕ) (sample : RobotSample Binary64) : CycleEnv Binary64 where
  signalStopRequested := false
  readOnce := .ok sample
  readCompleteNs := now
  drainStartNs := now
  polls := fun _ => ⟨now, .wouldBlock, now⟩
  drainEndNs := now
  nowNs := now
  limitJointPositionCommand := fun q _ => .ok q
  beforeWriteNs := now
  writeOnce := .ok ()
  afterWriteNs := now
  sendActionReady := .ok ()
  sendAck := .ok ()
  sendState := true

def homeSession : ServoSession Binary64 where
  arm := {
    profileSha256 := fun _ => 0
    envelopeSha256 := fun _ => 0
    permitSha256 := fun _ => 0
    runIdSha256 := fun _ => 0
    authorizationId := fun _ => 0
    authorizationIssuedMonotonicNs := 1
    authorizationExpiresMonotonicNs := 1000000000
    heartbeatTimeoutNs := 100000000
    firstTargetTimeoutNs := 100000000
    targetTimeoutNs := 100000000
    maximumSessionDurationNs := 1000000000
    qHomeRad := qHome
    safeJointLowerRad := fun i => FloatArith.ofRat (HardSafetyLimits.safeJointLower i)
    safeJointUpperRad := fun i => FloatArith.ofRat (HardSafetyLimits.safeJointUpper i)
    expectedFTEE := zeros
    expectedEndEffectorMassKg := FloatArith.zero
    expectedEndEffectorComM := zeros
    expectedEndEffectorInertiaKgM2 := zeros
    expectedExternalLoadMassKg := FloatArith.zero
    maximumTargetCount := 1
    controllerMode := 0 }
  sessionNonce := fun _ => 0
  sessionStartNs := 1

def driftingHistory : ExactDesiredHistory Binary64 :=
  ⟨qHome, fun _ => FloatArith.ofRat (1 / 2 ^ 20), zeros⟩

def firstCommand : ExactDesiredHistory Binary64 := limitedHistory qHome driftingHistory

def droppingRun : List (CycleEnv Binary64) :=
  [quietCycle 1000 (homeSample 10 0 driftingHistory),
    quietCycle 1001000 (homeSample 11 1 firstCommand),
    quietCycle 21001000 (homeSample 31 20 (extrapolateConstantAcceleration firstCommand 20))]

def droppingRunOn : List (CycleEnv Binary64) :=
  droppingRun ++
    [quietCycle 22001000 (homeSample 32 1 (extrapolateConstantAcceleration firstCommand 21))]

def homeTrace (envs : List (CycleEnv Binary64)) : List (ServoEvent Binary64) :=
  (servoMachine Binary32 homeSession).trace (ServoLoop.start 0 1) envs

theorem turnWithinHorizon_quietCycle {s : ServoLoop Binary64} {t : List (ServoEvent Binary64)}
    {now : ℕ} {sample : RobotSample Binary64}
    (h : continuationPackets t + sample.controlPeriodMs ≤
      HardSafetyLimits.maximumUncontrolledContinuationPackets) :
    TurnWithinHorizon Binary32 s t (quietCycle now sample) := by
  intro _ sample' hread _ _
  obtain rfl := Except.ok.inj hread
  exact h

theorem droppingRun_withinHorizon : (servoMachine Binary32 homeSession).Admits
    (TurnWithinHorizon Binary32) (ServoLoop.start 0 1) droppingRun := by
  show Machine.Admits _ _ _ ([] ++ [_] ++ [_] ++ [_])
  simp only [Machine.admits_concat]
  refine ⟨⟨⟨Machine.admits_nil _ _ _, ?_⟩, ?_⟩, ?_⟩
  · exact turnWithinHorizon_quietCycle (by decide +kernel)
  · exact turnWithinHorizon_quietCycle (by decide +kernel)
  · exact turnWithinHorizon_quietCycle (by decide +kernel)

/-- Every written command and the bootstrap state, continued over the packets since the state that
they belong to, less one. -/
def lessOneContinuations : List (ServoEvent Binary64) → List (ExactDesiredHistory Binary64)
  | [] => []
  | .written command :: after =>
    extrapolateConstantAcceleration command (elapsedPackets after - 1) ::
      lessOneContinuations after
  | .bootstrapped bootstrap :: after =>
    extrapolateConstantAcceleration bootstrap (elapsedPackets after - 1) ::
      lessOneContinuations after
  | _ :: after => lessOneContinuations after

def droppingFirst : List (CycleEnv Binary64) :=
  [quietCycle 1000 (homeSample 10 0 driftingHistory),
    quietCycle 1001000 (homeSample 11 1 (extrapolateConstantAcceleration driftingHistory 1))]

def atSelection (t : List (ServoEvent Binary64)) :
    List (ServoEvent Binary64) × List (ServoEvent Binary64) :=
  t.span fun event => historyChoices [event] = []

/-- The selection that a trace splits at is no continuation over one packet less. -/
def refutesLessOne (parts : List (ServoEvent Binary64) × List (ServoEvent Binary64)) : Bool :=
  match parts with
  | (pre, .historySelected period choice reference :: _) =>
    (lessOneContinuations (pre ++ [.historySelected period choice reference])).all
      fun history => history.q 0 ≠ reference.q 0
  | _ => false

/-- **The bootstrap state is continued over all packets**: when the first command is dropped, the
selected history is no continuation of a command or of the bootstrap state over one packet less. -/
theorem bootstrap_continued_over_all :
    ∃ pre period choice reference post,
      homeTrace droppingFirst = pre ++ .historySelected period choice reference :: post ∧
      reference ∉ lessOneContinuations (pre ++ [.historySelected period choice reference]) := by
  have hcheck : refutesLessOne (atSelection (homeTrace droppingFirst)) = true := by
    decide +kernel
  have hsplit : homeTrace droppingFirst = (atSelection (homeTrace droppingFirst)).1 ++
      (atSelection (homeTrace droppingFirst)).2 := by
    rw [atSelection, List.span_eq_takeWhile_dropWhile, List.takeWhile_append_dropWhile]
  generalize atSelection (homeTrace droppingFirst) = parts at hcheck hsplit
  obtain ⟨pre, rest⟩ := parts
  cases rest with
  | nil => cases hcheck
  | cons event post =>
    cases event with
    | historySelected period choice reference =>
      refine ⟨pre, period, choice, reference, post, hsplit, ?_⟩
      intro hmem
      exact of_decide_eq_true (List.all_eq_true.1 hcheck reference hmem) rfl
    | _ => cases hcheck

end Drift

end FrankaDeploy.Servo
