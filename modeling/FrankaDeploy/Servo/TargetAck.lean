import FrankaDeploy.Servo.ActiveLoop
import FrankaDeploy.Servo.TargetProtocol

/-! # The active loop keeps the TARGET/ACK protocol

`Tracks` relates the variables of the loop to the state of the protocol. Every phase of a cycle is a
step of the protocol or none, so every run of the loop, for every behaviour of the robot, the clock
and the socket, leaves a trace that the protocol allows. -/

namespace FrankaDeploy.Servo

open FrankaDeploy.Foundation FrankaDeploy.Foundation.Monitor
open FrankaDeploy.Foundation.Program
open scoped FloatArith

variable {D S : Type}

/-! ## The relation -/

/-- **What the protocol reads** of the variables of the loop. -/
structure TargetView where
  ready : Bool
  accepted : ℕ
  acked : ℕ
  healthy : ℕ
  pending : Bool
  pendingSequence : ℕ
  firstPeriod : Bool

def ServoLoop.targetView (s : ServoLoop D) : TargetView where
  ready := s.runtime.actionReady
  accepted := s.runtime.lastTargetSequence
  acked := s.runtime.targetAckCount
  healthy := s.runtime.consecutiveHealthyCycles
  pending := s.runtime.targetPendingAck
  pendingSequence := s.runtime.pendingTarget.targetSequence
  firstPeriod := s.firstPeriod

/-- **The variables of the loop are those of the protocol** while a cycle stands at `stage`; of all
cycles but the first, `unjudged` are not judged. -/
structure Tracks (stage : CycleStage D) (unjudged : ℕ) (v : TargetView) (w : TargetWatch D) :
    Prop where
  ready : w.ready = v.ready
  accepted : w.accepted = v.accepted
  acked : w.acked = v.acked
  healthy : w.healthy = v.healthy
  pending : w.accepted = w.acked + v.pending.toNat
  pendingSequence : v.pending = true → v.pendingSequence = w.accepted
  stage : w.stage = stage
  cycles : w.cycles + v.firstPeriod.toNat = w.judged + 1 + unjudged

/-- **Inside a cycle** the protocol allows the trace and follows the variables. -/
def During (maximum : ℕ) (stage : CycleStage D) (unjudged : ℕ) (s : ServoLoop D)
    (t : List (ServoEvent D)) : Prop :=
  ∃ w, Watched maximum t w ∧ Tracks stage unjudged s.targetView w

/-- **Between two cycles** no target is pending and all cycles but the first are judged. -/
def Between (maximum : ℕ) (s : ServoLoop D) (t : List (ServoEvent D)) : Prop :=
  ∃ stage, During maximum stage 0 s t ∧ s.runtime.targetPendingAck = false

/-- **However the loop is left**, the protocol allows the trace and the counters are its own. -/
def Allowed (maximum : ℕ) (s : ServoLoop D) (t : List (ServoEvent D)) : Prop :=
  ∃ w, Watched maximum t w ∧ w.accepted = s.runtime.lastTargetSequence ∧
    w.acked = s.runtime.targetAckCount

section Relation

variable {maximum : ℕ} {stage : CycleStage D} {unjudged : ℕ} {s s' : ServoLoop D}
  {t : List (ServoEvent D)}

theorem During.allowed (h : During maximum stage unjudged s t) : Allowed maximum s t := by
  obtain ⟨w, hw, htracks⟩ := h
  exact ⟨w, hw, htracks.accepted, htracks.acked⟩

theorem During.frame (h : During maximum stage unjudged s t) (hview : s'.targetView = s.targetView) :
    During maximum stage unjudged s' t := by
  unfold During
  rw [hview]
  exact h

theorem During.step {event : ServoEvent D} {stage' : CycleStage D} {unjudged' : ℕ}
    (h : During maximum stage unjudged s t)
    (hstep : ∀ w, Tracks stage unjudged s.targetView w → ∃ w', TargetStep maximum w event w' ∧
      Tracks stage' unjudged' s'.targetView w') :
    During maximum stage' unjudged' s' (t ++ [event]) := by
  obtain ⟨w, hw, htracks⟩ := h
  obtain ⟨w', hevent, htracks'⟩ := hstep w htracks
  exact ⟨w', .snoc hw hevent, htracks'⟩

end Relation

/-! ## Phases -/

section Phases

variable [FloatArith D] [FloatArith S] [FloatCast D S] {session : ServoSession D} {env : CycleEnv D} {sample : RobotSample D} {maximum : ℕ}
  {stage : CycleStage D} {unjudged : ℕ} {s : ServoLoop D} {t : List (ServoEvent D)}

theorem readPhase_during (h : Between maximum s t) :
    wp (readPhase env) (fun _ => During maximum .serving 1) (fun _ => Allowed maximum) s t := by
  obtain ⟨stage, h, hidle⟩ := h
  unfold readPhase
  cases env.readOnce with
  | error what =>
    rw [wp_fail]
    exact h.allowed
  | ok sample =>
    have hbegun : During maximum .serving 1
        { s with runtime := s.runtime.countRead sample s.firstPeriod }
        (t ++ [.cycleStarted sample]) := by
      refine h.step fun w htracks => ⟨_, .cycleStarted ?_, ?_⟩
      · have hpending := htracks.pending
        rw [show s.targetView.pending = false from hidle] at hpending
        exact hpending
      · have hcycles := htracks.cycles
        refine { htracks with stage := rfl, cycles := ?_ }
        show w.cycles + 1 + s.targetView.firstPeriod.toNat = w.judged + 1 + 1
        omega
    simp only [wp_bind, wp_emit, wp_read, wp_modifyRuntime, wp_faultIf, wp_update, wp_pure]
    exact ⟨fun _ => hbegun.allowed, fun _ => ⟨fun _ => hbegun.allowed, fun _ => hbegun⟩⟩

theorem historyPhase_during (h : During maximum stage unjudged s t) :
    wp (historyPhase S session sample) (fun _ => During maximum stage unjudged)
      (fun _ => Allowed maximum) s t := by
  unfold historyPhase
  simp only [wp_bind, wp_read, wp_ite]
  refine ⟨fun _ => ?_, fun _ => ?_⟩
  · unfold bootstrapPhase
    simp only [wp_bind, wp_orFault, wp_modifyRuntime, wp_orException, wp_update, wp_emit, wp_pure]
    refine ⟨fun _ _ => ⟨fun _ _ => ⟨fun _ _ => ?_, fun _ _ => ?_⟩, fun _ _ => ?_⟩, fun _ _ => ?_⟩
    · exact h.step fun w htracks => ⟨w, .bootstrapped, htracks⟩
    · exact h.allowed
    · exact h.allowed
    · exact h.allowed
  · unfold returnedPhase
    simp only [wp_bind, wp_read, wp_orFault, wp_faultIf, wp_update, wp_emit, wp_pure]
    refine ⟨fun _ _ => ⟨fun _ => ?_, fun _ => ⟨fun _ _ => ⟨fun _ _ => ?_, fun _ _ => ?_⟩,
      fun _ _ => ?_⟩⟩, fun _ _ => ?_⟩
    · exact h.allowed
    · exact h.step fun w htracks => ⟨w, .historySelected, htracks⟩
    · exact h.allowed
    · exact h.allowed
    · exact h.allowed

/-- **Serving the socket accepts the next target or none.** -/
theorem drainKeeps_during :
    DrainKeeps session (During session.arm.maximumTargetCount (.serving) unjudged) where
  packet s t h := h.frame rfl
  heartbeat s t sequence now h := h.frame rfl
  target s t now target h admitted := by
    refine h.step fun w htracks => ?_
    have hpending := htracks.pending
    rw [show s.targetView.pending = false from admitted.idle] at hpending
    have haccepted : w.accepted = s.runtime.lastTargetSequence := htracks.accepted
    have hnext : target.targetSequence = w.accepted + 1 := by rw [admitted.next, haccepted]
    refine ⟨_, .targetAccepted htracks.stage ?_ hpending ?_ hnext, ?_⟩
    · rw [htracks.ready]
      exact admitted.ready
    · rw [haccepted]
      exact admitted.below
    · refine { htracks with accepted := hnext.symm, pending := ?_, pendingSequence := ?_ }
      · show w.accepted + 1 = w.acked + 1
        rw [hpending]
        rfl
      · intro _
        exact hnext

theorem supervisionPhase_during [FloatBits D]
    (h : During session.arm.maximumTargetCount .serving unjudged s t) :
    wp (supervisionPhase session env)
      (fun _ => During session.arm.maximumTargetCount .serving unjudged)
      (fun _ => Allowed session.arm.maximumTargetCount) s t := by
  unfold supervisionPhase
  simp only [wp_bind, wp_read]
  refine wp_mono (drainKeeps_during.drainCritical env h) ?_ fun _ _ _ h => h.allowed
  intro stop s t h
  unfold watchdogPhase
  simp only [wp_check, wp_bind, wp_read, wp_faultIf]
  exact ⟨fun _ => h.allowed, fun _ => ⟨fun _ => h.allowed, fun _ => ⟨fun _ => h.allowed, fun _ =>
    ⟨fun _ => h.allowed, fun _ => ⟨fun _ => h.allowed, fun _ => ⟨fun _ => h.allowed, fun _ =>
      h⟩⟩⟩⟩⟩⟩

theorem commandPhase_during {reference : ExactDesiredHistory D}
    (h : During maximum .serving unjudged s t) :
    wp (commandPhase S session env sample reference)
      (fun command => During maximum (.computed command) unjudged)
      (fun _ => Allowed maximum) s t := by
  unfold commandPhase
  simp only [wp_bind, wp_read]
  cases s.interpolator with
  | none =>
    rw [wp_fail]
    exact h.allowed
  | some interpolator =>
    simp only [wp_bind, wp_orException, wp_orFault, wp_faultIf, wp_update, wp_emit, wp_pure]
    refine ⟨fun _ _ => ⟨fun _ _ => ⟨fun _ => h.allowed, fun _ => ⟨fun _ _ => ?_,
      fun _ _ => h.allowed⟩⟩, fun _ _ => h.allowed⟩, fun _ _ => h.allowed⟩
    exact h.step fun w htracks => ⟨_, .computed htracks.stage, { htracks with stage := rfl }⟩

theorem writePhase_during {command : ExactDesiredHistory D}
    (h : During maximum (.computed command) unjudged s t) :
    wp (writePhase S session env command)
      (fun _ => During maximum (.written command) unjudged) (fun _ => Allowed maximum) s t := by
  unfold writePhase
  simp only [wp_bind, wp_modifyRuntime, wp_faultIf]
  refine ⟨fun _ => h.allowed, fun _ => ?_⟩
  cases env.writeOnce with
  | error what =>
    rw [wp_fail]
    exact h.allowed
  | ok _ =>
    simp only [wp_bind, wp_emit, wp_update]
    have hwritten : During maximum (.written command) unjudged s (t ++ [.written command]) :=
      h.step fun w htracks => ⟨_, .written htracks.stage, { htracks with stage := rfl }⟩
    unfold synchronizeWritten
    simp only [wp_bind, wp_read]
    cases s.interpolator with
    | none =>
      rw [wp_fail]
      exact hwritten.allowed
    | some interpolator =>
      simp only [wp_bind, wp_orException, wp_update, wp_modifyRuntime, wp_faultIf]
      exact ⟨fun _ _ => ⟨fun _ => hwritten.allowed, fun _ => hwritten.frame rfl⟩,
        fun _ _ => hwritten.allowed⟩

theorem healthPhase_during {command : ExactDesiredHistory D}
    (h : During maximum (.written command) 1 s t) :
    wp (healthPhase sample)
      (fun _ s => During maximum (.written command) s.firstPeriod.toNat s)
      (fun _ => Allowed maximum) s t := by
  unfold healthPhase
  simp only [wp_bind, wp_read, wp_ite, wp_update, wp_emit, wp_pure]
  refine ⟨fun hfirst => ?_, fun hfirst => ?_⟩
  · rw [hfirst]
    exact h
  · refine h.step fun w htracks => ⟨_, .judged, ?_⟩
    have hcycles : w.cycles + s.firstPeriod.toNat = w.judged + 1 + 1 := htracks.cycles
    have hjudged : w.cycles + s.firstPeriod.toNat =
        w.judged + 1 + 1 + s.firstPeriod.toNat := by
      rw [show s.firstPeriod = false by simpa using hfirst] at hcycles ⊢
      exact hcycles
    cases cycleHealthy sample with
    | false => exact { htracks with healthy := rfl, cycles := hjudged }
    | true =>
      refine { htracks with healthy := ?_, cycles := hjudged }
      show w.healthy + 1 = s.runtime.consecutiveHealthyCycles + 1
      rw [htracks.healthy]
      rfl

/-- **ACTION_READY is announced** after the healthy cycles. -/
theorem readyPhase_during {command : ExactDesiredHistory D}
    (h : During maximum (.written command) s.firstPeriod.toNat s t) :
    wp (readyPhase env sample)
      (fun _ s => During maximum (.written command) s.firstPeriod.toNat s)
      (fun _ => Allowed maximum) s t := by
  unfold readyPhase sendCriticalOrFault
  simp only [wp_bind, wp_read, wp_ite, wp_pure, wp_modifyRuntime]
  refine ⟨fun hready => ?_, fun _ => h⟩
  cases env.sendActionReady with
  | error systemErrno =>
    rw [wp_fail]
    exact h.allowed
  | ok _ =>
    simp only [wp_modifyRuntime, wp_emit]
    refine h.step fun w htracks => ⟨_, .actionReady ?_ ?_ ?_, { htracks with ready := rfl }⟩
    · rw [htracks.ready]
      exact hready.1
    · rw [htracks.healthy]
      exact hready.2
    · have hcycles : w.cycles + s.firstPeriod.toNat = w.judged + 1 + s.firstPeriod.toNat :=
        htracks.cycles
      omega

theorem ackPhase_during {command : ExactDesiredHistory D}
    (h : During maximum (.written command) s.firstPeriod.toNat s t) :
    wp (ackPhase env sample command.q)
      (fun _ s t => During maximum (.written command) s.firstPeriod.toNat s t ∧
        s.runtime.targetPendingAck = false)
      (fun _ => Allowed maximum) s t := by
  unfold ackPhase sendCriticalOrFault
  simp only [wp_bind, wp_read, wp_ite, wp_pure]
  refine ⟨fun hpending => ?_, fun hidle => ⟨h, by simpa using hidle⟩⟩
  cases env.sendAck with
  | error systemErrno =>
    rw [wp_fail]
    exact h.allowed
  | ok _ =>
    simp only [wp_modifyRuntime, wp_emit]
    refine ⟨h.step fun w htracks => ?_, trivial⟩
    have haccepted := htracks.pending
    rw [show s.targetView.pending = true from hpending] at haccepted
    refine ⟨_, .acknowledged htracks.stage haccepted (htracks.pendingSequence hpending) rfl,
      { htracks with acked := ?_, pending := haccepted, pendingSequence := nofun }⟩
    show w.acked + 1 = s.runtime.targetAckCount + 1
    rw [htracks.acked]
    rfl

theorem publishStatePhase_during (h : During maximum stage s.firstPeriod.toNat s t)
    (hidle : s.runtime.targetPendingAck = false) :
    wp (publishStatePhase env)
      (fun _ s t => During maximum stage s.firstPeriod.toNat s t ∧
        s.runtime.targetPendingAck = false)
      (fun _ => Allowed maximum) s t := by
  unfold publishStatePhase
  simp only [wp_modifyRuntime]
  split_ifs
  · exact ⟨h.frame rfl, hidle⟩
  · exact ⟨h.frame rfl, hidle⟩
  · exact ⟨h, hidle⟩

theorem cycle_between [FloatBits D] (h : Between session.arm.maximumTargetCount s t) :
    wp (cycle S session env) (fun _ => Between session.arm.maximumTargetCount)
      (fun _ => Allowed session.arm.maximumTargetCount) s t := by
  have hallowed : Allowed session.arm.maximumTargetCount s t := by
    obtain ⟨stage, h, -⟩ := h
    exact h.allowed
  unfold cycle
  simp only [wp_bind, wp_check]
  refine ⟨fun _ => hallowed, fun _ => ?_⟩
  refine wp_mono (readPhase_during h) ?_ fun _ _ _ => id
  intro sample s t h
  refine wp_mono (historyPhase_during h) ?_ fun _ _ _ => id
  intro reference s t h
  refine wp_mono (supervisionPhase_during h) ?_ fun _ _ _ => id
  intro _ s t h
  refine wp_mono (commandPhase_during h) ?_ fun _ _ _ => id
  intro command s t h
  refine wp_mono (writePhase_during h) ?_ fun _ _ _ => id
  intro _ s t h
  refine wp_mono (healthPhase_during h) ?_ fun _ _ _ => id
  intro _ s t h
  refine wp_mono (readyPhase_during h) ?_ fun _ _ _ => id
  intro _ s t h
  refine wp_mono (ackPhase_during h) ?_ fun _ _ _ => id
  rintro _ s t ⟨h, hidle⟩
  refine wp_mono (publishStatePhase_during h hidle) ?_ fun _ _ _ => id
  rintro _ s t ⟨⟨w, hw, htracks⟩, hidle⟩
  rw [wp_update]
  refine ⟨.written command, ⟨w, hw, { htracks with cycles := ?_ }⟩, hidle⟩
  have hcycles : w.cycles + s.firstPeriod.toNat = w.judged + 1 + s.firstPeriod.toNat :=
    htracks.cycles
  show w.cycles + 0 = w.judged + 1 + 0
  omega

end Phases

/-! ## Every run -/

section Run

variable [FloatArith D] [FloatArith S] [FloatCast D S] [FloatBits D]

/-- **The loop refines the protocol**: every run leaves a trace that the protocol allows. -/
theorem servo_allowed (session : ServoSession D) (preflightRobotTimeMs sessionStartNs : ℕ)
    (envs : List (CycleEnv D)) :
    Allowed session.arm.maximumTargetCount
      ((servoMachine S session).run (ServoLoop.start preflightRobotTimeMs sessionStartNs) envs)
      ((servoMachine S session).trace (ServoLoop.start preflightRobotTimeMs sessionStartNs)
        envs) := by
  let maximum := session.arm.maximumTargetCount
  refine (servo_induction (S := S)
    (I := fun s t => (s.exit = none → Between maximum s t) ∧ Allowed maximum s t)
    (J := Allowed maximum) ?_ ?_ ?_ envs).2
  · have hstart : Between maximum (ServoLoop.start preflightRobotTimeMs sessionStartNs :
        ServoLoop D) [] :=
      ⟨.serving, ⟨.start, .start, ⟨rfl, rfl, rfl, rfl, rfl, nofun, rfl, rfl⟩⟩, rfl⟩
    exact ⟨fun _ => hstart, ⟨.start, .start, rfl, rfl⟩⟩
  · intro s t env hI hrunning
    refine wp_mono (cycle_between (hI.1 hrunning)) ?_ fun _ _ _ => id
    rintro _ s t ⟨stage, h, hidle⟩
    exact ⟨fun _ => ⟨stage, h, hidle⟩, h.allowed⟩
  · intro s t exit h
    exact ⟨nofun, h⟩

/-- **The TARGET/ACK contract of the child.** For every behaviour of the robot, the clock and the
critical socket, the trace of the loop meets the contract, and in every state the acknowledged and
the accepted targets are those of the counters, at most one apart. -/
theorem target_ack_contract (session : ServoSession D) (preflightRobotTimeMs sessionStartNs : ℕ)
    (envs : List (CycleEnv D)) :
    let t := (servoMachine S session).trace
      (ServoLoop.start preflightRobotTimeMs sessionStartNs) envs
    let r := ((servoMachine S session).run
      (ServoLoop.start preflightRobotTimeMs sessionStartNs) envs).runtime
    TargetContract session.arm.maximumTargetCount t ∧
      acceptedSequences t = List.range' 1 r.lastTargetSequence ∧
      acknowledgedSequences t = List.range' 1 r.targetAckCount ∧
      r.targetAckCount ≤ r.lastTargetSequence ∧ r.lastTargetSequence ≤ r.targetAckCount + 1 := by
  obtain ⟨w, hw, haccepted, hacked⟩ :=
    servo_allowed (S := S) session preflightRobotTimeMs sessionStartNs envs
  have hreads := hw.reads
  intro t r
  refine ⟨hw.contract, ?_, ?_, ?_, ?_⟩
  · rw [← haccepted]
    exact hreads.accepted
  · rw [← hacked]
    exact hreads.acknowledged
  · rw [← haccepted, ← hacked]
    exact hreads.counters.1
  · rw [← haccepted, ← hacked]
    exact hreads.counters.2.1

end Run

end FrankaDeploy.Servo
