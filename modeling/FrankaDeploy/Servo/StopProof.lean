import FrankaDeploy.Servo.RuntimeState
import FrankaDeploy.Foundation.TrailingRun

/-! # Stopping the robot and proving it

`cleanup_robot` of `servo_core.cpp`. The environment of one call is what the robot does: whether
the calls on it throw, and the outcome of each read after the stop. -/

namespace FrankaDeploy.Servo

open FrankaDeploy.Foundation
open scoped FloatArith

variable {D : Type} [FloatArith D]

/-- **The robot after a stop**, as `cleanup_robot` meets it. -/
structure StopEnvironment (D : Type) where
  backendPresent : Bool
  activePresent : Bool
  finishWriteSucceeds : Bool
  stopSucceeds : Bool
  reads : ℕ → Option (RobotSample D)

structure StopCriteria where
  cleanExplicitStopTransition : Bool
  successfulExplicitStop : Bool

def requestedStopCommunicationStatus : StatusFlags :=
  stateHasCurrentErrors ||| stateHasLastMotionErrors |||
    stateHasOnlyCommunicationConstraintsViolation

def StopCriteria.stoppedMode (c : StopCriteria) (mode : RobotModeCode) : Bool :=
  mode = .idle || c.cleanExplicitStopTransition && (mode = .other || mode = .reflex) ||
    c.successfulExplicitStop && mode = .reflex

def StopCriteria.stoppedStatusClear (c : StopCriteria) (sample : RobotSample D) : Bool :=
  let exactCommunicationOnlyStopStatus :=
    c.successfulExplicitStop && (sample.mode = .idle || sample.mode = .reflex) &&
      sample.statusFlags = requestedStopCommunicationStatus
  sample.statusFlags = 0 || exactCommunicationOnlyStopStatus

/-- A sample in the admitted idle mode and status whose velocities are finite and within the
threshold: every part of `valid` but its freshness. -/
def StopCriteria.admits (c : StopCriteria) (sample : RobotSample D) : Bool :=
  c.stoppedMode sample.mode && c.stoppedStatusClear sample && sample.dqRadS.allFinite &&
    decide (maxAbs sample.dqRadS ≤ FloatArith.ofRat HardSafetyLimits.stopMaximumVelocityRadS)

structure StopLoop (D : Type) where
  consecutive : ℕ
  priorTime : ℕ
  accepted : Fin 3 → StopVerificationSample D
  verificationSamples : ℕ
  finalRobotMode : ℕ
  finalRobotTimeMs : ℕ
  maximumStopDqRadS : D
  finalStopStatusFlags : StatusFlags
  finalCurrentErrors : Text
  finalLastMotionErrors : Text

/-- A default-constructed `StopVerificationSample`. -/
def StopVerificationSample.default : StopVerificationSample D := ⟨0, 0, 0, zeros⟩

def StopLoop.start (preStopTime : ℕ) : StopLoop D :=
  ⟨0, preStopTime, fun _ => .default, 0, 0, 0, FloatArith.zero, 0, text "[]", text "[]"⟩

def StopVerificationSample.of (sample : RobotSample D) : StopVerificationSample D :=
  ⟨sample.robotTimeMs, sample.mode.code, sample.statusFlags, sample.dqRadS⟩

/-- **One attempt of the verification loop.** -/
def StopLoop.attempt (c : StopCriteria) (w : StopLoop D) : Option (RobotSample D) → StopLoop D
  | none => { w with consecutive := 0 }
  | some sample =>
    let fresh := decide (w.priorTime < sample.robotTimeMs)
    let w : StopLoop D := { w with
      priorTime := max w.priorTime sample.robotTimeMs
      verificationSamples := w.verificationSamples + 1
      finalRobotMode := sample.mode.code
      finalRobotTimeMs := sample.robotTimeMs
      maximumStopDqRadS :=
        if sample.dqRadS.allFinite then
          FloatArith.stdMax w.maximumStopDqRadS (maxAbs sample.dqRadS)
        else w.maximumStopDqRadS
      finalStopStatusFlags := sample.statusFlags
      finalCurrentErrors := sample.currentErrorsText
      finalLastMotionErrors := sample.lastMotionErrorsText }
    if fresh && c.admits sample then
      { w with
        accepted := fun i =>
          if i.1 = w.consecutive then StopVerificationSample.of sample else w.accepted i
        consecutive := w.consecutive + 1 }
    else { w with consecutive := 0 }

/-- The verification loop: at most `remaining` further attempts, ended by the third success in a
row. -/
def StopLoop.run (c : StopCriteria) (reads : ℕ → Option (RobotSample D)) (w : StopLoop D)
    (attempt : ℕ) : ℕ → StopLoop D
  | 0 => w
  | remaining + 1 =>
    let w := w.attempt c (reads attempt)
    if HardSafetyLimits.stopConsecutiveSamples ≤ w.consecutive then w
    else StopLoop.run c reads w (attempt + 1) remaining

structure StopPath where
  finishAttempted : Bool
  finishSucceeded : Bool
  explicitStopRequired : Bool
  robotStopAttempted : Bool
  robotStopSucceeded : Bool

/-- The first half of `cleanup_robot`: a finishing write where it is allowed, then an explicit stop
where one is required. -/
def stopPath (env : StopEnvironment D) (finishAllowed : Bool) : StopPath :=
  let finishAttempted := env.activePresent && finishAllowed
  let finishSucceeded := finishAttempted && env.finishWriteSucceeds
  let explicitStopRequired :=
    env.activePresent && !finishAllowed || finishAttempted && !env.finishWriteSucceeds
  let robotStopAttempted := explicitStopRequired && env.backendPresent
  ⟨finishAttempted, finishSucceeded, explicitStopRequired, robotStopAttempted,
    robotStopAttempted && env.stopSucceeds⟩

def stopCriteria (path : StopPath) (reason : StopReason) (fault : FaultCode) : StopCriteria where
  cleanExplicitStopTransition :=
    path.explicitStopRequired && path.robotStopSucceeded && fault = .none &&
      (reason = .requested || reason = .signal)
  successfulExplicitStop := path.explicitStopRequired && path.robotStopSucceeded

def wireFlag (b : Bool) : ℕ := if b then 1 else 0

def faultDetailBytes : ℕ := 160

/-- `copy_detail`: the text cut to the capacity less its terminating zero, padded with zeros. -/
def copyDetail (detail : Text) : Text :=
  let bytes := detail.take (faultDetailBytes - 1)
  bytes ++ List.replicate (faultDetailBytes - bytes.length) 0

/-- **`cleanup_robot`**: the payload it returns. -/
def cleanupRobot (env : StopEnvironment D) (state : RuntimeState D) (reason : StopReason)
    (fault : FaultCode) (finishAllowed : Bool) (detail : Text) : StopProofPayload D :=
  let path := stopPath env finishAllowed
  let criteria := stopCriteria path reason fault
  let start := StopLoop.start state.latestSample.robotTimeMs
  let w :=
    if env.backendPresent then
      start.run criteria env.reads 0 HardSafetyLimits.stopMaximumSamples
    else start
  let verified := decide (HardSafetyLimits.stopConsecutiveSamples ≤ w.consecutive)
  { stopReason := reason.code
    terminalFaultCode := fault.code
    finishAttempted := wireFlag path.finishAttempted
    finishSucceeded := wireFlag path.finishSucceeded
    robotStopAttempted := wireFlag path.robotStopAttempted
    robotStopSucceeded := wireFlag path.robotStopSucceeded
    idleDqVerified := wireFlag verified
    activeHandleReleased := 1
    faultReplyDelivered := 0
    robotBackendReleased := 1
    controlCycles := state.cycle
    lastTargetSequence := state.lastTargetSequence
    activeReadCount := state.activeReads
    activeWriteCount := state.activeWrites + wireFlag path.finishSucceeded
    targetAckCount := state.targetAckCount
    stopVerificationSamples := w.verificationSamples
    stopConsecutiveIdleSamples := w.consecutive
    finalRobotMode := w.finalRobotMode
    maximumControlPeriodMs := state.maximumControlPeriodMs
    maximumStopDqRadS := w.maximumStopDqRadS
    maximumReadToWriteNs := state.maximumReadToWriteNs
    preStopRobotTimeMs := state.latestSample.robotTimeMs
    finalRobotTimeMs := w.finalRobotTimeMs
    telemetryDropCount := state.telemetryDropCount
    verifiedSamples := if verified then w.accepted else fun _ => .default
    detail :=
      if verified then copyDetail detail
      else copyDetail (detail ++
        text s!"; final_stop_status_flags={w.finalStopStatusFlags.toNat}; current=" ++
        w.finalCurrentErrors ++ text "; last=" ++ w.finalLastMotionErrors) }

/-! ## What the loop has seen -/

/-- The latest robot time known before attempt `n`: the pre-stop time and that of every read. -/
def priorTimeBefore (preStopTime : ℕ) (reads : ℕ → Option (RobotSample D)) : ℕ → ℕ
  | 0 => preStopTime
  | n + 1 =>
    match reads n with
    | none => priorTimeBefore preStopTime reads n
    | some sample => max (priorTimeBefore preStopTime reads n) sample.robotTimeMs

omit [FloatArith D] in
theorem priorTimeBefore_lt_iff (preStopTime : ℕ) (reads : ℕ → Option (RobotSample D)) (n t : ℕ) :
    priorTimeBefore preStopTime reads n < t ↔
      preStopTime < t ∧ ∀ j < n, ∀ s, reads j = some s → s.robotTimeMs < t := by
  induction n with
  | zero => simp [priorTimeBefore]
  | succ n ih =>
    rw [priorTimeBefore]
    cases hread : reads n with
    | none =>
      simp only [ih]
      refine and_congr_right fun _ => ⟨fun h j hj s hs => ?_, fun h j hj => h j (by omega)⟩
      rcases Nat.lt_succ_iff_lt_or_eq.mp hj with hj | rfl
      · exact h j hj s hs
      · simp [hread] at hs
    | some sample =>
      simp only [max_lt_iff, ih, and_assoc]
      refine and_congr_right fun _ => ⟨fun h j hj s hs => ?_, fun h => ⟨fun j hj => ?_, ?_⟩⟩
      · rcases Nat.lt_succ_iff_lt_or_eq.mp hj with hj | rfl
        · exact h.1 j hj s hs
        · exact Option.some.inj (hread.symm.trans hs) ▸ h.2
      · exact h j (by omega)
      · exact h n (Nat.lt_succ_self n) sample hread

/-- Attempt `n` succeeds: it reads a sample that is fresh and admitted. -/
def attemptValid (c : StopCriteria) (preStopTime : ℕ) (reads : ℕ → Option (RobotSample D))
    (n : ℕ) : Bool :=
  match reads n with
  | none => false
  | some sample =>
    decide (priorTimeBefore preStopTime reads n < sample.robotTimeMs) && c.admits sample

/-- **What the loop variables mean after `n` attempts**: the counter is the trailing run of
successes, the accepted samples are those of that run, and the final values are those of the last
read. -/
structure StopLoop.Tracks (c : StopCriteria) (preStopTime : ℕ)
    (reads : ℕ → Option (RobotSample D)) (w : StopLoop D) (n : ℕ) : Prop where
  consecutive : w.consecutive = trailingRun (attemptValid c preStopTime reads) n
  priorTime : w.priorTime = priorTimeBefore preStopTime reads n
  samples : w.consecutive ≤ w.verificationSamples
  accepted : ∀ k : Fin 3, k.1 < w.consecutive → ∃ sample,
    reads (n - w.consecutive + k.1) = some sample ∧ w.accepted k = .of sample
  final : 0 < w.consecutive → ∃ sample, reads (n - 1) = some sample ∧
    w.finalRobotMode = sample.mode.code ∧ w.finalRobotTimeMs = sample.robotTimeMs

theorem StopLoop.tracks_start (c : StopCriteria) (preStopTime : ℕ)
    (reads : ℕ → Option (RobotSample D)) :
    (StopLoop.start preStopTime).Tracks c preStopTime reads 0 where
  consecutive := rfl
  priorTime := rfl
  samples := le_rfl
  accepted := fun _ h => absurd h (Nat.not_lt_zero _)
  final := fun h => absurd h (Nat.not_lt_zero _)

/-- **One attempt keeps the meaning of the loop variables.** -/
theorem StopLoop.Tracks.attempt {c : StopCriteria} {preStopTime : ℕ}
    {reads : ℕ → Option (RobotSample D)} {w : StopLoop D} {n : ℕ}
    (h : w.Tracks c preStopTime reads n) :
    (w.attempt c (reads n)).Tracks c preStopTime reads (n + 1) := by
  have hle : w.consecutive ≤ n := h.consecutive ▸ trailingRun_le _ n
  cases hread : reads n with
  | none =>
    have hinvalid : attemptValid c preStopTime reads n = false := by
      rw [attemptValid, hread]
    refine ⟨?_, ?_, Nat.zero_le _, fun k hk => absurd hk (Nat.not_lt_zero _),
      fun hk => absurd hk (Nat.not_lt_zero _)⟩
    · rw [trailingRun_succ_of_false hinvalid]
      rfl
    · rw [priorTimeBefore, hread]
      exact h.priorTime
  | some sample =>
    have hprior : max w.priorTime sample.robotTimeMs =
        priorTimeBefore preStopTime reads (n + 1) := by
      rw [priorTimeBefore, hread, h.priorTime]
    have hvalid : attemptValid c preStopTime reads n =
        (decide (w.priorTime < sample.robotTimeMs) && c.admits sample) := by
      rw [attemptValid, hread, h.priorTime]
    simp only [StopLoop.attempt, ← hvalid]
    cases hok : attemptValid c preStopTime reads n with
    | false =>
      refine ⟨?_, hprior, Nat.zero_le _, fun k hk => absurd hk (Nat.not_lt_zero _),
        fun hk => absurd hk (Nat.not_lt_zero _)⟩
      rw [trailingRun_succ_of_false hok]
      rfl
    | true =>
      refine ⟨?_, hprior, Nat.succ_le_succ h.samples, fun k hk => ?_, fun _ => ?_⟩
      · rw [trailingRun_succ_of_true hok, ← h.consecutive]
        rfl
      · -- the newest sample goes into the next slot, the older ones stay
        simp only [if_true] at hk ⊢
        rcases Nat.lt_succ_iff_lt_or_eq.mp hk with hlt | heq
        · obtain ⟨s, hs, haccepted⟩ := h.accepted k hlt
          refine ⟨s, ?_, ?_⟩
          · rw [← hs]
            congr 1
            omega
          · rw [if_neg (Nat.ne_of_lt hlt)]
            exact haccepted
        · refine ⟨sample, ?_, if_pos heq⟩
          rw [← hread]
          congr 1
          omega
      · exact ⟨sample, hread, rfl, rfl⟩

theorem StopLoop.run_succ (c : StopCriteria) (reads : ℕ → Option (RobotSample D))
    (w : StopLoop D) (attempt remaining : ℕ) :
    w.run c reads attempt (remaining + 1) =
      if 3 ≤ (w.attempt c (reads attempt)).consecutive then w.attempt c (reads attempt)
      else (w.attempt c (reads attempt)).run c reads (attempt + 1) remaining := rfl

/-- **The outcome of the loop**: it ends at the first attempt `m` at which three successes in a row
are complete, or makes all attempts without any. -/
theorem StopLoop.Tracks.run {c : StopCriteria} {preStopTime : ℕ}
    {reads : ℕ → Option (RobotSample D)} {w : StopLoop D} {n : ℕ}
    (h : w.Tracks c preStopTime reads n) (hfew : w.consecutive < 3) (remaining : ℕ) :
    (∃ m, n ≤ m ∧ m ≤ n + remaining ∧ (w.run c reads n remaining).Tracks c preStopTime reads m ∧
      (w.run c reads n remaining).consecutive = 3) ∨
    ((w.run c reads n remaining).consecutive < 3 ∧ ∀ m, n ≤ m → m ≤ n + remaining →
      trailingRun (attemptValid c preStopTime reads) m < 3) := by
  induction remaining generalizing w n with
  | zero =>
    refine .inr ⟨hfew, fun m hn hm => ?_⟩
    have heq : m = n := by omega
    rw [heq, ← h.consecutive]
    exact hfew
  | succ remaining ih =>
    have hnext := h.attempt
    have hcount : (w.attempt c (reads n)).consecutive ≤ 3 := by
      rw [hnext.consecutive, trailingRun, ← h.consecutive]
      split_ifs <;> omega
    rw [StopLoop.run_succ]
    by_cases hthree : 3 ≤ (w.attempt c (reads n)).consecutive
    · rw [if_pos hthree]
      exact .inl ⟨n + 1, by omega, by omega, hnext, by omega⟩
    · rw [if_neg hthree]
      obtain ⟨m, hn, hm, htracks, hdone⟩ | ⟨hfew', hnone⟩ := ih hnext (by omega)
      · exact .inl ⟨m, by omega, by omega, htracks, hdone⟩
      · refine .inr ⟨hfew', fun m hn hm => ?_⟩
        rcases Nat.lt_or_ge n m with hlt | hge
        · exact hnone m (by omega) (by omega)
        · have heq : m = n := by omega
          rw [heq, ← h.consecutive]
          exact hfew

end FrankaDeploy.Servo
