import FrankaDeploy.CartesianSegment.ReadBound

/-! # The contract of a segment call

The protocol, the end of the call and the number of its reads and writes, for every environment. -/

namespace FrankaDeploy.CartesianSegment

open FrankaDeploy.Foundation
open FloatArith (ofRat zero one)
open scoped FloatArith

/-! ## Counts of a trace -/

def SegmentEvent.isRead {F : Type} : SegmentEvent F → Bool
  | .read .. => true
  | _ => false

def SegmentEvent.isWrite {F : Type} : SegmentEvent F → Bool
  | .write .. => true
  | _ => false

def SegmentActivity.unanswered {F : Type} : SegmentActivity F → ℕ
  | .answering _ => 1
  | _ => 0

variable {libm : Libm Binary64} {target : Pose Binary64}
  {config : CartesianSegmentConfig Binary64} {wallStart : ℤ}

theorem countP_isRead {t : List (SegmentEvent Binary64)} {m : Watch Binary64}
    (h : Watched libm target config wallStart t m) : t.countP SegmentEvent.isRead = m.reads := by
  induction h with
  | start => rfl
  | snoc _ hstep ih =>
    rw [List.countP_append, ih]
    cases hstep <;> rfl

theorem countP_isWrite_le {t : List (SegmentEvent Binary64)} {m : Watch Binary64}
    (h : Watched libm target config wallStart t m) :
    t.countP SegmentEvent.isWrite + m.activity.unanswered ≤ m.reads := by
  induction h with
  | start => exact Nat.le_refl _
  | snoc _ hstep ih =>
    rw [List.countP_append]
    cases hstep with
    | read => exact Nat.add_le_add_right ih 1
    | hold => exact ih
    | qualify => exact ih
    | travel => exact ih
    | dwell => exact ih
    | finish => exact ih
    | written => exact ih
    | @failed phase activity reads code hlive =>
      exact (Nat.le_add_right _ _).trans ih

/-- **The bounded Cartesian segment protocol.** For every accepted contract and every environment
the events of a call follow the protocol to its end, the call returns after the last command or
throws its own exception after a failure, every write answers a read of its own, and the reads are
fewer than the times of the contract divided by the least period, plus a constant, and no more than
the loop admits. -/
theorem segment_is_bounded {W : Type} (libm : Libm Binary64) (env : ControlEnvironment W Binary64)
    (plannedStart target : Pose Binary64) (config : CartesianSegmentConfig Binary64) (w : W)
    (haccepted : validateCartesianSegmentContract libm plannedStart target config = .ok ()) :
    let run := runBoundedCartesianSegment libm env plannedStart target config w
    (∃ m, Watched libm target config (env.now w).1 run.2.1 m ∧ Concludes run.1 m.phase) ∧
      run.2.1.countP SegmentEvent.isWrite ≤ run.2.1.countP SegmentEvent.isRead ∧
      run.2.1.countP SegmentEvent.isRead ≤ kMaximumControlCycles ∧
      (run.2.1.countP SegmentEvent.isRead : ℚ) <
        (seconds config.startupDeadlineS + seconds config.durationS +
          seconds config.endpointTimeoutS) / seconds config.minControlPeriodS + 7 := by
  obtain ⟨m, hwatched, hconcludes⟩ := run_watched env plannedStart w haccepted
  have hreads := countP_isRead hwatched
  have hwrites := countP_isWrite_le hwatched
  refine ⟨⟨m, hwatched, hconcludes⟩, ?_, ?_, ?_⟩
  · rw [hreads]
    exact (Nat.le_add_right _ _).trans hwrites
  · rw [hreads]
    exact watched_reads_le hwatched
  · rw [hreads]
    exact reads_lt_readLimit (timedContract_of_accepted haccepted) hwatched

/-! ## The command that reaches the duration -/

section Interpolated

def translated (x : ℚ) : Pose Binary64 := fun i =>
  ofRat (if i = 12 then x else if i.1 % 5 = 0 then 1 else 0)

def exactLibm : Libm Binary64 where
  sqrt x :=
    if x = ofRat 4 then ofRat 2 else if x = ofRat (1 / 16) then ofRat (1 / 4) else x
  acos _ := zero
  sin _ := zero

def secondContract : CartesianSegmentConfig Binary64 where
  workspaceMinM := fun _ => ofRat (-1)
  workspaceMaxM := fun _ => one
  jointLowerRad := fun _ => ofRat (-2)
  jointUpperRad := fun _ => ofRat 2
  jointLimitMarginRad := ofRat (1 / 10)
  durationS := one
  minCartesianDurationS := one
  maxCartesianSpeedMS := one
  maxAngularSpeedRadS := one
  maxSegmentTranslationM := one
  maxSegmentRotationRad := one
  endpointTimeoutS := ofRat 2
  settleTimeS := one
  translationArrivalToleranceM := ofRat (1 / 100)
  rotationArrivalToleranceRad := ofRat (1 / 100)
  settleMaxDqRadS := ofRat (1 / 100)
  minControlSuccessRate := ofRat (95 / 100)
  controlSuccessHardFloor := ofRat (80 / 100)
  controlSuccessEvaluationWindowS := ofRat (1 / 2)
  startupDeadlineS := ofRat (1 / 2)
  startupMinPositiveWrites := 100
  minControlPeriodS := ofRat (1 / 10000)
  maxControlPeriodS := one
  readToWriteBudgetNs := 500000
  wallDeadlineSlackS := one
  wallDeadlineFraction := one

def restingState : RobotState Binary64 where
  robotMode := .move
  currentErrors := false
  cartesianContact := fun _ => zero
  cartesianCollision := fun _ => zero
  jointContact := fun _ => zero
  jointCollision := fun _ => zero
  q := fun _ => zero
  dq := fun _ => zero
  oTEE := translated (3 / 10)
  oTEEc := translated (3 / 10)
  controlCommandSuccessRate := one

/-- A handle that returns the resting state, 101 times after a millisecond and then after a second,
and loses the connection after that. The world counts the reads. -/
def interruptedEnvironment : ControlEnvironment ℕ Binary64 where
  readOnce n :=
    (if n < 101 then .ok (restingState, ofRat (1 / 1000))
      else if n < 102 then .ok (restingState, one) else .error "connection lost", n + 1)
  writeOnce _ _ n := (.ok (), n)
  now n := (0, n)

def lastWrite {F : Type} (events : List (SegmentEvent F)) : Option (Pose F) :=
  events.reverse.findSome? fun
    | .write pose _ => some pose
    | _ => none

/-- **The command of the read that completes the trajectory is interpolated**: in a segment from
0.3 m to 0.05 m the time on the trajectory has reached the duration, and the last command is not
the target, because `0.3 + (0.05 - 0.3)` is not `0.05`. -/
theorem completed_trajectory_is_interpolated :
    let run := runBoundedCartesianSegment exactLibm interruptedEnvironment (translated (3 / 10))
      (translated (1 / 20)) secondContract 0
    (match run.1 with
      | .threw (.segment error) => decide
          (error.telemetry.trajectoryControlTimeS ≥ secondContract.durationS)
      | _ => false) = true ∧
    (match lastWrite run.2.1 with
      | some pose => decide (pose 12 = translated (1 / 20) 12)
      | none => true) = false := by
  decide +kernel

theorem interrupted_segment_is_bounded :
    ((runBoundedCartesianSegment exactLibm interruptedEnvironment (translated (3 / 10))
      (translated (1 / 20)) secondContract 0).2.1.countP SegmentEvent.isRead : ℚ) <
        (seconds secondContract.startupDeadlineS + seconds secondContract.durationS +
          seconds secondContract.endpointTimeoutS) / seconds secondContract.minControlPeriodS +
          7 :=
  (segment_is_bounded exactLibm interruptedEnvironment (translated (3 / 10))
    (translated (1 / 20)) secondContract 0 (by decide +kernel)).2.2.2

end Interpolated

end FrankaDeploy.CartesianSegment
