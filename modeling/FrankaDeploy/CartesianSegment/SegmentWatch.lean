import FrankaDeploy.CartesianSegment.Segment
import FrankaDeploy.Foundation.Monitor

/-! # The protocol of a segment

What a caller may rely on while a segment runs, as a monitor of its events. The hold comes first;
it ends with a read that qualifies the control success. Then the trajectory is followed over the
periods of the reads, and at last the target is held until it is reached and kept. A failure ends
everything. -/

namespace FrankaDeploy.CartesianSegment

open FrankaDeploy.Foundation
open FloatArith (ofRat isFinite zero one stdMin)
open scoped FloatArith

variable {F : Type} [FloatArith F]

/-- **A read**: the state, the period before it and the clock after it. -/
structure Reading (F : Type) where
  state : RobotState F
  dt : F
  cycleStart : ℤ

/-- **Where a segment stands.** -/
inductive SegmentPhase (F : Type) where
  /-- The active start is held: the start once it is known, the completed hold writes of positive
  periods and the time that these periods give. -/
  | holding (start : Option (Pose F)) (positiveWrites : ℕ) (controlTime : F)
  /-- The motion is under way: the time on the trajectory, the time at the endpoint and the time
  for which the bounds have been met without interruption. -/
  | moving (start : Pose F) (trajectory endpoint stable : F)
  | finished
  | failed

def SegmentPhase.Live : SegmentPhase F → Prop
  | .holding .. | .moving .. => True
  | .finished | .failed => False

/-- **What a segment is doing.** -/
inductive SegmentActivity (F : Type) where
  | idle
  | answering (reading : Reading F)
  /-- A command is being written; when it is, the phase is `next`. -/
  | writing (next : SegmentPhase F)

/-- **The monitor's state.** -/
structure Watch (F : Type) where
  phase : SegmentPhase F
  activity : SegmentActivity F
  reads : ℕ

def Watch.start : Watch F := ⟨.holding none 0 zero, .idle, 0⟩

section Protocol

variable (libm : Libm F) (target : Pose F) (config : CartesianSegmentConfig F) (wallStart : ℤ)

def Reading.wallElapsed (r : Reading F) : F := elapsedSeconds wallStart r.cycleStart

/-- **A read that passes the checks of every cycle**: the wall clock, the period and the state. -/
structure Reading.Admissible (first : Bool) (r : Reading F) : Prop where
  wall : validateWall config (r.wallElapsed wallStart) = none
  period : validatePeriod config first r.dt = none
  live : validateLiveState config r.state = none

/-- **A read after the qualification** that passes all checks: its period is positive and the
control success is above the hard floor. -/
structure Reading.Steady (r : Reading F) : Prop where
  admissible : r.Admissible config wallStart false
  positive : r.dt > zero
  floor : ¬ r.state.controlCommandSuccessRate <
    config.controlSuccessHardFloor - ofRat kAbsoluteTolerance

/-- **A read that qualifies the control success** after so many hold writes and so much time. -/
def Reading.Qualifies (positiveWrites : ℕ) (controlTime : F) (r : Reading F) : Prop :=
  IsCandidate config positiveWrites r.state.controlCommandSuccessRate r.dt
    (advance controlTime r.dt) (r.wallElapsed wallStart)

/-- **A read that meets the arrival and velocity bounds.** -/
structure Reading.Arrived (r : Reading F) : Prop where
  finite : r.state.dq.allFinite = true
  bounds : ∃ rotation, rotationError libm r.state.oTEE target = .ok rotation ∧
    EndpointGood config (translationError libm r.state.oTEE target) rotation (maxAbsDq r.state.dq)

/-- The held pose: the first `O_T_EE_c`. -/
def heldPose (start : Option (Pose F)) (r : Reading F) : Pose F := start.getD r.state.oTEEc

/-- **The protocol.** -/
inductive SegmentStep : Watch F → SegmentEvent F → Watch F → Prop where
  /-- A state is read only when the last one has been answered. -/
  | read {phase : SegmentPhase F} {reads : ℕ} (r : Reading F) :
      phase.Live → reads < kMaximumControlCycles →
      SegmentStep ⟨phase, .idle, reads⟩ (.read r.state r.dt r.cycleStart)
        ⟨phase, .answering r, reads + 1⟩
  /-- Until the control success is qualified, and only before the startup deadline, the start is
  held. -/
  | hold {start : Option (Pose F)} {positiveWrites : ℕ} {controlTime : F} {r : Reading F}
      {reads : ℕ} :
      r.Admissible config wallStart (reads = 1) →
      ¬ StartupTimedOut config (advance controlTime r.dt) (r.wallElapsed wallStart) →
      SegmentStep ⟨.holding start positiveWrites controlTime, .answering r, reads⟩
        (.write (heldPose start r) false)
        ⟨.holding start positiveWrites controlTime, .writing (.holding (some (heldPose start r))
          (positiveWrites + if r.dt > zero then 1 else 0) (advance controlTime r.dt)), reads⟩
  | qualify {start : Option (Pose F)} {positiveWrites : ℕ} {controlTime : F} {r : Reading F}
      {reads : ℕ} :
      r.Admissible config wallStart (reads = 1) →
      r.Qualifies config wallStart positiveWrites controlTime →
      SegmentStep ⟨.holding start positiveWrites controlTime, .answering r, reads⟩
        (.write (heldPose start r) false)
        ⟨.holding start positiveWrites controlTime,
          .writing (.moving (heldPose start r) zero zero zero), reads⟩
  /-- Until the duration is reached, the trajectory advances by the period of the read and the
  command is the interpolation there. -/
  | travel {start : Pose F} {trajectory endpoint stable : F} {r : Reading F} {reads : ℕ}
      {interpolation : PreparedInterpolation F} {command : Pose F} :
      r.Steady config wallStart → trajectory < config.durationS →
      PreparedInterpolation.make libm start target = .ok interpolation →
      interpolation.sample libm (stdMin one ((trajectory + r.dt) / config.durationS)) =
        .ok command →
      validPose command = true → inWorkspace command config = true →
      SegmentStep ⟨.moving start trajectory endpoint stable, .answering r, reads⟩
        (.write command false)
        ⟨.moving start trajectory endpoint stable,
          .writing (.moving start (trajectory + r.dt) endpoint stable), reads⟩
  /-- Then the target is held, before the endpoint's time is over. The stable time counts on while
  the bounds are met. -/
  | dwell {start : Pose F} {trajectory endpoint stable stable' : F} {r : Reading F} {reads : ℕ} :
      r.Steady config wallStart → ¬ trajectory < config.durationS →
      ¬ endpoint + r.dt + ofRat timeSlack ≥ config.endpointTimeoutS →
      (r.Arrived libm target config ∧ stable' = stable + r.dt ∨
        ¬ r.Arrived libm target config ∧ stable' = zero) →
      SegmentStep ⟨.moving start trajectory endpoint stable, .answering r, reads⟩
        (.write target false)
        ⟨.moving start trajectory endpoint stable,
          .writing (.moving start trajectory (endpoint + r.dt) stable'), reads⟩
  /-- A read that completes the settling time is answered by the last command. -/
  | finish {start : Pose F} {trajectory endpoint stable : F} {r : Reading F} {reads : ℕ} :
      r.Steady config wallStart → ¬ trajectory < config.durationS →
      r.Arrived libm target config →
      stable + r.dt + ofRat timeSlack ≥ config.settleTimeS →
      SegmentStep ⟨.moving start trajectory endpoint stable, .answering r, reads⟩
        (.write target true)
        ⟨.moving start trajectory endpoint stable, .writing .finished, reads⟩
  | written {phase next : SegmentPhase F} {reads : ℕ} :
      SegmentStep ⟨phase, .writing next, reads⟩ .written ⟨next, .idle, reads⟩
  | failed {phase : SegmentPhase F} {activity : SegmentActivity F} {reads : ℕ}
      (code : CartesianSegmentFailureCode) :
      phase.Live → SegmentStep ⟨phase, activity, reads⟩ (.failed code) ⟨.failed, .idle, reads⟩

abbrev Watched (t : List (SegmentEvent F)) (m : Watch F) : Prop :=
  Monitor.Accepts (SegmentStep libm target config wallStart) Watch.start t m

end Protocol

end FrankaDeploy.CartesianSegment
