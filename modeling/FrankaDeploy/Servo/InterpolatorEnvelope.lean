import FrankaDeploy.Foundation.ExactArith
import FrankaDeploy.Foundation.Machine
import FrankaDeploy.Foundation.Saturation
import FrankaDeploy.Servo.Interpolator

/-! # The envelope of the interpolator

The command interpolator with its doubles read as exact numbers. Velocity, acceleration and
position are limited by the last clamp that each of them passes. The jerk limit is not: the
acceleration passes the velocity barrier after it, and the velocity passes a clip after the
acceleration is fixed. -/

namespace FrankaDeploy.Servo

open FrankaDeploy.Foundation HardSafetyLimits
open scoped FloatArith

namespace FrankaV225Interpolator

/-! ## One joint in closed form -/

theorem stdClamp_eq_saturate {x lower upper : ℚ} (h : lower ≤ upper) :
    FloatArith.stdClamp x lower upper = saturate lower upper x :=
  stdClamp_rat h

theorem velocity_pos : 0 < maximumCommandVelocityRadS := by
  norm_num [maximumCommandVelocityRadS]

theorem acceleration_pos : 0 < maximumCommandAccelerationRadS2 := by
  norm_num [maximumCommandAccelerationRadS2]

theorem jerk_pos : 0 < maximumCommandJerkRadS3 := by
  norm_num [maximumCommandJerkRadS3]

theorem jerkLimitedAcceleration_rat {desired ddq dt : ℚ} (hdt : 0 ≤ dt) :
    jerkLimitedAcceleration desired ddq dt =
      saturate (-maximumCommandAccelerationRadS2) maximumCommandAccelerationRadS2
        (saturate (ddq - maximumCommandJerkRadS3 * dt) (ddq + maximumCommandJerkRadS3 * dt)
          desired) := by
  have hjerk : 0 ≤ maximumCommandJerkRadS3 * dt := mul_nonneg jerk_pos.le hdt
  have hacc := acceleration_pos
  unfold jerkLimitedAcceleration
  show FloatArith.stdClamp (ddq + FloatArith.stdClamp (desired - ddq)
    (-maximumCommandJerkRadS3 * dt) (maximumCommandJerkRadS3 * dt))
    (-maximumCommandAccelerationRadS2) maximumCommandAccelerationRadS2 = _
  rw [neg_mul, stdClamp_eq_saturate (by linarith), stdClamp_eq_saturate (by linarith),
    add_saturate_sub]

theorem safeMaximumAcceleration_rat (dq : ℚ) :
    safeMaximumAcceleration dq =
      min (accelerationToVelocityGain * (maximumCommandVelocityRadS - dq))
        maximumCommandAccelerationRadS2 :=
  stdMin_rat _ _

theorem safeMinimumAcceleration_rat (dq : ℚ) :
    safeMinimumAcceleration dq =
      max (accelerationToVelocityGain * (-maximumCommandVelocityRadS - dq))
        (-maximumCommandAccelerationRadS2) :=
  stdMax_rat _ _

theorem accelerationToVelocityGain_rat : (accelerationToVelocityGain : ℚ) = 50 := by
  show (250 : ℚ) / 5 = 50
  norm_num

theorem neg_safeMinimumAcceleration (dq : ℚ) :
    -safeMinimumAcceleration dq = safeMaximumAcceleration (-dq) := by
  rw [safeMinimumAcceleration_rat, safeMaximumAcceleration_rat, ← min_neg_neg, neg_neg]
  congr 1
  ring

theorem safeMaximumAcceleration_nonneg {dq : ℚ} (hdq : dq ≤ maximumCommandVelocityRadS) :
    0 ≤ safeMaximumAcceleration dq := by
  rw [safeMaximumAcceleration_rat, accelerationToVelocityGain_rat]
  exact le_min (mul_nonneg (by norm_num) (sub_nonneg.mpr hdq)) acceleration_pos.le

theorem safeMinimumAcceleration_nonpos {dq : ℚ} (hdq : -maximumCommandVelocityRadS ≤ dq) :
    safeMinimumAcceleration dq ≤ 0 := by
  rw [safeMinimumAcceleration_rat, accelerationToVelocityGain_rat]
  refine max_le (mul_nonpos_of_nonneg_of_nonpos (by norm_num) (sub_nonpos.mpr hdq)) ?_
  exact neg_nonpos.mpr acceleration_pos.le

/-- **The acceleration of a step**: the jerk-limited one within the velocity barrier. -/
theorem stepJoint_ddq {joint : JointCommand ℚ} (held lower upper dt : ℚ)
    (hdq : |joint.dq| ≤ maximumCommandVelocityRadS) :
    (stepJoint joint held lower upper dt).ddq =
      saturate (safeMinimumAcceleration joint.dq) (safeMaximumAcceleration joint.dq)
        (jerkLimitedAcceleration (desiredAcceleration
          (stepJoint joint held lower upper dt).filteredTarget joint.q joint.dq) joint.ddq dt) := by
  obtain ⟨hlower, hupper⟩ := abs_le.mp hdq
  exact stdClamp_eq_saturate ((safeMinimumAcceleration_nonpos hlower).trans
    (safeMaximumAcceleration_nonneg hupper))

/-- **The velocity of a step**: the integrated acceleration, clipped. -/
theorem stepJoint_dq (joint : JointCommand ℚ) (held lower upper dt : ℚ) :
    (stepJoint joint held lower upper dt).dq =
      saturate (-maximumCommandVelocityRadS) maximumCommandVelocityRadS
        (joint.dq + (stepJoint joint held lower upper dt).ddq * dt) :=
  stdClamp_eq_saturate (neg_le_self velocity_pos.le)

/-- **The position of a step**: the integrated velocity, clipped. -/
theorem stepJoint_q (joint : JointCommand ℚ) (held dt : ℚ) {lower upper : ℚ}
    (hbounds : lower ≤ upper) :
    (stepJoint joint held lower upper dt).q =
      saturate lower upper (joint.q + (stepJoint joint held lower upper dt).dq * dt) :=
  stdClamp_eq_saturate hbounds

/-! ## The limits of one joint -/

/-- **A joint within its limits**: what every step keeps, whatever its period. -/
structure JointCommand.Limited (joint : JointCommand ℚ) : Prop where
  velocity : |joint.dq| ≤ maximumCommandVelocityRadS
  acceleration : |joint.ddq| ≤ maximumCommandAccelerationRadS2

/-- **A step keeps the velocity and the acceleration limit.** -/
theorem stepJoint_limited {joint : JointCommand ℚ} (h : joint.Limited) (held lower upper dt : ℚ) :
    (stepJoint joint held lower upper dt).Limited := by
  constructor
  · rw [stepJoint_dq]
    exact abs_saturate_le velocity_pos.le _
  · obtain ⟨hlower, hupper⟩ := abs_le.mp h.velocity
    rw [stepJoint_ddq _ _ _ _ h.velocity, abs_le]
    constructor
    · refine le_trans ?_ (le_saturate _ _ _)
      rw [safeMinimumAcceleration_rat]
      exact le_max_right _ _
    · refine (saturate_le ((safeMinimumAcceleration_nonpos hlower).trans
        (safeMaximumAcceleration_nonneg hupper)) _).trans ?_
      rw [safeMaximumAcceleration_rat]
      exact min_le_right _ _

/-- **The barrier is within reach of the jerk limit**: the acceleration can get inside the velocity
barrier in one step. -/
def BarrierWithinReach (dq ddq dt : ℚ) : Prop :=
  ddq - maximumCommandJerkRadS3 * dt ≤ safeMaximumAcceleration dq ∧
    safeMinimumAcceleration dq ≤ ddq + maximumCommandJerkRadS3 * dt

theorem jerkLimitedAcceleration_mem (desired : ℚ) {ddq dt : ℚ} (hdt : 0 ≤ dt)
    (hddq : |ddq| ≤ maximumCommandAccelerationRadS2) :
    ddq - maximumCommandJerkRadS3 * dt ≤ jerkLimitedAcceleration desired ddq dt ∧
      jerkLimitedAcceleration desired ddq dt ≤ ddq + maximumCommandJerkRadS3 * dt := by
  have hjerk : 0 ≤ maximumCommandJerkRadS3 * dt := mul_nonneg jerk_pos.le hdt
  have hacc := acceleration_pos
  obtain ⟨hlower, hupper⟩ := abs_le.mp hddq
  rw [jerkLimitedAcceleration_rat hdt]
  refine (saturate_mem_iff (le_saturate _ _ _) (saturate_le (by linarith) _)
    (by linarith)).mpr ⟨by linarith, by linarith⟩

/-- **When a step keeps the jerk limit**: exactly when the barrier is within reach. -/
theorem stepJoint_jerk_iff {joint : JointCommand ℚ} (h : joint.Limited) (held lower upper : ℚ)
    {dt : ℚ} (hdt : 0 ≤ dt) :
    |(stepJoint joint held lower upper dt).ddq - joint.ddq| ≤ maximumCommandJerkRadS3 * dt ↔
      BarrierWithinReach joint.dq joint.ddq dt := by
  obtain ⟨hlower, hupper⟩ := abs_le.mp h.velocity
  obtain ⟨hmin, hmax⟩ := jerkLimitedAcceleration_mem (desiredAcceleration
    (stepJoint joint held lower upper dt).filteredTarget joint.q joint.dq) hdt h.acceleration
  have hmem := saturate_mem_iff hmin hmax ((safeMinimumAcceleration_nonpos hlower).trans
    (safeMaximumAcceleration_nonneg hupper))
  rw [← stepJoint_ddq _ _ _ _ h.velocity] at hmem
  unfold BarrierWithinReach
  rw [← hmem, abs_le]
  constructor
  · rintro ⟨habove, hbelow⟩
    exact ⟨by linarith, by linarith⟩
  · rintro ⟨habove, hbelow⟩
    exact ⟨by linarith, by linarith⟩

/-- **The velocity limit has room for the pull**: the period is within the reach of the barrier, the
velocity is at the limit, or the acceleration that is asked for stays below it. -/
def RoomForPull (dq asked dt : ℚ) : Prop :=
  (accelerationToVelocityGain * dt ≤ 1 ∨ dq = maximumCommandVelocityRadS ∨
      dq + asked * dt ≤ maximumCommandVelocityRadS) ∧
    (accelerationToVelocityGain * dt ≤ 1 ∨ dq = -maximumCommandVelocityRadS ∨
      -maximumCommandVelocityRadS ≤ dq + asked * dt)

def askedAcceleration (joint : JointCommand ℚ) (held dt : ℚ) : ℚ :=
  saturate (-maximumCommandAccelerationRadS2) maximumCommandAccelerationRadS2
    (saturate (joint.ddq - maximumCommandJerkRadS3 * dt) (joint.ddq + maximumCommandJerkRadS3 * dt)
      (desiredAcceleration
        (lowpassGain dt * held + (1 - lowpassGain dt) * joint.filteredTarget) joint.q joint.dq))

theorem stepJoint_ddq_asked {joint : JointCommand ℚ} (h : joint.Limited) (held lower upper : ℚ)
    {dt : ℚ} (hdt : 0 ≤ dt) :
    (stepJoint joint held lower upper dt).ddq =
      saturate (safeMinimumAcceleration joint.dq) (safeMaximumAcceleration joint.dq)
        (askedAcceleration joint held dt) := by
  rw [stepJoint_ddq _ _ _ _ h.velocity, jerkLimitedAcceleration_rat hdt]
  rfl

/-- **When the velocity clip does not fire**: exactly when there is room for the pull. -/
theorem stepJoint_consistent_iff {joint : JointCommand ℚ} (h : joint.Limited)
    (held lower upper : ℚ) {dt : ℚ} (hdt : 0 < dt) :
    (stepJoint joint held lower upper dt).dq =
        joint.dq + (stepJoint joint held lower upper dt).ddq * dt ↔
      RoomForPull joint.dq (askedAcceleration joint held dt) dt := by
  obtain ⟨hlower, hupper⟩ := abs_le.mp h.velocity
  have hgain : (0 : ℚ) ≤ accelerationToVelocityGain := by
    rw [accelerationToVelocityGain_rat]
    norm_num
  have hmin := safeMinimumAcceleration_nonpos hlower
  have hmax := safeMaximumAcceleration_nonneg hupper
  have hasked : |askedAcceleration joint held dt| ≤ maximumCommandAccelerationRadS2 :=
    abs_saturate_le acceleration_pos.le _
  obtain ⟨haskedLower, haskedUpper⟩ := abs_le.mp hasked
  rw [stepJoint_dq, saturate_eq_self_iff (neg_le_self velocity_pos.le),
    stepJoint_ddq_asked h _ _ _ hdt.le, and_comm]
  unfold RoomForPull
  refine and_congr ?_ ?_
  · rw [safeMaximumAcceleration_rat]
    exact add_saturate_mul_le_iff hdt hupper hmin acceleration_pos.le hgain haskedUpper
  · -- The lower side is the upper side of the mirrored joint.
    have hmirror : -joint.dq + saturate (-safeMaximumAcceleration joint.dq)
        (safeMaximumAcceleration (-joint.dq)) (-askedAcceleration joint held dt) * dt ≤
          maximumCommandVelocityRadS ↔
        accelerationToVelocityGain * dt ≤ 1 ∨ -joint.dq = maximumCommandVelocityRadS ∨
          -joint.dq + -askedAcceleration joint held dt * dt ≤ maximumCommandVelocityRadS := by
      rw [safeMaximumAcceleration_rat (-joint.dq)]
      exact add_saturate_mul_le_iff hdt (by linarith) (by linarith) acceleration_pos.le hgain
        (by linarith)
    rw [← neg_safeMinimumAcceleration, ← neg_saturate (hmin.trans hmax), neg_mul, neg_mul,
      ← neg_add, ← neg_add, neg_le, neg_eq_iff_eq_neg,
      neg_le (a := joint.dq + askedAcceleration joint held dt * dt)] at hmirror
    exact hmirror

/-! ## Runs -/

/-- **A call on the interpolator.** -/
inductive InterpolatorCall (D : Type) where
  | step (heldTarget : Vec 7 D) (dtS : D)
  | holdFilteredTargetAt (desiredQ : Vec 7 D)

/-- **A step that was taken.** -/
structure InterpolatorStep (D : Type) where
  before : InterpolatedCommand D
  heldTarget : Vec 7 D
  dtS : D
  after : InterpolatedCommand D

/-- **The interpolator under calls.** An `std::invalid_argument` leaves its state alone. -/
def machine (D S : Type) [FloatArith D] [FloatArith S] [FloatCast D S] :
    Machine (InterpolatedCommand D) (InterpolatorCall D) (InterpolatorStep D) where
  step
    | state, .step heldTarget dtS =>
      match step S state heldTarget dtS with
      | .ok after => (after, [⟨state, heldTarget, dtS, after⟩])
      | .error _ => (state, [])
    | state, .holdFilteredTargetAt desiredQ =>
      match holdFilteredTargetAt S state desiredQ with
      | .ok after => (after, [])
      | .error _ => (state, [])

def jointOf {D : Type} (state : InterpolatedCommand D) (i : Fin 7) :
    JointCommand D :=
  ⟨state.q i, state.dq i, state.ddq i, state.filteredTarget i⟩

def sendableLower : Vec 7 ℚ := SendableJointLimits.lower ℚ Binary32

def sendableUpper : Vec 7 ℚ := SendableJointLimits.upper ℚ Binary32

theorem sendableLower_le (i : Fin 7) : sendableLower i ≤ sendableUpper i := by
  have hall : ∀ i : Fin 7, sendableLower i ≤ sendableUpper i := by decide +kernel
  exact hall i

/-- **The bounds of every `std::clamp`** of one joint's step, in the order of the calls. -/
def clampBounds (joint : JointCommand ℚ) (lower upper dt : ℚ) : List (ℚ × ℚ) :=
  [(lower, upper),
    (-maximumCommandJerkRadS3 * dt, maximumCommandJerkRadS3 * dt),
    (-maximumCommandAccelerationRadS2, maximumCommandAccelerationRadS2),
    (safeMinimumAcceleration joint.dq, safeMaximumAcceleration joint.dq),
    (-maximumCommandVelocityRadS, maximumCommandVelocityRadS),
    (lower, upper)]

theorem clampBounds_ordered {joint : JointCommand ℚ} (h : joint.Limited) {lower upper dt : ℚ}
    (hbounds : lower ≤ upper) (hdt : 0 ≤ dt) :
    ∀ bounds ∈ clampBounds joint lower upper dt, bounds.1 ≤ bounds.2 := by
  obtain ⟨hlower, hupper⟩ := abs_le.mp h.velocity
  have hjerk : 0 ≤ maximumCommandJerkRadS3 * dt := mul_nonneg jerk_pos.le hdt
  have hbarrier : safeMinimumAcceleration joint.dq ≤ safeMaximumAcceleration joint.dq :=
    (safeMinimumAcceleration_nonpos hlower).trans (safeMaximumAcceleration_nonneg hupper)
  unfold clampBounds
  simp only [List.forall_mem_cons, List.not_mem_nil, false_implies, implies_true, and_true]
  refine ⟨hbounds, ?_, neg_le_self acceleration_pos.le, hbarrier, neg_le_self velocity_pos.le,
    hbounds⟩
  rw [neg_mul]
  exact neg_le_self hjerk

/-- **A safe step**: every limit holds of its output, every clamp had ordered bounds, and the
velocity is the integrated acceleration. -/
structure InterpolatorStep.Safe (e : InterpolatorStep ℚ) : Prop where
  velocity : ∀ i, |e.after.dq i| ≤ maximumCommandVelocityRadS
  acceleration : ∀ i, |e.after.ddq i| ≤ maximumCommandAccelerationRadS2
  jerk : ∀ i, |e.after.ddq i - e.before.ddq i| ≤ maximumCommandJerkRadS3 * e.dtS
  position : ∀ i, sendableLower i ≤ e.after.q i ∧ e.after.q i ≤ sendableUpper i
  clamps : ∀ i, ∀ bounds ∈
    clampBounds (jointOf e.before i) (sendableLower i) (sendableUpper i) e.dtS, bounds.1 ≤ bounds.2
  consistent : ∀ i, e.after.dq i = e.before.dq i + e.after.ddq i * e.dtS

/-- **A smooth step**: for every joint the barrier is within reach of the jerk limit and the
velocity limit has room for the pull of the held target. Both speak about the state before it. -/
def InterpolatorStep.Smooth (e : InterpolatorStep ℚ) : Prop :=
  ∀ i, BarrierWithinReach (e.before.dq i) (e.before.ddq i) e.dtS ∧
    RoomForPull (e.before.dq i) (askedAcceleration (jointOf e.before i)
      (saturate (sendableLower i) (sendableUpper i) (e.heldTarget i)) e.dtS) e.dtS

def Limited (state : InterpolatedCommand ℚ) : Prop :=
  ∀ i, (jointOf state i).Limited

theorem clamp_rat (value : Vec 7 ℚ) :
    SendableJointLimits.clamp Binary32 value =
      .ok fun i => saturate (sendableLower i) (sendableUpper i) (value i) := by
  refine clamp_eq_ok_iff.mpr ⟨value.allFinite_rat, ?_⟩
  funext i
  exact (stdClamp_eq_saturate (sendableLower_le i)).symm

theorem holdFilteredTargetAt_rat (state : InterpolatedCommand ℚ) (desiredQ : Vec 7 ℚ) :
    holdFilteredTargetAt Binary32 state desiredQ = .ok { state with
      filteredTarget := fun i => saturate (sendableLower i) (sendableUpper i) (desiredQ i) } := by
  unfold holdFilteredTargetAt
  rw [clamp_rat]
  rfl

/-- **What a step does**: with a positive period it moves every joint towards the clamped target. -/
theorem step_eq_ok {state after : InterpolatedCommand ℚ} {heldTarget : Vec 7 ℚ} {dt : ℚ}
    (h : step Binary32 state heldTarget dt = .ok after) :
    0 < dt ∧ ∀ i, jointOf after i =
      stepJoint (jointOf state i) (saturate (sendableLower i) (sendableUpper i) (heldTarget i))
        (sendableLower i) (sendableUpper i) dt := by
  unfold step at h
  by_cases hdt : 0 < dt
  · rw [if_neg (by
      show ¬(!decide (decide (0 < dt) = true) || !FloatArith.isFinite dt) = true
      rw [FloatArith.isFinite_rat, decide_eq_true hdt]
      decide), clamp_rat] at h
    cases h
    exact ⟨hdt, fun _ => rfl⟩
  · rw [if_pos (by
      show (!decide (decide (0 < dt) = true) || !FloatArith.isFinite dt) = true
      rw [decide_eq_false hdt]
      rfl)] at h
    cases h

/-- **A step keeps the limits and is safe exactly when it is smooth.** -/
theorem step_safe_iff {state after : InterpolatedCommand ℚ} (hstate : Limited state)
    {heldTarget : Vec 7 ℚ} {dt : ℚ} (h : step Binary32 state heldTarget dt = .ok after) :
    Limited after ∧ (InterpolatorStep.Safe ⟨state, heldTarget, dt, after⟩ ↔
      InterpolatorStep.Smooth ⟨state, heldTarget, dt, after⟩) := by
  obtain ⟨hdt, hjoint⟩ := step_eq_ok h
  have hafter : Limited after := by
    intro i
    rw [hjoint i]
    exact stepJoint_limited (hstate i) _ _ _ _
  have hjerk : ∀ i, |after.ddq i - state.ddq i| ≤ maximumCommandJerkRadS3 * dt ↔
      BarrierWithinReach (state.dq i) (state.ddq i) dt := by
    intro i
    rw [show after.ddq i = (jointOf after i).ddq from rfl, hjoint i]
    exact stepJoint_jerk_iff (hstate i) _ _ _ hdt.le
  have hconsistent : ∀ i, after.dq i = state.dq i + after.ddq i * dt ↔
      RoomForPull (state.dq i) (askedAcceleration (jointOf state i)
        (saturate (sendableLower i) (sendableUpper i) (heldTarget i)) dt) dt := by
    intro i
    rw [show after.dq i = (jointOf after i).dq from rfl,
      show after.ddq i = (jointOf after i).ddq from rfl, hjoint i]
    exact stepJoint_consistent_iff (hstate i) _ _ _ hdt
  refine ⟨hafter, ?_, ?_⟩
  · intro hsafe i
    exact ⟨(hjerk i).mp (hsafe.jerk i), (hconsistent i).mp (hsafe.consistent i)⟩
  · intro hsmooth
    refine ⟨fun i => (hafter i).velocity, fun i => (hafter i).acceleration,
      fun i => (hjerk i).mpr (hsmooth i).1, ?_, ?_, fun i => (hconsistent i).mpr (hsmooth i).2⟩
    · intro i
      show sendableLower i ≤ (jointOf after i).q ∧ (jointOf after i).q ≤ sendableUpper i
      rw [hjoint i, stepJoint_q _ _ _ (sendableLower_le i)]
      exact ⟨le_saturate _ _ _, saturate_le (sendableLower_le i) _⟩
    · intro i
      exact clampBounds_ordered (hstate i) (sendableLower_le i) hdt.le

theorem init_limited {startQ : Vec 7 ℚ} {start : InterpolatedCommand ℚ}
    (h : init Binary32 startQ (fun _ => 0) (fun _ => 0) = .ok start) : Limited start := by
  unfold init at h
  rw [clamp_rat] at h
  cases h
  intro i
  refine ⟨?_, ?_⟩
  · show |(0 : ℚ)| ≤ maximumCommandVelocityRadS
    rw [abs_zero]
    exact velocity_pos.le
  · show |(0 : ℚ)| ≤ maximumCommandAccelerationRadS2
    rw [abs_zero]
    exact acceleration_pos.le

/-- **What one call does**: the limits are kept, and a step it takes is safe exactly when it is
smooth. -/
theorem machine_step (state : InterpolatedCommand ℚ) (hstate : Limited state)
    (call : InterpolatorCall ℚ) :
    Limited ((machine ℚ Binary32).step state call).1 ∧
      ∀ e ∈ ((machine ℚ Binary32).step state call).2, e.Safe ↔ e.Smooth := by
  cases call with
  | step heldTarget dt =>
    unfold machine
    dsimp only
    cases hstep : step Binary32 state heldTarget dt with
    | error _ => exact ⟨hstate, fun e he => absurd he List.not_mem_nil⟩
    | ok after =>
      obtain ⟨hafter, hiff⟩ := step_safe_iff hstate hstep
      refine ⟨hafter, ?_⟩
      intro e he
      obtain rfl := List.mem_singleton.mp he
      exact hiff
  | holdFilteredTargetAt desiredQ =>
    unfold machine
    dsimp only
    rw [holdFilteredTargetAt_rat]
    exact ⟨fun i => ⟨(hstate i).velocity, (hstate i).acceleration⟩,
      fun e he => absurd he List.not_mem_nil⟩

def longPeriods : List (InterpolatorCall ℚ) :=
  List.replicate 5 (.step (fun i => qHome i + 6 / 100) (21 / 1000))

theorem longPeriods_outcome :
    ((init Binary32 qHome (fun _ => 0) (fun _ => 0)).toOption.bind fun start =>
      ((machine ℚ Binary32).trace start longPeriods).getLast?.map fun e =>
        (e.after.dq 0, e.before.dq 0 + e.after.ddq 0 * e.dtS)) =
      some (1 / 2, 63 / 125) := by
  decide +kernel

end FrankaV225Interpolator

end FrankaDeploy.Servo
