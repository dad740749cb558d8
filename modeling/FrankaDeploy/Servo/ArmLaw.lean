import FrankaDeploy.Foundation.IeeeMaximum
import FrankaDeploy.Foundation.Python
import FrankaDeploy.Servo.ArmContract

/-! # NaN and the ARM contract

The comparisons of the ARM contract and of the preflight are running maxima of absolute
differences, which pass over NaN. A scalar of the payload and every array of the sample is checked
for finiteness before it is compared; the arrays of the payload are not. -/

namespace FrankaDeploy.Servo

open FrankaDeploy.Foundation HardSafetyLimits
open scoped FloatArith

/-! ## What a comparison says -/

/-- **A value near the expected one**: finite, with a difference within the tolerance. -/
structure Near (value expected : Binary64) (tolerance : ℚ) : Prop where
  finite : FloatArith.isFinite value = true
  within : Ieee.le (Ieee.abs (Ieee.sub value expected)) (FloatArith.ofRat tolerance) = true

structure Tolerance (tolerance : ℚ) : Prop where
  finite : FloatArith.isFinite (FloatArith.ofRat tolerance : Binary64) = true
  nonneg : Ieee.le (FloatArith.zero : Binary64) (FloatArith.ofRat tolerance) = true

theorem maxAbsDifference_eq {n : ℕ} (left right : Vec n Binary64) :
    maxAbsDifference left right =
      ((List.finRange n).map fun i => Ieee.abs (Ieee.sub (left i) (right i))).foldl
        FloatArith.stdMax FloatArith.zero := by
  rw [List.foldl_map]
  rfl

/-- **What a passed comparison of arrays says**: every difference that is a number is within the
tolerance. -/
theorem not_lt_maxAbsDifference_iff {n : ℕ} {left right : Vec n Binary64} {tolerance : ℚ}
    (ht : Tolerance tolerance) :
    ¬FloatArith.ofRat tolerance < maxAbsDifference left right ↔
      ∀ i, (Ieee.sub (left i) (right i)).isNaN = false →
        Ieee.le (Ieee.abs (Ieee.sub (left i) (right i))) (FloatArith.ofRat tolerance) = true := by
  have hzero : (FloatArith.zero : Binary64).isNaN = false := (Ieee.le_iff.mp ht.nonneg).1
  have hnumber : (maxAbsDifference left right).isNaN = false := by
    rw [maxAbsDifference_eq]
    exact Ieee.isNaN_foldl_stdMax_numbers _ hzero
  refine (Ieee.not_lt_iff_le hnumber (Ieee.isNaN_of_isFinite ht.finite)).trans ?_
  rw [maxAbsDifference_eq, Ieee.foldl_stdMax_le_iff_numbers _ hzero]
  constructor
  · rintro ⟨-, h⟩ i hi
    exact h _ (List.mem_map_of_mem (List.mem_finRange i)) hi
  · intro h
    refine ⟨ht.nonneg, ?_⟩
    intro x hx hxn
    obtain ⟨i, -, rfl⟩ := List.mem_map.mp hx
    exact h i hxn

theorem le_of_not_lt_maxAbs {n : ℕ} {v : Vec n Binary64} {limit : ℚ} (ht : Tolerance limit)
    (hv : ∀ i, FloatArith.isFinite (v i) = true) (h : ¬FloatArith.ofRat limit < maxAbs v)
    (i : Fin n) : Ieee.le (Ieee.abs (v i)) (FloatArith.ofRat limit) = true := by
  have hfold : maxAbs v = ((List.finRange n).map fun i => Ieee.abs (v i)).foldl
      FloatArith.stdMax FloatArith.zero := by
    rw [List.foldl_map]
    rfl
  have hzero : (FloatArith.zero : Binary64).isNaN = false := (Ieee.le_iff.mp ht.nonneg).1
  have hnumber : (maxAbs v).isNaN = false := by
    rw [hfold]
    exact Ieee.isNaN_foldl_stdMax_numbers _ hzero
  have hle := (Ieee.not_lt_iff_le hnumber (Ieee.isNaN_of_isFinite ht.finite)).mp h
  rw [hfold, Ieee.foldl_stdMax_le_iff_numbers _ hzero] at hle
  refine hle.2 _ (List.mem_map_of_mem (List.mem_finRange i)) ?_
  rw [Ieee.isNaN_abs]
  exact Ieee.isNaN_of_isFinite (hv i)

/-- **A compared array against finite values**: it is near them exactly when none of its components
is a NaN. An infinite component does not pass. -/
theorem near_iff_of_expected_finite {n : ℕ} {value expected : Vec n Binary64} {tolerance : ℚ}
    (ht : Tolerance tolerance) (hexpected : ∀ i, FloatArith.isFinite (expected i) = true)
    (h : ¬FloatArith.ofRat tolerance < maxAbsDifference value expected) :
    (∀ i, Near (value i) (expected i) tolerance) ↔ ∀ i, (value i).isNaN = false := by
  refine forall_congr' fun i => ?_
  constructor
  · intro hnear
    exact Ieee.isNaN_of_isFinite hnear.finite
  · intro hnumber
    have hwithin := (not_lt_maxAbsDifference_iff ht).mp h i
      (Ieee.isNaN_sub_of_isFinite_right hnumber (hexpected i))
    exact ⟨Ieee.isFinite_of_le_abs_sub (hexpected i) ht.finite hwithin, hwithin⟩

/-- **A finite array against compared values**: it is near them exactly when none of them is a
NaN. -/
theorem near_iff_of_value_finite {n : ℕ} {value expected : Vec n Binary64} {tolerance : ℚ}
    (ht : Tolerance tolerance) (hvalue : ∀ i, FloatArith.isFinite (value i) = true)
    (h : ¬FloatArith.ofRat tolerance < maxAbsDifference value expected) :
    (∀ i, Near (value i) (expected i) tolerance) ↔ ∀ i, (expected i).isNaN = false := by
  refine forall_congr' fun i => ?_
  constructor
  · intro hnear
    cases hexpected : (expected i).isNaN with
    | false => rfl
    | true =>
      have hnumber := (Ieee.le_iff.mp hnear.within).1
      rw [Ieee.isNaN_abs, Ieee.isNaN_sub_right _ hexpected] at hnumber
      cases hnumber
  · intro hnumber
    exact ⟨hvalue i, (not_lt_maxAbsDifference_iff ht).mp h i
      (Ieee.isNaN_sub_of_isFinite_left (hvalue i) hnumber)⟩

theorem near_of_not_lt {value expected : Binary64} {tolerance : ℚ} (ht : Tolerance tolerance)
    (hvalue : FloatArith.isFinite value = true) (hexpected : FloatArith.isFinite expected = true)
    (h : ¬FloatArith.ofRat tolerance < FloatArith.abs (value - expected)) :
    Near value expected tolerance := by
  have hnumber : (Ieee.abs (Ieee.sub value expected)).isNaN = false :=
    Ieee.isNaN_sub hvalue hexpected
  exact ⟨hvalue, (Ieee.not_lt_iff_le hnumber (Ieee.isNaN_of_isFinite ht.finite)).mp h⟩

/-! ## The ARM contract -/

theorem tolerance_compiled : Tolerance (1 / 1000000000000) := ⟨by decide +kernel, by decide +kernel⟩

/-- **A payload near the compiled values** in every component, all of them finite. -/
structure ArmNear (arm : ArmPayload Binary64) : Prop where
  qHome : ∀ i, Near (arm.qHomeRad i) (compiled HardSafetyLimits.qHome i) (1 / 1000000000000)
  lower : ∀ i, Near (arm.safeJointLowerRad i) (compiled safeJointLower i) (1 / 1000000000000)
  upper : ∀ i, Near (arm.safeJointUpperRad i) (compiled safeJointUpper i) (1 / 1000000000000)
  fTEE : ∀ i, Near (arm.expectedFTEE i) (compiled expectedFTee i) (1 / 1000000000000)
  com : ∀ i, Near (arm.expectedEndEffectorComM i) (compiled expectedEndEffectorComM i)
    (1 / 1000000000000)
  inertia : ∀ i, Near (arm.expectedEndEffectorInertiaKgM2 i)
    (compiled expectedEndEffectorInertiaKgM2 i) (1 / 1000000000000)
  mass : Near arm.expectedEndEffectorMassKg (FloatArith.ofRat expectedEndEffectorMassKg)
    (1 / 1000000000000)
  loadFinite : FloatArith.isFinite arm.expectedExternalLoadMassKg = true
  load : Ieee.le (Ieee.abs arm.expectedExternalLoadMassKg)
    (FloatArith.ofRat (1 / 1000000000000)) = true

/-- **The arrays of a payload have no NaN.** -/
structure ArmNumbers (arm : ArmPayload Binary64) : Prop where
  qHome : ∀ i, (arm.qHomeRad i).isNaN = false
  lower : ∀ i, (arm.safeJointLowerRad i).isNaN = false
  upper : ∀ i, (arm.safeJointUpperRad i).isNaN = false
  fTEE : ∀ i, (arm.expectedFTEE i).isNaN = false
  com : ∀ i, (arm.expectedEndEffectorComM i).isNaN = false
  inertia : ∀ i, (arm.expectedEndEffectorInertiaKgM2 i).isNaN = false

structure ArmCompared (arm : ArmPayload Binary64) : Prop where
  qHome : ¬differsFromCompiled arm.qHomeRad HardSafetyLimits.qHome
  lower : ¬differsFromCompiled arm.safeJointLowerRad safeJointLower
  upper : ¬differsFromCompiled arm.safeJointUpperRad safeJointUpper
  fTEE : ¬differsFromCompiled arm.expectedFTEE expectedFTee
  com : ¬differsFromCompiled arm.expectedEndEffectorComM expectedEndEffectorComM
  inertia : ¬differsFromCompiled arm.expectedEndEffectorInertiaKgM2 expectedEndEffectorInertiaKgM2
  massFinite : FloatArith.isFinite arm.expectedEndEffectorMassKg = true
  mass : ¬compiledTolerance < FloatArith.abs (arm.expectedEndEffectorMassKg -
    FloatArith.ofRat expectedEndEffectorMassKg)
  loadFinite : FloatArith.isFinite arm.expectedExternalLoadMassKg = true
  load : ¬compiledTolerance < FloatArith.abs arm.expectedExternalLoadMassKg

theorem compared_of_requireArmContract {arm : ReceivedArm Binary64} {nowNs : ℕ}
    (h : requireArmContract arm nowNs = .ok ()) : ArmCompared arm.toArmPayload := by
  unfold requireArmContract at h
  simp only [except_bind_eq_ok, rejectIf_eq_ok, exists_const] at h
  obtain ⟨-, -, -, -, -, -, -, qHome, lower, upper, fTEE, com, inertia, mass, load⟩ := h
  obtain ⟨massFinite, mass⟩ := not_or.mp mass
  obtain ⟨loadFinite, load⟩ := not_or.mp load
  exact ⟨qHome, lower, upper, fTEE, com, inertia, by simpa using massFinite, mass,
    by simpa using loadFinite, load⟩

/-- **An accepted payload is near the compiled values** exactly when its arrays have no NaN. -/
theorem armNear_iff {arm : ArmPayload Binary64} (h : ArmCompared arm) :
    ArmNear arm ↔ ArmNumbers arm := by
  have ht := tolerance_compiled
  have hqHome := near_iff_of_expected_finite ht (by decide +kernel) h.qHome
  have hlower := near_iff_of_expected_finite ht (by decide +kernel) h.lower
  have hupper := near_iff_of_expected_finite ht (by decide +kernel) h.upper
  have hfTEE := near_iff_of_expected_finite ht (by decide +kernel) h.fTEE
  have hcom := near_iff_of_expected_finite ht (by decide +kernel) h.com
  have hinertia := near_iff_of_expected_finite ht (by decide +kernel) h.inertia
  constructor
  · intro hnear
    exact ⟨hqHome.mp hnear.qHome, hlower.mp hnear.lower, hupper.mp hnear.upper,
      hfTEE.mp hnear.fTEE, hcom.mp hnear.com, hinertia.mp hnear.inertia⟩
  · intro hnumbers
    have hload : (Ieee.abs arm.expectedExternalLoadMassKg).isNaN = false :=
      (Ieee.isNaN_abs _).trans (Ieee.isNaN_of_isFinite h.loadFinite)
    exact ⟨hqHome.mpr hnumbers.qHome, hlower.mpr hnumbers.lower, hupper.mpr hnumbers.upper,
      hfTEE.mpr hnumbers.fTEE, hcom.mpr hnumbers.com, hinertia.mpr hnumbers.inertia,
      near_of_not_lt ht h.massFinite (by decide +kernel) h.mass, h.loadFinite,
      (Ieee.not_lt_iff_le hload (Ieee.isNaN_of_isFinite ht.finite)).mp h.load⟩

/-! ## The preflight -/

theorem preflight_tolerances : Tolerance maximumStartErrorRad ∧ Tolerance (1 / 100000000) ∧
    Tolerance (1 / 100000) ∧ Tolerance (1 / 1000000) ∧
    Tolerance HardSafetyLimits.stopMaximumVelocityRadS := by
  refine ⟨⟨?_, ?_⟩, ⟨?_, ?_⟩, ⟨?_, ?_⟩, ⟨?_, ?_⟩, ?_, ?_⟩ <;> decide +kernel

theorem near_of_not_toolDiffers {n : ℕ} {value expected : Vec n Binary64} {tolerance : ℚ}
    (ht : Tolerance tolerance) (h : ¬toolDiffers value expected tolerance)
    (hexpected : ∀ i, (expected i).isNaN = false) (i : Fin n) :
    Near (value i) (expected i) tolerance := by
  obtain ⟨hfinite, hcompared⟩ := not_or.mp h
  rw [Bool.not_eq_false] at hfinite
  exact (near_iff_of_value_finite ht (value.allFinite_iff.mp hfinite) hcompared).mpr hexpected i

theorem near_of_not_massDiffers {value expected : Binary64} (h : ¬massDiffers value expected)
    (hexpected : FloatArith.isFinite expected = true) : Near value expected (1 / 100000) := by
  obtain ⟨hfinite, hcompared⟩ := not_or.mp h
  rw [Bool.not_eq_false] at hfinite
  exact near_of_not_lt preflight_tolerances.2.2.1 hfinite hexpected hcompared

/-- **A sample near the armed values** in every component, all of them finite. -/
structure PreflightNear (sample : PreflightSample Binary64) (arm : ArmPayload Binary64) :
    Prop where
  vectors : sampleVectorsAreFinite sample.toRobotSample = true
  rest : ∀ i, Ieee.le (Ieee.abs (sample.dqRadS i))
    (FloatArith.ofRat HardSafetyLimits.stopMaximumVelocityRadS) = true
  qHome : ∀ i, Near (sample.qRad i) (arm.qHomeRad i) maximumStartErrorRad
  fTEE : ∀ i, Near (sample.fTEE i) (arm.expectedFTEE i) (1 / 100000000)
  com : ∀ i, Near (sample.endEffectorComM i) (arm.expectedEndEffectorComM i) (1 / 1000000)
  inertia : ∀ i, Near (sample.endEffectorInertiaKgM2 i) (arm.expectedEndEffectorInertiaKgM2 i)
    (1 / 1000000)
  mass : Near sample.endEffectorMassKg arm.expectedEndEffectorMassKg (1 / 100000)
  load : Near sample.externalLoadMassKg arm.expectedExternalLoadMassKg (1 / 100000)

/-- **An accepted sample is near the armed values** when the arrays of the payload have no NaN. -/
theorem preflightNear_of_numbers {arm : ArmPayload Binary64} (h : ArmCompared arm)
    (hnumbers : ArmNumbers arm) {sample : PreflightSample Binary64}
    (hsample : requirePreflight sample arm = .ok ()) : PreflightNear sample arm := by
  unfold requirePreflight at hsample
  simp only [except_bind_eq_ok, rejectIf_eq_ok, exists_const, not_or] at hsample
  obtain ⟨⟨-, -, hvectors, hrest⟩, hqHome, hfTEE, hmass, hcom, hinertia, hload⟩ := hsample
  have hfinite : sampleVectorsAreFinite sample.toRobotSample = true := by simpa using hvectors
  have hvectors' := hfinite
  unfold sampleVectorsAreFinite at hvectors'
  simp only [Bool.and_eq_true] at hvectors'
  obtain ⟨⟨⟨⟨⟨⟨hq, hdq⟩, -⟩, -⟩, -⟩, -⟩, -⟩ := hvectors'
  obtain ⟨hstart, hframe, -, htool, hrestLimit⟩ := preflight_tolerances
  exact ⟨hfinite, le_of_not_lt_maxAbs hrestLimit (sample.dqRadS.allFinite_iff.mp hdq) hrest,
    (near_iff_of_value_finite hstart (sample.qRad.allFinite_iff.mp hq) hqHome).mpr
      hnumbers.qHome,
    near_of_not_toolDiffers hframe hfTEE hnumbers.fTEE,
    near_of_not_toolDiffers htool hcom hnumbers.com,
    near_of_not_toolDiffers htool hinertia hnumbers.inertia,
    near_of_not_massDiffers hmass h.massFinite, near_of_not_massDiffers hload h.loadFinite⟩

/-! ## The gate -/

/-- **The ARM and preflight gate.** For every accepted payload, the payload and every sample that is
accepted after it are finite and near the expected values exactly when no array of the payload has
a NaN. -/
theorem arm_gate_rejects_nan_iff {arm : ReceivedArm Binary64} {nowNs : ℕ}
    (h : requireArmContract arm nowNs = .ok ()) :
    (ArmNear arm.toArmPayload ∧ ∀ sample, requirePreflight sample arm.toArmPayload = .ok () →
      PreflightNear sample arm.toArmPayload) ↔ ArmNumbers arm.toArmPayload := by
  have hcompared := compared_of_requireArmContract h
  constructor
  · rintro ⟨hnear, -⟩
    exact (armNear_iff hcompared).mp hnear
  · intro hnumbers
    refine ⟨(armNear_iff hcompared).mpr hnumbers, ?_⟩
    intro sample hsample
    exact preflightNear_of_numbers hcompared hnumbers hsample

/-! ## A payload with a NaN -/

def compiledArm : ReceivedArm Binary64 where
  profileSha256 := compiledDigest HardSafetyLimits.profileSha256
  envelopeSha256 := compiledDigest HardSafetyLimits.envelopeSha256
  permitSha256 := fun _ => 1
  runIdSha256 := fun _ => 1
  authorizationId := fun _ => 1
  authorizationIssuedMonotonicNs := 1
  authorizationExpiresMonotonicNs := 20000000000
  heartbeatTimeoutNs := maximumHeartbeatTimeoutNs
  firstTargetTimeoutNs := maximumFirstTargetTimeoutNs
  targetTimeoutNs := maximumInterTargetTimeoutNs
  maximumSessionDurationNs := HardSafetyLimits.maximumSessionDurationNs
  qHomeRad := compiled HardSafetyLimits.qHome
  safeJointLowerRad := compiled safeJointLower
  safeJointUpperRad := compiled safeJointUpper
  expectedFTEE := compiled expectedFTee
  expectedEndEffectorMassKg := FloatArith.ofRat HardSafetyLimits.expectedEndEffectorMassKg
  expectedEndEffectorComM := compiled HardSafetyLimits.expectedEndEffectorComM
  expectedEndEffectorInertiaKgM2 := compiled HardSafetyLimits.expectedEndEffectorInertiaKgM2
  expectedExternalLoadMassKg := FloatArith.ofRat HardSafetyLimits.expectedExternalLoadMassKg
  maximumTargetCount := 720
  controllerMode := 1
  reserved := fun _ => 0

def nanArm : ReceivedArm Binary64 :=
  { compiledArm with
    qHomeRad := fun i => if i = 0 then Ieee.nan else compiled HardSafetyLimits.qHome i }

theorem compiledArm_accepted : requireArmContract compiledArm 2 = .ok () := by decide +kernel

theorem nanArm_accepted : requireArmContract nanArm 2 = .ok () := by decide +kernel

/-- **A NaN passes the gate**: the maximum of the differences passes over it. -/
theorem nan_home_is_accepted :
    ¬∀ (arm : ReceivedArm Binary64) (nowNs : ℕ), requireArmContract arm nowNs = .ok () →
      ArmNear arm.toArmPayload := by
  intro hnear
  have hfinite := ((hnear nanArm 2 nanArm_accepted).qHome 0).finite
  exact absurd hfinite (by decide +kernel)

theorem compiled_arm_is_near :
    (ArmNear compiledArm.toArmPayload ∧
      ∀ sample, requirePreflight sample compiledArm.toArmPayload = .ok () →
        PreflightNear sample compiledArm.toArmPayload) ↔ ArmNumbers compiledArm.toArmPayload :=
  arm_gate_rejects_nan_iff compiledArm_accepted

end FrankaDeploy.Servo
