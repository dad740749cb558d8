import FrankaDeploy.Servo.RuntimeState
import Mathlib.Logic.Function.Iterate

/-! # The desired history of the motion generator

The robot integrates every command from the desired position, velocity and acceleration that it
holds at that moment. `servo_core.cpp` keeps that history exactly: a returned state tells only
whether the last command was accepted or dropped, and how many packets were missed. This file has
the two candidates, the rule that selects one of them, and the checks on states and histories. -/

namespace FrankaDeploy.Servo

open FrankaDeploy.Foundation
open scoped FloatArith

variable {D S : Type} [FloatArith D] [FloatArith S] [FloatCast D S]

/-- **`ExactDesiredHistory`.** -/
structure ExactDesiredHistory (D : Type) where
  q : Vec 7 D
  dq : Vec 7 D
  ddq : Vec 7 D

def ExactDesiredHistory.default : ExactDesiredHistory D := ⟨zeros, zeros, zeros⟩

/-! ## Constants -/

def commandPacketPeriodS : D := FloatArith.ofRat (1 / 1000)

def desiredHistoryQNumericalEquivalenceRad : D := FloatArith.ofRat (1 / 10 ^ 12)

def desiredHistoryDqNumericalEquivalenceRadS : D := FloatArith.ofRat (1 / 10 ^ 9)

def desiredHistoryDdqNumericalEquivalenceRadS2 : D := FloatArith.ofRat (1 / 10 ^ 6)

def bootstrapMaximumDesiredVelocityRadS : D := FloatArith.ofRat (1 / 10 ^ 6)

def bootstrapMaximumDesiredAccelerationRadS2 : D := FloatArith.ofRat (1 / 10 ^ 4)

/-! ## Extrapolation -/

/-- One turn of the loop of `extrapolate_constant_acceleration`: one missed packet. -/
def extrapolateOnce (history : ExactDesiredHistory D) : ExactDesiredHistory D :=
  let dq := fun i => history.dq i + history.ddq i * commandPacketPeriodS
  { history with dq := dq, q := fun i => history.q i + dq i * commandPacketPeriodS }

/-- **`extrapolate_constant_acceleration`.** -/
def extrapolateConstantAcceleration (history : ExactDesiredHistory D) (packetCount : ℕ) :
    ExactDesiredHistory D :=
  extrapolateOnce^[packetCount] history

@[simp] theorem extrapolate_zero (history : ExactDesiredHistory D) :
    extrapolateConstantAcceleration history 0 = history := rfl

/-- **Extrapolation is a semigroup action**: over `a` and then over `b` packets is over their
sum. -/
theorem extrapolate_add (history : ExactDesiredHistory D) (a b : ℕ) :
    extrapolateConstantAcceleration (extrapolateConstantAcceleration history a) b =
      extrapolateConstantAcceleration history (a + b) := by
  rw [Nat.add_comm]
  exact (Function.iterate_add_apply extrapolateOnce b a history).symm

/-! ## Matching -/

variable (S) in
def floatRoundTripValueMatches (observed expected absoluteTolerance : D) : Bool :=
  let expectedFloat : S := FloatCast.narrow expected
  let observedFloat : S := FloatCast.narrow observed
  let lowerFloat := FloatArith.nextDown expectedFloat
  let upperFloat := FloatArith.nextUp expectedFloat
  FloatArith.eqv observed (FloatCast.widen observedFloat) &&
    (FloatArith.eqv observedFloat expectedFloat || FloatArith.eqv observedFloat lowerFloat ||
      FloatArith.eqv observedFloat upperFloat ||
      decide (FloatArith.abs (observed - expected) ≤ absoluteTolerance))

variable (S) in
def floatRoundTripArrayMatches (observed expected : Vec 7 D) (absoluteTolerance : D) : Bool :=
  (List.finRange 7).all fun i =>
    floatRoundTripValueMatches S (observed i) (expected i) absoluteTolerance

variable (S) in
def exactFloatRoundTripArrayMatches (observed expected : Vec 7 D) : Bool :=
  (List.finRange 7).all fun i =>
    let expectedFloat : S := FloatCast.narrow (expected i)
    let observedFloat : S := FloatCast.narrow (observed i)
    FloatArith.eqv (observed i) (FloatCast.widen observedFloat) &&
      FloatArith.eqv observedFloat expectedFloat

variable (S) in
/-- **`desired_history_matches`.** -/
def desiredHistoryMatches (sample : RobotSample D) (expected : ExactDesiredHistory D) : Bool :=
  floatRoundTripArrayMatches S sample.desiredQRad expected.q
      desiredHistoryQNumericalEquivalenceRad &&
    floatRoundTripArrayMatches S sample.desiredDqRadS expected.dq
      desiredHistoryDqNumericalEquivalenceRadS &&
    floatRoundTripArrayMatches S sample.desiredDdqRadS2 expected.ddq
      desiredHistoryDdqNumericalEquivalenceRadS2

variable (S) in
def desiredHistoryExactlyMatches (sample : RobotSample D) (expected : ExactDesiredHistory D) :
    Bool :=
  exactFloatRoundTripArrayMatches S sample.desiredQRad expected.q &&
    exactFloatRoundTripArrayMatches S sample.desiredDqRadS expected.dq &&
    exactFloatRoundTripArrayMatches S sample.desiredDdqRadS2 expected.ddq

def exactHistoriesEqual (left right : ExactDesiredHistory D) : Bool :=
  left.q.arrayEqual right.q && left.dq.arrayEqual right.dq && left.ddq.arrayEqual right.ddq

def exactHistoriesNumericallyEquivalent (left right : ExactDesiredHistory D) : Bool :=
  decide (maxAbsDifference left.q right.q ≤ desiredHistoryQNumericalEquivalenceRad) &&
    decide (maxAbsDifference left.dq right.dq ≤ desiredHistoryDqNumericalEquivalenceRadS) &&
    decide (maxAbsDifference left.ddq right.ddq ≤ desiredHistoryDdqNumericalEquivalenceRadS2)

/-! ## Selection -/

/-- **Which of the two candidates a returned state shows.** -/
inductive HistoryChoice where
  | accepted
  | dropped
deriving DecidableEq, Repr

/-- `select_matching_desired_history`: the candidate it returns. -/
def selectMatchingDesiredHistory (S : Type) [FloatArith S] [FloatCast D S]
    (sample : RobotSample D) (accepted dropped : ExactDesiredHistory D) :
    Except ServoFault HistoryChoice :=
  let acceptedMatches := desiredHistoryMatches S sample accepted
  let droppedMatches := desiredHistoryMatches S sample dropped
  if !acceptedMatches && !droppedMatches then
    .error (.of .dynamicState "FCI desired history matched neither accepted nor dropped")
  else if acceptedMatches && droppedMatches && !exactHistoriesEqual accepted dropped &&
      !exactHistoriesNumericallyEquivalent accepted dropped then
    .error (.of .dynamicState
      "FCI desired history ambiguously matches distinct accepted/dropped candidates")
  else if acceptedMatches != droppedMatches then
    .ok (if acceptedMatches then .accepted else .dropped)
  else
    -- a tie of equivalent candidates, which only an exact match breaks
    let acceptedExact := desiredHistoryExactlyMatches S sample accepted
    let droppedExact := desiredHistoryExactlyMatches S sample dropped
    if acceptedExact != droppedExact then .ok (if acceptedExact then .accepted else .dropped)
    else .ok .accepted

/-- The candidate for an accepted command: it was sent after the preceding state, so one packet of
the period is its own. -/
def acceptedCandidate (sample : RobotSample D) (lastSent : ExactDesiredHistory D) :
    ExactDesiredHistory D :=
  extrapolateConstantAcceleration lastSent (sample.controlPeriodMs - 1)

def droppedCandidate (sample : RobotSample D) (lastConfirmed : ExactDesiredHistory D) :
    ExactDesiredHistory D :=
  extrapolateConstantAcceleration lastConfirmed sample.controlPeriodMs

def HistoryChoice.candidate (choice : HistoryChoice) (sample : RobotSample D)
    (lastConfirmed lastSent : ExactDesiredHistory D) : ExactDesiredHistory D :=
  match choice with
  | .accepted => acceptedCandidate sample lastSent
  | .dropped => droppedCandidate sample lastConfirmed

/-- **`select_returned_desired_history`**: the candidate it returns. -/
def selectReturnedDesiredHistory (S : Type) [FloatArith S] [FloatCast D S]
    (sample : RobotSample D) (lastConfirmed lastSent : ExactDesiredHistory D) :
    Except ServoFault HistoryChoice :=
  let accepted := acceptedCandidate sample lastSent
  if HardSafetyLimits.maximumUncontrolledContinuationPackets < sample.controlPeriodMs then
    if !desiredHistoryMatches S sample accepted then
      .error (.of .dynamicState
        "maximum-period FCI recovery did not match accepted desired history")
    else .ok .accepted
  else
    selectMatchingDesiredHistory S sample accepted (droppedCandidate sample lastConfirmed)

variable (S) in
/-- **The returned state shows that the last command was dropped**: it matches the dropped
candidate, and the accepted one either not at all or, when the two are equivalent, not exactly. -/
def returnedStateShowsDrop (sample : RobotSample D)
    (lastConfirmed lastSent : ExactDesiredHistory D) : Bool :=
  let accepted := acceptedCandidate sample lastSent
  let dropped := droppedCandidate sample lastConfirmed
  decide (sample.controlPeriodMs ≤ HardSafetyLimits.maximumUncontrolledContinuationPackets) &&
    desiredHistoryMatches S sample dropped &&
    (!desiredHistoryMatches S sample accepted ||
      (exactHistoriesEqual accepted dropped ||
          exactHistoriesNumericallyEquivalent accepted dropped) &&
        !desiredHistoryExactlyMatches S sample accepted &&
        desiredHistoryExactlyMatches S sample dropped)

/-- **The dropped candidate is selected** exactly when the returned state shows it. -/
theorem selectReturned_eq_dropped_iff {sample : RobotSample D}
    {lastConfirmed lastSent : ExactDesiredHistory D} :
    selectReturnedDesiredHistory S sample lastConfirmed lastSent = .ok .dropped ↔
      returnedStateShowsDrop S sample lastConfirmed lastSent = true := by
  unfold selectReturnedDesiredHistory selectMatchingDesiredHistory returnedStateShowsDrop
  by_cases hperiod : HardSafetyLimits.maximumUncontrolledContinuationPackets <
      sample.controlPeriodMs
  · have hnot : ¬sample.controlPeriodMs ≤
        HardSafetyLimits.maximumUncontrolledContinuationPackets := by omega
    simp only [if_pos hperiod, hnot, decide_false, Bool.false_and]
    split_ifs <;> simp
  · have hle : sample.controlPeriodMs ≤
        HardSafetyLimits.maximumUncontrolledContinuationPackets := by omega
    simp only [if_neg hperiod, hle, decide_true, Bool.true_and]
    generalize desiredHistoryMatches S sample (acceptedCandidate sample lastSent) = accepted
    generalize desiredHistoryMatches S sample (droppedCandidate sample lastConfirmed) = dropped
    generalize exactHistoriesEqual (acceptedCandidate sample lastSent)
      (droppedCandidate sample lastConfirmed) = equal
    generalize exactHistoriesNumericallyEquivalent (acceptedCandidate sample lastSent)
      (droppedCandidate sample lastConfirmed) = equivalent
    generalize desiredHistoryExactlyMatches S sample (acceptedCandidate sample lastSent) =
      acceptedExact
    generalize desiredHistoryExactlyMatches S sample (droppedCandidate sample lastConfirmed) =
      droppedExact
    cases accepted <;> cases dropped <;> cases equal <;> cases equivalent <;>
      cases acceptedExact <;> cases droppedExact <;> simp

/-! ## Checks -/

def requireRecoverableFciHistory (history : ExactDesiredHistory D) (startQ : Vec 7 D)
    (mode : ControllerMode) : Except ServoFault Unit :=
  if !history.q.allFinite || !history.dq.allFinite || !history.ddq.allFinite then
    .error (.of .dynamicState "recoverable FCI desired history is non-finite")
  else if outsideSafeInterval history.q then
    .error (.of .dynamicState "recoverable FCI desired history left safe joint interval")
  else if !episodeDeltaAllowed mode history.q startQ then
    .error (.of .dynamicState
      "legacy recoverable FCI history left home-centered episode envelope")
  else .ok ()

/-- The first of the measured and the desired position that leaves the compiled interval. The loop
of the source takes the joints in turn, at each joint the measured position first. -/
def jointIntervalFault (sample : RobotSample D) : Option ServoFault :=
  (List.finRange 7).findSome? fun i =>
    let lower : D := FloatArith.ofRat (HardSafetyLimits.safeJointLower i)
    let upper : D := FloatArith.ofRat (HardSafetyLimits.safeJointUpper i)
    if sample.qRad i < lower ∨ upper < sample.qRad i then
      some (.of .dynamicState "measured Franka q left compiled safe joint interval")
    else if sample.desiredQRad i < lower ∨ upper < sample.desiredQRad i then
      some (.of .dynamicState "FCI desired q left compiled safe joint interval")
    else none

/-- **`require_dynamic_state`.** -/
def requireDynamicState (sample : RobotSample D) (previousCommand startQ : Vec 7 D)
    (mode : ControllerMode) : Except ServoFault Unit :=
  if sample.mode ≠ .move || !stateIsDynamicMotionSafe sample ||
      !sampleVectorsAreFinite sample then
    .error (.of .dynamicState "dyn mode=")
  else if FloatArith.ofRat HardSafetyLimits.maximumMeasuredVelocityRadS < maxAbs sample.dqRadS then
    .error (.of .dynamicState "measured Franka velocity exceeds 0.70 rad/s")
  else
    match jointIntervalFault sample with
    | some fault => .error fault
    | none =>
      if !episodeDeltaAllowed mode sample.desiredQRad startQ then
        .error (.of .dynamicState "legacy FCI desired q left home-centered episode envelope")
      else if FloatArith.ofRat HardSafetyLimits.maximumTrackingErrorRad <
          maxAbsDifference sample.qRad previousCommand then
        .error (.of .dynamicState "measured Franka q differs from prior safe command")
      else .ok ()

def qHome : Vec 7 D := fun i => FloatArith.ofRat (HardSafetyLimits.qHome i)

def notStationaryBootstrap (sample : RobotSample D) : Bool :=
  sample.mode ≠ .move || !stateIsClear sample || !sampleVectorsAreFinite sample ||
    decide (FloatArith.ofRat HardSafetyLimits.stopMaximumVelocityRadS < maxAbs sample.dqRadS) ||
    decide (FloatArith.ofRat HardSafetyLimits.maximumStartErrorRad <
      maxAbsDifference sample.qRad qHome) ||
    decide (FloatArith.ofRat HardSafetyLimits.maximumStartErrorRad <
      maxAbsDifference sample.desiredQRad qHome) ||
    decide (bootstrapMaximumDesiredVelocityRadS < maxAbs sample.desiredDqRadS) ||
    decide (bootstrapMaximumDesiredAccelerationRadS2 < maxAbs sample.desiredDdqRadS2) ||
    decide (FloatArith.ofRat HardSafetyLimits.maximumTrackingErrorRad <
      maxAbsDifference sample.qRad sample.desiredQRad)

def requireBootstrap (sample : RobotSample D) : Except ServoFault Unit :=
  if notStationaryBootstrap sample then
    .error (.of .dynamicState "first active state is not a stationary V94 bootstrap")
  else if outsideSafeInterval sample.desiredQRad then
    .error (.of .dynamicState "first active desired q is outside safe joint interval")
  else .ok ()

end FrankaDeploy.Servo
