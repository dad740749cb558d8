import FrankaDeploy.Servo.Protocol
import FrankaDeploy.Servo.SafetyLimits

/-! # Robot samples and their predicates

`RobotSample` of `backend.hpp` and the small predicates of `servo_core.cpp` that every phase of
the servo shares. -/

namespace FrankaDeploy.Servo

open FrankaDeploy.Foundation
open scoped FloatArith

variable {D : Type} [FloatArith D]

/-- **`RobotSample`**, without the tool and load fields that only the preflight reads. -/
structure RobotSample (D : Type) where
  qRad : Vec 7 D
  dqRadS : Vec 7 D
  desiredQRad : Vec 7 D
  desiredDqRadS : Vec 7 D
  desiredDdqRadS2 : Vec 7 D
  oTEE : Vec 16 D
  robotTimeMs : ℕ
  controlPeriodMs : ℕ
  mode : RobotModeCode
  statusFlags : StatusFlags
  currentErrorsText : Text
  lastMotionErrorsText : Text
  controlCommandSuccessRate : D

/-! ## Helpers on arrays -/

/-- `max_abs`: the running maximum of the absolute values, from zero. -/
def maxAbs {n : ℕ} (v : Vec n D) : D :=
  (List.finRange n).foldl (fun maximum i => FloatArith.stdMax maximum (FloatArith.abs (v i)))
    FloatArith.zero

def maxAbsDifference {n : ℕ} (left right : Vec n D) : D :=
  (List.finRange n).foldl
    (fun maximum i => FloatArith.stdMax maximum (FloatArith.abs (left i - right i)))
    FloatArith.zero

def outsideSafeInterval (v : Vec 7 D) : Bool :=
  (List.finRange 7).any fun i =>
    decide (v i < FloatArith.ofRat (HardSafetyLimits.safeJointLower i)) ||
      decide (FloatArith.ofRat (HardSafetyLimits.safeJointUpper i) < v i)

def previousTargetDeltaAllowed (mode : ControllerMode) (target previousTarget : Vec 7 D) : Bool :=
  mode = .qdG015 || decide (maxAbsDifference target previousTarget ≤
    FloatArith.ofRat HardSafetyLimits.maximumTickTargetDeltaRad)

def episodeDeltaAllowed (mode : ControllerMode) (value startQ : Vec 7 D) : Bool :=
  mode = .qdG015 || decide (maxAbsDifference value startQ ≤
    FloatArith.ofRat HardSafetyLimits.maximumEpisodeDeltaRad)

/-! ## Predicates on samples -/

def stateIsClear (sample : RobotSample D) : Bool :=
  sample.statusFlags = 0 && sample.statusFlags &&& ~~~knownStateStatusMask = 0

def stateHasContact (sample : RobotSample D) : Bool :=
  sample.statusFlags &&& contactStatusMask ≠ 0

def stateIsDynamicMotionSafe (sample : RobotSample D) : Bool :=
  sample.statusFlags &&& ~~~contactStatusMask = 0 &&
    sample.statusFlags &&& ~~~knownStateStatusMask = 0

def sampleVectorsAreFinite (sample : RobotSample D) : Bool :=
  sample.qRad.allFinite && sample.dqRadS.allFinite && sample.desiredQRad.allFinite &&
    sample.desiredDqRadS.allFinite && sample.desiredDdqRadS2.allFinite &&
    sample.oTEE.allFinite && FloatArith.isFinite sample.controlCommandSuccessRate

end FrankaDeploy.Servo
