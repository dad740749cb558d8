import FrankaDeploy.Foundation.FloatArith

/-! # The compiled safety limits

`HardSafetyLimits` of `safety_limits.hpp`. Real constants are the rationals that the source writes;
code reads them through `FloatArith.ofRat`. Times are nanoseconds unless the name says otherwise. -/

namespace FrankaDeploy.Servo

open FrankaDeploy.Foundation

namespace HardSafetyLimits

def maximumCommandVelocityRadS : ℚ := 50 / 100

def maximumCommandAccelerationRadS2 : ℚ := 5

def maximumCommandJerkRadS3 : ℚ := 250

def maximumStartErrorRad : ℚ := 1 / 100

def maximumTickTargetDeltaRad : ℚ := 20 / 1000

def maximumEpisodeDeltaRad : ℚ := 121 / 100

def maximumTrackingErrorRad : ℚ := 1 / 100

def maximumMeasuredVelocityRadS : ℚ := 70 / 100

def stopMaximumVelocityRadS : ℚ := 1 / 100

def minimumHealthySuccessRate : ℚ := 99 / 100

def fciFailStopDroppedPacketBound : ℕ := 20

/-- `kMaximumRecoverableControlPeriodMs`: the returned period includes the recovered packet. -/
def maximumRecoverableControlPeriodMs : ℕ := fciFailStopDroppedPacketBound + 1

def maximumUncontrolledContinuationPackets : ℕ := fciFailStopDroppedPacketBound

def maximumReadToWriteNs : ℕ := 800000

def maximumTargetAgeNs : ℕ := 50000000

def maximumFutureTargetSkewNs : ℕ := 10000000

def healthyCyclesBeforeAction : ℕ := 100

def maximumCriticalPacketsPerCycle : ℕ := 4

def maximumIpcDrainNs : ℕ := 100000

def stateDecimation : ℕ := 16

def stopConsecutiveSamples : ℕ := 3

def stopMaximumSamples : ℕ := 3000

/-- `kQHome`: binary32 values, written exactly. -/
def qHome : Vec 7 ℚ := fun i =>
  [0, -(0x1333334 / 2 ^ 24), 0, -(0x119999a / 2 ^ 23), 0, 0x1666666 / 2 ^ 24,
    0x1921fb6 / 2 ^ 25].getD i.1 0

def safeJointLower : Vec 7 ℚ := fun i =>
  [-26937 / 10000, -17337 / 10000, -28507 / 10000, -29921 / 10000, -27565 / 10000,
    5945 / 10000, -29659 / 10000].getD i.1 0

def safeJointUpper : Vec 7 ℚ := fun i =>
  [26937 / 10000, 17337 / 10000, 28507 / 10000, -2018 / 10000, 27565 / 10000,
    44669 / 10000, 29659 / 10000].getD i.1 0

end HardSafetyLimits

end FrankaDeploy.Servo
