import FrankaDeploy.ClosedLoop.Validation

/-! # Commands and commits

The immutable records of `closed_loop/commands.py` that the ledger handles. What `__post_init__`
checks is part of the type, so a record that exists is a valid one. -/

namespace FrankaDeploy.ClosedLoop

open FrankaDeploy.Foundation
open scoped FloatArith

variable (D S : Type) [FloatArith D] [FloatArith S]

/-- **`ClosedLoopCommand`**: one policy command shared by both actuator owners. -/
structure ClosedLoopCommand where
  sequence : ℕ
  producedMonotonicS : D
  observationRealtimeS : D
  previousExecutedAction13Used : FiniteVec 13 S
  rawPolicyAction13 : FiniteVec 13 S
  executedPolicyAction13 : FiniteVec 13 S
  frankaTargetQRad : FiniteVec 7 S
  rh56AngleSetRegisterOrder : RegisterVector
  holdArmTarget : Bool
  previousPolicyAction13Used : FiniteVec 13 S
  sequence_pos : 0 < sequence
  produced_finite : FloatArith.isFinite producedMonotonicS = true
  observation_finite : FloatArith.isFinite observationRealtimeS = true
  executed_within : withinUnit executedPolicyAction13.1 = true

variable {D S}

/-- `ClosedLoopCommand.__post_init__`: the checks in their order. -/
def ClosedLoopCommand.postInit (sequence : ℤ) (producedMonotonicS observationRealtimeS : D)
    (previousExecutedAction13Used rawPolicyAction13 executedPolicyAction13 : Vec 13 S)
    (frankaTargetQRad : Vec 7 S) (rh56AngleSetRegisterOrder : Vec 6 D) (holdArmTarget : Bool)
    (previousPolicyAction13Used : Option (Vec 13 S)) :
    Except PyError (ClosedLoopCommand D S) := do
  let sequence ← positiveInteger D sequence "command sequence"
  if hp : FloatArith.isFinite producedMonotonicS = true then
    if ho : FloatArith.isFinite observationRealtimeS = true then
      let previous ←
        readonlyFloatVector previousExecutedAction13Used "previous_executed_action13_used"
      let raw ← readonlyFloatVector rawPolicyAction13 "raw_policy_action13"
      let executed ← readonlyFloatVector executedPolicyAction13 "executed_policy_action13"
      if hw : withinUnit executed.1 = true then
        let arm ← readonlyFloatVector frankaTargetQRad "franka_target_q_rad"
        let hand ←
          readonlyRegisterVector rh56AngleSetRegisterOrder "rh56_angle_set_register_order"
        let policyPrevious ← match previousPolicyAction13Used with
          | none => pure previous
          | some v => readonlyFloatVector v "previous_policy_action13_used"
        return {
          sequence := sequence.1
          producedMonotonicS, observationRealtimeS
          previousExecutedAction13Used := previous
          rawPolicyAction13 := raw
          executedPolicyAction13 := executed
          frankaTargetQRad := arm
          rh56AngleSetRegisterOrder := hand
          holdArmTarget
          previousPolicyAction13Used := policyPrevious
          sequence_pos := sequence.2
          produced_finite := hp
          observation_finite := ho
          executed_within := hw }
      else throw (.valueError "executed_policy_action13 must lie in [-1,1]")
    else throw (.valueError "observation_realtime_s must be finite")
  else throw (.valueError "produced_monotonic_s must be finite")

variable (S) in
/-- **`ExecutedActionCommit`**: one view of the latest action that both consumers acknowledged. -/
structure ExecutedActionCommit where
  sequence : ℕ
  executedPolicyAction13 : FiniteVec 13 S

end FrankaDeploy.ClosedLoop
