import FrankaDeploy.ClosedLoop.Validation
import Mathlib.Data.Fintype.Basic
import Mathlib.Tactic.FinCases

/-! # The policy-action mapping

`contracts/actions.py`: the binary32 joint limits that stay inside the binary64 interval, the
mapping of one 13-component policy action to an arm and a hand target, and the transactional
shaper that releases hand targets at the hardware rate. -/

namespace FrankaDeploy.Contracts

open FrankaDeploy.Foundation FrankaDeploy.ClosedLoop
open scoped FloatArith

variable {D S : Type} [FloatArith D] [FloatArith S] [FloatCast D S]

/-! ## Contracts and joint limits -/

/-- `SUPPORTED_FRANKA_ACTION_CONTRACT_IDS`. -/
inductive FrankaActionContract where
  /-- `LEGACY_FRANKA_ACTION_CONTRACT_ID`: the arm target accumulates. -/
  | legacy
  /-- `QD_G015_FRANKA_ACTION_CONTRACT_ID`: the arm target is relative to the shaper state. -/
  | qdG015
deriving DecidableEq, Repr

structure JointLimits (F : Type) where
  lower : Vec 7 F
  upper : Vec 7 F

def JointLimits.unordered {F : Type} [FloatArith F] (limits : JointLimits F) : Bool :=
  (List.finRange 7).any fun i => decide (limits.upper i ≤ limits.lower i)

/-- `np.any(v < lower) or np.any(v > upper)`. -/
def JointLimits.excludes {F : Type} [FloatArith F] (limits : JointLimits F) (v : Vec 7 F) : Bool :=
  (List.finRange 7).any (fun i => decide (v i < limits.lower i)) ||
    (List.finRange 7).any fun i => decide (limits.upper i < v i)

/-- `contracted_joint_limits_float64`: the binary64 interval, contracted by the margin. -/
def contractedJointLimitsFloat64 (source : JointLimits D) (margin : D) :
    Except PyError (JointLimits D) := do
  if !(source.lower.allFinite && source.upper.allFinite) then
    throw (.valueError "joint_limits_rad must have finite shape (7,2)")
  if source.unordered then
    throw (.valueError "joint_limits_rad lower bounds must be below upper bounds")
  if !FloatArith.isFinite margin || decide (margin < FloatArith.zero) then
    throw (.valueError "joint limit margin must be finite and non-negative")
  let contracted : JointLimits D :=
    ⟨fun i => source.lower i + margin, fun i => source.upper i - margin⟩
  if contracted.unordered then
    throw (.valueError "joint limit margin consumes a joint interval")
  return contracted

/-- **`inward_float32_joint_limits`**: binary32 endpoints inside the binary64 interval. An endpoint
that was rounded outwards moves one step inwards. -/
def inwardFloat32JointLimits (source : JointLimits D) (margin : D) :
    Except PyError (JointLimits S) := do
  let contracted ← contractedJointLimitsFloat64 source margin
  let nearest : JointLimits S :=
    ⟨fun i => FloatCast.narrow (contracted.lower i), fun i => FloatCast.narrow (contracted.upper i)⟩
  if !(nearest.lower.allFinite && nearest.upper.allFinite) then
    throw (.valueError "joint_limits_rad cannot be represented as finite float32")
  let limits : JointLimits S :=
    ⟨fun i =>
        if (FloatCast.widen (nearest.lower i) : D) < contracted.lower i then
          FloatArith.nextUp (nearest.lower i)
        else nearest.lower i,
      fun i =>
        if contracted.upper i < (FloatCast.widen (nearest.upper i) : D) then
          FloatArith.nextDown (nearest.upper i)
        else nearest.upper i⟩
  let outside :=
    (List.finRange 7).any (fun i =>
      decide ((FloatCast.widen (limits.lower i) : D) < contracted.lower i)) ||
    (List.finRange 7).any fun i =>
      decide (contracted.upper i < (FloatCast.widen (limits.upper i) : D))
  if !(limits.lower.allFinite && limits.upper.allFinite) || limits.unordered || outside then
    throw (.valueError "joint limits have no safe float32 representation")
  return limits

/-! ## Hand orders -/

inductive HandJoint where
  | thumbRotation
  | thumbBending
  | index
  | middle
  | ring
  | little
deriving DecidableEq, Repr

def policyHandOrder : List HandJoint :=
  [.thumbRotation, .thumbBending, .index, .middle, .ring, .little]

def registerHandOrder : List HandJoint :=
  [.little, .ring, .middle, .index, .thumbBending, .thumbRotation]

/-- `policy_to_register_order`: component `i` of the result is the policy component of the joint
that the register order has at `i`. -/
def policyToRegisterOrder {α : Type} (policy : Vec 6 α) : Vec 6 α := fun i =>
  policy (Fin.ofNat 6 (policyHandOrder.idxOf (registerHandOrder.getD i .little)))

/-- `_register_order_to_policy_order`, an index permutation. -/
def registerOrderToPolicyOrder {α : Type} (registers : Vec 6 α) : Vec 6 α := fun i =>
  registers (Fin.ofNat 6 (([5, 4, 3, 2, 1, 0] : List ℕ).getD i 0))

/-! ## The mapping of one action -/

/-- **`V94MappedAction`**: a policy action and the targets it was mapped to. -/
structure V94MappedAction (S : Type) where
  rawPolicyAction13 : Vec 13 S
  executedPolicyAction13 : Vec 13 S
  frankaTargetQRad : Vec 7 S
  rh56TargetQPolicyOrderRad : Vec 6 S
  rh56AngleSetRegisterOrder : RegisterVector
  clipped : Bool
  reasons : List String
  holdArmTarget : Bool

structure MapperParameters (D : Type) where
  measuredArmEnvelopeRad : D
  armRawGainRad : D
  targetFilterAlpha : D
  handTargetFilterAlpha : D
  maximumArmTargetStepRad : D
  maximumHandTargetStepRad : D

/-- **`V94ActionMapper`** with its binary32 parameters. -/
structure V94ActionMapper (S : Type) where
  frankaActionContractId : FrankaActionContract
  armTarget : Vec 7 S
  handTarget : Vec 6 S
  jointLimits : JointLimits S
  qHandClose : Vec 6 S
  measuredArmEnvelope : S
  armRawGain : S
  alpha : S
  handAlpha : S
  maximumArmStep : S
  maximumHandStep : S

def V94ActionMapper.init (initialArmTargetQRad : Vec 7 S) (initialHandTarget : Vec 6 S)
    (jointLimitsRad : JointLimits D) (qHandCloseRad : Vec 6 S) (parameters : MapperParameters D)
    (frankaActionContractId : FrankaActionContract) : Except PyError (V94ActionMapper S) := do
  let arm ← readonlyFloatVector initialArmTargetQRad "initial_arm_target_q_rad"
  let hand ← readonlyFloatVector initialHandTarget "initial_hand_target_q_policy_order_rad"
  let limits ← inwardFloat32JointLimits jointLimitsRad FloatArith.zero
  let close ← readonlyFloatVector qHandCloseRad "q_hand_close_rad"
  if close.1.any fun x => decide (x ≤ FloatArith.zero) then
    throw (.valueError "q_hand_close_rad must be positive")
  let positive := fun x : D => FloatArith.isFinite x && decide (FloatArith.zero < x)
  let p := parameters
  let armScalars :=
    [p.measuredArmEnvelopeRad, p.armRawGainRad, p.targetFilterAlpha, p.maximumArmTargetStepRad]
  if !([p.handTargetFilterAlpha, p.maximumHandTargetStepRad].all positive) then
    throw (.valueError "action mapper limits must be finite and positive")
  match frankaActionContractId with
  | .legacy =>
    if !(armScalars.all positive) then
      throw (.valueError "action mapper limits must be finite and positive")
  | .qdG015 =>
    if !(armScalars.all FloatArith.isFinite) then
      throw (.valueError "q_d-relative arm mapper parameters must be finite")
  if FloatArith.one < p.targetFilterAlpha ∨ FloatArith.one < p.handTargetFilterAlpha then
    throw (.valueError "target filter alpha must not exceed one")
  return {
    frankaActionContractId
    armTarget := arm.1
    handTarget := hand.1
    jointLimits := limits
    qHandClose := close.1
    measuredArmEnvelope := FloatCast.narrow p.measuredArmEnvelopeRad
    armRawGain := FloatCast.narrow p.armRawGainRad
    alpha := FloatCast.narrow p.targetFilterAlpha
    handAlpha := FloatCast.narrow p.handTargetFilterAlpha
    maximumArmStep := FloatCast.narrow p.maximumArmTargetStepRad
    maximumHandStep := FloatCast.narrow p.maximumHandTargetStepRad }

def armPart (v : Vec 13 S) : Vec 7 S := fun i => v (i.castLE (by decide))

def handPart (v : Vec 13 S) : Vec 6 S := fun i => v (i.natAdd 7)

def reasonUnlessEqual {n : ℕ} (v w : Vec n S) (reason : String) : List String :=
  if v.arrayEqual w then [] else [reason]

def qdG015EffectiveArmGainRad : S := FloatArith.ofRat (6 / 100)

/-- The arm part of `V94ActionMapper.map`: the next target and the reasons for clipping it. -/
def V94ActionMapper.mapArm (m : V94ActionMapper S) (executed : Vec 13 S) (measured : Vec 7 S)
    (shaperQDRad : Option (Vec 7 S)) : Except PyError (Vec 7 S × List String) :=
  let previousArm := m.armTarget
  match m.frankaActionContractId with
  | .qdG015 => do
    let q ← match shaperQDRad with
      | none => throw (.valueError "q_d g015 Franka action mapping requires shaper_q_d_rad")
      | some q => pure q
    let shaperQD ← readonlyFloatVector q "shaper_q_d_rad"
    let nextArm : Vec 7 S := fun i =>
      shaperQD.1 i + qdG015EffectiveArmGainRad * armPart executed i
    let boundedArm : Vec 7 S := fun i =>
      npClip (nextArm i) (m.jointLimits.lower i) (m.jointLimits.upper i)
    return (boundedArm,
      reasonUnlessEqual boundedArm nextArm "Franka joint-limit interval clipped")
  | .legacy =>
    let rawArmTarget : Vec 7 S := fun i => previousArm i + m.armRawGain * armPart executed i
    let filteredArm : Vec 7 S := fun i =>
      m.alpha * rawArmTarget i + (FloatArith.one - m.alpha) * previousArm i
    let step : Vec 7 S := fun i => filteredArm i - previousArm i
    let armDelta : Vec 7 S := fun i => npClip (step i) (-m.maximumArmStep) m.maximumArmStep
    let nextArm : Vec 7 S := fun i => previousArm i + armDelta i
    let safeLower : Vec 7 S := fun i =>
      npMaximum (m.jointLimits.lower i) (measured i - m.measuredArmEnvelope)
    let safeUpper : Vec 7 S := fun i =>
      npMinimum (m.jointLimits.upper i) (measured i + m.measuredArmEnvelope)
    let boundedArm : Vec 7 S := fun i => npClip (nextArm i) (safeLower i) (safeUpper i)
    .ok (boundedArm,
      reasonUnlessEqual armDelta step "Franka per-tick target step clipped" ++
        reasonUnlessEqual boundedArm nextArm
          "Franka measured-q/joint-limit envelope clipped")

/-- The hand part of `V94ActionMapper.map`. -/
def V94ActionMapper.mapHand (m : V94ActionMapper S) (executed : Vec 13 S) :
    Vec 6 S × List String :=
  let half : S := FloatArith.ofRat (1 / 2)
  let fraction : Vec 6 S := fun i =>
    npClip ((handPart executed i + FloatArith.one) * half) FloatArith.zero FloatArith.one
  let rawHand : Vec 6 S := fun i => fraction i * m.qHandClose i
  let previousHand := m.handTarget
  let filteredHand : Vec 6 S := fun i =>
    m.handAlpha * rawHand i + (FloatArith.one - m.handAlpha) * previousHand i
  let step : Vec 6 S := fun i => filteredHand i - previousHand i
  let handDelta : Vec 6 S := fun i => npClip (step i) (-m.maximumHandStep) m.maximumHandStep
  let moved : Vec 6 S := fun i => previousHand i + handDelta i
  let nextHand : Vec 6 S := fun i => npClip (moved i) FloatArith.zero (m.qHandClose i)
  (nextHand,
    reasonUnlessEqual handDelta step "RH56 virtual target step clipped" ++
      reasonUnlessEqual nextHand moved "RH56 semantic joint limits clipped")

/-- `np.rint(v).astype(np.int32)` of one binary32 value. -/
def rintInt32 (x : S) : ℤ := astypeInt32 ((FloatArith.toRat? x).map rint)

/-- Integers as device registers, when all lie within `[0, 1000]`. -/
def registersOfInts (v : Vec 6 ℤ) : Option RegisterVector :=
  if v.any (fun k => k < 0 || 1000 < k) then none else some fun i => Fin.ofNat 1001 (v i).toNat

/-- **`V94ActionMapper.map`.** -/
def V94ActionMapper.map (m : V94ActionMapper S) (action13 : Vec 13 S) (measuredQRad : Vec 7 S)
    (shaperQDRad : Option (Vec 7 S)) (holdArmTarget : Bool) :
    Except PyError (V94MappedAction S) := do
  let raw ← readonlyFloatVector action13 "action13"
  let measured ← readonlyFloatVector measuredQRad "measured_q_rad"
  let clippedAction : Vec 13 S := fun i =>
    npClip (raw.1 i) (FloatArith.ofRat (-1)) FloatArith.one
  let clipReasons := reasonUnlessEqual clippedAction raw.1 "policy action clipped to [-1,1]"
  let armMoves := (armPart clippedAction).any fun x => !FloatArith.eqv x FloatArith.zero
  let holdReasons :=
    if holdArmTarget && armMoves then ["external hold gate zeroed Franka action"] else []
  let executed : Vec 13 S := fun i =>
    if holdArmTarget && decide (i.1 < 7) then FloatArith.zero else clippedAction i
  let (armTarget, armReasons) ← m.mapArm executed measured.1 shaperQDRad
  let (handTarget, handReasons) := m.mapHand executed
  let registerPolicyOrder : Vec 6 ℤ := fun i =>
    rintInt32 (FloatArith.ofRat 1000 * (FloatArith.one - handTarget i / m.qHandClose i))
  let reasons := clipReasons ++ holdReasons ++ armReasons ++ handReasons
  match registersOfInts (policyToRegisterOrder registerPolicyOrder) with
  | none => throw (.runtimeError "mapped RH56 register target is outside [0,1000]")
  | some registers =>
    return {
      rawPolicyAction13 := raw.1
      executedPolicyAction13 := executed
      frankaTargetQRad := armTarget
      rh56TargetQPolicyOrderRad := handTarget
      rh56AngleSetRegisterOrder := registers
      clipped := !reasons.isEmpty
      reasons
      holdArmTarget }

end FrankaDeploy.Contracts
