import FrankaDeploy.ClosedLoop.Ledger
import FrankaDeploy.Contracts.Actions

/-! # The rollback-safe action mapper

`TransactionalV94ActionMapper` of `closed_loop/mapper.py`. A proposal is computed from the
committed targets in a temporary mapper; only `commit` advances them. A proposal is identified by
the object that `propose` returned, modelled as a number that no other proposal of the mapper
has, so `self._pending is not proposal` compares numbers. -/

namespace FrankaDeploy.ClosedLoop

open FrankaDeploy.Foundation FrankaDeploy.Contracts
open scoped FloatArith

variable {D S : Type} [FloatArith D] [FloatArith S] [FloatCast D S]

/-- A `V94MappedAction` that went through `_immutable_mapped_action`. -/
structure ImmutableMappedAction (S : Type) [FloatArith S] where
  rawPolicyAction13 : FiniteVec 13 S
  executedPolicyAction13 : FiniteVec 13 S
  frankaTargetQRad : FiniteVec 7 S
  rh56TargetQPolicyOrderRad : FiniteVec 6 S
  rh56AngleSetRegisterOrder : RegisterVector
  clipped : Bool
  reasons : List String
  holdArmTarget : Bool

def immutableMappedAction (value : V94MappedAction S) :
    Except PyError (ImmutableMappedAction S) := do
  let raw ← readonlyFloatVector value.rawPolicyAction13 "raw_policy_action13"
  let executed ← readonlyFloatVector value.executedPolicyAction13 "executed_policy_action13"
  let arm ← readonlyFloatVector value.frankaTargetQRad "franka_target_q_rad"
  let hand ←
    readonlyFloatVector value.rh56TargetQPolicyOrderRad "rh56_target_q_policy_order_rad"
  return ⟨raw, executed, arm, hand, value.rh56AngleSetRegisterOrder, value.clipped,
    value.reasons, value.holdArmTarget⟩

/-- **`TransactionalV94ActionProposal`.** -/
structure TransactionalV94ActionProposal (S : Type) [FloatArith S] where
  ident : ℕ
  sequence : ℕ
  mapped : ImmutableMappedAction S
  priorArmTargetQRad : FiniteVec 7 S
  priorHandTargetQPolicyOrderRad : FiniteVec 6 S
  armTargetRateRadS : FiniteVec 7 S
  handTargetRateRadS : FiniteVec 6 S

/-- The constants that `__init__` stores. -/
structure MapperConfig (D S : Type) [FloatArith S] where
  controlDtS : D
  frankaActionContractId : FrankaActionContract
  jointLimitsF64 : JointLimits D
  jointLimits : JointLimits S
  roundedJointLimits : JointLimits S
  qHandClose : FiniteVec 6 S
  maximumArmRate : Option (Vec 7 D)
  maximumHandRate : Option (Vec 6 D)
  mapperParameters : MapperParameters D

/-- **The state of `TransactionalV94ActionMapper`.** -/
structure TransactionalV94ActionMapper (D S : Type) [FloatArith S] where
  config : MapperConfig D S
  armTarget : FiniteVec 7 S
  handTarget : FiniteVec 6 S
  lastCommittedSequence : ℕ
  pending : Option (TransactionalV94ActionProposal S)
  faultReason : Option String
  nextIdent : ℕ

inductive ProposalFailure where
  /-- An exception passes through and the mapper stays healthy. -/
  | raised (error : PyError)
  | fault (reason : String)

/-- The arguments of `propose` after the sequence. -/
structure ProposeArguments (S : Type) where
  action13 : Vec 13 S
  measuredQRad : Vec 7 S
  shaperQDRad : Option (Vec 7 S)
  holdArmTarget : Bool

/-- The arguments of `propose_exact_targets` after the sequence. -/
structure ExactArguments (D S : Type) where
  action13 : Vec 13 S
  frankaTargetQRad : Vec 7 S
  rh56AngleSetRegisterOrder : Vec 6 D
  measuredQRad : Vec 7 S
  holdArmTarget : Bool

/-- `ExactArguments` after the validation that precedes the lock. -/
structure CheckedExactArguments (S : Type) [FloatArith S] where
  rawAction : FiniteVec 13 S
  requestedArm : FiniteVec 7 S
  registers : RegisterVector
  holdArmTarget : Bool

/-- The validation at the head of `propose_exact_targets`. -/
def ExactArguments.check (a : ExactArguments D S) : Except PyError (CheckedExactArguments S) := do
  let raw ← readonlyFloatVector a.action13 "action13"
  if !withinUnit raw.1 then
    throw (.valueError "exact replay action13 must lie in [-1,1]")
  let requested ← readonlyFloatVector a.frankaTargetQRad "exact franka_target_q_rad"
  let _measured ← readonlyFloatVector a.measuredQRad "measured_q_rad"
  let registers ←
    readonlyRegisterVector a.rh56AngleSetRegisterOrder "exact rh56_angle_set_register_order"
  return ⟨raw, requested, registers, a.holdArmTarget⟩

namespace TransactionalV94ActionMapper

def fresh (config : MapperConfig D S) (arm : FiniteVec 7 S) (hand : FiniteVec 6 S) :
    TransactionalV94ActionMapper D S := ⟨config, arm, hand, 0, none, none, 0⟩

variable (M : TransactionalV94ActionMapper D S)

/-! ## Internal helpers -/

omit [FloatArith D] [FloatCast D S] in
/-- `_fault_locked`: the first reason is kept. -/
def faultLocked (reason : String) : TransactionalV94ActionMapper D S :=
  { M with
    faultReason := some (M.faultReason.getD (strippedOr reason "unspecified mapper fault")) }

def requireHealthyLocked : Except PyError Unit :=
  match M.faultReason with
  | some reason =>
    .error (.runtimeError s!"transactional action mapper fault is latched: {reason}")
  | none => .ok ()

def faultAndRaise {α : Type} (reason : String) :
    TransactionalV94ActionMapper D S × Except PyError α :=
  (M.faultLocked reason, .error (.runtimeError reason))

/-- `_rate_violation`: the first axis above its commissioned rate, with a tolerance. -/
def rateViolation {n : ℕ} (actual : Vec n D) (maximum : Option (Vec n D)) (label : String) :
    Option String :=
  match maximum with
  | none => none
  | some maximum =>
    let tolerance : D := FloatArith.ofRat (1 / 10000000)
    ((List.finRange n).find? fun i =>
      decide (maximum i + tolerance < FloatArith.abs (actual i))).map fun i =>
        s!"{label} target rate exceeds commissioned limit at axis {i.1 + 1}: " ++
          s!"actual={FloatArith.fixedText 9 (FloatArith.abs (actual i))}rad/s, " ++
          s!"limit={FloatArith.fixedText 9 (maximum i)}rad/s"

/-- `(next - prior) / control_dt_s`, in binary64. -/
def targetRate {n : ℕ} (next prior : Vec n S) : Vec n D := fun i =>
  ((FloatCast.widen (next i) : D) - FloatCast.widen (prior i)) / M.config.controlDtS

def proposalOf (sequence : ℕ) (mapped : V94MappedAction S) (armRate : Vec 7 D)
    (handRate : Vec 6 D) : Except PyError (TransactionalV94ActionProposal S) := do
  let mapped ← immutableMappedAction mapped
  let armRate ←
    readonlyFloatVector (fun i => (FloatCast.narrow (armRate i) : S)) "arm_target_rate_rad_s"
  let handRate ←
    readonlyFloatVector (fun i => (FloatCast.narrow (handRate i) : S)) "hand_target_rate_rad_s"
  return ⟨M.nextIdent, sequence, mapped, M.armTarget, M.handTarget, armRate, handRate⟩

/-- The shaper state that `propose` hands to the temporary mapper. -/
def checkedShaperQD (shaperQDRad : Option (Vec 7 S)) : Except String (Option (Vec 7 S)) :=
  match M.config.frankaActionContractId with
  | .legacy => .ok none
  | .qdG015 =>
    match shaperQDRad with
    | none => .error "q_d g015 Franka action proposal requires shaper_q_d_rad"
    | some q =>
      match readonlyFloatVector q "shaper_q_d_rad" with
      | .error e => .error s!"invalid q_d g015 shaper state: {e.message}"
      | .ok q => .ok (some q.1)

def temporaryMapper : Except PyError (V94ActionMapper S) :=
  V94ActionMapper.init M.armTarget.1 M.handTarget.1
    (⟨fun i => FloatCast.widen (M.config.jointLimits.lower i),
      fun i => FloatCast.widen (M.config.jointLimits.upper i)⟩ : JointLimits D)
    M.config.qHandClose.1 M.config.mapperParameters M.config.frankaActionContractId

/-- **What `propose` computes** from the committed targets, once the sequence is accepted. -/
def buildProposal (sequence : ℕ) (a : ProposeArguments S) :
    Except ProposalFailure (TransactionalV94ActionProposal S) :=
  match M.checkedShaperQD a.shaperQDRad with
  | .error reason => .error (.fault reason)
  | .ok qD =>
    match M.temporaryMapper >>= fun temporary =>
        temporary.map a.action13 a.measuredQRad qD a.holdArmTarget with
    | .error e => .error (.raised e)
    | .ok mapped =>
      let armRate : Vec 7 D := M.targetRate mapped.frankaTargetQRad M.armTarget.1
      let handRate : Vec 6 D :=
        M.targetRate mapped.rh56TargetQPolicyOrderRad M.handTarget.1
      let armViolation :=
        match M.config.frankaActionContractId with
        | .legacy => rateViolation armRate M.config.maximumArmRate "Franka"
        | .qdG015 => none
      match armViolation.or (rateViolation handRate M.config.maximumHandRate "RH56") with
      | some violation => .error (.fault violation)
      | none =>
        match M.proposalOf sequence mapped armRate handRate with
        | .error e => .error (.raised e)
        | .ok proposal => .ok proposal

/-- The arm target of an exact replay: a requested endpoint that binary32 rounding put outside the
binary64 interval is replaced by the inward one. The flag tells whether that happened. -/
def canonicalArm (requested : Vec 7 S) : Vec 7 S × Bool :=
  let c := M.config
  let useLower : Fin 7 → Bool := fun i =>
    decide ((FloatCast.widen (c.roundedJointLimits.lower i) : D) < c.jointLimitsF64.lower i) &&
      FloatArith.eqv (requested i) (c.roundedJointLimits.lower i)
  let useUpper : Fin 7 → Bool := fun i =>
    decide (c.jointLimitsF64.upper i < (FloatCast.widen (c.roundedJointLimits.upper i) : D)) &&
      FloatArith.eqv (requested i) (c.roundedJointLimits.upper i)
  (fun i =>
      if useUpper i then c.jointLimits.upper i
      else if useLower i then c.jointLimits.lower i else requested i,
    (List.finRange 7).any fun i => useLower i || useUpper i)

/-- **What `propose_exact_targets` computes** once the sequence is accepted. -/
def buildExactProposal (sequence : ℕ) (a : CheckedExactArguments S) :
    Except ProposalFailure (TransactionalV94ActionProposal S) :=
  let (nextArm, boundaryCanonicalized) :=
    if a.holdArmTarget then (M.armTarget.1, false) else M.canonicalArm a.requestedArm.1
  if M.config.jointLimits.excludes nextArm then
    .error (.fault "exact Franka replay target is outside joint limits")
  else
    let registerPolicy := registerOrderToPolicyOrder a.registers
    let nextHand : Vec 6 S := fun i =>
      M.config.qHandClose.1 i *
        (FloatArith.one - FloatArith.ofRat (registerPolicy i).1 / FloatArith.ofRat 1000)
    let reasons :=
      (if a.holdArmTarget then ["external hold gate held exact Franka replay target"] else []) ++
        if boundaryCanonicalized then ["Franka float32 boundary canonicalized inward"] else []
    let mapped : V94MappedAction S := {
      rawPolicyAction13 := a.rawAction.1
      executedPolicyAction13 := a.rawAction.1
      frankaTargetQRad := nextArm
      rh56TargetQPolicyOrderRad := nextHand
      rh56AngleSetRegisterOrder := a.registers
      clipped := !reasons.isEmpty
      reasons
      holdArmTarget := a.holdArmTarget }
    match M.proposalOf sequence mapped (M.targetRate nextArm M.armTarget.1)
        (M.targetRate nextHand M.handTarget.1) with
    | .error e => .error (.raised e)
    | .ok proposal => .ok proposal

/-! ## The methods -/

/-- The part that `propose` and `propose_exact_targets` share: health, the empty slot, the expected
sequence, then the proposal that `build` computes. -/
def proposeLocked (sequence : ℕ)
    (build : Except ProposalFailure (TransactionalV94ActionProposal S)) :
    TransactionalV94ActionMapper D S × Except PyError (TransactionalV94ActionProposal S) :=
  match M.requireHealthyLocked with
  | .error e => (M, .error e)
  | .ok () =>
    if M.pending.isSome then
      M.faultAndRaise "cannot propose while another mapper proposal is pending"
    else if sequence ≠ M.lastCommittedSequence + 1 then
      M.faultAndRaise ("mapper proposal sequence mismatch: " ++
        s!"expected={M.lastCommittedSequence + 1}, actual={sequence}")
    else
      match build with
      | .error (.raised e) => (M, .error e)
      | .error (.fault reason) => M.faultAndRaise reason
      | .ok proposal =>
        ({ M with pending := some proposal, nextIdent := M.nextIdent + 1 }, .ok proposal)

def propose (sequence : ℤ) (a : ProposeArguments S) :
    TransactionalV94ActionMapper D S × Except PyError (TransactionalV94ActionProposal S) :=
  match positiveInteger D sequence "proposal sequence" with
  | .error e => (M, .error e)
  | .ok proposalSequence =>
    M.proposeLocked proposalSequence.1 (M.buildProposal proposalSequence.1 a)

def proposeExactTargets (sequence : ℤ) (a : ExactArguments D S) :
    TransactionalV94ActionMapper D S × Except PyError (TransactionalV94ActionProposal S) :=
  match positiveInteger D sequence "proposal sequence", a.check with
  | .error e, _ => (M, .error e)
  | .ok _, .error e => (M, .error e)
  | .ok proposalSequence, .ok checked =>
    M.proposeLocked proposalSequence.1 (M.buildExactProposal proposalSequence.1 checked)

def discardUnstaged (proposal : ℕ) : TransactionalV94ActionMapper D S × Except PyError Unit :=
  match M.requireHealthyLocked with
  | .error e => (M, .error e)
  | .ok () =>
    if !M.pending.any (fun p => p.ident = proposal) then
      M.faultAndRaise "only the exact pending mapper proposal can be discarded"
    else ({ M with pending := none }, .ok ())

/-- The locked section of `commit`, which follows the reading of the ledger's snapshot. Past the
identity check the argument is the pending proposal itself. -/
def commitLocked (proposal : ℕ) (committed : ExecutedActionCommit S) :
    TransactionalV94ActionMapper D S × Except PyError Unit :=
  match M.requireHealthyLocked, M.pending with
  | .error e, _ => (M, .error e)
  | .ok (), none =>
    M.faultAndRaise "mapper commit did not receive the exact pending proposal"
  | .ok (), some pending =>
    if pending.ident ≠ proposal then
      M.faultAndRaise "mapper commit did not receive the exact pending proposal"
    else if pending.sequence ≠ M.lastCommittedSequence + 1 then
      M.faultAndRaise "pending mapper proposal sequence changed before commit"
    else if committed.sequence ≠ pending.sequence then
      -- this one raises without latching a fault
      (M, .error (.runtimeError
        "mapper proposal has not been dual-acknowledged by the ledger"))
    else if !committed.executedPolicyAction13.1.arrayEqual
        pending.mapped.executedPolicyAction13.1 then
      M.faultAndRaise "ledger committed a different action for this mapper sequence"
    else if !M.armTarget.1.arrayEqual pending.priorArmTargetQRad.1 ||
        !M.handTarget.1.arrayEqual pending.priorHandTargetQPolicyOrderRad.1 then
      M.faultAndRaise "mapper committed targets changed after proposal"
    else
      match readonlyFloatVector pending.mapped.frankaTargetQRad.1
          "committed franka_target_q_rad",
        readonlyFloatVector pending.mapped.rh56TargetQPolicyOrderRad.1
          "committed rh56_target_q_policy_order_rad" with
      | .error e, _ => (M, .error e)
      | .ok arm, .error e => ({ M with armTarget := arm }, .error e)
      | .ok arm, .ok hand =>
        ({ M with
            armTarget := arm
            handTarget := hand
            lastCommittedSequence := pending.sequence
            pending := none }, .ok ())

end TransactionalV94ActionMapper

end FrankaDeploy.ClosedLoop
