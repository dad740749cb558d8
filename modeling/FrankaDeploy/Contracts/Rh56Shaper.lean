import FrankaDeploy.Contracts.Actions

/-! # The hand's hardware-rate shaper

`TransactionalRH56HardwareCommandShaper` of `contracts/actions.py`: hand targets arrive at the
policy rate and are released at the hardware rate, with a bounded step per release. A proposal is
identified by the object that `propose` returned, modelled as a number that no other proposal of
the shaper has. -/

namespace FrankaDeploy.Contracts

open FrankaDeploy.Foundation FrankaDeploy.ClosedLoop

def registerInts (registers : RegisterVector) : Vec 6 ℤ := fun i => (registers i : ℕ)

def clipInt (x lower upper : ℤ) : ℤ := min (max x lower) upper

/-- **`RH56HardwareCommandProposal`**: one rollback-safe device target. -/
structure RH56HardwareCommandProposal where
  ident : ℕ
  sequence : ℕ
  desired : RegisterVector
  boundedDesired : RegisterVector
  angleSetRegisterOrder : RegisterVector
  priorAngleSetRegisterOrder : RegisterVector
  hardwareUpdateDue : Bool
deriving DecidableEq

/-- The constants that `__init__` validated. -/
structure ShaperConfig where
  policyTicksPerHardwareUpdate : ℕ
  maximumRegisterDeltaPerUpdate : RegisterVector
  minimumAngleSetRegisterOrder : RegisterVector
  maximumAngleSetRegisterOrder : RegisterVector
  divider_pos : 0 < policyTicksPerHardwareUpdate
  delta_pos : ∀ i, 0 < (maximumRegisterDeltaPerUpdate i).1
  bounds_lt : ∀ i, minimumAngleSetRegisterOrder i < maximumAngleSetRegisterOrder i

/-- **The state of `TransactionalRH56HardwareCommandShaper`.** -/
structure RH56Shaper where
  config : ShaperConfig
  target : RegisterVector
  lastCommittedSequence : ℕ
  pending : Option RH56HardwareCommandProposal
  faultReason : Option String
  nextIdent : ℕ

namespace RH56Shaper

variable (H : RH56Shaper)

/-- `_fault_locked`: the first reason is kept. -/
def faultLocked (reason : String) : RH56Shaper :=
  { H with
    faultReason := some (H.faultReason.getD (strippedOr reason "unspecified RH56 shaper fault")) }

def requireHealthyLocked : Except PyError Unit :=
  match H.faultReason with
  | some reason =>
    .error (.runtimeError s!"RH56 hardware command shaper fault is latched: {reason}")
  | none => .ok ()

def faultAndRaise {α : Type} (reason : String) : RH56Shaper × Except PyError α :=
  (H.faultLocked reason, .error (.runtimeError ((H.faultLocked reason).faultReason.getD "")))

/-- Whether `proposal` is the pending object. -/
def isPending (proposal : ℕ) : Bool := H.pending.any fun p => p.ident = proposal

/-- The device target of a proposal: on a due tick the step towards the bounded target, limited
per register. -/
def nextTarget (bounded : Vec 6 ℤ) (due : Bool) : Vec 6 ℤ := fun i =>
  let prior := registerInts H.target i
  if due then
    let delta : ℤ := (H.config.maximumRegisterDeltaPerUpdate i).1
    prior + clipInt (bounded i - prior) (-delta) delta
  else prior

def propose {D : Type} [FloatArith D] (sequence : ℤ) (desiredAngleSetRegisterOrder : Vec 6 D) :
    RH56Shaper × Except PyError RH56HardwareCommandProposal :=
  match H.requireHealthyLocked with
  | .error e => (H, .error e)
  | .ok () =>
    if H.pending.isSome then
      H.faultAndRaise "cannot propose while another RH56 hardware target is pending"
    else if sequence ≠ H.lastCommittedSequence + 1 then
      H.faultAndRaise ("RH56 hardware proposal sequence mismatch: " ++
        s!"expected={H.lastCommittedSequence + 1}, actual={sequence}")
    else
      match readonlyRegisterVector desiredAngleSetRegisterOrder
          "desired_angle_set_register_order" with
      | .error e => (H, .error e)
      | .ok desired =>
        let bounded : Vec 6 ℤ := fun i =>
          clipInt (registerInts desired i)
            (registerInts H.config.minimumAngleSetRegisterOrder i)
            (registerInts H.config.maximumAngleSetRegisterOrder i)
        let proposalSequence := H.lastCommittedSequence + 1
        let due := decide ((proposalSequence - 1) % H.config.policyTicksPerHardwareUpdate = 0)
        match registersOfInts bounded, registersOfInts (H.nextTarget bounded due) with
        | none, _ =>
          (H, .error (.valueError
            "bounded_desired_angle_set_register_order must lie in [0,1000]"))
        | some _, none =>
          (H, .error (.valueError "angle_set_register_order must lie in [0,1000]"))
        | some boundedRegisters, some target =>
          let proposal : RH56HardwareCommandProposal :=
            ⟨H.nextIdent, proposalSequence, desired, boundedRegisters, target,
              H.target, due⟩
          ({ H with pending := some proposal, nextIdent := H.nextIdent + 1 }, .ok proposal)

def discardUnstaged (proposal : ℕ) : RH56Shaper × Except PyError Unit :=
  match H.requireHealthyLocked with
  | .error e => (H, .error e)
  | .ok () =>
    if !H.isPending proposal then
      H.faultAndRaise "only the exact pending RH56 hardware proposal can be discarded"
    else ({ H with pending := none }, .ok ())

/-- `commit`. Past the identity check the argument is the pending proposal itself. -/
def commit (proposal : ℕ) : RH56Shaper × Except PyError Unit :=
  match H.requireHealthyLocked, H.pending with
  | .error e, _ => (H, .error e)
  | .ok (), none =>
    H.faultAndRaise "RH56 hardware commit did not receive the pending proposal"
  | .ok (), some pending =>
    if pending.ident ≠ proposal then
      H.faultAndRaise "RH56 hardware commit did not receive the pending proposal"
    else if pending.sequence ≠ H.lastCommittedSequence + 1 then
      H.faultAndRaise "RH56 hardware proposal sequence changed before commit"
    else if H.target ≠ pending.priorAngleSetRegisterOrder then
      H.faultAndRaise "RH56 committed hardware target changed after proposal"
    else
      ({ H with
          target := pending.angleSetRegisterOrder
          lastCommittedSequence := pending.sequence
          pending := none }, .ok ())

/-- `abort`, which needs no health check and always latches a fault. -/
def abort (proposal : ℕ) (reason : String) : RH56Shaper × Except PyError Unit :=
  let detail := strippedOr reason "unspecified RH56 hardware proposal abort"
  if !H.isPending proposal then
    H.faultAndRaise ("RH56 hardware abort did not receive the pending proposal: " ++ detail)
  else ({ H.faultLocked detail with pending := none }, .ok ())

end RH56Shaper

end FrankaDeploy.Contracts
