import FrankaDeploy.Contracts.Rh56Shaper
import FrankaDeploy.Foundation.BoundedApproach
import FrankaDeploy.Foundation.Machine

/-! # Runs of the hand's shaper

The constructor of `TransactionalRH56HardwareCommandShaper` and the shaper as a machine whose events
are the proposals that it commits. A step of the machine leaves the committed target alone or
commits the pending proposal (`step_cases`), and a pending proposal is always the one that `propose`
made from the committed target (`Calibrated`). -/

namespace FrankaDeploy.Contracts

open FrankaDeploy.Foundation FrankaDeploy.ClosedLoop
open scoped FloatArith

namespace RH56Shaper

variable {D : Type} [FloatArith D]

/-! ## The constructor -/

/-- `math.isclose(x, y, rel_tol=0.0, abs_tol=1.0e-12)` of finite numbers. -/
def isClose (x y : D) : Bool :=
  FloatArith.eqv x y ||
    decide (FloatArith.abs (y - x) ≤ (FloatArith.ofRat (1 / 10 ^ 12) : D))

/-- Rates that pass the check of their ratio give at least one tick. -/
theorem toNat_pos_of_not {rounded : ℤ} {p : Prop} (h : ¬(rounded < 1 ∨ p)) : 0 < rounded.toNat := by
  rw [not_or] at h
  omega

def divider (policyRateHz hardwareRateHz : D) : Except PyError {n : ℕ // 0 < n} :=
  if !(FloatArith.isFinite policyRateHz && FloatArith.isFinite hardwareRateHz) ||
      decide (policyRateHz ≤ FloatArith.zero) || decide (hardwareRateHz ≤ FloatArith.zero) ||
      decide (policyRateHz < hardwareRateHz) then
    .error (.valueError "RH56 policy/hardware rates must be positive and ordered")
  else
    let ratio := policyRateHz / hardwareRateHz
    match FloatArith.toRat? ratio with
    | none => .error (.overflowError "cannot convert float infinity to integer")
    | some exactRatio =>
      let rounded := rint exactRatio
      if h : rounded < 1 ∨ isClose ratio (FloatArith.ofRat rounded) = false then
        .error (.valueError "RH56 hardware rate must divide the policy rate exactly")
      else .ok ⟨rounded.toNat, toNat_pos_of_not h⟩

def InBounds (config : ShaperConfig) (target : RegisterVector) : Prop :=
  ∀ i, config.minimumAngleSetRegisterOrder i ≤ target i ∧
    target i ≤ config.maximumAngleSetRegisterOrder i

instance (config : ShaperConfig) (target : RegisterVector) : Decidable (InBounds config target) :=
  inferInstanceAs (Decidable (∀ i, config.minimumAngleSetRegisterOrder i ≤ target i ∧
    target i ≤ config.maximumAngleSetRegisterOrder i))

theorem ticks_pos (ticks : {n : ℕ // 0 < n}) : 0 < ticks.1 := ticks.2

def makeConfig (policyRateHz hardwareRateHz : D)
    (maximumRegisterDeltaPerUpdate minimumAngleSetRegisterOrder
      maximumAngleSetRegisterOrder : Vec 6 D) : Except PyError ShaperConfig := do
  let ticks ← divider policyRateHz hardwareRateHz
  let maximumDelta ← readonlyRegisterVector maximumRegisterDeltaPerUpdate
    "maximum_register_delta_per_update"
  if hdelta : ∀ i, 0 < (maximumDelta i).1 then
    let lower ← readonlyRegisterVector minimumAngleSetRegisterOrder
      "minimum_angle_set_register_order"
    let upper ← readonlyRegisterVector maximumAngleSetRegisterOrder
      "maximum_angle_set_register_order"
    if hbounds : ∀ i, lower i < upper i then
      return ⟨ticks.1, maximumDelta, lower, upper, ticks_pos ticks, hdelta, hbounds⟩
    else throw (.valueError "RH56 hardware command intervals are invalid")
  else throw (.valueError "maximum_register_delta_per_update must be positive")

/-- **`__init__`.** -/
def init (initialAngleSetRegisterOrder : Vec 6 D) (policyRateHz hardwareRateHz : D)
    (maximumRegisterDeltaPerUpdate minimumAngleSetRegisterOrder
      maximumAngleSetRegisterOrder : Vec 6 D) : Except PyError RH56Shaper := do
  let config ← makeConfig policyRateHz hardwareRateHz maximumRegisterDeltaPerUpdate
    minimumAngleSetRegisterOrder maximumAngleSetRegisterOrder
  let initial ← readonlyRegisterVector initialAngleSetRegisterOrder
    "initial_angle_set_register_order"
  if InBounds config initial then
    return ⟨config, initial, 0, none, none, 0⟩
  else throw (.valueError "initial RH56 hardware target is outside the calibrated interval")

/-! ## The machine -/

/-- **A call of a method.** -/
inductive ShaperCall (D : Type) where
  | propose (sequence : ℤ) (desired : Vec 6 D)
  | discardUnstaged (proposal : ℕ)
  | commit (proposal : ℕ)
  | abort (proposal : ℕ) (reason : String)

def step (H : RH56Shaper) : ShaperCall D → RH56Shaper × List RH56HardwareCommandProposal
  | .propose sequence desired => ((H.propose sequence desired).1, [])
  | .discardUnstaged proposal => ((H.discardUnstaged proposal).1, [])
  | .commit proposal =>
    match H.commit proposal with
    | (H', .ok ()) => (H', H.pending.toList)
    | (H', .error _) => (H', [])
  | .abort proposal reason => ((H.abort proposal reason).1, [])

variable (D) in
/-- **A shaper** as a machine: its events are the committed proposals. -/
def machine : Machine RH56Shaper (ShaperCall D) RH56HardwareCommandProposal where
  step := step

/-! ## What a call does -/

def boundedDesired (config : ShaperConfig) (desired : RegisterVector) : Vec 6 ℤ := fun i =>
  clipInt (registerInts desired i) (registerInts config.minimumAngleSetRegisterOrder i)
    (registerInts config.maximumAngleSetRegisterOrder i)

def maximumDelta (config : ShaperConfig) (i : Fin 6) : ℤ :=
  (config.maximumRegisterDeltaPerUpdate i).1

/-- **What `propose` makes of the committed state** and a desired target. -/
structure ProposalOf (H : RH56Shaper) (desired : Vec 6 D) (p : RH56HardwareCommandProposal) :
    Prop where
  desired : readonlyRegisterVector desired "desired_angle_set_register_order" = .ok p.desired
  sequence : p.sequence = H.lastCommittedSequence + 1
  prior : p.priorAngleSetRegisterOrder = H.target
  due : p.hardwareUpdateDue =
    decide ((p.sequence - 1) % H.config.policyTicksPerHardwareUpdate = 0)
  target : ∀ i, registerInts p.angleSetRegisterOrder i =
    if p.hardwareUpdateDue then
      approach (registerInts H.target i) (boundedDesired H.config p.desired i)
        (maximumDelta H.config i)
    else registerInts H.target i

theorem registerInts_of_registersOfInts {v : Vec 6 ℤ} {registers : RegisterVector}
    (h : registersOfInts v = some registers) (i : Fin 6) : registerInts registers i = v i := by
  unfold registersOfInts at h
  by_cases hany : v.any (fun k => k < 0 || 1000 < k) = true
  · rw [if_pos hany] at h
    cases h
  · rw [if_neg hany] at h
    cases h
    have hrange : ¬(v i < 0 ∨ 1000 < v i) := by
      intro hbad
      refine hany (List.any_eq_true.mpr ⟨i, List.mem_finRange i, ?_⟩)
      simpa using hbad
    have hlt : (v i).toNat < 1001 := by omega
    show ((Fin.ofNat 1001 (v i).toNat : ℕ) : ℤ) = v i
    rw [Fin.val_ofNat, Nat.mod_eq_of_lt hlt]
    omega

/-- **What stays**: the constants and everything committed. -/
structure Kept (H H' : RH56Shaper) : Prop where
  config : H'.config = H.config
  target : H'.target = H.target
  lastCommittedSequence : H'.lastCommittedSequence = H.lastCommittedSequence

theorem kept_refl (H : RH56Shaper) : Kept H H := ⟨rfl, rfl, rfl⟩

/-- **`propose`** keeps what is committed, and what it leaves pending is its proposal. -/
theorem propose_cases (H : RH56Shaper) (sequence : ℤ) (desired : Vec 6 D) :
    Kept H (H.propose sequence desired).1 ∧
      ((H.propose sequence desired).1.pending = H.pending ∨
        ∃ p, (H.propose sequence desired).1.pending = some p ∧ ProposalOf H desired p) := by
  unfold propose
  cases H.requireHealthyLocked with
  | error e => exact ⟨kept_refl H, .inl rfl⟩
  | ok _ =>
    dsimp only
    by_cases hpending : H.pending.isSome = true
    · rw [if_pos hpending]
      exact ⟨⟨rfl, rfl, rfl⟩, .inl rfl⟩
    rw [if_neg hpending]
    by_cases hsequence : sequence ≠ H.lastCommittedSequence + 1
    · rw [if_pos hsequence]
      exact ⟨⟨rfl, rfl, rfl⟩, .inl rfl⟩
    rw [if_neg hsequence]
    cases hdesired : readonlyRegisterVector desired "desired_angle_set_register_order" with
    | error e => exact ⟨kept_refl H, .inl rfl⟩
    | ok registers =>
      dsimp only
      cases hbounded : registersOfInts fun i => clipInt (registerInts registers i)
          (registerInts H.config.minimumAngleSetRegisterOrder i)
          (registerInts H.config.maximumAngleSetRegisterOrder i) with
      | none => exact ⟨kept_refl H, .inl rfl⟩
      | some boundedRegisters =>
        cases htarget : registersOfInts (H.nextTarget
            (fun i => clipInt (registerInts registers i)
              (registerInts H.config.minimumAngleSetRegisterOrder i)
              (registerInts H.config.maximumAngleSetRegisterOrder i))
            (decide ((H.lastCommittedSequence + 1 - 1) %
              H.config.policyTicksPerHardwareUpdate = 0))) with
        | none => exact ⟨kept_refl H, .inl rfl⟩
        | some target =>
          refine ⟨⟨rfl, rfl, rfl⟩, .inr ⟨_, rfl, hdesired, rfl, rfl, rfl, ?_⟩⟩
          intro i
          exact registerInts_of_registersOfInts htarget i

/-- **A step of the machine**: it keeps what is committed, or it commits the pending proposal. -/
theorem step_cases (H : RH56Shaper) (call : ShaperCall D) :
    (Kept H (H.step call).1 ∧ (H.step call).2 = [] ∧
      ((H.step call).1.pending = H.pending ∨ (H.step call).1.pending = none ∨
        ∃ sequence desired p, call = .propose sequence desired ∧
          (H.step call).1.pending = some p ∧ ProposalOf H desired p)) ∨
    ∃ p proposal, call = .commit proposal ∧ H.pending = some p ∧
      p.sequence = H.lastCommittedSequence + 1 ∧
      (H.step call).1 = { H with
        target := p.angleSetRegisterOrder
        lastCommittedSequence := p.sequence
        pending := none } ∧
      (H.step call).2 = [p] := by
  cases call with
  | propose sequence desired =>
    obtain ⟨hkept, hpending⟩ := H.propose_cases sequence desired
    refine .inl ⟨hkept, rfl, ?_⟩
    rcases hpending with hsame | ⟨p, hp, hproposal⟩
    · exact .inl hsame
    · exact .inr (.inr ⟨sequence, desired, p, rfl, hp, hproposal⟩)
  | discardUnstaged proposal =>
    left
    show Kept H (H.discardUnstaged proposal).1 ∧ _ ∧ _
    unfold step discardUnstaged
    cases H.requireHealthyLocked with
    | error e => exact ⟨kept_refl H, rfl, .inl rfl⟩
    | ok _ =>
      dsimp only
      by_cases hother : (!H.isPending proposal) = true
      · rw [if_pos hother]
        exact ⟨⟨rfl, rfl, rfl⟩, rfl, .inl rfl⟩
      · rw [if_neg hother]
        exact ⟨⟨rfl, rfl, rfl⟩, rfl, .inr (.inl rfl)⟩
  | abort proposal reason =>
    left
    unfold step abort
    dsimp only
    by_cases hother : (!H.isPending proposal) = true
    · rw [if_pos hother]
      exact ⟨⟨rfl, rfl, rfl⟩, rfl, .inl rfl⟩
    · rw [if_neg hother]
      exact ⟨⟨rfl, rfl, rfl⟩, rfl, .inr (.inl rfl)⟩
  | commit proposal =>
    unfold step commit
    cases H.requireHealthyLocked with
    | error e => exact .inl ⟨kept_refl H, rfl, .inl rfl⟩
    | ok _ =>
      cases hpending : H.pending with
      | none => exact .inl ⟨⟨rfl, rfl, rfl⟩, rfl, .inl hpending⟩
      | some p =>
        dsimp only
        by_cases hident : p.ident ≠ proposal
        · rw [if_pos hident]
          exact .inl ⟨⟨rfl, rfl, rfl⟩, rfl, .inl hpending⟩
        rw [if_neg hident]
        by_cases hsequence : p.sequence ≠ H.lastCommittedSequence + 1
        · rw [if_pos hsequence]
          exact .inl ⟨⟨rfl, rfl, rfl⟩, rfl, .inl hpending⟩
        rw [if_neg hsequence]
        by_cases hprior : H.target ≠ p.priorAngleSetRegisterOrder
        · rw [if_pos hprior]
          exact .inl ⟨⟨rfl, rfl, rfl⟩, rfl, .inl hpending⟩
        rw [if_neg hprior]
        exact .inr ⟨p, proposal, rfl, rfl, not_not.mp hsequence, rfl, rfl⟩

end RH56Shaper

end FrankaDeploy.Contracts
