import FrankaDeploy.ClosedLoop.Mapper
import FrankaDeploy.Foundation.ExactArith
import Mathlib.Data.Fin.VecNotation

/-! # Mapped targets and the joint limits

The mapping of one action with its floats read as exact numbers. The hand target and its registers
are always within their ranges. The arm target of the legacy contract passes the clip to the
envelope around the measured position last, and `np.clip` lets the upper bound win when the bounds
cross, so the joint limits hold for it exactly while the envelope meets them. -/

namespace FrankaDeploy.Contracts

open FrankaDeploy.Foundation FrankaDeploy.ClosedLoop
open scoped FloatArith

/-! ## What the constructor guarantees -/

/-- **A constructed mapper**: its limits come from the configured ones, its closed positions are
positive, and its envelope is the parameter. -/
structure V94ActionMapper.Configured (limits : JointLimits ℚ) (close : Vec 6 ℚ)
    (parameters : MapperParameters ℚ) (contract : FrankaActionContract) (m : V94ActionMapper ℚ) :
    Prop where
  contractId : m.frankaActionContractId = contract
  jointLimits : m.jointLimits = limits
  ordered : ∀ i, limits.lower i < limits.upper i
  qHandClose : m.qHandClose = close
  close_pos : ∀ i, 0 < close i
  envelope : m.measuredArmEnvelope = parameters.measuredArmEnvelopeRad

theorem lt_of_unordered_eq_false {limits : JointLimits ℚ} (h : ¬limits.unordered = true)
    (i : Fin 7) : limits.lower i < limits.upper i := by
  by_contra hle
  refine h (List.any_eq_true.mpr ⟨i, List.mem_finRange i, ?_⟩)
  show decide (decide (limits.upper i ≤ limits.lower i) = true) = true
  simpa using hle

theorem jointLimits_ext {a b : JointLimits ℚ} (hlower : a.lower = b.lower)
    (hupper : a.upper = b.upper) : a = b := by
  cases a
  cases b
  dsimp only at hlower hupper
  rw [hlower, hupper]

theorem contractedJointLimitsFloat64_exact {source contracted : JointLimits ℚ}
    (h : contractedJointLimitsFloat64 source FloatArith.zero = .ok contracted) :
    contracted = source ∧ ∀ i, source.lower i < source.upper i := by
  unfold contractedJointLimitsFloat64 at h
  dsimp only at h
  obtain ⟨-, h⟩ := ok_of_guard h
  obtain ⟨hordered, h⟩ := ok_of_guard h
  obtain ⟨-, h⟩ := ok_of_guard h
  obtain ⟨-, h⟩ := ok_of_guard h
  cases h
  refine ⟨?_, lt_of_unordered_eq_false hordered⟩
  refine jointLimits_ext ?_ ?_
  · funext i
    exact add_zero (source.lower i)
  · funext i
    exact sub_zero (source.upper i)

/-- **Exact limits are the configured ones**: no endpoint was rounded. -/
theorem inwardFloat32JointLimits_exact {source limits : JointLimits ℚ}
    (h : (inwardFloat32JointLimits source FloatArith.zero : Except PyError (JointLimits ℚ)) =
      .ok limits) :
    limits = source ∧ ∀ i, source.lower i < source.upper i := by
  unfold inwardFloat32JointLimits at h
  obtain ⟨contracted, hcontracted, hrest⟩ := except_bind_eq_ok.mp h
  obtain ⟨hsame, hordered⟩ := contractedJointLimitsFloat64_exact hcontracted
  rw [← hsame] at hordered ⊢
  dsimp only at hrest
  obtain ⟨-, hrest⟩ := ok_of_guard hrest
  obtain ⟨-, hrest⟩ := ok_of_guard hrest
  cases hrest
  refine ⟨?_, hordered⟩
  refine jointLimits_ext ?_ ?_
  · funext i
    exact ite_self _
  · funext i
    exact ite_self _

theorem configured_of_init {initialArm : Vec 7 ℚ} {initialHand : Vec 6 ℚ} {limits : JointLimits ℚ}
    {close : Vec 6 ℚ} {parameters : MapperParameters ℚ} {contract : FrankaActionContract}
    {m : V94ActionMapper ℚ}
    (h : V94ActionMapper.init initialArm initialHand limits close parameters contract = .ok m) :
    m.Configured limits close parameters contract := by
  unfold V94ActionMapper.init at h
  obtain ⟨arm, -, h⟩ := except_bind_eq_ok.mp h
  obtain ⟨hand, -, h⟩ := except_bind_eq_ok.mp h
  obtain ⟨inward, hinward, h⟩ := except_bind_eq_ok.mp h
  obtain ⟨closed, hclosed, h⟩ := except_bind_eq_ok.mp h
  obtain ⟨hlimits, hordered⟩ := inwardFloat32JointLimits_exact hinward
  have hclose : closed.1 = close := by
    unfold readonlyFloatVector at hclosed
    rw [dif_pos (Vec.allFinite_rat close)] at hclosed
    cases hclosed
    rfl
  dsimp only at h
  obtain ⟨hpositive, h⟩ := ok_of_guard h
  obtain ⟨-, h⟩ := ok_of_guard h
  have hpos : ∀ i, 0 < close i := by
    intro i
    by_contra hle
    refine hpositive (List.any_eq_true.mpr ⟨i, List.mem_finRange i, ?_⟩)
    rw [hclose]
    show decide (decide (close i ≤ 0) = true) = true
    simpa using hle
  cases contract with
  | legacy =>
    obtain ⟨-, h⟩ := ok_of_guard h
    obtain ⟨-, h⟩ := ok_of_guard h
    cases h
    exact ⟨rfl, hlimits, hordered, hclose, hpos, rfl⟩
  | qdG015 =>
    obtain ⟨-, h⟩ := ok_of_guard h
    obtain ⟨-, h⟩ := ok_of_guard h
    cases h
    exact ⟨rfl, hlimits, hordered, hclose, hpos, rfl⟩

/-! ## The arm target -/

/-- **The envelope meets the joint limits**: the measured position is outside of no joint's limits
by more than the envelope. -/
def EnvelopeMeetsLimits (limits : JointLimits ℚ) (envelope : ℚ) (measured : Vec 7 ℚ) : Prop :=
  ∀ i, limits.lower i ≤ measured i + envelope ∧ measured i - envelope ≤ limits.upper i

def envelopeBounds (limits : JointLimits ℚ) (envelope : ℚ) (measured : Vec 7 ℚ) :
    JointLimits ℚ :=
  ⟨fun i => npMaximum (limits.lower i) (measured i - envelope),
    fun i => npMinimum (limits.upper i) (measured i + envelope)⟩

/-- **The clip keeps to the joint limits**: neither bound is beyond the opposite joint limit. -/
def BoundsKeepLimits (limits bounds : JointLimits ℚ) : Prop :=
  ∀ i, limits.lower i ≤ bounds.upper i ∧ bounds.lower i ≤ limits.upper i

theorem boundsKeepLimits_iff {limits : JointLimits ℚ} {envelope : ℚ} {measured : Vec 7 ℚ}
    (hordered : ∀ i, limits.lower i < limits.upper i) :
    BoundsKeepLimits limits (envelopeBounds limits envelope measured) ↔
      EnvelopeMeetsLimits limits envelope measured := by
  unfold BoundsKeepLimits EnvelopeMeetsLimits envelopeBounds
  refine forall_congr' fun i => ?_
  dsimp only
  rw [npMinimum_rat, npMaximum_rat, le_min_iff, max_le_iff]
  exact ⟨fun h => ⟨h.1.2, h.2.2⟩, fun h => ⟨⟨(hordered i).le, h.1⟩, (hordered i).le, h.2⟩⟩

def WithinLimits (limits : JointLimits ℚ) (target : Vec 7 ℚ) : Prop :=
  ∀ i, limits.lower i ≤ target i ∧ target i ≤ limits.upper i

/-- **The clip to the envelope is within the joint limits** exactly while the envelope reaches up
to every lower limit. Its upper bound is never above the limit and wins over the lower one. -/
theorem withinLimits_npClip_iff {limits : JointLimits ℚ} {envelope : ℚ} {measured target : Vec 7 ℚ}
    (hordered : ∀ i, limits.lower i < limits.upper i) :
    (WithinLimits limits fun i =>
      npClip (target i) ((envelopeBounds limits envelope measured).lower i)
        ((envelopeBounds limits envelope measured).upper i)) ↔
      ∀ i, limits.lower i ≤ measured i + envelope := by
  unfold WithinLimits envelopeBounds
  dsimp only
  refine forall_congr' fun i => ?_
  have hlt := hordered i
  rw [npClip_rat, npMaximum_rat, npMinimum_rat]
  constructor
  · rintro ⟨hlower, -⟩
    exact (le_min_iff.mp (le_min_iff.mp hlower).2).2
  · intro hreach
    constructor
    · refine le_min ?_ (le_min hlt.le hreach)
      exact (le_max_left _ _).trans (le_max_right _ _)
    · exact (min_le_right _ _).trans (min_le_left _ _)

theorem withinLimits_npClip {limits : JointLimits ℚ} {target : Vec 7 ℚ}
    (hordered : ∀ i, limits.lower i < limits.upper i) :
    WithinLimits limits fun i => npClip (target i) (limits.lower i) (limits.upper i) := by
  intro i
  dsimp only
  rw [npClip_rat]
  exact ⟨le_min (le_max_right _ _) (hordered i).le, min_le_right _ _⟩

/-! ## The hand target -/

theorem mapHand_bounds (m : V94ActionMapper ℚ) (executed : Vec 13 ℚ) (hclose : ∀ i, 0 < m.qHandClose i)
    (i : Fin 6) : 0 ≤ (m.mapHand executed).1 i ∧ (m.mapHand executed).1 i ≤ m.qHandClose i := by
  unfold V94ActionMapper.mapHand
  dsimp only
  rw [npClip_rat]
  exact ⟨le_min (le_max_right _ _) (hclose i).le, min_le_right _ _⟩

theorem register_bounds {position close : ℚ} (hclose : 0 < close) (h0 : 0 ≤ position)
    (h1 : position ≤ close) :
    0 ≤ rintInt32 (1000 * (1 - position / close)) ∧
      rintInt32 (1000 * (1 - position / close)) ≤ 1000 := by
  have hfraction : 0 ≤ position / close := div_nonneg h0 hclose.le
  have hfraction' : position / close ≤ 1 := (div_le_one hclose).mpr h1
  have hbounds : 0 ≤ rint (1000 * (1 - position / close)) ∧
      rint (1000 * (1 - position / close)) ≤ (1000 : ℕ) :=
    rint_bounds (by linarith) (by push_cast; linarith)
  unfold rintInt32 astypeInt32
  rw [FloatArith.toRat?_rat, Option.map_some]
  dsimp only
  rw [if_pos (by omega)]
  exact_mod_cast hbounds

theorem registersOfInts_of_bounds {v : Vec 6 ℤ} (h : ∀ i, 0 ≤ v i ∧ v i ≤ 1000) :
    registersOfInts v = some fun i => Fin.ofNat 1001 (v i).toNat := by
  unfold registersOfInts
  refine if_neg ?_
  rintro hany
  obtain ⟨i, -, hi⟩ := List.any_eq_true.mp hany
  rw [Bool.or_eq_true, decide_eq_true_eq, decide_eq_true_eq] at hi
  have := h i
  omega

/-- **The hand target is representable**: each of its components has a register. -/
theorem registersOfInts_mapHand (m : V94ActionMapper ℚ) (executed : Vec 13 ℚ)
    (hclose : ∀ i, 0 < m.qHandClose i) :
    registersOfInts (policyToRegisterOrder fun i =>
      rintInt32 (1000 * (1 - (m.mapHand executed).1 i / m.qHandClose i))) =
      some fun i => Fin.ofNat 1001 (policyToRegisterOrder (fun i =>
        rintInt32 (1000 * (1 - (m.mapHand executed).1 i / m.qHandClose i))) i).toNat := by
  refine registersOfInts_of_bounds ?_
  intro i
  unfold policyToRegisterOrder
  obtain ⟨h0, h1⟩ := mapHand_bounds m executed hclose
    (Fin.ofNat 6 (policyHandOrder.idxOf (registerHandOrder.getD i .little)))
  exact register_bounds (hclose _) h0 h1

/-! ## The mapped action -/

theorem readonlyFloatVector_rat {n : ℕ} (v : Vec n ℚ) (name : String) :
    readonlyFloatVector v name = .ok ⟨v, v.allFinite_rat⟩ := by
  unfold readonlyFloatVector
  exact dif_pos v.allFinite_rat

theorem mapArm_ok {m : V94ActionMapper ℚ} (executed : Vec 13 ℚ) (measured : Vec 7 ℚ)
    {shaperQD : Option (Vec 7 ℚ)}
    (hshaper : m.frankaActionContractId = .qdG015 → shaperQD.isSome = true) :
    ∃ target, m.mapArm executed measured shaperQD = .ok target := by
  unfold V94ActionMapper.mapArm
  cases hcontract : m.frankaActionContractId with
  | legacy => exact ⟨_, rfl⟩
  | qdG015 =>
    obtain ⟨q, rfl⟩ := Option.isSome_iff_exists.mp (hshaper hcontract)
    dsimp only
    rw [pure_bind, readonlyFloatVector_rat]
    exact ⟨_, rfl⟩

/-- **A mapping succeeds** when its contract has the shaper state it needs. The arm target is the
arm's part of it and the hand target the hand's. -/
theorem map_ok {m : V94ActionMapper ℚ} (hclose : ∀ i, 0 < m.qHandClose i) (action : Vec 13 ℚ)
    (measured : Vec 7 ℚ) {shaperQD : Option (Vec 7 ℚ)} (hold : Bool)
    (hshaper : m.frankaActionContractId = .qdG015 → shaperQD.isSome = true) :
    ∃ (executed : Vec 13 ℚ) (armReasons : List String) (r : V94MappedAction ℚ),
      m.map action measured shaperQD hold = .ok r ∧
        m.mapArm executed measured shaperQD = .ok (r.frankaTargetQRad, armReasons) ∧
        r.rh56TargetQPolicyOrderRad = (m.mapHand executed).1 := by
  let executed : Vec 13 ℚ := fun i =>
    if hold && decide (i.1 < 7) then FloatArith.zero
    else npClip (action i) (FloatArith.ofRat (-1)) FloatArith.one
  obtain ⟨arm, harm⟩ := mapArm_ok executed measured hshaper
  have hregisters := registersOfInts_mapHand m executed hclose
  refine ⟨executed, arm.2, ?_⟩
  unfold V94ActionMapper.map
  rw [readonlyFloatVector_rat, readonlyFloatVector_rat]
  dsimp only [bind, Except.bind]
  rw [show m.mapArm _ measured shaperQD = .ok arm from harm]
  dsimp only
  split
  · next hnone => cases hregisters.symm.trans hnone
  · exact ⟨_, rfl, rfl, rfl⟩

/-! ## Mapped targets -/

/-- **A safe result**: the arm target is within the joint limits, the hand target between open and
closed, the registers are within their range, and the clip to the envelope kept to the limits. -/
structure MappedWithinLimits (limits : JointLimits ℚ) (close : Vec 6 ℚ) (envelope : ℚ)
    (contract : FrankaActionContract) (measured : Vec 7 ℚ) (r : V94MappedAction ℚ) : Prop where
  arm : WithinLimits limits r.frankaTargetQRad
  hand : ∀ i, 0 ≤ r.rh56TargetQPolicyOrderRad i ∧ r.rh56TargetQPolicyOrderRad i ≤ close i
  registers : ∀ i, (r.rh56AngleSetRegisterOrder i).1 ≤ 1000
  clip : contract = .legacy → BoundsKeepLimits limits (envelopeBounds limits envelope measured)

theorem mapArm_legacy {m : V94ActionMapper ℚ} (hcontract : m.frankaActionContractId = .legacy)
    {executed : Vec 13 ℚ} {measured : Vec 7 ℚ} {shaperQD : Option (Vec 7 ℚ)} {target : Vec 7 ℚ}
    {reasons : List String} (h : m.mapArm executed measured shaperQD = .ok (target, reasons)) :
    ∃ next : Vec 7 ℚ, target = fun i =>
      npClip (next i) ((envelopeBounds m.jointLimits m.measuredArmEnvelope measured).lower i)
        ((envelopeBounds m.jointLimits m.measuredArmEnvelope measured).upper i) := by
  unfold V94ActionMapper.mapArm at h
  rw [hcontract] at h
  cases h
  exact ⟨_, rfl⟩

theorem mapArm_qdG015 {m : V94ActionMapper ℚ} (hcontract : m.frankaActionContractId = .qdG015)
    {executed : Vec 13 ℚ} {measured : Vec 7 ℚ} {shaperQD : Option (Vec 7 ℚ)} {target : Vec 7 ℚ}
    {reasons : List String} (h : m.mapArm executed measured shaperQD = .ok (target, reasons)) :
    ∃ next : Vec 7 ℚ, target = fun i =>
      npClip (next i) (m.jointLimits.lower i) (m.jointLimits.upper i) := by
  unfold V94ActionMapper.mapArm at h
  rw [hcontract] at h
  dsimp only at h
  cases shaperQD with
  | none => cases h
  | some q =>
    dsimp only at h
    rw [pure_bind, readonlyFloatVector_rat] at h
    cases h
    exact ⟨_, rfl⟩

/-- **A configured mapper maps safely** exactly when its contract has no envelope or the envelope
meets the limits. -/
theorem V94ActionMapper.Configured.mapped_iff {limits : JointLimits ℚ} {close : Vec 6 ℚ}
    {parameters : MapperParameters ℚ} {contract : FrankaActionContract} {m : V94ActionMapper ℚ}
    (hm : m.Configured limits close parameters contract) (action : Vec 13 ℚ) (measured : Vec 7 ℚ)
    {shaperQD : Option (Vec 7 ℚ)} (hold : Bool)
    (hshaper : contract = .qdG015 → shaperQD.isSome = true) :
    ∃ r, m.map action measured shaperQD hold = .ok r ∧
      (MappedWithinLimits limits close parameters.measuredArmEnvelopeRad contract measured r ↔
        (contract = .legacy →
          EnvelopeMeetsLimits limits parameters.measuredArmEnvelopeRad measured)) := by
  have hclose : ∀ i, 0 < m.qHandClose i := by
    intro i
    rw [hm.qHandClose]
    exact hm.close_pos i
  obtain ⟨executed, armReasons, r, hmap, harm, hhand⟩ :=
    map_ok hclose action measured hold fun hcontract => hshaper (hm.contractId ▸ hcontract)
  refine ⟨r, hmap, ?_⟩
  have hhandBounds : ∀ i, 0 ≤ r.rh56TargetQPolicyOrderRad i ∧
      r.rh56TargetQPolicyOrderRad i ≤ close i := by
    intro i
    rw [hhand, ← hm.qHandClose]
    exact mapHand_bounds m executed hclose i
  constructor
  · intro hsafe hlegacy
    exact (boundsKeepLimits_iff hm.ordered).mp (hsafe.clip hlegacy)
  · intro hmeets
    refine ⟨?_, hhandBounds, fun i => Nat.lt_succ_iff.mp (r.rh56AngleSetRegisterOrder i).2, ?_⟩
    · cases contract with
      | legacy =>
        -- The envelope clip is the last one, so the limits hold through its bounds only.
        obtain ⟨next, hnext⟩ := mapArm_legacy hm.contractId harm
        rw [hnext, hm.jointLimits, hm.envelope]
        exact (withinLimits_npClip_iff hm.ordered).mpr fun i => (hmeets rfl i).1
      | qdG015 =>
        obtain ⟨next, hnext⟩ := mapArm_qdG015 hm.contractId harm
        rw [hnext, hm.jointLimits]
        exact withinLimits_npClip hm.ordered
    · intro hlegacy
      exact (boundsKeepLimits_iff hm.ordered).mpr (hmeets hlegacy)

/-- **When mapped targets stay inside the joint limits.** For every constructed mapper, prior
targets, action and measured position, a mapping with the shaper state its contract needs succeeds.
Its result is safe exactly when the contract has no envelope or the envelope meets the limits. -/
theorem mapped_targets_within_limits {initialArm : Vec 7 ℚ} {initialHand : Vec 6 ℚ}
    {limits : JointLimits ℚ} {close : Vec 6 ℚ} {parameters : MapperParameters ℚ}
    {contract : FrankaActionContract} {m : V94ActionMapper ℚ}
    (hinit : V94ActionMapper.init initialArm initialHand limits close parameters contract = .ok m)
    (armTarget : Vec 7 ℚ) (handTarget : Vec 6 ℚ) (action : Vec 13 ℚ) (measured : Vec 7 ℚ)
    (shaperQD : Option (Vec 7 ℚ)) (hold : Bool)
    (hshaper : contract = .qdG015 → shaperQD.isSome = true) :
    ∃ r, { m with armTarget, handTarget }.map action measured shaperQD hold = .ok r ∧
      (MappedWithinLimits limits close parameters.measuredArmEnvelopeRad contract measured r ↔
        (contract = .legacy →
          EnvelopeMeetsLimits limits parameters.measuredArmEnvelopeRad measured)) := by
  have hm := configured_of_init hinit
  have hset : { m with armTarget, handTarget }.Configured limits close parameters contract :=
    ⟨hm.contractId, hm.jointLimits, hm.ordered, hm.qHandClose, hm.close_pos, hm.envelope⟩
  exact hset.mapped_iff action measured hold hshaper

/-! ## A measured position outside of the limits -/

def safeLimits : JointLimits ℚ :=
  ⟨![-2.6937, -1.7337, -2.8507, -2.9921, -2.7565, 0.5945, -2.9659],
    ![2.6937, 1.7337, 2.8507, -0.2018, 2.7565, 4.4669, 2.9659]⟩

def semanticClose : Vec 6 ℚ := ![1.25, 0.599, 0.95, 0.95, 1.05, 1.10]

def defaultParameters : MapperParameters ℚ := ⟨0.05, 0.015, 0.20, 0.20, 0.015, 0.05⟩

def outsidePosition : Vec 7 ℚ := ![-2.8, 0, 0, -1.5, 0, 2, 0]

/-- The whole envelope of the first joint is below its lower limit. -/
example : outsidePosition 0 + defaultParameters.measuredArmEnvelopeRad < safeLimits.lower 0 := by
  decide +kernel

def outsideMapper : Except PyError (V94ActionMapper ℚ) :=
  V94ActionMapper.init outsidePosition (fun _ => 0) safeLimits semanticClose defaultParameters
    .legacy

theorem exists_outsideMapper : ∃ m, outsideMapper = .ok m := by
  cases hinit : outsideMapper with
  | error e =>
    have hok : outsideMapper.toOption.isSome = true := by decide +kernel
    rw [hinit] at hok
    cases hok
  | ok m => exact ⟨m, rfl⟩

theorem outsideMapper_outcome :
    (outsideMapper >>= fun m => m.map (fun _ => 0) outsidePosition none false).toOption.map
      (fun r => r.frankaTargetQRad 0) = some (-2.75) := by
  decide +kernel

theorem target_below_the_limit :
    ¬∀ m, outsideMapper = .ok m →
      ∃ r, m.map (fun _ => 0) outsidePosition none false = .ok r ∧
        MappedWithinLimits safeLimits semanticClose defaultParameters.measuredArmEnvelopeRad
          .legacy outsidePosition r := by
  intro hsafe
  obtain ⟨m, hm⟩ := exists_outsideMapper
  obtain ⟨r, hr, hwithin⟩ := hsafe m hm
  have houtcome := outsideMapper_outcome
  rw [hm] at houtcome
  change (m.map (fun _ => 0) outsidePosition none false).toOption.map _ = _ at houtcome
  rw [hr] at houtcome
  have htarget : r.frankaTargetQRad 0 = -2.75 := Option.some.inj houtcome
  have hlower := (hwithin.arm 0).1
  rw [htarget] at hlower
  exact absurd hlower (by decide +kernel)

theorem zero_action_maps_safely :
    ∃ m r, outsideMapper = .ok m ∧
      { m with armTarget := fun _ => 0, handTarget := fun _ => 0 }.map (fun _ => 0)
          ![0, 0, 0, -1.5, 0, 2, 0] none false = .ok r ∧
        MappedWithinLimits safeLimits semanticClose defaultParameters.measuredArmEnvelopeRad
          .legacy ![0, 0, 0, -1.5, 0, 2, 0] r := by
  obtain ⟨m, hm⟩ := exists_outsideMapper
  obtain ⟨r, hr, hiff⟩ := mapped_targets_within_limits hm (fun _ => 0) (fun _ => 0) (fun _ => 0)
    ![0, 0, 0, -1.5, 0, 2, 0] none false (by decide)
  have hmeets : ∀ i : Fin 7, safeLimits.lower i ≤
      (![0, 0, 0, -1.5, 0, 2, 0] : Vec 7 ℚ) i + defaultParameters.measuredArmEnvelopeRad ∧
      (![0, 0, 0, -1.5, 0, 2, 0] : Vec 7 ℚ) i - defaultParameters.measuredArmEnvelopeRad ≤
        safeLimits.upper i := by
    decide +kernel
  exact ⟨m, r, hm, hr, hiff.mpr fun _ => hmeets⟩

end FrankaDeploy.Contracts
