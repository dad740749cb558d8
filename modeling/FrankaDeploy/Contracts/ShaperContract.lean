import FrankaDeploy.Contracts.ShaperRun
import FrankaDeploy.Foundation.Ieee754
import Mathlib.Data.List.OfFn

/-! # The law of the hand's shaper

For every order of calls the committed target stays calibrated and moves only when a due proposal
is committed, by at most the maximum step. While every proposal desires one target, the committed
target is the start after one bounded approach of the summed steps (`target_of_run`). A target
outside the calibrated interval is approached up to the interval only. -/

namespace FrankaDeploy.Contracts.RH56Shaper

open FrankaDeploy.Foundation FrankaDeploy.ClosedLoop

variable {D : Type} [FloatArith D]

/-! ## What every call keeps -/

/-- **A calibrated shaper**: the target lies within its intervals, and the pending proposal is the
one that was made from it. -/
structure Calibrated (D : Type) [FloatArith D] (H : RH56Shaper) : Prop where
  inBounds : InBounds H.config H.target
  pending : ∀ p, H.pending = some p → ∃ desired : Vec 6 D, ProposalOf H desired p

theorem ProposalOf.of_kept {H H' : RH56Shaper} {desired : Vec 6 D}
    {p : RH56HardwareCommandProposal} (h : ProposalOf H desired p) (hkept : Kept H H') :
    ProposalOf H' desired p where
  desired := h.desired
  sequence := by rw [hkept.lastCommittedSequence, h.sequence]
  prior := by rw [hkept.target, h.prior]
  due := by rw [hkept.config, h.due]
  target := by
    rw [hkept.config, hkept.target]
    exact h.target

theorem boundedDesired_bounds (config : ShaperConfig) (desired : RegisterVector) (i : Fin 6) :
    registerInts config.minimumAngleSetRegisterOrder i ≤ boundedDesired config desired i ∧
      boundedDesired config desired i ≤ registerInts config.maximumAngleSetRegisterOrder i := by
  have hlt : (config.minimumAngleSetRegisterOrder i).1 <
      (config.maximumAngleSetRegisterOrder i).1 := config.bounds_lt i
  unfold boundedDesired clipInt registerInts
  omega

theorem maximumDelta_pos (config : ShaperConfig) (i : Fin 6) : 0 < maximumDelta config i :=
  Int.natCast_pos.mpr (config.delta_pos i)

theorem ProposalOf.inBounds {H : RH56Shaper} {desired : Vec 6 D}
    {p : RH56HardwareCommandProposal} (h : ProposalOf H desired p)
    (hbounds : InBounds H.config H.target) : InBounds H.config p.angleSetRegisterOrder := by
  intro i
  have htarget := h.target i
  have hbound := boundedDesired_bounds H.config p.desired i
  have hbetween := approach_between (registerInts H.target i)
    (boundedDesired H.config p.desired i) (maximumDelta_pos H.config i).le
  obtain ⟨hlower, hupper⟩ := hbounds i
  have hlower' : (H.config.minimumAngleSetRegisterOrder i).1 ≤ (H.target i).1 := hlower
  have hupper' : (H.target i).1 ≤ (H.config.maximumAngleSetRegisterOrder i).1 := hupper
  show (H.config.minimumAngleSetRegisterOrder i).1 ≤ (p.angleSetRegisterOrder i).1 ∧
    (p.angleSetRegisterOrder i).1 ≤ (H.config.maximumAngleSetRegisterOrder i).1
  unfold registerInts at htarget hbound hbetween
  by_cases hdue : p.hardwareUpdateDue = true
  · rw [if_pos hdue] at htarget
    omega
  · rw [if_neg hdue] at htarget
    omega

theorem calibrated_step {H : RH56Shaper} (h : Calibrated D H) (call : ShaperCall D) :
    Calibrated D (H.step call).1 := by
  rcases H.step_cases call with ⟨hkept, -, hpending⟩ | ⟨p, -, -, hp, -, hstate, -⟩
  · refine ⟨?_, ?_⟩
    · rw [hkept.config, hkept.target]
      exact h.inBounds
    · intro p hp
      rcases hpending with hsame | hnone | ⟨sequence, desired, p', -, hp', hproposal⟩
      · obtain ⟨desired, hproposal⟩ := h.pending p (hsame ▸ hp)
        exact ⟨desired, hproposal.of_kept hkept⟩
      · rw [hnone] at hp
        cases hp
      · rw [hp'] at hp
        cases hp
        exact ⟨desired, hproposal.of_kept hkept⟩
  · obtain ⟨desired, hproposal⟩ := h.pending p hp
    rw [hstate]
    refine ⟨hproposal.inBounds h.inBounds, ?_⟩
    intro q hq
    cases hq

theorem config_step (H : RH56Shaper) (call : ShaperCall D) :
    (H.step call).1.config = H.config := by
  rcases H.step_cases call with ⟨hkept, -, -⟩ | ⟨p, -, -, -, -, hstate, -⟩
  · exact hkept.config
  · rw [hstate]

theorem calibrated_run {H : RH56Shaper} (h : Calibrated D H) (calls : List (ShaperCall D)) :
    Calibrated D ((machine D).run H calls) :=
  (machine D).run_induction h (fun _ call hs => calibrated_step hs call) calls

theorem config_run (H : RH56Shaper) (calls : List (ShaperCall D)) :
    ((machine D).run H calls).config = H.config := by
  refine (machine D).run_induction (P := fun H' => H'.config = H.config) rfl ?_ calls
  intro H' call hconfig
  exact (config_step H' call).trans hconfig

theorem calibrated_of_init {initial minimum maximum delta : Vec 6 D} {policyRate hardwareRate : D}
    {H : RH56Shaper}
    (h : init initial policyRate hardwareRate delta minimum maximum = .ok H) :
    Calibrated D H ∧ H.pending = none := by
  unfold init at h
  obtain ⟨config, -, h⟩ := except_bind_eq_ok.mp h
  obtain ⟨target, -, h⟩ := except_bind_eq_ok.mp h
  by_cases hbounds : InBounds config target
  · rw [if_pos hbounds] at h
    cases h
    refine ⟨⟨hbounds, ?_⟩, rfl⟩
    intro p hp
    cases hp
  · rw [if_neg hbounds] at h
    cases h

/-! ## When the target moves -/

/-- **The target moves only when a due proposal is committed**, by at most the maximum step. -/
def MovesWhenDue (H : RH56Shaper) (call : ShaperCall D) : Prop :=
  (H.step call).1.target = H.target ∨
    ∃ p proposal, call = .commit proposal ∧ H.pending = some p ∧ (H.step call).2 = [p] ∧
      (H.step call).1.lastCommittedSequence = H.lastCommittedSequence + 1 ∧
      H.lastCommittedSequence % H.config.policyTicksPerHardwareUpdate = 0 ∧
      ∀ i, |registerInts (H.step call).1.target i - registerInts H.target i| ≤
        maximumDelta H.config i

theorem registerInts_injective {a b : RegisterVector} (h : ∀ i, registerInts a i = registerInts b i) :
    a = b := by
  funext i
  exact Fin.ext (Int.natCast_inj.mp (h i))

theorem movesWhenDue_of_calibrated {H : RH56Shaper} (h : Calibrated D H) (call : ShaperCall D) :
    MovesWhenDue H call := by
  rcases H.step_cases call with ⟨hkept, -, -⟩ | ⟨p, proposal, hcall, hp, hsequence, hstate, hevents⟩
  · exact .inl hkept.target
  · obtain ⟨desired, hproposal⟩ := h.pending p hp
    by_cases hdue : p.hardwareUpdateDue = true
    · refine .inr ⟨p, proposal, hcall, hp, hevents, ?_, ?_, ?_⟩
      · rw [hstate]
        exact hsequence
      · have hphase := hproposal.due
        rw [hdue, hsequence, Nat.add_sub_cancel] at hphase
        exact of_decide_eq_true hphase.symm
      · intro i
        rw [hstate]
        show |registerInts p.angleSetRegisterOrder i - _| ≤ _
        rw [hproposal.target i, if_pos hdue]
        exact abs_approach_sub_le _ _ (maximumDelta_pos H.config i).le
    · left
      rw [hstate]
      refine registerInts_injective fun i => ?_
      show registerInts p.angleSetRegisterOrder i = _
      rw [hproposal.target i, if_neg hdue]

/-! ## A constant desired target -/

def dueUpdates (committed : List RH56HardwareCommandProposal) : ℕ :=
  committed.countP RH56HardwareCommandProposal.hardwareUpdateDue

def Desires (desired : Vec 6 D) (calls : List (ShaperCall D)) : Prop :=
  ∀ call ∈ calls, ∀ sequence d, call = .propose sequence d → d = desired

def PendingDesires (H : RH56Shaper) (registers : RegisterVector) : Prop :=
  ∀ p, H.pending = some p → p.desired = registers

/-- **One call under a constant desired target**: one approach for each due update. -/
theorem target_of_step {H : RH56Shaper} {desired : Vec 6 D} {registers : RegisterVector}
    (h : Calibrated D H) (hpending : PendingDesires H registers)
    (hdesired : readonlyRegisterVector desired "desired_angle_set_register_order" = .ok registers)
    {call : ShaperCall D} (hcall : ∀ sequence d, call = .propose sequence d → d = desired) :
    PendingDesires (H.step call).1 registers ∧
      ∀ i, registerInts (H.step call).1.target i =
        approach (registerInts H.target i) (boundedDesired H.config registers i)
          (dueUpdates (H.step call).2 * maximumDelta H.config i) := by
  rcases H.step_cases call with ⟨hkept, hevents, hcases⟩ | ⟨p, -, -, hp, -, hstate, hevents⟩
  · refine ⟨?_, ?_⟩
    · intro p hp
      rcases hcases with hsame | hnone | ⟨sequence, d, p', hpropose, hp', hproposal⟩
      · exact hpending p (hsame ▸ hp)
      · rw [hnone] at hp
        cases hp
      · rw [hp'] at hp
        cases hp
        have hregisters := hproposal.desired
        rw [hcall sequence d hpropose, hdesired] at hregisters
        exact (Except.ok.inj hregisters).symm
    · intro i
      rw [hevents, hkept.target]
      show _ = approach _ _ ((0 : ℕ) * _)
      rw [Nat.cast_zero, zero_mul, approach_zero]
  · obtain ⟨d, hproposal⟩ := h.pending p hp
    rw [hstate, hevents]
    refine ⟨?_, ?_⟩
    · intro q hq
      cases hq
    intro i
    show registerInts p.angleSetRegisterOrder i = _
    rw [hproposal.target i, hpending p hp]
    unfold dueUpdates
    by_cases hdue : p.hardwareUpdateDue = true
    · rw [if_pos hdue, List.countP_singleton, if_pos hdue, Nat.cast_one, one_mul]
    · rw [if_neg hdue, List.countP_singleton, if_neg hdue, Nat.cast_zero, zero_mul, approach_zero]

/-- **A run under a constant desired target** is one approach of the summed steps. -/
theorem target_of_run {H : RH56Shaper} {desired : Vec 6 D} {registers : RegisterVector}
    (h : Calibrated D H) (hpending : PendingDesires H registers)
    (hdesired : readonlyRegisterVector desired "desired_angle_set_register_order" = .ok registers)
    {calls : List (ShaperCall D)} (hcalls : Desires desired calls) :
    PendingDesires ((machine D).run H calls) registers ∧
      ∀ i, registerInts ((machine D).run H calls).target i =
        approach (registerInts H.target i) (boundedDesired H.config registers i)
          (dueUpdates ((machine D).trace H calls) * maximumDelta H.config i) := by
  induction calls generalizing H with
  | nil =>
    refine ⟨hpending, fun i => ?_⟩
    show _ = approach _ _ ((0 : ℕ) * _)
    rw [Nat.cast_zero, zero_mul, approach_zero]
    rfl
  | cons call calls ih =>
    obtain ⟨hpending', htarget⟩ := target_of_step h hpending hdesired
      (hcalls call List.mem_cons_self)
    obtain ⟨hpendingEnd, hend⟩ := ih (calibrated_step h call) hpending'
      (fun c hc => hcalls c (List.mem_cons_of_mem call hc))
    refine ⟨hpendingEnd, fun i => ?_⟩
    have hdelta := (maximumDelta_pos H.config i).le
    rw [Machine.run_cons, Machine.trace_cons]
    have hcount : dueUpdates (((machine D).step H call).2 ++
        (machine D).trace ((machine D).step H call).1 calls) =
        dueUpdates (H.step call).2 +
          dueUpdates ((machine D).trace (H.step call).1 calls) :=
      List.countP_append
    rw [hcount, Nat.cast_add, add_mul, ← approach_approach _ _
      (Int.mul_nonneg (Int.natCast_nonneg _) hdelta)
      (Int.mul_nonneg (Int.natCast_nonneg _) hdelta), ← htarget i]
    have hrun := hend i
    rw [config_step] at hrun
    exact hrun

/-! ## The law -/

/-- **The shaper is a bounded, transactional rate limiter.** In every run of a new shaper the target
is calibrated and moves only when a due proposal is committed. While every proposal desires one
target, no register overshoots its bounded target, and it has arrived exactly when there were
`⌈|difference| / maximum step⌉` due updates. -/
theorem shaper_is_bounded {initial minimum maximum delta : Vec 6 D} {policyRate hardwareRate : D}
    {H₀ : RH56Shaper}
    (hinit : init initial policyRate hardwareRate delta minimum maximum = .ok H₀) :
    (∀ calls : List (ShaperCall D),
      InBounds H₀.config ((machine D).run H₀ calls).target ∧
      ∀ call : ShaperCall D, MovesWhenDue ((machine D).run H₀ calls) call) ∧
    ∀ (before first second : List (ShaperCall D)) (desired : Vec 6 D) (registers : RegisterVector),
      ((machine D).run H₀ before).pending = none →
      readonlyRegisterVector desired "desired_angle_set_register_order" = .ok registers →
      Desires desired (first ++ second) → ∀ i : Fin 6,
        let start := registerInts ((machine D).run H₀ before).target i
        let middle := registerInts ((machine D).run H₀ (before ++ first)).target i
        let final := registerInts ((machine D).run H₀ (before ++ first ++ second)).target i
        let goal := boundedDesired H₀.config registers i
        (min middle goal ≤ final ∧ final ≤ max middle goal) ∧
        (middle = goal ↔ ⌈(|goal - start| : ℚ) / maximumDelta H₀.config i⌉₊ ≤
          dueUpdates ((machine D).trace ((machine D).run H₀ before) first)) := by
  obtain ⟨hcalibrated, -⟩ := calibrated_of_init hinit
  constructor
  · intro calls
    have hrun := calibrated_run hcalibrated calls
    have hbounds := hrun.inBounds
    rw [config_run] at hbounds
    exact ⟨hbounds, movesWhenDue_of_calibrated hrun⟩
  · intro before first second desired registers hnone hdesired hcalls i
    dsimp only
    have hstart := calibrated_run hcalibrated before
    have hpending : PendingDesires ((machine D).run H₀ before) registers := by
      intro p hp
      rw [hnone] at hp
      cases hp
    obtain ⟨hpendingFirst, hfirst⟩ := target_of_run hstart hpending hdesired
      (fun c hc => hcalls c (List.mem_append_left second hc))
    obtain ⟨-, hsecond⟩ := target_of_run (calibrated_run hstart first) hpendingFirst hdesired
      (fun c hc => hcalls c (List.mem_append_right first hc))
    have hdelta := maximumDelta_pos H₀.config i
    have hfirst := hfirst i
    have hsecond := hsecond i
    rw [config_run] at hfirst
    rw [config_run, config_run] at hsecond
    simp only [Machine.run_append]
    constructor
    · rw [hsecond]
      exact approach_between _ _ (Int.mul_nonneg (Int.natCast_nonneg _) hdelta.le)
    · rw [hfirst]
      exact approach_eq_target_iff _ _ _ hdelta

/-! ## A target outside the calibrated interval -/

def six (x : ℚ) : Vec 6 Binary64 := fun _ => FloatArith.ofRat x

/-- A shaper at 1000 within `[400, 1000]` that updates on every tick. -/
def calibratedShaper : Except PyError RH56Shaper :=
  init (six 1000) (FloatArith.ofRat 20) (FloatArith.ofRat 20) (six 300) (six 400) (six 1000)

def closingCalls : List (ShaperCall Binary64) :=
  [.propose 1 (six 0), .commit 0, .propose 2 (six 0), .commit 1, .propose 3 (six 0), .commit 2,
    .propose 4 (six 0), .commit 3]

theorem closingCalls_outcome :
    (calibratedShaper.toOption.map fun H =>
      (dueUpdates ((machine Binary64).trace H closingCalls),
        List.ofFn (registerInts ((machine Binary64).run H closingCalls).target))) =
      some (4, [400, 400, 400, 400, 400, 400]) := by
  decide +kernel

/-- **A desired target outside the interval is not reached**: after the four due updates that its
distance asks for, the target is at the bound of the interval. -/
theorem desired_outside_is_not_reached :
    ¬∀ H, calibratedShaper = .ok H →
      ⌈(|0 - 1000| : ℚ) / 300⌉₊ ≤ dueUpdates ((machine Binary64).trace H closingCalls) →
      ∀ i, registerInts ((machine Binary64).run H closingCalls).target i = 0 := by
  intro hreached
  cases hinit : calibratedShaper with
  | error e =>
    have houtcome := closingCalls_outcome
    rw [hinit] at houtcome
    cases houtcome
  | ok H =>
    have houtcome := closingCalls_outcome
    rw [hinit] at houtcome
    obtain ⟨hdue, hregisters⟩ := Prod.mk.inj (Option.some.inj houtcome)
    have hceil : ⌈(|0 - 1000| : ℚ) / 300⌉₊ = 4 := by
      rw [Nat.ceil_eq_iff (by norm_num)]
      norm_num
    have hzero := hreached H hinit (by rw [hceil, hdue]) 0
    have hbound : registerInts ((machine Binary64).run H closingCalls).target =
        fun _ => 400 := List.ofFn_injective (hregisters.trans rfl)
    rw [hbound] at hzero
    exact absurd hzero (by decide)

theorem closing_calls_bounded :
    ∃ H, calibratedShaper = .ok H ∧
      InBounds H.config ((machine Binary64).run H closingCalls).target := by
  cases hinit : calibratedShaper with
  | error e =>
    have hok : calibratedShaper.toOption.isSome = true := by decide +kernel
    rw [hinit] at hok
    cases hok
  | ok H => exact ⟨H, rfl, ((shaper_is_bounded hinit).1 closingCalls).1⟩

end FrankaDeploy.Contracts.RH56Shaper
