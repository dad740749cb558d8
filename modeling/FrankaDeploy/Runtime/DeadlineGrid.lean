import Mathlib.Data.Set.Card
import FrankaDeploy.Rh56Owner.Worker
import FrankaDeploy.Runtime.HoldMargin

/-! # Deadline grids

The feedback poll of the hand's owner and the release of the policy advance an absolute deadline by
whole periods past the time at which their work was completed. A `phaseGrid` is what such a deadline
may become; `slots` counts the points that are already over. -/

namespace FrankaDeploy.Runtime.PolicyLoop

open FrankaDeploy.Foundation FrankaDeploy.Foundation.Program
open FrankaDeploy.Rh56Owner (advancePeriodicDeadline)

/-! ## Phase grids -/

/-- **The grid of a schedule**: its start and every whole period after it. -/
def phaseGrid (start period : ℚ) : Set ℚ := Set.range fun k : ℕ => start + k * period

/-- The number of points of a grid up to a time. -/
def slots (start period time : ℚ) : ℕ :=
  if time < start then 0 else ⌊(time - start) / period⌋₊ + 1

/-- The points from a grid's point on are a grid themselves. -/
theorem mem_phaseGrid_tail {start period : ℚ} (hperiod : 0 < period) (n : ℕ) {x : ℚ} :
    x ∈ phaseGrid (start + n * period) period ↔
      x ∈ phaseGrid start period ∧ start + n * period ≤ x := by
  constructor
  · rintro ⟨k, rfl⟩
    have hk : (0 : ℚ) ≤ k * period := by positivity
    refine ⟨⟨n + k, ?_⟩, by dsimp only; linarith⟩
    push_cast
    ring
  · rintro ⟨⟨k, rfl⟩, hle⟩
    have hnk : n ≤ k := by
      have := le_of_mul_le_mul_right (by linarith : (n : ℚ) * period ≤ k * period) hperiod
      exact_mod_cast this
    refine ⟨k - n, ?_⟩
    dsimp only
    rw [Nat.cast_sub hnk]
    ring

/-- **The points up to a time** are those before its number of slots. -/
theorem le_iff_lt_slots {start period time : ℚ} (hperiod : 0 < period) (k : ℕ) :
    start + k * period ≤ time ↔ k < slots start period time := by
  rw [slots]
  split_ifs with hbefore
  · have hk : (0 : ℚ) ≤ k * period := by positivity
    constructor
    · intro h
      linarith
    · intro h
      exact absurd h (Nat.not_lt_zero k)
  · have hquotient : 0 ≤ (time - start) / period :=
      div_nonneg (sub_nonneg.mpr (not_lt.mp hbefore)) hperiod.le
    rw [Nat.lt_succ_iff, Nat.le_floor_iff hquotient, le_div_iff₀ hperiod]
    constructor <;> intro h <;> linarith

/-- **The point after the slots is the next one.** -/
theorem isLeast_slots {start period : ℚ} (hperiod : 0 < period) (time : ℚ) :
    IsLeast {x | x ∈ phaseGrid start period ∧ time < x}
      (start + slots start period time * period) := by
  constructor
  · refine ⟨⟨_, rfl⟩, ?_⟩
    by_contra hle
    exact lt_irrefl _ ((le_iff_lt_slots hperiod _).mp (not_lt.mp hle))
  · rintro x ⟨⟨k, rfl⟩, hlater⟩
    have hk : slots start period time ≤ k := by
      by_contra hlt
      exact absurd ((le_iff_lt_slots hperiod k).mpr (not_le.mp hlt)) (not_le.mpr hlater)
    have hmul : (slots start period time : ℚ) * period ≤ k * period :=
      mul_le_mul_of_nonneg_right (by exact_mod_cast hk) hperiod.le
    dsimp only
    linarith

/-- The number of slots counts the points up to the time. -/
theorem ncard_slots {start period : ℚ} (hperiod : 0 < period) (time : ℚ) :
    {x | x ∈ phaseGrid start period ∧ x ≤ time}.ncard = slots start period time := by
  have himage : {x | x ∈ phaseGrid start period ∧ x ≤ time} =
      (fun k : ℕ => start + k * period) '' Finset.range (slots start period time) := by
    ext x
    constructor
    · rintro ⟨⟨k, rfl⟩, hle⟩
      exact ⟨k, Finset.mem_coe.mpr (Finset.mem_range.mpr ((le_iff_lt_slots hperiod k).mp hle)), rfl⟩
    · rintro ⟨k, hk, rfl⟩
      exact ⟨⟨k, rfl⟩, (le_iff_lt_slots hperiod k).mpr (Finset.mem_range.mp (Finset.mem_coe.mp hk))⟩
  have hinjective : Function.Injective fun k : ℕ => start + k * period := by
    intro j k h
    have := mul_right_cancel₀ hperiod.ne' (add_left_cancel h)
    exact_mod_cast this
  rw [himage, Set.ncard_image_of_injective _ hinjective, Set.ncard_coe_finset, Finset.card_range]

/-- The floor of the source, as a number of slots. -/
theorem floor_eq_slots {start period time : ℚ} (hperiod : 0 < period) (hle : start ≤ time) :
    ⌊(time - start) / period⌋ + 1 = (slots start period time : ℤ) := by
  have hquotient : 0 ≤ (time - start) / period := div_nonneg (sub_nonneg.mpr hle) hperiod.le
  rw [slots, if_neg (not_lt.mpr hle), Nat.cast_add, Nat.cast_one, Int.natCast_floor_eq_floor hquotient]

/-! ## The two schedulers -/

/-- **`_advance_periodic_deadline`** with the checks of its arguments. -/
def checkedPeriodicDeadline {D : Type} [FloatArith D] (deadlineS periodS nowS : D) :
    Except PyException D := do
  let deadline ← finiteFloat (some deadlineS) "periodic deadline"
  let period ← positiveFloat (some periodS) "periodic period"
  let now ← finiteFloat (some nowS) "periodic now"
  advancePeriodicDeadline deadline period now

theorem checkedPeriodicDeadline_eq {period : ℚ} (hperiod : 0 < period) (deadline now : ℚ) :
    checkedPeriodicDeadline deadline period now =
      .ok (deadline + slots deadline period now * period) := by
  have hchecked : positiveFloat (some period) "periodic period" = .ok period :=
    positiveFloat_eq_ok.mpr ⟨rfl, hperiod⟩
  rw [checkedPeriodicDeadline, finiteFloat_rat, except_ok_bind, hchecked, except_ok_bind,
    finiteFloat_rat, except_ok_bind]
  show (if decide (now < deadline) = true then Except.ok deadline else
    .ok (deadline + ((⌊(now - deadline) / period⌋ + 1 : ℤ) : ℚ) * period)) = _
  simp only [decide_eq_true_eq]
  by_cases hbefore : now < deadline
  · rw [if_pos hbefore, slots, if_pos hbefore, Nat.cast_zero, zero_mul, add_zero]
  · rw [if_neg hbefore, floor_eq_slots hperiod (not_lt.mp hbefore), Int.cast_natCast]

variable {τ : Type} {s : LoopState ℚ τ} {t : List (LoopEvent ℚ)}

/-- A check that its argument passes goes on with the argument. -/
theorem wp_ofExcept_ok {σ ω ε α : Type} {Q : α → σ → List ω → Prop}
    {E : ε → σ → List ω → Prop} (a : α) :
    wp (ofExcept (.ok a) : Program σ ω ε α) Q E = Q a := by
  funext s t
  simp [wp_ofExcept]

/-- **One release**: the slots up to the completion are skipped and counted. -/
theorem wp_advancePhaseLockedPolicyRelease {period : ℚ} (hperiod : 0 < period)
    (scheduled completed : ℚ) :
    wp (advancePhaseLockedPolicyRelease scheduled period completed)
      (fun next s' t' =>
        next = scheduled + period + slots (scheduled + period) period completed * period ∧
        s'.runtime.policyScheduleSkippedSlotCount = s.runtime.policyScheduleSkippedSlotCount +
          slots (scheduled + period) period completed ∧ t' = t)
      (fun _ _ _ => False) s t := by
  have hchecked : positiveFloat (some period) "policy_period_s" = .ok period :=
    positiveFloat_eq_ok.mpr ⟨rfl, hperiod⟩
  rw [advancePhaseLockedPolicyRelease, finiteFloat_rat, hchecked, finiteFloat_rat]
  rw [wp_bind, wp_ofExcept_ok]
  rw [wp_bind, wp_ofExcept_ok]
  rw [wp_bind, wp_ofExcept_ok]
  have hskipped : (if decide (scheduled + period ≤ completed) = true then
      (mathFloor ((completed - (scheduled + period)) / period)).map (· + 1) else .ok 0) =
        .ok (slots (scheduled + period) period completed : ℤ) := by
    simp only [decide_eq_true_eq]
    split_ifs with hlate
    · show Except.ok (⌊(completed - (scheduled + period)) / period⌋ + 1) = _
      rw [floor_eq_slots hperiod hlate]
    · rw [slots, if_pos (not_le.mp hlate), Nat.cast_zero]
  rw [wp_bind, wp_ofExcept]
  constructor
  · intro skipped hok
    obtain rfl := Except.ok.inj (hskipped.symm.trans hok)
    rw [wp_bind, wp_modify, wp_ret]
    refine ⟨?_, rfl, rfl⟩
    show (if decide (scheduled + period ≤ completed) = true then
      scheduled + period + ((slots (scheduled + period) period completed : ℤ) : ℚ) * period
        else scheduled + period) = _
    simp only [decide_eq_true_eq]
    split_ifs with hlate
    · rw [Int.cast_natCast]
    · rw [slots, if_pos (not_le.mp hlate), Nat.cast_zero, zero_mul, add_zero]
  · intro e hraised
    cases hskipped.symm.trans hraised

/-! ## Repeated advances -/

/-- The deadline after polls that were completed at the given times. -/
def polls (period : ℚ) : ℚ → List ℚ → Except PyException ℚ
  | deadline, [] => .ok deadline
  | deadline, now :: rest => checkedPeriodicDeadline deadline period now >>= (polls period · rest)

/-- The release after ticks that were completed at the given times. -/
def releases (period : ℚ) : ℚ → List ℚ → LoopM ℚ τ ℚ
  | scheduled, [] => ret scheduled
  | scheduled, completed :: rest => do
    let next ← advancePhaseLockedPolicyRelease scheduled period completed
    releases period next rest

/-- **Polls stay on the grid** of the first deadline. -/
theorem polls_mem_phaseGrid {start period : ℚ} (hperiod : 0 < period) (times : List ℚ)
    (n : ℕ) : ∃ m : ℕ, polls period (start + n * period) times = .ok (start + m * period) := by
  induction times generalizing n with
  | nil => exact ⟨n, rfl⟩
  | cons now rest ih =>
    rw [polls, checkedPeriodicDeadline_eq hperiod, except_ok_bind]
    have hnext : start + n * period + slots (start + n * period) period now * period =
        start + ((n + slots (start + n * period) period now : ℕ) : ℚ) * period := by
      push_cast
      ring
    rw [hnext]
    exact ih _

/-- **Releases stay on the grid** of the first one: a period for each of them and one for each slot
that was skipped. -/
theorem wp_releases {start period : ℚ} (hperiod : 0 < period) (times : List ℚ) (n : ℕ) :
    wp (releases period (start + n * period) times)
      (fun release s' t' => ∃ skipped : ℕ,
        release = start + (n + times.length + skipped : ℕ) * period ∧
        s'.runtime.policyScheduleSkippedSlotCount =
          s.runtime.policyScheduleSkippedSlotCount + skipped ∧ t' = t)
      (fun _ _ _ => False) s t := by
  induction times generalizing n s t with
  | nil =>
    rw [releases, wp_ret]
    exact ⟨0, rfl, (Int.add_zero _).symm, rfl⟩
  | cons completed rest ih =>
    rw [releases, wp_bind]
    refine wp_mono (wp_advancePhaseLockedPolicyRelease hperiod _ completed) ?_ fun _ _ _ h => h
    rintro next s' t' ⟨hnext, hcount, rfl⟩
    have hgrid : next = start +
        ((n + 1 + slots (start + n * period + period) period completed : ℕ) : ℚ) * period := by
      rw [hnext]
      push_cast
      ring
    rw [hgrid]
    refine wp_mono (ih _) ?_ fun _ _ _ h => h
    rintro release s'' t'' ⟨skipped, hrelease, hsum, ht⟩
    refine ⟨slots (start + n * period + period) period completed + skipped, ?_, ?_, ht⟩
    · rw [hrelease, List.length_cons]
      push_cast
      ring
    · rw [hsum, hcount]
      push_cast
      ring

/-! ## The law -/

/-- **Both schedulers keep to their grid.** From every point of it they advance to the least later
point after the given time, the release by at least a period; the skipped slots are counted exactly;
and no number of advances leaves the grid. -/
theorem deadline_grids {start period : ℚ} (hperiod : 0 < period) (n : ℕ)
    (s : LoopState ℚ τ) (t : List (LoopEvent ℚ)) :
    (∀ now, ∃ next, checkedPeriodicDeadline (start + n * period) period now = .ok next ∧
      IsLeast {x | (x ∈ phaseGrid start period ∧ start + n * period ≤ x) ∧ now < x} next) ∧
    (∀ completed, wp (advancePhaseLockedPolicyRelease (start + n * period) period completed)
      (fun next s' _ =>
        IsLeast {x | (x ∈ phaseGrid start period ∧ start + n * period + period ≤ x) ∧
          completed < x} next ∧
        s'.runtime.policyScheduleSkippedSlotCount = s.runtime.policyScheduleSkippedSlotCount +
          {x | (x ∈ phaseGrid start period ∧ start + n * period + period ≤ x) ∧
            x ≤ completed}.ncard)
      (fun _ _ _ => False) s t) ∧
    (∀ times, (∃ deadline ∈ phaseGrid start period,
      polls period (start + n * period) times = .ok deadline) ∧
      wp (releases period (start + n * period) times)
        (fun release _ _ => release ∈ phaseGrid start period) (fun _ _ _ => False) s t) := by
  have htail (m : ℕ) : {x | x ∈ phaseGrid start period ∧ start + m * period ≤ x} =
      phaseGrid (start + m * period) period := by
    ext x
    exact (mem_phaseGrid_tail hperiod m).symm
  have hsucc : start + n * period + period = start + ((n + 1 : ℕ) : ℚ) * period := by
    push_cast
    ring
  refine ⟨fun now => ?_, fun completed => ?_, fun times => ⟨?_, ?_⟩⟩
  · refine ⟨_, checkedPeriodicDeadline_eq hperiod _ now, ?_⟩
    have hleast := @isLeast_slots (start + n * period) period hperiod now
    rw [← htail n] at hleast
    exact hleast
  · refine wp_mono (wp_advancePhaseLockedPolicyRelease hperiod _ completed) ?_ fun _ _ _ h => h
    rintro next s' t' ⟨rfl, hcount, -⟩
    rw [hcount, hsucc]
    have hleast := @isLeast_slots (start + (n + 1 : ℕ) * period) period hperiod completed
    have hncard := @ncard_slots (start + (n + 1 : ℕ) * period) period hperiod completed
    rw [← htail (n + 1)] at hleast hncard
    exact ⟨hleast, by rw [← hncard]; rfl⟩
  · obtain ⟨m, hm⟩ := polls_mem_phaseGrid hperiod times n
    exact ⟨_, ⟨m, rfl⟩, hm⟩
  · refine wp_mono (wp_releases hperiod times n) ?_ fun _ _ _ h => h
    rintro release s' t' ⟨skipped, rfl, -, -⟩
    exact ⟨_, rfl⟩

theorem late_poll_keeps_the_grid :
    ∃ next : ℚ, checkedPeriodicDeadline ((10 : ℚ) + (0 : ℕ) * (1 / 20)) (1 / 20) (101 / 10) =
      .ok next ∧
      IsLeast {x : ℚ | (x ∈ phaseGrid 10 (1 / 20) ∧ 10 + (0 : ℕ) * (1 / 20) ≤ x) ∧ 101 / 10 < x}
        next :=
  (@deadline_grids Unit 10 (1 / 20) (by norm_num) 0 ⟨.init, ()⟩ []).1 (101 / 10)

end FrankaDeploy.Runtime.PolicyLoop
