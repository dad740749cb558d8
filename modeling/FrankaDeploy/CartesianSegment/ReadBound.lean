import FrankaDeploy.CartesianSegment.SegmentRun
import Mathlib.Tactic.NormNum

/-! # The number of reads

Every read but the first, and but the last of each phase, adds a period of more than
`min_control_period_s` to a time that stays below a limit of the contract. The times are sums in
binary64: the rounding of at most `kMaximumControlCycles` additions is worth less than one
period. -/

namespace FrankaDeploy.CartesianSegment

open FrankaDeploy.Foundation
open Ieee (AtLeast grown halfUlp)
open FloatArith (ofRat isFinite zero one)
open scoped FloatArith

def seconds (x : Binary64) : ℚ := x.toRat?.getD 0

theorem toRat?_of_isFinite {x : Binary64} (h : isFinite x = true) :
    x.toRat? = some (seconds x) := by
  obtain ⟨v, hv⟩ := Option.isSome_iff_exists.mp (show (Ieee.toRat? x).isSome = true from h)
  rw [seconds, hv]
  rfl

/-! ## What the contract says about the times -/

structure PositiveTime (x : Binary64) : Prop where
  finite : isFinite x = true
  pos : 0 < seconds x

theorem positiveTime_of_require {x : Binary64} {name : String}
    (h : requireFinitePositive x name = .ok ()) : PositiveTime x := by
  have hpositive := rejectIf_eq_ok.mp h
  simp only [not_or, Bool.not_eq_true', Bool.not_eq_false] at hpositive
  obtain ⟨hfinite, hnot⟩ := hpositive
  have hlt := Ieee.lt_of_not_le (Ieee.isNaN_round _ _) (Ieee.isNaN_of_isFinite hfinite) hnot
  have hkey : 0 ≤ (zero : Binary64).key := Ieee.key_round_nonneg false le_rfl
  exact ⟨hfinite, Ieee.pos_of_key_pos (toRat?_of_isFinite hfinite)
    (hkey.trans_lt (Ieee.lt_iff.mp hlt).2.2)⟩

/-- **The times of an accepted contract.** -/
structure TimedContract (config : CartesianSegmentConfig Binary64) : Prop where
  period : PositiveTime config.minControlPeriodS
  startup : PositiveTime config.startupDeadlineS
  duration : PositiveTime config.durationS
  endpoint : PositiveTime config.endpointTimeoutS

theorem ok_of_check {β : Type} {x : Except String Unit} {f : Unit → Except String β} {b : β}
    (h : (x >>= f) = .ok b) : x = .ok () ∧ f () = .ok b := by
  obtain ⟨⟨⟩, hx, hf⟩ := except_bind_eq_ok.mp h
  exact ⟨hx, hf⟩

theorem timedContract_of_accepted {libm : Libm Binary64} {plannedStart target : Pose Binary64}
    {config : CartesianSegmentConfig Binary64}
    (h : validateCartesianSegmentContract libm plannedStart target config = .ok ()) :
    TimedContract config := by
  unfold validateCartesianSegmentContract at h
  -- The rigid transforms, the workspace and the joint bounds.
  iterate 5 replace h := (ok_of_check h).2
  obtain ⟨hduration, h⟩ := ok_of_check h
  iterate 5 replace h := (ok_of_check h).2
  obtain ⟨rotation, -, h⟩ := except_bind_eq_ok.mp h
  iterate 2 replace h := (ok_of_check h).2
  obtain ⟨hendpoint, h⟩ := ok_of_check h
  -- The arrival bounds, the control success and its window.
  iterate 9 replace h := (ok_of_check h).2
  obtain ⟨hstartup, h⟩ := ok_of_check h
  iterate 2 replace h := (ok_of_check h).2
  obtain ⟨hperiod, -⟩ := ok_of_check h
  exact ⟨positiveTime_of_require hperiod, positiveTime_of_require hstartup,
    positiveTime_of_require hduration, positiveTime_of_require hendpoint⟩

/-! ## Budgets -/

def leastPeriod (config : CartesianSegmentConfig Binary64) : ℚ := seconds config.minControlPeriodS

/-- **A number of reads that fits a limit** of so many seconds. -/
def Fits (config : CartesianSegmentConfig Binary64) (n : ℕ) (limit : ℚ) : Prop :=
  (n : ℚ) < limit / leastPeriod config + 1

/-- **A time to which `n` positive periods have been added.** -/
def Advanced (config : CartesianSegmentConfig Binary64) (n : ℕ) (time : Binary64) : Prop :=
  AtLeast (grown binary64Format n (leastPeriod config)) time

variable {config : CartesianSegmentConfig Binary64}

theorem fits_zero (hconfig : TimedContract config) {limit : ℚ} (h : 0 < limit) :
    Fits config 0 limit := by
  have := div_pos h hconfig.period.pos
  unfold Fits leastPeriod
  push_cast
  linarith

theorem advanced_zero : Advanced config 0 zero := by
  have hvalue : (zero : Binary64).toRat? = some 0 := by decide +kernel
  refine (Ieee.atLeast_self hvalue).mono ?_
  simp [grown]

theorem leastPeriod_atLeast (hconfig : TimedContract config) {first : Bool} {dt : Binary64}
    (h : validatePeriod config first dt = none) (hdt : dt > zero) :
    AtLeast (leastPeriod config) dt := by
  unfold validatePeriod at h
  have hrange := faultIf_eq_none.mp (or_eq_none.mp h).1
  simp only [not_or, not_and, Bool.not_eq_true', Bool.not_eq_false] at hrange
  obtain ⟨hfinite, -, -, hleast⟩ := hrange
  have hlt := Ieee.lt_of_not_le (Ieee.isNaN_of_isFinite hconfig.period.finite)
    (Ieee.isNaN_of_isFinite hfinite) (hleast hdt)
  exact Ieee.atLeast_of_lt (toRat?_of_isFinite hconfig.period.finite) hlt hfinite

theorem Advanced.succ (hconfig : TimedContract config) {n : ℕ} {first : Bool}
    {time dt : Binary64} (h : Advanced config n time)
    (hperiod : validatePeriod config first dt = none) (hdt : dt > zero) :
    Advanced config (n + 1) (time + dt) :=
  h.grown_succ hconfig.period.pos.le (leastPeriod_atLeast hconfig hperiod hdt)

theorem rounding_lt_one {n : ℕ} (hn : n ≤ kMaximumControlCycles) :
    (n : ℚ) * (n + 1 : ℕ) * halfUlp binary64Format < 1 := by
  have hle : (n : ℚ) ≤ 2000000 := by exact_mod_cast hn
  have hsucc : ((n + 1 : ℕ) : ℚ) ≤ 2000001 := by
    push_cast
    linarith
  calc (n : ℚ) * (n + 1 : ℕ) * halfUlp binary64Format
      ≤ 2000000 * 2000001 * halfUlp binary64Format := by
        refine mul_le_mul_of_nonneg_right ?_ Ieee.halfUlp_nonneg
        exact mul_le_mul hle hsucc (Nat.cast_nonneg _) (by norm_num)
    _ < 1 := by norm_num [halfUlp]

theorem Advanced.fits_of_lt (hconfig : TimedContract config) {n : ℕ} {time limit : Binary64}
    (h : Advanced config n time) (hn : n ≤ kMaximumControlCycles) (hlimit : isFinite limit = true)
    (hlt : time < limit) : Fits config n (seconds limit) :=
  Ieee.lt_of_grown_le hconfig.period.pos (rounding_lt_one hn)
    (Ieee.grown_mul_le hconfig.period.pos.le (h.le_of_lt hlt (toRat?_of_isFinite hlimit)))

/-- **A time that with the slack is below a limit** has few periods. -/
theorem Advanced.fits_of_slack (hconfig : TimedContract config) {n : ℕ} {time limit : Binary64}
    (h : Advanced config n time) (hn : n ≤ kMaximumControlCycles) (hlimit : isFinite limit = true)
    (hnot : ¬ time + ofRat timeSlack ≥ limit) : Fits config n (seconds limit) := by
  have hslack : AtLeast 0 (ofRat timeSlack : Binary64) :=
    (Ieee.atLeast_self (v := seconds (ofRat timeSlack)) (by decide +kernel)).mono
      (by decide +kernel)
  have hsum := h.add hslack (Ieee.grown_nonneg n hconfig.period.pos.le) le_rfl
  rw [add_zero] at hsum
  have hlt := Ieee.lt_of_not_le hsum.number (Ieee.isNaN_of_isFinite hlimit) hnot
  exact Ieee.lt_of_grown_le hconfig.period.pos (rounding_lt_one hn)
    (hsum.le_of_lt hlt (toRat?_of_isFinite hlimit))

/-! ## The budget of a phase -/

/-- **The reads that all phases together admit.** -/
def readLimit (config : CartesianSegmentConfig Binary64) : ℚ :=
  (seconds config.startupDeadlineS + seconds config.durationS +
    seconds config.endpointTimeoutS) / leastPeriod config + 7

/-- **What `k` answered reads have cost in a phase.** The first read may have no period; the
qualifying read may come at the deadline and the last one of the trajectory completes it. -/
def Budget (config : CartesianSegmentConfig Binary64) : SegmentPhase Binary64 → ℕ → Prop
  | .holding _ _ controlTime, k =>
    ∃ n, n ≤ k ∧ k ≤ n + 1 ∧ Advanced config n controlTime ∧
      Fits config n (seconds config.startupDeadlineS)
  | .moving _ trajectory endpoint _, k =>
    ∃ n j i, n + j + i ≤ k ∧ k ≤ n + 2 + j + i ∧
      Fits config n (seconds config.startupDeadlineS) ∧
      Advanced config j trajectory ∧ Fits config (j - 1) (seconds config.durationS) ∧
      Advanced config i endpoint ∧ Fits config i (seconds config.endpointTimeoutS)
  | .finished, k | .failed, k => (k : ℚ) < readLimit config

/-- **The total**: one more read than the budget of any phase is within the limit. -/
theorem Budget.lt_readLimit (hconfig : TimedContract config) {phase : SegmentPhase Binary64}
    {k : ℕ} (h : Budget config phase k) (hlive : phase.Live) :
    ((k + 1 : ℕ) : ℚ) < readLimit config := by
  have hstartup := div_pos hconfig.startup.pos hconfig.period.pos
  have hduration := div_pos hconfig.duration.pos hconfig.period.pos
  have hendpoint := div_pos hconfig.endpoint.pos hconfig.period.pos
  have hsplit : readLimit config = seconds config.startupDeadlineS / leastPeriod config +
      seconds config.durationS / leastPeriod config +
      seconds config.endpointTimeoutS / leastPeriod config + 7 := by
    rw [readLimit, add_div, add_div]
  rw [hsplit]
  change 0 < _ / leastPeriod config at hstartup hduration hendpoint
  cases phase with
  | holding start positiveWrites controlTime =>
    obtain ⟨n, -, hk, -, hn⟩ := h
    have hk : ((k + 1 : ℕ) : ℚ) ≤ n + 2 := by exact_mod_cast Nat.succ_le_succ hk
    unfold Fits at hn
    linarith
  | moving start trajectory endpoint stable =>
    obtain ⟨n, j, i, -, hk, hn, -, hj, -, hi⟩ := h
    have hk : ((k + 1 : ℕ) : ℚ) ≤ n + (j - 1 : ℕ) + i + 4 := by
      have : k + 1 ≤ n + (j - 1) + i + 4 := by omega
      exact_mod_cast this
    unfold Fits at hn hj hi
    linarith
  | finished => exact hlive.elim
  | failed => exact hlive.elim

theorem Budget.lt_readLimit_of_lt (hconfig : TimedContract config)
    {phase : SegmentPhase Binary64} {k n : ℕ} (h : Budget config phase k) (hlive : phase.Live)
    (hn : n ≤ k + 1) : (n : ℚ) < readLimit config :=
  lt_of_le_of_lt (by exact_mod_cast hn) (h.lt_readLimit hconfig hlive)

/-- **The budget of the monitor's state**: an open read is not answered yet. -/
def Within (config : CartesianSegmentConfig Binary64) (m : Watch Binary64) : Prop :=
  match m.activity with
  | .idle => Budget config m.phase m.reads
  | .answering _ => m.phase.Live ∧ ∃ k, m.reads = k + 1 ∧ Budget config m.phase k
  | .writing next => m.phase.Live ∧ ∃ k, m.reads = k + 1 ∧ Budget config m.phase k ∧
      Budget config next (k + 1)

variable {libm : Libm Binary64} {target : Pose Binary64} {wallStart : ℤ}

theorem budget_hold (hconfig : TimedContract config) {start start' : Option (Pose Binary64)}
    {positiveWrites positiveWrites' k : ℕ} {controlTime : Binary64} {r : Reading Binary64}
    (hk : k + 1 ≤ kMaximumControlCycles)
    (hr : r.Admissible config wallStart (decide (k + 1 = 1)))
    (hbefore : ¬ StartupTimedOut config (advance controlTime r.dt) (r.wallElapsed wallStart))
    (h : Budget config (.holding start positiveWrites controlTime) k) :
    Budget config (.holding start' positiveWrites' (advance controlTime r.dt)) (k + 1) := by
  obtain ⟨n, hnk, hkn, hn, hfits⟩ := h
  by_cases hdt : r.dt > zero
  · rw [advance_of_positive controlTime hdt] at hbefore ⊢
    have hnext := hn.succ hconfig hr.period hdt
    refine ⟨n + 1, by omega, by omega, hnext, ?_⟩
    exact hnext.fits_of_slack hconfig (by omega) hconfig.startup.finite
      fun hout => hbefore (.inl hout)
  · -- Only the first read has no period.
    have hfirst : k = 0 := by
      by_contra hne
      have hperiod := hr.period
      rw [decide_eq_false (show ¬ k + 1 = 1 by omega)] at hperiod
      exact hdt (positive_of_validatePeriod hperiod)
    rw [show advance controlTime r.dt = controlTime from if_neg hdt]
    exact ⟨n, by omega, by omega, hn, hfits⟩

theorem within_step (hconfig : TimedContract config) {m m' : Watch Binary64}
    {event : SegmentEvent Binary64} (hreads : m'.reads ≤ kMaximumControlCycles)
    (h : Within config m) (hstep : SegmentStep libm target config wallStart m event m') :
    Within config m' := by
  cases hstep with
  | read r hlive hlt => exact ⟨hlive, _, rfl, h⟩
  | hold hr hbefore =>
    obtain ⟨-, k, hk, hbudget⟩ := h
    dsimp only at hk hreads hr
    subst hk
    exact ⟨trivial, k, rfl, hbudget, budget_hold hconfig hreads hr hbefore hbudget⟩
  | qualify hr hcandidate =>
    obtain ⟨-, k, hk, hbudget⟩ := h
    obtain ⟨n, hnk, hkn, -, hfits⟩ := id hbudget
    refine ⟨trivial, k, hk, hbudget, n, 0, 0, by omega, by omega, hfits, advanced_zero, ?_,
      advanced_zero, ?_⟩
    · exact fits_zero hconfig hconfig.duration.pos
    · exact fits_zero hconfig hconfig.endpoint.pos
  | travel hsteady hbefore hmake hsample hvalid hinside =>
    obtain ⟨-, k, hk, hbudget⟩ := h
    dsimp only at hk hreads
    obtain ⟨n, j, i, hle, hge, hn, hj, hjfits, hi, hifits⟩ := id hbudget
    refine ⟨trivial, k, hk, hbudget, n, j + 1, i, by omega, by omega, hn,
      hj.succ hconfig hsteady.admissible.period hsteady.positive, ?_, hi, hifits⟩
    exact hj.fits_of_lt hconfig (by omega) hconfig.duration.finite hbefore
  | dwell hsteady hcomplete htimely hcount =>
    obtain ⟨-, k, hk, hbudget⟩ := h
    dsimp only at hk hreads
    obtain ⟨n, j, i, hle, hge, hn, hj, hjfits, hi, hifits⟩ := id hbudget
    have hnext := hi.succ hconfig hsteady.admissible.period hsteady.positive
    refine ⟨trivial, k, hk, hbudget, n, j, i + 1, by omega, by omega, hn, hj, hjfits, hnext, ?_⟩
    exact hnext.fits_of_slack hconfig (by omega) hconfig.endpoint.finite htimely
  | finish hsteady hcomplete harrived hsettled =>
    obtain ⟨-, k, hk, hbudget⟩ := h
    exact ⟨trivial, k, hk, hbudget, hbudget.lt_readLimit hconfig trivial⟩
  | written =>
    obtain ⟨-, k, hk, -, hnext⟩ := h
    dsimp only at hk
    show Budget config _ _
    rw [hk]
    exact hnext
  | @failed phase activity reads code hlive =>
    show (reads : ℚ) < readLimit config
    cases activity with
    | idle => exact Budget.lt_readLimit_of_lt hconfig h hlive (Nat.le_succ _)
    | answering r =>
      obtain ⟨-, k, hk, hbudget⟩ := h
      exact hbudget.lt_readLimit_of_lt hconfig hlive hk.le
    | writing next =>
      obtain ⟨-, k, hk, hbudget, -⟩ := h
      exact hbudget.lt_readLimit_of_lt hconfig hlive hk.le

theorem within_of_watched (hconfig : TimedContract config) {t : List (SegmentEvent Binary64)}
    {m : Watch Binary64} (h : Watched libm target config wallStart t m) : Within config m := by
  induction h with
  | start => exact ⟨0, le_rfl, Nat.zero_le _, advanced_zero, fits_zero hconfig hconfig.startup.pos⟩
  | snoc htrace hstep ih =>
    exact within_step hconfig (watched_reads_le (htrace.snoc hstep)) ih hstep

theorem reads_lt_readLimit (hconfig : TimedContract config) {t : List (SegmentEvent Binary64)}
    {m : Watch Binary64} (h : Watched libm target config wallStart t m) :
    (m.reads : ℚ) < readLimit config := by
  have hwithin := within_of_watched hconfig h
  obtain ⟨phase, activity, reads⟩ := m
  cases activity with
  | idle =>
    have hbudget : Budget config phase reads := hwithin
    cases phase with
    | finished => exact hbudget
    | failed => exact hbudget
    | holding => exact hbudget.lt_readLimit_of_lt hconfig trivial (Nat.le_succ _)
    | moving => exact hbudget.lt_readLimit_of_lt hconfig trivial (Nat.le_succ _)
  | answering r =>
    obtain ⟨hlive, k, hk, hbudget⟩ := hwithin
    exact hbudget.lt_readLimit_of_lt hconfig hlive hk.le
  | writing next =>
    obtain ⟨hlive, k, hk, hbudget, -⟩ := hwithin
    exact hbudget.lt_readLimit_of_lt hconfig hlive hk.le

end FrankaDeploy.CartesianSegment
