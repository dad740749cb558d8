import FrankaDeploy.Foundation.ExactArith
import FrankaDeploy.Runtime.HoldStreak
import Mathlib.Algebra.Order.Floor.Ring
import Mathlib.Data.Rat.Floor
import Mathlib.Tactic.Linarith
import Mathlib.Tactic.NormNum

/-! # The margin before the hand's watchdog

The budget that the constructor admits leaves a tenth of the watchdog's timeout between the deadline
of a streak and the expiry of the watchdog, if the streak begins within a period of the last command.
A loop whose lateness fits in that tenth finds the deadline passed before the hand does. The numbers
are exact here. -/

namespace FrankaDeploy.Runtime.PolicyLoop

open FrankaDeploy.Foundation FrankaDeploy.Foundation.Program FrankaDeploy.Foundation.Monitor
open FrankaDeploy.TickSource (BoundedPolicyTickHold)
open scoped FloatArith

variable {τ : Type}

/-! ## The law -/

def hear : Option ℚ → LoopEvent ℚ → Option ℚ
  | _, .handCommanded time => some time
  | last, _ => last

/-- **When the hand took its last command.** -/
def lastCommand (t : List (LoopEvent ℚ)) : Option ℚ := t.foldl hear none

@[simp] theorem lastCommand_snoc (t : List (LoopEvent ℚ)) (event : LoopEvent ℚ) :
    lastCommand (t ++ [event]) = hear (lastCommand t) event := by
  unfold lastCommand
  rw [List.foldl_append, List.foldl_cons, List.foldl_nil]

/-- **Before the expiry**: a check in a streak comes before the watchdog of the last command. -/
def BeforeExpiry (C : Constants ℚ) (before : List (LoopEvent ℚ)) : LoopEvent ℚ → Prop
  | .checked now _ _ => ∀ first last, firstObservation before = some first →
      lastCommand before = some last → now < last + C.watchdogS
  | _ => True

/-! ## Punctual loops -/

/-- **How late a loop may be.** -/
structure Lateness where
  call : ℚ
  prepare : ℚ
  settle : ℚ
  nonneg : 0 ≤ call ∧ 0 ≤ prepare ∧ 0 ≤ settle

/-- **A punctual environment.** Reading the clock takes no time, and a hold is observed before it is
returned. -/
structure Punctual (W : LoopWorld ℚ τ) (clock : τ → ℚ) (l : Lateness) : Prop where
  shows : ∀ w, (W.now w).1 = clock w
  still : ∀ w, clock (W.now w).2 = clock w
  sleep : ∀ d w, 0 ≤ d → clock w ≤ clock (W.sleep d w).2 ∧ clock (W.sleep d w).2 ≤ clock w + d + l.call
  requireRunning : ∀ w, clock w ≤ clock (W.requireRunning w).2 ∧
    clock (W.requireRunning w).2 ≤ clock w + l.call
  requireLiveBoundary : ∀ now w, clock w ≤ clock (W.requireLiveBoundary now w).2 ∧
    clock (W.requireLiveBoundary now w).2 ≤ clock w + l.call
  requireUnchanged : ∀ w, clock w ≤ clock (W.requireUnchanged w).2 ∧
    clock (W.requireUnchanged w).2 ≤ clock w + l.call
  prepare : ∀ n now w, clock w ≤ clock (W.prepare n now w).2 ∧
    clock (W.prepare n now w).2 ≤ clock w + l.prepare
  observed : ∀ n now w hold, (W.prepare n now w).1 = .ok (.hold hold) →
    hold.observedMonotonicS ≤ clock (W.prepare n now w).2
  execute : ∀ n w, clock w ≤ clock (W.execute n w).2
  settled : ∀ n w e, (W.execute n w).1 = .ok e → clock (W.execute n w).2 ≤ e.handCommandAt + l.settle

/-- What a poll of the wait for a release may add to a check: where the releases lie on a grid, the
next one may be after the deadline, so that only the polls look for it. -/
def pollSlack (C : Constants ℚ) : ℚ :=
  if C.phaseLocked20hz = true then min C.commitPollIntervalS C.policyPeriodS else 0

/-- **What the lateness adds up to** from the hand's command to the check that finds the deadline
passed. -/
def Lateness.total (l : Lateness) (C : Constants ℚ) : ℚ :=
  l.settle + 2 * l.prepare + 7 * l.call + pollSlack C

/-! ## The budget -/

theorem finiteFloat_rat (x : ℚ) (name : String) : finiteFloat (some x) name = .ok x := rfl

theorem positiveFloat_eq_ok {value : Option ℚ} {name : String} {x : ℚ} :
    positiveFloat value name = .ok x ↔ value = some x ∧ 0 < x := by
  cases value with
  | none =>
    constructor
    · intro h
      cases h
    · rintro ⟨h, -⟩
      cases h
  | some y =>
    have hvalue : positiveFloat (some y) name =
        if decide (y ≤ 0) = true then .error (valueError s!"{name} must be positive") else .ok y := rfl
    rw [hvalue]
    simp only [decide_eq_true_eq]
    by_cases hy : y ≤ 0
    · rw [if_pos hy]
      constructor
      · intro h
        cases h
      · rintro ⟨h, hx⟩
        obtain rfl := Option.some.inj h
        exact absurd hy (not_le.mpr hx)
    · rw [if_neg hy]
      constructor
      · rintro ⟨⟩
        exact ⟨rfl, not_le.mp hy⟩
      · rintro ⟨h, -⟩
        rw [Option.some.inj h]

/-- **What the constructor admits.** -/
structure Admitted (C : Constants ℚ) : Prop where
  period : 0 < C.policyPeriodS
  poll : 0 < C.commitPollIntervalS
  hold : 0 < C.maximumConsecutiveNoStageHoldS
  budget : C.maximumConsecutiveNoStageHoldS + C.policyPeriodS ≤ 9 / 10 * C.watchdogS

theorem budget_of_validate {maximumHold watchdog rate : ℚ} {admission : Admission ℚ}
    (hrate : admission.policyRateHz = some rate)
    (h : validateNoStageHoldPrecedesWatchdog (some maximumHold) admission = .ok watchdog) :
    maximumHold + 1 / rate ≤ 9 / 10 * watchdog := by
  unfold validateNoStageHoldPrecedesWatchdog at h
  obtain ⟨hold, hhold, h⟩ := except_bind_eq_ok.mp h
  obtain ⟨w, -, h⟩ := except_bind_eq_ok.mp h
  obtain ⟨r, hr, h⟩ := except_bind_eq_ok.mp h
  obtain ⟨hhold, -⟩ := positiveFloat_eq_ok.mp hhold
  obtain ⟨hr, -⟩ := positiveFloat_eq_ok.mp hr
  obtain rfl := Option.some.inj hhold
  obtain rfl := Option.some.inj (hr.symm.trans hrate)
  obtain ⟨-, h⟩ := ite_error_eq_ok.mp h
  obtain ⟨hbudget, h⟩ := ite_error_eq_ok.mp h
  obtain rfl := Except.ok.inj h
  have hle : ¬ w * (90 / 100) - 1 / r < maximumHold := fun hlt => hbudget (decide_eq_true hlt)
  linarith

theorem admitted_of_makeConstants {admission : Admission ℚ} {maximumHold poll : Option ℚ}
    {startupSteps maximumSteps : ℕ} {hardDeadline : ℚ} {C : Constants ℚ}
    (h : makeConstants admission maximumHold poll startupSteps maximumSteps hardDeadline = .ok C) :
    Admitted C := by
  unfold makeConstants at h
  obtain ⟨poll, hpoll, h⟩ := except_bind_eq_ok.mp h
  obtain ⟨hold, hhold, h⟩ := except_bind_eq_ok.mp h
  obtain ⟨watchdog, hwatchdog, h⟩ := except_bind_eq_ok.mp h
  obtain ⟨rate, hrate, h⟩ := except_bind_eq_ok.mp h
  obtain rfl := Except.ok.inj h
  obtain ⟨-, hpoll⟩ := positiveFloat_eq_ok.mp hpoll
  obtain ⟨-, hhold⟩ := positiveFloat_eq_ok.mp hhold
  obtain ⟨hrate, hpos⟩ := positiveFloat_eq_ok.mp hrate
  exact ⟨div_pos one_pos hpos, hpoll, hhold, budget_of_validate hrate hwatchdog⟩

/-! ## Being on time -/

/-- **On time**: outside a streak the time is at most `x` after the last command, and in a streak, which
begins soon after a period, at most `y` after the deadline. -/
structure OnTime (C : Constants ℚ) (l : Lateness) (x y now : ℚ) (t : List (LoopEvent ℚ)) : Prop where
  idle : ∀ last, lastCommand t = some last → firstObservation t = none → now ≤ last + x
  begins : ∀ last first, lastCommand t = some last → firstObservation t = some first →
    first ≤ last + C.policyPeriodS + (l.settle + l.prepare + 4 * l.call)
  streak : ∀ last first, lastCommand t = some last → firstObservation t = some first →
    now ≤ first + C.maximumConsecutiveNoStageHoldS + y

/-- **The next release is in time**: a period after the last command, and in a streak within a period or
by the deadline. -/
structure Released (C : Constants ℚ) (l : Lateness) (next now : ℚ) (t : List (LoopEvent ℚ)) :
    Prop where
  idle : ∀ last, lastCommand t = some last → firstObservation t = none →
    next ≤ last + l.settle + C.policyPeriodS
  grid : ∀ last first, lastCommand t = some last → firstObservation t = some first →
    C.phaseLocked20hz = true → next ≤ now + C.policyPeriodS
  free : ∀ last first, lastCommand t = some last → firstObservation t = some first →
    C.phaseLocked20hz = false → next ≤ first + C.maximumConsecutiveNoStageHoldS

def Kept (C : Constants ℚ) (s : LoopState ℚ τ) (t : List (LoopEvent ℚ)) : Prop :=
  Anchored C s t ∧ Everywhere (BeforeExpiry C) t

variable {W : LoopWorld ℚ τ} {C : Constants ℚ} {clock : τ → ℚ} {l : Lateness} {x y now next : ℚ}
  {s : LoopState ℚ τ} {t t' : List (LoopEvent ℚ)}

theorem OnTime.later {later d : ℚ} (h : OnTime C l x y now t) (hlater : later ≤ now + d) :
    OnTime C l (x + d) (y + d) later t where
  idle last hlast hnone := by
    have hnow := h.idle last hlast hnone
    linarith
  begins := h.begins
  streak last first hlast hfirst := by
    have hnow := h.streak last first hlast hfirst
    linarith

theorem OnTime.congr (h : OnTime C l x y now t) (hfirst : firstObservation t' = firstObservation t)
    (hlast : lastCommand t' = lastCommand t) : OnTime C l x y now t' where
  idle := by
    rw [hfirst, hlast]
    exact h.idle
  begins := by
    rw [hfirst, hlast]
    exact h.begins
  streak := by
    rw [hfirst, hlast]
    exact h.streak

theorem Released.congr (h : Released C l next now t)
    (hfirst : firstObservation t' = firstObservation t) (hlast : lastCommand t' = lastCommand t) :
    Released C l next now t' where
  idle := by
    rw [hfirst, hlast]
    exact h.idle
  grid := by
    rw [hfirst, hlast]
    exact h.grid
  free := by
    rw [hfirst, hlast]
    exact h.free

theorem Released.later {later : ℚ} (h : Released C l next now t) (hlater : now ≤ later) :
    Released C l next later t where
  idle := h.idle
  grid last first hlast hfirst hlocked := by
    have hnext := h.grid last first hlast hfirst hlocked
    linarith
  free := h.free

/-- **In time is before the expiry**: whoever is on time up to a poll and a tick is not late. -/
theorem OnTime.before (hA : Admitted C) (hl : l.total C < C.watchdogS / 10)
    (h : OnTime C l x y now t) (hy : y ≤ pollSlack C + l.prepare + 3 * l.call) :
    ∀ first last, firstObservation t = some first → lastCommand t = some last →
      now < last + C.watchdogS := by
  intro first last hfirst hlast
  have hbegins := h.begins last first hlast hfirst
  have hstreak := h.streak last first hlast hfirst
  have hbudget := hA.budget
  unfold Lateness.total at hl
  linarith

theorem pollSlack_nonneg (hA : Admitted C) : 0 ≤ pollSlack C := by
  unfold pollSlack
  by_cases hlocked : C.phaseLocked20hz = true
  · rw [if_pos hlocked]
    exact le_min hA.poll.le hA.period.le
  · rw [if_neg hlocked]

/-! ## The operations on time -/

theorem observe_of_checked (first : Option ℚ) (d : Option ℚ) (fault : Bool) :
    observe first (.checked now d fault) = first := by
  cases first with
  | none => rfl
  | some _ => rfl

theorem wp_callWorld_within {α : Type} {Q : α → LoopState ℚ τ → List (LoopEvent ℚ) → Prop}
    {f : τ → Except PyException α × τ} (h : Kept C s t)
    (hQ : ∀ a, (f s.world).1 = .ok a → Q a { s with world := (f s.world).2 } t) :
    wp (callWorld f) Q (fun _ => Kept C) s t :=
  wp_callWorld hQ fun _ _ => h

theorem Punctual.wp_readNow (hW : Punctual W clock l)
    {Q : ℚ → LoopState ℚ τ → List (LoopEvent ℚ) → Prop}
    {E : PyException → LoopState ℚ τ → List (LoopEvent ℚ) → Prop}
    (hQ : ∀ w, clock w = clock s.world → Q (clock s.world) { s with world := w } t) :
    wp W.readNow Q E s t := by
  rw [LoopWorld.readNow]
  refine wp_callWorld (fun a ha => ?_) fun e he => ?_
  · obtain rfl : clock s.world = a := (hW.shows s.world).symm.trans (Except.ok.inj ha)
    exact hQ _ (hW.still s.world)
  · cases he

theorem wp_require_before (h : Kept C s t) (hbefore : ∀ first last, firstObservation t = some first →
      lastCommand t = some last → now < last + C.watchdogS) :
    wp (requireNoStagePolicyHoldWithinBound C now)
      (fun _ s' t' => Kept C s' t' ∧ s'.world = s.world ∧
        firstObservation t' = firstObservation t ∧ lastCommand t' = lastCommand t ∧
        ∀ first, firstObservation t = some first →
          now < first + C.maximumConsecutiveNoStageHoldS)
      (fun _ => Kept C) s t := by
  obtain ⟨hanchored, hlaw⟩ := h
  refine wp_mono (wp_require hanchored) ?_ ?_
  · rintro - s' _ ⟨hanchored', hworld, rfl, hpassed⟩
    refine ⟨⟨hanchored', hlaw.snoc hbefore⟩, hworld, ?_, ?_, fun first hfirst => ?_⟩
    · rw [firstObservation_snoc, observe_of_checked]
    · rw [lastCommand_snoc]
      rfl
    · exact of_decide_eq_true (hpassed first hfirst)
  · rintro e s' t' ⟨hanchored', rfl | rfl⟩
    · exact ⟨hanchored', hlaw⟩
    · exact ⟨hanchored', hlaw.snoc hbefore⟩

theorem OnTime.passed (h : OnTime C l x y now t)
    (hpassed : ∀ first, firstObservation t = some first →
      now < first + C.maximumConsecutiveNoStageHoldS) : OnTime C l x 0 now t where
  idle := h.idle
  begins := h.begins
  streak last first hlast hfirst := by
    have hnow := hpassed first hfirst
    linarith

theorem wp_require_onTime (hA : Admitted C) (hl : l.total C < C.watchdogS / 10) (h : Kept C s t)
    (htime : OnTime C l x y now t) (hy : y ≤ pollSlack C + l.prepare + 3 * l.call) :
    wp (requireNoStagePolicyHoldWithinBound C now)
      (fun _ s' t' => Kept C s' t' ∧ s'.world = s.world ∧
        firstObservation t' = firstObservation t ∧ lastCommand t' = lastCommand t ∧
        OnTime C l x 0 now t')
      (fun _ => Kept C) s t := by
  refine wp_mono (wp_require_before h (htime.before hA hl hy)) ?_ fun _ _ _ h => h
  rintro - s' t' ⟨hkept, hworld, hfirst, hlast, hpassed⟩
  exact ⟨hkept, hworld, hfirst, hlast, (htime.passed hpassed).congr hfirst hlast⟩

/-- **The next slot of the grid** is at most a period away. -/
theorem wp_advance {scheduled completed : ℚ} (hA : Admitted C) (h : Kept C s t)
    (hscheduled : scheduled ≤ completed) :
    wp (advancePhaseLockedPolicyRelease scheduled C.policyPeriodS completed)
      (fun next s' t' => Kept C s' t' ∧ s'.world = s.world ∧ t' = t ∧
        next ≤ completed + C.policyPeriodS)
      (fun _ => Kept C) s t := by
  have hperiod := hA.period
  rw [advancePhaseLockedPolicyRelease, wp_bind, wp_ofExcept]
  refine ⟨?_, fun _ _ => h⟩
  rintro _ ⟨⟩
  rw [wp_bind, wp_ofExcept]
  refine ⟨fun period hok => ?_, fun _ _ => h⟩
  obtain rfl : C.policyPeriodS = period := Option.some.inj (positiveFloat_eq_ok.mp hok).1
  rw [wp_bind, wp_ofExcept]
  refine ⟨?_, fun _ _ => h⟩
  rintro _ ⟨⟩
  rw [wp_bind, wp_ofExcept]
  refine ⟨fun skipped hskipped => ?_, fun _ _ => h⟩
  rw [wp_bind, wp_modify, wp_ret]
  refine ⟨⟨⟨h.1.1, h.1.2⟩, h.2⟩, rfl, rfl, ?_⟩
  change (if decide (scheduled + C.policyPeriodS ≤ completed) = true then
    (mathFloor ((completed - (scheduled + C.policyPeriodS)) / C.policyPeriodS)).map (· + 1)
    else .ok 0) = _ at hskipped
  show (if decide (scheduled + C.policyPeriodS ≤ completed) = true then
    scheduled + C.policyPeriodS + (skipped : ℚ) * C.policyPeriodS
    else scheduled + C.policyPeriodS) ≤ _
  simp only [decide_eq_true_eq] at hskipped ⊢
  by_cases hlate : scheduled + C.policyPeriodS ≤ completed
  · rw [if_pos hlate] at hskipped ⊢
    obtain rfl : ⌊(completed - (scheduled + C.policyPeriodS)) / C.policyPeriodS⌋ + 1 = skipped :=
      Except.ok.inj hskipped
    have hfloor := Int.floor_le ((completed - (scheduled + C.policyPeriodS)) / C.policyPeriodS)
    have hslots := mul_le_mul_of_nonneg_right hfloor hperiod.le
    rw [div_mul_cancel₀ _ hperiod.ne'] at hslots
    push_cast
    linarith
  · rw [if_neg hlate]
    linarith

/-! ## The loops on time -/

theorem pyMin_rat (x y : ℚ) : pyMin x y = min x y := by
  unfold pyMin
  show (if decide (y < x) = true then y else x) = _
  simp only [decide_eq_true_eq]
  by_cases h : y < x
  · rw [if_pos h, min_eq_right h.le]
  · rw [if_neg h, min_eq_left (not_lt.mp h)]

theorem pyMax_rat (x y : ℚ) : pyMax x y = max x y := by
  unfold pyMax
  show (if decide (x < y) = true then y else x) = _
  simp only [decide_eq_true_eq]
  by_cases h : x < y
  · rw [if_pos h, max_eq_right h.le]
  · rw [if_neg h, max_eq_left (not_lt.mp h)]

/-- **After a poll's sleep**: outside a streak the release is not missed by more than two calls, and in
a streak the deadline by no more than a poll. -/
theorem OnTime.slept {later : ℚ} (hA : Admitted C) (htime : OnTime C l x 0 now t)
    (hnext : Released C l next now t)
    (hlater : later ≤ now + l.call + min C.commitPollIntervalS (next - now) + l.call) :
    OnTime C l (l.settle + C.policyPeriodS + 2 * l.call) (pollSlack C + 2 * l.call) later t where
  idle last hlast hnone := by
    have hrelease := hnext.idle last hlast hnone
    have hsleep := min_le_right C.commitPollIntervalS (next - now)
    linarith
  begins := htime.begins
  streak last first hlast hfirst := by
    have hnow := htime.streak last first hlast hfirst
    cases hlocked : C.phaseLocked20hz with
    | true =>
      have hrelease := hnext.grid last first hlast hfirst hlocked
      have hslack : pollSlack C = min C.commitPollIntervalS C.policyPeriodS := by
        unfold pollSlack
        rw [if_pos hlocked]
      have hsleep : min C.commitPollIntervalS (next - now) ≤
          min C.commitPollIntervalS C.policyPeriodS :=
        min_le_min_left _ (by linarith)
      rw [hslack]
      linarith
    | false =>
      have hrelease := hnext.free last first hlast hfirst hlocked
      have hslack := pollSlack_nonneg hA
      have hsleep := min_le_right C.commitPollIntervalS (next - now)
      linarith

/-- **The wait for a release.** The induction is over the polls, each of which begins as the one before
it ended. -/
theorem wp_waitForPolicyRelease (hW : Punctual W clock l) (hA : Admitted C)
    (hl : l.total C < C.watchdogS / 10) (polls : ℕ) (h : Kept C s t)
    (htime : OnTime C l (l.settle + C.policyPeriodS + 2 * l.call) (pollSlack C + 2 * l.call)
      (clock s.world) t)
    (hnext : Released C l next (clock s.world) t) :
    wp (W.waitForPolicyRelease C next polls)
      (fun released s' t' => Kept C s' t' ∧ (released = some true → next ≤ clock s'.world ∧
        OnTime C l (l.settle + C.policyPeriodS + 3 * l.call) 0 (clock s'.world) t'))
      (fun _ => Kept C) s t := by
  induction polls generalizing s t with
  | zero =>
    rw [LoopWorld.waitForPolicyRelease, wp_ret]
    refine ⟨h, fun hreleased => ?_⟩
    cases hreleased
  | succ polls ih =>
    obtain ⟨hcall, hprepare, hsettle⟩ := l.nonneg
    rw [LoopWorld.waitForPolicyRelease, wp_bind]
    refine wp_callWorld_within h fun running _ => ?_
    obtain ⟨hforward, hrunning⟩ := hW.requireRunning s.world
    have hnext := hnext.later hforward
    have htime := htime.later hrunning
    rw [wp_ite]
    refine ⟨fun _ => ?_, fun _ => ?_⟩
    · rw [wp_ret]
      refine ⟨h, fun hreleased => ?_⟩
      cases hreleased
    · rw [wp_bind]
      refine hW.wp_readNow fun w hw => ?_
      rw [wp_bind]
      refine wp_mono (wp_require_onTime (s := { s with world := w }) hA hl h htime
        (by linarith)) ?_ fun _ _ _ h => h
      rintro - s' t' ⟨hkept, hworld, hfirst, hlast, htime⟩
      have hclock : clock s'.world = clock (W.requireRunning s.world).2 := by
        rw [hworld]
        exact hw
      have hnext := hnext.congr hfirst hlast
      rw [wp_bind, wp_check]
      refine ⟨fun _ => hkept, fun _ => ?_⟩
      rw [wp_ite]
      refine ⟨fun hreached => ?_, fun hearly => ?_⟩
      · rw [wp_ret]
        refine ⟨hkept, fun _ => ⟨?_, ?_⟩⟩
        · rw [hclock]
          exact of_decide_eq_true hreached
        · rw [hclock]
          exact ⟨fun last hl hn => by linarith [htime.idle last hl hn], htime.begins,
            htime.streak⟩
      · have hearly : clock (W.requireRunning s.world).2 < next := by
          have hnot : ¬ next ≤ clock (W.requireRunning s.world).2 :=
            fun hle => hearly (decide_eq_true hle)
          exact not_le.mp hnot
        rw [wp_bind]
        refine wp_callWorld_within hkept fun _ _ => ?_
        obtain ⟨hforward, hboundary⟩ :=
          hW.requireLiveBoundary (clock (W.requireRunning s.world).2) s'.world
        have hpositive : 0 ≤ min C.commitPollIntervalS
            (next - clock (W.requireRunning s.world).2) :=
          le_min hA.poll.le (by linarith)
        obtain ⟨hforward', hslept⟩ := hW.sleep _
          (W.requireLiveBoundary (clock (W.requireRunning s.world).2) s'.world).2 hpositive
        rw [hclock] at hforward hboundary
        rw [wp_bind]
        show wp (callWorld (W.sleep (pyMin C.commitPollIntervalS
          (FloatArith.sub next (clock (W.requireRunning s.world).2))))) _ _ _ _
        rw [pyMin_rat, FloatArith.sub_rat]
        refine wp_callWorld_within hkept fun _ _ => ?_
        refine ih hkept ?_ ?_
        · exact htime.slept hA hnext (by linarith)
        · exact hnext.later (by linarith)

/-- **The streak after a hold**: one that it opens begins when the hold was observed. -/
theorem OnTime.held {observed : ℚ} (h : OnTime C l (l.settle + C.policyPeriodS + 4 * l.call + l.prepare)
      y now t) (hobserved : observed ≤ now) {last first : ℚ}
    (hlast : lastCommand (t ++ [.held observed]) = some last)
    (hfirst : firstObservation (t ++ [.held observed]) = some first) :
    first ≤ last + C.policyPeriodS + (l.settle + l.prepare + 4 * l.call) ∧
      (firstObservation t = none ∧ now ≤ last + C.policyPeriodS +
          (l.settle + l.prepare + 4 * l.call) ∨
        firstObservation t = some first ∧ now ≤ first + C.maximumConsecutiveNoStageHoldS + y) := by
  rw [lastCommand_snoc] at hlast
  rw [firstObservation_snoc] at hfirst
  change lastCommand t = some last at hlast
  cases hopen : firstObservation t with
  | none =>
    rw [hopen] at hfirst
    obtain rfl : observed = first := Option.some.inj hfirst
    have hnow := h.idle last hlast hopen
    exact ⟨by linarith, .inl ⟨rfl, by linarith⟩⟩
  | some first' =>
    rw [hopen] at hfirst
    obtain rfl : first' = first := Option.some.inj hfirst
    exact ⟨h.begins last first' hlast hopen, .inr ⟨rfl, h.streak last first' hlast hopen⟩⟩

theorem firstObservation_held_ne_none (t : List (LoopEvent ℚ)) (observed : ℚ) :
    firstObservation (t ++ [.held observed]) ≠ none := by
  rw [firstObservation_snoc]
  cases firstObservation t with
  | none => exact Option.some_ne_none _
  | some _ => exact Option.some_ne_none _

theorem wp_record (hold : BoundedPolicyTickHold ℚ) (h : Kept C s t) :
    wp (recordNoStagePolicyHold hold)
      (fun _ s' t' => Kept C s' t' ∧ s'.world = s.world ∧ t' = t ++ [.held hold.observedMonotonicS])
      (fun _ => Kept C) s t := by
  have hanchored := keeps_record hold s t h.1
  rw [recordNoStagePolicyHold, wp_bind, wp_modify, wp_emit] at hanchored ⊢
  exact ⟨⟨hanchored, h.2.snoc trivial⟩, rfl, rfl⟩

/-- **A hold on time** is checked before the expiry, and its retry is in time. -/
theorem wp_holdTick (hW : Punctual W clock l) (hA : Admitted C) (hl : l.total C < C.watchdogS / 10)
    {scheduled : ℚ} (sequence : ℕ) {hold : BoundedPolicyTickHold ℚ} (h : Kept C s t)
    (htime : OnTime C l (l.settle + C.policyPeriodS + 4 * l.call + l.prepare) (l.call + l.prepare)
      (clock s.world) t)
    (hobserved : hold.observedMonotonicS ≤ clock s.world) (hscheduled : scheduled ≤ clock s.world) :
    wp (W.holdTick C scheduled sequence hold)
      (fun next s' t' => Kept C s' t' ∧
        OnTime C l (l.settle + C.policyPeriodS + 2 * l.call) 0 (clock s'.world) t' ∧
        Released C l next (clock s'.world) t')
      (fun _ => Kept C) s t := by
  obtain ⟨hcall, hprepare, hsettle⟩ := l.nonneg
  have hslack := pollSlack_nonneg hA
  obtain ⟨hforward, hunchanged⟩ := hW.requireUnchanged s.world
  rw [LoopWorld.holdTick, wp_bind, wp_check]
  refine ⟨fun _ => h, fun _ => ?_⟩
  rw [wp_bind]
  refine wp_callWorld_within h fun _ _ => ?_
  rw [wp_bind]
  refine wp_mono (wp_record (s := { s with world := _ }) hold h) ?_ fun _ _ _ h => h
  rintro - s₁ _ ⟨hkept, hworld, rfl⟩
  rw [wp_bind]
  refine hW.wp_readNow fun w hw => ?_
  have hclock : clock s₁.world = clock (W.requireUnchanged s.world).2 := by rw [hworld]
  rw [hclock] at hw ⊢
  have hbefore : ∀ first last,
      firstObservation (t ++ [.held hold.observedMonotonicS]) = some first →
      lastCommand (t ++ [.held hold.observedMonotonicS]) = some last →
      clock (W.requireUnchanged s.world).2 < last + C.watchdogS := by
    intro first last hfirst hlast
    have hbudget := hA.budget
    have hhold := hA.hold
    unfold Lateness.total at hl
    obtain ⟨hbegins, ⟨-, hnow⟩ | ⟨-, hnow⟩⟩ := htime.held hobserved hlast hfirst
    · linarith
    · linarith
  rw [wp_bind]
  refine wp_mono (wp_require_before (s := { s₁ with world := w }) hkept hbefore) ?_
    fun _ _ _ h => h
  rintro - s₂ t₂ ⟨hkept, hworld, hfirst, hlast, hpassed⟩
  rw [← hfirst] at hpassed
  have hclock₂ : clock s₂.world = clock (W.requireUnchanged s.world).2 := by
    rw [hworld]
    exact hw
  have hopen : firstObservation t₂ ≠ none := by
    rw [hfirst]
    exact firstObservation_held_ne_none t _
  have htime₂ : OnTime C l (l.settle + C.policyPeriodS + 2 * l.call) 0
      (clock (W.requireUnchanged s.world).2) t₂ := by
    refine ⟨fun _ _ hnone => absurd hnone hopen, fun last first hl hf => ?_, fun _ first _ hf => ?_⟩
    · rw [hlast] at hl
      rw [hfirst] at hf
      exact (htime.held hobserved hl hf).1
    · have hnow := hpassed first hf
      linarith
  rw [wp_ite]
  refine ⟨fun hlocked => ?_, fun hfree => ?_⟩
  · refine wp_mono (wp_advance hA hkept (by linarith)) ?_ fun _ _ _ h => h
    rintro next s₃ _ ⟨hkept₃, hworld, rfl, hnext⟩
    rw [hworld, hclock₂]
    refine ⟨hkept₃, htime₂, fun _ _ hnone => absurd hnone hopen, fun _ _ _ _ _ => hnext, ?_⟩
    intro _ _ _ _ hfree
    rw [hlocked] at hfree
    cases hfree
  · rw [wp_bind, wp_read]
    dsimp only
    rw [noStagePolicyHoldDeadlineMonotonicS, hkept.1.1]
    cases hstreak : firstObservation t₂ with
    | none => exact absurd hstreak hopen
    | some first =>
      dsimp only [Option.map_some]
      rw [wp_ret, hclock₂]
      refine ⟨hkept, htime₂, fun _ _ hnone => absurd hnone hopen, fun _ _ _ _ hlocked => ?_,
        fun _ first' _ hf _ => ?_⟩
      · exact absurd hlocked hfree
      · obtain rfl : first = first' := Option.some.inj (hstreak.symm.trans hf)
        have hnow := hpassed first hstreak
        rw [pyMax_rat, pyMin_rat]
        exact max_le hnow.le (min_le_right _ _)

theorem onTime_committed {last : ℚ} (hnone : firstObservation t = none)
    (hlast : lastCommand t = some last) (hsettled : now ≤ last + l.settle)
    (hperiod : 0 < C.policyPeriodS) (hnext : next ≤ now + C.policyPeriodS) :
    OnTime C l (l.settle + C.policyPeriodS + 2 * l.call) 0 now t ∧ Released C l next now t := by
  obtain ⟨hcall, -, -⟩ := l.nonneg
  have hsame : ∀ last', lastCommand t = some last' → last = last' :=
    fun last' hl => Option.some.inj (hlast.symm.trans hl)
  have hstreak : ∀ first, firstObservation t ≠ some first := by
    intro first hf
    rw [hnone] at hf
    cases hf
  constructor
  · refine ⟨fun last' hl _ => ?_, fun _ first _ hf => absurd hf (hstreak first),
      fun _ first _ hf => absurd hf (hstreak first)⟩
    rw [← hsame last' hl]
    linarith
  · refine ⟨fun last' hl _ => ?_, fun _ first _ hf => absurd hf (hstreak first),
      fun _ first _ hf => absurd hf (hstreak first)⟩
    rw [← hsame last' hl]
    linarith

theorem wp_releaseAfterCommit (hW : Punctual W clock l) (hA : Admitted C) {scheduled : ℚ}
    (executed : Executed ℚ) (h : Kept C s t) (hnone : firstObservation t = none)
    (hlast : lastCommand t = some executed.handCommandAt)
    (hsettled : clock s.world ≤ executed.handCommandAt + l.settle) (hnow : now ≤ clock s.world)
    (hscheduled : scheduled ≤ clock s.world) :
    wp (do
        let next ← (if C.phaseLocked20hz = true then do
            let completed ← W.readNow
            advancePhaseLockedPolicyRelease scheduled C.policyPeriodS completed
          else ret (now + C.policyPeriodS))
        let _ ← W.readNow
        ret (if executed.replayComplete = true then none else some next))
      (fun next s' t' => Kept C s' t' ∧ ∀ release, next = some release →
        OnTime C l (l.settle + C.policyPeriodS + 2 * l.call) 0 (clock s'.world) t' ∧
        Released C l release (clock s'.world) t')
      (fun _ => Kept C) s t := by
  have hdone : ∀ (s' : LoopState ℚ τ) (release : ℚ), Kept C s' t →
      clock s'.world = clock s.world → release ≤ clock s.world + C.policyPeriodS →
      wp (do
          let _ ← W.readNow
          ret (if executed.replayComplete = true then none else some release))
        (fun next s' t' => Kept C s' t' ∧ ∀ release, next = some release →
          OnTime C l (l.settle + C.policyPeriodS + 2 * l.call) 0 (clock s'.world) t' ∧
          Released C l release (clock s'.world) t')
        (fun _ => Kept C) s' t := by
    intro s' release hkept htime hrelease
    rw [wp_bind]
    refine hW.wp_readNow fun w hw => ?_
    rw [wp_ret]
    refine ⟨hkept, fun release' hsome => ?_⟩
    rw [show clock ({ s' with world := w } : LoopState ℚ τ).world = clock s.world from
      hw.trans htime]
    by_cases hcomplete : executed.replayComplete = true
    · rw [if_pos hcomplete] at hsome
      cases hsome
    · rw [if_neg hcomplete] at hsome
      obtain rfl := Option.some.inj hsome
      exact onTime_committed hnone hlast hsettled hA.period hrelease
  rw [wp_bind, wp_ite]
  refine ⟨fun _ => ?_, fun _ => ?_⟩
  · rw [wp_bind]
    refine hW.wp_readNow fun w hw => ?_
    refine wp_mono (wp_advance (s := { s with world := w }) hA h hscheduled) ?_ fun _ _ _ h => h
    rintro release s' _ ⟨hkept, hworld, rfl, hrelease⟩
    refine hdone s' release hkept ?_ hrelease
    rw [hworld]
    exact hw
  · rw [wp_ret]
    refine hdone s _ h rfl ?_
    show now + C.policyPeriodS ≤ _
    linarith

/-- **A command on time**: it ends the streak, and the next release is in time. -/
theorem wp_commandTick (hW : Punctual W clock l) (hA : Admitted C) {scheduled : ℚ}
    (sequence preparedSequence : ℕ) (produced : ℚ) (h : Kept C s t) (hnow : now ≤ clock s.world)
    (hscheduled : scheduled ≤ clock s.world) :
    wp (W.commandTick C scheduled now sequence preparedSequence produced)
      (fun next s' t' => Kept C s' t' ∧ ∀ release, next = some release →
        OnTime C l (l.settle + C.policyPeriodS + 2 * l.call) 0 (clock s'.world) t' ∧
        Released C l release (clock s'.world) t')
      (fun _ => Kept C) s t := by
  rw [LoopWorld.commandTick, wp_bind, wp_check]
  refine ⟨fun _ => h, fun _ => ?_⟩
  rw [wp_bind]
  refine wp_mono (wp_close h.1) ?_ ?_
  · rintro - s₁ _ ⟨hanchored, hworld, rfl⟩
    have hlaw : Everywhere (BeforeExpiry C) (t ++ [.closed]) := h.2.snoc trivial
    rw [wp_bind]
    refine wp_callWorld_within ⟨hanchored, hlaw⟩ fun executed hexecuted => ?_
    have hforward := hW.execute sequence s₁.world
    have hsettled := hW.settled sequence s₁.world executed hexecuted
    rw [hworld] at hforward hsettled ⊢
    rw [wp_bind, wp_emit, wp_bind, wp_modify, wp_bind, wp_emit]
    have hnone : firstObservation (t ++ [.closed] ++ [.handCommanded executed.handCommandAt]) =
        none := by
      rw [firstObservation_snoc, firstObservation_closed]
      rfl
    have hcommanded : Everywhere (HoldLaw C)
        (t ++ [.closed] ++ [.handCommanded executed.handCommandAt]) := hanchored.2.snoc trivial
    have hbefore : Everywhere (BeforeExpiry C)
        (t ++ [.closed] ++ [.handCommanded executed.handCommandAt]) := hlaw.snoc trivial
    have hnone' : firstObservation (t ++ [.closed] ++ [.handCommanded executed.handCommandAt] ++
        [.committed sequence]) = none := by
      rw [firstObservation_snoc, hnone]
      rfl
    refine wp_releaseAfterCommit hW hA executed
      ⟨⟨?_, hcommanded.snoc hnone⟩, hbefore.snoc trivial⟩ hnone' ?_ hsettled
      (hnow.trans hforward) (hscheduled.trans hforward)
    · rw [hnone']
      exact hanchored.1.trans (firstObservation_closed t)
    · rw [lastCommand_snoc, lastCommand_snoc]
      rfl
  · rintro - s' t' ⟨-, rfl, rfl⟩
    exact h

theorem wp_policyTick (hW : Punctual W clock l) (hA : Admitted C) (hl : l.total C < C.watchdogS / 10)
    {scheduled : ℚ} (h : Kept C s t)
    (htime : OnTime C l (l.settle + C.policyPeriodS + 3 * l.call) 0 (clock s.world) t)
    (hscheduled : scheduled ≤ clock s.world) :
    wp (W.policyTick C scheduled)
      (fun next s' t' => Kept C s' t' ∧ ∀ release, next = some release →
        OnTime C l (l.settle + C.policyPeriodS + 2 * l.call) 0 (clock s'.world) t' ∧
        Released C l release (clock s'.world) t')
      (fun _ => Kept C) s t := by
  obtain ⟨hcall, hprepare, hsettle⟩ := l.nonneg
  have hslack := pollSlack_nonneg hA
  rw [LoopWorld.policyTick, wp_bind]
  refine hW.wp_readNow fun w hw => ?_
  rw [wp_bind]
  refine wp_mono (wp_require_onTime (s := { s with world := w }) hA hl h htime (by linarith)) ?_
    fun _ _ _ h => h
  rintro - s₁ t₁ ⟨hkept, hworld, -, -, htime⟩
  have hclock : clock s₁.world = clock s.world := by
    rw [hworld]
    exact hw
  obtain ⟨hforward, hboundary⟩ := hW.requireLiveBoundary (clock s.world) s₁.world
  rw [hclock] at hforward hboundary
  rw [wp_bind]
  refine wp_callWorld_within hkept fun _ _ => ?_
  rw [wp_bind, wp_read]
  dsimp only
  rw [wp_bind]
  refine wp_callWorld_within hkept fun prepared hprepared => ?_
  dsimp only at hprepared ⊢
  obtain ⟨hforward', htook⟩ := hW.prepare (s₁.runtime.lastCommittedSequence + 1) (clock s.world)
    (W.requireLiveBoundary (clock s.world) s₁.world).2
  cases prepared with
  | hold hold =>
    have hobserved := hW.observed _ _ _ hold hprepared
    have hready := (htime.later hboundary).later htook
    rw [wp_bind]
    refine wp_mono (wp_holdTick hW hA hl _ hkept ?_ hobserved ?_) ?_ fun _ _ _ h => h
    · refine ⟨fun last hlast hnone => ?_, hready.begins, fun last first hlast hfirst => ?_⟩
      · have hnow := hready.idle last hlast hnone
        dsimp only
        linarith
      · have hnow := hready.streak last first hlast hfirst
        dsimp only
        linarith
    · dsimp only
      linarith
    · rintro next s₂ t₂ ⟨hkept₂, htime₂, hnext₂⟩
      rw [wp_ret]
      refine ⟨hkept₂, ?_⟩
      rintro release ⟨⟩
      exact ⟨htime₂, hnext₂⟩
  | command preparedSequence produced =>
    refine wp_commandTick hW hA _ _ produced hkept ?_ ?_
    · dsimp only
      linarith
    · dsimp only
      linarith

theorem wp_policyLoop (hW : Punctual W clock l) (hA : Admitted C) (hl : l.total C < C.watchdogS / 10)
    (rounds : ℕ) (h : Kept C s t)
    (htime : OnTime C l (l.settle + C.policyPeriodS + 2 * l.call) 0 (clock s.world) t)
    (hnext : Released C l next (clock s.world) t) :
    wp (W.policyLoop C rounds next) (fun _ => Kept C) (fun _ => Kept C) s t := by
  obtain ⟨hcall, -, -⟩ := l.nonneg
  have hslack := pollSlack_nonneg hA
  induction rounds generalizing next s t with
  | zero =>
    rw [LoopWorld.policyLoop, wp_ret]
    exact h
  | succ rounds ih =>
    rw [LoopWorld.policyLoop, wp_bind, wp_read]
    dsimp only
    rw [wp_ite]
    refine ⟨fun _ => ?_, fun _ => ?_⟩
    · rw [wp_ret]
      exact h
    · rw [wp_bind]
      have hwait : OnTime C l (l.settle + C.policyPeriodS + 2 * l.call)
          (pollSlack C + 2 * l.call) (clock s.world) t := by
        refine ⟨htime.idle, htime.begins, fun last first hlast hfirst => ?_⟩
        have hnow := htime.streak last first hlast hfirst
        linarith
      refine wp_mono (wp_waitForPolicyRelease hW hA hl _ h hwait hnext) ?_ fun _ _ _ h => h
      rintro released s₁ t₁ ⟨hkept, hreleased⟩
      cases released with
      | none =>
        rw [wp_ret]
        exact hkept
      | some released =>
        cases released with
        | false =>
          rw [wp_ret]
          exact hkept
        | true =>
          obtain ⟨hscheduled, htime₁⟩ := hreleased rfl
          dsimp only
          rw [wp_bind]
          refine wp_mono (wp_policyTick hW hA hl hkept htime₁ hscheduled) ?_ fun _ _ _ h => h
          rintro next s₂ t₂ ⟨hkept₂, hdone⟩
          cases next with
          | none =>
            rw [wp_ret]
            exact hkept₂
          | some release =>
            obtain ⟨htime₂, hnext₂⟩ := hdone release rfl
            exact ih hkept₂ htime₂ hnext₂

/-! ## Whole runs -/

theorem steady_noCommand : Steady C (fun (_ : LoopState ℚ τ) t => lastCommand t = none)
    (fun _ t => lastCommand t = none) where
  leaves _ _ h := h
  world _ _ _ h := h
  runtime _ _ _ _ h := h
  record hold := by
    intro s t h
    rw [recordNoStagePolicyHold, wp_bind, wp_modify, wp_emit]
    dsimp only
    rw [lastCommand_snoc, h]
    rfl
  require now := by
    intro s t h
    have hchecked : ∀ deadline fault,
        lastCommand (t ++ [.checked now deadline fault]) = none := by
      intro deadline fault
      rw [lastCommand_snoc, h]
      rfl
    rw [requireNoStagePolicyHoldWithinBound, wp_bind, wp_ofExcept]
    refine ⟨fun _ _ => ?_, fun _ _ => h⟩
    rw [wp_bind, wp_read]
    dsimp only
    cases noStagePolicyHoldDeadlineMonotonicS C s.runtime with
    | none =>
      dsimp only
      rw [wp_emit]
      exact hchecked none false
    | some deadline =>
      dsimp only
      rw [wp_bind, wp_modify, wp_ite]
      refine ⟨fun _ => ?_, fun _ => ?_⟩
      · rw [wp_emit]
        exact hchecked _ _
      · rw [wp_bind, wp_emit, wp_fail]
        exact hchecked _ _
  close ended := by
    intro s t h
    rw [closeNoStagePolicyHoldStreak, wp_bind, wp_ofExcept]
    refine ⟨fun _ _ => ?_, fun _ _ => h⟩
    rw [wp_bind, wp_modify, wp_emit]
    dsimp only
    rw [lastCommand_snoc, h]
    rfl

theorem beforeExpiry_of_noCommand (h : lastCommand t = none) : Everywhere (BeforeExpiry C) t := by
  induction t using List.reverseRecOn with
  | nil => exact everywhere_nil
  | append_singleton t event ih =>
    rw [lastCommand_snoc] at h
    have hnone : lastCommand t = none := by
      cases hlast : lastCommand t with
      | none => rfl
      | some last =>
        rw [hlast] at h
        cases event <;> cases h
    refine (ih hnone).snoc ?_
    cases event with
    | checked now deadline fault =>
      intro first last _ hlast
      rw [hnone] at hlast
      cases hlast
    | _ => trivial

theorem wp_loops (hW : Punctual W clock l) (hA : Admitted C) (hl : l.total C < C.watchdogS / 10)
    (rounds : ℕ) (h : Anchored C s t) (hnone : lastCommand t = none) :
    wp (W.loops C rounds) (fun _ => Kept C) (fun _ => Kept C) s t := by
  have hclose : ∀ (now : ℚ) (s' : LoopState ℚ τ) (t' : List (LoopEvent ℚ)), Kept C s' t' →
      wp (do
          closeNoStagePolicyHoldStreak now
          ret true) (fun _ => Kept C) (fun _ => Kept C) s' t' := by
    intro now s' t' hkept
    rw [wp_bind]
    refine wp_mono (wp_close hkept.1) ?_ ?_
    · rintro - s'' _ ⟨hanchored, -, rfl⟩
      rw [wp_ret]
      exact ⟨hanchored, hkept.2.snoc trivial⟩
    · rintro - s'' _ ⟨-, rfl, rfl⟩
      exact hkept
  have hend : ∀ (ended : Bool) (s' : LoopState ℚ τ) (t' : List (LoopEvent ℚ)), Kept C s' t' →
      wp (if ended = false then ret false else do
          let now ← W.readNow
          closeNoStagePolicyHoldStreak now
          ret true) (fun _ => Kept C) (fun _ => Kept C) s' t' := by
    intro ended s' t' hkept
    rw [wp_ite]
    refine ⟨fun _ => ?_, fun _ => ?_⟩
    · rw [wp_ret]
      exact hkept
    · rw [wp_bind]
      exact hW.wp_readNow fun w _ => hclose _ _ _ hkept
  rw [LoopWorld.loops, wp_bind]
  refine hW.wp_readNow fun w _ => ?_
  rw [wp_bind]
  refine wp_mono (wp_and (steady_anchored.startupLoop rounds _ { s with world := w } t h)
    (steady_noCommand.startupLoop rounds _ { s with world := w } t hnone)) ?_ ?_
  · rintro started s' t' ⟨hanchored, hnone⟩
    have hkept : Kept C s' t' := ⟨hanchored, beforeExpiry_of_noCommand hnone⟩
    have hquiet : ∀ last, lastCommand t' ≠ some last := by
      intro last hlast
      rw [hnone] at hlast
      cases hlast
    cases started with
    | none =>
      rw [wp_ret]
      exact hkept
    | some started =>
      obtain ⟨next, startupComplete⟩ := started
      dsimp only
      rw [wp_bind, wp_ite]
      refine ⟨fun _ => ?_, fun _ => ?_⟩
      · refine wp_mono (wp_policyLoop hW hA hl rounds hkept ?_ ?_)
          (fun ended s' t' hkept => hend ended s' t' hkept) fun _ _ _ h => h
        · exact ⟨fun last hl _ => absurd hl (hquiet last), fun last _ hl _ => absurd hl (hquiet last),
            fun last _ hl _ => absurd hl (hquiet last)⟩
        · exact ⟨fun last hl _ => absurd hl (hquiet last),
            fun last _ hl _ _ => absurd hl (hquiet last),
            fun last _ hl _ _ => absurd hl (hquiet last)⟩
      · rw [wp_ret]
        exact hend true s' t' hkept
  · rintro e s' t' ⟨hanchored, hnone⟩
    exact ⟨hanchored, beforeExpiry_of_noCommand hnone⟩

theorem wp_run_onTime (hW : Punctual W clock l) (hA : Admitted C)
    (hl : l.total C < C.watchdogS / 10) (rounds : ℕ)
    (h : s.runtime.streak.startedMonotonicS = none) :
    wp (W.run C rounds) (fun _ _ t => Everywhere (BeforeExpiry C) t)
      (fun _ _ t => Everywhere (BeforeExpiry C) t) s [] := by
  rw [LoopWorld.run, wp_bind, wp_attempt]
  refine wp_mono (wp_loops hW hA hl rounds ⟨h, everywhere_nil⟩ rfl) ?_ ?_
  · intro ended s' t hkept
    rw [wp_ret]
    exact hkept.2
  · intro e s' t hkept
    dsimp only
    rw [wp_bind, wp_attempt, wp_bind]
    refine hW.wp_readNow fun w _ => ?_
    refine wp_mono (wp_close (s := { s' with world := w }) hkept.1) ?_ ?_
    · rintro - s'' _ ⟨-, -, rfl⟩
      rw [wp_bind, wp_emit, wp_fail]
      have hclosed : Everywhere (BeforeExpiry C) (t ++ [.closed]) := hkept.2.snoc trivial
      exact hclosed.snoc trivial
    · rintro - s'' _ ⟨-, -, rfl⟩
      rw [wp_bind, wp_emit, wp_fail]
      exact hkept.2.snoc trivial

/-- An environment in which time passes only in sleeps, and whose source has one command and then holds
for ever. -/
def oneCommandWorld : LoopWorld ℚ ℚ where
  now time := (time, time)
  sleep seconds time := (.ok (), time + seconds)
  requireRunning time := (.ok true, time)
  requireLiveBoundary _ time := (.ok (), time)
  primeStartup _ _ time := (.error (hardwareError "no startup"), time)
  prepare sequence _ time :=
    if sequence = 1 then (.ok (.command 1 time), time)
    else (.ok (.hold ⟨sequence, time, time, 7, "camera_frame_reuse"⟩), time)
  requireUnchanged time := (.ok (), time)
  execute _ time := (.ok ⟨time, false⟩, time)

theorem punctual_oneCommandWorld (l : Lateness) : Punctual oneCommandWorld id l := by
  obtain ⟨hcall, hprepare, hsettle⟩ := l.nonneg
  have hsame : ∀ time extra : ℚ, 0 ≤ extra → time ≤ time ∧ time ≤ time + extra :=
    fun time extra h => ⟨le_rfl, by linarith⟩
  have hprepared : ∀ (n : ℕ) (now time : ℚ), (oneCommandWorld.prepare n now time).2 = time := by
    intro n now time
    show (if n = 1 then _ else _ : Except PyException (Prepared ℚ) × ℚ).2 = time
    by_cases hn : n = 1
    · rw [if_pos hn]
    · rw [if_neg hn]
  refine ⟨fun _ => rfl, fun _ => rfl, fun d w hd => ⟨le_add_of_nonneg_right hd, ?_⟩,
    fun w => hsame w _ hcall, fun _ w => hsame w _ hcall, fun w => hsame w _ hcall,
    fun n now w => ?_, fun n now w hold h => ?_, fun _ _ => le_rfl, ?_⟩
  · show w + d ≤ w + d + l.call
    linarith
  · rw [hprepared]
    exact hsame w _ hprepare
  · rw [hprepared]
    change (if n = 1 then _ else _ : Except PyException (Prepared ℚ) × ℚ).1 = _ at h
    by_cases hn : n = 1
    · rw [if_pos hn] at h
      cases h
    · rw [if_neg hn] at h
      cases h
      exact le_rfl
  · rintro n w e h
    cases h
    show w ≤ w + l.settle
    linarith

def admissionAt (watchdogS : ℚ) : Admission ℚ where
  policyRateHz := some 20
  verifiedInterCommandWatchdogTimeoutS := some watchdogS
  verifiedCommandWatchdogTimeoutS := none

def constantsAt (watchdogS holdS pollS : ℚ) : Constants ℚ where
  admission := admissionAt watchdogS
  policyPeriodS := 1 / 20
  phaseLocked20hz := true
  maximumConsecutiveNoStageHoldS := holdS
  watchdogS := watchdogS
  commitPollIntervalS := pollS
  startupSteps := 0
  maximumSteps := 720
  hardDeadline := 60

/-- The rate of the runtime is locked to 20 Hz, and no other is. -/
example : isPhaseLocked20hz (20 : ℚ) = true ∧ isPhaseLocked20hz (25 : ℚ) = false := by
  decide +kernel

theorem makeConstants_admissionAt {watchdogS holdS pollS : ℚ} (hhold : 0 < holdS) (hpoll : 0 < pollS)
    (hbudget : holdS ≤ watchdogS * (90 / 100) - 1 / 20) :
    makeConstants (admissionAt watchdogS) (some holdS) (some pollS) 0 720 60 =
      .ok (constantsAt watchdogS holdS pollS) := by
  have hwatchdog : 0 < watchdogS := by linarith
  have hsafe : ¬ watchdogS * (90 / 100) - 1 / 20 ≤ 0 := by linarith
  have hrate : positiveFloat (some (20 : ℚ)) "policy_rate_hz" = .ok 20 :=
    positiveFloat_eq_ok.mpr ⟨rfl, by norm_num⟩
  have hvalid : validateNoStageHoldPrecedesWatchdog (some holdS) (admissionAt watchdogS) =
      .ok watchdogS := by
    refine except_bind_eq_ok.mpr ⟨holdS, positiveFloat_eq_ok.mpr ⟨rfl, hhold⟩, ?_⟩
    refine except_bind_eq_ok.mpr ⟨watchdogS, positiveFloat_eq_ok.mpr ⟨rfl, hwatchdog⟩, ?_⟩
    refine except_bind_eq_ok.mpr ⟨20, hrate, ?_⟩
    refine ite_error_eq_ok.mpr ⟨fun h => hsafe (of_decide_eq_true h), ?_⟩
    exact ite_error_eq_ok.mpr ⟨fun h => not_lt.mpr hbudget (of_decide_eq_true h), rfl⟩
  have hlocked : isPhaseLocked20hz (20 : ℚ) = true := by decide +kernel
  unfold makeConstants
  refine except_bind_eq_ok.mpr ⟨pollS, positiveFloat_eq_ok.mpr ⟨rfl, hpoll⟩, ?_⟩
  refine except_bind_eq_ok.mpr ⟨holdS, positiveFloat_eq_ok.mpr ⟨rfl, hhold⟩, ?_⟩
  refine except_bind_eq_ok.mpr ⟨watchdogS, hvalid, ?_⟩
  refine except_bind_eq_ok.mpr ⟨20, hrate, ?_⟩
  rw [hlocked]
  rfl

end FrankaDeploy.Runtime.PolicyLoop
