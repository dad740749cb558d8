import FrankaDeploy.CartesianSegment.Segment
import FrankaDeploy.CartesianSegment.WindowLaw
import FrankaDeploy.FrankaDriver.SuccessWatchdog

/-! # The two success windows agree

The native segment and the driver's own watchdog average the success rate over the same window. In
exact arithmetic their loops over the excess remove the same part of the same runs, though they drop
a run under different conditions, so that the watchdog raises for its window exactly where the
native caller fails, as long as the native ring has room. -/

namespace FrankaDeploy.FrankaDriver

open FrankaDeploy.Foundation FrankaDeploy.Foundation.RunLength FrankaDeploy.Foundation.Program
open FrankaDeploy.CartesianSegment
open FloatArith (ofRat zero one stdMin)

namespace ControlSuccessWatchdog

/-! ## The loops over the excess -/

theorem pyMin_rat (x y : ℚ) : pyMin x y = min x y := by
  unfold pyMin
  show (if decide (y < x) = true then y else x) = _
  simp only [decide_eq_true_eq]
  by_cases h : y < x
  · rw [if_pos h, min_eq_right h.le]
  · rw [if_neg h, min_eq_left (not_lt.1 h)]

def asWindow (watchdog : ControlSuccessWatchdog ℚ) : SuccessWindow ℚ where
  runs := watchdog.samples.map fun sample => ⟨sample.1, sample.2⟩
  durationLimitS := watchdog.windowLimitS
  totalDurationS := watchdog.windowDurationS
  weightedSuccess := watchdog.weightedSuccess

def withWindow (watchdog : ControlSuccessWatchdog ℚ) (window : SuccessWindow ℚ) :
    ControlSuccessWatchdog ℚ :=
  { watchdog with
    samples := window.runs.map fun run => (run.success, run.durationS)
    windowDurationS := window.totalDurationS
    weightedSuccess := window.weightedSuccess }

variable {watchdog : ControlSuccessWatchdog ℚ} {rounds : ℕ} {excess : ℚ}

theorem withWindow_asWindow (watchdog : ControlSuccessWatchdog ℚ) :
    watchdog.withWindow watchdog.asWindow = watchdog := by
  unfold withWindow asWindow
  rw [List.map_map]
  simp [Function.comp_def]

theorem trim_of_le (rounds : ℕ) (watchdog : ControlSuccessWatchdog ℚ) (h : excess ≤ windowSlack) :
    trim rounds excess watchdog = .ok watchdog := by
  rw [trim.eq_def]
  exact if_neg fun hlt => absurd (of_decide_eq_true hlt) (not_lt.2 h)

theorem sum_durations_nonneg {samples : List (ℚ × ℚ)} (h : ∀ sample ∈ samples, 0 ≤ sample.2) :
    0 ≤ (samples.map Prod.snd).sum := by
  apply List.sum_nonneg
  intro duration hduration
  obtain ⟨sample, hsample, rfl⟩ := List.mem_map.1 hduration
  exact h sample hsample

/-- **The two loops are one**: the watchdog drops a sample where the native window drops its run,
and there is a sample as long as there is an excess. -/
theorem trim_eq {trimmed : SuccessWindow ℚ} (hnonneg : ∀ sample ∈ watchdog.samples, 0 ≤ sample.2)
    (hexcess : excess ≤ (watchdog.samples.map Prod.snd).sum)
    (htrim : SuccessWindow.trim rounds excess watchdog.asWindow = .ok trimmed) :
    trim rounds excess watchdog = .ok (watchdog.withWindow trimmed) := by
  induction rounds generalizing excess watchdog with
  | zero =>
    by_cases hslack : excess ≤ windowSlack
    · rw [CartesianSegment.trim_of_le _ _ hslack] at htrim
      obtain rfl : watchdog.asWindow = trimmed := Except.ok.inj htrim
      rw [trim_of_le _ _ hslack, withWindow_asWindow]
    · cases hsamples : watchdog.samples with
      | nil =>
        rw [hsamples] at hexcess
        exact absurd (le_trans hexcess (by norm_num [windowSlack])) hslack
      | cons oldest rest =>
        rw [SuccessWindow.trim.eq_def] at htrim
        simp only [hsamples, asWindow, List.map_cons] at htrim
        rw [if_pos] at htrim
        · cases htrim
        · exact decide_eq_true (not_le.1 hslack)
  | succ rounds ih =>
    by_cases hslack : excess ≤ windowSlack
    · rw [CartesianSegment.trim_of_le _ _ hslack] at htrim
      obtain rfl : watchdog.asWindow = trimmed := Except.ok.inj htrim
      rw [trim_of_le _ _ hslack, withWindow_asWindow]
    · cases hsamples : watchdog.samples with
      | nil =>
        rw [hsamples] at hexcess
        exact absurd (le_trans hexcess (by norm_num [windowSlack])) hslack
      | cons oldest rest =>
        have hlt : windowSlack < excess := not_le.1 hslack
        rw [hsamples] at hnonneg hexcess
        rw [List.map_cons, List.sum_cons] at hexcess
        have hrest : ∀ sample ∈ rest, 0 ≤ sample.2 := fun sample h =>
          hnonneg sample (List.mem_cons_of_mem _ h)
        have hrestSum := sum_durations_nonneg hrest
        rw [SuccessWindow.trim.eq_def] at htrim
        simp only [hsamples, asWindow, List.map_cons] at htrim
        rw [if_pos, stdMin_rat] at htrim
        rotate_left
        · exact decide_eq_true hlt
        rw [trim.eq_def]
        simp only [hsamples]
        rw [if_pos, pyMin_rat]
        rotate_left
        · exact decide_eq_true hlt
        by_cases hdrop : oldest.2 - min oldest.2 excess ≤ windowSlack
        · -- the sample goes
          rw [if_pos] at htrim
          rotate_left
          · exact decide_eq_true hdrop
          rw [if_pos]
          rotate_left
          · apply decide_eq_true
            show oldest.2 ≤ min oldest.2 excess + windowSlack
            linarith
          apply ih hrest
          · show excess - min oldest.2 excess ≤ (rest.map Prod.snd).sum
            rcases min_choice oldest.2 excess with hmin | hmin
            · rw [hmin]
              linarith
            · rw [hmin, sub_self]
              exact hrestSum
          · exact htrim
        · -- a part of it remains, and no excess
          have hmin : min oldest.2 excess = excess := by
            rcases min_choice oldest.2 excess with hmin | hmin
            · rw [hmin, sub_self] at hdrop
              exact absurd (by norm_num [windowSlack]) hdrop
            · exact hmin
          rw [if_neg] at htrim
          rotate_left
          · intro h
            exact hdrop (of_decide_eq_true h)
          rw [if_neg]
          rotate_left
          · intro h
            have hle : oldest.2 ≤ min oldest.2 excess + windowSlack := of_decide_eq_true h
            exact hdrop (by linarith)
          rw [hmin] at htrim hdrop ⊢
          apply ih
          · intro sample hsample
            rcases List.mem_cons.1 hsample with rfl | hsample
            · show 0 ≤ oldest.2 - excess
              have hpos : (0 : ℚ) < windowSlack := by norm_num [windowSlack]
              linarith
            · exact hrest sample hsample
          · rw [sub_self]
            apply sum_durations_nonneg
            intro sample hsample
            rcases List.mem_cons.1 hsample with rfl | hsample
            · show 0 ≤ oldest.2 - excess
              have hpos : (0 : ℚ) < windowSlack := by norm_num [windowSlack]
              linarith
            · exact hrest sample hsample
          · exact htrim

/-! ## Observations -/

/-- **The watchdog that stands for runs** of quanta. -/
def ofRuns (threshold hardFloor q : ℚ) (limit : ℕ) (runs : List (ℚ × ℕ)) :
    ControlSuccessWatchdog ℚ :=
  (init threshold hardFloor (limit * q)).withWindow (windowOf q limit runs)

variable {threshold hardFloor q : ℚ} {limit : ℕ} {runs : List (ℚ × ℕ)} {o : Observation}

theorem samples_ofRuns (threshold hardFloor q : ℚ) (limit : ℕ) (runs : List (ℚ × ℕ)) :
    (ofRuns threshold hardFloor q limit runs).samples = runs.map fun run => (run.1, run.2 * q) := by
  show (runsOf q runs).map _ = _
  unfold runsOf
  rw [List.map_map]
  rfl

theorem appended_ofRuns (runs : List (ℚ × ℕ)) (o : Observation) :
    appended (ofRuns threshold hardFloor q limit runs).samples o.success (o.period q) =
      (push runs o.success o.quanta).map fun run => (run.1, run.2 * q) := by
  rw [samples_ofRuns]
  unfold appended push
  rw [List.getLast?_map]
  cases hlast : runs.getLast? with
  | none => simp [Observation.period]
  | some last =>
    obtain ⟨before, rfl⟩ := List.getLast?_eq_some_iff.1 hlast
    dsimp only [Option.map_some]
    by_cases hsame : last.1 = o.success
    · rw [if_pos (show FloatArith.eqv last.1 o.success = true from decide_eq_true hsame),
        if_pos hsame, List.map_append, List.map_append, List.map_singleton,
        List.dropLast_concat, List.dropLast_concat]
      simp [Observation.period, Nat.cast_add, add_mul]
    · rw [if_neg (show ¬FloatArith.eqv last.1 o.success = true from fun h =>
        hsame (of_decide_eq_true h)), if_neg hsame]
      simp [Observation.period]

theorem sum_durations_runs (q : ℚ) (runs : List (ℚ × ℕ)) :
    ((runs.map fun run => (run.1, run.2 * q)).map Prod.snd).sum = (expand runs).length * q := by
  induction runs with
  | nil => simp
  | cons run runs ih =>
    rw [List.map_cons, List.map_cons, List.sum_cons, ih, expand_cons, List.length_append,
      List.length_replicate, Nat.cast_add, add_mul]

/-- **The loop of an observation leaves the runs without their surplus.** -/
theorem trim_ofRuns (hq : timeSlack < q) (hpos : Positive runs) (hrounds : runs.length ≤ rounds) :
    trim rounds ((expand runs).length * q - limit * q)
        (ofRuns threshold hardFloor q limit runs) =
      .ok (ofRuns threshold hardFloor q limit (dropFront (surplus limit runs) runs)) := by
  have hqpos : 0 < q := lt_trans (by norm_num [timeSlack]) hq
  have hwindow : (ofRuns threshold hardFloor q limit runs).asWindow = windowOf q limit runs := by
    unfold asWindow
    rw [samples_ofRuns, List.map_map]
    rfl
  apply trim_eq
  · rw [samples_ofRuns]
    intro sample hsample
    obtain ⟨run, -, rfl⟩ := List.mem_map.1 hsample
    exact mul_nonneg (Nat.cast_nonneg _) hqpos.le
  · rw [samples_ofRuns, sum_durations_runs]
    have hlimit : 0 ≤ limit * q := mul_nonneg (Nat.cast_nonneg _) hqpos.le
    linarith
  · rw [hwindow]
    exact trim_windowOf hq limit hpos hrounds

/-- **What `observe` leaves above the hard floor**, with the check of its window. -/
theorem observe_ofRuns (hq : timeSlack < q) (hpos : Positive runs)
    (hfloor : ¬o.success < hardFloor - controlSuccessRateAbsoluteTolerance) :
    (ofRuns threshold hardFloor q limit runs).observe o.success (o.period q) =
      ((ofRuns threshold hardFloor q limit (observedRuns limit runs o)).checkAverage,
        ofRuns threshold hardFloor q limit (observedRuns limit runs o)) := by
  have hqpos : 0 < q := lt_trans (by norm_num [timeSlack]) hq
  have hperiod : 0 < o.period q := mul_pos (Nat.cast_pos.2 o.pos) hqpos
  have hpushed : Positive (push runs o.success o.quanta) := hpos.push o.pos
  have hobserved := windowOf_push q limit runs o
  have htotal : (ofRuns threshold hardFloor q limit runs).windowDurationS + o.period q =
      (expand (push runs o.success o.quanta)).length * q :=
    congrArg SuccessWindow.totalDurationS hobserved
  have hweighted : (ofRuns threshold hardFloor q limit runs).weightedSuccess +
        o.success * o.period q = (expand (push runs o.success o.quanta)).sum * q :=
    congrArg SuccessWindow.weightedSuccess hobserved
  have hgrown : { ofRuns threshold hardFloor q limit runs with
      samples := (push runs o.success o.quanta).map fun run => (run.1, run.2 * q)
      windowDurationS := (expand (push runs o.success o.quanta)).length * q
      weightedSuccess := (expand (push runs o.success o.quanta)).sum * q } =
      ofRuns threshold hardFloor q limit (push runs o.success o.quanta) := by
    rw [← samples_ofRuns threshold hardFloor q limit]
    rfl
  have htrim : trim ((push runs o.success o.quanta).length + 1)
      ((expand (push runs o.success o.quanta)).length * q - limit * q)
      (ofRuns threshold hardFloor q limit (push runs o.success o.quanta)) =
      .ok (ofRuns threshold hardFloor q limit (observedRuns limit runs o)) :=
    trim_ofRuns hq hpushed (Nat.le_succ _)
  apply observe_of_trim
  · intro h
    exact hfloor (of_decide_eq_true h)
  · intro h
    exact absurd (of_decide_eq_true h) (not_le.2 hperiod)
  · show trim _ ((ofRuns threshold hardFloor q limit runs).windowDurationS + o.period q -
        limit * q)
      { ofRuns threshold hardFloor q limit runs with
        samples := _
        windowDurationS := (ofRuns threshold hardFloor q limit runs).windowDurationS + o.period q
        weightedSuccess := (ofRuns threshold hardFloor q limit runs).weightedSuccess +
          o.success * o.period q } = _
    rw [appended_ofRuns, List.length_map, htotal, hweighted, hgrown, htrim]

theorem observe_of_low (hfloor : o.success < hardFloor - controlSuccessRateAbsoluteTolerance) :
    (ofRuns threshold hardFloor q limit runs).observe o.success (o.period q) =
      (.error .hardFloor, ofRuns threshold hardFloor q limit runs) := by
  unfold observe
  rw [if_pos]
  exact decide_eq_true hfloor

theorem checkAverage_ofRuns (hq : timeSlack < q) (history : List Observation) :
    (ofRuns threshold hardFloor q limit (runsAfter limit history)).checkAverage =
      if limit ≤ (signal history).length ∧
          meanOfLast limit history < threshold - controlSuccessRateAbsoluteTolerance then
        .error .window
      else .ok () := by
  have hqpos : 0 < q := lt_trans (by norm_num [timeSlack]) hq
  have hlength := length_expand_runsAfter limit history
  unfold checkAverage
  by_cases hless : (signal history).length < limit
  · rw [if_pos, if_neg]
    · rintro ⟨hle, -⟩
      omega
    · have hshort : (expand (runsAfter limit history)).length < limit := by omega
      exact decide_eq_true ((not_full_iff hq).2 hshort)
  · have hfull : limit ≤ (signal history).length := Nat.le_of_not_lt hless
    have haverage : ((expand (runsAfter limit history)).sum * q) /
        ((expand (runsAfter limit history)).length * q) = meanOfLast limit history := by
      unfold meanOfLast
      rw [mul_div_mul_right _ _ hqpos.ne', hlength, expand_runsAfter, Nat.min_eq_left hfull]
    rw [if_neg]
    · by_cases hlow : meanOfLast limit history <
          threshold - controlSuccessRateAbsoluteTolerance
      · rw [if_pos, if_pos ⟨hfull, hlow⟩]
        rw [← haverage] at hlow
        exact decide_eq_true hlow
      · rw [if_neg, if_neg fun h => hlow h.2]
        intro h
        rw [← haverage] at hlow
        exact hlow (of_decide_eq_true h)
    · intro h
      have hshort : (expand (runsAfter limit history)).length < limit :=
        (not_full_iff hq).1 (of_decide_eq_true h)
      omega

/-! ## Histories -/

/-- **The watchdog over a history**, up to its first fault. -/
def watchAll (q : ℚ) (watchdog : ControlSuccessWatchdog ℚ) : List Observation → Option WatchdogFault
  | [] => none
  | o :: rest =>
    match watchdog.observe o.success (o.period q) with
    | (.error fault, _) => some fault
    | (.ok (), observed) => watchAll q observed rest

end ControlSuccessWatchdog

open ControlSuccessWatchdog (ofRuns watchAll observe_ofRuns observe_of_low checkAverage_ofRuns)

variable {W : Type} {config : CartesianSegmentConfig ℚ} {q : ℚ} {limit : ℕ}

/-- **The native supervision of a history.** -/
def superviseAll (W : Type) (config : CartesianSegmentConfig ℚ) (q : ℚ) :
    List Observation → Segment W ℚ Unit
  | [] => ret ()
  | o :: rest => do
    superviseSuccess config o.success (o.period q)
    superviseAll W config q rest

def nativeCode : WatchdogFault → CartesianSegmentFailureCode
  | .hardFloor => .controlSuccessHardFloor
  | .window => .controlSuccessWindow
  | .noSample | .diverged => .none

/-- **The two sides agree**: neither fails, or both do, for the same reason. -/
def Agrees (native : Except (SegmentThrown ℚ) Unit) (fault : Option WatchdogFault) : Prop :=
  match native, fault with
  | .ok (), none => True
  | .error (.segment error), some fault => error.code = nativeCode fault
  | _, _ => False

def RanOut (native : Except (SegmentThrown ℚ) Unit) : Prop :=
  ∃ error, native = .error (.segment error) ∧ error.code = .internalCapacity

/-- **What is settled about a history** that goes on with `rest`: the two sides agree on it, or the
native ring was full before. -/
def Settled (config : CartesianSegmentConfig ℚ) (q : ℚ) (limit : ℕ) (pre rest : List Observation)
    (native : Except (SegmentThrown ℚ) Unit) : Prop :=
  Agrees native (watchAll q (ofRuns config.minControlSuccessRate config.controlSuccessHardFloor q
    limit (runsAfter limit pre)) rest) ∨
  RanOut native ∧ ∃ before o after,
    pre ++ rest = before ++ o :: after ∧ Full (runsAfter limit before) o

section Native

variable {s : SegmentState W ℚ} {t : List (SegmentEvent ℚ)}
  {Q : Unit → SegmentState W ℚ → List (SegmentEvent ℚ) → Prop}
  {E : SegmentThrown ℚ → SegmentState W ℚ → List (SegmentEvent ℚ) → Prop}
  {history : List Observation} {o : Observation}

theorem wp_failSegment_code {code : CartesianSegmentFailureCode} {message : String}
    (h : ∀ error t', error.code = code → E (.segment error) s t') :
    wp (failSegment code message : Segment W ℚ Unit) Q E s t := by
  unfold failSegment
  rw [wp_bind, wp_read]
  beta_reduce
  rw [wp_bind, wp_emit]
  beta_reduce
  rw [wp_fail]
  exact h _ _ rfl

/-- **The native supervision of an observation**, where the watchdog makes of it what
`observe` says. -/
theorem wp_superviseSuccess_ofRuns (hq : timeSlack < q)
    (hwindow : s.successWindow = windowOf q limit (runsAfter limit history))
    (hfull : Full (runsAfter limit history) o → ∀ error s' t',
      error.code = .internalCapacity → E (.segment error) s' t')
    (hfloor : o.success < config.controlSuccessHardFloor - kAbsoluteTolerance → ∀ error s' t',
      error.code = .controlSuccessHardFloor → E (.segment error) s' t')
    (hlow : ¬o.success < config.controlSuccessHardFloor - kAbsoluteTolerance →
      limit ≤ (signal (history ++ [o])).length →
      meanOfLast limit (history ++ [o]) < config.minControlSuccessRate - kAbsoluteTolerance →
      ∀ error s' t', error.code = .controlSuccessWindow → E (.segment error) s' t')
    (hgood : ∀ s' t', s'.successWindow = windowOf q limit (runsAfter limit (history ++ [o])) →
      ¬o.success < config.controlSuccessHardFloor - kAbsoluteTolerance →
      ¬(limit ≤ (signal (history ++ [o])).length ∧
        meanOfLast limit (history ++ [o]) < config.minControlSuccessRate - kAbsoluteTolerance) →
      Q () s' t') :
    wp (superviseSuccess config o.success (o.period q)) Q E s t := by
  have hqpos : 0 < q := lt_trans (by norm_num [timeSlack]) hq
  have hperiod : 0 < o.period q := mul_pos (Nat.cast_pos.2 o.pos) hqpos
  unfold superviseSuccess updateTelemetry failIf
  rw [wp_bind, wp_update]
  beta_reduce
  rw [wp_bind, wp_runIf]
  constructor
  · intro hbelow
    apply wp_failSegment_code
    intro error t' hcode
    exact hfloor (of_decide_eq_true hbelow) error _ t' hcode
  · intro habove
    have hnotLow : ¬o.success < config.controlSuccessHardFloor - kAbsoluteTolerance := fun h =>
      habove (decide_eq_true h)
    rw [wp_runIf]
    refine ⟨fun _ => ?_, fun hnot => absurd (decide_eq_true hperiod) hnot⟩
    unfold observeSuccess updateTelemetry failIf
    rw [wp_bind, wp_read]
    dsimp only
    rw [hwindow]
    rcases observe_windowOf hq limit (positive_runsAfter limit history) o with
      ⟨-, hobserved⟩ | ⟨hring, hobserved⟩
    · -- the window holds the observation
      rw [← runsAfter_snoc] at hobserved
      rw [hobserved, answer_runsAfter]
      dsimp only
      rw [wp_bind, wp_update]
      beta_reduce
      rw [wp_runIf]
      by_cases hless : (signal (history ++ [o])).length < limit
      · rw [if_pos hless]
        constructor
        · intro hcomplete
          exact absurd (of_decide_eq_true hcomplete) (by norm_num)
        · intro _
          apply hgood _ _ rfl hnotLow
          rintro ⟨hle, -⟩
          omega
      · rw [if_neg hless]
        constructor
        · intro _
          rw [wp_bind, wp_update]
          beta_reduce
          rw [wp_runIf]
          constructor
          · intro hbelow
            apply wp_failSegment_code
            intro error t' hcode
            exact hlow hnotLow (Nat.le_of_not_lt hless) (of_decide_eq_true hbelow) error _ t' hcode
          · intro hnot
            exact hgood _ _ rfl hnotLow fun h => hnot (decide_eq_true h.2)
        · intro hincomplete
          exact absurd (decide_eq_true (meanOfLast_nonneg limit _)) hincomplete
    · -- the ring is full
      rw [hobserved]
      apply wp_failSegment_code
      intro error t' hcode
      exact hfull hring error _ t' hcode

/-- **The two sides side by side**, from the windows of what was observed before. -/
theorem wp_superviseAll (hq : timeSlack < q) (pre rest : List Observation)
    (hwindow : s.successWindow = windowOf q limit (runsAfter limit pre)) :
    wp (superviseAll W config q rest) (fun _ _ _ => Settled config q limit pre rest (.ok ()))
      (fun e _ _ => Settled config q limit pre rest (.error e)) s t := by
  induction rest generalizing pre s t with
  | nil =>
    unfold superviseAll
    rw [wp_ret]
    exact .inl trivial
  | cons o rest ih =>
    have htolerance : kAbsoluteTolerance = controlSuccessRateAbsoluteTolerance := rfl
    unfold superviseAll Settled watchAll
    rw [wp_bind]
    apply wp_superviseSuccess_ofRuns hq hwindow
    · intro hfull error s' t' hcode
      right
      exact ⟨⟨error, rfl, hcode⟩, pre, o, rest, rfl, hfull⟩
    · intro hlow error s' t' hcode
      left
      rw [observe_of_low hlow]
      exact hcode
    · intro hfloor hlength hlow error s' t' hcode
      left
      rw [observe_ofRuns hq (positive_runsAfter limit pre) hfloor, ← runsAfter_snoc,
        checkAverage_ofRuns hq, if_pos ⟨hlength, hlow⟩]
      exact hcode
    · intro s' t' hwindow' hfloor hnot
      rw [htolerance] at hnot
      rw [observe_ofRuns hq (positive_runsAfter limit pre) hfloor, ← runsAfter_snoc,
        checkAverage_ofRuns hq, if_neg hnot]
      have hrest := ih (pre ++ [o]) hwindow' (t := t')
      unfold Settled at hrest
      rw [List.append_assoc] at hrest
      exact hrest

end Native

end FrankaDeploy.FrankaDriver
