import FrankaDeploy.FrankaDriver.WatchdogAgreement

/-! # The contract of the success windows

What an observation of the native window answers, when its ring is full, and that the driver's
watchdog raises where the native caller fails. -/

namespace FrankaDeploy.FrankaDriver

open FrankaDeploy.Foundation FrankaDeploy.Foundation.RunLength
open FrankaDeploy.CartesianSegment
open ControlSuccessWatchdog (ofRuns watchAll)

def observedTime (q : ℚ) (history : List Observation) : ℚ :=
  (history.map (Observation.period q)).sum

variable {q : ℚ} {limit : ℕ} {history : List Observation} {o : Observation}

theorem observedTime_eq (q : ℚ) (history : List Observation) :
    observedTime q history = (signal history).length * q := by
  unfold observedTime
  induction history using List.reverseRecOn with
  | nil => simp [signal]
  | append_singleton history o ih =>
    rw [List.map_append, List.sum_append, ih, signal_snoc, List.length_append,
      List.length_replicate, Nat.cast_add, add_mul]
    simp [Observation.period]

theorem observedTime_lt_iff (hq : 0 < q) :
    observedTime q history < limit * q ↔ (signal history).length < limit := by
  rw [observedTime_eq, mul_lt_mul_iff_left₀ hq]
  exact Nat.cast_lt

/-- **The ring of a window is full**: another rate has no place. -/
def RingFull (window : SuccessWindow ℚ) (success : ℚ) : Prop :=
  window.runs.length = kSuccessRunCapacity ∧
    ∀ last ∈ window.runs.getLast?, last.success ≠ success

theorem ringFull_windowOf (runs : List (ℚ × ℕ)) (o : Observation) :
    RingFull (windowOf q limit runs) o.success ↔ Full runs o := by
  have hlast : (windowOf q limit runs).runs.getLast? =
      runs.getLast?.map fun run => ⟨run.1, run.2 * q⟩ := List.getLast?_map ..
  have hlength : (windowOf q limit runs).runs.length = runs.length := List.length_map ..
  unfold RingFull Full
  rw [hlast, hlength]
  apply and_congr_right
  intro _
  constructor
  · intro h last hmem
    exact h ⟨last.1, last.2 * q⟩ (Option.mem_map_of_mem _ hmem)
  · intro h run hmem
    obtain ⟨last, hlast, rfl⟩ := Option.mem_map.1 hmem
    exact h last hlast

theorem eq_windowOf {window : SuccessWindow ℚ} (hq : timeSlack < q)
    (h : observeAll q limit history = .ok window) :
    window = windowOf q limit (runsAfter limit history) := by
  rcases observeAll_eq hq limit history with heq | ⟨heq, -⟩
  · rw [heq] at h
    exact (Except.ok.inj h).symm
  · rw [heq] at h
    cases h

/-- **The native window keeps the contract** as long as the ring has room. -/
theorem observe_contract {window : SuccessWindow ℚ} (hq : timeSlack < q)
    (h : observeAll q limit history = .ok window) (o : Observation) :
    (RingFull window o.success ∧ window.observe o.success (o.period q) = .error .capacity) ∨
      ¬RingFull window o.success ∧ ∃ next, observeAll q limit (history ++ [o]) = .ok next ∧
        window.observe o.success (o.period q) =
          .ok (if observedTime q (history ++ [o]) < limit * q then -1
            else meanOfLast limit (history ++ [o]), next) := by
  have hqpos : 0 < q := lt_trans (by norm_num [timeSlack]) hq
  obtain rfl := eq_windowOf hq h
  rw [ringFull_windowOf]
  rcases observe_windowOf hq limit (positive_runsAfter limit history) o with
    ⟨hfree, hobserved⟩ | ⟨hfull, hobserved⟩
  · right
    refine ⟨hfree, windowOf q limit (runsAfter limit (history ++ [o])), ?_, ?_⟩
    · rw [observeAll_snoc, h, except_ok_bind, hobserved, ← runsAfter_snoc]
      rfl
    · rw [hobserved, ← runsAfter_snoc, answer_runsAfter]
      simp only [observedTime_lt_iff hqpos]
  · left
    exact ⟨hfull, hobserved⟩

theorem init_eq_ofRuns (threshold hardFloor q : ℚ) (limit : ℕ) :
    ControlSuccessWatchdog.init threshold hardFloor (limit * q) =
      ofRuns threshold hardFloor q limit (runsAfter limit []) := by
  unfold ofRuns ControlSuccessWatchdog.withWindow windowOf ControlSuccessWatchdog.init
  simp [runsAfter, runsOf]

theorem empty_eq_windowOf (q : ℚ) (limit : ℕ) :
    SuccessWindow.empty (limit * q) = windowOf q limit (runsAfter limit []) := by
  unfold windowOf SuccessWindow.empty
  simp [runsAfter, runsOf]

/-- **The watchdog and the native caller** over a history, from their start. -/
theorem agrees_or_ranOut {W : Type} (hq : timeSlack < q) (config : CartesianSegmentConfig ℚ)
    (history : List Observation) (s : SegmentState W ℚ)
    (hempty : s.successWindow = .empty (limit * q)) :
    Agrees (superviseAll W config q history s).1
        (watchAll q (.init config.minControlSuccessRate config.controlSuccessHardFloor (limit * q))
          history) ∨
      RanOut (superviseAll W config q history s).1 ∧ ∃ before o after,
        history = before ++ o :: after ∧ Full (runsAfter limit before) o := by
  have hrun : Program.wp (superviseAll W config q history)
      (fun _ _ _ => Settled config q limit [] history (.ok ()))
      (fun e _ _ => Settled config q limit [] history (.error e)) s [] :=
    wp_superviseAll hq [] history (hempty.trans (empty_eq_windowOf q limit))
  have hsettled := Program.wp_result
    (P := fun native _ _ => Settled config q limit [] history native) hrun
  unfold Settled at hsettled
  rwa [← init_eq_ofRuns, List.nil_append] at hsettled

theorem Agrees.not_ranOut {native : Except (SegmentThrown ℚ) Unit} {fault : Option WatchdogFault}
    (h : Agrees native fault) : ¬RanOut native := by
  rintro ⟨error, rfl, hcode⟩
  cases fault with
  | none => exact h
  | some fault =>
    have hsame : error.code = nativeCode fault := h
    rw [hcode] at hsame
    cases fault <;> cases hsame

/-! ## The contract -/

/-- **The success windows agree with their definition**, as long as the native ring has room.

After a history the native window answers an observation with `-1` while the total time is below
the limit and then with the mean of the rates over the last part of the signal, or its ring is full;
`minimum` is the least rate there; the driver's watchdog raises where the native caller fails, up to
the failure of a full ring; and with periods of a millisecond the ring is never full. -/
theorem success_windows_agree (hq : 1 / 10 ^ 11 < q) (hlimit : 0 < limit)
    (history : List Observation) :
    (∀ window, observeAll q limit history = .ok window →
      (history ≠ [] → IsLeast {rate | rate ∈ (signal history).rtake limit} window.minimum) ∧
      ∀ o : Observation,
        (RingFull window o.success ∧ window.observe o.success (o.period q) = .error .capacity) ∨
        ¬RingFull window o.success ∧ ∃ next, observeAll q limit (history ++ [o]) = .ok next ∧
          window.observe o.success (o.period q) =
            .ok (if observedTime q (history ++ [o]) < limit * q then -1
              else meanOfLast limit (history ++ [o]), next)) ∧
    (∀ (W : Type) (config : CartesianSegmentConfig ℚ) (s : SegmentState W ℚ),
      s.successWindow = .empty (limit * q) →
      Agrees (superviseAll W config q history s).1
        (watchAll q (.init config.minControlSuccessRate config.controlSuccessHardFloor (limit * q))
          history) ∨
      RanOut (superviseAll W config q history s).1) ∧
    (limit * q ≤ 1 / 2 → (∀ o ∈ history, 1 / 1000 ≤ o.period q) →
      (∃ window, observeAll q limit history = .ok window ∧
        window.runs.length + 1 < kSuccessRunCapacity) ∧
      ∀ (W : Type) (config : CartesianSegmentConfig ℚ) (s : SegmentState W ℚ),
        s.successWindow = .empty (limit * q) → ¬RanOut (superviseAll W config q history s).1) := by
  have hslack : timeSlack < q := lt_trans (by norm_num [timeSlack]) hq
  refine ⟨fun window hwindow => ⟨fun hhistory => ?_, observe_contract hslack hwindow⟩,
    fun W config s hempty => ?_, fun hshort hperiods => ⟨?_, fun W config s hempty => ?_⟩⟩
  · rw [eq_windowOf hslack hwindow]
    exact isLeast_minimum hlimit hhistory
  · exact (agrees_or_ranOut hslack config history s hempty).imp_right And.left
  · rcases observeAll_eq hslack limit history with heq | ⟨-, before, o, after, rfl, hfull⟩
    · refine ⟨_, heq, ?_⟩
      show (runsOf q (runsAfter limit history)).length + 1 < kSuccessRunCapacity
      rw [runsOf, List.length_map]
      exact length_runsAfter_lt hslack hshort hperiods
    · have hbefore : ∀ o' ∈ before, 1 / 1000 ≤ o'.period q := fun o' ho' =>
        hperiods o' (List.mem_append_left _ ho')
      exact absurd hfull (not_full_of_periods hslack hshort hbefore o)
  · rcases agrees_or_ranOut hslack config history s hempty with
      hagrees | ⟨-, before, o, after, rfl, hfull⟩
    · exact hagrees.not_ranOut
    · have hbefore : ∀ o' ∈ before, 1 / 1000 ≤ o'.period q := fun o' ho' =>
        hperiods o' (List.mem_append_left _ ho')
      exact absurd hfull (not_full_of_periods hslack hshort hbefore o)

def steady : Observation := ⟨1, 1, by norm_num, by norm_num, by norm_num⟩

def dip : Observation := ⟨1 / 2, 2, by norm_num, by norm_num, by norm_num⟩

theorem success_windows_agree_dip :
    ∃ window next, observeAll (1 / 1000) 2 [steady] = .ok window ∧
      window.observe dip.success (dip.period (1 / 1000)) = .ok (1 / 2, next) := by
  have hperiods : ∀ o ∈ [steady], (1 : ℚ) / 1000 ≤ o.period (1 / 1000) := by
    intro o ho
    obtain rfl := List.mem_singleton.1 ho
    norm_num [Observation.period, steady]
  obtain ⟨hanswers, -, hroom⟩ :=
    @success_windows_agree (1 / 1000) 2 (by norm_num) (by norm_num) [steady]
  obtain ⟨⟨window, hwindow, hruns⟩, -⟩ := hroom (by norm_num) hperiods
  rcases (hanswers window hwindow).2 dip with ⟨⟨hfull, -⟩, -⟩ | ⟨-, next, -, hobserved⟩
  · omega
  · refine ⟨window, next, hwindow, ?_⟩
    rw [hobserved, if_neg (by norm_num [observedTime, Observation.period, steady, dip])]
    norm_num [meanOfLast, signal, List.rtake, steady, dip]

/-! ## A full ring -/

def alternatingRate (i : ℕ) : ℚ := if i % 2 = 0 then 1 else 1 / 2

def alternatingAt (i : ℕ) : Observation where
  success := alternatingRate i
  quanta := 1
  nonneg := by
    unfold alternatingRate
    split_ifs <;> norm_num
  le_one := by
    unfold alternatingRate
    split_ifs <;> norm_num
  pos := Nat.one_pos

/-- **A signal that alternates.** -/
def alternating (n : ℕ) : List Observation := (List.range n).map alternatingAt

theorem alternating_succ (n : ℕ) : alternating (n + 1) = alternating n ++ [alternatingAt n] := by
  unfold alternating
  rw [List.range_succ, List.map_append, List.map_singleton]

theorem alternatingRate_succ (n : ℕ) : alternatingRate n ≠ alternatingRate (n + 1) := by
  unfold alternatingRate
  rcases Nat.mod_two_eq_zero_or_one n with h | h
  · rw [if_pos h, if_neg (by omega)]
    norm_num
  · rw [if_neg (by omega), if_pos (by omega)]
    norm_num

theorem last_ne_alternatingRate {n : ℕ} {last : ℚ × ℕ}
    (h : last ∈ ((List.range n).map fun i => (alternatingRate i, 1)).getLast?) :
    last.1 ≠ alternatingRate n := by
  cases n with
  | zero => cases h
  | succ n =>
    rw [List.range_succ, List.map_append, List.map_singleton, List.getLast?_concat] at h
    obtain rfl := Option.some.inj h
    exact alternatingRate_succ n

theorem length_expand_ones (rates : List ℕ) :
    (expand (rates.map fun i => (alternatingRate i, 1))).length = rates.length := by
  induction rates with
  | nil => rfl
  | cons i rates ih =>
    rw [List.map_cons, expand_cons, List.length_append, ih, List.length_replicate,
      List.length_cons, Nat.add_comm]

theorem runsAfter_alternating {n : ℕ} (h : n ≤ limit) :
    runsAfter limit (alternating n) = (List.range n).map fun i => (alternatingRate i, 1) := by
  induction n with
  | zero => rfl
  | succ n ih =>
    have hpush : push ((List.range n).map fun i => (alternatingRate i, 1)) (alternatingRate n) 1 =
        (List.range (n + 1)).map fun i => (alternatingRate i, 1) := by
      rw [List.range_succ, List.map_append]
      unfold push
      cases hlast : ((List.range n).map fun i => (alternatingRate i, 1)).getLast? with
      | none => rfl
      | some last =>
        dsimp only
        rw [if_neg (last_ne_alternatingRate hlast)]
        rfl
    have hnone : surplus limit ((List.range (n + 1)).map fun i => (alternatingRate i, 1)) = 0 := by
      unfold surplus
      rw [length_expand_ones, List.length_range]
      omega
    rw [alternating_succ, runsAfter_snoc, ih (by omega), observedRuns]
    show dropFront (surplus limit (push _ (alternatingRate n) 1)) (push _ (alternatingRate n) 1) =
      _
    rw [hpush, hnone, dropFront_zero]

theorem full_alternating (h : kSuccessRunCapacity ≤ limit) :
    Full (runsAfter limit (alternating kSuccessRunCapacity))
      (alternatingAt kSuccessRunCapacity) := by
  rw [runsAfter_alternating h]
  constructor
  · rw [List.length_map, List.length_range]
  · intro last hlast
    exact last_ne_alternatingRate hlast

theorem observedTime_alternating (q : ℚ) (n : ℕ) : observedTime q (alternating n) = n * q := by
  induction n with
  | zero => simp [alternating, observedTime]
  | succ n ih =>
    rw [alternating_succ, observedTime, List.map_append, List.sum_append]
    show observedTime q (alternating n) + _ = _
    rw [ih]
    simp [Observation.period, alternatingAt, add_mul]

/-- **The ring runs full before the window does**, and the native observation fails. -/
theorem window_full_ring :
    (1 : ℚ) / 10 ^ 11 < 1 / 10000 ∧
      observedTime (1 / 10000) (alternating 4097) < (5000 : ℕ) * (1 / 10000) ∧
      observeAll (1 / 10000) 5000 (alternating 4097) = .error .capacity := by
  have hq : timeSlack < 1 / 10000 := by norm_num [timeSlack]
  refine ⟨by norm_num, ?_, ?_⟩
  · rw [observedTime_alternating]
    norm_num
  · have hfull : Full (runsAfter 5000 (alternating 4096)) (alternatingAt 4096) :=
      full_alternating (by norm_num [kSuccessRunCapacity])
    rw [alternating_succ 4096, observeAll_snoc]
    rcases observeAll_eq hq 5000 (alternating 4096) with heq | ⟨heq, -⟩
    · rw [heq, except_ok_bind]
      rcases observe_windowOf hq 5000 (positive_runsAfter 5000 _) (alternatingAt 4096) with
        ⟨hfree, -⟩ | ⟨-, hobserved⟩
      · exact absurd hfull hfree
      · rw [hobserved]
        rfl
    · rw [heq]
      rfl

end FrankaDeploy.FrankaDriver
