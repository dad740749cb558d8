import FrankaDeploy.CartesianSegment.SuccessWindow
import FrankaDeploy.Foundation.ExactArith
import FrankaDeploy.Foundation.RunLength
import Mathlib.Tactic.Linarith
import Mathlib.Tactic.Ring
import Mathlib.Tactic.NormNum

/-! # The control-success window in exact arithmetic

Where periods and window are multiples of one quantum, the runs of `SuccessWindow` stand for the
last quanta of the success signal: an observation answers `-1` until the window is full and then
the mean of exactly these quanta. The ring may run full before, which ends the observation. -/

namespace FrankaDeploy.CartesianSegment

open FrankaDeploy.Foundation FrankaDeploy.Foundation.RunLength
open FloatArith (ofRat zero one stdMin)

/-! ## The signal -/

/-- **An observation**: a rate, and how many quanta long it was observed. -/
structure Observation where
  success : ℚ
  quanta : ℕ
  nonneg : 0 ≤ success
  le_one : success ≤ 1
  pos : 0 < quanta

/-- The period, when a quantum is `q` long. -/
def Observation.period (q : ℚ) (o : Observation) : ℚ := o.quanta * q

/-- **The success signal**, quantum by quantum. -/
def signal (history : List Observation) : List ℚ :=
  history.flatMap fun o => List.replicate o.quanta o.success

theorem signal_snoc (history : List Observation) (o : Observation) :
    signal (history ++ [o]) = signal history ++ List.replicate o.quanta o.success := by
  unfold signal
  rw [List.flatMap_append, List.flatMap_singleton]

/-- **The mean of the signal over its last `n` quanta.** -/
def meanOfLast (n : ℕ) (history : List Observation) : ℚ := ((signal history).rtake n).sum / n

/-! ## The loop over the excess -/

variable {rounds : ℕ} {excess : ℚ} {window : SuccessWindow ℚ} {oldest : SuccessRun ℚ}
  {rest : List (SuccessRun ℚ)}

theorem trim_of_le (rounds : ℕ) (window : SuccessWindow ℚ) (h : excess ≤ timeSlack) :
    SuccessWindow.trim rounds excess window = .ok window := by
  unfold SuccessWindow.trim
  cases window.runs with
  | nil => rfl
  | cons oldest rest => exact if_neg fun hlt => absurd (of_decide_eq_true hlt) (not_lt.2 h)

theorem trim_whole (hruns : window.runs = oldest :: rest) (h : timeSlack < excess)
    (hle : oldest.durationS ≤ excess) :
    SuccessWindow.trim (rounds + 1) excess window =
      SuccessWindow.trim rounds (excess - oldest.durationS)
        { window with
          runs := rest
          totalDurationS := window.totalDurationS - oldest.durationS
          weightedSuccess := window.weightedSuccess - oldest.success * oldest.durationS } := by
  have hslack : oldest.durationS - oldest.durationS ≤ timeSlack := by
    rw [sub_self]
    norm_num [timeSlack]
  rw [SuccessWindow.trim, hruns]
  dsimp only
  rw [stdMin_rat, min_eq_left hle]
  refine (if_pos (decide_eq_true h)).trans ?_
  rw [if_pos]
  exact decide_eq_true hslack

theorem trim_part (hruns : window.runs = oldest :: rest) (h : timeSlack < excess)
    (hlt : timeSlack < oldest.durationS - excess) :
    SuccessWindow.trim (rounds + 1) excess window =
      .ok { window with
        runs := { oldest with durationS := oldest.durationS - excess } :: rest
        totalDurationS := window.totalDurationS - excess
        weightedSuccess := window.weightedSuccess - oldest.success * excess } := by
  have hmin : excess ≤ oldest.durationS := by
    have : (0 : ℚ) < timeSlack := by norm_num [timeSlack]
    linarith
  have hnone : excess - excess ≤ timeSlack := by
    rw [sub_self]
    norm_num [timeSlack]
  rw [SuccessWindow.trim, hruns]
  dsimp only
  rw [stdMin_rat, min_eq_right hmin]
  refine (if_pos (decide_eq_true h)).trans ?_
  rw [if_neg]
  · exact trim_of_le rounds _ hnone
  · intro hle
    exact absurd (of_decide_eq_true hle) (not_le.2 hlt)

/-! ## Windows of runs -/

def runsOf (q : ℚ) (runs : List (ℚ × ℕ)) : List (SuccessRun ℚ) :=
  runs.map fun run => ⟨run.1, run.2 * q⟩

/-- **The window that stands for runs** of quanta, with its limit. -/
def windowOf (q : ℚ) (limit : ℕ) (runs : List (ℚ × ℕ)) : SuccessWindow ℚ where
  runs := runsOf q runs
  durationLimitS := limit * q
  totalDurationS := (expand runs).length * q
  weightedSuccess := (expand runs).sum * q

variable {q : ℚ} {limit : ℕ} {runs : List (ℚ × ℕ)}

theorem slack_lt_mul (hq : timeSlack < q) {n : ℕ} (hn : 0 < n) : timeSlack < n * q := by
  have hslack : (0 : ℚ) < timeSlack := by norm_num [timeSlack]
  have hone : (1 : ℚ) ≤ n := by exact_mod_cast hn
  nlinarith

/-- **The loop removes exactly the excess**, in whole runs and a part of the last one. -/
theorem trim_runsOf (hq : timeSlack < q) (hpos : Positive runs) {e : ℕ}
    (he : e ≤ (expand runs).length) (hrounds : runs.length ≤ rounds)
    (hwindow : window.runs = runsOf q runs) :
    SuccessWindow.trim rounds (e * q) window =
      .ok { window with
        runs := runsOf q (dropFront e runs)
        totalDurationS := window.totalDurationS - e * q
        weightedSuccess := window.weightedSuccess - ((expand runs).take e).sum * q } := by
  induction runs generalizing e rounds window with
  | nil =>
    obtain rfl : e = 0 := Nat.le_zero.1 he
    rw [trim_of_le]
    · simp [dropFront, ← hwindow]
    · norm_num [timeSlack]
  | cons run runs ih =>
    have hrest : Positive runs := fun r hr => hpos r (List.mem_cons_of_mem _ hr)
    have hrun := hpos run List.mem_cons_self
    rw [expand_cons, List.length_append, List.length_replicate] at he
    rw [List.length_cons] at hrounds
    obtain ⟨rounds, rfl⟩ : ∃ m, rounds = m + 1 := ⟨rounds - 1, by omega⟩
    by_cases hzero : e = 0
    · subst hzero
      rw [trim_of_le]
      · simp [← hwindow]
      · norm_num [timeSlack]
    have hexcess := slack_lt_mul hq (Nat.pos_of_ne_zero hzero)
    have hqpos : 0 < q := lt_trans (by norm_num [timeSlack]) hq
    rw [dropFront, if_neg hzero]
    by_cases hle : run.2 ≤ e
    · have hcast : ((e - run.2 : ℕ) : ℚ) = e - run.2 := Nat.cast_sub hle
      have hduration : (run.2 : ℚ) * q ≤ e * q := by
        have : (run.2 : ℚ) ≤ e := by exact_mod_cast hle
        nlinarith
      rw [if_pos hle, trim_whole hwindow hexcess hduration]
      have hsub : (e * q - run.2 * q : ℚ) = ((e - run.2 : ℕ) : ℚ) * q := by
        rw [hcast]
        ring
      dsimp only
      rw [hsub, ih hrest (by omega) (by omega) rfl]
      have htake : ((List.replicate run.2 run.1 ++ expand runs).take e).sum
          = run.2 * run.1 + ((expand runs).take (e - run.2)).sum := by
        rw [List.take_append, List.length_replicate, List.take_of_length_le (by
          rw [List.length_replicate]
          exact hle), List.sum_append, List.sum_replicate, nsmul_eq_mul]
      rw [expand_cons, htake, hcast]
      congr 2
      · ring
      · ring
    · have hlt : e < run.2 := Nat.lt_of_not_le hle
      have hcast : ((run.2 - e : ℕ) : ℚ) = run.2 - e := Nat.cast_sub hlt.le
      have hremaining : timeSlack < run.2 * q - e * q := by
        rw [← sub_mul, ← hcast]
        exact slack_lt_mul hq (by omega)
      rw [if_neg hle, trim_part hwindow hexcess hremaining]
      have htake : ((List.replicate run.2 run.1 ++ expand runs).take e).sum = e * run.1 := by
        rw [List.take_append_of_le_length (by
          rw [List.length_replicate]
          exact hlt.le), List.take_replicate, List.sum_replicate, nsmul_eq_mul,
          Nat.min_eq_left hlt.le]
      rw [expand_cons, htake]
      simp only [runsOf, List.map_cons, hcast, sub_mul]
      congr 2
      ring

/-! ## An observation -/

def surplus (limit : ℕ) (runs : List (ℚ × ℕ)) : ℕ := (expand runs).length - limit

/-- **The runs after an observation.** -/
def observedRuns (limit : ℕ) (runs : List (ℚ × ℕ)) (o : Observation) : List (ℚ × ℕ) :=
  dropFront (surplus limit (push runs o.success o.quanta)) (push runs o.success o.quanta)

/-- What `observe` answers for the runs of a window. -/
def answer (limit : ℕ) (runs : List (ℚ × ℕ)) : ℚ :=
  if (expand runs).length < limit then -1 else (expand runs).sum / (expand runs).length

def Full (runs : List (ℚ × ℕ)) (o : Observation) : Prop :=
  runs.length = kSuccessRunCapacity ∧ ∀ last ∈ runs.getLast?, last.1 ≠ o.success

/-- **The runs grow by one observation**, or the ring is full. -/
theorem extended_windowOf (q : ℚ) (limit : ℕ) (runs : List (ℚ × ℕ)) (o : Observation) :
    (¬Full runs o ∧ (windowOf q limit runs).extended o.success (o.period q) =
        .ok (runsOf q (push runs o.success o.quanta))) ∨
      (Full runs o ∧
        (windowOf q limit runs).extended o.success (o.period q) = .error .capacity) := by
  have happend : runsOf q (runs ++ [(o.success, o.quanta)]) =
      runsOf q runs ++ [⟨o.success, o.period q⟩] := by
    unfold runsOf
    rw [List.map_append]
    rfl
  have hlength : (windowOf q limit runs).runs.length = runs.length := List.length_map ..
  unfold SuccessWindow.extended push Full
  rw [hlength, show (windowOf q limit runs).runs.getLast? =
    runs.getLast?.map fun run => ⟨run.1, run.2 * q⟩ from List.getLast?_map ..]
  cases hlast : runs.getLast? with
  | none =>
    dsimp only [Option.map_none]
    have hfull : runs.length ≠ kSuccessRunCapacity := by
      rw [List.getLast?_eq_none_iff.1 hlast]
      decide
    left
    rw [if_neg hfull, happend]
    exact ⟨fun h => hfull h.1, rfl⟩
  | some last =>
    obtain ⟨before, rfl⟩ := List.getLast?_eq_some_iff.1 hlast
    dsimp only [Option.map_some]
    by_cases hsame : last.1 = o.success
    · left
      rw [if_pos (show FloatArith.eqv last.1 o.success = true from decide_eq_true hsame),
        if_pos hsame]
      refine ⟨fun h => h.2 last rfl hsame, ?_⟩
      show Except.ok ((runsOf q (before ++ [last])).dropLast ++ _) = _
      unfold runsOf
      rw [List.map_append, List.map_append, List.map_singleton, List.dropLast_concat,
        List.dropLast_concat]
      congr 2
      simp [Observation.period, Nat.cast_add, add_mul]
    · rw [if_neg (show ¬FloatArith.eqv last.1 o.success = true from fun h =>
        hsame (of_decide_eq_true h)), if_neg hsame]
      by_cases hfull : (before ++ [last]).length = kSuccessRunCapacity
      · right
        rw [if_pos hfull]
        exact ⟨⟨hfull, fun other hother => by
          obtain rfl : last = other := Option.some.inj hother
          exact hsame⟩, rfl⟩
      · left
        rw [if_neg hfull, happend]
        exact ⟨fun h => hfull h.1, rfl⟩

theorem windowOf_push (q : ℚ) (limit : ℕ) (runs : List (ℚ × ℕ)) (o : Observation) :
    { windowOf q limit runs with
      runs := runsOf q (push runs o.success o.quanta)
      totalDurationS := (windowOf q limit runs).totalDurationS + o.period q
      weightedSuccess := (windowOf q limit runs).weightedSuccess + o.success * o.period q } =
    windowOf q limit (push runs o.success o.quanta) := by
  have htotal : ((expand runs).length : ℚ) * q + o.period q =
      (expand (push runs o.success o.quanta)).length * q := by
    rw [expand_push, List.length_append, List.length_replicate, Nat.cast_add]
    unfold Observation.period
    ring
  have hweighted : (expand runs).sum * q + o.success * o.period q =
      (expand (push runs o.success o.quanta)).sum * q := by
    rw [expand_push, List.sum_append, List.sum_replicate, nsmul_eq_mul]
    unfold Observation.period
    ring
  unfold windowOf
  rw [← htotal, ← hweighted]

/-- **What the loop leaves of a window**: the runs without their surplus. -/
theorem trim_windowOf (hq : timeSlack < q) (limit : ℕ) (hpos : Positive runs)
    (hrounds : runs.length ≤ rounds) :
    SuccessWindow.trim rounds ((expand runs).length * q - limit * q) (windowOf q limit runs) =
      .ok (windowOf q limit (dropFront (surplus limit runs) runs)) := by
  by_cases hle : (expand runs).length ≤ limit
  · have hnone : surplus limit runs = 0 := Nat.sub_eq_zero_of_le hle
    rw [hnone, dropFront_zero, trim_of_le]
    have hcast : ((expand runs).length : ℚ) ≤ limit := by exact_mod_cast hle
    have hslack : (0 : ℚ) < timeSlack := by norm_num [timeSlack]
    nlinarith
  · have hcast : ((surplus limit runs : ℕ) : ℚ) = (expand runs).length - limit :=
      Nat.cast_sub (Nat.le_of_not_le hle)
    have htrim : SuccessWindow.trim rounds (surplus limit runs * q) (windowOf q limit runs) =
        .ok _ := trim_runsOf hq hpos (Nat.sub_le _ _) hrounds rfl
    have hlength : ((expand (dropFront (surplus limit runs) runs)).length : ℚ) =
        (expand runs).length - surplus limit runs := by
      rw [expand_dropFront, List.length_drop]
      exact Nat.cast_sub (Nat.sub_le _ _)
    have hsum : (expand (dropFront (surplus limit runs) runs)).sum =
        (expand runs).sum - ((expand runs).take (surplus limit runs)).sum := by
      rw [expand_dropFront]
      nth_rewrite 2 [← List.take_append_drop (surplus limit runs) (expand runs)]
      rw [List.sum_append]
      ring
    rw [← sub_mul, ← hcast, htrim]
    unfold windowOf
    rw [hlength, hsum, sub_mul, sub_mul]

theorem not_full_iff (hq : timeSlack < q) {n limit : ℕ} :
    (n : ℚ) * q + timeSlack < limit * q ↔ n < limit := by
  have hslack : (0 : ℚ) < timeSlack := by norm_num [timeSlack]
  have hqpos : 0 < q := hslack.trans hq
  constructor
  · intro h
    by_contra hle
    have hcast : (limit : ℚ) ≤ n := by exact_mod_cast Nat.le_of_not_lt hle
    nlinarith
  · intro h
    have hcast : (n : ℚ) + 1 ≤ limit := by exact_mod_cast h
    nlinarith

/-- **An observation** answers by the runs that it leaves, or finds the ring full. -/
theorem observe_windowOf (hq : timeSlack < q) (limit : ℕ) (hpos : Positive runs) (o : Observation) :
    (¬Full runs o ∧ (windowOf q limit runs).observe o.success (o.period q) =
        .ok (answer limit (observedRuns limit runs o),
          windowOf q limit (observedRuns limit runs o))) ∨
      (Full runs o ∧
        (windowOf q limit runs).observe o.success (o.period q) = .error .capacity) := by
  rcases extended_windowOf q limit runs o with ⟨hfull, hruns⟩ | ⟨hfull, hruns⟩
  · left
    refine ⟨hfull, ?_⟩
    have hqpos : 0 < q := lt_trans (by norm_num [timeSlack]) hq
    have hpushed : Positive (push runs o.success o.quanta) := hpos.push o.pos
    have hrounds : (push runs o.success o.quanta).length ≤
        (runsOf q (push runs o.success o.quanta)).length + 1 := by
      rw [runsOf, List.length_map]
      exact Nat.le_succ _
    have htrim := trim_windowOf hq limit hpushed hrounds
    have htotal : (windowOf q limit runs).totalDurationS + o.period q =
        (expand (push runs o.success o.quanta)).length * q :=
      congrArg SuccessWindow.totalDurationS (windowOf_push q limit runs o)
    unfold SuccessWindow.observe
    rw [hruns, except_ok_bind]
    show ((SuccessWindow.trim _ ((windowOf q limit runs).totalDurationS + o.period q - limit * q)
      { windowOf q limit runs with
        runs := runsOf q (push runs o.success o.quanta)
        totalDurationS := (windowOf q limit runs).totalDurationS + o.period q
        weightedSuccess := (windowOf q limit runs).weightedSuccess + o.success * o.period q }
      >>= _) = _)
    rw [windowOf_push, htotal, htrim, except_ok_bind]
    unfold answer
    by_cases hless : (expand (observedRuns limit runs o)).length < limit
    · rw [if_pos hless]
      exact if_pos (decide_eq_true ((not_full_iff hq).2 hless))
    · rw [if_neg hless]
      refine (if_neg fun h => hless ((not_full_iff hq).1 (of_decide_eq_true h))).trans ?_
      show Except.ok ((_ * q) / (_ * q), _) = _
      rw [mul_div_mul_right _ _ hqpos.ne']
      rfl
  · right
    refine ⟨hfull, ?_⟩
    unfold SuccessWindow.observe
    rw [hruns]
    rfl

/-! ## A history -/

/-- **The runs of a history**: those of its last `limit` quanta. -/
def runsAfter (limit : ℕ) (history : List Observation) : List (ℚ × ℕ) :=
  history.foldl (observedRuns limit) []

theorem runsAfter_snoc (limit : ℕ) (history : List Observation) (o : Observation) :
    runsAfter limit (history ++ [o]) = observedRuns limit (runsAfter limit history) o := by
  unfold runsAfter
  rw [List.foldl_append]
  rfl

variable {history : List Observation} {o : Observation}

theorem positive_runsAfter (limit : ℕ) (history : List Observation) :
    Positive (runsAfter limit history) := by
  induction history using List.reverseRecOn with
  | nil => exact fun run hrun => absurd hrun List.not_mem_nil
  | append_singleton history o ih =>
    rw [runsAfter_snoc]
    exact (ih.push o.pos).dropFront _

theorem expand_runsAfter (limit : ℕ) (history : List Observation) :
    expand (runsAfter limit history) = (signal history).rtake limit := by
  induction history using List.reverseRecOn with
  | nil => exact (List.rtake_nil _).symm
  | append_singleton history o ih =>
    rw [runsAfter_snoc, observedRuns, expand_dropFront, signal_snoc, rtake_append, ← ih,
      ← expand_push]
    rfl

theorem spaced_runsAfter {k : ℕ} (limit : ℕ) (h : ∀ o ∈ history, k ≤ o.quanta) :
    Spaced k (runsAfter limit history) := by
  induction history using List.reverseRecOn with
  | nil => exact fun run hrun => absurd hrun List.not_mem_nil
  | append_singleton history o ih =>
    have hbefore := ih fun o' ho' => h o' (List.mem_append_left _ ho')
    have hlast := h o (List.mem_append_right _ (List.mem_singleton.2 rfl))
    rw [runsAfter_snoc]
    exact (hbefore.push hlast).dropFront _

theorem length_expand_runsAfter (limit : ℕ) (history : List Observation) :
    (expand (runsAfter limit history)).length = min limit (signal history).length := by
  rw [expand_runsAfter, length_rtake]

/-- **What `observe` answers after a history**: `-1` until the window is full, then the mean. -/
theorem answer_runsAfter (limit : ℕ) (history : List Observation) :
    answer limit (runsAfter limit history) =
      if (signal history).length < limit then -1 else meanOfLast limit history := by
  unfold answer meanOfLast
  rw [length_expand_runsAfter, expand_runsAfter]
  by_cases hless : (signal history).length < limit
  · rw [if_pos hless, if_pos (by omega)]
  · rw [if_neg hless, if_neg (by omega), Nat.min_eq_left (Nat.le_of_not_lt hless)]

theorem meanOfLast_nonneg (limit : ℕ) (history : List Observation) :
    0 ≤ meanOfLast limit history := by
  apply div_nonneg
  · apply List.sum_nonneg
    intro rate hrate
    obtain ⟨o, -, hmem⟩ := List.mem_flatMap.1 (List.mem_of_mem_drop hrate)
    rw [List.eq_of_mem_replicate hmem]
    exact o.nonneg
  · exact Nat.cast_nonneg _

/-- **`observe` for every observation of a history.** -/
def observeAll (q : ℚ) (limit : ℕ) (history : List Observation) :
    Except ObserveFault (SuccessWindow ℚ) :=
  history.foldlM (fun window o => Prod.snd <$> window.observe o.success (o.period q))
    (.empty (limit * q))

theorem observeAll_snoc (q : ℚ) (limit : ℕ) (history : List Observation) (o : Observation) :
    observeAll q limit (history ++ [o]) =
      observeAll q limit history >>= fun window =>
        Prod.snd <$> window.observe o.success (o.period q) := by
  unfold observeAll
  rw [List.foldlM_append]
  simp

/-- **After a history the window stands for its runs**, unless the ring was full before. -/
theorem observeAll_eq (hq : timeSlack < q) (limit : ℕ) (history : List Observation) :
    observeAll q limit history = .ok (windowOf q limit (runsAfter limit history)) ∨
      observeAll q limit history = .error .capacity ∧ ∃ pre o post,
        history = pre ++ o :: post ∧ Full (runsAfter limit pre) o := by
  induction history using List.reverseRecOn with
  | nil =>
    left
    unfold observeAll windowOf
    simp [runsAfter, runsOf, SuccessWindow.empty]
    rfl
  | append_singleton history o ih =>
    rw [observeAll_snoc]
    rcases ih with ih | ⟨ih, pre, o', post, rfl, hfull⟩
    · rw [ih, except_ok_bind, runsAfter_snoc]
      rcases observe_windowOf hq limit (positive_runsAfter limit history) o with
        ⟨-, hobserved⟩ | ⟨hfull, hobserved⟩
      · left
        rw [hobserved]
        rfl
      · right
        rw [hobserved]
        exact ⟨rfl, history, o, [], rfl, hfull⟩
    · right
      rw [ih]
      exact ⟨rfl, pre, o', post ++ [o], by simp, hfull⟩

/-! ## The minimum -/

theorem le_one_of_mem_signal {rate : ℚ} (h : rate ∈ signal history) : rate ≤ 1 := by
  obtain ⟨o, -, hmem⟩ := List.mem_flatMap.1 h
  rw [List.eq_of_mem_replicate hmem]
  exact o.le_one

theorem length_lastPart_pos (hlimit : 0 < limit) (hhistory : history ≠ []) :
    0 < ((signal history).rtake limit).length := by
  obtain ⟨o, ho⟩ := List.exists_mem_of_ne_nil history hhistory
  have hmem : o.success ∈ signal history := by
    refine List.mem_flatMap.2 ⟨o, ho, ?_⟩
    rw [List.mem_replicate]
    exact ⟨o.pos.ne', rfl⟩
  have hlength := List.length_pos_of_mem hmem
  rw [length_rtake]
  omega

theorem foldl_min_mem (runs : List (SuccessRun ℚ)) (bound : ℚ) :
    let least := runs.foldl (fun result run => stdMin result run.success) bound
    least ≤ bound ∧ (∀ run ∈ runs, least ≤ run.success) ∧
      (least = bound ∨ ∃ run ∈ runs, least = run.success) := by
  induction runs generalizing bound with
  | nil => exact ⟨le_rfl, fun _ h => absurd h List.not_mem_nil, .inl rfl⟩
  | cons run runs ih =>
    obtain ⟨hbound, hall, hmem⟩ := ih (stdMin bound run.success)
    rw [stdMin_rat] at hbound hall hmem
    rw [List.foldl_cons, stdMin_rat]
    refine ⟨hbound.trans (min_le_left _ _), ?_, ?_⟩
    · intro other hother
      rcases List.mem_cons.1 hother with rfl | hother
      · exact hbound.trans (min_le_right _ _)
      · exact hall other hother
    · rcases hmem with hmem | ⟨other, hother, hmem⟩
      · rcases min_choice bound run.success with hmin | hmin
        · exact .inl (hmem.trans hmin)
        · exact .inr ⟨run, List.mem_cons_self, hmem.trans hmin⟩
      · exact .inr ⟨other, List.mem_cons_of_mem _ hother, hmem⟩

theorem isLeast_minimum (hlimit : 0 < limit) (hhistory : history ≠ []) :
    IsLeast {rate | rate ∈ (signal history).rtake limit}
      (windowOf q limit (runsAfter limit history)).minimum := by
  have hmem {rate : ℚ} : rate ∈ (signal history).rtake limit ↔
      ∃ run ∈ runsAfter limit history, run.1 = rate := by
    rw [← expand_runsAfter]
    exact mem_expand (positive_runsAfter limit history)
  obtain ⟨hone, hall, hattained⟩ :=
    foldl_min_mem (windowOf q limit (runsAfter limit history)).runs 1
  have hlower : ∀ rate ∈ (signal history).rtake limit,
      (windowOf q limit (runsAfter limit history)).minimum ≤ rate := by
    intro rate hrate
    obtain ⟨run, hrun, rfl⟩ := hmem.1 hrate
    exact hall _ (List.mem_map_of_mem hrun)
  refine ⟨?_, hlower⟩
  rcases hattained with hattained | ⟨run, hrun, hattained⟩
  · -- the minimum is one, and so is every rate
    obtain ⟨rate, hrate⟩ := List.exists_mem_of_length_pos (length_lastPart_pos hlimit hhistory)
    have hle := le_one_of_mem_signal (List.mem_of_mem_drop hrate)
    have heq : (windowOf q limit (runsAfter limit history)).minimum = rate :=
      le_antisymm (hlower rate hrate) (hle.trans hattained.ge)
    show (windowOf q limit (runsAfter limit history)).minimum ∈ (signal history).rtake limit
    rwa [heq]
  · obtain ⟨pair, hpair, rfl⟩ := List.mem_map.1 hrun
    show (windowOf q limit (runsAfter limit history)).minimum ∈ (signal history).rtake limit
    exact hmem.2 ⟨pair, hpair, hattained.symm⟩

/-! ## The ring -/

/-- **Periods of a millisecond leave the ring room** in a window of half a second. -/
theorem length_runsAfter_lt (hq : timeSlack < q) (hwindow : limit * q ≤ 1 / 2)
    (hperiods : ∀ o ∈ history, 1 / 1000 ≤ o.period q) :
    (runsAfter limit history).length + 1 < kSuccessRunCapacity := by
  by_contra hmany
  have hlength : 4095 ≤ (runsAfter limit history).length := by
    unfold kSuccessRunCapacity at hmany
    omega
  have hqpos : 0 < q := lt_trans (by norm_num [timeSlack]) hq
  -- `k` quanta are the shortest period
  obtain ⟨k, hk, hperiod⟩ : ∃ k : ℕ, (∀ o ∈ history, k ≤ o.quanta) ∧ 1 / 1000 ≤ k * q := by
    refine ⟨⌈1 / 1000 / q⌉₊, fun o ho => ?_, ?_⟩
    · rw [Nat.ceil_le, div_le_iff₀ hqpos]
      exact hperiods o ho
    · rw [← div_le_iff₀ hqpos]
      exact Nat.le_ceil _
  have hspaced := (spaced_runsAfter limit hk).length_mul_le
  rw [length_expand_runsAfter] at hspaced
  have hquanta : 4094 * k ≤ limit :=
    (Nat.mul_le_mul_right k (by omega)).trans (hspaced.trans (Nat.min_le_left _ _))
  have hcast : ((4094 * k : ℕ) : ℚ) ≤ limit := by exact_mod_cast hquanta
  rw [Nat.cast_mul] at hcast
  have htime : (4094 : ℕ) * (k * q) ≤ limit * q := by
    rw [← mul_assoc]
    exact mul_le_mul_of_nonneg_right hcast hqpos.le
  have hless : ((4094 : ℕ) : ℚ) * (k * q) ≤ 1 / 2 := htime.trans hwindow
  norm_num at hless
  linarith

theorem not_full_of_periods (hq : timeSlack < q) (hwindow : limit * q ≤ 1 / 2)
    (hperiods : ∀ o ∈ history, 1 / 1000 ≤ o.period q) (o : Observation) :
    ¬Full (runsAfter limit history) o := by
  rintro ⟨hlength, -⟩
  have hless := length_runsAfter_lt hq hwindow hperiods
  omega

end FrankaDeploy.CartesianSegment
