import FrankaDeploy.CartesianSegment.Config
import FrankaDeploy.Foundation.IeeeBounds
import FrankaDeploy.Foundation.Python

/-! # The control-success window

`SuccessWindow`: the average of `control_command_success_rate` over the last part of a second,
weighted by the control periods. Equal successive rates are one run; the ring of runs is a list
here, oldest first. -/

namespace FrankaDeploy.CartesianSegment

open FrankaDeploy.Foundation
open FloatArith (ofRat zero one stdMin)
open scoped FloatArith

variable {F : Type} [FloatArith F]

structure SuccessRun (F : Type) where
  success : F
  durationS : F

/-- **`SuccessWindow`.** -/
structure SuccessWindow (F : Type) where
  runs : List (SuccessRun F)
  durationLimitS : F
  totalDurationS : F
  weightedSuccess : F

def SuccessWindow.empty (durationLimitS : F) : SuccessWindow F :=
  ⟨[], durationLimitS, zero, zero⟩

inductive ObserveFault where
  | capacity
  /-- The loop over the excess went on beyond the rounds that it was given. -/
  | diverged

def SuccessWindow.extended (window : SuccessWindow F) (success durationS : F) :
    Except ObserveFault (List (SuccessRun F)) :=
  let append : Except ObserveFault (List (SuccessRun F)) :=
    if window.runs.length = kSuccessRunCapacity then .error .capacity
    else .ok (window.runs ++ [⟨success, durationS⟩])
  match window.runs.getLast? with
  | some last =>
    if FloatArith.eqv last.success success then
      .ok (window.runs.dropLast ++ [{ last with durationS := last.durationS + durationS }])
    else append
  | none => append

/-- **The loop over the excess**: the oldest runs go, the last of them in part. -/
def SuccessWindow.trim : ℕ → F → SuccessWindow F → Except ObserveFault (SuccessWindow F)
  | rounds, excess, window =>
    match window.runs with
    | [] => .ok window
    | oldest :: rest =>
      if excess > ofRat timeSlack then
        match rounds with
        | 0 => .error .diverged
        | rounds + 1 =>
          let removed := stdMin oldest.durationS excess
          let remaining := oldest.durationS - removed
          trim rounds (excess - removed)
            { window with
              runs :=
                if remaining ≤ ofRat timeSlack then rest
                else { oldest with durationS := remaining } :: rest
              totalDurationS := window.totalDurationS - removed
              weightedSuccess := window.weightedSuccess - oldest.success * removed }
      else .ok window

/-- **`observe`**: the average once the window is full, otherwise `-1`. -/
def SuccessWindow.observe (window : SuccessWindow F) (success durationS : F) :
    Except ObserveFault (F × SuccessWindow F) := do
  let runs ← window.extended success durationS
  let total := window.totalDurationS + durationS
  let window ← SuccessWindow.trim (runs.length + 1) (total - window.durationLimitS)
    { window with
      runs := runs
      totalDurationS := total
      weightedSuccess := window.weightedSuccess + success * durationS }
  if window.totalDurationS + ofRat timeSlack < window.durationLimitS then
    return (ofRat (-1), window)
  else return (window.weightedSuccess / window.totalDurationS, window)

/-- **`minimum`**: the least rate of the runs, and at most one. -/
def SuccessWindow.minimum (window : SuccessWindow F) : F :=
  window.runs.foldl (fun result run => stdMin result run.success) one

/-! ## The loop over the excess ends

Every round but one removes a whole run, and the one that removes a part of a run leaves no
excess. -/

section Ieee

open Ieee (NotNegative)

variable {f : FloatFormat} [Ieee.Proper f]

/-- **A window of runs whose durations are not negative.** -/
def SuccessWindow.WellTimed (window : SuccessWindow (Ieee f)) : Prop :=
  ∀ run ∈ window.runs, NotNegative run.durationS

omit [Ieee.Proper f] in
theorem SuccessWindow.wellTimed_empty (limit : Ieee f) :
    (SuccessWindow.empty limit).WellTimed := by
  intro run hrun
  cases hrun

theorem key_timeSlack : 0 ≤ (ofRat timeSlack : Ieee f).key :=
  Ieee.key_round_nonneg false (by norm_num [timeSlack])

theorem not_slack_lt {x : Ieee f} (h : x.isNaN = true ∨ x.key = 0) :
    ¬ (x > (ofRat timeSlack : Ieee f)) := by
  intro hlt
  obtain ⟨-, hx, hkey⟩ := Ieee.lt_iff.mp (show Ieee.lt (ofRat timeSlack) x = true from hlt)
  rcases h with h | h
  · rw [h] at hx
    cases hx
  · have := key_timeSlack (f := f)
    omega

/-- **What is left of a run that is not used up**: no excess remains. -/
theorem excess_of_remaining {duration excess : Ieee f} (hduration : NotNegative duration)
    (hexcess : excess > (ofRat timeSlack : Ieee f))
    (hremaining : ¬ (duration - stdMin duration excess ≤ (ofRat timeSlack : Ieee f))) :
    ¬ (excess - stdMin duration excess > (ofRat timeSlack : Ieee f)) := by
  obtain ⟨hslack, hnumber, -⟩ :=
    Ieee.lt_iff.mp (show Ieee.lt (ofRat timeSlack) excess = true from hexcess)
  unfold stdMin at hremaining ⊢
  by_cases hlt : excess < duration
  · rw [if_pos hlt]
    exact not_slack_lt ((Ieee.sub_self excess).imp And.left And.right)
  · rw [if_neg hlt] at hremaining ⊢
    rcases Ieee.sub_self duration with ⟨-, hinfinite⟩ | ⟨hnan, hzero⟩
    · have hge : Ieee.lt excess duration = false := Bool.eq_false_iff.mpr hlt
      exact not_slack_lt (.inl (Ieee.isNaN_sub_of_infinite hinfinite hduration hnumber hge))
    · -- A zero does not exceed the slack, so the run would be used up.
      refine absurd (Ieee.le_iff.mpr ⟨hnan, hslack, ?_⟩) hremaining
      exact hzero.trans_le key_timeSlack

theorem notNegative_remaining {x : Ieee f} (h : ¬ (x ≤ (ofRat timeSlack : Ieee f))) :
    NotNegative x := by
  by_cases hnan : x.isNaN = true
  · exact .inl hnan
  · have hslack : (ofRat timeSlack : Ieee f).isNaN = false := Ieee.isNaN_round _ _
    have hlt := Ieee.lt_of_not_le hslack (Bool.eq_false_iff.mpr hnan) h
    exact .inr (key_timeSlack.trans (Ieee.lt_iff.mp hlt).2.2.le)

omit [Ieee.Proper f] in
theorem SuccessWindow.trim_of_no_excess (rounds : ℕ) {excess : Ieee f}
    (window : SuccessWindow (Ieee f)) (h : ¬ (excess > (ofRat timeSlack : Ieee f))) :
    SuccessWindow.trim rounds excess window = .ok window := by
  unfold SuccessWindow.trim
  cases window.runs with
  | nil => rfl
  | cons oldest rest => exact if_neg h

/-- **The loop ends within as many rounds as there are runs.** -/
theorem SuccessWindow.trim_wellTimed (rounds : ℕ) (excess : Ieee f)
    (window : SuccessWindow (Ieee f)) (h : window.WellTimed)
    (hrounds : window.runs.length ≤ rounds) :
    ∃ trimmed, SuccessWindow.trim rounds excess window = .ok trimmed ∧ trimmed.WellTimed := by
  induction rounds generalizing excess window with
  | zero =>
    obtain hruns : window.runs = [] := List.eq_nil_of_length_eq_zero (Nat.le_zero.mp hrounds)
    refine ⟨window, ?_, h⟩
    unfold SuccessWindow.trim
    rw [hruns]
  | succ rounds ih =>
    unfold SuccessWindow.trim
    cases hruns : window.runs with
    | nil => exact ⟨window, rfl, h⟩
    | cons oldest rest =>
      have holdest : NotNegative oldest.durationS :=
        h oldest (by rw [hruns]; exact List.mem_cons_self)
      have hrest : ∀ run ∈ rest, NotNegative run.durationS := fun run hrun =>
        h run (by rw [hruns]; exact List.mem_cons_of_mem _ hrun)
      rw [hruns, List.length_cons] at hrounds
      by_cases hexcess : excess > (ofRat timeSlack : Ieee f)
      · simp only [hexcess, if_true]
        by_cases hremaining :
            oldest.durationS - stdMin oldest.durationS excess ≤ (ofRat timeSlack : Ieee f)
        · simp only [hremaining, if_true]
          exact ih _ _ hrest (by simpa using hrounds)
        · -- A part of the run remains; the next look at the excess ends the loop.
          simp only [hremaining, if_false]
          refine ⟨_, SuccessWindow.trim_of_no_excess _ _
            (excess_of_remaining holdest hexcess hremaining), ?_⟩
          intro run hrun
          rcases List.mem_cons.mp hrun with rfl | hrun
          · exact notNegative_remaining hremaining
          · exact hrest run hrun
      · simp only [hexcess, if_false]
        exact ⟨window, rfl, h⟩

theorem SuccessWindow.extended_wellTimed {window : SuccessWindow (Ieee f)} {success dt : Ieee f}
    {runs : List (SuccessRun (Ieee f))} (h : window.WellTimed) (hdt : NotNegative dt)
    (hruns : window.extended success dt = .ok runs) :
    ∀ run ∈ runs, NotNegative run.durationS := by
  have happend : ∀ run ∈ window.runs ++ [⟨success, dt⟩], NotNegative run.durationS := by
    intro run hrun
    rcases List.mem_append.mp hrun with hrun | hrun
    · exact h run hrun
    · rw [List.mem_singleton.mp hrun]
      exact hdt
  unfold SuccessWindow.extended at hruns
  cases hlast : window.runs.getLast? with
  | none =>
    rw [hlast] at hruns
    dsimp only at hruns
    split_ifs at hruns
    cases hruns
    exact happend
  | some last =>
    rw [hlast] at hruns
    dsimp only at hruns
    split_ifs at hruns
    · cases hruns
      intro run hrun
      rcases List.mem_append.mp hrun with hrun | hrun
      · exact h run (List.mem_of_mem_dropLast hrun)
      · rw [List.mem_singleton.mp hrun]
        exact (h last (List.mem_of_getLast? hlast)).add hdt
    · cases hruns
      exact happend

/-- **An observation has a result or finds the ring full.** -/
theorem SuccessWindow.observe_wellTimed {window : SuccessWindow (Ieee f)} {success dt : Ieee f}
    (h : window.WellTimed) (hdt : NotNegative dt) :
    window.observe success dt = .error .capacity ∨
      ∃ average observed, window.observe success dt = .ok (average, observed) ∧
        observed.WellTimed := by
  unfold SuccessWindow.observe
  cases hruns : window.extended success dt with
  | error fault =>
    left
    unfold SuccessWindow.extended at hruns
    dsimp only at hruns
    split at hruns <;> split_ifs at hruns <;> cases hruns <;> rfl
  | ok runs =>
    right
    obtain ⟨trimmed, htrim, hwell⟩ := SuccessWindow.trim_wellTimed (runs.length + 1)
      (window.totalDurationS + dt - window.durationLimitS)
      { window with
        runs := runs
        totalDurationS := window.totalDurationS + dt
        weightedSuccess := window.weightedSuccess + success * dt }
      (SuccessWindow.extended_wellTimed h hdt hruns) (Nat.le_succ _)
    simp only [except_ok_bind, htrim]
    split_ifs
    · exact ⟨_, trimmed, rfl, hwell⟩
    · exact ⟨_, trimmed, rfl, hwell⟩

end Ieee

end FrankaDeploy.CartesianSegment
