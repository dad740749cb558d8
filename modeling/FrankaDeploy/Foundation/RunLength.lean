import Mathlib.Data.List.DropRight
import Mathlib.Tactic.Common

/-! # Run-length encoded windows

A component that keeps the last part of a signal may keep it as runs, each a value with the number
of its repetitions. `push` appends to the signal and merges with the last run, `dropFront` removes
from its front and may cut the first run; `expand_push` and `expand_dropFront` say what they do to
the signal that the runs stand for. -/

namespace FrankaDeploy.Foundation.RunLength

variable {α : Type*} {a : α} {n k : ℕ} {runs : List (α × ℕ)}

/-- **The signal that runs stand for**, oldest value first. -/
def expand (runs : List (α × ℕ)) : List α := runs.flatMap fun run => List.replicate run.2 run.1

@[simp] theorem expand_nil : expand ([] : List (α × ℕ)) = [] := rfl

@[simp] theorem expand_cons (run : α × ℕ) (runs : List (α × ℕ)) :
    expand (run :: runs) = List.replicate run.2 run.1 ++ expand runs :=
  List.flatMap_cons

@[simp] theorem expand_append (runs more : List (α × ℕ)) :
    expand (runs ++ more) = expand runs ++ expand more :=
  List.flatMap_append

def Positive (runs : List (α × ℕ)) : Prop := ∀ run ∈ runs, 0 < run.2

/-- Every run but the first has at least `k` repetitions. -/
def Spaced (k : ℕ) (runs : List (α × ℕ)) : Prop := ∀ run ∈ runs.tail, k ≤ run.2

theorem length_mul_le_expand (h : ∀ run ∈ runs, k ≤ run.2) :
    runs.length * k ≤ (expand runs).length := by
  induction runs with
  | nil => simp
  | cons run runs ih =>
    have hrun := h run List.mem_cons_self
    have hrest := ih fun r hr => h r (List.mem_cons_of_mem _ hr)
    rw [expand_cons, List.length_append, List.length_replicate, List.length_cons,
      Nat.add_mul, Nat.one_mul]
    omega

theorem Spaced.length_mul_le (h : Spaced k runs) :
    (runs.length - 1) * k ≤ (expand runs).length := by
  cases runs with
  | nil => simp
  | cons run runs =>
    have hrest : runs.length * k ≤ (expand runs).length := length_mul_le_expand h
    rw [expand_cons, List.length_append, List.length_cons, Nat.add_sub_cancel]
    omega

theorem mem_expand (h : Positive runs) : a ∈ expand runs ↔ ∃ run ∈ runs, run.1 = a := by
  unfold expand
  rw [List.mem_flatMap]
  constructor
  · rintro ⟨run, hrun, ha⟩
    exact ⟨run, hrun, (List.eq_of_mem_replicate ha).symm⟩
  · rintro ⟨run, hrun, rfl⟩
    refine ⟨run, hrun, ?_⟩
    rw [List.mem_replicate]
    exact ⟨(h run hrun).ne', rfl⟩

/-! ## Appending -/

/-- **`n` more values** `a`, merged with the last run when it has the same value. -/
def push [DecidableEq α] (runs : List (α × ℕ)) (a : α) (n : ℕ) : List (α × ℕ) :=
  match runs.getLast? with
  | some last => if last.1 = a then runs.dropLast ++ [(last.1, last.2 + n)] else runs ++ [(a, n)]
  | none => runs ++ [(a, n)]

section Push

variable [DecidableEq α]

theorem push_cases (runs : List (α × ℕ)) (a : α) (n : ℕ) :
    (∃ before m, runs = before ++ [(a, m)] ∧ push runs a n = before ++ [(a, m + n)]) ∨
      push runs a n = runs ++ [(a, n)] := by
  unfold push
  cases hlast : runs.getLast? with
  | none => exact .inr rfl
  | some last =>
    obtain ⟨before, rfl⟩ := List.getLast?_eq_some_iff.1 hlast
    dsimp only
    by_cases h : last.1 = a
    · rw [if_pos h, List.dropLast_concat]
      subst h
      exact .inl ⟨before, last.2, rfl, rfl⟩
    · rw [if_neg h]
      exact .inr rfl

theorem expand_push (runs : List (α × ℕ)) (a : α) (n : ℕ) :
    expand (push runs a n) = expand runs ++ List.replicate n a := by
  rcases push_cases runs a n with ⟨before, m, rfl, h⟩ | h
  · rw [h, expand_append, expand_append, List.append_assoc]
    simp
  · rw [h, expand_append]
    simp

theorem Positive.push (h : Positive runs) (hn : 0 < n) : Positive (push runs a n) := by
  rcases push_cases runs a n with ⟨before, m, rfl, hpush⟩ | hpush
  · rw [hpush]
    intro run hrun
    rcases List.mem_append.1 hrun with hrun | hrun
    · exact h run (List.mem_append_left _ hrun)
    · rw [List.mem_singleton.1 hrun]
      exact Nat.add_pos_right m hn
  · rw [hpush]
    intro run hrun
    rcases List.mem_append.1 hrun with hrun | hrun
    · exact h run hrun
    · rwa [List.mem_singleton.1 hrun]

theorem Spaced.push (h : Spaced k runs) (hn : k ≤ n) : Spaced k (push runs a n) := by
  rcases push_cases runs a n with ⟨before, m, rfl, hpush⟩ | hpush
  · rw [hpush]
    cases before with
    | nil => exact fun run hrun => absurd hrun List.not_mem_nil
    | cons first before =>
      intro run hrun
      rcases List.mem_append.1 hrun with hrun | hrun
      · exact h run (List.mem_append_left _ hrun)
      · rw [List.mem_singleton.1 hrun]
        exact hn.trans (Nat.le_add_left n m)
  · rw [hpush]
    cases runs with
    | nil => exact fun run hrun => absurd hrun List.not_mem_nil
    | cons first runs =>
      intro run hrun
      rcases List.mem_append.1 hrun with hrun | hrun
      · exact h run hrun
      · rwa [List.mem_singleton.1 hrun]

end Push

/-! ## Removing -/

/-- **The first `e` values go**: whole runs, and the last of them in part. -/
def dropFront : ℕ → List (α × ℕ) → List (α × ℕ)
  | _, [] => []
  | e, run :: runs =>
    if e = 0 then run :: runs
    else if run.2 ≤ e then dropFront (e - run.2) runs
    else (run.1, run.2 - e) :: runs

/-- The last run that goes is cut. -/
example : dropFront 3 [(7, 2), (5, 4)] = [(5, 3)] := by decide +kernel

@[simp] theorem dropFront_zero (runs : List (α × ℕ)) : dropFront 0 runs = runs := by
  cases runs <;> rfl

theorem expand_dropFront (e : ℕ) (runs : List (α × ℕ)) :
    expand (dropFront e runs) = (expand runs).drop e := by
  induction runs generalizing e with
  | nil => rw [dropFront, expand_nil, List.drop_nil]
  | cons run runs ih =>
    rw [dropFront, expand_cons]
    by_cases hzero : e = 0
    · rw [if_pos hzero, hzero, List.drop_zero, expand_cons]
    rw [if_neg hzero]
    by_cases hle : run.2 ≤ e
    · have hnil : (List.replicate run.2 run.1).drop e = [] := by
        rw [List.drop_eq_nil_iff, List.length_replicate]
        exact hle
      rw [if_pos hle, ih, List.drop_append, List.length_replicate, hnil, List.nil_append]
    · rw [if_neg hle, expand_cons, List.drop_append_of_le_length (by
        rw [List.length_replicate]
        omega), List.drop_replicate]

theorem Positive.dropFront (h : Positive runs) (e : ℕ) : Positive (dropFront e runs) := by
  induction runs generalizing e with
  | nil => exact h
  | cons run runs ih =>
    have hrest : Positive runs := fun r hr => h r (List.mem_cons_of_mem _ hr)
    rw [RunLength.dropFront]
    by_cases hzero : e = 0
    · rwa [if_pos hzero]
    rw [if_neg hzero]
    by_cases hle : run.2 ≤ e
    · rw [if_pos hle]
      exact ih hrest _
    · rw [if_neg hle]
      intro r hr
      rcases List.mem_cons.1 hr with rfl | hr
      · show 0 < run.2 - e
        omega
      · exact hrest r hr

theorem Spaced.dropFront (h : Spaced k runs) (e : ℕ) : Spaced k (dropFront e runs) := by
  induction runs generalizing e with
  | nil => exact h
  | cons run runs ih =>
    have hrest : Spaced k runs := fun r hr => h r (List.mem_of_mem_tail hr)
    rw [RunLength.dropFront]
    by_cases hzero : e = 0
    · rwa [if_pos hzero]
    rw [if_neg hzero]
    by_cases hle : run.2 ≤ e
    · rw [if_pos hle]
      exact ih hrest _
    · rw [if_neg hle]
      exact h

/-! ## The last values -/

theorem rtake_append (signal more : List α) (n : ℕ) :
    (signal ++ more).rtake n = (signal.rtake n ++ more).rtake n := by
  unfold List.rtake
  by_cases h : signal.length ≤ n
  · rw [Nat.sub_eq_zero_of_le h, List.drop_zero]
  · have hcut : (signal ++ more).length - n =
        signal.length - n + ((signal.drop (signal.length - n) ++ more).length - n) := by
      rw [List.length_append, List.length_append, List.length_drop]
      omega
    rw [hcut, ← List.drop_drop, List.drop_append_of_le_length (Nat.sub_le _ _)]

theorem length_rtake (signal : List α) (n : ℕ) :
    (signal.rtake n).length = min n signal.length := by
  unfold List.rtake
  rw [List.length_drop]
  omega

end FrankaDeploy.Foundation.RunLength
