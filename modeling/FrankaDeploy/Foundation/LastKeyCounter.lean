import Mathlib.Data.List.Count
import Mathlib.Data.List.Induction
import Mathlib.Tactic.Common

/-! # Counting uses with one key in mind

A component that wants to bound how often a key is used, and that remembers only the last key and
how often it was used in a row. `after` is that counter after a list of uses. The counter bounds
the uses of each key as long as no key comes back after it was left (`count_le_of_neverReturns`);
it does not otherwise, since a key that comes back is counted from one again. -/

namespace FrankaDeploy.Foundation

variable {α : Type*} [DecidableEq α]

/-- **A counter of the uses of the last key.** -/
structure LastKeyCounter (α : Type*) where
  last : Option α
  uses : ℕ

namespace LastKeyCounter

def start : LastKeyCounter α := ⟨none, 0⟩

def use (c : LastKeyCounter α) (x : α) : LastKeyCounter α :=
  if some x = c.last then { c with uses := c.uses + 1 } else ⟨some x, 1⟩

def usesOf (c : LastKeyCounter α) (x : α) : ℕ := if some x = c.last then c.uses else 0

def after (xs : List α) : LastKeyCounter α := xs.foldl use start

@[simp] theorem after_nil : after ([] : List α) = start := rfl

theorem after_snoc (xs : List α) (x : α) : after (xs ++ [x]) = (after xs).use x := by
  unfold after
  rw [List.foldl_append]
  rfl

@[simp] theorem use_last (c : LastKeyCounter α) (x : α) : (c.use x).last = some x := by
  unfold use
  by_cases h : some x = c.last
  · rw [if_pos h]
    exact h.symm
  · rw [if_neg h]

theorem after_last (xs : List α) : (after xs).last = xs.getLast? := by
  induction xs using List.reverseRecOn with
  | nil => rfl
  | append_singleton xs x _ => rw [after_snoc, use_last, List.getLast?_concat]

/-- **No key comes back after it was left.** -/
def NeverReturns (xs : List α) : Prop :=
  ∀ pre x post, xs = pre ++ x :: post → x ∈ pre → pre.getLast? = some x

/-- **Every use was admitted**: the counter was below the limit before it. -/
def AdmittedBelow (limit : ℕ) (xs : List α) : Prop :=
  ∀ pre x post, xs = pre ++ x :: post → (after pre).usesOf x < limit

omit [DecidableEq α] in
theorem NeverReturns.of_snoc {xs : List α} {x : α} (h : NeverReturns (xs ++ [x])) :
    NeverReturns xs := by
  intro pre y post hsplit hy
  refine h pre y (post ++ [x]) ?_ hy
  rw [hsplit, List.append_assoc, List.cons_append]

theorem AdmittedBelow.of_snoc {limit : ℕ} {xs : List α} {x : α}
    (h : AdmittedBelow limit (xs ++ [x])) : AdmittedBelow limit xs := by
  intro pre y post hsplit
  refine h pre y (post ++ [x]) ?_
  rw [hsplit, List.append_assoc, List.cons_append]

theorem AdmittedBelow.snoc {limit : ℕ} {xs : List α} {x : α} (h : AdmittedBelow limit xs)
    (hx : (after xs).usesOf x < limit) : AdmittedBelow limit (xs ++ [x]) := by
  intro pre y post hsplit
  induction post using List.reverseRecOn with
  | nil =>
    obtain ⟨rfl, hy⟩ := List.append_inj' hsplit rfl
    obtain rfl : x = y := by simpa using hy
    exact hx
  | append_singleton post last _ =>
    rw [← List.cons_append, ← List.append_assoc] at hsplit
    obtain ⟨hxs, -⟩ := List.append_inj' hsplit rfl
    exact h pre y post hxs

/-- **Without returns the counter counts the last key exactly.** -/
theorem count_eq_uses {xs : List α} (h : NeverReturns xs) {x : α} (hx : xs.getLast? = some x) :
    xs.count x = (after xs).uses := by
  induction xs using List.reverseRecOn generalizing x with
  | nil => cases hx
  | append_singleton xs y ih =>
    rw [List.getLast?_concat] at hx
    obtain rfl := Option.some.inj hx
    rw [after_snoc, List.count_append, List.count_singleton_self]
    unfold use
    by_cases hlast : some y = (after xs).last
    · rw [if_pos hlast]
      have hcount := ih h.of_snoc (x := y) (by rw [← after_last]; exact hlast.symm)
      rw [hcount]
    · -- a key that is not the last one was never used
      rw [if_neg hlast]
      have hfresh : y ∉ xs := by
        intro hmem
        rw [after_last] at hlast
        exact hlast (h xs y [] rfl hmem).symm
      rw [List.count_eq_zero_of_not_mem hfresh]

/-- **Without returns every key is used within the limit.** -/
theorem count_le_of_neverReturns {limit : ℕ} {xs : List α} (h : NeverReturns xs)
    (hadmitted : AdmittedBelow limit xs) (x : α) : xs.count x ≤ limit := by
  induction xs using List.reverseRecOn with
  | nil => exact Nat.zero_le _
  | append_singleton xs y ih =>
    have hprevious := ih h.of_snoc hadmitted.of_snoc
    by_cases hxy : y = x
    · subst hxy
      have hbelow : (after xs).usesOf y < limit := hadmitted xs y [] rfl
      rw [List.count_append, List.count_singleton_self]
      unfold usesOf at hbelow
      by_cases hlast : some y = (after xs).last
      · rw [if_pos hlast] at hbelow
        rw [after_last] at hlast
        have hcount := count_eq_uses h.of_snoc hlast.symm
        omega
      · have hfresh : y ∉ xs := by
          intro hmem
          rw [after_last] at hlast
          exact hlast (h xs y [] rfl hmem).symm
        rw [List.count_eq_zero_of_not_mem hfresh]
        omega
    · rw [List.count_append, List.count_singleton, if_neg (by simpa using hxy)]
      omega

end LastKeyCounter

end FrankaDeploy.Foundation
