import Mathlib.Algebra.Order.Floor.Ring
import Mathlib.Algebra.Order.Group.Abs
import Mathlib.Data.Rat.Floor
import Mathlib.Tactic.Common

/-! # Bounded approach

A value that moves towards a target by at most `δ` per step. Several steps are one step of the
summed bounds (`approach_approach`), so a whole run has a closed form: it never leaves the interval
between the start and the target, and it is at the target after `⌈|target - start| / δ⌉` steps and
not before (`approach_eq_target_iff`). -/

namespace FrankaDeploy.Foundation

/-- **One step towards a target**: the difference, clipped to `[-δ, δ]`. -/
def approach (x target δ : ℤ) : ℤ := x + min (max (target - x) (-δ)) δ

@[simp] theorem approach_zero (x target : ℤ) : approach x target 0 = x := by
  unfold approach
  omega

theorem approach_approach {m δ : ℤ} (x target : ℤ) (hm : 0 ≤ m) (hδ : 0 ≤ δ) :
    approach (approach x target m) target δ = approach x target (m + δ) := by
  unfold approach
  rcases le_total x target with h | h
  · rcases le_total (target - x) m with hm' | hm'
    · omega
    · omega
  · rcases le_total (x - target) m with hm' | hm'
    · omega
    · omega

theorem approach_between {δ : ℤ} (x target : ℤ) (hδ : 0 ≤ δ) :
    min x target ≤ approach x target δ ∧ approach x target δ ≤ max x target := by
  unfold approach
  omega

theorem abs_approach_sub_le {δ : ℤ} (x target : ℤ) (hδ : 0 ≤ δ) :
    |approach x target δ - x| ≤ δ := by
  rw [abs_le]
  unfold approach
  omega

theorem approach_eq_target_iff_abs_le {δ : ℤ} (x target : ℤ) (hδ : 0 ≤ δ) :
    approach x target δ = target ↔ |target - x| ≤ δ := by
  rw [abs_le]
  unfold approach
  omega

/-- **A run of `n` steps has arrived** exactly when `n` is at least the rounded-up number of bounds
in the distance. -/
theorem approach_eq_target_iff {δ : ℤ} (x target : ℤ) (n : ℕ) (hδ : 0 < δ) :
    approach x target (n * δ) = target ↔ ⌈(|target - x| : ℚ) / δ⌉₊ ≤ n := by
  have hδ' : (0 : ℚ) < δ := Int.cast_pos.mpr hδ
  rw [approach_eq_target_iff_abs_le x target (Int.mul_nonneg (Int.natCast_nonneg n) hδ.le),
    Nat.ceil_le, div_le_iff₀ hδ']
  have hcast : |(target : ℚ) - x| = ((|target - x| : ℤ) : ℚ) := by
    rw [Int.cast_abs, Int.cast_sub]
  rw [hcast]
  exact_mod_cast Iff.rfl

end FrankaDeploy.Foundation
