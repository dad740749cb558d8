import Mathlib.Data.Nat.Notation
import Mathlib.Tactic.Common

/-! # Runs of consecutive successes

A supervisor counts successes in a row and starts over at the first failure. `trailingRun p n` is
that counter after the attempts `0, …, n - 1`, and `le_trailingRun_iff` says what it means for it
to have reached a threshold. -/

namespace FrankaDeploy.Foundation

/-- The number of successes in a row at the end of the first `n` attempts. -/
def trailingRun (p : ℕ → Bool) : ℕ → ℕ
  | 0 => 0
  | n + 1 => if p n then trailingRun p n + 1 else 0

@[simp] theorem trailingRun_zero (p : ℕ → Bool) : trailingRun p 0 = 0 := rfl

theorem trailingRun_succ_of_true {p : ℕ → Bool} {n : ℕ} (h : p n = true) :
    trailingRun p (n + 1) = trailingRun p n + 1 := if_pos h

theorem trailingRun_succ_of_false {p : ℕ → Bool} {n : ℕ} (h : p n = false) :
    trailingRun p (n + 1) = 0 := if_neg (by simp [h])

/-- **The counter has reached `m` exactly when the last `m` attempts succeeded.** -/
theorem le_trailingRun_iff (p : ℕ → Bool) (m n : ℕ) :
    m ≤ trailingRun p n ↔ m ≤ n ∧ ∀ j, n - m ≤ j → j < n → p j = true := by
  induction n generalizing m with
  | zero =>
    rw [trailingRun_zero]
    exact ⟨fun h => ⟨h, fun j _ hj => absurd hj (Nat.not_lt_zero j)⟩, fun h => h.1⟩
  | succ n ih =>
    cases hp : p n with
    | false =>
      rw [trailingRun_succ_of_false hp]
      refine ⟨fun h => ⟨by omega, fun j hj hlt => by omega⟩, fun h => ?_⟩
      by_contra hm
      have hn := h.2 n (by omega) (Nat.lt_succ_self n)
      simp [hp] at hn
    | true =>
      rw [trailingRun_succ_of_true hp]
      cases m with
      | zero => exact ⟨fun _ => ⟨Nat.zero_le _, fun j hj hlt => by omega⟩, fun _ => by omega⟩
      | succ m =>
        rw [Nat.succ_le_succ_iff, ih]
        refine ⟨fun h => ⟨by omega, fun j hj hlt => ?_⟩, fun h => ⟨by omega, ?_⟩⟩
        · rcases Nat.lt_succ_iff_lt_or_eq.mp hlt with hlt | rfl
          · exact h.2 j (by omega) hlt
          · exact hp
        · intro j hj hlt
          exact h.2 j (by omega) (by omega)

theorem trailingRun_le (p : ℕ → Bool) (n : ℕ) : trailingRun p n ≤ n :=
  ((le_trailingRun_iff p _ n).mp (Nat.le_refl _)).1

end FrankaDeploy.Foundation
