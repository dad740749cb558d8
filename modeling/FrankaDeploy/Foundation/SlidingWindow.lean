import Mathlib.Data.List.Basic
import Mathlib.Tactic.Common

/-! # Sliding windows

The window of length `n` over a history: its last `n` elements, where a shorter history is filled
up in front with copies of its first element. A component that keeps such a window need not keep
the history: `slidingWindow_snoc` computes the next window from the last one, which is how a
controller that feeds a fixed number of frames to a network stores them. -/

namespace FrankaDeploy.Foundation

variable {α β : Type*}

/-- **The last `n` elements of a history**, the first one repeated to fill. -/
def slidingWindow (n : ℕ) : List α → List α
  | [] => []
  | x :: xs => (List.replicate (n - 1) x ++ x :: xs).drop xs.length

@[simp] theorem slidingWindow_nil (n : ℕ) : slidingWindow n ([] : List α) = [] := rfl

theorem slidingWindow_singleton {n : ℕ} (hn : 0 < n) (x : α) :
    slidingWindow n [x] = List.replicate n x := by
  obtain ⟨m, rfl⟩ : ∃ m, n = m + 1 := ⟨n - 1, by omega⟩
  show (List.replicate m x ++ [x]).drop 0 = _
  rw [List.drop_zero, List.replicate_succ']

theorem slidingWindow_snoc (n : ℕ) {xs : List α} (hxs : xs ≠ []) (y : α) :
    slidingWindow n (xs ++ [y]) = (slidingWindow n xs).drop 1 ++ [y] := by
  cases xs with
  | nil => exact absurd rfl hxs
  | cons x xs =>
    show (List.replicate (n - 1) x ++ x :: (xs ++ [y])).drop (xs ++ [y]).length = _
    have hsplit : List.replicate (n - 1) x ++ x :: (xs ++ [y]) =
        (List.replicate (n - 1) x ++ x :: xs) ++ [y] := by
      rw [List.append_assoc, List.cons_append]
    have hle : xs.length + 1 ≤ (List.replicate (n - 1) x ++ x :: xs).length := by
      rw [List.length_append, List.length_cons]
      omega
    rw [hsplit, List.length_append, List.length_singleton, List.drop_append_of_le_length hle,
      slidingWindow, List.drop_drop]

end FrankaDeploy.Foundation
