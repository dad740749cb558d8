import FrankaDeploy.Foundation.Python
import Mathlib.Tactic.Linarith
import Mathlib.Tactic.Ring

/-! # Rounding to integers

`rint` rounds an exact number to the nearest integer, ties to even. Control code that rounds a
command in every tick needs two facts of it: the error is at most a half, and a number between two
integers stays between them. Both hold however ties are broken. -/

namespace FrankaDeploy.Foundation

theorem roundHalfEven_near {n d : ℕ} (hd : 0 < d) :
    2 * n ≤ (2 * FloatArith.roundHalfEven n d + 1) * d ∧
      2 * (FloatArith.roundHalfEven n d * d) ≤ 2 * n + d := by
  have hsplit := Nat.div_add_mod n d
  have hmod := Nat.mod_lt n hd
  have hcomm : d * (n / d) = n / d * d := Nat.mul_comm _ _
  have hone : (2 * (n / d) + 1) * d = 2 * (n / d * d) + d := by ring
  have htwo : (n / d + 1) * d = n / d * d + d := by ring
  have hthree : (2 * (n / d + 1) + 1) * d = 2 * (n / d * d) + 3 * d := by ring
  unfold FloatArith.roundHalfEven
  dsimp only
  split_ifs with hlow hhigh
  · omega
  · omega
  · rcases Nat.mod_two_eq_zero_or_one (n / d) with heven | hodd
    · simp only [heven, Nat.add_zero]
      omega
    · simp only [hodd]
      omega

theorem abs_roundHalfEven_sub_le {n d : ℕ} (hd : 0 < d) :
    |(FloatArith.roundHalfEven n d : ℚ) - (n : ℚ) / d| ≤ 1 / 2 := by
  obtain ⟨hlow, hhigh⟩ := roundHalfEven_near (n := n) hd
  have hpos : (0 : ℚ) < d := by exact_mod_cast hd
  have hlow' : 2 * (n : ℚ) ≤ (2 * FloatArith.roundHalfEven n d + 1) * d := by exact_mod_cast hlow
  have hhigh' : 2 * ((FloatArith.roundHalfEven n d : ℚ) * d) ≤ 2 * n + d := by
    exact_mod_cast hhigh
  have hupper : (n : ℚ) / d ≤ FloatArith.roundHalfEven n d + 1 / 2 := by
    rw [div_le_iff₀ hpos]
    linarith
  have hlower : FloatArith.roundHalfEven n d - 1 / 2 ≤ (n : ℚ) / d := by
    rw [le_div_iff₀ hpos]
    linarith
  rw [abs_le]
  constructor <;> linarith

theorem abs_rint_sub_le (q : ℚ) : |(rint q : ℚ) - q| ≤ 1 / 2 := by
  have hmagnitude := abs_roundHalfEven_sub_le (n := q.num.natAbs) q.den_pos
  have hnum : ((q.num.natAbs : ℕ) : ℚ) = |(q.num : ℚ)| := by
    rw [← Int.cast_abs, Int.abs_eq_natAbs]
    rfl
  rw [hnum] at hmagnitude
  have hquotient : (q.num : ℚ) / q.den = q := Rat.num_div_den q
  unfold rint
  dsimp only
  split_ifs with hneg
  · have hsign : (q.num : ℚ) ≤ 0 := by exact_mod_cast (Rat.num_neg.2 hneg).le
    rw [abs_of_nonpos hsign, neg_div, hquotient] at hmagnitude
    push_cast
    rw [← abs_neg]
    convert hmagnitude using 2
    ring
  · have hsign : (0 : ℚ) ≤ q.num := by exact_mod_cast Rat.num_nonneg.2 (not_lt.1 hneg)
    rw [abs_of_nonneg hsign, hquotient] at hmagnitude
    exact_mod_cast hmagnitude

theorem rint_le_of_le {q : ℚ} {n : ℤ} (h : q ≤ n) : rint q ≤ n := by
  have herror := (abs_le.1 (abs_rint_sub_le q)).2
  have hlt : (rint q : ℚ) < (n + 1 : ℤ) := by
    push_cast
    linarith
  exact Int.lt_add_one_iff.1 (by exact_mod_cast hlt)

theorem le_rint_of_le {q : ℚ} {n : ℤ} (h : (n : ℚ) ≤ q) : n ≤ rint q := by
  have herror := (abs_le.1 (abs_rint_sub_le q)).1
  have hlt : (n - 1 : ℤ) < (rint q : ℚ) := by
    push_cast
    linarith
  exact Int.sub_one_lt_iff.1 (by exact_mod_cast hlt)

theorem lt_rint_of_half_lt {q : ℚ} {n : ℤ} (h : (n : ℚ) + 1 / 2 < q) : n < rint q := by
  have herror := (abs_le.1 (abs_rint_sub_le q)).1
  have hlt : (n : ℚ) < rint q := by linarith
  exact_mod_cast hlt

theorem rint_lt_of_lt_half {q : ℚ} {n : ℤ} (h : q < (n : ℚ) - 1 / 2) : rint q < n := by
  have herror := (abs_le.1 (abs_rint_sub_le q)).2
  have hlt : (rint q : ℚ) < n := by linarith
  exact_mod_cast hlt

end FrankaDeploy.Foundation
