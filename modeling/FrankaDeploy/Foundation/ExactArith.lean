import FrankaDeploy.Foundation.Python
import FrankaDeploy.Foundation.Ieee754

/-! # Exact arithmetic

The rationals as a floating-point type: every operation is exact, every number is finite, and a
conversion from binary32 gives the exact value. A definition over `FloatArith F` evaluated here is
the code with its floats read as exact numbers. The lemmas turn the selections of the standard
libraries into `min` and `max`. -/

namespace FrankaDeploy.Foundation

/-- **Exact arithmetic.** There is no next number. -/
instance instFloatArithRat : FloatArith ℚ where
  ofRat q := q
  toRat? q := some q
  signBit q := decide (q < 0)
  add x y := x + y
  sub x y := x - y
  mul x y := x * y
  div x y := x / y
  neg x := -x
  abs x := |x|
  nextUp x := x
  nextDown x := x
  lt x y := decide (x < y)
  le x y := decide (x ≤ y)
  eqv x y := decide (x = y)

/-- Both widths exact. -/
instance instFloatCastRatRat : FloatCast ℚ ℚ := ⟨id, id⟩

/-- **Exact numbers with binary32 as the narrow type.** -/
instance instFloatCastRatBinary32 : FloatCast ℚ Binary32 where
  narrow q := FloatArith.ofRat q
  widen x := (FloatArith.toRat? x).getD 0

namespace FloatArith

/-! ## Operations -/

@[simp] theorem ofRat_rat (q : ℚ) : (ofRat q : ℚ) = q := rfl

@[simp] theorem zero_rat : (zero : ℚ) = 0 := rfl

@[simp] theorem one_rat : (one : ℚ) = 1 := rfl

@[simp] theorem toRat?_rat (q : ℚ) : toRat? q = some q := rfl

@[simp] theorem isFinite_rat (q : ℚ) : isFinite q = true := rfl

@[simp] theorem add_rat (x y : ℚ) : add x y = x + y := rfl

@[simp] theorem sub_rat (x y : ℚ) : sub x y = x - y := rfl

@[simp] theorem mul_rat (x y : ℚ) : mul x y = x * y := rfl

@[simp] theorem div_rat (x y : ℚ) : div x y = x / y := rfl

@[simp] theorem neg_rat (x : ℚ) : neg x = -x := rfl

@[simp] theorem lt_rat (x y : ℚ) : lt x y = decide (x < y) := rfl

@[simp] theorem le_rat (x y : ℚ) : le x y = decide (x ≤ y) := rfl

@[simp] theorem eqv_rat (x y : ℚ) : eqv x y = decide (x = y) := rfl

end FloatArith

@[simp] theorem isNan_rat (x : ℚ) : isNan x = false := by
  unfold isNan
  rw [FloatArith.eqv_rat, decide_eq_true rfl]
  rfl

@[simp] theorem Vec.allFinite_rat {n : ℕ} (v : Vec n ℚ) : v.allFinite = true :=
  v.allFinite_iff.mpr fun _ => rfl

/-! ## Selections -/

open scoped FloatArith in
theorem stdClamp_rat {x lower upper : ℚ} (h : lower ≤ upper) :
    FloatArith.stdClamp x lower upper = max lower (min x upper) := by
  unfold FloatArith.stdClamp
  show (if decide (x < lower) = true then lower else
    if decide (upper < x) = true then upper else x) = _
  simp only [decide_eq_true_eq]
  by_cases hlower : x < lower
  · rw [if_pos hlower, min_eq_left (hlower.le.trans h), max_eq_left hlower.le]
  · rw [if_neg hlower]
    by_cases hupper : upper < x
    · rw [if_pos hupper, min_eq_right hupper.le, max_eq_right h]
    · rw [if_neg hupper, min_eq_left (not_lt.mp hupper), max_eq_right (not_lt.mp hlower)]

open scoped FloatArith in
theorem stdMax_rat (x y : ℚ) : FloatArith.stdMax x y = max x y := by
  unfold FloatArith.stdMax
  show (if decide (x < y) = true then y else x) = _
  simp only [decide_eq_true_eq]
  by_cases h : x < y
  · rw [if_pos h, max_eq_right h.le]
  · rw [if_neg h, max_eq_left (not_lt.mp h)]

open scoped FloatArith in
theorem stdMin_rat (x y : ℚ) : FloatArith.stdMin x y = min x y := by
  unfold FloatArith.stdMin
  show (if decide (y < x) = true then y else x) = _
  simp only [decide_eq_true_eq]
  by_cases h : y < x
  · rw [if_pos h, min_eq_right h.le]
  · rw [if_neg h, min_eq_left (not_lt.mp h)]

theorem npMaximum_rat (x y : ℚ) : npMaximum x y = max x y := by
  unfold npMaximum
  rw [isNan_rat]
  show (if decide (y ≤ x) = true then x else y) = _
  simp only [decide_eq_true_eq]
  by_cases h : y ≤ x
  · rw [if_pos h, max_eq_left h]
  · rw [if_neg h, max_eq_right (not_le.mp h).le]

theorem npMinimum_rat (x y : ℚ) : npMinimum x y = min x y := by
  unfold npMinimum
  rw [isNan_rat]
  show (if decide (x ≤ y) = true then x else y) = _
  simp only [decide_eq_true_eq]
  by_cases h : x ≤ y
  · rw [if_pos h, min_eq_left h]
  · rw [if_neg h, min_eq_right (not_le.mp h).le]

/-- **`np.clip`**: with crossed bounds the upper one wins. -/
theorem npClip_rat (x lower upper : ℚ) : npClip x lower upper = min (max x lower) upper := by
  unfold npClip
  rw [isNan_rat]
  dsimp only
  rw [isNan_rat]
  show (if decide ((if decide (lower < x) = true then x else lower) < upper) = true then
    if decide (lower < x) = true then x else lower else upper) = _
  simp only [decide_eq_true_eq]
  have hraised : (if lower < x then x else lower) = max x lower := by
    by_cases h : lower < x
    · rw [if_pos h, max_eq_left h.le]
    · rw [if_neg h, max_eq_right (not_lt.mp h)]
  rw [hraised]
  by_cases h : max x lower < upper
  · rw [if_pos h, min_eq_left h.le]
  · rw [if_neg h, min_eq_right (not_lt.mp h)]

/-! ## Rounding -/

theorem roundHalfEven_le {n d bound : ℕ} (hd : 0 < d) (h : n ≤ bound * d) :
    FloatArith.roundHalfEven n d ≤ bound := by
  unfold FloatArith.roundHalfEven
  dsimp only
  have hdiv : n / d ≤ bound := Nat.div_le_of_le_mul (by rwa [Nat.mul_comm] at h)
  rcases Nat.lt_or_eq_of_le hdiv with hlt | heq
  · split_ifs <;> omega
  · have hmod : n % d = 0 := by
      have hsplit := Nat.div_add_mod n d
      rw [heq, Nat.mul_comm] at hsplit
      omega
    rw [hmod, if_pos (by omega), heq]

theorem rint_bounds {q : ℚ} {bound : ℕ} (h0 : 0 ≤ q) (h : q ≤ bound) :
    0 ≤ rint q ∧ rint q ≤ bound := by
  unfold rint
  dsimp only
  rw [if_neg (not_lt.mpr h0)]
  refine ⟨Int.natCast_nonneg _, ?_⟩
  have hnum : 0 ≤ q.num := Rat.num_nonneg.mpr h0
  have hle : q.num ≤ bound * q.den := by
    have hmul := mul_le_mul_of_nonneg_right h (Nat.cast_nonneg (α := ℚ) q.den)
    rw [Rat.mul_den_eq_num] at hmul
    exact_mod_cast hmul
  have hround : FloatArith.roundHalfEven q.num.natAbs q.den ≤ bound :=
    roundHalfEven_le q.den_pos (by omega)
  exact_mod_cast hround

end FrankaDeploy.Foundation
