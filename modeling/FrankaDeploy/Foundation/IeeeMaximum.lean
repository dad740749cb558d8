import FrankaDeploy.Foundation.IeeeBounds

/-! # Running maxima and NaN

`std::max(x, y)` is `x` when `y` is a NaN. A running maximum that starts from a number so passes
over every NaN: it is at most `c` exactly when those members are that are numbers. A maximum of
absolute differences says nothing about a component whose difference is a NaN, which is one where
either side is a NaN, or both are infinite. -/

namespace FrankaDeploy.Foundation

namespace Ieee

variable {f : FloatFormat}

/-! ## Running maxima -/

theorem stdMax_of_isNaN {x y : Ieee f} (hy : y.isNaN = true) : FloatArith.stdMax x y = x := by
  unfold FloatArith.stdMax
  refine if_neg ?_
  intro hlt
  have hnumber := (lt_iff.mp (show lt x y = true from hlt)).2.1
  rw [hy] at hnumber
  cases hnumber

theorem foldl_stdMax_filter (l : List (Ieee f)) (start : Ieee f) :
    l.foldl FloatArith.stdMax start =
      (l.filter fun x => !x.isNaN).foldl FloatArith.stdMax start := by
  induction l generalizing start with
  | nil => rfl
  | cons y l ih =>
    rw [List.foldl_cons, ih]
    cases hy : y.isNaN with
    | true => rw [stdMax_of_isNaN hy, List.filter_cons_of_neg (by rw [hy]; decide)]
    | false => rw [List.filter_cons_of_pos (by rw [hy]; decide), List.foldl_cons]

/-- **A running maximum is at most `c`** exactly when its start and all its numbers are. -/
theorem foldl_stdMax_le_iff_numbers {c : Ieee f} (l : List (Ieee f)) {start : Ieee f}
    (hstart : start.isNaN = false) :
    le (l.foldl FloatArith.stdMax start) c = true ↔
      le start c = true ∧ ∀ x ∈ l, x.isNaN = false → le x c = true := by
  have hnumbers : ∀ x ∈ l.filter fun x => !x.isNaN, x.isNaN = false := by
    intro x hx
    simpa using (List.mem_filter.mp hx).2
  rw [foldl_stdMax_filter, foldl_stdMax_le_iff _ _ hstart hnumbers]
  refine and_congr_right fun _ => ?_
  constructor
  · intro h x hx hnumber
    exact h x (List.mem_filter.mpr ⟨hx, by rw [hnumber]; rfl⟩)
  · intro h x hx
    exact h x (List.mem_filter.mp hx).1 (hnumbers x hx)

theorem isNaN_foldl_stdMax_numbers (l : List (Ieee f)) {start : Ieee f}
    (hstart : start.isNaN = false) : (l.foldl FloatArith.stdMax start).isNaN = false := by
  rw [foldl_stdMax_filter]
  refine isNaN_foldl_stdMax _ _ hstart ?_
  intro x hx
  simpa using (List.mem_filter.mp hx).2

theorem not_lt_iff_le {x y : Ieee f} (hx : x.isNaN = false) (hy : y.isNaN = false) :
    ¬lt y x = true ↔ le x y = true := by
  constructor
  · intro h
    exact le_of_not_lt hy hx (by simpa using h)
  · intro hle hlt
    have := (le_iff.mp hle).2.2
    have := (lt_iff.mp hlt).2.2
    omega

/-! ## Two numbers and their bounds -/

theorem stdMin_eq_or {x y : Ieee f} :
    FloatArith.stdMin x y = x ∨ FloatArith.stdMin x y = y := by
  unfold FloatArith.stdMin
  split_ifs
  · exact .inr rfl
  · exact .inl rfl

theorem isNaN_stdMax {x y : Ieee f} (hx : x.isNaN = false) (hy : y.isNaN = false) :
    (FloatArith.stdMax x y).isNaN = false := by
  rcases stdMax_eq_or (x := x) (y := y) with h | h
  · rwa [h]
  · rwa [h]

theorem stdMin_le {x y : Ieee f} (hx : x.isNaN = false) (hy : y.isNaN = false) :
    le (FloatArith.stdMin x y) x = true ∧ le (FloatArith.stdMin x y) y = true := by
  by_cases hlt : lt y x = true
  · have hmin : FloatArith.stdMin x y = y := if_pos hlt
    rw [hmin]
    exact ⟨le_of_lt hlt, le_refl hy⟩
  · have hmin : FloatArith.stdMin x y = x := if_neg hlt
    rw [hmin]
    exact ⟨le_refl hx, (not_lt_iff_le hx hy).mp hlt⟩

theorem le_stdMax {x y : Ieee f} (hx : x.isNaN = false) (hy : y.isNaN = false) :
    le x (FloatArith.stdMax x y) = true ∧ le y (FloatArith.stdMax x y) = true :=
  (stdMax_le_iff hx hy).mp (le_refl (isNaN_stdMax hx hy))

/-! ## Products -/

theorem isNaN_mul [WellFormed f] {x y : Ieee f} (hx : FloatArith.isFinite x = true)
    (hy : FloatArith.isFinite y = true) : (mul x y).isNaN = false := by
  obtain ⟨v, hv⟩ := Option.isSome_iff_exists.mp (show (toRat? x).isSome = true from hx)
  obtain ⟨w, hw⟩ := Option.isSome_iff_exists.mp (show (toRat? y).isSome = true from hy)
  unfold mul
  rw [hv, hw]
  exact isNaN_round _ _

theorem isNaN_mul_of_nonzero [WellFormed f] {x y : Ieee f} (hx : x.isNaN = false)
    (hy : FloatArith.isFinite y = true) (hzero : y.isZero = false) :
    (mul x y).isNaN = false := by
  cases hvalue : x.toRat? with
  | some v => exact isNaN_mul (Option.isSome_iff_exists.mpr ⟨v, hvalue⟩) hy
  | none =>
    -- an infinity is no zero, and its product is an infinity
    have hmagnitude := magnitude_of_infinite hvalue hx
    have hpositive : 0 < infMagnitude f := lt_of_le_of_lt (Nat.zero_le _) (isFinite_iff.mp hy)
    have hxzero : x.isZero = false := by
      simp only [isZero, hmagnitude, decide_eq_false_iff_not]
      omega
    unfold mul
    rw [hvalue]
    dsimp only
    rw [hx, hxzero, hzero, isNaN_of_isFinite hy]
    exact isNaN_ofMagnitude _ (Nat.le_refl _)

theorem mul_symm (x y : Ieee f) : mul x y = mul y x := by
  have hsign : (x.negative != y.negative) = (y.negative != x.negative) := bne_comm
  have hspecial : (x.isNaN || y.isNaN || x.isZero || y.isZero) =
      (y.isNaN || x.isNaN || y.isZero || x.isZero) := by
    cases x.isNaN <;> cases y.isNaN <;> cases x.isZero <;> cases y.isZero <;> rfl
  unfold mul
  rw [hsign, hspecial]
  cases x.toRat? with
  | none => cases y.toRat? <;> rfl
  | some v =>
    cases y.toRat? with
    | none => rfl
    | some w => exact congrArg (round _) (mul_comm v w)

/-! ## Sums and differences -/

theorem isNaN_add [WellFormed f] {x y : Ieee f} (hx : FloatArith.isFinite x = true)
    (hy : FloatArith.isFinite y = true) : (add x y).isNaN = false := by
  obtain ⟨v, hv⟩ := Option.isSome_iff_exists.mp (show (toRat? x).isSome = true from hx)
  obtain ⟨w, hw⟩ := Option.isSome_iff_exists.mp (show (toRat? y).isSome = true from hy)
  unfold add
  rw [hv, hw]
  exact isNaN_round _ _

variable [Proper f]

theorem isNaN_add_left {x : Ieee f} (hx : x.isNaN = true) (y : Ieee f) :
    (add x y).isNaN = true := by
  have hnone : x.toRat? = none := by
    cases hvalue : x.toRat? with
    | none => rfl
    | some v =>
      have := isNaN_of_isFinite (show (toRat? x).isSome = true by rw [hvalue]; rfl)
      rw [hx] at this
      cases this
  unfold add
  rw [hnone]
  cases y.toRat? with
  | some w =>
    dsimp only
    rw [if_pos hx]
    exact isNaN_nan
  | none =>
    dsimp only
    rw [hx, Bool.true_or, Bool.true_or, if_pos rfl]
    exact isNaN_nan

theorem isNaN_sub_left {x : Ieee f} (hx : x.isNaN = true) (y : Ieee f) :
    (sub x y).isNaN = true := by
  unfold sub
  split_ifs
  · exact isNaN_nan
  · exact isNaN_add_left hx _

theorem isNaN_sub_right (x : Ieee f) {y : Ieee f} (hy : y.isNaN = true) :
    (sub x y).isNaN = true := by
  unfold sub
  rw [if_pos hy]
  exact isNaN_nan

omit [Proper f] in
theorem sub_of_infinite {x y : Ieee f} (hnone : x.toRat? = none) (hx : x.isNaN = false)
    (hy : FloatArith.isFinite y = true) : sub x y = x := by
  obtain ⟨w, hw⟩ := Option.isSome_iff_exists.mp (show (toRat? y).isSome = true from hy)
  unfold sub
  rw [if_neg (by rw [isNaN_of_isFinite hy]; decide)]
  unfold add
  rw [hnone, toRat?_neg hw]
  dsimp only
  exact if_neg (by rw [hx]; decide)

omit [Proper f] in
theorem isNaN_sub_of_isFinite_right [WellFormed f] {x y : Ieee f} (hx : x.isNaN = false)
    (hy : FloatArith.isFinite y = true) : (sub x y).isNaN = false := by
  cases hvalue : x.toRat? with
  | some v => exact isNaN_sub (Option.isSome_iff_exists.mpr ⟨v, hvalue⟩) hy
  | none =>
    rw [sub_of_infinite hvalue hx hy]
    exact hx

omit [Proper f] in
theorem sub_of_infinite_right {x y : Ieee f} (hx : FloatArith.isFinite x = true)
    (hnone : y.toRat? = none) (hy : y.isNaN = false) : sub x y = neg y := by
  obtain ⟨v, hv⟩ := Option.isSome_iff_exists.mp (show (toRat? x).isSome = true from hx)
  have hneg : (neg y).isNaN = false := hy
  unfold sub
  rw [hy, if_neg Bool.false_ne_true]
  unfold add
  rw [hv, toRat?_neg_none hnone]
  dsimp only
  rw [hneg, if_neg Bool.false_ne_true]

omit [Proper f] in
theorem isNaN_sub_of_isFinite_left [WellFormed f] {x y : Ieee f}
    (hx : FloatArith.isFinite x = true) (hy : y.isNaN = false) : (sub x y).isNaN = false := by
  cases hvalue : y.toRat? with
  | some w => exact isNaN_sub hx (Option.isSome_iff_exists.mpr ⟨w, hvalue⟩)
  | none =>
    rw [sub_of_infinite_right hx hvalue hy]
    exact hy

omit [Proper f] in
theorem isFinite_of_isFinite_sub {x y : Ieee f} (hx : FloatArith.isFinite x = true)
    (hy : y.isNaN = false) (h : FloatArith.isFinite (sub x y) = true) :
    FloatArith.isFinite y = true := by
  cases hvalue : y.toRat? with
  | some w => exact Option.isSome_iff_exists.mpr ⟨w, hvalue⟩
  | none =>
    rw [sub_of_infinite_right hx hvalue hy] at h
    have hsome : (toRat? (neg y)).isSome = true := h
    rw [toRat?_neg_none hvalue] at hsome
    cases hsome

/-- **A difference from a finite number that is within a finite limit** is one of a finite
number. -/
theorem isFinite_of_le_abs_sub {x y c : Ieee f} (hy : FloatArith.isFinite y = true)
    (hc : FloatArith.isFinite c = true) (h : le (abs (sub x y)) c = true) :
    FloatArith.isFinite x = true := by
  obtain ⟨hnumber, -, hkey⟩ := le_iff.mp h
  cases hvalue : x.toRat? with
  | some v => exact Option.isSome_iff_exists.mpr ⟨v, hvalue⟩
  | none =>
    have hx : x.isNaN = false := by
      cases hxn : x.isNaN with
      | false => rfl
      | true =>
        rw [isNaN_abs, isNaN_sub_left hxn] at hnumber
        cases hnumber
    -- An infinite difference exceeds every finite limit.
    rw [sub_of_infinite hvalue hx hy] at hkey
    have hmagnitude := magnitude_of_infinite hvalue hx
    have hlimit := isFinite_iff.mp hc
    have habs : (abs x).key = (infMagnitude f : ℤ) := by
      unfold key abs
      dsimp only
      rw [if_neg Bool.false_ne_true, hmagnitude]
    have hckey : c.key ≤ (c.magnitude.toNat : ℤ) := by
      unfold key
      split_ifs <;> omega
    omega

end Ieee

end FrankaDeploy.Foundation
