import Mathlib.Algebra.Order.Field.Basic
import Mathlib.Algebra.Order.Group.MinMax
import Mathlib.Tactic.Linarith
import Mathlib.Tactic.Ring

/-! # Saturation

A value limited to an interval. Chained limits are what a rate limiter is made of, and a later limit
can undo an earlier one: a value that was limited to `[l, h]` is still there after a limit to
`[lower, upper]` exactly when the two intervals meet (`saturate_mem_iff`). A limit that shrinks in
proportion to the distance from a ceiling keeps a discrete integrator below it as long as one step
covers no more than that distance (`add_mul_le_of_barrier`). -/

namespace FrankaDeploy.Foundation

section Order

variable {α : Type*} [LinearOrder α] {l h lower upper x b : α}

/-- **`x`, limited to `[lower, upper]`.** -/
def saturate (lower upper x : α) : α := max lower (min x upper)

theorem le_saturate (lower upper x : α) : lower ≤ saturate lower upper x := le_max_left _ _

theorem saturate_le (hle : lower ≤ upper) (x : α) : saturate lower upper x ≤ upper :=
  max_le hle (min_le_right _ _)

theorem saturate_le_iff : saturate lower upper x ≤ b ↔ lower ≤ b ∧ (x ≤ b ∨ upper ≤ b) := by
  unfold saturate
  rw [max_le_iff, min_le_iff]

theorem le_saturate_iff : b ≤ saturate lower upper x ↔ b ≤ lower ∨ (b ≤ x ∧ b ≤ upper) := by
  unfold saturate
  rw [le_max_iff, le_min_iff]

/-- **A second limit keeps the first one** exactly when the intervals meet. -/
theorem saturate_mem_iff (hl : l ≤ x) (hh : x ≤ h) (hle : lower ≤ upper) :
    l ≤ saturate lower upper x ∧ saturate lower upper x ≤ h ↔ l ≤ upper ∧ lower ≤ h := by
  rw [saturate_le_iff, le_saturate_iff]
  constructor
  · rintro ⟨hbelow, habove, -⟩
    refine ⟨?_, habove⟩
    rcases hbelow with hlower | ⟨-, hupper⟩
    · exact hlower.trans hle
    · exact hupper
  · rintro ⟨hupper, hlower⟩
    exact ⟨.inr ⟨hl, hupper⟩, hlower, .inl hh⟩

theorem saturate_eq_self_iff (hle : lower ≤ upper) :
    saturate lower upper x = x ↔ lower ≤ x ∧ x ≤ upper := by
  constructor
  · intro heq
    rw [← heq]
    exact ⟨le_saturate _ _ _, saturate_le hle _⟩
  · rintro ⟨hlower, hupper⟩
    unfold saturate
    rw [min_eq_left hupper, max_eq_right hlower]

end Order

section Field

variable {K : Type*} [Field K] [LinearOrder K] [IsStrictOrderedRing K]

/-- **A limited change** is a limit around the value before it. -/
theorem add_saturate_sub (a c x : K) : a + saturate (-c) c (x - a) = saturate (a - c) (a + c) x := by
  unfold saturate
  rw [← max_add_add_left, ← min_add_add_left, add_sub_cancel, ← sub_eq_add_neg]

theorem abs_saturate_le {c : K} (hc : 0 ≤ c) (x : K) : |saturate (-c) c x| ≤ c :=
  abs_le.mpr ⟨le_saturate _ _ _, saturate_le (neg_le_self hc) x⟩

/-- **The barrier below a ceiling.** A rate of at most `g` times the distance to the ceiling does
not reach over it in a step of length at most `1 / g`. -/
theorem add_mul_le_of_barrier {v rate ceiling g T : K} (hT : 0 ≤ T) (hgain : g * T ≤ 1)
    (hv : v ≤ ceiling) (hrate : rate ≤ g * (ceiling - v)) : v + rate * T ≤ ceiling := by
  have hstep : rate * T ≤ g * T * (ceiling - v) := by
    calc rate * T ≤ g * (ceiling - v) * T := mul_le_mul_of_nonneg_right hrate hT
      _ = g * T * (ceiling - v) := by ring
  have hroom : g * T * (ceiling - v) ≤ 1 * (ceiling - v) :=
    mul_le_mul_of_nonneg_right hgain (sub_nonneg.mpr hv)
  linarith

theorem neg_saturate {lower upper : K} (hle : lower ≤ upper) (x : K) :
    -saturate lower upper x = saturate (-upper) (-lower) (-x) := by
  unfold saturate
  rw [← min_neg_neg, ← max_neg_neg]
  rcases le_total x upper with hx | hx
  · rw [max_eq_left (neg_le_neg hx), min_comm,
      max_eq_right (le_min (neg_le_neg hx) (neg_le_neg hle))]
  · rw [max_eq_right (neg_le_neg hx), min_eq_right (neg_le_neg hle),
      max_eq_left (min_le_of_left_le (neg_le_neg hx))]

/-- **When the barrier holds.** A rate between `floor` and the barrier stays below the ceiling
exactly when the step is within the reach of the barrier, when the value is at the ceiling, or when
the rate that is asked for leaves room. -/
theorem add_saturate_mul_le_iff {v asked ceiling g T most floor : K} (hT : 0 < T)
    (hv : v ≤ ceiling) (hfloor : floor ≤ 0) (hmost : 0 ≤ most) (hg : 0 ≤ g) (hasked : asked ≤ most) :
    v + saturate floor (min (g * (ceiling - v)) most) asked * T ≤ ceiling ↔
      g * T ≤ 1 ∨ v = ceiling ∨ v + asked * T ≤ ceiling := by
  have hroom : 0 ≤ ceiling - v := sub_nonneg.mpr hv
  have hbarrier : 0 ≤ min (g * (ceiling - v)) most := le_min (mul_nonneg hg hroom) hmost
  constructor
  · intro hbelow
    by_contra hnone
    obtain ⟨hgain, hnone⟩ := not_or.mp hnone
    obtain ⟨hne, habove⟩ := not_or.mp hnone
    have hlt : v < ceiling := lt_of_le_of_ne hv hne
    rw [not_le] at hgain habove
    have hrate : min asked (g * (ceiling - v)) ≤
        saturate floor (min (g * (ceiling - v)) most) asked := by
      refine le_saturate_iff.mpr (.inr ⟨min_le_left _ _, le_min (min_le_right _ _) ?_⟩)
      exact (min_le_left _ _).trans hasked
    have hstep := mul_le_mul_of_nonneg_right hrate hT.le
    -- Either the asked rate or the whole barrier is too much for the room that is left.
    rcases le_total asked (g * (ceiling - v)) with h | h
    · rw [min_eq_left h] at hstep
      linarith
    · rw [min_eq_right h] at hstep
      have hover : 1 * (ceiling - v) < g * T * (ceiling - v) :=
        mul_lt_mul_of_pos_right hgain (sub_pos.mpr hlt)
      have hcomm : g * (ceiling - v) * T = g * T * (ceiling - v) := by ring
      linarith
  · rintro (hgain | rfl | hasks)
    · refine add_mul_le_of_barrier hT.le hgain hv ?_
      exact (saturate_le (hfloor.trans hbarrier) _).trans (min_le_left _ _)
    · have hrate : saturate floor (min (g * (v - v)) most) asked ≤ 0 := by
        refine saturate_le_iff.mpr ⟨hfloor, .inr ?_⟩
        rw [sub_self, mul_zero]
        exact min_le_left _ _
      have := mul_nonpos_of_nonpos_of_nonneg hrate hT.le
      linarith
    · rcases le_total floor asked with h | h
      · have hrate : saturate floor (min (g * (ceiling - v)) most) asked ≤ asked :=
          saturate_le_iff.mpr ⟨h, .inl le_rfl⟩
        have := mul_le_mul_of_nonneg_right hrate hT.le
        linarith
      · have hrate : saturate floor (min (g * (ceiling - v)) most) asked ≤ 0 :=
          saturate_le_iff.mpr ⟨hfloor, .inl (h.trans hfloor)⟩
        have := mul_nonpos_of_nonpos_of_nonneg hrate hT.le
        linarith

end Field

end FrankaDeploy.Foundation
