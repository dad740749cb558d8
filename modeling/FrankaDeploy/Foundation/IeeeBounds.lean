import FrankaDeploy.Foundation.Ieee754
import Mathlib.Algebra.Order.Field.Power
import Mathlib.Algebra.Order.Archimedean.Basic
import Mathlib.Data.Nat.Log
import Mathlib.Tactic.Linarith
import Mathlib.Tactic.Positivity
import Mathlib.Tactic.Ring
import Mathlib.Tactic.FieldSimp

/-! # Lower bounds of binary floating-point numbers

The values of a binary format are integer multiples of its smallest subnormal, its *quantum*; which
multiple is a monotone function of the magnitude. A rounded sum of numbers of the format is
therefore exact in the subnormal range and at most half a unit too small above it, so a sum is never
smaller than the exact one by more than the relative half-ulp. `AtLeast` carries such lower bounds
through additions and comparisons; an overflow to infinity keeps every lower bound. -/

namespace FrankaDeploy.Foundation.Ieee

variable {f : FloatFormat}

/-! ## The grid of values -/

def quantum (f : FloatFormat) : ℚ := (2 : ℚ) ^ (1 - bias f - f.fractionBits : ℤ)

theorem quantum_pos : 0 < quantum f := by
  unfold quantum
  positivity

def grid (f : FloatFormat) (m : ℕ) : ℕ :=
  let field := m / 2 ^ f.fractionBits
  let fraction := m % 2 ^ f.fractionBits
  if field = 0 then fraction else (2 ^ f.fractionBits + fraction) * 2 ^ (field - 1)

theorem scaled_eq (significand : ℕ) (exponent : ℤ) :
    scaled significand exponent = significand * (2 : ℚ) ^ exponent := by
  unfold scaled
  by_cases h : 0 ≤ exponent
  · obtain ⟨n, rfl⟩ := Int.eq_ofNat_of_zero_le h
    simp
  · obtain ⟨n, hn⟩ := Int.eq_ofNat_of_zero_le (show 0 ≤ -exponent by omega)
    obtain rfl : exponent = -(n : ℤ) := by omega
    rw [if_neg h, neg_neg, Int.toNat_natCast, zpow_neg, zpow_natCast, Rat.mkRat_eq_div]
    push_cast
    rw [div_eq_mul_inv]

/-- **The absolute value of a number is a number of quanta.** -/
theorem absValue_eq (x : Ieee f) : x.absValue = grid f x.magnitude.toNat * quantum f := by
  unfold absValue grid quantum
  set field := x.magnitude.toNat / 2 ^ f.fractionBits
  set fraction := x.magnitude.toNat % 2 ^ f.fractionBits
  by_cases h : field = 0
  · simp only [h, if_true, scaled_eq]
    norm_num
  · simp only [h, if_false, scaled_eq]
    have hfield : 1 ≤ field := Nat.one_le_iff_ne_zero.mpr h
    have hexponent : (max field 1 : ℕ) - (bias f : ℤ) - f.fractionBits =
        ((field - 1 : ℕ) : ℤ) + (1 - bias f - f.fractionBits) := by omega
    rw [hexponent, zpow_add₀ two_ne_zero, zpow_natCast]
    push_cast
    ring

theorem grid_mono : Monotone (grid f) := by
  refine monotone_nat_of_le_succ fun m => ?_
  have hpos : 0 < 2 ^ f.fractionBits := Nat.two_pow_pos _
  unfold grid
  set unit := 2 ^ f.fractionBits
  have hdiv := Nat.div_add_mod m unit
  have hlt := Nat.mod_lt m hpos
  set field := m / unit
  set fraction := m % unit
  by_cases hcarry : fraction + 1 < unit
  · -- The fraction grows by one.
    have hfield : (m + 1) / unit = field := by
      rw [show m + 1 = fraction + 1 + unit * field by omega, Nat.add_mul_div_left _ _ hpos,
        Nat.div_eq_of_lt hcarry, Nat.zero_add]
    have hfraction : (m + 1) % unit = fraction + 1 := by
      rw [show m + 1 = fraction + 1 + unit * field by omega, Nat.add_mul_mod_self_left,
        Nat.mod_eq_of_lt hcarry]
    simp only [hfield, hfraction]
    split_ifs
    · exact Nat.le_succ _
    · exact Nat.mul_le_mul_right _ (by omega)
  · -- The fraction is full: the next number starts a binade.
    have hfull : m + 1 = unit * (field + 1) := by
      rw [Nat.mul_add]
      omega
    have hfield : (m + 1) / unit = field + 1 := by rw [hfull, Nat.mul_div_cancel_left _ hpos]
    have hfraction : (m + 1) % unit = 0 := by rw [hfull, Nat.mul_mod_right]
    simp only [hfield, hfraction, Nat.add_one_ne_zero, if_false, Nat.add_zero,
      Nat.add_one_sub_one]
    split_ifs with hzero
    · rw [hzero, pow_zero, Nat.mul_one]
      exact hlt.le
    · obtain ⟨k, hk⟩ := Nat.exists_eq_succ_of_ne_zero hzero
      rw [hk, Nat.succ_sub_one, Nat.succ_eq_add_one, pow_succ, Nat.mul_comm (2 ^ k) 2,
        ← Nat.mul_assoc]
      exact Nat.mul_le_mul_right _ (by omega)

theorem le_grid (shift significand : ℕ) (h : shift = 0 ∨ 2 ^ f.fractionBits ≤ significand) :
    significand * 2 ^ shift ≤ grid f (shift * 2 ^ f.fractionBits + significand) := by
  have hpos : 0 < 2 ^ f.fractionBits := Nat.two_pow_pos _
  unfold grid
  set unit := 2 ^ f.fractionBits
  have hdiv := Nat.div_add_mod significand unit
  have hlt := Nat.mod_lt significand hpos
  set high := significand / unit
  set low := significand % unit
  have hfield : (shift * unit + significand) / unit = shift + high := by
    rw [Nat.add_comm, Nat.add_mul_div_right _ _ hpos, Nat.add_comm]
  have hfraction : (shift * unit + significand) % unit = low := by
    rw [Nat.add_comm, Nat.add_mul_mod_self_right]
  simp only [hfield, hfraction]
  by_cases hhigh : high = 0
  · -- Only a subnormal has an empty leading part.
    have hshift : shift = 0 := by
      refine h.resolve_right fun hfull => ?_
      rw [hhigh] at hdiv
      omega
    rw [hshift, hhigh, if_pos rfl, pow_zero]
    rw [hhigh] at hdiv
    omega
  · obtain ⟨k, hk⟩ := Nat.exists_eq_succ_of_ne_zero hhigh
    have hne : shift + high ≠ 0 := by omega
    have hbinades : k + 1 ≤ 2 ^ k := Nat.lt_two_pow_self
    rw [if_neg hne, hk, show shift + (k + 1) - 1 = k + shift by omega, pow_add, ← Nat.mul_assoc]
    refine Nat.mul_le_mul_right _ ?_
    calc significand = unit * (k + 1) + low := by rw [← hdiv, hk]
      _ ≤ unit * 2 ^ k + low * 2 ^ k := by
          exact Nat.add_le_add (Nat.mul_le_mul_left _ hbinades)
            (Nat.le_mul_of_pos_right _ (Nat.two_pow_pos k))
      _ = (unit + low) * 2 ^ k := by rw [Nat.add_mul]

/-! ## Rounding -/

theorem le_roundHalfEven (n : ℕ) {d : ℕ} (hd : 0 < d) :
    (n : ℚ) / d - 1 / 2 ≤ FloatArith.roundHalfEven n d := by
  have hdq : (0 : ℚ) < d := by exact_mod_cast hd
  have hdiv : (n : ℚ) = d * (n / d : ℕ) + (n % d : ℕ) := by exact_mod_cast (Nat.div_add_mod n d).symm
  have hquot : (n : ℚ) / d = (n / d : ℕ) + (n % d : ℕ) / (d : ℚ) := by
    rw [hdiv]
    field_simp
  rw [hquot]
  unfold FloatArith.roundHalfEven
  dsimp only
  have hlt : ((n % d : ℕ) : ℚ) / d < 1 := by
    rw [div_lt_one hdq]
    exact_mod_cast Nat.mod_lt n hd
  split_ifs with hlow hhigh
  · have : ((n % d : ℕ) : ℚ) / d < 1 / 2 := by
      rw [div_lt_iff₀ hdq]
      have : (2 * (n % d : ℕ) : ℚ) < d := by exact_mod_cast hlow
      linarith
    linarith
  · push_cast
    linarith
  · have : ((n % d : ℕ) : ℚ) / d ≤ 1 / 2 := by
      rw [div_le_iff₀ hdq]
      have : (2 * (n % d : ℕ) : ℚ) ≤ d := by exact_mod_cast (not_lt.mp hhigh)
      linarith
    have hnonneg : (0 : ℚ) ≤ ((n / d) % 2 : ℕ) := Nat.cast_nonneg _
    push_cast at *
    linarith

theorem roundHalfEven_mul (k : ℕ) {d : ℕ} (hd : 0 < d) : FloatArith.roundHalfEven (k * d) d = k := by
  unfold FloatArith.roundHalfEven
  simp only [Nat.mul_div_cancel k hd, Nat.mul_mod_left, Nat.mul_zero, hd, if_true]

theorem two_zpow_binade_le {n d : ℕ} (hn : n ≠ 0) (hd : d ≠ 0) :
    (2 : ℚ) ^ binade n d ≤ (n : ℚ) / d := by
  have hdq : (0 : ℚ) < d := by exact_mod_cast Nat.pos_of_ne_zero hd
  unfold binade
  set k : ℤ := (Nat.log2 n : ℤ) - Nat.log2 d with hk
  have hsplit : (2 : ℚ) ^ k = 2 ^ k.toNat / 2 ^ (-k).toNat := by
    rw [← zpow_natCast, ← zpow_natCast, ← zpow_sub₀ two_ne_zero]
    congr 1
    omega
  dsimp only
  split_ifs with hlow
  · -- The quotient of the leading bits is one binade too high at most.
    have hnlog : (2 : ℚ) ^ Nat.log2 n ≤ n := by exact_mod_cast Nat.log2_self_le hn
    have hdlog : (d : ℚ) ≤ 2 ^ (Nat.log2 d + 1) := by exact_mod_cast Nat.lt_log2_self.le
    rw [le_div_iff₀ hdq]
    calc (2 : ℚ) ^ (k - 1) * d ≤ 2 ^ (k - 1) * 2 ^ (Nat.log2 d + 1) := by gcongr
      _ = 2 ^ Nat.log2 n := by
          rw [← zpow_natCast (2 : ℚ) (Nat.log2 d + 1), ← zpow_natCast (2 : ℚ) (Nat.log2 n),
            ← zpow_add₀ two_ne_zero]
          congr 1
          push_cast
          omega
      _ ≤ n := hnlog
  · rw [hsplit, div_le_div_iff₀ (by positivity) hdq]
    have : d * 2 ^ k.toNat ≤ n * 2 ^ (-k).toNat := not_lt.mp hlow
    calc (2 : ℚ) ^ k.toNat * d = d * 2 ^ k.toNat := mul_comm _ _
      _ ≤ n * 2 ^ (-k).toNat := by exact_mod_cast this

def halfUlp (f : FloatFormat) : ℚ := 1 / 2 ^ (f.fractionBits + 1)

theorem halfUlp_nonneg : 0 ≤ halfUlp f := by
  unfold halfUlp
  positivity

theorem halfUlp_le_one : halfUlp f ≤ 1 := by
  unfold halfUlp
  rw [div_le_one (by positivity)]
  exact one_le_pow₀ one_le_two

theorem toRat?_eq_some {x : Ieee f} {v : ℚ} (h : x.toRat? = some v) :
    v = (if x.negative then -1 else 1) * (grid f x.magnitude.toNat * quantum f) := by
  unfold toRat? at h
  split_ifs at h with hfinite hsign
  · cases h
    rw [absValue_eq, if_pos hsign]
    ring
  · cases h
    rw [absValue_eq, if_neg hsign]
    ring

theorem exists_quanta {x : Ieee f} {v : ℚ} (h : x.toRat? = some v) :
    ∃ k : ℤ, v = k * quantum f := by
  refine ⟨(if x.negative then -1 else 1) * (grid f x.magnitude.toNat : ℤ), ?_⟩
  rw [toRat?_eq_some h]
  push_cast
  split_ifs <;> ring

/-- **The relative error of a rounded magnitude.** The magnitude nearest to a positive multiple of
the quantum is at most half a unit in the last place too low. -/
theorem le_grid_roundMagnitude {n d : ℕ} (hn : n ≠ 0) (hd : d ≠ 0) {k : ℕ}
    (hk : (n : ℚ) / d = k * quantum f) (hfinite : roundMagnitude f n d < infMagnitude f) :
    (n : ℚ) / d * (1 - halfUlp f) ≤ grid f (roundMagnitude f n d) * quantum f := by
  have hdq : (0 : ℚ) < d := by exact_mod_cast Nat.pos_of_ne_zero hd
  have hratio : (0 : ℚ) < n / d := div_pos (by exact_mod_cast Nat.pos_of_ne_zero hn) hdq
  unfold roundMagnitude at hfinite ⊢
  rw [if_neg hn] at hfinite ⊢
  dsimp only at hfinite ⊢
  set lowest : ℤ := 1 - bias f with hlowest
  set exponent := max (binade n d) lowest with hexponent
  set unit : ℤ := exponent - f.fractionBits with hunit
  set a := n * 2 ^ (-unit).toNat with ha
  set b := d * 2 ^ unit.toNat with hb
  have hbpos : 0 < b := Nat.mul_pos (Nat.pos_of_ne_zero hd) (Nat.two_pow_pos _)
  -- The rounded quotient counts units of the binade.
  have hquot : (a : ℚ) / b = n / d / 2 ^ unit := by
    have hsplit : (2 : ℚ) ^ unit = 2 ^ unit.toNat / 2 ^ (-unit).toNat := by
      rw [← zpow_natCast, ← zpow_natCast, ← zpow_sub₀ two_ne_zero]
      congr 1
      omega
    rw [ha, hb, hsplit]
    push_cast
    field_simp
  set significand := FloatArith.roundHalfEven a b with hsignificand
  rw [min_eq_left_of_lt (lt_of_not_ge fun hge => by rw [min_eq_right hge] at hfinite; omega)]
  have hshift : unit = ((exponent - lowest).toNat : ℤ) + (lowest - f.fractionBits) := by omega
  have hquantum : (2 : ℚ) ^ unit = 2 ^ (exponent - lowest).toNat * quantum f := by
    rw [hshift, zpow_add₀ two_ne_zero, zpow_natCast, quantum]
  have hunitpos : (0 : ℚ) < 2 ^ unit := by positivity
  by_cases hnormal : lowest ≤ binade n d
  · have hexp : exponent = binade n d := max_eq_left hnormal
    have hwidth : (2 : ℚ) ^ f.fractionBits ≤ a / b := by
      rw [hquot, le_div_iff₀ hunitpos, ← zpow_natCast, ← zpow_add₀ two_ne_zero,
        show (f.fractionBits : ℤ) + unit = binade n d by omega]
      exact two_zpow_binade_le hn hd
    have hround := le_roundHalfEven a hbpos
    rw [← hsignificand] at hround
    -- Half a unit is at most the relative half-ulp of a full significand.
    have hhalf : (a : ℚ) / b * (1 - halfUlp f) ≤ significand := by
      have : (1 : ℚ) / 2 ≤ a / b * halfUlp f := by
        calc (1 : ℚ) / 2 = 2 ^ f.fractionBits * halfUlp f := by
              rw [halfUlp, pow_succ]
              field_simp
          _ ≤ a / b * halfUlp f := by
              exact mul_le_mul_of_nonneg_right hwidth halfUlp_nonneg
      rw [mul_sub, mul_one]
      linarith
    have hfull : 2 ^ f.fractionBits ≤ significand := by
      have hle : (2 : ℚ) ^ f.fractionBits - 1 / 2 ≤ significand := by linarith
      have hlt : (2 : ℚ) ^ f.fractionBits < significand + 1 := by linarith
      have hlt : 2 ^ f.fractionBits < significand + 1 := by exact_mod_cast hlt
      omega
    have hgrid := le_grid (f := f) (exponent - lowest).toNat significand (.inr hfull)
    calc (n : ℚ) / d * (1 - halfUlp f)
        = a / b * (1 - halfUlp f) * 2 ^ unit := by
          rw [hquot]
          field_simp
      _ ≤ significand * 2 ^ unit := mul_le_mul_of_nonneg_right hhalf hunitpos.le
      _ = (significand * 2 ^ (exponent - lowest).toNat : ℕ) * quantum f := by
          rw [hquantum]
          push_cast
          ring
      _ ≤ _ := mul_le_mul_of_nonneg_right (by exact_mod_cast hgrid) quantum_pos.le
  · -- A subnormal quotient is an integer number of quanta and is not rounded.
    have hexp : exponent = lowest := max_eq_right (by omega)
    have hzero : (exponent - lowest).toNat = 0 := by omega
    have hexact : significand = k := by
      have hunits : (a : ℚ) / b = k := by
        rw [hquot, hk, hquantum, hzero, pow_zero, one_mul, mul_div_assoc,
          div_self quantum_pos.ne', mul_one]
      have hbq : (b : ℚ) ≠ 0 := by exact_mod_cast hbpos.ne'
      have hproduct : a = k * b := by
        rw [div_eq_iff hbq] at hunits
        exact_mod_cast hunits
      rw [hsignificand, hproduct, roundHalfEven_mul k hbpos]
    have hgrid := le_grid (f := f) 0 significand (.inl rfl)
    rw [hzero, Nat.zero_mul, Nat.zero_add]
    rw [Nat.zero_mul, Nat.zero_add, pow_zero, Nat.mul_one] at hgrid
    calc (n : ℚ) / d * (1 - halfUlp f) ≤ n / d * 1 := by
          refine mul_le_mul_of_nonneg_left ?_ hratio.le
          linarith [halfUlp_nonneg (f := f)]
      _ = significand * quantum f := by rw [mul_one, hk, hexact]
      _ ≤ _ := mul_le_mul_of_nonneg_right (by exact_mod_cast hgrid) quantum_pos.le

/-! ## Lower bounds -/

/-- A format with finite numbers. -/
class Proper (f : FloatFormat) : Prop extends WellFormed f where
  inf_pos : 0 < infMagnitude f
  nan_lt : infMagnitude f + 2 ^ (f.fractionBits - 1) < 2 ^ (f.exponentBits + f.fractionBits)

instance : Proper binary64Format := ⟨by decide, by decide⟩

instance : Proper binary32Format := ⟨by decide, by decide⟩

theorem magnitude_of_infinite {x : Ieee f} (h : x.toRat? = none) (hx : x.isNaN = false) :
    x.magnitude.toNat = infMagnitude f := by
  have hinf : ¬ x.magnitude.toNat < infMagnitude f := by
    intro hmagnitude
    have hsome : (toRat? x).isSome = true := isFinite_iff.mpr hmagnitude
    rw [h] at hsome
    cases hsome
  simp only [isNaN, decide_eq_false_iff_not] at hx
  omega

/-- **A number that is not below `q`**: no NaN, and finite with a value of at least `q` or the
positive infinity. -/
structure AtLeast (q : ℚ) (x : Ieee f) : Prop where
  number : x.isNaN = false
  finite : ∀ v, x.toRat? = some v → q ≤ v
  positive : x.toRat? = none → x.negative = false

theorem AtLeast.mono {p q : ℚ} {x : Ieee f} (h : AtLeast q x) (hpq : p ≤ q) : AtLeast p x :=
  ⟨h.number, fun v hv => hpq.trans (h.finite v hv), h.positive⟩

theorem AtLeast.infinite {p q : ℚ} {x : Ieee f} (h : AtLeast p x) (hx : x.toRat? = none) :
    AtLeast q x := by
  refine ⟨h.number, ?_, h.positive⟩
  intro v hv
  rw [hx] at hv
  cases hv

theorem atLeast_self {x : Ieee f} {v : ℚ} (h : x.toRat? = some v) : AtLeast v x := by
  refine ⟨isNaN_of_isFinite (show (toRat? x).isSome = true by rw [h]; rfl), ?_, ?_⟩
  · intro w hw
    rw [h] at hw
    exact (Option.some.inj hw).le
  · intro hnone
    rw [h] at hnone
    cases hnone

theorem toNat_ofMagnitude [WellFormed f] (negative : Bool) {m : ℕ} (h : m ≤ infMagnitude f) :
    (ofMagnitude negative m : Ieee f).magnitude.toNat = m := by
  have hlt : m < 2 ^ (f.exponentBits + f.fractionBits) := lt_of_le_of_lt h WellFormed.inf_lt
  show (BitVec.ofNat _ m).toNat = m
  rw [BitVec.toNat_ofNat, Nat.mod_eq_of_lt hlt]

theorem roundMagnitude_le (n d : ℕ) : roundMagnitude f n d ≤ infMagnitude f := by
  unfold roundMagnitude
  split_ifs
  · exact Nat.zero_le _
  · exact min_le_right _ _

/-- **Rounding a nonnegative multiple of the quantum** loses at most the relative half-ulp. -/
theorem atLeast_round [Proper f] (zeroSign : Bool) {q : ℚ} (hq : 0 ≤ q) {k : ℤ}
    (hk : q = k * quantum f) : AtLeast (q * (1 - halfUlp f)) (round zeroSign q : Ieee f) := by
  have hmagnitude : (round zeroSign q : Ieee f).magnitude.toNat =
      roundMagnitude f q.num.natAbs q.den := toNat_ofMagnitude _ (roundMagnitude_le _ _)
  refine ⟨isNaN_round _ _, ?_, ?_⟩
  · intro v hv
    by_cases hzero : q = 0
    · subst hzero
      have hgrid : grid f (round zeroSign 0 : Ieee f).magnitude.toNat = 0 := by
        rw [hmagnitude]
        show grid f (roundMagnitude f 0 1) = 0
        simp [roundMagnitude, grid]
      rw [toRat?_eq_some hv, hgrid]
      norm_num
    · have hpos : 0 < q := lt_of_le_of_ne hq (Ne.symm hzero)
      have hnum : 0 < q.num := Rat.num_pos.mpr hpos
      have hsign : (round zeroSign q : Ieee f).negative = false := by
        show (if q = 0 then zeroSign else decide (q < 0)) = false
        rw [if_neg hzero, decide_eq_false_iff_not]
        exact not_lt.mpr hq
      have hratio : ((q.num.natAbs : ℕ) : ℚ) / q.den = q := by
        have hcast : ((q.num.natAbs : ℕ) : ℚ) = (q.num : ℚ) := by
          rw [← Int.cast_natCast, Int.natAbs_of_nonneg hnum.le]
        rw [hcast, Rat.num_div_den]
      obtain ⟨n, rfl⟩ : ∃ n : ℕ, k = n := by
        refine Int.eq_ofNat_of_zero_le ?_
        by_contra hneg
        have : (k : ℚ) < 0 := by exact_mod_cast not_le.mp hneg
        have := mul_neg_of_neg_of_pos this (quantum_pos (f := f))
        linarith
      have hfinite : roundMagnitude f q.num.natAbs q.den < infMagnitude f := by
        rw [← hmagnitude]
        exact isFinite_iff.mp (show (toRat? _).isSome = true by rw [hv]; rfl)
      have hbound := le_grid_roundMagnitude (f := f) (n := q.num.natAbs) (d := q.den)
        (by omega) q.den_ne_zero (k := n) (by rw [hratio, hk]; norm_cast) hfinite
      rw [hratio] at hbound
      rw [toRat?_eq_some hv, hsign, hmagnitude]
      simpa using hbound
  · intro hnone
    show (if q = 0 then zeroSign else decide (q < 0)) = false
    by_cases hzero : q = 0
    · -- A zero is finite.
      subst hzero
      have hzeros : (round zeroSign 0 : Ieee f).magnitude.toNat = 0 := by
        rw [hmagnitude]
        simp [roundMagnitude]
      have hfinite : (toRat? (round zeroSign 0 : Ieee f)).isSome = true := by
        refine isFinite_iff.mpr ?_
        rw [hzeros]
        exact Proper.inf_pos
      rw [hnone] at hfinite
      cases hfinite
    · rw [if_neg hzero, decide_eq_false_iff_not]
      exact not_lt.mpr hq

/-- **Addition** of nonnegative numbers loses at most the relative half-ulp of the sum. -/
theorem AtLeast.add [Proper f] {p q : ℚ} {x y : Ieee f} (hx : AtLeast p x) (hy : AtLeast q y)
    (hp : 0 ≤ p) (hq : 0 ≤ q) : AtLeast ((p + q) * (1 - halfUlp f)) (x.add y) := by
  unfold Ieee.add
  cases hv : x.toRat? with
  | some v =>
    cases hw : y.toRat? with
    | some w =>
      obtain ⟨i, hi⟩ := exists_quanta hv
      obtain ⟨j, hj⟩ := exists_quanta hw
      have hsum : p + q ≤ v + w := add_le_add (hx.finite v hv) (hy.finite w hw)
      refine (atLeast_round (k := i + j) _ (by linarith) ?_).mono ?_
      · rw [hi, hj]
        push_cast
        ring
      · refine mul_le_mul_of_nonneg_right hsum ?_
        linarith [halfUlp_le_one (f := f)]
    | none =>
      simp only [hy.number, Bool.false_eq_true, if_false]
      exact hy.infinite hw
  | none =>
    have hleft : AtLeast ((p + q) * (1 - halfUlp f)) x := hx.infinite hv
    cases hw : y.toRat? with
    | some w =>
      simp only [hx.number, Bool.false_eq_true, if_false]
      exact hleft
    | none =>
      simp only [hx.number, hy.number, hx.positive hv, hy.positive hw, bne_self_eq_false,
        Bool.or_self, Bool.false_eq_true, if_false]
      exact hleft

theorem le_of_key_le {x y : Ieee f} {v w : ℚ} (hv : x.toRat? = some v) (hw : y.toRat? = some w)
    (h : x.key ≤ y.key) : v ≤ w := by
  have hquantum := (quantum_pos (f := f)).le
  rw [toRat?_eq_some hv, toRat?_eq_some hw]
  unfold key at h
  cases hx : x.negative with
  | true =>
    have hnonneg : (0 : ℚ) ≤ grid f x.magnitude.toNat * quantum f := by positivity
    cases hy : y.negative with
    | true =>
      simp only [hx, hy, if_true] at h ⊢
      have hgrid : grid f y.magnitude.toNat ≤ grid f x.magnitude.toNat :=
        grid_mono (by omega)
      have : (grid f y.magnitude.toNat : ℚ) * quantum f ≤
          grid f x.magnitude.toNat * quantum f :=
        mul_le_mul_of_nonneg_right (by exact_mod_cast hgrid) hquantum
      linarith
    | false =>
      have hpos : (0 : ℚ) ≤ grid f y.magnitude.toNat * quantum f := by positivity
      simp only [if_true, Bool.false_eq_true, if_false]
      linarith
  | false =>
    cases hy : y.negative with
    | true =>
      -- Both are zeros.
      simp only [hx, hy, if_true, Bool.false_eq_true, if_false] at h ⊢
      have hxz : x.magnitude.toNat = 0 := by omega
      have hyz : y.magnitude.toNat = 0 := by omega
      rw [hxz, hyz]
      simp [grid]
    | false =>
      simp only [hx, hy, Bool.false_eq_true, if_false, one_mul] at h ⊢
      refine mul_le_mul_of_nonneg_right ?_ hquantum
      exact_mod_cast grid_mono (f := f) (by omega)

theorem AtLeast.le_of_lt {q v : ℚ} {x y : Ieee f} (h : AtLeast q x) (hlt : lt x y = true)
    (hv : y.toRat? = some v) : q ≤ v := by
  obtain ⟨-, -, hkey⟩ := lt_iff.mp hlt
  cases hx : x.toRat? with
  | some w => exact (h.finite w hx).trans (le_of_key_le hx hv hkey.le)
  | none =>
    -- An infinity is not below a finite number.
    have hfinite := isFinite_iff.mp (show (toRat? y).isSome = true by rw [hv]; rfl)
    have hinf := magnitude_of_infinite hx h.number
    have hkeyx : x.key = x.magnitude.toNat := by
      unfold key
      rw [h.positive hx]
      rfl
    have hkeyy : y.key ≤ y.magnitude.toNat := by
      unfold key
      split_ifs <;> omega
    omega

theorem atLeast_of_lt {v : ℚ} {x y : Ieee f} (hv : x.toRat? = some v) (hlt : lt x y = true)
    (hy : FloatArith.isFinite y = true) : AtLeast v y := by
  obtain ⟨-, -, hkey⟩ := lt_iff.mp hlt
  obtain ⟨w, hw⟩ := Option.isSome_iff_exists.mp (show (toRat? y).isSome = true from hy)
  exact (atLeast_self hw).mono (le_of_key_le hv hw hkey.le)

/-! ## Repeated addition -/

/-- The exact sum of `n` equal terms, less the rounding of `n` additions. -/
def grown (f : FloatFormat) (n : ℕ) (m : ℚ) : ℚ := n * m * (1 - halfUlp f) ^ n

theorem grown_nonneg (n : ℕ) {m : ℚ} (hm : 0 ≤ m) : 0 ≤ grown f n m := by
  have : (0 : ℚ) ≤ 1 - halfUlp f := by linarith [halfUlp_le_one (f := f)]
  unfold grown
  positivity

/-- **One more addition** of a term that is at least `m`. -/
theorem AtLeast.grown_succ [Proper f] {n : ℕ} {m : ℚ} {x y : Ieee f} (hm : 0 ≤ m)
    (hx : AtLeast (grown f n m) x) (hy : AtLeast m y) : AtLeast (grown f (n + 1) m) (x.add y) := by
  have hone : (0 : ℚ) ≤ 1 - halfUlp f := by linarith [halfUlp_le_one (f := f)]
  refine (hx.add hy (grown_nonneg n hm) hm).mono ?_
  have hpow : (1 - halfUlp f) ^ n ≤ 1 :=
    pow_le_one₀ hone (by linarith [halfUlp_nonneg (f := f)])
  calc grown f (n + 1) m
      = (n * m * (1 - halfUlp f) ^ n + m * (1 - halfUlp f) ^ n) * (1 - halfUlp f) := by
        unfold grown
        push_cast
        ring
    _ ≤ (grown f n m + m) * (1 - halfUlp f) := by
        refine mul_le_mul_of_nonneg_right (add_le_add le_rfl ?_) hone
        exact mul_le_of_le_one_right hm hpow

/-- **The number of terms of a bounded sum.** As long as the rounding of all additions and of one
more operation is together less than one term, the exact quotient is exceeded by less than one. -/
theorem lt_of_grown_le {n : ℕ} {m v : ℚ} (hm : 0 < m)
    (hn : (n : ℚ) * (n + 1 : ℕ) * halfUlp f < 1) (h : grown f n m * (1 - halfUlp f) ≤ v) :
    (n : ℚ) < v / m + 1 := by
  have hbernoulli : 1 - (n + 1 : ℕ) * halfUlp f ≤ (1 - halfUlp f) ^ (n + 1) := by
    have hle : -2 ≤ -halfUlp f := by linarith [halfUlp_le_one (f := f)]
    calc 1 - (n + 1 : ℕ) * halfUlp f = 1 + (n + 1 : ℕ) * -halfUlp f := by ring
      _ ≤ (1 + -halfUlp f) ^ (n + 1) := one_add_mul_le_pow hle (n + 1)
      _ = (1 - halfUlp f) ^ (n + 1) := by rw [sub_eq_add_neg]
  have hterms : (n : ℚ) * (1 - (n + 1 : ℕ) * halfUlp f) ≤ v / m := by
    rw [le_div_iff₀ hm]
    calc (n : ℚ) * (1 - (n + 1 : ℕ) * halfUlp f) * m
        = n * m * (1 - (n + 1 : ℕ) * halfUlp f) := by ring
      _ ≤ n * m * (1 - halfUlp f) ^ (n + 1) :=
          mul_le_mul_of_nonneg_left hbernoulli (by positivity)
      _ = grown f n m * (1 - halfUlp f) := by
          rw [grown, pow_succ]
          ring
      _ ≤ v := h
  calc (n : ℚ) = n * (1 - (n + 1 : ℕ) * halfUlp f) + n * (n + 1 : ℕ) * halfUlp f := by ring
    _ < v / m + 1 := add_lt_add_of_le_of_lt hterms hn

theorem grown_mul_le {n : ℕ} {m v : ℚ} (hm : 0 ≤ m) (h : grown f n m ≤ v) :
    grown f n m * (1 - halfUlp f) ≤ v := by
  have hone : 1 - halfUlp f ≤ 1 := by linarith [halfUlp_nonneg (f := f)]
  exact (mul_le_of_le_one_right (grown_nonneg n hm) hone).trans h

/-! ## Signs -/

/-- **A number that is not negative**, or a NaN. -/
def NotNegative (x : Ieee f) : Prop := x.isNaN = true ∨ 0 ≤ x.key

theorem key_round_nonneg [WellFormed f] (zeroSign : Bool) {q : ℚ} (hq : 0 ≤ q) :
    0 ≤ (round zeroSign q : Ieee f).key := by
  unfold key
  by_cases hzero : q = 0
  · have hmagnitude : (round zeroSign q : Ieee f).magnitude.toNat = 0 := by
      subst hzero
      refine (toNat_ofMagnitude _ (roundMagnitude_le _ _)).trans ?_
      simp [roundMagnitude]
    rw [hmagnitude]
    split_ifs <;> simp
  · have hsign : (round zeroSign q : Ieee f).negative = false := by
      show (if q = 0 then zeroSign else decide (q < 0)) = false
      rw [if_neg hzero, decide_eq_false_iff_not]
      exact not_lt.mpr hq
    rw [hsign]
    simp

theorem nonneg_of_key_nonneg {x : Ieee f} {v : ℚ} (hv : x.toRat? = some v) (h : 0 ≤ x.key) :
    0 ≤ v := by
  have hvalue : (0 : ℚ) ≤ grid f x.magnitude.toNat * quantum f :=
    mul_nonneg (Nat.cast_nonneg _) quantum_pos.le
  rw [toRat?_eq_some hv]
  unfold key at h
  cases hx : x.negative with
  | false => simpa using hvalue
  | true =>
    -- Only the zero has a negative sign and no negative key.
    rw [hx, if_pos rfl] at h
    have hzero : x.magnitude.toNat = 0 := by omega
    rw [hzero]
    simp [grid]

theorem grid_pos {m : ℕ} (h : 0 < m) : 0 < grid f m := by
  have hpos : 0 < 2 ^ f.fractionBits := Nat.two_pow_pos _
  have hdiv := Nat.div_add_mod m (2 ^ f.fractionBits)
  unfold grid
  dsimp only
  split_ifs with hfield
  · rw [hfield, Nat.mul_zero, Nat.zero_add] at hdiv
    omega
  · exact Nat.mul_pos (Nat.add_pos_left hpos _) (Nat.two_pow_pos _)

theorem pos_of_key_pos {x : Ieee f} {v : ℚ} (hv : x.toRat? = some v) (h : 0 < x.key) : 0 < v := by
  rw [toRat?_eq_some hv]
  unfold key at h
  cases hx : x.negative with
  | true =>
    rw [hx, if_pos rfl] at h
    omega
  | false =>
    rw [hx] at h
    simp only [Bool.false_eq_true, if_false, one_mul] at h ⊢
    have hgrid : (0 : ℚ) < grid f x.magnitude.toNat := by
      exact_mod_cast grid_pos (by omega)
    exact mul_pos hgrid quantum_pos

theorem isNaN_nan [Proper f] : (nan : Ieee f).isNaN = true := by
  have hlt := Proper.nan_lt (f := f)
  have hpos : 0 < 2 ^ (f.fractionBits - 1) := Nat.two_pow_pos _
  simp only [isNaN, nan, ofMagnitude, BitVec.toNat_ofNat, Nat.mod_eq_of_lt hlt,
    decide_eq_true_eq]
  omega

theorem negative_of_infinite [Proper f] {x : Ieee f} (h : x.toRat? = none)
    (hx : x.isNaN = false) (hkey : 0 ≤ x.key) : x.negative = false := by
  have hmagnitude := magnitude_of_infinite h hx
  have hpos := Proper.inf_pos (f := f)
  unfold key at hkey
  cases hsign : x.negative with
  | false => rfl
  | true =>
    rw [hsign, if_pos rfl, hmagnitude] at hkey
    omega

theorem NotNegative.add [Proper f] {x y : Ieee f} (hx : NotNegative x) (hy : NotNegative y) :
    NotNegative (x.add y) := by
  unfold Ieee.add
  cases hv : x.toRat? with
  | some v =>
    have hxn := isNaN_of_isFinite (show (toRat? x).isSome = true by rw [hv]; rfl)
    have hvpos := nonneg_of_key_nonneg hv (hx.resolve_left (by rw [hxn]; decide))
    cases hw : y.toRat? with
    | some w =>
      have hyn := isNaN_of_isFinite (show (toRat? y).isSome = true by rw [hw]; rfl)
      have hwpos := nonneg_of_key_nonneg hw (hy.resolve_left (by rw [hyn]; decide))
      exact .inr (key_round_nonneg _ (add_nonneg hvpos hwpos))
    | none =>
      show NotNegative (if y.isNaN then nan else y)
      split_ifs
      · exact .inl isNaN_nan
      · exact hy
  | none =>
    cases hw : y.toRat? with
    | some w =>
      show NotNegative (if x.isNaN then nan else x)
      split_ifs
      · exact .inl isNaN_nan
      · exact hx
    | none =>
      show NotNegative (if x.isNaN || y.isNaN || x.negative != y.negative then nan else x)
      split_ifs
      · exact .inl isNaN_nan
      · exact hx

theorem toRat?_neg {x : Ieee f} {v : ℚ} (h : x.toRat? = some v) : (neg x).toRat? = some (-v) := by
  have hfinite := isFinite_iff.mp (show (toRat? x).isSome = true by rw [h]; rfl)
  have hsome : (neg x).toRat? = some (if !x.negative then -x.absValue else x.absValue) :=
    if_pos hfinite
  have hvalue : x.toRat? = some (if x.negative then -x.absValue else x.absValue) := if_pos hfinite
  rw [hvalue] at h
  cases h
  rw [hsome]
  cases x.negative <;> simp

theorem toRat?_neg_none {x : Ieee f} (h : x.toRat? = none) : (neg x).toRat? = none := by
  cases hx : (neg x).toRat? with
  | none => rfl
  | some v =>
    have := toRat?_neg hx
    have hdouble : neg (neg x) = x := by simp [neg]
    rw [hdouble, h] at this
    cases this

/-- **A number less itself** is a zero, or a NaN when the number is an infinity or a NaN. -/
theorem sub_self [Proper f] (x : Ieee f) :
    ((sub x x).isNaN = true ∧ x.toRat? = none) ∨
      ((sub x x).isNaN = false ∧ (sub x x).key = 0) := by
  unfold sub
  cases hv : x.toRat? with
  | some v =>
    have hxn := isNaN_of_isFinite (show (toRat? x).isSome = true by rw [hv]; rfl)
    right
    simp only [hxn, Bool.false_eq_true, if_false, Ieee.add, hv, toRat?_neg hv, add_neg_cancel]
    have hmagnitude : ∀ zeroSign, (round zeroSign 0 : Ieee f).magnitude.toNat = 0 := by
      intro zeroSign
      refine (toNat_ofMagnitude _ (roundMagnitude_le _ _)).trans ?_
      simp [roundMagnitude]
    refine ⟨isNaN_round _ _, ?_⟩
    unfold key
    rw [hmagnitude]
    simp
  | none =>
    left
    refine ⟨?_, rfl⟩
    split_ifs
    · exact isNaN_nan
    · have hsigns : (x.negative != (neg x).negative) = true := by
        cases hx : x.negative <;> simp [neg, hx]
      simp only [Ieee.add, hv, toRat?_neg_none hv, hsigns, Bool.or_true, if_true]
      exact isNaN_nan

theorem isNaN_sub_of_infinite [Proper f] {x y : Ieee f} (hx : x.toRat? = none)
    (hpos : NotNegative x) (hy : y.isNaN = false) (h : lt y x = false) :
    (sub y x).isNaN = true := by
  unfold sub
  cases hxn : x.isNaN with
  | true => exact isNaN_nan
  | false =>
    have hkey := hpos.resolve_left (by rw [hxn]; decide)
    have hsign := negative_of_infinite hx hxn hkey
    have hmagnitude := magnitude_of_infinite hx hxn
    have hle := (le_iff.mp (le_of_not_lt hy hxn h)).2.2
    have hxkey : x.key = infMagnitude f := by
      unfold key
      rw [hsign, hmagnitude]
      rfl
    -- `y` is the positive infinity too.
    have hynum : y.magnitude.toNat ≤ infMagnitude f := by
      simpa [isNaN] using hy
    have hinf := Proper.inf_pos (f := f)
    have hysign : y.negative = false := by
      cases hy' : y.negative with
      | false => rfl
      | true =>
        have hykey : y.key = -(y.magnitude.toNat : ℤ) := by
          unfold key
          rw [hy', if_pos rfl]
        omega
    have hykey : y.key = y.magnitude.toNat := by
      unfold key
      rw [hysign]
      rfl
    have hynone : y.toRat? = none := if_neg (by omega)
    have hsigns : (y.negative != (neg x).negative) = true := by simp [neg, hsign, hysign]
    simp only [Bool.false_eq_true, if_false, Ieee.add, hynone, toRat?_neg_none hx, hsigns,
      Bool.or_true, if_true]
    exact isNaN_nan

end FrankaDeploy.Foundation.Ieee
