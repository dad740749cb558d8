import FrankaDeploy.Foundation.IeeeBounds

/-! # Exact integers

A floating-point format holds every natural number of at most one bit more than its fraction, so
that a counter which goes through a float comes back as it was. -/

namespace FrankaDeploy.Foundation.Ieee

variable {f : FloatFormat} {k : ℕ}

theorem binade_natCast (hk : k ≠ 0) : binade k 1 = Nat.log2 k := by
  have hone : Nat.log2 1 = 0 := by decide
  have hle : 2 ^ Nat.log2 k ≤ k := Nat.log2_self_le hk
  unfold binade
  rw [hone]
  dsimp only
  rw [if_neg]
  · omega
  · simpa using hle

theorem full_significand (hk : k ≠ 0) (hlog : Nat.log2 k ≤ f.fractionBits) :
    2 ^ f.fractionBits ≤ k * 2 ^ (f.fractionBits - Nat.log2 k) ∧
      k * 2 ^ (f.fractionBits - Nat.log2 k) < 2 ^ (f.fractionBits + 1) := by
  have hsplit : 2 ^ f.fractionBits = 2 ^ Nat.log2 k * 2 ^ (f.fractionBits - Nat.log2 k) := by
    rw [← pow_add]
    congr 1
    omega
  constructor
  · rw [hsplit]
    exact Nat.mul_le_mul_right _ (Nat.log2_self_le hk)
  · have hlt : k < 2 ^ (Nat.log2 k + 1) := Nat.lt_log2_self
    calc k * 2 ^ (f.fractionBits - Nat.log2 k)
        < 2 ^ (Nat.log2 k + 1) * 2 ^ (f.fractionBits - Nat.log2 k) :=
          Nat.mul_lt_mul_of_pos_right hlt (Nat.two_pow_pos _)
      _ = 2 ^ (f.fractionBits + 1) := by
          rw [← pow_add]
          congr 1
          omega

/-- **The magnitude of a natural number**: its binade, and its bits without the leading one. -/
theorem roundMagnitude_natCast (hk : k ≠ 0) (hlog : Nat.log2 k ≤ f.fractionBits)
    (hwide : f.fractionBits < bias f) :
    roundMagnitude f k 1 = (Nat.log2 k + bias f) * 2 ^ f.fractionBits +
      (k * 2 ^ (f.fractionBits - Nat.log2 k) - 2 ^ f.fractionBits) ∧
      roundMagnitude f k 1 < infMagnitude f := by
  obtain ⟨hfull, hbelow⟩ := full_significand hk hlog
  have hexponent : max (binade k 1) (1 - (bias f : ℤ)) = Nat.log2 k := by
    rw [binade_natCast hk]
    omega
  have hround : FloatArith.roundHalfEven
      (k * 2 ^ (-((Nat.log2 k : ℤ) - f.fractionBits)).toNat)
      (1 * 2 ^ ((Nat.log2 k : ℤ) - f.fractionBits).toNat) =
        k * 2 ^ (f.fractionBits - Nat.log2 k) := by
    have hup : (-((Nat.log2 k : ℤ) - f.fractionBits)).toNat = f.fractionBits - Nat.log2 k := by
      omega
    have hdown : ((Nat.log2 k : ℤ) - f.fractionBits).toNat = 0 := by omega
    rw [hup, hdown, pow_zero, Nat.mul_one]
    have hexact := roundHalfEven_mul (k * 2 ^ (f.fractionBits - Nat.log2 k)) Nat.one_pos
    rwa [Nat.mul_one] at hexact
  have hshift : ((Nat.log2 k : ℤ) - (1 - bias f)).toNat + 1 = Nat.log2 k + bias f := by omega
  have hmagnitude : ((Nat.log2 k : ℤ) - (1 - bias f)).toNat * 2 ^ f.fractionBits +
      k * 2 ^ (f.fractionBits - Nat.log2 k) = (Nat.log2 k + bias f) * 2 ^ f.fractionBits +
        (k * 2 ^ (f.fractionBits - Nat.log2 k) - 2 ^ f.fractionBits) := by
    rw [← hshift, Nat.add_mul, Nat.one_mul]
    omega
  -- the exponent field stays below that of the infinities
  have hfield : Nat.log2 k + bias f + 1 ≤ 2 ^ f.exponentBits - 1 := by
    unfold bias at hwide ⊢
    cases hbits : f.exponentBits with
    | zero =>
      rw [hbits] at hwide
      simp at hwide
    | succ e =>
      rw [hbits] at hwide
      simp only [Nat.add_sub_cancel] at hwide ⊢
      have hdouble : 2 ^ (e + 1) = 2 * 2 ^ e := by rw [pow_succ, Nat.mul_comm]
      omega
  have hlt : (Nat.log2 k + bias f) * 2 ^ f.fractionBits +
      (k * 2 ^ (f.fractionBits - Nat.log2 k) - 2 ^ f.fractionBits) < infMagnitude f := by
    have hrest : k * 2 ^ (f.fractionBits - Nat.log2 k) - 2 ^ f.fractionBits < 2 ^ f.fractionBits := by
      rw [pow_succ] at hbelow
      omega
    calc _ < (Nat.log2 k + bias f) * 2 ^ f.fractionBits + 2 ^ f.fractionBits := by omega
      _ = (Nat.log2 k + bias f + 1) * 2 ^ f.fractionBits := by rw [Nat.add_mul _ 1, Nat.one_mul]
      _ ≤ infMagnitude f := Nat.mul_le_mul_right _ hfield
  have hvalue : roundMagnitude f k 1 = min ((Nat.log2 k + bias f) * 2 ^ f.fractionBits +
      (k * 2 ^ (f.fractionBits - Nat.log2 k) - 2 ^ f.fractionBits)) (infMagnitude f) := by
    unfold roundMagnitude
    rw [if_neg hk]
    dsimp only
    rw [hexponent, hround, hmagnitude]
  rw [hvalue, min_eq_left hlt.le]
  exact ⟨rfl, hlt⟩

theorem grid_full {e significand : ℕ} (he : e ≠ 0) (hfull : 2 ^ f.fractionBits ≤ significand)
    (hbelow : significand < 2 ^ (f.fractionBits + 1)) :
    grid f (e * 2 ^ f.fractionBits + (significand - 2 ^ f.fractionBits)) =
      significand * 2 ^ (e - 1) := by
  have hpos : 0 < 2 ^ f.fractionBits := Nat.two_pow_pos _
  have hrest : significand - 2 ^ f.fractionBits < 2 ^ f.fractionBits := by
    rw [pow_succ] at hbelow
    omega
  unfold grid
  rw [Nat.add_comm, Nat.add_mul_div_right _ _ hpos, Nat.div_eq_of_lt hrest, Nat.zero_add,
    Nat.add_mul_mod_self_right, Nat.mod_eq_of_lt hrest]
  dsimp only
  rw [if_neg he, Nat.add_sub_cancel' hfull]

/-- **A natural number of at most one bit more than the fraction is exact.** -/
theorem toRat?_ofRat_natCast [WellFormed f] (hk : k < 2 ^ (f.fractionBits + 1))
    (hwide : f.fractionBits < bias f) :
    FloatArith.toRat? (FloatArith.ofRat (k : ℚ) : Ieee f) = some (k : ℚ) := by
  show toRat? (round false (k : ℚ)) = some (k : ℚ)
  by_cases hzero : k = 0
  · subst hzero
    have hinf : 0 < infMagnitude f := by
      have hbits : 1 < 2 ^ f.exponentBits := by
        refine Nat.one_lt_two_pow fun hbits => ?_
        unfold bias at hwide
        rw [hbits] at hwide
        simp at hwide
      exact Nat.mul_pos (by omega) (Nat.two_pow_pos _)
    have hmagnitude : (round false ((0 : ℕ) : ℚ) : Ieee f).magnitude.toNat = 0 := by
      simp [round, ofMagnitude, roundMagnitude]
    unfold toRat?
    rw [hmagnitude, if_pos hinf, absValue_eq, hmagnitude]
    simp [grid]
  · have hlog : Nat.log2 k ≤ f.fractionBits :=
      Nat.le_of_lt_succ ((Nat.log2_lt hzero).mpr hk)
    obtain ⟨hfull, hbelow⟩ := full_significand hzero hlog
    obtain ⟨hvalue, hlt⟩ := roundMagnitude_natCast hzero hlog hwide
    have hround : (round false (k : ℚ) : Ieee f) = ofMagnitude false (roundMagnitude f k 1) := by
      have hneg : ¬(k : ℚ) < 0 := not_lt.mpr (Nat.cast_nonneg k)
      have hne : (k : ℚ) ≠ 0 := Nat.cast_ne_zero.mpr hzero
      simp [round, hneg, hne]
    have hmagnitude : (ofMagnitude false (roundMagnitude f k 1) : Ieee f).magnitude.toNat =
        roundMagnitude f k 1 := toNat_ofMagnitude false hlt.le
    rw [hround]
    unfold toRat?
    rw [hmagnitude, if_pos hlt, absValue_eq, hmagnitude, hvalue,
      grid_full (by omega) hfull hbelow]
    congr 1
    -- the powers of two cancel
    have hexponent : (2 : ℚ) ^ (f.fractionBits - Nat.log2 k) * 2 ^ (Nat.log2 k + bias f - 1) *
        quantum f = 1 := by
      unfold quantum
      rw [← zpow_natCast, ← zpow_natCast, ← zpow_add₀ two_ne_zero, ← zpow_add₀ two_ne_zero]
      rw [show ((f.fractionBits - Nat.log2 k : ℕ) : ℤ) + ((Nat.log2 k + bias f - 1 : ℕ) : ℤ) +
        (1 - bias f - f.fractionBits) = 0 by omega, zpow_zero]
    show (k * 2 ^ (f.fractionBits - Nat.log2 k) * 2 ^ (Nat.log2 k + bias f - 1) : ℕ) * quantum f = k
    push_cast
    rw [mul_assoc (k : ℚ), mul_assoc (k : ℚ), hexponent, mul_one]

end FrankaDeploy.Foundation.Ieee
