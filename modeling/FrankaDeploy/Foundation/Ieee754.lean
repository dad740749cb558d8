import FrankaDeploy.Foundation.FloatArith

/-! # IEEE 754 binary formats

A number of a binary format is its sign bit and the exponent and fraction fields read as one
integer, the *magnitude*. In this reading the order of two numbers is the order of their signed
magnitudes, the infinities are one particular magnitude and the NaNs are the larger ones.

Arithmetic is done on the exact rational values and rounded once, to nearest with ties to even.
Every operation that produces a NaN produces the same one. -/

namespace FrankaDeploy.Foundation

structure FloatFormat where
  fractionBits : ℕ
  exponentBits : ℕ

/-- **A number of a binary format**, NaNs and infinities included. -/
structure Ieee (f : FloatFormat) where
  negative : Bool
  magnitude : BitVec (f.exponentBits + f.fractionBits)
deriving DecidableEq

/-- The format of `double` and of a Python `float`. -/
abbrev binary64Format : FloatFormat := ⟨52, 11⟩

/-- The format of `float` and of `np.float32`. -/
abbrev binary32Format : FloatFormat := ⟨23, 8⟩

abbrev Binary64 := Ieee binary64Format

abbrev Binary32 := Ieee binary32Format

namespace Ieee

variable {f : FloatFormat}

/-! ## Classification and exact values -/

def infMagnitude (f : FloatFormat) : ℕ := (2 ^ f.exponentBits - 1) * 2 ^ f.fractionBits

def bias (f : FloatFormat) : ℕ := 2 ^ (f.exponentBits - 1) - 1

def isNaN (x : Ieee f) : Bool := infMagnitude f < x.magnitude.toNat

def isInf (x : Ieee f) : Bool := x.magnitude.toNat = infMagnitude f

def isZero (x : Ieee f) : Bool := x.magnitude.toNat = 0

def ofMagnitude (negative : Bool) (m : ℕ) : Ieee f := ⟨negative, BitVec.ofNat _ m⟩

def nan : Ieee f := ofMagnitude false (infMagnitude f + 2 ^ (f.fractionBits - 1))

def inf (negative : Bool) : Ieee f := ofMagnitude negative (infMagnitude f)

/-- `significand · 2 ^ exponent` as a rational. -/
def scaled (significand : ℕ) (exponent : ℤ) : ℚ :=
  if 0 ≤ exponent then (significand * 2 ^ exponent.toNat : ℕ)
  else mkRat significand (2 ^ (-exponent).toNat)

/-- The absolute value of a finite number. A zero exponent field holds a subnormal, which has
the exponent of field one and no hidden bit. -/
def absValue (x : Ieee f) : ℚ :=
  let field := x.magnitude.toNat / 2 ^ f.fractionBits
  let fraction := x.magnitude.toNat % 2 ^ f.fractionBits
  let significand := if field = 0 then fraction else 2 ^ f.fractionBits + fraction
  scaled significand (max field 1 - bias f - f.fractionBits)

def toRat? (x : Ieee f) : Option ℚ :=
  if x.magnitude.toNat < infMagnitude f then
    some (if x.negative then -x.absValue else x.absValue)
  else none

/-! ## Rounding -/

/-- `⌊log₂ (n / d)⌋` for positive `n` and `d`. The quotient of the leading bits is at most one
binade too high. -/
def binade (n d : ℕ) : ℤ :=
  let k : ℤ := (Nat.log2 n : ℤ) - Nat.log2 d
  if n * 2 ^ (-k).toNat < d * 2 ^ k.toNat then k - 1 else k

/-- **The magnitude nearest to `n / d`**, ties to even, saturating at the infinity. The significand
of the binade is an integer number of units; a carry out of it enters the exponent field by itself
because the two fields form one integer. -/
def roundMagnitude (f : FloatFormat) (n d : ℕ) : ℕ :=
  if n = 0 then 0
  else
    let lowest : ℤ := 1 - bias f
    let exponent := max (binade n d) lowest
    let unit : ℤ := exponent - f.fractionBits
    let significand :=
      FloatArith.roundHalfEven (n * 2 ^ (-unit).toNat) (d * 2 ^ unit.toNat)
    min ((exponent - lowest).toNat * 2 ^ f.fractionBits + significand) (infMagnitude f)

/-- Round a rational; `zeroSign` is the sign of an exact zero. -/
def round (zeroSign : Bool) (q : ℚ) : Ieee f :=
  ofMagnitude (if q = 0 then zeroSign else q < 0) (roundMagnitude f q.num.natAbs q.den)

/-! ## Operations -/

def neg (x : Ieee f) : Ieee f := ⟨!x.negative, x.magnitude⟩

def abs (x : Ieee f) : Ieee f := ⟨false, x.magnitude⟩

def add (x y : Ieee f) : Ieee f :=
  match x.toRat?, y.toRat? with
  | some p, some q => round (x.negative && y.negative) (p + q)
  | some _, none => if y.isNaN then nan else y
  | none, some _ => if x.isNaN then nan else x
  | none, none =>
    if x.isNaN || y.isNaN || x.negative != y.negative then nan else x

def sub (x y : Ieee f) : Ieee f := if y.isNaN then nan else add x (neg y)

def mul (x y : Ieee f) : Ieee f :=
  let sign := x.negative != y.negative
  match x.toRat?, y.toRat? with
  | some p, some q => round sign (p * q)
  | _, _ => if x.isNaN || y.isNaN || x.isZero || y.isZero then nan else inf sign

def div (x y : Ieee f) : Ieee f :=
  let sign := x.negative != y.negative
  match x.toRat?, y.toRat? with
  | some p, some q =>
    if y.isZero then (if x.isZero then nan else inf sign) else round sign (p / q)
  | some _, none => if y.isNaN then nan else ofMagnitude sign 0
  | none, some _ => if x.isNaN then nan else inf sign
  | none, none => nan

def key (x : Ieee f) : ℤ := if x.negative then -(x.magnitude.toNat : ℤ) else x.magnitude.toNat

def lt (x y : Ieee f) : Bool := !x.isNaN && !y.isNaN && decide (x.key < y.key)

def le (x y : Ieee f) : Bool := !x.isNaN && !y.isNaN && decide (x.key ≤ y.key)

def eqv (x y : Ieee f) : Bool := !x.isNaN && !y.isNaN && decide (x.key = y.key)

def ofKey (k : ℤ) : Ieee f := ofMagnitude (k < 0) k.natAbs

def nextUp (x : Ieee f) : Ieee f :=
  if x.isNaN || x.key = infMagnitude f then x else ofKey (x.key + 1)

def nextDown (x : Ieee f) : Ieee f :=
  if x.isNaN || x.key = -(infMagnitude f : ℤ) then x else ofKey (x.key - 1)

instance : FloatArith (Ieee f) where
  ofRat := round false
  toRat? := toRat?
  signBit := negative
  add := add
  sub := sub
  mul := mul
  div := div
  neg := neg
  abs := abs
  nextUp := nextUp
  nextDown := nextDown
  lt := lt
  le := le
  eqv := eqv

def convert {g : FloatFormat} (x : Ieee f) : Ieee g :=
  match x.toRat? with
  | some q => round x.negative q
  | none => if x.isNaN then nan else inf x.negative

instance : FloatCast Binary64 Binary32 := ⟨convert, convert⟩

/-- The sign is the highest bit of the pattern. -/
instance : FloatBits (Ieee f) where
  ofBits bits := ofMagnitude (bits.testBit (f.exponentBits + f.fractionBits)) bits

/-- One tenth rounds to its well-known bit pattern, and the sum of it and two tenths is not the
literal three tenths. -/
example : (FloatArith.ofRat (1 / 10) : Binary64).magnitude = 0x3fb999999999999a#63 ∧
    add (FloatArith.ofRat (1 / 10) : Binary64) (FloatArith.ofRat (2 / 10)) ≠
      FloatArith.ofRat (3 / 10) := by
  decide +kernel

/-! ## Order facts -/

theorem lt_iff {x y : Ieee f} :
    lt x y = true ↔ x.isNaN = false ∧ y.isNaN = false ∧ x.key < y.key := by
  simp [lt, and_assoc]

theorem le_iff {x y : Ieee f} :
    le x y = true ↔ x.isNaN = false ∧ y.isNaN = false ∧ x.key ≤ y.key := by
  simp [le, and_assoc]

theorem le_of_lt {x y : Ieee f} (h : lt x y = true) : le x y = true := by
  obtain ⟨hx, hy, hlt⟩ := lt_iff.mp h
  exact le_iff.mpr ⟨hx, hy, hlt.le⟩

theorem le_trans {x y z : Ieee f} (hxy : le x y = true) (hyz : le y z = true) :
    le x z = true := by
  obtain ⟨hx, -, hxy⟩ := le_iff.mp hxy
  obtain ⟨-, hz, hyz⟩ := le_iff.mp hyz
  exact le_iff.mpr ⟨hx, hz, hxy.trans hyz⟩

theorem le_of_not_lt {x y : Ieee f} (hx : x.isNaN = false) (hy : y.isNaN = false)
    (h : lt x y = false) : le y x = true := by
  refine le_iff.mpr ⟨hy, hx, ?_⟩
  by_contra hlt
  rw [lt_iff.mpr ⟨hx, hy, not_le.mp hlt⟩] at h
  cases h

theorem lt_of_not_le {x y : Ieee f} (hx : x.isNaN = false) (hy : y.isNaN = false)
    (h : ¬ le y x = true) : lt x y = true := by
  refine lt_iff.mpr ⟨hx, hy, ?_⟩
  by_contra hge
  exact h (le_iff.mpr ⟨hy, hx, not_lt.mp hge⟩)

theorem isFinite_iff {x : Ieee f} :
    FloatArith.isFinite x = true ↔ x.magnitude.toNat < infMagnitude f := by
  show (toRat? x).isSome = true ↔ _
  by_cases h : x.magnitude.toNat < infMagnitude f
  · have hsome : toRat? x = some (if x.negative then -x.absValue else x.absValue) := if_pos h
    simp [hsome, h]
  · have hnone : toRat? x = none := if_neg h
    simp [hnone, h]

theorem isNaN_of_isFinite {x : Ieee f} (h : FloatArith.isFinite x = true) : x.isNaN = false := by
  have hlt := isFinite_iff.mp h
  simp only [isNaN, decide_eq_false_iff_not]
  omega

@[simp] theorem isNaN_abs (x : Ieee f) : (abs x).isNaN = x.isNaN := rfl

theorem isNan_eq_isNaN (x : Ieee f) : (!eqv x x) = x.isNaN := by
  simp only [eqv]
  cases x.isNaN <;> simp

theorem le_refl {x : Ieee f} (hx : x.isNaN = false) : le x x = true :=
  le_iff.mpr ⟨hx, hx, Int.le_refl _⟩

theorem eqv_self {x : Ieee f} (hx : x.isNaN = false) : eqv x x = true := by
  simp [eqv, hx]

theorem isFinite_of_le_of_le {x lower upper : Ieee f} (hlower : FloatArith.isFinite lower = true)
    (hupper : FloatArith.isFinite upper = true) (hl : le lower x = true) (hu : le x upper = true) :
    FloatArith.isFinite x = true := by
  have hlower' := isFinite_iff.mp hlower
  have hupper' := isFinite_iff.mp hupper
  obtain ⟨-, -, hlk⟩ := le_iff.mp hl
  obtain ⟨-, -, huk⟩ := le_iff.mp hu
  refine isFinite_iff.mpr ?_
  unfold key at hlk huk
  split_ifs at hlk huk <;> omega

/-! ### Rounded results -/

/-- The magnitudes of a format fit its fields. -/
class WellFormed (f : FloatFormat) : Prop where
  inf_lt : infMagnitude f < 2 ^ (f.exponentBits + f.fractionBits)

instance : WellFormed binary64Format := ⟨by decide⟩

instance : WellFormed binary32Format := ⟨by decide⟩

theorem isNaN_ofMagnitude [WellFormed f] (negative : Bool) {m : ℕ} (h : m ≤ infMagnitude f) :
    (ofMagnitude negative m : Ieee f).isNaN = false := by
  have hlt : m < 2 ^ (f.exponentBits + f.fractionBits) := lt_of_le_of_lt h WellFormed.inf_lt
  simp only [isNaN, ofMagnitude, BitVec.toNat_ofNat, Nat.mod_eq_of_lt hlt,
    decide_eq_false_iff_not, not_lt]
  exact h

theorem isNaN_round [WellFormed f] (zeroSign : Bool) (q : ℚ) :
    (round zeroSign q : Ieee f).isNaN = false := by
  refine isNaN_ofMagnitude _ ?_
  unfold roundMagnitude
  split_ifs
  · exact Nat.zero_le _
  · exact min_le_right _ _

theorem isNaN_sub [WellFormed f] {x y : Ieee f} (hx : FloatArith.isFinite x = true)
    (hy : FloatArith.isFinite y = true) : (sub x y).isNaN = false := by
  -- The sign change keeps the magnitude, hence finiteness.
  have hneg : FloatArith.isFinite (neg y) = true :=
    isFinite_iff.mpr (show y.magnitude.toNat < infMagnitude f from isFinite_iff.mp hy)
  obtain ⟨p, hp⟩ := Option.isSome_iff_exists.mp (show (toRat? x).isSome = true from hx)
  obtain ⟨q, hq⟩ := Option.isSome_iff_exists.mp (show (toRat? (neg y)).isSome = true from hneg)
  have hnan := isNaN_of_isFinite hy
  simp only [sub, hnan, Bool.false_eq_true, if_false, add, hp, hq]
  exact isNaN_round _ _

/-! ## Maxima -/

theorem stdMax_le_iff {x y c : Ieee f} (hx : x.isNaN = false) (hy : y.isNaN = false) :
    le (FloatArith.stdMax x y) c = true ↔ le x c = true ∧ le y c = true := by
  unfold FloatArith.stdMax
  by_cases hlt : lt x y = true
  · have hmax : (if lt x y = true then y else x) = y := if_pos hlt
    exact (congrArg (le · c = true) hmax).to_iff.trans
      ⟨fun h => ⟨le_trans (le_of_lt hlt) h, h⟩, fun h => h.2⟩
  · have hmax : (if lt x y = true then y else x) = x := if_neg hlt
    have hle := le_of_not_lt hx hy (by simpa using hlt)
    exact (congrArg (le · c = true) hmax).to_iff.trans
      ⟨fun h => ⟨h, le_trans hle h⟩, fun h => h.1⟩

theorem stdMax_eq_or {x y : Ieee f} :
    FloatArith.stdMax x y = x ∨ FloatArith.stdMax x y = y := by
  unfold FloatArith.stdMax
  split_ifs
  · exact .inr rfl
  · exact .inl rfl

theorem foldl_stdMax_le_iff {c : Ieee f} (l : List (Ieee f)) (start : Ieee f)
    (hstart : start.isNaN = false) (hl : ∀ x ∈ l, x.isNaN = false) :
    le (l.foldl FloatArith.stdMax start) c = true ↔
      le start c = true ∧ ∀ x ∈ l, le x c = true := by
  induction l generalizing start with
  | nil => simp
  | cons y l ih =>
    have hy := hl y List.mem_cons_self
    have hmax : (FloatArith.stdMax start y).isNaN = false := by
      rcases stdMax_eq_or (x := start) (y := y) with h | h <;> rw [h] <;> assumption
    rw [List.foldl_cons, ih _ hmax fun x hx => hl x (List.mem_cons_of_mem _ hx),
      stdMax_le_iff hstart hy, List.forall_mem_cons, and_assoc]

theorem isNaN_foldl_stdMax (l : List (Ieee f)) (start : Ieee f) (hstart : start.isNaN = false)
    (hl : ∀ x ∈ l, x.isNaN = false) : (l.foldl FloatArith.stdMax start).isNaN = false := by
  induction l generalizing start with
  | nil => exact hstart
  | cons y l ih =>
    have hmax : (FloatArith.stdMax start y).isNaN = false := by
      rcases stdMax_eq_or (x := start) (y := y) with h | h
      · rw [h]
        exact hstart
      · rw [h]
        exact hl y List.mem_cons_self
    exact ih _ hmax fun x hx => hl x (List.mem_cons_of_mem _ hx)

end Ieee

theorem isFinite_zero : FloatArith.isFinite (FloatArith.zero : Binary64) = true := by decide +kernel

theorem isFinite_one : FloatArith.isFinite (FloatArith.one : Binary64) = true := by decide +kernel

end FrankaDeploy.Foundation
