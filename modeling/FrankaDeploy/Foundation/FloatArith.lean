import Mathlib.Data.Rat.Floor
import Mathlib.Tactic.Common

/-! # Arithmetic of a floating-point type

Control code computes with machine floating-point numbers, yet most of what is true of it does
not depend on how they round. `FloatArith F` lists the operations such code uses, with **no laws
at all**: a definition over a type variable `F` can be evaluated in IEEE arithmetic
(`Foundation.Ieee754`) or in exact rationals, and a theorem over `F` holds for both.

The scoped instances give the operations their usual infix spelling; the comparisons are the
machine's own, so `x < y` is false whenever one side is a NaN. -/

namespace FrankaDeploy.Foundation

/-- **The operations of a floating-point type.** No law is assumed of them. -/
class FloatArith (F : Type*) where
  ofRat : ℚ → F
  toRat? : F → Option ℚ
  signBit : F → Bool
  add : F → F → F
  sub : F → F → F
  mul : F → F → F
  div : F → F → F
  neg : F → F
  abs : F → F
  nextUp : F → F
  nextDown : F → F
  lt : F → F → Bool
  le : F → F → Bool
  eqv : F → F → Bool

/-- **Conversion between a wide and a narrow floating-point type**, such as the casts between
`double` and `float`. -/
class FloatCast (D S : Type*) where
  narrow : D → S
  widen : S → D

/-- **The bit patterns of a floating-point type.** -/
class FloatBits (F : Type*) where
  ofBits : ℕ → F

namespace FloatArith

variable {F : Type*} [FloatArith F]

scoped instance (priority := low) : Add F := ⟨add⟩
scoped instance (priority := low) : Sub F := ⟨sub⟩
scoped instance (priority := low) : Mul F := ⟨mul⟩
scoped instance (priority := low) : Div F := ⟨div⟩
scoped instance (priority := low) : Neg F := ⟨neg⟩
scoped instance (priority := low) : LT F := ⟨fun x y => lt x y = true⟩
scoped instance (priority := low) : LE F := ⟨fun x y => le x y = true⟩

scoped instance (priority := low) : DecidableLT F := fun x y =>
  inferInstanceAs (Decidable (lt x y = true))

scoped instance (priority := low) : DecidableLE F := fun x y =>
  inferInstanceAs (Decidable (le x y = true))

def isFinite (x : F) : Bool := (toRat? x).isSome

def zero : F := ofRat 0

def one : F := ofRat 1

/-! ## The standard library's selections

`std::max`, `std::min` and `std::clamp` return one of their arguments, chosen by `<` alone; which
one a NaN or a tie selects follows from the argument order. -/

/-- `std::max(x, y)`: the first argument unless it is smaller. -/
def stdMax (x y : F) : F := if x < y then y else x

/-- `std::min(x, y)`: the first argument unless the second is smaller. -/
def stdMin (x y : F) : F := if y < x then y else x

def stdClamp (x lower upper : F) : F :=
  if x < lower then lower else if upper < x then upper else x

/-! ## Fixed-point text -/

/-- Decimal digits of `n`, padded with zeros on the left to at least `width` characters. -/
def paddedDigits (width n : ℕ) : String :=
  let text := toString n
  String.ofList (List.replicate (width - text.length) '0') ++ text

def roundHalfEven (n d : ℕ) : ℕ :=
  let k := n / d
  let r := n % d
  if 2 * r < d then k else if d < 2 * r then k + 1 else k + k % 2

/-- The text of `x` with a fixed number of decimals, as the format code `.6f` writes it for
`decimals = 6`. -/
def fixedText (decimals : ℕ) (x : F) : String :=
  let sign := if signBit x then "-" else ""
  match toRat? x with
  | some q =>
    let scaled := roundHalfEven (q.num.natAbs * 10 ^ decimals) q.den
    sign ++ toString (scaled / 10 ^ decimals) ++ "." ++
      paddedDigits decimals (scaled % 10 ^ decimals)
  | none => if eqv x x then sign ++ "inf" else "nan"

end FloatArith

/-! ## Vectors -/

/-- A vector of `n` components, such as one value per joint. -/
abbrev Vec (n : ℕ) (F : Type*) := Fin n → F

/-! A numeral names a component of a vector whose length is not zero. These are the lengths of the
positions, matrices, hand registers, joint vectors and poses, and the number of register values. -/

instance (priority := 2000) neZero_three : NeZero 3 := ⟨by decide⟩

instance (priority := 2000) neZero_four : NeZero 4 := ⟨by decide⟩

instance (priority := 2000) neZero_six : NeZero 6 := ⟨by decide⟩

instance (priority := 2000) neZero_seven : NeZero 7 := ⟨by decide⟩

instance (priority := 2000) neZero_sixteen : NeZero 16 := ⟨by decide⟩

instance (priority := 2000) neZero_registerValues : NeZero 1001 := ⟨by decide⟩

namespace Vec

variable {F : Type*} [FloatArith F] {n : ℕ}

def all (p : F → Bool) (v : Vec n F) : Bool := (List.finRange n).all fun i => p (v i)

def any (p : F → Bool) (v : Vec n F) : Bool := (List.finRange n).any fun i => p (v i)

def allFinite (v : Vec n F) : Bool := v.all FloatArith.isFinite

/-- Numerical equality of all components, as `np.array_equal` decides it: a NaN is not equal to
itself and the two zeros are equal. -/
def arrayEqual (v w : Vec n F) : Bool := (List.finRange n).all fun i => FloatArith.eqv (v i) (w i)

omit [FloatArith F] in
theorem all_iff (p : F → Bool) (v : Vec n F) : v.all p = true ↔ ∀ i, p (v i) = true := by
  simp [all]

omit [FloatArith F] in
theorem any_iff (p : F → Bool) (v : Vec n F) : v.any p = true ↔ ∃ i, p (v i) = true := by
  simp [any]

theorem allFinite_iff (v : Vec n F) :
    v.allFinite = true ↔ ∀ i, FloatArith.isFinite (v i) = true := all_iff _ v

end Vec

end FrankaDeploy.Foundation
