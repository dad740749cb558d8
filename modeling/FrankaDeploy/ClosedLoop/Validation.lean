import FrankaDeploy.Foundation.Python

/-! # Immutable-value validation of the closed loop

The helpers of `closed_loop/validation.py`. Each returns a value that carries what it checked: a
positive sequence number, a vector of finite binary32 values, a register vector within
`[0, 1000]`. -/

namespace FrankaDeploy.ClosedLoop

open FrankaDeploy.Foundation
open scoped FloatArith

variable {D S : Type} [FloatArith D] [FloatArith S]

/-- `_finite_scalar`: the value itself when it is finite. -/
def finiteScalar (value : D) (name : String) : Except PyError D :=
  if FloatArith.isFinite value then .ok value else .error (.valueError s!"{name} must be finite")

theorem finiteScalar_eq_ok {value v : D} {name : String} :
    finiteScalar value name = .ok v ↔ FloatArith.isFinite value = true ∧ value = v := by
  unfold finiteScalar
  split <;> simp_all

/-- `_strict_bool`; an argument that is not a Boolean is `none`. -/
def strictBool (value : Option Bool) (name : String) : Except PyError Bool :=
  match value with
  | some b => .ok b
  | none => .error (.valueError s!"{name} must be boolean")

theorem strictBool_eq_ok {value : Option Bool} {b : Bool} {name : String} :
    strictBool value name = .ok b ↔ value = some b := by
  cases value with
  | none => simp [strictBool]
  | some b' => simp [strictBool]

/-- The message of `_positive_integer`. -/
def positiveIntegerError (name : String) : PyError :=
  .valueError s!"{name} must be a positive integer"

/-- **`_positive_integer`.** The argument goes through `float`, so a large integer comes back
rounded to a representable one; one beyond the range of `float` raises in the conversion. -/
def positiveInteger (D : Type) [FloatArith D] (value : ℤ) (name : String) :
    Except PyError {n : ℕ // 0 < n} :=
  match FloatArith.toRat? (FloatArith.ofRat value : D) with
  | none => .error (.overflowError "int too large to convert to float")
  | some numeric =>
    if h : isInteger numeric ∧ 0 < numeric then
      .ok ⟨numeric.num.toNat, by
        have := Rat.num_pos.mpr h.2
        omega⟩
    else .error (positiveIntegerError name)

abbrev FiniteVec (n : ℕ) (S : Type) [FloatArith S] := {v : Vec n S // v.allFinite = true}

/-- `_readonly_float_vector` on binary32 values. -/
def readonlyFloatVector {n : ℕ} (value : Vec n S) (name : String) :
    Except PyError (FiniteVec n S) :=
  if h : value.allFinite = true then .ok ⟨value, h⟩
  else .error (.valueError s!"{name} must contain {n} finite values")

@[simp] theorem readonlyFloatVector_val {n : ℕ} (v : FiniteVec n S) (name : String) :
    readonlyFloatVector v.1 name = .ok v := by
  simp [readonlyFloatVector, v.2]

/-- A register vector of the hand: six integers within `[0, 1000]`. -/
abbrev RegisterVector := Vec 6 (Fin 1001)

/-- `_readonly_register_vector`: finite integral values within `[0, 1000]`. -/
def readonlyRegisterVector (value : Vec 6 D) (name : String) : Except PyError RegisterVector :=
  let exactValue : Vec 6 (Option ℚ) := fun i => FloatArith.toRat? (value i)
  if exactValue.any (·.isNone) then
    .error (.valueError s!"{name} must contain six finite integer values")
  else
    let numeric : Vec 6 ℚ := fun i => (exactValue i).getD 0
    if numeric.any (fun q => q ≠ rint q) then
      .error (.valueError s!"{name} must contain integer values")
    else
      let result : Vec 6 ℤ := fun i => astypeInt32 (some (numeric i).num)
      if result.any (fun k => k < 0 || 1000 < k) then
        .error (.valueError s!"{name} must lie in [0,1000]")
      else .ok fun i => Fin.ofNat 1001 (result i).toNat

/-- Every component lies in the closed interval `[-1, 1]`. -/
def withinUnit {n : ℕ} (v : Vec n S) : Bool :=
  !(v.any fun x => decide (x < FloatArith.ofRat (-1))) &&
    !(v.any fun x => decide (FloatArith.one < x))

end FrankaDeploy.ClosedLoop
