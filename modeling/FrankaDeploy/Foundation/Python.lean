import FrankaDeploy.Foundation.FloatArith

/-! # Python text, exceptions and numpy selections

What the Python half of a control stack takes from its language: exceptions with their texts,
`str.strip` and `str.lower` on the strings that code compares with constants, conversion of an
integer argument through `float`, and the elementwise numpy functions. -/

namespace FrankaDeploy.Foundation

open scoped FloatArith

/-! ## Exceptions -/

/-- **A raised Python exception** with its message. -/
inductive PyError where
  | valueError (message : String)
  | typeError (message : String)
  | overflowError (message : String)
  /-- `RuntimeError` and its subclasses that a module defines for itself. -/
  | runtimeError (message : String)
  | structError (message : String)
deriving DecidableEq, Repr

/-- The message of an exception, as `str(exc)` gives it. -/
def PyError.message : PyError → String
  | .valueError m | .typeError m | .overflowError m | .runtimeError m | .structError m => m

inductive ExceptionKind where
  | ordinary
  | keyboardInterrupt
  | systemExit
  | otherBase
deriving DecidableEq, Repr

/-- **A raised exception of any class**, as a handler of `BaseException` sees it. -/
structure PyException where
  kind : ExceptionKind
  className : String
  message : String
deriving DecidableEq, Repr

/-- An exception of a module; `runtimeClass` is the module's own subclass of `RuntimeError`. -/
def PyError.raised (runtimeClass : String) : PyError → PyException
  | .valueError m => ⟨.ordinary, "ValueError", m⟩
  | .typeError m => ⟨.ordinary, "TypeError", m⟩
  | .overflowError m => ⟨.ordinary, "OverflowError", m⟩
  | .runtimeError m => ⟨.ordinary, runtimeClass, m⟩
  | .structError m => ⟨.ordinary, "error", m⟩

theorem except_bind_eq_ok.{u, v} {ε : Type u} {α β : Type v} {x : Except ε α} {f : α → Except ε β} {b : β} :
    (x >>= f) = .ok b ↔ ∃ a, x = .ok a ∧ f a = .ok b := by
  cases x with
  | error e => simp [bind, Except.bind]
  | ok a => simp [bind, Except.bind]

@[simp] theorem except_ok_bind.{u, v} {ε : Type u} {α β : Type v} (a : α) (f : α → Except ε β) :
    (Except.ok a >>= f) = f a := rfl

theorem ite_error_eq_ok.{u, v} {ε : Type u} {α : Type v} {c : Prop} [Decidable c] {e : ε}
    {m : Except ε α} {a : α} : (if c then .error e else m) = .ok a ↔ ¬c ∧ m = .ok a := by
  by_cases h : c
  · simp [h]
  · simp [h]

theorem ok_of_guard {ε α : Type} {c : Prop} [Decidable c] {e : ε} {f : Unit → Except ε α}
    {m : Except ε α} {a : α}
    (h : (if c then (throw e : Except ε Unit) >>= f else m) = .ok a) : ¬c ∧ m = .ok a := by
  by_cases hc : c
  · rw [if_pos hc] at h
    cases h
  · rw [if_neg hc] at h
    exact ⟨hc, h⟩

/-! ## Strings -/

/-- The characters that `str.strip` removes. -/
def isPySpace (c : Char) : Bool :=
  let n := c.toNat
  (9 ≤ n && n ≤ 13) || (28 ≤ n && n ≤ 32) || n = 0x85 || n = 0xa0 || n = 0x1680 ||
    (0x2000 ≤ n && n ≤ 0x200a) || n = 0x2028 || n = 0x2029 || n = 0x202f || n = 0x205f ||
    n = 0x3000

def pyStrip (s : String) : String :=
  String.ofList ((s.toList.dropWhile isPySpace).reverse.dropWhile isPySpace).reverse

/-- `str.lower()` on one character, as far as the result can be an ASCII letter: besides the ASCII
capitals only the Kelvin sign has such a lower case. -/
def pyLowerChar (c : Char) : Char := if c.toNat = 0x212a then 'k' else c.toLower

/-- `str.lower()` for a comparison with an ASCII constant. -/
def pyLower (s : String) : String := String.ofList (s.toList.map pyLowerChar)

def strippedOr (reason fallback : String) : String :=
  let text := pyStrip reason
  if text = "" then fallback else text

/-! ## Numbers -/

variable {F : Type*} [FloatArith F]

/-- `numeric.is_integer()` for a finite value. -/
def isInteger (q : ℚ) : Bool := q.den = 1

/-- `np.rint` of an exact value: the nearest integer, ties to even. -/
def rint (q : ℚ) : ℤ :=
  let magnitude := (FloatArith.roundHalfEven q.num.natAbs q.den : ℤ)
  if q < 0 then -magnitude else magnitude

/-- `x.astype(np.int32)` of an integral value; what does not fit becomes the least integer. -/
def astypeInt32 (x : Option ℤ) : ℤ :=
  match x with
  | some k => if -(2 ^ 31) ≤ k ∧ k < 2 ^ 31 then k else -(2 ^ 31)
  | none => -(2 ^ 31)

def isNan (x : F) : Bool := !FloatArith.eqv x x

/-- `np.maximum`, which returns a NaN argument. -/
def npMaximum (x y : F) : F := if isNan x then x else if y ≤ x then x else y

/-- `np.minimum`, which returns a NaN argument. -/
def npMinimum (x y : F) : F := if isNan x then x else if x ≤ y then x else y

/-- `np.clip`: the larger of the value and the lower bound, then the smaller of that and the upper
bound; a NaN value stays. -/
def npClip (x lower upper : F) : F :=
  if isNan x then x
  else
    let raised := if lower < x then x else lower
    if isNan raised then raised else if raised < upper then raised else upper

/-- `np.max`, which returns a NaN argument. -/
def npMax {n : ℕ} (v : Vec (n + 1) F) : F :=
  (List.finRange n).foldl (fun acc i => npMaximum acc (v i.succ)) (v 0)

end FrankaDeploy.Foundation
