import Mathlib.Data.Nat.Init
import Mathlib.Tactic.Common

/-! # Walks

A walk is the list of the states that a process visits after its first one, each related to the one
before it. Walks compose, map along functions and carry whatever every move keeps; a path that is
put together from several loops is proved about loop by loop. -/

namespace FrankaDeploy.Foundation

/-- **A walk** from `x` over the states `l` to `z`, each a move of `R` away from the one before. -/
inductive Walk {α : Type*} (R : α → α → Prop) : α → List α → α → Prop where
  | nil (x : α) : Walk R x [] x
  | cons {x y z : α} {l : List α} : R x y → Walk R y l z → Walk R x (y :: l) z

namespace Walk

variable {α β : Type*} {R S : α → α → Prop} {x y z : α} {l l' : List α}

theorem single (h : R x y) : Walk R x [y] y := cons h (nil y)

theorem append (h : Walk R x l y) (h' : Walk R y l' z) : Walk R x (l ++ l') z := by
  induction h with
  | nil x => exact h'
  | cons hmove _ ih => exact cons hmove (ih h')

theorem getElem?_length (h : Walk R x l y) : (x :: l)[l.length]? = some y := by
  induction h with
  | nil x => rfl
  | cons _ _ ih => exact ih

theorem move (h : Walk R x l z) {i : ℕ} {u v : α} (hu : (x :: l)[i]? = some u)
    (hv : (x :: l)[i + 1]? = some v) : R u v := by
  induction h generalizing i with
  | nil x => cases hv
  | cons hmove _ ih =>
    cases i with
    | zero =>
      cases hu
      cases hv
      exact hmove
    | succ i => exact ih hu hv

/-- **Along a walk** a reflexive and transitive relation that holds across each move holds from
every state to every later one. -/
theorem rel_of_le (hrefl : ∀ x, S x x) (htrans : ∀ {x y z}, S x y → S y z → S x z)
    (hS : ∀ x y, R x y → S x y) (h : Walk R x l z) {i j : ℕ} {u v : α} (hij : i ≤ j)
    (hu : (x :: l)[i]? = some u) (hv : (x :: l)[j]? = some v) : S u v := by
  induction j, hij using Nat.le_induction generalizing v with
  | base =>
    rw [hu, Option.some.injEq] at hv
    exact hv ▸ hrefl u
  | succ j _ ih =>
    obtain ⟨hlt, -⟩ := List.getElem?_eq_some_iff.1 hv
    have hw := List.getElem?_eq_getElem (Nat.lt_of_succ_lt hlt)
    exact htrans (ih hw) (hS _ _ (h.move hw hv))

theorem getElem?_left {i : ℕ} (hi : i ≤ l.length) : (x :: (l ++ l'))[i]? = (x :: l)[i]? := by
  rw [← List.cons_append]
  exact List.getElem?_append_left (Nat.lt_succ_of_le hi)

theorem getElem?_right (h : Walk R x l y) {i : ℕ} (hi : l.length ≤ i) :
    (x :: (l ++ l'))[i]? = (y :: l')[i - l.length]? := by
  rcases Nat.eq_or_lt_of_le hi with rfl | hlt
  · rw [getElem?_left (Nat.le_refl _), h.getElem?_length, Nat.sub_self]
    rfl
  · obtain ⟨k, rfl⟩ := Nat.exists_eq_add_of_lt hlt
    rw [← List.cons_append, List.getElem?_append_right (Nat.succ_le_of_lt hlt), List.length_cons,
      show l.length + k + 1 - l.length = k + 1 by omega, List.getElem?_cons_succ]
    congr 1
    omega

theorem forall_mem {P : α → Prop} (hstep : ∀ x y, R x y → P x → P y) (h : Walk R x l z)
    (hx : P x) : ∀ y ∈ x :: l, P y := by
  induction h with
  | nil x => simpa using hx
  | cons hmove _ ih =>
    rw [List.forall_mem_cons]
    exact ⟨hx, ih (hstep _ _ hmove hx)⟩

end Walk

end FrankaDeploy.Foundation
