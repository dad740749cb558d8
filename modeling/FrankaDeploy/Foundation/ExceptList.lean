import FrankaDeploy.Foundation.Python

/-! # Lists of fallible computations

`List.mapM` in `Except` runs a computation at every element and stops at the first exception. When
it succeeds, it has succeeded at every element, and the other way round; when it raises, it raises
what one of the elements raised. -/

namespace FrankaDeploy.Foundation

variable {α β ε : Type} {f : α → Except ε β} {l : List α}

theorem forall₂_of_mapM_ok {r : List β} (h : l.mapM f = .ok r) :
    List.Forall₂ (fun a b => f a = .ok b) l r := by
  induction l generalizing r with
  | nil =>
    cases h
    exact .nil
  | cons a l ih =>
    rw [List.mapM_cons] at h
    obtain ⟨b, hb, h⟩ := except_bind_eq_ok.mp h
    obtain ⟨rest, hrest, h⟩ := except_bind_eq_ok.mp h
    cases h
    exact .cons hb (ih hrest)

theorem exists_mapM_ok {P : α → β → Prop} (h : ∀ a ∈ l, ∃ b, f a = .ok b ∧ P a b) :
    ∃ r, l.mapM f = .ok r ∧ List.Forall₂ P l r := by
  induction l with
  | nil => exact ⟨[], rfl, .nil⟩
  | cons a l ih =>
    rw [List.forall_mem_cons] at h
    obtain ⟨⟨b, hb, hP⟩, hrest⟩ := h
    obtain ⟨r, hr, hall⟩ := ih hrest
    refine ⟨b :: r, ?_, .cons hP hall⟩
    rw [List.mapM_cons, hb, except_ok_bind, hr]
    rfl

end FrankaDeploy.Foundation
