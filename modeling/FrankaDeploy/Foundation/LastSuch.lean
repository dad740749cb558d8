import FrankaDeploy.Foundation.Monitor

/-! # The last element of a kind

A component that keeps something of the last event of a kind, and that counts the events of another
kind since then. -/

namespace FrankaDeploy.Foundation

open FrankaDeploy.Foundation.Monitor

variable {α : Type*} {p : α → Prop} {a b : α} {t : List α}

/-! ## The last element -/

/-- **`a` is the last element of `t` with `p`.** -/
def IsLast (p : α → Prop) (a : α) (t : List α) : Prop :=
  p a ∧ ∃ before after, t = before ++ a :: after ∧ ∀ b ∈ after, ¬p b

theorem isLast_snoc_self (h : p a) : IsLast p a (t ++ [a]) := by
  refine ⟨h, t, [], rfl, ?_⟩
  intro b hb
  cases hb

theorem IsLast.snoc (h : IsLast p a t) (hb : ¬p b) : IsLast p a (t ++ [b]) := by
  obtain ⟨ha, before, after, rfl, hafter⟩ := h
  refine ⟨ha, before, after ++ [b], ?_, ?_⟩
  · rw [List.append_assoc, List.cons_append]
  · intro c hc
    rcases List.mem_append.mp hc with hc | hc
    · exact hafter c hc
    · rwa [List.mem_singleton.mp hc]

theorem isLast_snoc_iff : IsLast p a (t ++ [b]) ↔ p b ∧ a = b ∨ ¬p b ∧ IsLast p a t := by
  constructor
  · rintro ⟨ha, before, after, hsplit, hafter⟩
    rcases eq_append_cons_of_snoc hsplit with ⟨-, hlast⟩ | ⟨after', ht⟩
    · exact .inl ⟨hlast ▸ ha, hlast.symm⟩
    · subst ht
      rw [List.append_assoc, List.append_cancel_left_eq, List.cons_append, List.cons.injEq] at hsplit
      obtain rfl : after' ++ [b] = after := hsplit.2
      refine .inr ⟨hafter b (List.mem_append_right _ (List.mem_singleton.mpr rfl)), ha, before, after',
        rfl, ?_⟩
      intro c hc
      exact hafter c (List.mem_append_left _ hc)
  · rintro (⟨hb, rfl⟩ | ⟨hb, h⟩)
    · exact isLast_snoc_self hb
    · exact h.snoc hb

/-! ## Elements since then -/

variable {reset counted : α → Prop} [DecidablePred reset] [DecidablePred counted]

def countSince (reset counted : α → Prop) [DecidablePred reset] [DecidablePred counted]
    (t : List α) : ℕ :=
  t.foldl (fun k a => if reset a then 0 else if counted a then k + 1 else k) 0

theorem countSince_snoc (t : List α) (a : α) :
    countSince reset counted (t ++ [a]) =
      if reset a then 0
      else if counted a then countSince reset counted t + 1 else countSince reset counted t := by
  unfold countSince
  rw [List.foldl_append]
  rfl

/-- **The count is bounded** where each counted element is admitted by the count before it. -/
theorem countSince_le {bound : ℕ}
    (h : Everywhere (fun pre a => counted a → countSince reset counted pre + 1 ≤ bound) t) :
    countSince reset counted t ≤ bound := by
  induction t using List.reverseRecOn with
  | nil => exact Nat.zero_le bound
  | append_singleton t a ih =>
    have hbefore : countSince reset counted t ≤ bound := by
      refine ih fun pre b post hsplit => h pre b (post ++ [a]) ?_
      rw [hsplit, List.append_assoc, List.cons_append]
    rw [countSince_snoc]
    by_cases hreset : reset a
    · rw [if_pos hreset]
      exact Nat.zero_le bound
    · rw [if_neg hreset]
      by_cases hcounted : counted a
      · rw [if_pos hcounted]
        exact h t a [] rfl hcounted
      · rwa [if_neg hcounted]

theorem countP_le_countSince (pre : List α) {mid : List α} (hmid : ∀ a ∈ mid, ¬reset a) :
    mid.countP (fun a => decide (counted a)) ≤ countSince reset counted (pre ++ mid) := by
  induction mid using List.reverseRecOn with
  | nil => exact Nat.zero_le _
  | append_singleton mid a ih =>
    have hbefore := ih fun b hb => hmid b (List.mem_append_left _ hb)
    have hreset : ¬reset a := hmid a (List.mem_append_right _ (List.mem_singleton.mpr rfl))
    rw [← List.append_assoc, countSince_snoc, if_neg hreset, List.countP_append]
    by_cases hcounted : counted a
    · rw [if_pos hcounted, List.countP_singleton, if_pos (decide_eq_true hcounted)]
      omega
    · rw [if_neg hcounted, List.countP_singleton, if_neg (by simpa using hcounted)]
      omega

/-- **Between two resetting elements** there are no more counted ones than the bound. -/
theorem countP_le_of_everywhere {bound : ℕ} {pre mid post : List α}
    (h : Everywhere (fun pre a => counted a → countSince reset counted pre + 1 ≤ bound)
      (pre ++ mid ++ post)) (hmid : ∀ a ∈ mid, ¬reset a) :
    mid.countP (fun a => decide (counted a)) ≤ bound := by
  refine Nat.le_trans (countP_le_countSince pre hmid) (countSince_le ?_)
  intro before a after hsplit
  refine h before a (after ++ post) ?_
  rw [hsplit, List.append_assoc, List.cons_append]

end FrankaDeploy.Foundation
