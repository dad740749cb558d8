import Mathlib.Data.List.Chain
import Mathlib.Tactic.Common

/-! # Histories that end in a run

A detector counts consecutive observations that are good and linked to their predecessor, and starts
over at the first one that is not. `EndsInRun good link n history` is what its counter `n` stands
for. -/

namespace FrankaDeploy.Foundation

variable {α : Type*} {good : α → Prop} {link : α → α → Prop} {n : ℕ} {history : List α}

/-- **The history ends in a run** of `n` good elements, each linked to the next. -/
def EndsInRun (good : α → Prop) (link : α → α → Prop) (n : ℕ) (history : List α) : Prop :=
  ∃ before run, history = before ++ run ∧ run.length = n ∧ (∀ a ∈ run, good a) ∧
    List.IsChain link run

theorem endsInRun_zero (history : List α) : EndsInRun good link 0 history :=
  ⟨history, [], (List.append_nil _).symm, rfl, fun _ h => absurd h List.not_mem_nil,
    List.IsChain.nil⟩

theorem endsInRun_one (history : List α) {a : α} (ha : good a) :
    EndsInRun good link 1 (history ++ [a]) := by
  refine ⟨history, [a], rfl, rfl, fun b hb => ?_, List.IsChain.singleton a⟩
  rwa [List.mem_singleton.mp hb]

theorem EndsInRun.snoc (h : EndsInRun good link n history) {a : α} (ha : good a)
    (hlink : ∀ last, history.getLast? = some last → link last a) :
    EndsInRun good link (n + 1) (history ++ [a]) := by
  obtain ⟨before, run, rfl, hlength, hgood, hchain⟩ := h
  refine ⟨before, run ++ [a], List.append_assoc _ _ _, ?_, ?_, ?_⟩
  · rw [List.length_append, hlength, List.length_singleton]
  · intro b hb
    rcases List.mem_append.mp hb with hb | hb
    · exact hgood b hb
    · rwa [List.mem_singleton.mp hb]
  · refine List.isChain_append.mpr ⟨hchain, List.IsChain.singleton a, ?_⟩
    intro last hlast b hb
    obtain rfl : a = b := by simpa using hb
    refine hlink last ?_
    rw [List.getLast?_append, Option.mem_def.mp hlast]
    rfl

theorem EndsInRun.mono (h : EndsInRun good link n history) {m : ℕ} (hle : m ≤ n) :
    EndsInRun good link m history := by
  obtain ⟨before, run, rfl, hlength, hgood, hchain⟩ := h
  refine ⟨before ++ run.take (n - m), run.drop (n - m), ?_, ?_, ?_, ?_⟩
  · rw [List.append_assoc, List.take_append_drop]
  · rw [List.length_drop, hlength]
    omega
  · exact fun a ha => hgood a (List.mem_of_mem_drop ha)
  · exact hchain.drop _

theorem EndsInRun.imp (h : EndsInRun good link n history) {good' : α → Prop}
    (himp : ∀ a, good a → good' a) : EndsInRun good' link n history := by
  obtain ⟨before, run, hsplit, hlength, hgood, hchain⟩ := h
  exact ⟨before, run, hsplit, hlength, fun a ha => himp a (hgood a ha), hchain⟩

end FrankaDeploy.Foundation
