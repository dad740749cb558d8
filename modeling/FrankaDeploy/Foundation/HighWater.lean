import Mathlib.Data.List.Pairwise
import Mathlib.Algebra.Order.Ring.Nat
import Mathlib.Tactic.Common

/-! # High-water marks

A reader that never goes back keeps the largest key that it has seen and a tag of what it has seen
under it. It admits a key that is not below the mark, and under the mark's own key only the same
tag. `Upheld` says what this gives about everything that it has shown: the keys never decrease and
what is shown twice under one key has one tag. A key may raise the mark without being shown. -/

namespace FrankaDeploy.Foundation

/-- **The largest key seen** and its tag. -/
structure HighWater (τ : Type*) where
  key : ℕ
  tag : τ

namespace HighWater

variable {α τ : Type*}

def Admits (mark : Option (HighWater τ)) (key : ℕ) (tag : τ) : Prop :=
  ∀ m, mark = some m → m.key ≤ key ∧ (key = m.key → tag = m.tag)

def raise (mark : Option (HighWater τ)) (key : ℕ) (tag : τ) : Option (HighWater τ) :=
  match mark with
  | none => some ⟨key, tag⟩
  | some m => if m.key < key then some ⟨key, tag⟩ else some m

def Covers (mark : Option (HighWater τ)) (key : ℕ) (tag : τ) : Prop :=
  ∃ m, mark = some m ∧ key ≤ m.key ∧ (key = m.key → tag = m.tag)

theorem admits_none (key : ℕ) (tag : τ) : Admits none key tag := by
  intro m hm
  cases hm

/-- **What is admitted is covered** by the raised mark. -/
theorem covers_raise {mark : Option (HighWater τ)} {key : ℕ} {tag : τ}
    (h : Admits mark key tag) : Covers (raise mark key tag) key tag := by
  cases mark with
  | none => exact ⟨_, rfl, le_rfl, fun _ => rfl⟩
  | some m =>
    obtain ⟨hle, htag⟩ := h m rfl
    unfold raise
    dsimp only
    by_cases hlt : m.key < key
    · rw [if_pos hlt]
      exact ⟨_, rfl, le_rfl, fun _ => rfl⟩
    · rw [if_neg hlt]
      exact ⟨m, rfl, not_lt.mp hlt, htag⟩

theorem raise_of_admits {mark : Option (HighWater τ)} {key : ℕ} {tag : τ}
    (h : Admits mark key tag) : raise mark key tag = some ⟨key, tag⟩ := by
  cases mark with
  | none => rfl
  | some m =>
    obtain ⟨hle, htag⟩ := h m rfl
    unfold raise
    dsimp only
    by_cases hlt : m.key < key
    · rw [if_pos hlt]
    · have heq : key = m.key := by omega
      rw [if_neg hlt, htag heq, heq]

theorem Covers.raise {mark : Option (HighWater τ)} {key key' : ℕ} {tag : τ} (tag' : τ)
    (h : Covers mark key tag) : Covers (HighWater.raise mark key' tag') key tag := by
  obtain ⟨m, rfl, hle, htag⟩ := h
  unfold HighWater.raise
  dsimp only
  by_cases hlt : m.key < key'
  · rw [if_pos hlt]
    refine ⟨_, rfl, hle.trans hlt.le, fun heq => ?_⟩
    dsimp only at heq
    omega
  · rw [if_neg hlt]
    exact ⟨m, rfl, hle, htag⟩

theorem Covers.follows {mark : Option (HighWater τ)} {key key' : ℕ} {tag tag' : τ}
    (h : Covers mark key tag) (hadmits : Admits mark key' tag') :
    key ≤ key' ∧ (key = key' → tag = tag') := by
  obtain ⟨m, hm, hle, htag⟩ := h
  obtain ⟨hle', htag'⟩ := hadmits m hm
  refine ⟨hle.trans hle', fun heq => ?_⟩
  rw [htag (by omega), htag' (by omega)]

/-! ## Marks that keep a code of their tag

A reader may keep a digest in place of what it has seen. `Codes R` relates its mark to the mark that
it stands for. -/

/-- **A mark stands for another one** whose tag has the first one's tag as a code. -/
def Codes (R : α → τ → Prop) : Option (HighWater τ) → Option (HighWater α) → Prop :=
  Option.Rel fun m g => m.key = g.key ∧ R g.tag m.tag

/-- **A code that has one source admits what the source admits.** -/
theorem Codes.admits {R : α → τ → Prop} (hR : ∀ a b t, R a t → R b t → a = b)
    {mark : Option (HighWater τ)} {ghost : Option (HighWater α)} (h : Codes R mark ghost)
    {key : ℕ} {a : α} {tag : τ} (ha : R a tag) (hadmits : Admits mark key tag) :
    Admits ghost key a := by
  cases h with
  | none => exact admits_none key a
  | @some m g hmg =>
    intro g' hg'
    cases hg'
    obtain ⟨hle, htag⟩ := hadmits m rfl
    refine ⟨hmg.1 ▸ hle, fun heq => hR a g.tag tag ha ?_⟩
    rw [htag (heq.trans hmg.1.symm)]
    exact hmg.2

theorem Codes.raise {R : α → τ → Prop} {mark : Option (HighWater τ)}
    {ghost : Option (HighWater α)} (h : Codes R mark ghost) {a : α} {tag : τ} (key : ℕ)
    (ha : R a tag) : Codes R (HighWater.raise mark key tag) (HighWater.raise ghost key a) := by
  cases h with
  | none => exact .some ⟨rfl, ha⟩
  | @some m g hmg =>
    unfold HighWater.raise
    dsimp only
    rw [hmg.1]
    by_cases hlt : g.key < key
    · rw [if_pos hlt, if_pos hlt]
      exact .some ⟨rfl, ha⟩
    · rw [if_neg hlt, if_neg hlt]
      exact .some hmg

/-! ## Everything shown -/

/-- **Nothing goes back**: later keys are not smaller, and equal keys have equal tags. -/
def Follows (key : α → ℕ) (tag : α → τ) (a b : α) : Prop :=
  key a ≤ key b ∧ (key a = key b → tag a = tag b)

/-- **A mark over a list of shown values**, the oldest first. -/
structure Upheld (key : α → ℕ) (tag : α → τ) (mark : Option (HighWater τ)) (shown : List α) :
    Prop where
  covers : ∀ a ∈ shown, Covers mark (key a) (tag a)
  ordered : shown.Pairwise (Follows key tag)

variable {key : α → ℕ} {tag : α → τ} {mark : Option (HighWater τ)} {shown : List α}

theorem upheld_nil : Upheld key tag mark [] := by
  refine ⟨?_, List.Pairwise.nil⟩
  intro a ha
  cases ha

theorem Upheld.raise (h : Upheld key tag mark shown) (key' : ℕ) (tag' : τ) :
    Upheld key tag (HighWater.raise mark key' tag') shown :=
  ⟨fun a ha => (h.covers a ha).raise tag', h.ordered⟩

theorem Upheld.show {a : α} (h : Upheld key tag mark shown)
    (hadmits : Admits mark (key a) (tag a)) :
    Upheld key tag (HighWater.raise mark (key a) (tag a)) (shown ++ [a]) := by
  refine ⟨?_, ?_⟩
  · intro b hb
    rcases List.mem_append.mp hb with hb | hb
    · exact (h.covers b hb).raise (tag a)
    · rw [List.mem_singleton.mp hb]
      exact covers_raise hadmits
  · refine List.pairwise_append.mpr ⟨h.ordered, List.pairwise_singleton _ _, ?_⟩
    intro b hb c hc
    rw [List.mem_singleton.mp hc]
    exact (h.covers b hb).follows hadmits

end HighWater

end FrankaDeploy.Foundation
