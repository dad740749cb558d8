import Mathlib.Data.List.Induction
import Mathlib.Tactic.Common

/-! # Monitors of event traces

A monitor reads the events of a run one after the other and says, by a step relation, which event
may come in which of its states. `Accepts step m t m'` means that the monitor takes the trace `t`
from `m` to `m'`. A component refines a monitor when every trace of the component is accepted;
what the monitor's steps demand then holds at every place of every trace, which is what
`Accepts.at` reads off. -/

namespace FrankaDeploy.Foundation.Monitor

variable {μ ω : Type*} {step : μ → ω → μ → Prop}

/-- **The monitor takes a trace** from a state to another. -/
inductive Accepts (step : μ → ω → μ → Prop) (m : μ) : List ω → μ → Prop where
  | start : Accepts step m [] m
  | snoc {t : List ω} {m' m'' : μ} {event : ω} :
      Accepts step m t m' → step m' event m'' → Accepts step m (t ++ [event]) m''

theorem Accepts.last {m m'' : μ} {t : List ω} {event : ω}
    (h : Accepts step m (t ++ [event]) m'') :
    ∃ m', Accepts step m t m' ∧ step m' event m'' := by
  generalize hw : t ++ [event] = w at h
  cases h with
  | start => simp at hw
  | snoc h' hstep =>
    obtain ⟨rfl, hevent⟩ := List.append_inj' hw rfl
    obtain rfl : event = _ := by simpa using hevent
    exact ⟨_, h', hstep⟩

/-- **A trace can be cut anywhere**: the monitor stands in some state at the cut. -/
theorem Accepts.cut {m m'' : μ} {t u : List ω} (h : Accepts step m (t ++ u) m'') :
    ∃ m', Accepts step m t m' ∧ Accepts step m' u m'' := by
  induction u using List.reverseRecOn generalizing m'' with
  | nil => exact ⟨m'', by rwa [List.append_nil] at h, .start⟩
  | append_singleton u event ih =>
    rw [← List.append_assoc] at h
    obtain ⟨m₁, h', hstep⟩ := h.last
    obtain ⟨m', ht, hu⟩ := ih h'
    exact ⟨m', ht, .snoc hu hstep⟩

/-- **Every event of an accepted trace is a step** from a state that the events before it reach. -/
theorem Accepts.at {m m' : μ} {pre : List ω} {event : ω} {post : List ω}
    (h : Accepts step m (pre ++ event :: post) m') :
    ∃ m₁ m₂, Accepts step m pre m₁ ∧ step m₁ event m₂ := by
  rw [List.append_cons] at h
  obtain ⟨m₂, hpre, -⟩ := h.cut
  obtain ⟨m₁, hpre, hstep⟩ := hpre.last
  exact ⟨m₁, m₂, hpre, hstep⟩

/-! ## Statements about every event -/

theorem eq_append_cons_of_snoc {t pre post : List ω} {event e : ω}
    (h : t ++ [event] = pre ++ e :: post) :
    (t = pre ∧ event = e) ∨ ∃ post', t = pre ++ e :: post' := by
  induction post using List.reverseRecOn with
  | nil =>
    obtain ⟨rfl, hevent⟩ := List.append_inj' h rfl
    exact .inl ⟨rfl, by simpa using hevent⟩
  | append_singleton post last _ =>
    rw [← List.cons_append, ← List.append_assoc] at h
    obtain ⟨rfl, -⟩ := List.append_inj' h rfl
    exact .inr ⟨post, rfl⟩

/-- **Every event of the trace is in the relation `P` to the events before it.** -/
def Everywhere (P : List ω → ω → Prop) (t : List ω) : Prop :=
  ∀ pre event post, t = pre ++ event :: post → P pre event

variable {P : List ω → ω → Prop}

theorem everywhere_nil : Everywhere P [] := by
  intro pre event post h
  simp at h

theorem Everywhere.snoc {t : List ω} {event : ω} (h : Everywhere P t) (hevent : P t event) :
    Everywhere P (t ++ [event]) := by
  intro pre e post hsplit
  rcases eq_append_cons_of_snoc hsplit with ⟨rfl, rfl⟩ | ⟨post', hpost⟩
  · exact hevent
  · exact h pre e post' hpost

theorem Everywhere.append {t w : List ω} (h : Everywhere P t) (hw : ∀ event ∈ w, ∀ pre, P pre event) :
    Everywhere P (t ++ w) := by
  induction w using List.reverseRecOn with
  | nil => rwa [List.append_nil]
  | append_singleton w event ih =>
    rw [← List.append_assoc]
    have hbefore := ih fun e he => hw e (List.mem_append_left _ he)
    exact hbefore.snoc (hw event (List.mem_append_right _ (List.mem_singleton.2 rfl)) _)

theorem Everywhere.of_snoc {t : List ω} {event : ω} (h : Everywhere P (t ++ [event])) :
    Everywhere P t ∧ P t event := by
  constructor
  · intro pre e post hsplit
    refine h pre e (post ++ [event]) ?_
    rw [hsplit, List.append_assoc, List.cons_append]
  · exact h t event [] rfl

theorem everywhere_of_forall_lt {t : List ω} (h : ∀ (k : ℕ) (hk : k < t.length), P (t.take k) t[k]) :
    Everywhere P t := by
  intro pre event post hsplit
  subst hsplit
  have hk : pre.length < (pre ++ event :: post).length := by
    rw [List.length_append, List.length_cons]
    omega
  have hplace := h pre.length hk
  simpa using hplace

end FrankaDeploy.Foundation.Monitor
