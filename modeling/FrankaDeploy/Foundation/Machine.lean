import Mathlib.Data.List.Induction
import Mathlib.Tactic.Common

/-! # Deterministic machines that emit events

A component of a control program is driven by inputs that the environment chooses (a packet, a
clock reading, the thread that the scheduler lets run next) and leaves a list of observable
events behind. `Machine` packages the step function; `run` and `trace` follow a whole list of
inputs, and the two induction rules `run_induction` and `monitor_induction` turn a fact about one
step into a fact about every run. The second one carries the trace emitted so far, so an
invariant can relate the state to its own history. -/

namespace FrankaDeploy.Foundation

/-- **A deterministic machine** with states `σ`, inputs `ι` and events `ω`: one step consumes one
input and emits a list of events. -/
structure Machine (σ ι ω : Type*) where
  step : σ → ι → σ × List ω

namespace Machine

variable {σ ι ω : Type*} (M : Machine σ ι ω)

/-- The state reached from `s` after the inputs `is`. -/
def run (s : σ) : List ι → σ
  | [] => s
  | i :: is => run (M.step s i).1 is

/-- All events emitted from `s` on the inputs `is`, oldest first. -/
def trace (s : σ) : List ι → List ω
  | [] => []
  | i :: is => (M.step s i).2 ++ trace (M.step s i).1 is

@[simp] theorem run_nil (s : σ) : M.run s [] = s := rfl

@[simp] theorem run_cons (s : σ) (i : ι) (is : List ι) :
    M.run s (i :: is) = M.run (M.step s i).1 is := rfl

@[simp] theorem trace_nil (s : σ) : M.trace s [] = [] := rfl

@[simp] theorem trace_cons (s : σ) (i : ι) (is : List ι) :
    M.trace s (i :: is) = (M.step s i).2 ++ M.trace (M.step s i).1 is := rfl

theorem run_append (s : σ) (is js : List ι) :
    M.run s (is ++ js) = M.run (M.run s is) js := by
  induction is generalizing s with
  | nil => rfl
  | cons i is ih => exact ih (M.step s i).1

theorem trace_append (s : σ) (is js : List ι) :
    M.trace s (is ++ js) = M.trace s is ++ M.trace (M.run s is) js := by
  induction is generalizing s with
  | nil => rfl
  | cons i is ih =>
    simp only [List.cons_append, trace_cons, run_cons, ih, List.append_assoc]

theorem run_concat (s : σ) (is : List ι) (i : ι) :
    M.run s (is ++ [i]) = (M.step (M.run s is) i).1 := by
  rw [run_append, run_cons, run_nil]

theorem trace_concat (s : σ) (is : List ι) (i : ι) :
    M.trace s (is ++ [i]) = M.trace s is ++ (M.step (M.run s is) i).2 := by
  rw [trace_append, trace_cons, trace_nil, List.append_nil]

/-- **Monitored induction.** A relation between the state and the trace so far that holds at the
start and is kept by every step holds after every run. -/
theorem monitor_induction {P : σ → List ω → Prop} {s : σ} (start : P s [])
    (step : ∀ s' t i, P s' t → P (M.step s' i).1 (t ++ (M.step s' i).2)) (is : List ι) :
    P (M.run s is) (M.trace s is) := by
  induction is using List.reverseRecOn with
  | nil => exact start
  | append_singleton is i ih =>
    rw [run_concat, trace_concat]
    exact step _ _ _ ih

/-- **Invariant induction.** A predicate that holds at the start and is kept by every step holds
after every run. -/
theorem run_induction {P : σ → Prop} {s : σ} (start : P s)
    (step : ∀ s' i, P s' → P (M.step s' i).1) (is : List ι) : P (M.run s is) :=
  M.monitor_induction (P := fun s' _ => P s') start (fun s' _ i h => step s' i h) is

/-- **History induction.** The predicate may speak about the inputs consumed so far. -/
theorem history_induction {P : List ι → σ → Prop} {s : σ} (start : P [] s)
    (step : ∀ is i, P is (M.run s is) → P (is ++ [i]) (M.step (M.run s is) i).1)
    (is : List ι) : P is (M.run s is) := by
  induction is using List.reverseRecOn with
  | nil => exact start
  | append_singleton is i ih =>
    rw [run_concat]
    exact step is i ih

/-- **The machine that also records its inputs**, each with the state that it came in. -/
def recording : Machine σ ι ((σ × ι) ⊕ ω) where
  step s i := ((M.step s i).1, .inl (s, i) :: (M.step s i).2.map .inr)

theorem run_recording (s : σ) (is : List ι) : M.recording.run s is = M.run s is := by
  induction is generalizing s with
  | nil => rfl
  | cons i is ih => exact ih (M.step s i).1

/-- **Every step of the run meets the condition `C`** in the state it is taken from. -/
def Meets (C : σ → ι → Prop) (s : σ) : List ι → Prop
  | [] => True
  | i :: is => C s i ∧ Meets C (M.step s i).1 is

instance Meets.decidable (C : σ → ι → Prop) [∀ s i, Decidable (C s i)] (s : σ) :
    (is : List ι) → Decidable (M.Meets C s is)
  | [] => .isTrue trivial
  | i :: is =>
    have := Meets.decidable C (M.step s i).1 is
    inferInstanceAs (Decidable (C s i ∧ M.Meets C (M.step s i).1 is))

theorem Meets.and {C C' : σ → ι → Prop} {s : σ} {is : List ι} (h : M.Meets C s is)
    (h' : M.Meets C' s is) : M.Meets (fun s i => C s i ∧ C' s i) s is := by
  induction is generalizing s with
  | nil => trivial
  | cons i is ih => exact ⟨⟨h.1, h'.1⟩, ih h.2 h'.2⟩

/-- **Guarded induction.** The invariant may use a condition that every step of this particular
run meets. -/
theorem run_induction_of_meets {P : σ → Prop} {C : σ → ι → Prop} {s : σ} (start : P s)
    (step : ∀ s' i, P s' → C s' i → P (M.step s' i).1) (is : List ι) (hC : M.Meets C s is) :
    P (M.run s is) := by
  induction is generalizing s with
  | nil => exact start
  | cons i is ih => exact ih (step s i start hC.1) hC.2

theorem Meets.step {C : σ → ι → Prop} {s : σ} {pre : List ι} {i : ι} {post : List ι}
    (h : M.Meets C s (pre ++ i :: post)) : C (M.run s pre) i := by
  induction pre generalizing s with
  | nil => exact h.1
  | cons j pre ih => exact ih h.2

/-- **Every step of the run meets the condition `C`**, which may speak about the trace before it. -/
def Admits (C : σ → List ω → ι → Prop) (s : σ) (is : List ι) : Prop :=
  ∀ pre i post, is = pre ++ i :: post → C (M.run s pre) (M.trace s pre) i

theorem admits_nil (C : σ → List ω → ι → Prop) (s : σ) : M.Admits C s [] := by
  intro pre i post h
  simp at h

theorem admits_concat {C : σ → List ω → ι → Prop} {s : σ} {is : List ι} {i : ι} :
    M.Admits C s (is ++ [i]) ↔ M.Admits C s is ∧ C (M.run s is) (M.trace s is) i := by
  constructor
  · intro h
    refine ⟨?_, h is i [] rfl⟩
    rintro pre j post rfl
    exact h pre j (post ++ [i]) (by simp)
  · rintro ⟨hinit, hlast⟩ pre j post hsplit
    induction post using List.reverseRecOn with
    | nil =>
      obtain ⟨rfl, hij⟩ := List.append_inj' hsplit rfl
      obtain rfl : i = j := by simpa using hij
      exact hlast
    | append_singleton post k _ =>
      rw [← List.cons_append, ← List.append_assoc] at hsplit
      obtain ⟨rfl, -⟩ := List.append_inj' hsplit rfl
      exact hinit pre j post rfl

def AdmitsFrom (C : σ → List ω → ι → Prop) (s : σ) (t : List ω) : List ι → Prop
  | [] => True
  | i :: is => C s t i ∧ AdmitsFrom C (M.step s i).1 (t ++ (M.step s i).2) is

instance AdmitsFrom.decidable (C : σ → List ω → ι → Prop) [∀ s t i, Decidable (C s t i)] (s : σ)
    (t : List ω) : (is : List ι) → Decidable (M.AdmitsFrom C s t is)
  | [] => .isTrue trivial
  | i :: is =>
    have := AdmitsFrom.decidable C (M.step s i).1 (t ++ (M.step s i).2) is
    inferInstanceAs (Decidable (C s t i ∧ M.AdmitsFrom C _ _ is))

theorem AdmitsFrom.admits {C : σ → List ω → ι → Prop} {s : σ} {is : List ι}
    (h : M.AdmitsFrom C s [] is) : M.Admits C s is := by
  suffices hall : ∀ (t : List ω) (s : σ) (is : List ι), M.AdmitsFrom C s t is →
      ∀ pre i post, is = pre ++ i :: post → C (M.run s pre) (t ++ M.trace s pre) i by
    intro pre i post hsplit
    exact hall [] s is h pre i post hsplit
  intro t s is h pre
  induction pre generalizing s t is with
  | nil =>
    rintro i post rfl
    rw [trace_nil, List.append_nil]
    exact h.1
  | cons j pre ih =>
    rintro i post rfl
    have hrest := ih _ _ _ h.2 i post rfl
    rw [List.append_assoc] at hrest
    exact hrest

/-- **Guarded monitored induction.** The relation between state and trace may use a condition that
every step of this particular run meets. -/
theorem monitor_induction_of_admits {P : σ → List ω → Prop} {C : σ → List ω → ι → Prop} {s : σ}
    (start : P s [])
    (step : ∀ s' t i, P s' t → C s' t i → P (M.step s' i).1 (t ++ (M.step s' i).2))
    (is : List ι) (hC : M.Admits C s is) : P (M.run s is) (M.trace s is) := by
  induction is using List.reverseRecOn with
  | nil => exact start
  | append_singleton is i ih =>
    obtain ⟨hinit, hlast⟩ := M.admits_concat.1 hC
    rw [run_concat, trace_concat]
    exact step _ _ _ (ih hinit) hlast

end Machine

end FrankaDeploy.Foundation
