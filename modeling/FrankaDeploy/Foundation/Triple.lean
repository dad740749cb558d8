import FrankaDeploy.Foundation.Program

/-! # Triples of programs

A triple says of a program that from every state and trace that meet its precondition it ends with
one postcondition when it returns and with another one when it throws. The rules follow the
statements of a program one by one, so a routine that is a long list of statements is proved by
naming what holds between them:

* `Triple.seq` and `Triple.bind` for two statements after each other,
* `Triple.caught` for a `try` whose handler goes on,
* `triple_forEach` for a loop over a list, by an invariant. -/

namespace FrankaDeploy.Foundation.Program

variable {σ ω ε α β : Type}

/-- **A triple**: what holds before the program, after it returned and after it threw. -/
def Triple (P : σ → List ω → Prop) (m : Program σ ω ε α) (Q : α → σ → List ω → Prop)
    (E : ε → σ → List ω → Prop) : Prop :=
  ∀ s t, P s t → wp m Q E s t

variable {P P' : σ → List ω → Prop} {Q Q' : α → σ → List ω → Prop} {R : β → σ → List ω → Prop}
  {E E' : ε → σ → List ω → Prop}

/-! ## Consequence -/

theorem Triple.mono {m : Program σ ω ε α} (h : Triple P m Q E) (hP : ∀ s t, P' s t → P s t)
    (hQ : ∀ a s t, Q a s t → Q' a s t) (hE : ∀ e s t, E e s t → E' e s t) : Triple P' m Q' E' :=
  fun s t hs => wp_mono (h s t (hP s t hs)) hQ hE

theorem Triple.pre {m : Program σ ω ε α} (h : Triple P m Q E) (hP : ∀ s t, P' s t → P s t) :
    Triple P' m Q E :=
  h.mono hP (fun _ _ _ hs => hs) fun _ _ _ hs => hs

theorem Triple.post {m : Program σ ω ε α} (h : Triple P m Q E)
    (hQ : ∀ a s t, Q a s t → Q' a s t) : Triple P m Q' E :=
  h.mono (fun _ _ hs => hs) hQ fun _ _ _ hs => hs

theorem Triple.assuming {p : Prop} {m : Program σ ω ε α} (h : p → Triple P m Q E) :
    Triple (fun s t => p ∧ P s t) m Q E := by
  rintro s t ⟨hp, hs⟩
  exact h hp s t hs

/-! ## Statements -/

theorem triple_ret {a : α} (h : ∀ s t, P s t → Q a s t) : Triple P (ret a : Program σ ω ε α) Q E := by
  intro s t hs
  rw [wp_ret]
  exact h s t hs

theorem triple_fail {e : ε} (h : ∀ s t, P s t → E e s t) : Triple P (fail e : Program σ ω ε α) Q E := by
  intro s t hs
  rw [wp_fail]
  exact h s t hs

theorem triple_update {f : σ → σ} {Q : Unit → σ → List ω → Prop}
    (h : ∀ s t, P s t → Q () (f s) t) : Triple P (update f : Program σ ω ε Unit) Q E := by
  intro s t hs
  rw [wp_update]
  exact h s t hs

theorem triple_emit {event : ω} {Q : Unit → σ → List ω → Prop}
    (h : ∀ s t, P s t → Q () s (t ++ [event])) :
    Triple P (emit event : Program σ ω ε Unit) Q E := by
  intro s t hs
  rw [wp_emit]
  exact h s t hs

theorem triple_check {c : Prop} [Decidable c] {e : ε} (h : ∀ s t, P s t → E e s t) :
    Triple P (check c e : Program σ ω ε Unit) (fun _ s t => ¬c ∧ P s t) E := by
  intro s t hs
  rw [wp_check]
  exact ⟨fun _ => h s t hs, fun hc => ⟨hc, hs⟩⟩

theorem triple_ofExcept {r : Except ε α} (h : ∀ e s t, P s t → E e s t) :
    Triple P (ofExcept r : Program σ ω ε α) (fun a s t => r = .ok a ∧ P s t) E := by
  intro s t hs
  rw [wp_ofExcept]
  exact ⟨fun _ ha => ⟨ha, hs⟩, fun e _ => h e s t hs⟩

theorem Triple.ite {c : Prop} [Decidable c] {m n : Program σ ω ε α} (hm : c → Triple P m Q E)
    (hn : ¬c → Triple P n Q E) : Triple P (if c then m else n) Q E := by
  intro s t hs
  rw [wp_ite]
  exact ⟨fun hc => hm hc s t hs, fun hc => hn hc s t hs⟩

/-! ## Composition -/

/-- **Composition**: the second statement starts from what the first one left. -/
theorem Triple.bind {m : Program σ ω ε α} {f : α → Program σ ω ε β} (hm : Triple P m Q E)
    (hf : ∀ a, Triple (Q a) (f a) R E) : Triple P (m >>= f) R E := by
  intro s t hs
  rw [wp_bind]
  exact wp_mono (hm s t hs) (fun a s t ha => hf a s t ha) fun _ _ _ he => he

/-- **Composition of statements without a value of interest.** -/
theorem Triple.seq {M : σ → List ω → Prop} {m : Program σ ω ε α} {f : α → Program σ ω ε β}
    (hm : Triple P m (fun _ => M) E) (hf : ∀ a, Triple M (f a) R E) : Triple P (m >>= f) R E :=
  hm.bind hf

theorem Triple.look {f : σ → Program σ ω ε β}
    (hf : ∀ s₀, Triple (fun s t => s = s₀ ∧ P s t) (f s₀) R E) :
    Triple P ((read : Program σ ω ε σ) >>= f) R E := by
  intro s t hs
  rw [wp_bind, wp_read]
  exact hf s s t ⟨rfl, hs⟩

/-- **A `try`**: what follows it starts from either outcome. -/
theorem Triple.caught {m : Program σ ω ε α} {f : Except ε α → Program σ ω ε β}
    (hm : Triple P m Q E) (hok : ∀ a, Triple (Q a) (f (.ok a)) R E')
    (herror : ∀ e, Triple (E e) (f (.error e)) R E') : Triple P (attempt m >>= f) R E' := by
  intro s t hs
  rw [wp_bind, wp_attempt]
  exact wp_mono (hm s t hs) (fun a s t ha => hok a s t ha) fun e s t he => herror e s t he

/-! ## Loops -/

def forEach : List α → (α → Program σ ω ε Unit) → Program σ ω ε Unit
  | [], _ => ret ()
  | a :: l, f => f a >>= fun _ => forEach l f

theorem triple_forEach {l : List α} {f : α → Program σ ω ε Unit}
    (hf : ∀ a ∈ l, Triple P (f a) (fun _ => P) E) : Triple P (forEach l f) (fun _ => P) E := by
  induction l with
  | nil => exact triple_ret fun _ _ hs => hs
  | cons a l ih =>
    exact (hf a List.mem_cons_self).seq fun _ => ih fun b hb => hf b (List.mem_cons_of_mem a hb)

theorem triple_forEach_of_ne_nil {l : List α} {f : α → Program σ ω ε Unit} (hl : l ≠ [])
    (hfirst : ∀ a ∈ l, Triple P (f a) (fun _ => P') E)
    (hrest : ∀ a ∈ l, Triple P' (f a) (fun _ => P') E) :
    Triple P (forEach l f) (fun _ => P') E := by
  cases l with
  | nil => exact absurd rfl hl
  | cons a l =>
    refine (hfirst a List.mem_cons_self).seq fun _ => triple_forEach fun b hb => ?_
    exact hrest b (List.mem_cons_of_mem a hb)

end FrankaDeploy.Foundation.Program
