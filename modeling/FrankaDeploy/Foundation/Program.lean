import FrankaDeploy.Foundation.Machine

/-! # Programs with a state, events and exceptions

A `Program σ ω ε α` reads and writes a state `σ`, emits events `ω` and either returns an `α` or
throws an `ε`; what it did to the state and the events it emitted before it threw remain. `wp` is
its weakest precondition for one postcondition of each outcome. The postconditions also see the
trace, so they can relate the state to everything emitted so far, and `Machine.monitor_induction`
carries them over whole runs.

The rules `wp_bind`, `wp_check` and so on let a proof walk through a program in the order of its
statements. -/

namespace FrankaDeploy.Foundation

/-- **A program** over states `σ`: its outcome, the state it leaves and the events it emits. -/
def Program (σ ω ε α : Type) := σ → Except ε α × σ × List ω

namespace Program

variable {σ ω ε α β : Type}

/-! ## Statements -/

def ret (a : α) : Program σ ω ε α := fun s => (.ok a, s, [])

def andThen (m : Program σ ω ε α) (f : α → Program σ ω ε β) : Program σ ω ε β := fun s =>
  match m s with
  | (.error e, s, w) => (.error e, s, w)
  | (.ok a, s, w) =>
    match f a s with
    | (r, s, w') => (r, s, w ++ w')

instance : Monad (Program σ ω ε) where
  pure := ret
  bind := andThen

def read : Program σ ω ε σ := fun s => (.ok s, s, [])

def update (f : σ → σ) : Program σ ω ε Unit := fun s => (.ok (), f s, [])

def emit (event : ω) : Program σ ω ε Unit := fun s => (.ok (), s, [event])

def fail (e : ε) : Program σ ω ε α := fun s => (.error e, s, [])

def check (c : Prop) [Decidable c] (e : ε) : Program σ ω ε Unit := if c then fail e else ret ()

def runIf (c : Prop) [Decidable c] (m : Program σ ω ε Unit) : Program σ ω ε Unit :=
  if c then m else ret ()

/-- A statement that changes the state and emits nothing: a call of a method or of an environment
that is part of the state. -/
def ofStep (f : σ → Except ε α × σ) : Program σ ω ε α := fun s => ((f s).1, (f s).2, [])

def ofExcept : Except ε α → Program σ ω ε α
  | .ok a => ret a
  | .error e => fail e

/-- Run a program and return its outcome instead of throwing: the `try` of a language with
exceptions. -/
def attempt (m : Program σ ω ε α) : Program σ ω ε (Except ε α) := fun s =>
  match m s with
  | (r, s, w) => (.ok r, s, w)

theorem read_bind_apply (f : σ → Program σ ω ε β) (s : σ) :
    ((read : Program σ ω ε σ) >>= f) s = f s s := by
  show andThen read f s = _
  simp only [andThen, read, List.nil_append]

theorem update_bind_apply (g : σ → σ) (f : Unit → Program σ ω ε β) (s : σ) :
    ((update g : Program σ ω ε Unit) >>= f) s = f () (g s) := by
  show andThen (update g) f s = _
  simp only [andThen, update, List.nil_append]

/-! ## Weakest preconditions -/

/-- **The weakest precondition** for `Q` when the program returns and `E` when it throws, from the
state `s` after the events `t`. -/
def wp (m : Program σ ω ε α) (Q : α → σ → List ω → Prop) (E : ε → σ → List ω → Prop) (s : σ)
    (t : List ω) : Prop :=
  match m s with
  | (.ok a, s, w) => Q a s (t ++ w)
  | (.error e, s, w) => E e s (t ++ w)

variable {Q Q' : α → σ → List ω → Prop} {R : β → σ → List ω → Prop}
  {E E' : ε → σ → List ω → Prop} {s : σ} {t : List ω}

@[simp] theorem wp_ret (a : α) : wp (ret a) Q E = Q a := by
  funext s t
  simp [wp, ret]

@[simp] theorem wp_pure (a : α) : wp (pure a) Q E = Q a := wp_ret a

@[simp] theorem wp_bind (m : Program σ ω ε α) (f : α → Program σ ω ε β) :
    wp (m >>= f) R E = wp m (fun a => wp (f a) R E) E := by
  funext s t
  show wp (andThen m f) R E s t = _
  unfold wp andThen
  rcases m s with ⟨r, s', w⟩
  cases r with
  | error e => rfl
  | ok a =>
    rcases hf : f a s' with ⟨r', s'', w'⟩
    cases r' <;> simp [hf]

@[simp] theorem wp_read {Q : σ → σ → List ω → Prop} :
    wp (read : Program σ ω ε σ) Q E = fun s t => Q s s t := by
  funext s t
  simp [wp, read]

@[simp] theorem wp_update {Q : Unit → σ → List ω → Prop} (f : σ → σ) :
    wp (update f : Program σ ω ε Unit) Q E = fun s t => Q () (f s) t := by
  funext s t
  simp [wp, update]

@[simp] theorem wp_emit {Q : Unit → σ → List ω → Prop} (event : ω) :
    wp (emit event : Program σ ω ε Unit) Q E = fun s t => Q () s (t ++ [event]) := by
  funext s t
  simp [wp, emit]

@[simp] theorem wp_fail (e : ε) : wp (fail e : Program σ ω ε α) Q E = E e := by
  funext s t
  simp [wp, fail]

@[simp] theorem wp_check {Q : Unit → σ → List ω → Prop} (c : Prop) [Decidable c] (e : ε) :
    wp (check c e : Program σ ω ε Unit) Q E =
      fun s t => (c → E e s t) ∧ (¬c → Q () s t) := by
  funext s t
  unfold check
  by_cases h : c
  · simp [h]
  · simp [h]

@[simp] theorem wp_runIf {Q : Unit → σ → List ω → Prop} (c : Prop) [Decidable c]
    (m : Program σ ω ε Unit) :
    wp (runIf c m) Q E = fun s t => (c → wp m Q E s t) ∧ (¬c → Q () s t) := by
  funext s t
  unfold runIf
  by_cases h : c
  · simp [h]
  · simp [h]

theorem wp_ofStep (f : σ → Except ε α × σ) :
    wp (ofStep f : Program σ ω ε α) Q E = fun s t =>
      (∀ a, (f s).1 = .ok a → Q a (f s).2 t) ∧ ∀ e, (f s).1 = .error e → E e (f s).2 t := by
  funext s t
  unfold wp ofStep
  cases h : (f s).1 with
  | ok a => simp
  | error e => simp

@[simp] theorem wp_ofExcept (r : Except ε α) :
    wp (ofExcept r : Program σ ω ε α) Q E =
      fun s t => (∀ a, r = .ok a → Q a s t) ∧ ∀ e, r = .error e → E e s t := by
  funext s t
  cases r with
  | ok a => simp [ofExcept]
  | error e => simp [ofExcept]

@[simp] theorem wp_attempt {Q : Except ε α → σ → List ω → Prop} (m : Program σ ω ε α) :
    wp (attempt m) Q E = wp m (fun a => Q (.ok a)) (fun e => Q (.error e)) := by
  funext s t
  unfold wp attempt
  rcases m s with ⟨r, s', w⟩
  cases r with
  | error e => rfl
  | ok a => rfl

theorem wp_ite {c : Prop} [Decidable c] {m n : Program σ ω ε α} :
    wp (if c then m else n) Q E =
      fun s t => (c → wp m Q E s t) ∧ (¬c → wp n Q E s t) := by
  funext s t
  by_cases h : c
  · simp [h]
  · simp [h]

/-- **Weakening.** Postconditions may be replaced by weaker ones. -/
theorem wp_mono {m : Program σ ω ε α} (h : wp m Q E s t) (hQ : ∀ a s t, Q a s t → Q' a s t)
    (hE : ∀ e s t, E e s t → E' e s t) : wp m Q' E' s t := by
  unfold wp at *
  generalize m s = outcome at h ⊢
  obtain ⟨r, s', w⟩ := outcome
  cases r with
  | ok a => exact hQ a _ _ h
  | error e => exact hE e _ _ h

theorem wp_attempt_bind {P : σ → List ω → Prop} {m : Program σ ω ε α}
    {f : Except ε α → Program σ ω ε β} (hm : wp m (fun _ => P) (fun _ => P) s t)
    (hf : ∀ r s t, P s t → wp (f r) R E s t) : wp (attempt m >>= f) R E s t := by
  rw [wp_bind, wp_attempt]
  exact wp_mono hm (fun a => hf (.ok a)) fun e => hf (.error e)

/-- **Execution.** The postcondition of a run that is known to return. -/
theorem wp_of_eq_ok {m : Program σ ω ε α} {a : α} {s' : σ} {w : List ω} (hm : m s = (.ok a, s', w))
    (h : Q a s' (t ++ w)) : wp m Q E s t := by
  unfold wp
  rw [hm]
  exact h

theorem wp_top (m : Program σ ω ε α) (s : σ) (t : List ω) :
    wp m (fun _ _ _ => True) (fun _ _ _ => True) s t := by
  unfold wp
  rcases m s with ⟨r, s', w⟩
  cases r <;> trivial

/-- **Localisation.** What a program does to a trace is what it does to the empty one. -/
theorem wp_shift :
    wp m Q E s t ↔ wp m (fun a s w => Q a s (t ++ w)) (fun e s w => E e s (t ++ w)) s [] := by
  unfold wp
  rcases m s with ⟨r, s', w⟩
  cases r with
  | ok a => simp
  | error e => simp

/-- **Combination.** A program meets both of two specifications. -/
theorem wp_and {m : Program σ ω ε α} (h : wp m Q E s t) (h' : wp m Q' E' s t) :
    wp m (fun a s t => Q a s t ∧ Q' a s t) (fun e s t => E e s t ∧ E' e s t) s t := by
  unfold wp at *
  generalize m s = outcome at h h' ⊢
  obtain ⟨r, s', w⟩ := outcome
  cases r with
  | ok a => exact ⟨h, h'⟩
  | error e => exact ⟨h, h'⟩

/-! ## Invariants

A relation between state and trace that a program keeps through every outcome. -/

/-- **The program keeps `I`**, whether it returns or throws. -/
def Keeps (I : σ → List ω → Prop) (m : Program σ ω ε α) : Prop :=
  ∀ s t, I s t → wp m (fun _ => I) (fun _ => I) s t

variable {I : σ → List ω → Prop}

theorem keeps_ret (a : α) : Keeps I (ret a : Program σ ω ε α) := by
  intro s t h
  rwa [wp_ret]

theorem keeps_fail (e : ε) : Keeps I (fail e : Program σ ω ε α) := by
  intro s t h
  rwa [wp_fail]

theorem keeps_read : Keeps I (read : Program σ ω ε σ) := by
  intro s t h
  rwa [wp_read]

theorem keeps_update {f : σ → σ} (hf : ∀ s t, I s t → I (f s) t) :
    Keeps I (update f : Program σ ω ε Unit) := by
  intro s t h
  rw [wp_update]
  exact hf s t h

theorem keeps_emit {event : ω} (he : ∀ s t, I s t → I s (t ++ [event])) :
    Keeps I (emit event : Program σ ω ε Unit) := by
  intro s t h
  rw [wp_emit]
  exact he s t h

theorem keeps_check (c : Prop) [Decidable c] (e : ε) :
    Keeps I (check c e : Program σ ω ε Unit) := by
  intro s t h
  rw [wp_check]
  exact ⟨fun _ => h, fun _ => h⟩

theorem Keeps.runIf {m : Program σ ω ε Unit} (c : Prop) [Decidable c] (hm : Keeps I m) :
    Keeps I (runIf c m) := by
  intro s t h
  rw [wp_runIf]
  exact ⟨fun _ => hm s t h, fun _ => h⟩

theorem keeps_ofStep {f : σ → Except ε α × σ} (hf : ∀ s t, I s t → I (f s).2 t) :
    Keeps I (ofStep f : Program σ ω ε α) := by
  intro s t h
  rw [wp_ofStep]
  exact ⟨fun _ _ => hf s t h, fun _ _ => hf s t h⟩

theorem keeps_ofExcept (r : Except ε α) : Keeps I (ofExcept r : Program σ ω ε α) := by
  intro s t h
  rw [wp_ofExcept]
  exact ⟨fun _ _ => h, fun _ _ => h⟩

theorem Keeps.bind {m : Program σ ω ε α} {f : α → Program σ ω ε β} (hm : Keeps I m)
    (hf : ∀ a, Keeps I (f a)) : Keeps I (m >>= f) := by
  intro s t h
  rw [wp_bind]
  exact wp_mono (hm s t h) (fun a s t h => hf a s t h) fun _ _ _ h => h

theorem Keeps.wp_bind {m : Program σ ω ε α} {f : α → Program σ ω ε β} (hm : Keeps I m) (h : I s t)
    (hf : ∀ a s t, I s t → wp (f a) R E s t) (hE : ∀ e s t, I s t → E e s t) :
    wp (m >>= f) R E s t := by
  rw [Program.wp_bind]
  exact wp_mono (hm s t h) hf hE

theorem Keeps.attempt {m : Program σ ω ε α} (hm : Keeps I m) : Keeps I (attempt m) := by
  intro s t h
  rw [wp_attempt]
  exact hm s t h

theorem Keeps.ite {c : Prop} [Decidable c] {m n : Program σ ω ε α} (hm : Keeps I m)
    (hn : Keeps I n) : Keeps I (if c then m else n) := by
  by_cases h : c
  · rwa [if_pos h]
  · rwa [if_neg h]

/-- **The program keeps `I`, and what it returns satisfies `φ`.** -/
def Yields (I : σ → List ω → Prop) (φ : α → Prop) (m : Program σ ω ε α) : Prop :=
  ∀ s t, I s t → wp m (fun a s t => I s t ∧ φ a) (fun _ => I) s t

theorem yields_ret {φ : α → Prop} {a : α} (ha : φ a) :
    Yields I φ (ret a : Program σ ω ε α) := by
  intro s t h
  rw [wp_ret]
  exact ⟨h, ha⟩

theorem Yields.bind {φ : α → Prop} {ψ : β → Prop} {m : Program σ ω ε α}
    {f : α → Program σ ω ε β} (hm : Yields I φ m) (hf : ∀ a, φ a → Yields I ψ (f a)) :
    Yields I ψ (m >>= f) := by
  intro s t h
  rw [wp_bind]
  exact wp_mono (hm s t h) (fun a s t h => hf a h.2 s t h.1) fun _ _ _ h => h

theorem Keeps.yields_bind {ψ : β → Prop} {m : Program σ ω ε α} {f : α → Program σ ω ε β}
    (hm : Keeps I m) (hf : ∀ a, Yields I ψ (f a)) : Yields I ψ (m >>= f) := by
  intro s t h
  exact hm.wp_bind h (fun a s t h => hf a s t h) fun _ _ _ h => h

theorem Yields.ite {φ : α → Prop} {c : Prop} [Decidable c] {m n : Program σ ω ε α}
    (hm : Yields I φ m) (hn : Yields I φ n) : Yields I φ (if c then m else n) := by
  by_cases h : c
  · rwa [if_pos h]
  · rwa [if_neg h]

/-- **The program keeps `I` while it runs and leaves `J` when it throws.** -/
def Leaves (I J : σ → List ω → Prop) (m : Program σ ω ε α) : Prop :=
  ∀ s t, I s t → wp m (fun _ => I) (fun _ => J) s t

variable {J : σ → List ω → Prop}

theorem Keeps.leaves {m : Program σ ω ε α} (hm : Keeps I m) (hIJ : ∀ s t, I s t → J s t) :
    Leaves I J m :=
  fun s t h => wp_mono (hm s t h) (fun _ _ _ h => h) fun _ s t h => hIJ s t h

theorem Leaves.bind {m : Program σ ω ε α} {f : α → Program σ ω ε β} (hm : Leaves I J m)
    (hf : ∀ a, Leaves I J (f a)) : Leaves I J (m >>= f) := by
  intro s t h
  rw [wp_bind]
  exact wp_mono (hm s t h) (fun a s t h => hf a s t h) fun _ _ _ h => h

theorem Leaves.ite {c : Prop} [Decidable c] {m n : Program σ ω ε α} (hm : Leaves I J m)
    (hn : Leaves I J n) : Leaves I J (if c then m else n) := by
  by_cases h : c
  · rwa [if_pos h]
  · rwa [if_neg h]

/-! ## Programs that never throw -/

/-- **The program returns**, from every state. -/
def Total (m : Program σ ω ε α) : Prop := ∀ s t, wp m (fun _ _ _ => True) (fun _ _ _ => False) s t

theorem total_ret (a : α) : Total (ret a : Program σ ω ε α) := by
  intro s t
  rw [wp_ret]
  trivial

theorem total_read : Total (read : Program σ ω ε σ) := by
  intro s t
  rw [wp_read]
  trivial

theorem total_update (f : σ → σ) : Total (update f : Program σ ω ε Unit) := by
  intro s t
  rw [wp_update]
  trivial

theorem total_attempt (m : Program σ ω ε α) : Total (attempt m) := by
  intro s t
  rw [wp_attempt]
  exact wp_mono (wp_top m s t) (fun _ _ _ _ => trivial) fun _ _ _ _ => trivial

theorem Total.bind {m : Program σ ω ε α} {f : α → Program σ ω ε β} (hm : Total m)
    (hf : ∀ a, Total (f a)) : Total (m >>= f) := by
  intro s t
  rw [Program.wp_bind]
  exact wp_mono (hm s t) (fun a s t _ => hf a s t) fun _ _ _ h => h

theorem Total.ite {c : Prop} [Decidable c] {m n : Program σ ω ε α} (hm : Total m) (hn : Total n) :
    Total (if c then m else n) := by
  by_cases h : c
  · rwa [if_pos h]
  · rwa [if_neg h]

theorem Keeps.wp_bind_total {m : Program σ ω ε α} {f : α → Program σ ω ε β} (hm : Keeps I m)
    (ht : Total m) (h : I s t) (hf : ∀ a s t, I s t → wp (f a) R E s t) : wp (m >>= f) R E s t := by
  rw [Program.wp_bind]
  exact wp_mono (wp_and (hm s t h) (ht s t)) (fun a s t h => hf a s t h.1) fun _ _ _ h => h.2.elim

/-! ## Machines -/

theorem wp_result {m : Program σ ω ε α} {P : Except ε α → σ → List ω → Prop}
    (h : wp m (fun a => P (.ok a)) (fun e => P (.error e)) s t) :
    P (m s).1 (m s).2.1 (t ++ (m s).2.2) := by
  unfold wp at h
  generalize m s = outcome at h ⊢
  obtain ⟨r, s', w⟩ := outcome
  cases r with
  | ok a => exact h
  | error e => exact h

theorem wp_of_run {m : Program σ ω ε α} (h : wp m Q E s t) {a : α} {s' : σ} {w : List ω}
    (hrun : m s = (.ok a, s', w)) : Q a s' (t ++ w) := by
  unfold wp at h
  rw [hrun] at h
  exact h

theorem wp_outcome {m : Program σ ω ε α} {I : σ → List ω → Prop}
    (h : wp m (fun _ => I) (fun _ => I) s t) : I (m s).2.1 (t ++ (m s).2.2) :=
  wp_result (P := fun _ => I) h

end Program

end FrankaDeploy.Foundation
