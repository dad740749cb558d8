import FrankaDeploy.TickSource.Effects

/-! # The specifications of the calls

One specification for each public method of the tick source: what it returns, what it does to the
view and which events it emits. -/

set_option linter.unusedSectionVars false

namespace FrankaDeploy.TickSource

open FrankaDeploy.Foundation FrankaDeploy.ClosedLoop FrankaDeploy.Contracts
open FrankaDeploy.Foundation.Program
open scoped FloatArith

variable {D S : Type} [FloatArith D] [FloatArith S] [FloatCast D S] {W : Type}
  {config : TickSourceConfig D S} {env : TickWorld D S W} {v : TickView D S}
  {w : TransactionalV94ActionMapper D S × Option RH56Shaper} {t₀ t : List (TickEvent D S)}
  {s : PolicyTickSource D S W} {hold : V94RecoverableObservationHold D S}

/-! ## Notices

The events that are emitted before the result of a call. -/

def TickEvent.IsNotice : TickEvent D S → Prop
  | .observed _ => True
  | .recoverable _ => True
  | _ => False

def Noticed (t₀ t : List (TickEvent D S)) : Prop :=
  ∃ notices, t = t₀ ++ notices ∧ ∀ e ∈ notices, e.IsNotice

theorem Noticed.refl (t : List (TickEvent D S)) : Noticed t t :=
  ⟨[], (List.append_nil t).symm, fun _ he => absurd he List.not_mem_nil⟩

theorem Noticed.snoc {t₀ t : List (TickEvent D S)} (h : Noticed t₀ t) {e : TickEvent D S}
    (he : e.IsNotice) : Noticed t₀ (t ++ [e]) := by
  obtain ⟨notices, rfl, hall⟩ := h
  refine ⟨notices ++ [e], List.append_assoc _ _ _, fun e' he' => ?_⟩
  rcases List.mem_append.mp he' with hold' | hnew
  · exact hall e' hold'
  · rw [List.mem_singleton.mp hnew]
    exact he

/-! ## `prepare` -/

theorem wp_requireHealthyLocked {Q : Unit → PolicyTickSource D S W → List (TickEvent D S) → Prop}
    {E : TickException D S → PolicyTickSource D S W → List (TickEvent D S) → Prop}
    (hok : s.faultReason = none → Q () s t) (hfault : ∀ e, s.faultReason ≠ none → E e s t) :
    wp (requireHealthyLocked : TickM D S W Unit) Q E s t := by
  unfold requireHealthyLocked
  rw [wp_bind, wp_read]
  beta_reduce
  cases hreason : s.faultReason with
  | none =>
    simp only []
    rw [wp_ret]
    exact hok hreason
  | some reason =>
    simp only []
    rw [wp_fail]
    exact hfault _ (by rw [hreason]; exact Option.some_ne_none reason)

/-- **What `prepare` leads to** from the view `v`. -/
def Prepared (config : TickSourceConfig D S) (v : TickView D S) (t₀ : List (TickEvent D S)) :
    PrepareResult D S → PolicyTickSource D S W → List (TickEvent D S) → Prop
  | .hold _, s, t => s.view = v ∧ Noticed t₀ t
  | .command tick, s, t => s.view = { v with pending := some tick } ∧ v.pending = none ∧
      ((∃ o, t = t₀ ++ [.observed o] ∧ OrdinaryTick config v o tick) ∨
        ∃ h t₁, Noticed t₀ t₁ ∧ t = t₁ ++ [.recoverable h] ∧ HoldTick h tick)

def Refused (v : TickView D S) (t₀ : List (TickEvent D S)) (s : PolicyTickSource D S W)
    (t : List (TickEvent D S)) : Prop := s.view = v ∧ Noticed t₀ t

theorem refused_of_view (h : ViewIs v t₀ s t) : Refused v t₀ s t := by
  obtain ⟨hview, rfl⟩ := h
  exact ⟨hview, .refl t⟩

theorem passive_refused : Passive env (Refused v t₀) :=
  ⟨fun _ _ h => h, fun _ _ h => h, fun _ _ _ _ _ h => h, fun _ _ _ h => h, fun _ _ _ h => h⟩

theorem wp_recover_noticed (request : TickRequest D S) (h : Refused v t₀ s t)
    (hpending : v.pending = none) :
    wp (recover config env request hold) (Prepared config v t₀) (fun _ => Refused v t₀) s t := by
  have hunchanged : Unchanged v s.targets t s t := ⟨⟨h.1, rfl⟩, rfl⟩
  refine wp_mono (wp_recover request hunchanged) (fun r s' t' hr => ?_) fun _ s' t' he => ?_
  · cases r with
    | hold held =>
      obtain ⟨⟨hview, rfl⟩, -⟩ := hr
      exact ⟨hview, h.2.snoc trivial⟩
    | command tick =>
      obtain ⟨⟨hview, rfl⟩, htick⟩ := hr
      exact ⟨hview, hpending, .inr ⟨hold, t, h.2, rfl, htick⟩⟩
  · obtain ⟨hview, rfl⟩ := he
    exact ⟨hview, h.2.snoc trivial⟩

theorem wp_prepareRequest (request : TickRequest D S) {previous : FiniteVec 13 S}
    (hprevious : previous = v.previous) (h : Unchanged v w t₀ s t) (hpending : v.pending = none) :
    wp (prepareRequest config env request previous) (Prepared config v t₀)
      (fun _ => Refused v t₀) s t := by
  subst hprevious
  unfold prepareRequest
  rw [wp_bind, wp_check]
  refine ⟨fun _ => ⟨h.1.1, by rw [h.1.2]; exact .refl t₀⟩, fun _ => ?_⟩
  rw [wp_bind, wp_attempt]
  refine wp_mono (wp_prepareObserved request h) ?_ ?_
  · rintro r s₁ t₁ ⟨o, hr⟩
    simp only [handlePrepare]
    rw [wp_ret]
    cases r with
    | hold held =>
      obtain ⟨⟨hview, rfl⟩, -⟩ := hr
      exact ⟨hview, (Noticed.refl t₀).snoc trivial⟩
    | command tick =>
      obtain ⟨⟨hview, rfl⟩, htick⟩ := hr
      exact ⟨hview, hpending, .inl ⟨o, rfl, htick⟩⟩
  · intro e s₁ t₁ he
    have hrefused : Refused v t₀ s₁ t₁ := by
      rcases he with ⟨hview, rfl⟩ | ⟨o, hview, rfl⟩
      · exact ⟨hview, .refl _⟩
      · exact ⟨hview, (Noticed.refl t₀).snoc trivial⟩
    cases e with
    | hold h => exact wp_recover_noticed request hrefused hpending
    | raised error =>
      have hpassive : Passive env (Refused v t₀) := passive_refused
      simp only [handlePrepare]
      exact (hpassive.keeps_latchLocked _).wp_bind hrefused
        (fun _ s₂ t₂ h₂ => by rw [wp_fail]; exact h₂) fun _ _ _ h => h

/-- **`prepare`** stages a tick, holds, or raises without a tick. -/
theorem wp_prepare (sequence : ℤ) (previous : Vec 13 S) (now deadline : D) :
    wp (prepare config env sequence previous now deadline)
      (fun r s' t' => s.faultReason = none ∧ Prepared config s.view t r s' t')
      (fun _ => Refused s.view t) s t := by
  have hstart : Refused s.view t s t := ⟨rfl, .refl t⟩
  have hpassive : Passive env (Refused s.view t) := passive_refused
  have hlatch : ∀ reason,
      wp (latchAndRaise reason : TickM D S W (PrepareResult D S))
        (fun r s' t' => s.faultReason = none ∧ Prepared config s.view t r s' t')
        (fun _ => Refused s.view t) s t := by
    intro reason
    refine (hpassive.keeps_latchLocked reason).wp_bind hstart ?_ fun _ _ _ h => h
    intro _ s₁ t₁ h₁
    rw [wp_bind, wp_read]
    beta_reduce
    rw [wp_fail]
    exact h₁
  unfold prepare
  rw [wp_bind, wp_ofExcept]
  refine ⟨fun requested _ => ?_, fun _ _ => hstart⟩
  rw [wp_bind, wp_ofExcept]
  refine ⟨fun callerNow _ => ?_, fun _ _ => hstart⟩
  rw [wp_bind, wp_ofExcept]
  refine ⟨fun hardDeadline _ => ?_, fun _ _ => hstart⟩
  rw [wp_bind, wp_ofExcept]
  refine ⟨fun previous _ => ?_, fun _ _ => hstart⟩
  rw [wp_bind]
  refine wp_requireHealthyLocked (fun hhealthy => ?_) fun _ _ => hstart
  rw [wp_bind, wp_read]
  beta_reduce
  simp only []
  rw [wp_ite]
  refine ⟨fun _ => hlatch _, fun hidle => ?_⟩
  have hpending : s.pending = none := by
    simpa using hidle
  have hrequest : ∀ request : TickRequest D S,
      wp (prepareRequest config env request s.policyPreviousAction13)
        (fun r s' t' => s.faultReason = none ∧ Prepared config s.view t r s' t')
        (fun _ => Refused s.view t) s t := by
    intro request
    have hunchanged : Unchanged s.view s.targets t s t := ⟨⟨rfl, rfl⟩, rfl⟩
    exact wp_mono (wp_prepareRequest request rfl hunchanged hpending)
      (fun _ _ _ hr => ⟨hhealthy, hr⟩) fun _ _ _ he => he
  rw [wp_ite]
  refine ⟨fun _ => hlatch _, fun _ => ?_⟩
  rw [wp_ite]
  refine ⟨fun _ => ?_, fun _ => ?_⟩
  · rw [wp_ite]
    exact ⟨fun _ => hlatch _, fun _ => hrequest _⟩
  · rw [wp_ite]
    exact ⟨fun _ => hlatch _, fun _ => hrequest _⟩

/-! ## `prime_non_actuated_startup_tick` -/

/-- **The startup tick of the observation `o` is accepted**, from the view `v`. -/
structure StartupAccepted (config : TickSourceConfig D S) (v : TickView D S)
    (t₀ : List (TickEvent D S)) (o : V94PolicyObservation D S) (action : FiniteVec 13 S)
    (s : PolicyTickSource D S W) (t : List (TickEvent D S)) : Prop where
  noticed : t = t₀ ++ [.observed o]
  view : ∃ candidate, candidateHistoryLocked config v.history o v.previous = .ok candidate ∧
    s.view = v.prime o candidate action
  admitted : Admitted config v o

/-- **What an attempt of a startup tick leads to.** -/
def StartupDone (config : TickSourceConfig D S) (v : TickView D S) (t₀ : List (TickEvent D S)) :
    StartupResult D S → PolicyTickSource D S W → List (TickEvent D S) → Prop
  | .hold _, s, t => Refused v t₀ s t
  | .record record, s, t => ∃ o, record.cameraFrameId = o.cameraFrameId ∧
      record.previousPolicyAction13Used = v.previous ∧
      StartupAccepted config v t₀ o record.acceptedPolicyAction13 s t

/-- **What a startup tick that raises leaves**: nothing changed, or the tick was accepted before
the recorder failed. -/
def StartupRaised (config : TickSourceConfig D S) (v : TickView D S) (t₀ : List (TickEvent D S))
    (e : TickException D S) (s : PolicyTickSource D S W) (t : List (TickEvent D S)) : Prop :=
  Refused v t₀ s t ∨
    ∃ o action error, e = .raised error ∧ StartupAccepted config v t₀ o action s t

theorem wp_recordPolicyIoLocked {I : PolicyTickSource D S W → List (TickEvent D S) → Prop}
    (hworld : ∀ s t x, I s t → I { s with world := x } t) (record : PolicyIoRecord D S)
    (h : I s t) :
    wp (recordPolicyIoLocked env record) (fun _ => I)
      (fun e s' t' => I s' t' ∧ ∃ error, e = .raised error) s t := by
  unfold recordPolicyIoLocked
  cases env.recordTick with
  | none =>
    simp only []
    rw [wp_ret]
    exact h
  | some recordTick =>
    have hkeeps : Keeps I (environment (recordTick record)) :=
      keeps_environment fun s t h => hworld s t _ h
    simp only []
    rw [wp_bind]
    refine wp_mono (wp_and (hkeeps.attempt s t h) (total_attempt _ s t)) ?_ fun _ _ _ h => h.2.elim
    rintro r s₁ t₁ ⟨h₁, -⟩
    cases r with
    | ok u =>
      simp only []
      rw [wp_ret]
      exact h₁
    | error e =>
      cases e with
      | hold h =>
        simp only []
        rw [wp_ret]
        exact h₁
      | raised error =>
        simp only []
        rw [wp_ite]
        refine ⟨fun _ => ?_, fun _ => ?_⟩
        · rw [wp_ret]
          exact h₁
        · rw [wp_fail]
          exact ⟨h₁, error, rfl⟩

theorem wp_startupHold {o : V94PolicyObservation D S} (frameId : ℕ) (reason : String)
    (observed : D) (h : ViewIs v (t₀ ++ [.observed o]) s t) :
    wp (startupHold config frameId reason observed) (StartupDone config v t₀)
      (StartupRaised config v t₀) s t := by
  have hrefused : ∀ (s' : PolicyTickSource D S W) t', ViewIs v (t₀ ++ [.observed o]) s' t' →
      Refused v t₀ s' t' := by
    rintro s' t' ⟨hview, rfl⟩
    exact ⟨hview, (Noticed.refl t₀).snoc trivial⟩
  unfold startupHold
  refine (keeps_holdLocked (fun _ _ h => h) _ _ _ _ _).wp_bind h ?_
    fun _ s' t' h => .inl (hrefused s' t' h)
  intro held s₁ t₁ h₁
  rw [wp_ret]
  exact hrefused s₁ t₁ h₁

theorem wp_acceptStartup {o : V94PolicyObservation D S} {candidate : HistoryCandidate S}
    (hadmitted : Admitted config v o)
    (hcandidate : candidateHistoryLocked config v.history o v.previous = .ok candidate)
    (index : ℕ) (raw : FiniteVec 13 S) (afterPolicy : D)
    (h : ViewIs v (t₀ ++ [.observed o]) s t) :
    wp (acceptStartup config env index o candidate v.previous raw afterPolicy)
      (StartupDone config v t₀) (StartupRaised config v t₀) s t := by
  obtain ⟨hview, rfl⟩ := h
  unfold acceptStartup
  simp only []
  rw [wp_bind, wp_ofExcept]
  refine ⟨fun record hrecord => ?_, fun _ _ => .inl ⟨hview, (Noticed.refl t₀).snoc trivial⟩⟩
  have hfields : record.cameraFrameId = o.cameraFrameId ∧
      record.previousPolicyAction13Used = v.previous := by
    unfold ofSource NonActuatedPolicyTick.postInit at hrecord
    cases haccepted : readonlyFloatArray (fun i : Fin 13 =>
        if o.holdArmTarget = true ∧ i.1 < 7 then FloatArith.zero else raw.1 i)
        "accepted_policy_action13" with
    | error e =>
      rw [haccepted] at hrecord
      cases hrecord
    | ok accepted =>
      rw [haccepted, except_ok_bind] at hrecord
      by_cases hwithin : withinUnit accepted.1 = false
      · rw [if_pos hwithin] at hrecord
        cases hrecord
      · rw [if_neg hwithin] at hrecord
        cases hrecord
        exact ⟨rfl, rfl⟩
  rw [wp_bind, wp_update]
  have haccepted : StartupAccepted config v t₀ o record.acceptedPolicyAction13
      { s.useSource o.pointcloudSourceFrameId with
        history := some candidate
        policyPreviousAction13 := record.acceptedPolicyAction13
        lastCommittedFrameId := some o.cameraFrameId
        startupNonActuatedCompletedSteps := s.startupNonActuatedCompletedSteps + 1
        startupNonActuatedRecords := s.startupNonActuatedRecords ++ [record] }
      (t₀ ++ [.observed o]) := by
    refine ⟨rfl, ⟨candidate, hcandidate, ?_⟩, hadmitted⟩
    have huse := view_useSource s o.pointcloudSourceFrameId
    rw [hview] at huse
    unfold TickView.prime
    rw [← huse]
    rfl
  rw [wp_bind]
  refine wp_mono (wp_recordPolicyIoLocked
    (I := StartupAccepted config v t₀ o record.acceptedPolicyAction13)
    (fun _ _ _ h => ⟨h.noticed, h.view, h.admitted⟩) _ haccepted) ?_ ?_
  · intro _ s₁ t₁ h₁
    rw [wp_ret]
    exact ⟨o, hfields.1, hfields.2, h₁⟩
  · rintro e s₁ t₁ ⟨h₁, error, rfl⟩
    exact .inr ⟨o, _, error, rfl, h₁⟩

theorem startupRaised_of_view {o : V94PolicyObservation D S} {e : TickException D S}
    (h : ViewIs v (t₀ ++ [.observed o]) s t) : StartupRaised config v t₀ e s t := by
  obtain ⟨hview, rfl⟩ := h
  exact .inl ⟨hview, (Noticed.refl t₀).snoc trivial⟩

theorem wp_inferStartup {o : V94PolicyObservation D S} (hadmitted : Admitted config v o)
    (index : ℕ) (hardDeadline : D) (h : ViewIs v (t₀ ++ [.observed o]) s t) :
    wp (inferStartup config env index o hardDeadline) (StartupDone config v t₀)
      (StartupRaised config v t₀) s t := by
  have hpassive : Passive env (ViewIs v (t₀ ++ [.observed o])) := passive_viewIs
  unfold inferStartup
  rw [wp_bind, wp_read]
  beta_reduce
  have hhistory : s.history = v.history := congrArg TickView.history h.1
  have hprevious : s.policyPreviousAction13 = v.previous := congrArg TickView.previous h.1
  rw [wp_bind, wp_ofExcept, hhistory, hprevious]
  refine ⟨fun candidate hcandidate => ?_, fun _ _ => startupRaised_of_view h⟩
  refine (keeps_policy_view _).wp_bind h ?_ fun _ _ _ h => startupRaised_of_view h
  intro output s₁ t₁ h₁
  refine (keeps_ofExcept _).wp_bind h₁ ?_ fun _ _ _ h => startupRaised_of_view h
  intro raw s₂ t₂ h₂
  refine (keeps_check _ _).wp_bind h₂ ?_ fun _ _ _ h => startupRaised_of_view h
  intro _ s₃ t₃ h₃
  refine hpassive.keeps_nowMonotonic.wp_bind h₃ ?_ fun _ _ _ h => startupRaised_of_view h
  intro afterPolicy s₄ t₄ h₄
  refine (keeps_check _ _).wp_bind h₄ ?_ fun _ _ _ h => startupRaised_of_view h
  intro _ s₅ t₅ h₅
  refine (hpassive.keeps_pointcloudAge o).wp_bind h₅ ?_ fun _ _ _ h => startupRaised_of_view h
  intro cloudAge s₆ t₆ h₆
  rw [wp_ite]
  refine ⟨fun _ => wp_startupHold _ _ _ h₆, fun _ => ?_⟩
  refine (hpassive.keeps_frankaStateAge o afterPolicy).wp_bind h₆ ?_
    fun _ _ _ h => startupRaised_of_view h
  intro age s₇ t₇ h₇
  rw [wp_ite]
  exact ⟨fun _ => wp_startupHold _ _ _ h₇,
    fun _ => wp_acceptStartup hadmitted hcandidate index raw afterPolicy h₇⟩

theorem wp_checkStartupFrame {o : V94PolicyObservation D S} (index : ℕ)
    (afterSnapshot hardDeadline : D) (h : ViewIs v (t₀ ++ [.observed o]) s t) :
    wp (checkStartupFrame config env index o afterSnapshot hardDeadline)
      (StartupDone config v t₀) (StartupRaised config v t₀) s t := by
  have hpassive : Passive env (ViewIs v (t₀ ++ [.observed o])) := passive_viewIs
  unfold checkStartupFrame
  rw [wp_bind, wp_read]
  beta_reduce
  rw [wp_bind, wp_check]
  refine ⟨fun _ => startupRaised_of_view h, fun hframe => ?_⟩
  rw [wp_ite]
  refine ⟨fun _ => wp_startupHold _ _ _ h, fun huses => ?_⟩
  have hadmitted : Admitted config v o := admitted_of_checks h hframe huses
  refine (hpassive.keeps_pointcloudAge o).wp_bind h ?_ fun _ _ _ h => startupRaised_of_view h
  intro cloudAge s₁ t₁ h₁
  rw [wp_ite]
  exact ⟨fun _ => wp_startupHold _ _ _ h₁,
    fun _ => wp_inferStartup hadmitted index hardDeadline h₁⟩

theorem wp_observeStartup (index : ℕ) (callerNow hardDeadline : D) (h : ViewIs v t₀ s t) :
    wp (observeStartup config env index callerNow hardDeadline) (StartupDone config v t₀)
      (StartupRaised config v t₀) s t := by
  unfold observeStartup
  rw [wp_bind]
  refine wp_mono (wp_snapshot (I := ViewIs v t₀) (fun _ _ _ h => h) _ _ _ h) ?_ ?_
  · rintro o s₁ t₁ ⟨h₁, rfl⟩
    have hpassive : Passive env (ViewIs v (t₀ ++ [.observed o])) := passive_viewIs
    have hnoticed : ViewIs v (t₀ ++ [.observed o]) s₁ (t ++ [.observed o]) :=
      ⟨h₁.1, by rw [h₁.2]⟩
    refine hpassive.keeps_nowMonotonic.wp_bind hnoticed ?_ fun _ _ _ h => startupRaised_of_view h
    intro afterSnapshot s₂ t₂ h₂
    refine (keeps_check _ _).wp_bind h₂ ?_ fun _ _ _ h => startupRaised_of_view h
    intro _ s₃ t₃ h₃
    refine (keeps_check _ _).wp_bind h₃ ?_ fun _ _ _ h => startupRaised_of_view h
    intro _ s₄ t₄ h₄
    refine (hpassive.keeps_frankaStateAge o afterSnapshot).wp_bind h₄ ?_
      fun _ _ _ h => startupRaised_of_view h
    intro age s₅ t₅ h₅
    rw [wp_ite]
    exact ⟨fun _ => wp_startupHold _ _ _ h₅,
      fun _ => wp_checkStartupFrame index afterSnapshot hardDeadline h₅⟩
  · rintro e s₁ t₁ ⟨⟨hview, rfl⟩, rfl⟩
    exact .inl ⟨hview, .refl _⟩

/-- **`prime_non_actuated_startup_tick`** accepts a tick, holds, or raises; if it raises after the
tick was accepted, a fault is latched. -/
theorem wp_prime (index : ℤ) (now deadline : D) :
    wp (primeNonActuatedStartupTick config env index now deadline)
      (fun r s' t' => s.faultReason = none ∧ s.pending = none ∧ StartupDone config s.view t r s' t')
      (fun _ s' t' => Refused s.view t s' t' ∨ (s.faultReason = none ∧ s.pending = none ∧
        s'.faultReason ≠ none ∧ ∃ o action, StartupAccepted config s.view t o action s' t'))
      s t := by
  have hstart : Refused s.view t s t := ⟨rfl, .refl t⟩
  unfold primeNonActuatedStartupTick
  rw [wp_bind, wp_ofExcept]
  refine ⟨fun index _ => ?_, fun _ _ => .inl hstart⟩
  rw [wp_bind, wp_ofExcept]
  refine ⟨fun callerNow _ => ?_, fun _ _ => .inl hstart⟩
  rw [wp_bind, wp_ofExcept]
  refine ⟨fun hardDeadline _ => ?_, fun _ _ => .inl hstart⟩
  rw [wp_bind]
  refine wp_requireHealthyLocked (fun hhealthy => ?_) fun _ _ => .inl hstart
  rw [wp_bind, wp_read]
  beta_reduce
  rw [wp_bind, wp_check]
  refine ⟨fun _ => .inl hstart, fun _ => ?_⟩
  rw [wp_bind, wp_check]
  refine ⟨fun _ => .inl hstart, fun _ => ?_⟩
  rw [wp_bind, wp_check]
  refine ⟨fun _ => .inl hstart, fun _ => ?_⟩
  rw [wp_bind, wp_check]
  refine ⟨fun _ => .inl hstart, fun hfirst => ?_⟩
  have hpending : s.pending = none := by
    have hidle : ¬ s.pending.isSome = true := fun h => hfirst (.inr h)
    simpa using hidle
  rw [wp_bind, wp_check]
  refine ⟨fun _ => .inl hstart, fun _ => ?_⟩
  rw [wp_bind, wp_attempt]
  refine wp_mono (wp_observeStartup index callerNow hardDeadline ⟨rfl, rfl⟩) ?_ ?_
  · intro r s₁ t₁ h₁
    simp only [handleStartup]
    rw [wp_ret]
    exact ⟨hhealthy, hpending, h₁⟩
  · intro e s₁ t₁ he
    cases e with
    | hold h =>
      -- a recoverable hold is raised before the acceptance only
      have hrefused : Refused s.view t s₁ t₁ := by
        rcases he with hrefused | ⟨o, action, error, heq, -⟩
        · exact hrefused
        · cases heq
      have hpassive : Passive env (Refused s.view t) := passive_refused
      simp only [handleStartup, startupHold]
      refine hpassive.keeps_nowMonotonic.wp_bind hrefused ?_ fun _ _ _ h => .inl h
      intro observed s₂ t₂ h₂
      refine (keeps_holdLocked (fun _ _ h => h) _ _ _ _ _).wp_bind h₂ ?_ fun _ _ _ h => .inl h
      intro held s₃ t₃ h₃
      rw [wp_ret]
      exact ⟨hhealthy, hpending, h₃⟩
    | raised error =>
      simp only [handleStartup, latchLocked]
      rw [wp_bind, wp_update, wp_fail]
      rcases he with hrefused | ⟨o, action, error', -, haccepted⟩
      · exact .inl hrefused
      · exact .inr ⟨hhealthy, hpending, Option.some_ne_none _, o, action,
          haccepted.noticed, haccepted.view, haccepted.admitted⟩

/-! ## `commit` -/

/-- **A tick has what its kind of commit needs.** -/
structure Committable (tick : PendingTick D S) : Prop where
  occluded : tick.occludedClosureHandOnly = true → tick.observation = none
  frozen : tick.occludedClosureHandOnly = false →
    tick.frozenPostClosureWithoutPointcloud = true → tick.observation = none
  ordinary : tick.occludedClosureHandOnly = false →
    tick.frozenPostClosureWithoutPointcloud = false →
    tick.observation.isSome = true ∧ tick.history.isSome = true

/-- **What a commit that raises leaves**: nothing changed, or the history and the previous action
are those after the commit. -/
def CommitRaised (v : TickView D S) (tick : PendingTick D S) (t₀ : List (TickEvent D S))
    (s : PolicyTickSource D S W) (t : List (TickEvent D S)) : Prop :=
  ViewIs v t₀ s t ∨ (t = t₀ ∧ Committable tick ∧ s.history = (v.commit tick).history ∧
    s.policyPreviousAction13 = (v.commit tick).previous)

theorem commitRaised_of_view {tick : PendingTick D S} {v' : TickView D S}
    (hcommittable : Committable tick) (hhistory : v'.history = (v.commit tick).history)
    (hprevious : v'.previous = (v.commit tick).previous) (h : ViewIs v' t₀ s t) :
    CommitRaised v tick t₀ s t := by
  obtain ⟨hview, rfl⟩ := h
  refine .inr ⟨rfl, hcommittable, ?_, ?_⟩
  · rw [← hhistory, ← hview]
    rfl
  · rw [← hprevious, ← hview]
    rfl

theorem view_clearPending {v' : TickView D S} (h : ViewIs v' t₀ s t) :
    ViewIs { v' with pending := none } t₀ { s with pending := none } t := by
  refine ⟨?_, h.2⟩
  rw [← h.1]
  rfl

theorem wp_commitOccluded {tick : PendingTick D S} (hkind : tick.occludedClosureHandOnly = true)
    (h : ViewIs v t₀ s t) :
    wp (commitOccluded config env tick)
      (fun _ s' t' => ViewIs (v.commit tick) t₀ s' t' ∧ Committable tick)
      (fun _ => CommitRaised v tick t₀) s t := by
  obtain ⟨hview, rfl⟩ := h
  unfold commitOccluded
  rw [wp_bind, wp_check]
  refine ⟨fun _ => .inl ⟨hview, rfl⟩, fun hobservation => ?_⟩
  have hcommittable : Committable tick := by
    refine ⟨fun _ => by simpa using hobservation, fun hnot => ?_, fun hnot => ?_⟩
    · rw [hkind] at hnot
      cases hnot
    · rw [hkind] at hnot
      cases hnot
  rw [wp_bind, wp_check]
  refine ⟨fun _ => .inl ⟨hview, rfl⟩, fun _ => ?_⟩
  rw [wp_bind, wp_read]
  beta_reduce
  rw [wp_bind, wp_check]
  refine ⟨fun _ => .inl ⟨hview, rfl⟩, fun _ => ?_⟩
  rw [wp_bind, wp_update]
  have hcommit : v.commit tick = { v with
      previous := tick.command.executedPolicyAction13
      sequence := tick.command.sequence
      pending := none } := if_pos hkind
  have hinstalled : ViewIs { v with
      previous := tick.command.executedPolicyAction13
      sequence := tick.command.sequence } t
      { s with
        policyPreviousAction13 := tick.command.executedPolicyAction13
        lastCommittedSequence := tick.command.sequence } t := by
    refine ⟨?_, rfl⟩
    rw [← hview]
    rfl
  refine passive_viewIs.keeps_armArrivalGate _ _ _ |>.wp_bind hinstalled ?_ fun _ _ _ h =>
    commitRaised_of_view hcommittable (by rw [hcommit]) (by rw [hcommit]) h
  intro _ s₁ t₁ h₁
  rw [wp_update, hcommit]
  exact ⟨view_clearPending h₁, hcommittable⟩

theorem wp_commitFrozen {tick : PendingTick D S} (hkind : tick.occludedClosureHandOnly = false)
    (hfrozen : tick.frozenPostClosureWithoutPointcloud = true) (h : ViewIs v t₀ s t) :
    wp (commitFrozen config env tick)
      (fun _ s' t' => ViewIs (v.commit tick) t₀ s' t' ∧ Committable tick)
      (fun _ => CommitRaised v tick t₀) s t := by
  obtain ⟨hview, rfl⟩ := h
  unfold commitFrozen
  rw [wp_bind, wp_check]
  refine ⟨fun _ => .inl ⟨hview, rfl⟩, fun hobservation => ?_⟩
  have hcommittable : Committable tick := by
    refine ⟨fun hocc => ?_, fun _ _ => by simpa using hobservation, fun _ hnot => ?_⟩
    · rw [hkind] at hocc
      cases hocc
    · rw [hfrozen] at hnot
      cases hnot
  rw [wp_bind, wp_check]
  refine ⟨fun _ => .inl ⟨hview, rfl⟩, fun _ => ?_⟩
  rw [wp_bind, wp_update]
  have hcommit : v.commit tick = { v with
      previous := tick.command.executedPolicyAction13
      sequence := tick.command.sequence
      frameId := some tick.cameraFrameId
      pending := none } := by
    unfold TickView.commit
    rw [if_neg (by rw [hkind]; exact Bool.false_ne_true), if_pos hfrozen]
  have hinstalled : ViewIs { v with
      previous := tick.command.executedPolicyAction13
      sequence := tick.command.sequence
      frameId := some tick.cameraFrameId } t
      { s with
        policyPreviousAction13 := tick.command.executedPolicyAction13
        lastCommittedSequence := tick.command.sequence
        lastCommittedFrameId := some tick.cameraFrameId } t := by
    refine ⟨?_, rfl⟩
    rw [← hview]
    rfl
  refine passive_viewIs.keeps_armArrivalGate _ _ _ |>.wp_bind hinstalled ?_ fun _ _ _ h =>
    commitRaised_of_view hcommittable (by rw [hcommit]) (by rw [hcommit]) h
  intro _ s₁ t₁ h₁
  rw [wp_update, hcommit]
  exact ⟨view_clearPending h₁, hcommittable⟩

theorem wp_commitOrdinary {tick : PendingTick D S} (hkind : tick.occludedClosureHandOnly = false)
    (hfrozen : tick.frozenPostClosureWithoutPointcloud = false) (h : ViewIs v t₀ s t) :
    wp (commitOrdinary config env tick)
      (fun _ s' t' => ViewIs (v.commit tick) t₀ s' t' ∧ Committable tick)
      (fun _ => CommitRaised v tick t₀) s t := by
  obtain ⟨hview, rfl⟩ := h
  have hcommit : v.commit tick = { v.useSource tick.pointcloudSourceFrameId with
      history := tick.history
      previous := tick.command.executedPolicyAction13
      sequence := tick.command.sequence
      frameId := some tick.cameraFrameId
      pending := none } := by
    unfold TickView.commit
    rw [if_neg (by rw [hkind]; exact Bool.false_ne_true),
      if_neg (by rw [hfrozen]; exact Bool.false_ne_true)]
  unfold commitOrdinary
  cases hhistory : tick.history with
  | none =>
    simp only []
    rw [wp_fail]
    exact .inl ⟨hview, rfl⟩
  | some history =>
    cases hobservation : tick.observation with
    | none =>
      simp only []
      rw [wp_fail]
      exact .inl ⟨hview, rfl⟩
    | some observation =>
      have hcommittable : Committable tick := by
        refine ⟨fun hocc => ?_, fun _ hnot => ?_, fun _ _ => ?_⟩
        · rw [hkind] at hocc
          cases hocc
        · rw [hfrozen] at hnot
          cases hnot
        · rw [hobservation, hhistory]
          exact ⟨rfl, rfl⟩
      simp only []
      rw [wp_bind, wp_update]
      have hinstalled : ViewIs { v.useSource tick.pointcloudSourceFrameId with
          history := some history
          previous := tick.command.executedPolicyAction13
          frameId := some tick.cameraFrameId } t
          { s.useSource tick.pointcloudSourceFrameId with
            history := some history
            policyPreviousAction13 := tick.command.executedPolicyAction13
            lastCommittedFrameId := some tick.cameraFrameId } t := by
        refine ⟨?_, rfl⟩
        rw [← hview, ← view_useSource]
        rfl
      rw [wp_bind, wp_read]
      beta_reduce
      rw [wp_bind, wp_check]
      refine ⟨fun _ => ?_, fun _ => ?_⟩
      · exact commitRaised_of_view hcommittable (by rw [hcommit, hhistory])
          (by rw [hcommit]) hinstalled
      rw [wp_bind, wp_update]
      have hsequenced : ViewIs { v.useSource tick.pointcloudSourceFrameId with
          history := some history
          previous := tick.command.executedPolicyAction13
          sequence := tick.command.sequence
          frameId := some tick.cameraFrameId } t
          { s.useSource tick.pointcloudSourceFrameId with
            history := some history
            policyPreviousAction13 := tick.command.executedPolicyAction13
            lastCommittedFrameId := some tick.cameraFrameId
            lastCommittedSequence := tick.command.sequence } t := by
        refine ⟨?_, rfl⟩
        rw [← hview, ← view_useSource]
        rfl
      refine passive_viewIs.keeps_armArrivalGate _ _ _ |>.wp_bind hsequenced ?_
        fun _ _ _ h => commitRaised_of_view hcommittable (by rw [hcommit, hhistory])
          (by rw [hcommit]) h
      intro _ s₁ t₁ h₁
      rw [wp_bind, wp_update]
      have hdone : ViewIs (v.commit tick) t { s₁ with pending := none } t₁ := by
        rw [hcommit, hhistory]
        exact view_clearPending h₁
      refine wp_mono (wp_recordPolicyIoLocked (I := ViewIs (v.commit tick) t)
        (fun _ _ _ h => h) _ hdone) (fun _ _ _ h => ⟨h, hcommittable⟩) fun _ _ _ h => ?_
      exact commitRaised_of_view hcommittable rfl rfl h.1

theorem wp_commitPending {tick : PendingTick D S} (again : ExecutedActionCommit S)
    (h : ViewIs v t₀ s t) :
    wp (commitPending config env tick again)
      (fun _ s' t' => ViewIs (v.commit tick) t₀ s' t' ∧ Committable tick)
      (fun _ => CommitRaised v tick t₀) s t := by
  have hshaper : Keeps (ViewIs v t₀) (commitShaper tick.rh56HardwareProposal : TickM D S W Unit) := by
    unfold commitShaper
    cases tick.rh56HardwareProposal with
    | none => exact keeps_ret _
    | some proposal => exact (keeps_shaperCall _).bind fun _ => keeps_ret _
  have hpolicy : Keeps (ViewIs v t₀) (commitPolicy env tick.command.sequence) := by
    unfold commitPolicy
    cases env.commitReplayProposal with
    | none => exact keeps_ret _
    | some commitReplayProposal => exact keeps_policy_view _
  unfold commitPending
  refine (keeps_mapperCall _).wp_bind h ?_ fun _ _ _ h => .inl h
  intro _ s₁ t₁ h₁
  refine hshaper.wp_bind h₁ ?_ fun _ _ _ h => .inl h
  intro _ s₂ t₂ h₂
  refine hpolicy.wp_bind h₂ ?_ fun _ _ _ h => .inl h
  intro _ s₃ t₃ h₃
  unfold commitTick
  rw [wp_ite]
  refine ⟨fun hkind => wp_commitOccluded hkind h₃, fun hkind => ?_⟩
  rw [Bool.not_eq_true] at hkind
  rw [wp_ite]
  refine ⟨fun hfrozen => wp_commitFrozen hkind hfrozen h₃, fun hfrozen => ?_⟩
  rw [Bool.not_eq_true] at hfrozen
  exact wp_commitOrdinary hkind hfrozen h₃

/-- **`commit`** commits the pending tick or raises; if it raises after the tick was accepted, a
fault is latched. -/
theorem wp_commit (ident : ℕ)
    (ledger : Option (ExecutedActionCommit S × ExecutedActionCommit S)) :
    wp (commit config env ident ledger)
      (fun _ s' t' => s.faultReason = none ∧ ∃ tick, s.pending = some tick ∧ tick.ident = ident ∧
        ViewIs (s.view.commit tick) t s' t' ∧ Committable tick)
      (fun _ s' t' => ViewIs s.view t s' t' ∨ (s.faultReason = none ∧ s'.faultReason ≠ none ∧
        ∃ tick, s.pending = some tick ∧ CommitRaised s.view tick t s' t')) s t := by
  have hstart : ViewIs s.view t s t := ⟨rfl, rfl⟩
  have hlatch : ∀ (reason : String) (Q : Unit → PolicyTickSource D S W → List (TickEvent D S) → Prop)
      (E : PolicyTickSource D S W → List (TickEvent D S) → Prop),
      wp (latchAndRaise reason : TickM D S W Unit) Q
        (fun _ s' t' => ViewIs s.view t s' t' ∨ E s' t') s t := by
    intro reason Q E
    unfold latchAndRaise latchLocked
    rw [wp_bind, wp_update, wp_bind, wp_read]
    beta_reduce
    rw [wp_fail]
    exact .inl hstart
  unfold commit
  cases ledger with
  | none =>
    simp only []
    rw [wp_fail]
    exact .inl hstart
  | some ledger =>
    simp only []
    rw [wp_bind]
    refine wp_requireHealthyLocked (fun hhealthy => ?_) fun _ _ => .inl hstart
    rw [wp_bind, wp_read]
    beta_reduce
    cases hpending : s.pending with
    | none => exact hlatch _ _ _
    | some tick =>
      simp only []
      rw [wp_ite]
      refine ⟨fun _ => hlatch _ _ _, fun hident => ?_⟩
      rw [wp_ite]
      refine ⟨fun _ => hlatch _ _ _, fun _ => ?_⟩
      rw [wp_ite]
      refine ⟨fun _ => hlatch _ _ _, fun _ => ?_⟩
      refine wp_latching (E := fun s' t' => ViewIs s.view t s' t' ∨ (s.faultReason = none ∧
        s'.faultReason ≠ none ∧ ∃ tick', some tick = some tick' ∧
          CommitRaised s.view tick' t s' t'))
        (wp_mono (wp_commitPending ledger.2 hstart) ?_ ?_)
      · intro _ s₁ t₁ h₁
        exact ⟨hhealthy, tick, rfl, not_not.mp hident, h₁⟩
      · intro _ s₁ t₁ h₁ reason
        exact .inr ⟨hhealthy, Option.some_ne_none _, tick, rfl, h₁⟩

/-! ## The other methods -/

theorem wp_feedback (sequence : ℤ) (feedback : env.Feedback) :
    wp (commitRh56FeedbackAfterDualAck env sequence feedback) (fun _ => ViewIs s.view t)
      (fun _ => ViewIs s.view t) s t := by
  have hstart : ViewIs s.view t s t := ⟨rfl, rfl⟩
  have hpassive : Passive env (ViewIs s.view t) := passive_viewIs
  unfold commitRh56FeedbackAfterDualAck
  rw [wp_bind]
  refine wp_requireHealthyLocked (fun _ => ?_) fun _ _ => hstart
  rw [wp_bind, wp_read]
  beta_reduce
  rw [wp_ite]
  refine ⟨fun _ => hpassive.keeps_latchAndRaise _ s t hstart, fun _ => ?_⟩
  rw [wp_ite]
  refine ⟨fun _ => hpassive.keeps_latchAndRaise _ s t hstart, fun _ => ?_⟩
  cases env.commitRh56FeedbackAfterDualAck with
  | none =>
    simp only []
    rw [wp_ret]
    exact hstart
  | some observer =>
    exact wp_latching (wp_mono (keeps_policy_view _ s t hstart) (fun _ _ _ h => h)
      fun _ _ _ h _ => h)

theorem wp_checkFrankaArrivalGate (env : TickWorld D S W) (measured : Vec 7 S) (now : D) :
    wp (checkFrankaArrivalGate config measured now) (fun _ => ViewIs s.view t)
      (fun _ => ViewIs s.view t) s t := by
  have hstart : ViewIs s.view t s t := ⟨rfl, rfl⟩
  unfold checkFrankaArrivalGate
  rw [wp_bind]
  refine wp_requireHealthyLocked (fun _ => ?_) fun _ _ => hstart
  have hpassive : Passive env (ViewIs s.view t) := passive_viewIs
  exact hpassive.keeps_checkFrankaArrivalGateLocked measured now s t hstart

theorem keeps_lookForWarmup (hardDeadline : D) (newerThan : Option ℕ) :
    Keeps (Refused v t₀) (lookForWarmup config env hardDeadline newerThan) := by
  have hpassive : Passive env (Refused v t₀) := passive_refused
  refine hpassive.keeps_nowMonotonic.bind fun now => ?_
  refine Keeps.bind (fun s t h => ?_) fun observation => ?_
  · refine wp_mono (wp_snapshot (I := Refused v t) (fun _ _ _ h => h) 1 now hardDeadline
      ⟨h.1, .refl t⟩) ?_ ?_
    · rintro o s₁ t₁ ⟨h₁, rfl⟩
      exact ⟨h₁.1, h.2.snoc trivial⟩
    · rintro e s₁ t₁ ⟨h₁, rfl⟩
      exact ⟨h₁.1, h.2⟩
  refine hpassive.keeps_nowMonotonic.bind fun checked => ?_
  refine Keeps.ite (keeps_ret _) (Keeps.bind ?_ fun _ => keeps_ret _)
  refine Keeps.ite (keeps_ret _) ?_
  refine (hpassive.keeps_pointcloudAge observation).bind fun cloudAge => ?_
  refine Keeps.ite (keeps_ret _) ?_
  exact (hpassive.keeps_frankaStateAge observation checked).bind fun _ => keeps_ret _

theorem keeps_withoutHolds {α : Type} {I : PolicyTickSource D S W → List (TickEvent D S) → Prop}
    {m : TickM D S W (Option α)} (hm : Keeps I m) : Keeps I (withoutHolds m) := by
  refine hm.attempt.bind fun r => ?_
  cases r with
  | ok a => exact keeps_ret _
  | error e =>
    cases e with
    | hold h => exact keeps_ret _
    | raised error => exact keeps_fail _

theorem keeps_warmupLoop (hardDeadline deadline : D) (newerThan : Option ℕ) (rounds : ℕ) :
    Keeps (Refused v t₀) (warmupLoop config env hardDeadline deadline newerThan rounds) := by
  have hpassive : Passive env (Refused v t₀) := passive_refused
  induction rounds with
  | zero => exact keeps_ret _
  | succ rounds ih =>
    refine hpassive.keeps_nowMonotonic.bind fun now => ?_
    refine Keeps.ite ?_ (keeps_ret _)
    refine (keeps_withoutHolds (keeps_lookForWarmup hardDeadline newerThan)).bind fun found => ?_
    cases found with
    | some observation => exact keeps_ret _
    | none =>
      refine Keeps.bind ?_ fun _ => ih
      refine Keeps.bind (keeps_update fun _ _ h => h) fun _ => ?_
      exact keeps_environment fun _ _ h => h

theorem keeps_discardedInference (o : V94PolicyObservation D S) :
    Keeps (Refused v t₀) (discardedInference config env o) := by
  have hpassive : Passive env (Refused v t₀) := passive_refused
  refine keeps_read.bind fun s => ?_
  refine (keeps_ofExcept _).bind fun candidate => ?_
  refine hpassive.keeps_nowMonotonic.bind fun started => ?_
  refine Keeps.bind (keeps_environment fun _ _ h => h) fun output => ?_
  refine (keeps_ofExcept _).bind fun raw => ?_
  refine (keeps_check _ _).bind fun _ => ?_
  exact hpassive.keeps_nowMonotonic.bind fun finished => keeps_update fun _ _ h => h

theorem keeps_warmup (rounds : ℕ) (deadline maximum : D) :
    Keeps (Refused v t₀) (warmupBeforeFirstAction config env rounds deadline maximum) := by
  have hpassive : Passive env (Refused v t₀) := passive_refused
  refine (keeps_ofExcept _).bind fun hardDeadline => ?_
  refine (keeps_ofExcept _).bind fun warmupLimit => ?_
  refine Keeps.bind (fun s t h => wp_requireHealthyLocked (fun _ => h) fun _ _ => h) fun _ => ?_
  refine keeps_read.bind fun s => ?_
  refine (keeps_check _ _).bind fun _ => (keeps_check _ _).bind fun _ => ?_
  refine Keeps.ite (keeps_update fun _ _ h => h) ?_
  refine hpassive.keeps_nowMonotonic.bind fun now => ?_
  refine (keeps_warmupLoop _ _ _ _).bind fun warmed => ?_
  cases warmed with
  | none => exact keeps_fail _
  | some observation =>
    refine (keeps_discardedInference observation).bind fun _ => ?_
    refine (keeps_warmupLoop _ _ _ _).bind fun ready => ?_
    cases ready with
    | none => exact keeps_fail _
    | some _ => exact keeps_update fun _ _ h => h

theorem wp_abort (ident : ℕ) (reason : String) :
    wp (abort ident reason : TickM D S W Unit)
      (fun _ s' t' => ViewIs s.view t s' t' ∧ s'.faultReason ≠ none) (fun _ _ _ => False) s t := by
  unfold abort latchLocked
  rw [wp_bind, wp_read]
  beta_reduce
  simp only []
  rw [wp_ite]
  refine ⟨fun _ => ?_, fun _ => ?_⟩
  · rw [wp_update]
    exact ⟨⟨rfl, rfl⟩, Option.some_ne_none _⟩
  · rw [wp_update]
    exact ⟨⟨rfl, rfl⟩, Option.some_ne_none _⟩

/-! ## A faulted source -/

/-- **A faulted source refuses every call** and stays faulted; `abort` may latch once more. -/
theorem wp_callOf_faulted (hfault : s.faultReason ≠ none) (call : TickCall env) :
    wp (callOf config env call) (fun _ s' t' => ViewIs s.view t s' t' ∧ s'.faultReason ≠ none)
      (fun _ s' t' => ViewIs s.view t s' t' ∧ s'.faultReason ≠ none) s t := by
  have hrefuse : ViewIs s.view t s t ∧ s.faultReason ≠ none := ⟨⟨rfl, rfl⟩, hfault⟩
  cases call with
  | warmup rounds hardDeadline maximum =>
    unfold callOf warmupBeforeFirstAction
    rw [wp_bind, wp_ofExcept]
    refine ⟨fun _ _ => ?_, fun _ _ => hrefuse⟩
    rw [wp_bind, wp_ofExcept]
    refine ⟨fun _ _ => ?_, fun _ _ => hrefuse⟩
    rw [wp_bind]
    exact wp_requireHealthyLocked (fun h => absurd h hfault) fun _ _ => hrefuse
  | prime index now hardDeadline =>
    unfold callOf
    rw [wp_bind]
    unfold primeNonActuatedStartupTick
    rw [wp_bind, wp_ofExcept]
    refine ⟨fun _ _ => ?_, fun _ _ => hrefuse⟩
    rw [wp_bind, wp_ofExcept]
    refine ⟨fun _ _ => ?_, fun _ _ => hrefuse⟩
    rw [wp_bind, wp_ofExcept]
    refine ⟨fun _ _ => ?_, fun _ _ => hrefuse⟩
    rw [wp_bind]
    exact wp_requireHealthyLocked (fun h => absurd h hfault) fun _ _ => hrefuse
  | prepare sequence previous now hardDeadline =>
    unfold callOf
    rw [wp_bind]
    unfold prepare
    rw [wp_bind, wp_ofExcept]
    refine ⟨fun _ _ => ?_, fun _ _ => hrefuse⟩
    rw [wp_bind, wp_ofExcept]
    refine ⟨fun _ _ => ?_, fun _ _ => hrefuse⟩
    rw [wp_bind, wp_ofExcept]
    refine ⟨fun _ _ => ?_, fun _ _ => hrefuse⟩
    rw [wp_bind, wp_ofExcept]
    refine ⟨fun _ _ => ?_, fun _ _ => hrefuse⟩
    rw [wp_bind]
    exact wp_requireHealthyLocked (fun h => absurd h hfault) fun _ _ => hrefuse
  | commit ident ledger =>
    unfold callOf
    rw [wp_bind]
    unfold commit
    cases ledger with
    | none =>
      simp only []
      rw [wp_fail]
      exact hrefuse
    | some ledger =>
      simp only []
      rw [wp_bind]
      exact wp_requireHealthyLocked (fun h => absurd h hfault) fun _ _ => hrefuse
  | feedback sequence feedback =>
    unfold callOf commitRh56FeedbackAfterDualAck
    rw [wp_bind]
    exact wp_requireHealthyLocked (fun h => absurd h hfault) fun _ _ => hrefuse
  | abort ident reason =>
    unfold callOf
    exact wp_mono (wp_abort ident reason) (fun _ _ _ h => h) fun _ _ _ h => h.elim
  | checkArrival measured now =>
    unfold callOf checkFrankaArrivalGate
    rw [wp_bind, wp_bind]
    exact wp_requireHealthyLocked (fun h => absurd h hfault) fun _ _ => hrefuse

end FrankaDeploy.TickSource
