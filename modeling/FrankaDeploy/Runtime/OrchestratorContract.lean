import FrankaDeploy.Runtime.Orchestrator

/-! # How a bounded run ends

After its admission check the orchestrator's run ends in one of two ways: it returns, with both
devices verified to have stopped and the gate disarmed, or it raises with the gate faulted. The
phases of `run` are followed in their order; a failure that a phase records has latched the gate,
and a latched gate stays latched whatever reaches it later. -/

namespace FrankaDeploy.Runtime

open FrankaDeploy.Foundation FrankaDeploy.ClosedLoop
open FrankaDeploy.Foundation.Program
open scoped FloatArith

variable {D T : Type} [FloatArith D] [DecidableEq T]

/-! ## Rules for the calls -/

section Rules

variable {α : Type} {Q : α → OrchestratorState D T → List OrchestratorEvent → Prop}
  {E : PyException → OrchestratorState D T → List OrchestratorEvent → Prop}

@[simp] theorem wp_call (reply : Reply D T α) :
    wp (call reply) Q E = fun s t =>
      let s' := { s with safetyGate := (gateMachine D T).run s.safetyGate reply.gateCalls }
      (∀ a, reply.outcome = .ok a → Q a s' t) ∧ ∀ e, reply.outcome = .error e → E e s' t := by
  funext s t
  simp [call]

theorem wp_gate {Q : Unit → OrchestratorState D T → List OrchestratorEvent → Prop} (caller : T)
    (request : GateCall D) :
    wp (gate caller request) Q E = fun s t =>
      let s' := { s with safetyGate := (s.safetyGate.perform caller request).1 }
      ((s.safetyGate.perform caller request).2 = .ok () → Q () s' t) ∧
        ∀ e, (s.safetyGate.perform caller request).2 = .error e →
          E (e.raised "ClosedLoopProtocolError") s' t := by
  funext s t
  unfold wp gate
  rcases s.safetyGate.perform caller request with ⟨G, result⟩
  cases result with
  | error e => simp [Except.mapError]
  | ok u => simp [Except.mapError]

@[simp] theorem wp_gate_latchFault {Q : Unit → OrchestratorState D T → List OrchestratorEvent → Prop}
    (caller : T) (reason : String) :
    wp (gate caller (.latchFault reason)) Q E =
      fun s t => Q () { s with safetyGate := s.safetyGate.latchLocked reason } t := by
  rw [wp_gate]
  funext s t
  simp [ClosedLoopSafetyGate.perform, ClosedLoopSafetyGate.latchFault]

end Rules

theorem gate_stays_latched {G : ClosedLoopSafetyGate D T} (h : G.state = .faultLatched)
    (calls : List (T × GateCall D)) :
    ((gateMachine D T).run G calls).state = .faultLatched :=
  Machine.run_induction (gateMachine D T) (P := fun G => G.state = .faultLatched) h
    (fun G call hG => ((G.perform_step call.1 call.2).faulted_of_faulted hG).1) calls

/-! ## The `try` -/

def GateFree (I : OrchestratorState D T → List OrchestratorEvent → Prop) : Prop :=
  ∀ s t G, I s t → I { s with safetyGate := G } t

section Keeps

variable {I : OrchestratorState D T → List OrchestratorEvent → Prop}

theorem GateFree.call {α : Type} (hI : GateFree I) (reply : Reply D T α) : Keeps I (call reply) :=
  (keeps_update fun s t h => hI s t _ h).bind fun _ => keeps_ofExcept _

theorem GateFree.gate (hI : GateFree I) (caller : T) (request : GateCall D) :
    Keeps I (gate caller request) := by
  intro s t h
  rw [wp_gate]
  exact ⟨fun _ => hI s t _ h, fun _ _ => hI s t _ h⟩

theorem GateFree.requireArtifacts (hI : GateFree I) (caller : T) (sha256 : String → Reply D T String)
    (bindings : List ArtifactBinding) : Keeps I (requireArtifacts caller sha256 bindings) := by
  induction bindings with
  | nil => exact keeps_ret ()
  | cons binding bindings ih =>
    refine (hI.call _).bind fun actual => Keeps.ite ?_ ih
    exact (hI.gate _ _).bind fun _ => keeps_fail _

theorem GateFree.requireActive (hI : GateFree I) (caller : T) (A : BoundedC2Admission D) (now : D)
    (sha256 : String → Reply D T String) : Keeps I (requireActive caller A now sha256) := by
  have htoken : ∀ now, Keeps I
      (A.frankaPreflightToken.requireActive A.runId .c2V94Policy A.frankaEnvelope now) := by
    intro now
    refine (keeps_ofExcept _).bind fun _ => (keeps_check _ _).bind fun _ => ?_
    refine (keeps_check _ _).bind fun _ => (keeps_check _ _).bind fun _ => ?_
    exact (keeps_check _ _).bind fun _ => keeps_check _ _
  refine (keeps_ofExcept _).bind fun now => (keeps_check _ _).bind fun _ => ?_
  refine (keeps_check _ _).bind fun _ => (htoken now).bind fun _ => ?_
  refine keeps_read.bind fun _ => (keeps_check _ _).bind fun _ => ?_
  refine keeps_read.bind fun _ => (keeps_check _ _).bind fun _ => ?_
  exact (hI.gate _ _).bind fun _ => hI.requireArtifacts _ _ _

theorem GateFree.requireRuntimeSafetyContract (hI : GateFree I) (runtime : RuntimeObject D T)
    (names : List String) : Keeps I (requireRuntimeSafetyContract runtime names) := by
  induction names with
  | nil => exact keeps_ret ()
  | cons name names ih =>
    exact (hI.call _).bind fun _ => (keeps_check _ _).bind fun _ => ih

end Keeps

/-- **The bookkeeping of the run before its `finally` clause**: the orchestrator is used up, and an
object that was created is held in the local variable. -/
structure BeforeStop (s : OrchestratorState D T) (t : List OrchestratorEvent) : Prop where
  used : s.used = true
  held : .runtimeCreated ∈ t → s.runtime.isSome = true

structure HoldsRuntime (s : OrchestratorState D T) : Prop where
  used : s.used = true
  held : s.runtime.isSome = true

omit [DecidableEq T] in
theorem gateFree_holdsRuntime : GateFree (D := D) (T := T) fun s _ => HoldsRuntime s :=
  fun _ _ _ h => ⟨h.used, h.held⟩

theorem keeps_runtimeChecked (caller : T) (A : BoundedC2Admission D) (env : OrchestratorEnv D T)
    (runtime : RuntimeObject D T) :
    Keeps (fun s _ => HoldsRuntime s) (runtimeChecked caller A env runtime) := by
  have hfree := gateFree_holdsRuntime (D := D) (T := T)
  refine (keeps_emit fun _ _ h => h).bind fun _ => (hfree.call _).bind fun _ => ?_
  refine (keeps_check _ _).bind fun _ => ?_
  refine (keeps_update fun _ _ h => ⟨h.used, h.held⟩).bind fun _ => ?_
  refine (hfree.requireRuntimeSafetyContract _ _).bind fun _ => (hfree.call _).bind fun _ => ?_
  refine (keeps_ofExcept _).bind fun _ => (hfree.requireActive _ _ _ _).bind fun _ => ?_
  refine (Keeps.ite (keeps_update fun _ _ h => ⟨h.used, h.held⟩) (keeps_ret ())).bind fun _ => ?_
  refine (keeps_update fun _ _ h => ⟨h.used, h.held⟩).bind fun _ => ?_
  refine (keeps_emit fun _ _ h => h).bind fun _ => (hfree.call _).bind fun value => ?_
  cases value with
  | none => exact keeps_fail _
  | some mapping =>
    exact (keeps_ofExcept _).bind fun _ => (keeps_check _ _).bind fun _ => keeps_ret _

theorem runtimePhase_spec (caller : T) (A : BoundedC2Admission D) (env : OrchestratorEnv D T)
    {s : OrchestratorState D T} {t : List OrchestratorEvent} (h : BeforeStop s t)
    (hnone : .runtimeCreated ∉ t) :
    wp (runtimePhase caller A env) (fun _ s _ => HoldsRuntime s) (fun _ => BeforeStop) s t := by
  unfold runtimePhase
  simp only [wp_bind, wp_call, wp_update]
  refine ⟨fun created _ => ?_, fun _ _ => ⟨h.used, h.held⟩⟩
  cases created with
  | none =>
    simp only [wp_fail]
    exact ⟨h.used, fun hmem => absurd hmem hnone⟩
  | some runtime =>
    exact wp_mono (keeps_runtimeChecked caller A env runtime _ _ ⟨h.used, rfl⟩)
      (fun _ _ _ h => h) fun _ _ _ h => ⟨h.used, fun _ => h.held⟩

/-! ## The handlers -/

/-- **A recorded failure has latched the gate.** -/
def FailureLatched (failure : Option PyException) (s : OrchestratorState D T) : Prop :=
  failure.isSome = true → s.safetyGate.state = .faultLatched

omit [DecidableEq T] in
theorem failureLatched_none (s : OrchestratorState D T) : FailureLatched none s :=
  fun h => nomatch h

theorem FailureLatched.run {failure : Option PyException} {s : OrchestratorState D T}
    (h : FailureLatched failure s) (calls : List (T × GateCall D)) :
    FailureLatched failure
      { s with safetyGate := (gateMachine D T).run s.safetyGate calls } :=
  fun hsome => gate_stays_latched (h hsome) calls

theorem handleFailure_spec (caller : T) (outcome : Except PyException (RunMapping D))
    {s : OrchestratorState D T} {t : List OrchestratorEvent} (h : BeforeStop s t)
    (hok : ∀ result, outcome = .ok result → s.runtime.isSome = true) :
    wp (handleFailure caller outcome)
      (fun failure s t => BeforeStop s t ∧ FailureLatched failure s ∧
        (failure = none → s.runtime.isSome = true ∧ ∃ result, outcome = .ok result))
      (fun _ _ _ => False) s t := by
  cases outcome with
  | ok result =>
    simp only [handleFailure, wp_ret]
    exact ⟨h, failureLatched_none s, fun _ => ⟨hok result rfl, result, rfl⟩⟩
  | error exc =>
    simp only [handleFailure, wp_bind, wp_gate_latchFault, wp_pure]
    exact ⟨⟨h.used, h.held⟩, fun _ => rfl, fun hnone => nomatch hnone⟩

theorem requestRuntimeStop_spec (caller : T) (runtime : RuntimeObject D T)
    (failure : Option PyException) {s : OrchestratorState D T} {t : List OrchestratorEvent}
    (hused : s.used = true) (h : FailureLatched failure s) :
    wp (requestRuntimeStop caller runtime failure)
      (fun failure' s' _ => s'.used = true ∧ FailureLatched failure' s' ∧
        (failure' = none → failure = none)) (fun _ _ _ => False) s t := by
  simp only [requestRuntimeStop, wp_bind, wp_emit, wp_attempt, wp_call]
  refine ⟨fun _ _ => ?_, fun exc _ => ?_⟩
  · simp only [wp_pure]
    exact ⟨hused, h.run _, fun hnone => hnone⟩
  · cases failure with
    | none =>
      simp only [wp_bind, wp_gate_latchFault, wp_pure]
      exact ⟨hused, fun _ => rfl, fun hnone => nomatch hnone⟩
    | some first =>
      simp only [wp_pure]
      exact ⟨hused, h.run _, fun hnone => hnone⟩

/-- **A proof of the trace that both devices stopped.** -/
def VerifiedStop (proof : BoundedC2StopProof) (t : List OrchestratorEvent) : Prop :=
  .stopProof proof ∈ t ∧ proof.frankaStopVerified = true ∧ proof.rh56DisabledVerified = true

theorem verifiedStop_spec (runtime : RuntimeObject D T) {failure : Option PyException}
    {s : OrchestratorState D T} {t : List OrchestratorEvent} (hused : s.used = true)
    (h : FailureLatched failure s) :
    wp (verifiedStop runtime)
      (fun proof s' t' => s'.used = true ∧ FailureLatched failure s' ∧ VerifiedStop proof t' ∧
        .stopAndVerifyCalled ∈ t')
      (fun _ s' t' => s'.used = true ∧ FailureLatched failure s' ∧ .stopAndVerifyCalled ∈ t')
      s t := by
  simp only [verifiedStop, wp_bind, wp_emit, wp_call]
  refine ⟨fun stopped _ => ?_, fun exc _ => ⟨hused, h.run _, by simp⟩⟩
  cases stopped with
  | none =>
    simp only [wp_fail]
    exact ⟨hused, h.run _, by simp⟩
  | some proof =>
    simp only [wp_bind, wp_emit, wp_check, wp_pure]
    refine ⟨fun _ => ⟨hused, h.run _, by simp⟩, fun hverified => ⟨hused, h.run _, ?_, by simp⟩⟩
    obtain ⟨hfranka, hhand⟩ := not_not.1 hverified
    exact ⟨by simp, hfranka, hhand⟩

theorem verifyRuntimeStop_spec (caller : T) (runtime : RuntimeObject D T)
    (failure : Option PyException) {s : OrchestratorState D T} {t : List OrchestratorEvent}
    (hused : s.used = true) (h : FailureLatched failure s) :
    wp (verifyRuntimeStop caller runtime failure)
      (fun out s' t' => s'.used = true ∧ FailureLatched out.1 s' ∧
        (out.1 = none → failure = none ∧ ∃ proof, out.2 = some proof ∧ VerifiedStop proof t') ∧
        .stopAndVerifyCalled ∈ t') (fun _ _ _ => False) s t := by
  simp only [verifyRuntimeStop, wp_bind, wp_attempt]
  refine wp_mono (verifiedStop_spec runtime hused h) ?_ ?_
  · rintro proof s' t' ⟨hused', hlatched, hproof, hcalled⟩
    simp only [wp_pure]
    exact ⟨hused', hlatched, fun hnone => ⟨hnone, proof, rfl, hproof⟩, hcalled⟩
  · rintro exc s' t' ⟨hused', -, hcalled⟩
    simp only [wp_gate_latchFault, wp_pure]
    exact ⟨hused', fun _ => rfl, (fun hnone => nomatch hnone), hcalled⟩

/-- **The `finally` clause.** An object that was created is asked to stop and verified; a run that is
still without a failure has a proof that both devices stopped. -/
theorem stopPhase_spec (caller : T) (failure : Option PyException) {s : OrchestratorState D T}
    {t : List OrchestratorEvent} (h : BeforeStop s t) (hlatched : FailureLatched failure s)
    (hruntime : failure = none → s.runtime.isSome = true) :
    wp (stopPhase caller failure)
      (fun out s' t' => s'.used = true ∧ FailureLatched out.1 s' ∧
        (out.1 = none → failure = none ∧ ∃ proof, out.2 = some proof ∧ VerifiedStop proof t') ∧
        (.runtimeCreated ∈ t' → .stopAndVerifyCalled ∈ t')) (fun _ _ _ => False) s t := by
  simp only [stopPhase, wp_bind, wp_update, wp_read]
  cases hobject : s.runtime with
  | none =>
    simp only [wp_pure]
    refine ⟨h.used, hlatched, fun hnone => ?_, fun hmem => ?_⟩
    · have := hruntime hnone
      rw [hobject] at this
      cases this
    · have := h.held hmem
      rw [hobject] at this
      cases this
  | some runtime =>
    simp only [wp_bind]
    refine wp_mono (requestRuntimeStop_spec caller runtime failure h.used hlatched) ?_
      fun _ _ _ h => h
    rintro failure' s' t' ⟨hused', hlatched', hfirst⟩
    refine wp_mono (verifyRuntimeStop_spec caller runtime failure' hused' hlatched') ?_
      fun _ _ _ h => h
    rintro out s'' t'' ⟨hused'', hlatched'', hproof, hcalled⟩
    refine ⟨hused'', hlatched'', fun hnone => ?_, fun _ => hcalled⟩
    obtain ⟨hnone', hverified⟩ := hproof hnone
    exact ⟨hfirst hnone', hverified⟩

theorem disarmPhase_spec (caller : T) (A : BoundedC2Admission D) {failure : Option PyException}
    {proof : Option BoundedC2StopProof} {s : OrchestratorState D T} {t : List OrchestratorEvent}
    (hlatched : FailureLatched failure s) (hproof : failure = none → proof.isSome = true) :
    wp (disarmPhase caller A failure proof)
      (fun failure' s' t' => s'.used = s.used ∧ t' = t ∧ FailureLatched failure' s' ∧
        (failure' = none → failure = none ∧ s'.safetyGate.state = .disarmed))
      (fun _ _ _ => False) s t := by
  cases failure with
  | some exc =>
    simp only [disarmPhase, wp_ret]
    exact ⟨trivial, trivial, hlatched, fun hnone => nomatch hnone⟩
  | none =>
    cases proof with
    | none => exact absurd (hproof rfl) (by simp)
    | some proof =>
      simp only [disarmPhase, wp_bind, wp_attempt]
      rw [wp_gate]
      refine ⟨fun hok => ?_, fun e _ => ?_⟩
      · simp only [wp_pure]
        exact ⟨trivial, trivial, failureLatched_none _,
          fun _ => ⟨trivial, ClosedLoopSafetyGate.disarmed_of_ok hok⟩⟩
      · simp only [wp_gate_latchFault, wp_pure]
        exact ⟨trivial, trivial, fun _ => rfl, fun hnone => nomatch hnone⟩

/-! ## The run -/

/-- **How a run ends**, from its outcome, the state it leaves and its events. -/
structure TerminalContract (outcome : Except PyException (RunMapping D))
    (s : OrchestratorState D T) (t : List OrchestratorEvent) : Prop where
  /-- After the initial admission check the run returns with both stops verified and the gate
  disarmed, or it raises with everything latched. -/
  terminal : .admitted ∈ t →
    (∃ result proof, outcome = .ok result ∧ s.state = .stoppedVerified ∧
        s.safetyGate.state = .disarmed ∧ VerifiedStop proof t) ∨
      (∃ exc, outcome = .error exc ∧ s.state = .faultLatched ∧
        s.safetyGate.state = .faultLatched)
  stopped : .runtimeCreated ∈ t → .stopAndVerifyCalled ∈ t
  used : s.used = true

omit [DecidableEq T] in
theorem terminalContract_of_nil {outcome : Except PyException (RunMapping D)}
    {s : OrchestratorState D T} (h : s.used = true) : TerminalContract outcome s [] :=
  ⟨(fun hmem => nomatch hmem), (fun hmem => nomatch hmem), h⟩

omit [DecidableEq T] in
theorem conclude_spec {outcome : Except PyException (RunMapping D)} {failure : Option PyException}
    {s : OrchestratorState D T} {t : List OrchestratorEvent} (hused : s.used = true)
    (hlatched : FailureLatched failure s)
    (hclean : failure = none → (∃ result, outcome = .ok result) ∧
      s.safetyGate.state = .disarmed ∧ ∃ proof, VerifiedStop proof t)
    (hstopped : .runtimeCreated ∈ t → .stopAndVerifyCalled ∈ t) :
    wp (conclude (D := D) (T := T) outcome failure) (fun result => TerminalContract (.ok result))
      (fun exc => TerminalContract (.error exc)) s t := by
  cases failure with
  | none =>
    obtain ⟨⟨result, rfl⟩, hdisarmed, proof, hproof⟩ := hclean rfl
    simp only [conclude, wp_bind, wp_update, wp_pure]
    exact ⟨fun _ => .inl ⟨result, proof, rfl, rfl, hdisarmed, hproof⟩, hstopped, hused⟩
  | some exc =>
    simp only [conclude, wp_bind, wp_update, wp_ite, wp_fail]
    have hend : ∀ exc', TerminalContract (.error exc')
        { s with state := BoundedC2State.faultLatched } t :=
      fun exc' => ⟨fun _ => .inr ⟨exc', rfl, rfl, hlatched rfl⟩, hstopped, hused⟩
    exact ⟨fun _ => hend _, fun _ => hend _⟩

theorem afterTry_spec (caller : T) (A : BoundedC2Admission D)
    {outcome : Except PyException (RunMapping D)} {s : OrchestratorState D T}
    {t : List OrchestratorEvent} (hbefore : BeforeStop s t)
    (hok : ∀ result, outcome = .ok result → s.runtime.isSome = true) :
    wp (afterTry caller A outcome) (fun result => TerminalContract (.ok result))
      (fun exc => TerminalContract (.error exc)) s t := by
  simp only [afterTry, wp_bind]
  refine wp_mono (handleFailure_spec caller outcome hbefore hok) ?_ fun _ _ _ h => h.elim
  rintro failure s t ⟨hbefore, hlatched, hresult⟩
  refine wp_mono (stopPhase_spec caller failure hbefore hlatched fun h => (hresult h).1) ?_
    fun _ _ _ h => h.elim
  rintro ⟨failure', proof⟩ s t ⟨hused, hlatched, hproof, hstopped⟩
  have hsome : failure' = none → proof.isSome = true := by
    intro hnone
    obtain ⟨-, proof', hproof', -⟩ := hproof hnone
    exact Option.isSome_of_eq_some hproof'
  refine wp_mono (disarmPhase_spec caller A hlatched hsome) ?_ fun _ _ _ h => h.elim
  rintro failure'' s' t' ⟨hused', rfl, hlatched', hdisarmed⟩
  refine conclude_spec (hused'.trans hused) hlatched' ?_ hstopped
  intro hnone
  obtain ⟨hnone', hstate⟩ := hdisarmed hnone
  obtain ⟨hnone'', proof', -, hverified⟩ := hproof hnone'
  exact ⟨(hresult hnone'').2, hstate, proof', hverified⟩

theorem run_spec (caller : T) (A : BoundedC2Admission D) (env : OrchestratorEnv D T)
    (s : OrchestratorState D T) :
    wp (run caller A env) (fun result => TerminalContract (.ok result))
      (fun exc => TerminalContract (.error exc)) s [] := by
  simp only [run, wp_bind, wp_read, wp_check, wp_update]
  refine ⟨fun hused => terminalContract_of_nil hused, fun _ => ?_⟩
  -- Up to the end of the admission check nothing is emitted.
  let Quiet (s : OrchestratorState D T) (t : List OrchestratorEvent) : Prop :=
    s.used = true ∧ t = []
  have hfree : GateFree Quiet := fun _ _ _ h => h
  have hquiet : ∀ {outcome : Except PyException (RunMapping D)} {s t}, Quiet s t →
      TerminalContract outcome s t := by
    rintro outcome s t ⟨hused, rfl⟩
    exact terminalContract_of_nil hused
  refine wp_mono (hfree.call env.admissionClock _ _ ⟨rfl, rfl⟩) ?_ fun _ _ _ h => hquiet h
  intro reading s₁ t₁ h₁
  refine wp_mono (keeps_ofExcept _ _ _ h₁) ?_ fun _ _ _ h => hquiet h
  intro now s₂ t₂ h₂
  refine wp_mono (hfree.requireActive caller A now env.admissionHash _ _ h₂) ?_
    fun _ _ _ h => hquiet h
  rintro _ s₃ t₃ ⟨hused, rfl⟩
  simp only [wp_emit, wp_attempt, List.nil_append]
  refine wp_mono (runtimePhase_spec caller A env ⟨hused, by simp⟩ (by simp)) ?_ ?_
  · intro result s t h
    exact afterTry_spec caller A ⟨h.used, fun _ => h.held⟩ fun _ _ => h.held
  · intro exc s t h
    exact afterTry_spec caller A h fun _ hok => by cases hok

theorem run_of_used (caller : T) (A : BoundedC2Admission D) (env : OrchestratorEnv D T)
    {s : OrchestratorState D T} (h : s.used = true) :
    run caller A env s = (.error (runError "bounded C2 orchestrator is single-use"), s, []) := by
  have hcheck : run caller A env s =
      Program.andThen (check (s.used = true)
        (runError "bounded C2 orchestrator is single-use")) _ s := rfl
  rw [hcheck, h]
  rfl

/-- **The orchestrator's terminal states.** Whatever the runtime, the clock and the files do and
whatever reaches the gate meanwhile, a run that was admitted ends verified and disarmed or with
everything latched, a created runtime is always told to stop, and the object runs only once. -/
theorem orchestrator_terminal_state (caller : T) (A : BoundedC2Admission D)
    (env : OrchestratorEnv D T) (s : OrchestratorState D T) :
    let out := run caller A env s
    TerminalContract out.1 out.2.1 out.2.2 ∧
      ∀ caller' env', run caller' A env' out.2.1 =
        (.error (runError "bounded C2 orchestrator is single-use"), out.2.1, []) := by
  intro out
  have hend : TerminalContract out.1 out.2.1 ([] ++ out.2.2) :=
    wp_result (P := TerminalContract) (run_spec caller A env s)
  exact ⟨hend, fun caller' env' => run_of_used caller' A env' hend.used⟩

end FrankaDeploy.Runtime
