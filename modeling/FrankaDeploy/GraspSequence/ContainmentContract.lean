import FrankaDeploy.Foundation.Ieee754
import FrankaDeploy.GraspSequence.Stages

/-! # The containment contract

The cleanups under the watch, the public calls with their refusals, and the contract: the watch
accepts every run of a sequence. -/

set_option linter.unusedSectionVars false

namespace FrankaDeploy.GraspSequence

open FrankaDeploy.Foundation FrankaDeploy.ClosedLoop
open FrankaDeploy.Foundation.Program
open scoped FloatArith

variable {D : Type} [FloatArith D] {W : Type}

variable {env : SequenceWorld D W} {call : SequenceCall D} {p p' : Progress D}
  {s s' : StagedGraspSequence D W} {t : List (SequenceEvent D)}

/-! ## Cleanups -/

/-- **What a cleanup has done.** -/
structure Tidied where
  state : SequenceState
  stopAttempted : Bool
  disableAttempted : Bool
  guarded : Bool

/-- The watch agrees with what a cleanup has done. An abort knows whether the load is suspended. -/
structure Tidies (call : SequenceCall D) (q : Tidied) (m : Watch D) : Prop where
  going : m.call = some call
  cleanup : m.cleanup = true
  state : m.state = q.state
  covered : m.suspended = true → q.guarded = true
  aloft : call.isAbort = true → q.guarded = true → m.suspended = true
  stopAttempted : q.stopAttempted = true → m.stopAttempted = true
  disableAttempted : q.disableAttempted = true → m.disableAttempted = true

/-- **In a cleanup.** -/
structure Cleaning (call : SequenceCall D) (q : Tidied) (s : StagedGraspSequence D W)
    (t : List (SequenceEvent D)) : Prop where
  watched : ∃ m, Watched t m ∧ Tidies call q m
  state : s.state = q.state
  guarded : s.loadedObjectSuspended = q.guarded

variable {q q' : Tidied}

theorem Cleaning.congr (h : Cleaning call q s t) (hstate : s'.state = s.state)
    (hguarded : s'.loadedObjectSuspended = s.loadedObjectSuspended) : Cleaning call q s' t :=
  ⟨h.watched, hstate.trans h.state, hguarded.trans h.guarded⟩

theorem Cleaning.next (h : Cleaning call q s t) {event : SequenceEvent D}
    (hstep : ∀ m, Tidies call q m → ∃ m', WatchStep m event m' ∧ Tidies call q' m')
    (hstate : s'.state = q'.state) (hguarded : s'.loadedObjectSuspended = q'.guarded) :
    Cleaning call q' s' (t ++ [event]) := by
  obtain ⟨m, hm, htidies⟩ := h.watched
  obtain ⟨m', hstep', htidies'⟩ := hstep m htidies
  exact ⟨⟨m', hm.next hstep', htidies'⟩, hstate, hguarded⟩

def Part {α : Type} (call : SequenceCall D) (q : Tidied) (m : SeqM D W α) (q' : Tidied) : Prop :=
  Triple (Cleaning call q) m (fun _ => Cleaning call q') fun _ => Cleaning call q'

def Swept {α : Type} (call : SequenceCall D) (q : Tidied) (m : SeqM D W α) (q' : Tidied) : Prop :=
  Triple (Cleaning call q) m (fun _ => Cleaning call q') fun _ _ _ => False

theorem Swept.seq {α β : Type} {m : SeqM D W α} {f : α → SeqM D W β} {q₁ : Tidied}
    (hm : Swept call q m q₁) (hf : ∀ a, Swept call q₁ (f a) q') : Swept call q (m >>= f) q' :=
  Triple.seq hm hf

theorem swept_ret {α : Type} (a : α) : Swept call q (ret a : SeqM D W α) q :=
  triple_ret fun _ _ h => h

theorem swept_look {β : Type} {f : StagedGraspSequence D W → SeqM D W β}
    (hf : ∀ s, s.state = q.state → s.loadedObjectSuspended = q.guarded → Swept call q (f s) q') :
    Swept call q (read >>= f) q' :=
  Triple.look fun s s' t h => by
    obtain ⟨rfl, hs⟩ := h
    exact hf s' hs.state hs.guarded s' t hs

theorem swept_cleanupStep {m : SeqM D W Unit} (hm : Part call q m q') :
    Swept call q (cleanupStep m) q' := by
  unfold cleanupStep
  exact Triple.caught hm (fun _ => swept_ret _) fun _ => swept_ret _

theorem part_environment {α : Type} (f : W → Except PyException α × W) :
    Part call q (environment f : SeqM D W α) q := by
  intro s t h
  unfold environment
  rw [wp_ofStep]
  exact ⟨fun _ _ => h.congr rfl rfl, fun _ _ => h.congr rfl rfl⟩

theorem part_driver {α : Type} {c : DriverCall D} (f : W → Except PyException α × W)
    (hstate : q'.state = q.state) (hguarded : q'.guarded = q.guarded)
    (hcalled : ∀ m, Tidies call q m → ∃ m', WatchStep m (.called c) m' ∧ Tidies call q' m')
    (hsucceeded : ∀ m, Tidies call q' m → ∃ m', WatchStep m (.succeeded c) m' ∧ Tidies call q' m') :
    Part call q (driver c f : SeqM D W α) q' := by
  intro s t h
  unfold driver
  rw [wp_bind, wp_emit, wp_bind]
  refine wp_mono (part_environment f _ _ (h.next hcalled (h.state.trans hstate.symm)
    (h.guarded.trans hguarded.symm))) (fun a s t hs => ?_) fun _ _ _ hs => hs
  rw [wp_bind, wp_emit, wp_ret]
  exact hs.next hsucceeded hs.state hs.guarded

theorem Tidies.quiet {m : Watch D} (h : Tidies call q m) {c : DriverCall D}
    (hsettle : ∀ pose, c.kind ≠ .settle pose) (hhold : c.kind ≠ .holdCheck) :
    ∃ m', WatchStep m (.succeeded c) m' ∧ Tidies call q m' :=
  ⟨m, .succeeded hsettle fun hc => absurd hc hhold, h⟩

theorem part_stop : Part call q (driver .stop env.stop : SeqM D W Unit)
    { q with stopAttempted := true } := by
  refine part_driver _ rfl rfl (fun m hm => ?_) fun m hm =>
    hm.quiet (fun _ h => by cases h) fun h => by cases h
  exact ⟨_, .stop rfl hm.cleanup,
    hm.going, hm.cleanup, hm.state, hm.covered, hm.aloft, fun _ => rfl, hm.disableAttempted⟩

/-- **Then the hand is disabled**, if no load is suspended. -/
theorem part_disableHand (hstopped : q.stopAttempted = true) (hguarded : q.guarded = false) :
    Part call q (disableHand env) { q with disableAttempted := true } := by
  refine part_driver _ rfl rfl (fun m hm => ?_) fun m hm =>
    hm.quiet (fun _ h => by cases h) fun h => by cases h
  have hsuspended : m.suspended = false := by
    cases hs : m.suspended with
    | false => rfl
    | true => exact absurd (hm.covered hs) (by rw [hguarded]; decide)
  exact ⟨_, .disable rfl hm.cleanup (hm.stopAttempted hstopped) hsuspended,
    hm.going, hm.cleanup, hm.state, hm.covered, hm.aloft, hm.stopAttempted, fun _ => rfl⟩

theorem swept_clearActiveLoad (hguarded : q.guarded = false) :
    Swept call q (clearActiveLoad env) q := by
  unfold clearActiveLoad
  refine swept_look fun s _ _ => Triple.ite (fun _ => ?_) fun _ => swept_ret _
  refine swept_cleanupStep ?_
  unfold clearExternalLoad
  refine Triple.seq (part_driver _ rfl rfl (fun m hm => ?_) fun m hm =>
    hm.quiet (fun _ h => by cases h) fun h => by cases h) fun _ =>
      triple_update fun _ _ h => h.congr rfl rfl
  have hsuspended : m.suspended = false := by
    cases hs : m.suspended with
    | false => rfl
    | true => exact absurd (hm.covered hs) (by rw [hguarded]; decide)
  exact ⟨_, .clearLoad rfl hsuspended, hm.going, hm.cleanup, hm.state, hm.covered, hm.aloft,
    hm.stopAttempted, hm.disableAttempted⟩

theorem part_verifyLoadedHold (hcall : call.isAbort = true → call.setdownPose? = none) :
    Part call q (verifyLoadedHold env) q := by
  unfold verifyLoadedHold
  refine Triple.look fun s => Triple.pre (P := Cleaning call q) ?_ fun _ _ h => h.2
  cases s.loadedHoldTargets with
  | none => exact triple_fail fun _ _ h => h
  | some targets =>
    cases s.loadedMinimumContactAxes with
    | none => exact triple_fail fun _ _ h => h
    | some axes =>
      refine part_driver _ rfl rfl (fun m hm => ?_) fun m hm => ?_
      · exact ⟨_, .holdCheck rfl, hm.going, hm.cleanup, hm.state, hm.covered, hm.aloft,
          hm.stopAttempted, hm.disableAttempted⟩
      · by_cases hset : m.SetDown
        · refine ⟨_, .setDown rfl hset, hm.going, hm.cleanup, hm.state, (fun h => by cases h),
            fun habort => ?_, hm.stopAttempted, hm.disableAttempted⟩
          -- an abort sets nothing down
          obtain ⟨call', pose, hcall', hpose, -⟩ := hset
          obtain rfl : call = call' := Option.some.inj (hm.going.symm.trans hcall')
          rw [hcall habort] at hpose
          cases hpose
        · exact ⟨m, .succeeded (fun _ h => by cases h) fun _ => hset, hm⟩

theorem swept_stopDrivers (hguarded : q.guarded = false) :
    Swept call q (stopDrivers env) { q with stopAttempted := true, disableAttempted := true } := by
  unfold stopDrivers
  refine Swept.seq (swept_cleanupStep part_stop) fun _ => ?_
  refine Swept.seq (swept_cleanupStep (part_disableHand rfl hguarded)) fun _ => ?_
  exact Swept.seq (swept_clearActiveLoad hguarded) fun _ => swept_ret _

/-- **`_contain_suspended_load` leaves the hand alone.** -/
theorem swept_containSuspendedLoad (hcall : call.isAbort = true → call.setdownPose? = none) :
    Swept call q (containSuspendedLoad env) { q with stopAttempted := true } := by
  unfold containSuspendedLoad
  refine Swept.seq (swept_cleanupStep part_stop) fun _ => ?_
  exact Swept.seq (swept_cleanupStep (part_verifyLoadedHold hcall)) fun _ => swept_ret _

theorem swept_transition {new : SequenceState} (hnew : q.state.allowedTransitions.contains new = true)
    (hend : new.isTerminal = true) :
    Swept call q (transition env new) { q with state := new } := by
  have hnotify : Swept call { q with state := new } (notifyTransition env new)
      { q with state := new } := by
    unfold notifyTransition
    refine swept_look fun s _ _ => ?_
    cases env.transitionObserver with
    | none => exact swept_ret ()
    | some observer =>
      refine Triple.ite (fun _ => swept_ret ()) fun _ => ?_
      refine Triple.caught (part_environment _) (fun _ => swept_ret ()) fun e s t h => ?_
      unfold dropObserver
      rw [wp_bind, wp_update, wp_runIf]
      refine ⟨fun hlive => ?_, fun _ => h.congr rfl rfl⟩
      rw [hend] at hlive
      cases hlive
  unfold transition
  refine swept_look fun s₀ hstate _ => ?_
  intro s t h
  rw [wp_bind, wp_check]
  refine ⟨fun hc => hc ?_, fun _ => ?_⟩
  · rw [hstate]
    exact List.contains_iff_mem.mp hnew
  rw [wp_bind, wp_update, wp_bind, wp_emit]
  refine hnotify _ _ (h.next (fun m hm => ⟨{ m with state := new }, .entered ?_, ?_⟩) rfl h.guarded)
  · rw [hm.state]
    exact List.contains_iff_mem.mp hnew
  · exact ⟨hm.going, hm.cleanup, rfl, hm.covered, hm.aloft, hm.stopAttempted, hm.disableAttempted⟩

/-! ## Calls -/

/-- **A sequence at rest**: the flag says whether the load is suspended, which it is exactly aloft,
and a hand that a pregrasp-only run disabled is at the pregrasp pose. -/
structure AtRest (state : SequenceState) (suspended guarded pregraspOnly : Bool) : Prop where
  flag : suspended = guarded
  aloft : guarded = true ↔ state = .liftedHolding
  hand : pregraspOnly = true → state = .pregraspVerified

/-- **A call may end.** -/
structure MayEnd (m : Watch D) (call : SequenceCall D) (raised : Bool) : Prop where
  latched : raised = true → (m.touched = false ∧ m.state = m.startState) ∨
    (m.state = .faultLatched ∧ m.stopAttempted = true)
  clean : raised = false → m.cleanup = call.isAbort
  stops : call.isAbort = true → m.startState.isTerminal = false → m.suspended = false →
    m.stopAttempted = true ∧ m.disableAttempted = true

/-- **At the end of a call.** -/
def Closing (call : SequenceCall D) (raised : Bool) (s : StagedGraspSequence D W)
    (t : List (SequenceEvent D)) : Prop :=
  ∃ m, Watched t m ∧ m.call = some call ∧ m.state = s.state ∧ MayEnd m call raised ∧
    (s.state.isTerminal = false → AtRest s.state m.suspended s.loadedObjectSuspended m.pregraspOnly)

/-- **At the beginning of a call.** -/
def Begun (call : SequenceCall D) (s : StagedGraspSequence D W) (t : List (SequenceEvent D)) :
    Prop :=
  ∃ m : Watch D, Watched t (m.begin call) ∧ m.state = s.state ∧
    (s.state.isTerminal = false → AtRest s.state m.suspended s.loadedObjectSuspended m.pregraspOnly)

/-- **Between two calls.** -/
def Between (s : StagedGraspSequence D W) (t : List (SequenceEvent D)) : Prop :=
  ∃ m, Watched t m ∧ m.call = none ∧ m.state = s.state ∧
    (s.state.isTerminal = false → AtRest s.state m.suspended s.loadedObjectSuspended m.pregraspOnly)

theorem Begun.closing (h : Begun call s t)
    (habort : call.isAbort = true → s.state.isTerminal = true) (raised : Bool) :
    Closing call raised s t := by
  obtain ⟨m, hm, hstate, hrest⟩ := h
  refine ⟨m.begin call, hm, rfl, hstate, ⟨fun _ => .inl ⟨rfl, rfl⟩, fun _ => rfl, ?_⟩, hrest⟩
  intro hcall hlive
  have hend := habort hcall
  rw [← hstate] at hend
  exact absurd (hlive.symm.trans hend) (by decide)

theorem Begun.refused (h : Begun call s t) (habort : call.isAbort = false) (raised : Bool) :
    Closing call raised s t :=
  h.closing (fun hcall => absurd (habort.symm.trans hcall) (by decide)) raised

/-- **A call that starts to execute** knows the state and what rest means there. -/
theorem Begun.working (h : Begun call s t) (habort : call.isAbort = false)
    (hstate : s.state = p.state) (hlive : p.state.isTerminal = false)
    (hsettled : p.settledAt = none) (haloft : p.guarded = true ↔ p.state = .liftedHolding)
    (hsuspended : p.suspended = p.guarded) (hhand : p.pregraspOnly = false)
    (hnot : p.state ≠ .pregraspVerified) : Working call p s t := by
  obtain ⟨m, hm, hmstate, hrest⟩ := h
  have hrest := hrest (by rw [hstate]; exact hlive)
  have hguarded : s.loadedObjectSuspended = p.guarded := by
    rw [Bool.eq_iff_iff, hrest.aloft, haloft, hstate]
  have hpregrasp : m.pregraspOnly = p.pregraspOnly := by
    rw [hhand]
    cases hm : m.pregraspOnly with
    | false => rfl
    | true => exact absurd (hstate.symm.trans (hrest.hand hm)) hnot
  refine ⟨⟨m.begin call, hm, rfl, ⟨habort, ?_⟩, hmstate.trans hstate, hsettled.symm, ?_, hpregrasp⟩,
    hstate, hguarded, fun hs => hsuspended.symm.trans hs⟩
  · show m.state.isTerminal = false
    rw [hmstate, hstate]
    exact hlive
  · show m.suspended = p.suspended
    rw [hrest.flag, hguarded, hsuspended]

theorem Begun.approaching (h : Begun call s t) (habort : call.isAbort = false)
    {state : SequenceState} (hstate : s.state = state) (hlive : state.isTerminal = false)
    (hlifted : state ≠ .liftedHolding) (hpregrasp : state ≠ .pregraspVerified) :
    Working call (approaching state none) s t :=
  h.working habort hstate hlive rfl
    ⟨fun hf => (by cases hf), fun hs => absurd hs hlifted⟩ rfl rfl hpregrasp

theorem Begun.carrying (h : Begun call s t) (habort : call.isAbort = false)
    (hstate : s.state = .liftedHolding) : Working call (carrying .liftedHolding none) s t :=
  h.working habort hstate rfl rfl ⟨fun _ => rfl, fun _ => rfl⟩ rfl rfl (by intro h; cases h)

theorem Working.closing (h : Working call p s t) (habort : call.isAbort = false)
    (hrest : AtRest p.state p.suspended p.guarded p.pregraspOnly) : Closing call false s t := by
  obtain ⟨m, hm, hagrees⟩ := h.watched
  refine ⟨m, hm, hagrees.call, hagrees.state.trans h.state.symm, ⟨fun hraised => (by cases hraised),
    fun _ => hagrees.executing.1.trans habort.symm,
    fun hcall => absurd (habort.symm.trans hcall) (by decide)⟩, fun _ => ?_⟩
  rw [h.state, h.guarded, hagrees.suspended, hagrees.pregraspOnly]
  exact hrest

theorem Cleaning.closing (h : Cleaning call q s t) {raised : Bool}
    (hend : q.state.isTerminal = true) (hraised : raised = true → q.state = .faultLatched)
    (hreturned : raised = false → call.isAbort = true) (hstopped : q.stopAttempted = true)
    (hdisabled : q.guarded = false → q.disableAttempted = true) : Closing call raised s t := by
  obtain ⟨m, hm, htidies⟩ := h.watched
  have hmay : MayEnd m call raised := by
    refine ⟨fun hr => .inr ⟨htidies.state.trans (hraised hr), htidies.stopAttempted hstopped⟩,
      fun hr => htidies.cleanup.trans (hreturned hr).symm,
      fun hcall _ hs => ⟨htidies.stopAttempted hstopped, htidies.disableAttempted (hdisabled ?_)⟩⟩
    cases hg : q.guarded with
    | false => rfl
    | true => exact absurd (hs.symm.trans (htidies.aloft hcall hg)) (by decide)
  refine ⟨m, hm, htidies.going, htidies.state.trans h.state.symm, hmay, fun hlive => ?_⟩
  rw [h.state, hend] at hlive
  cases hlive

/-! ## Failures -/

theorem triple_latch {raisedError : SequenceException}
    {f : StagedGraspSequence D W → StagedGraspSequence D W} (hstate : q.state = .stopping)
    (hstopped : q.stopAttempted = true) (hdisabled : q.guarded = false → q.disableAttempted = true)
    (hf : ∀ s, (f s).state = s.state)
    (hf' : ∀ s, (f s).loadedObjectSuspended = s.loadedObjectSuspended) :
    Triple (Cleaning call q) (do
      transition env .faultLatched
      update f
      fail raisedError : SeqM D W Unit) (fun _ => Closing call false)
      fun _ => Closing call true := by
  have htransition : Swept call q (transition env .faultLatched)
      { q with state := .faultLatched } :=
    swept_transition (by rw [hstate]; rfl) rfl
  refine Triple.seq (htransition.mono (fun _ _ h => h) (fun _ _ _ h => h) fun _ _ _ h => h.elim)
    fun _ s t h => ?_
  rw [wp_bind, wp_update, wp_fail]
  exact (h.congr (hf s) (hf' s)).closing rfl (fun _ => rfl) (fun h => (by cases h)) hstopped hdisabled

theorem triple_failSequence (error : PyException) (hlive : q.state.isTerminal = false)
    (hcall : call.isAbort = true → call.setdownPose? = none) :
    Triple (Cleaning call q) (failSequence env error) (fun _ => Closing call false)
      fun _ => Closing call true := by
  have hstopping : Swept call q (transition env .stopping) { q with state := .stopping } :=
    swept_transition
      (List.contains_iff_mem.mpr (SequenceState.stopping_mem_allowedTransitions hlive)) rfl
  have hcleanup : Swept call { q with state := .stopping } (cleanup env q.guarded)
      ⟨.stopping, true, if q.guarded = true then q.disableAttempted else true, q.guarded⟩ := by
    unfold cleanup
    cases hguarded : q.guarded with
    | true => exact swept_containSuspendedLoad hcall
    | false => exact swept_stopDrivers rfl
  unfold failSequence
  refine Triple.look fun failed s t h => ?_
  obtain ⟨rfl, hq⟩ := h
  rw [wp_bind, wp_runIf]
  refine ⟨fun _ => wp_mono (hstopping s t hq) (fun _ s₁ t₁ h₁ => ?_) fun _ _ _ h => h.elim,
    fun hc => absurd ?_ hc⟩
  · rw [wp_bind, wp_read]
    beta_reduce
    rw [h₁.guarded, wp_bind]
    refine wp_mono (hcleanup s₁ t₁ h₁) (fun stopErrors s₂ t₂ h₂ => ?_) fun _ _ _ h => h.elim
    refine triple_latch rfl rfl ?_ ?_ ?_ s₂ t₂ h₂
    · intro hguarded
      rw [hguarded]
      rfl
    · intro s
      rfl
    · intro s
      rfl
  · rw [hq.state]
    refine ⟨fun hs => ?_, fun hs => ?_⟩
    · rw [hs] at hlive
      cases hlive
    · rw [hs] at hlive
      cases hlive

theorem triple_handleFailure (e : SequenceException) (habort : call.isAbort = false) :
    Triple (Failing call) (handleFailure env e) (fun _ => Closing call false)
      fun _ => Closing call true := by
  rintro s t ⟨m, hm, hcall, hexec, hstate, hcover⟩
  unfold handleFailure
  rw [wp_bind, wp_emit]
  have htidies : Tidies call ⟨s.state, false, false, s.loadedObjectSuspended⟩
      { m with cleanup := true } :=
    ⟨hcall, rfl, hstate, hcover, fun h => absurd (habort.symm.trans h) (by decide),
      fun h => (by cases h), fun h => (by cases h)⟩
  have hcaught : WatchStep m .caught { m with cleanup := true } :=
    .caught (by rw [hcall]; rfl) hexec.1
  refine triple_failSequence e.error ?_ (fun h => absurd (habort.symm.trans h) (by decide)) s _
    ⟨⟨_, hm.next hcaught, htidies⟩, rfl, rfl⟩
  show s.state.isTerminal = false
  rw [← hstate]
  exact hexec.2

/-! ## Openings -/

/-- The part of a call before its `try` block, and the block. -/
def Opening (call : SequenceCall D) (m : SeqM D W Unit) : Prop :=
  Triple (Begun call) m (fun _ => Closing call false) fun _ => Closing call true

theorem opening_check {c : Prop} [Decidable c] {e : SequenceException}
    {f : Unit → SeqM D W Unit} (habort : call.isAbort = false) (hf : Opening call (f ())) :
    Opening call (check c e >>= f) :=
  Triple.seq ((triple_check fun _ _ h => h.refused habort true).post fun _ _ _ h => h.2)
    fun _ => hf

theorem opening_ofExcept {α : Type} {r : Except SequenceException α} {f : α → SeqM D W Unit}
    (habort : call.isAbort = false) (hf : ∀ a, r = .ok a → Opening call (f a)) :
    Opening call (ofExcept r >>= f) :=
  Triple.bind (triple_ofExcept fun _ _ _ h => h.refused habort true) fun a =>
    Triple.assuming fun ha => hf a ha

/-- **The `try` block of a call** that starts from `p` and ends at rest in `p'`. -/
theorem triple_guarded {body : SeqM D W Unit} (habort : call.isAbort = false)
    (hbody : Stage call p body p')
    (hrest : AtRest p'.state p'.suspended p'.guarded p'.pregraspOnly) :
    Triple (Working call p) (guarded (handleFailure env) body) (fun _ => Closing call false)
        (fun _ => Closing call true) ∧
      Triple (Working call p) (guarded (handleOtherFailure env) body) (fun _ => Closing call false)
        fun _ => Closing call true := by
  have hdone : Triple (Working call p') (ret () : SeqM D W Unit) (fun _ => Closing call false)
      fun _ => Closing call true := triple_ret fun _ _ h => h.closing habort hrest
  constructor
  · exact Triple.caught hbody (fun _ => hdone) fun e =>
      (triple_handleFailure e habort).pre fun _ _ h => h.2
  · refine Triple.caught hbody (fun _ => hdone) fun e => Triple.assuming fun he => ?_
    obtain ⟨error, rfl⟩ := he
    exact triple_handleFailure _ habort

/-! ## Public calls -/

theorem opening_requireState {allowed : List SequenceState} {message : String}
    {f : Unit → SeqM D W Unit} (habort : call.isAbort = false)
    (hf : ∀ state ∈ allowed, Triple (fun s t => s.state = state ∧ Begun call s t) (f ())
      (fun _ => Closing call false) fun _ => Closing call true) :
    Opening call (requireState allowed message >>= f) := by
  intro s t h
  unfold requireState
  rw [wp_bind, wp_bind, wp_read]
  beta_reduce
  rw [wp_check]
  refine ⟨fun _ => h.refused habort true, fun hstate => ?_⟩
  exact hf s.state (by simpa using hstate) s t ⟨rfl, h⟩

theorem opening_approaching {state : SequenceState} {m : SeqM D W Unit}
    (habort : call.isAbort = false) (hlive : state.isTerminal = false)
    (hlifted : state ≠ .liftedHolding) (hpregrasp : state ≠ .pregraspVerified)
    (hm : Triple (Working call (approaching state none)) m (fun _ => Closing call false)
      fun _ => Closing call true) :
    Triple (fun s t => s.state = state ∧ Begun call s t) m (fun _ => Closing call false)
      fun _ => Closing call true :=
  hm.pre fun _ _ h => h.2.approaching habort h.1 hlive hlifted hpregrasp

theorem opening_carrying {m : SeqM D W Unit} (habort : call.isAbort = false)
    (hm : Triple (Working call (carrying .liftedHolding none)) m (fun _ => Closing call false)
      fun _ => Closing call true) :
    Triple (fun s t => s.state = .liftedHolding ∧ Begun call s t) m (fun _ => Closing call false)
      fun _ => Closing call true :=
  hm.pre fun _ _ h => h.2.carrying habort h.1

theorem atRest_approaching {state : SequenceState} (hlifted : state ≠ .liftedHolding) :
    AtRest state false false false :=
  ⟨rfl, ⟨fun h => (by cases h), fun h => absurd h hlifted⟩, fun h => (by cases h)⟩

theorem opening_toDefaultOnce {defaultQ : Vec 7 D} {mismatch message : String}
    {run : SeqM D W Unit} (habort : call.isAbort = false)
    (hrun : Triple (Working call (approaching .disarmed none)) run (fun _ => Closing call false)
      fun _ => Closing call true) :
    Opening call (toDefaultOnce defaultQ mismatch message run) := by
  unfold toDefaultOnce
  refine Triple.look fun s => Triple.pre (P := Begun call) (Triple.ite (fun _ => ?_) fun _ => ?_)
    fun _ _ h => h.2
  · refine Triple.look fun s => Triple.pre (P := Begun call) ?_ fun _ _ h => h.2
    exact (triple_check fun _ _ h => h.refused habort true).post fun _ _ _ h =>
      h.2.refused habort false
  · refine opening_requireState habort fun state hstate => ?_
    obtain rfl := List.mem_singleton.mp hstate
    exact opening_approaching habort rfl (by decide) (by decide) hrun

theorem opening_runToDefaultCall (plan : Except PyException (NormalizedDefaultPlan D)) :
    Opening (.runToDefault plan) (runToDefaultCall env plan) := by
  unfold runToDefaultCall
  refine opening_ofExcept rfl fun normalized _ => ?_
  refine opening_check rfl ?_
  exact opening_toDefaultOnce rfl
    (triple_guarded rfl (stage_runToDefault _) (atRest_approaching nofun)).1

theorem ok_of_mapError {α : Type} {plan : Except PyException α} {a : α}
    (h : plan.mapError SequenceException.raised = .ok a) : plan = .ok a := by
  cases plan with
  | error e => cases h
  | ok b =>
    cases h
    rfl

theorem stage_fromDefault {run rest : SeqM D W Unit} {state : SequenceState}
    (hstate : state ∈ [SequenceState.disarmed, .defaultVerified])
    (hrun : Stage call (approaching .disarmed none) run (approaching .defaultVerified none))
    (hrest : Stage call (approaching .defaultVerified none) rest p') :
    Stage call (approaching state none) (do
      let s ← read
      runIf (s.state = .disarmed) run
      rest) p' := by
  refine Triple.look fun s₀ s t h => ?_
  obtain ⟨rfl, hs⟩ := h
  rw [wp_bind, wp_runIf]
  rcases List.mem_pair.mp hstate with rfl | rfl
  · exact ⟨fun _ => wp_mono (hrun s t hs) (fun _ s t h => hrest s t h) fun _ _ _ h => h,
      fun hc => absurd hs.state hc⟩
  · refine ⟨fun hc => ?_, fun _ => hrest s t hs⟩
    have hdefault : s.state = .defaultVerified := hs.state
    rw [hdefault] at hc
    cases hc

theorem opening_full {run rest : SeqM D W Unit} {state : SequenceState}
    {settledAt : Option (Pose D)} (habort : call.isAbort = false)
    (hstate : state ∈ [SequenceState.disarmed, .defaultVerified])
    (hrun : Stage call (approaching .disarmed none) run (approaching .defaultVerified none))
    (hrest : Stage call (approaching .defaultVerified none) rest
      (approaching .holding settledAt)) :
    Triple (fun s t => s.state = state ∧ Begun call s t) (guarded (handleOtherFailure env) (do
      let s ← read
      runIf (s.state = .disarmed) run
      rest)) (fun _ => Closing call false) fun _ => Closing call true := by
  have hbody := stage_fromDefault hstate hrun hrest
  rcases List.mem_pair.mp hstate with rfl | rfl
  · exact opening_approaching habort rfl (by decide) (by decide)
      (triple_guarded habort hbody (atRest_approaching nofun)).2
  · exact opening_approaching habort rfl (by decide) (by decide)
      (triple_guarded habort hbody (atRest_approaching nofun)).2

theorem opening_runFullCall (plan : Except PyException (NormalizedPlan D)) :
    Opening (.runFull plan) (runFullCall env plan) := by
  unfold runFullCall
  refine opening_ofExcept rfl fun normalized hplan => ?_
  obtain rfl := ok_of_mapError hplan
  refine opening_check rfl ?_
  refine opening_requireState rfl fun state hstate => ?_
  exact opening_full rfl hstate (stage_runToDefault _) (stage_runAfterDefault _ rfl)

theorem some_of_typedPlan {α : Type} {plan : Option α} {message : String} {a : α}
    (h : (match plan with
      | some plan => Except.ok plan
      | none => Except.error (planError message)) = .ok a) : plan = some a := by
  cases plan with
  | none => cases h
  | some b =>
    cases h
    rfl

theorem opening_typedPlan {α : Type} {plan : Option α} {message : String} {f : α → SeqM D W Unit}
    (habort : call.isAbort = false) (hf : ∀ a, plan = some a → Opening call (f a)) :
    Opening call (typedPlan plan message >>= f) :=
  opening_ofExcept habort fun a ha => hf a (some_of_typedPlan ha)

theorem opening_findDefault {waypoints : List (Waypoint D)} {f : ℕ → SeqM D W Unit}
    (habort : call.isAbort = false) (hf : ∀ index, Opening call (f index)) :
    Opening call (findDefault waypoints >>= f) :=
  opening_ofExcept habort fun index _ => hf index

theorem opening_waypoint {w : Option (Waypoint D)} {f : Waypoint D → SeqM D W Unit}
    (habort : call.isAbort = false) (hf : ∀ w, Opening call (f w)) :
    Opening call (waypoint w >>= f) :=
  opening_ofExcept habort fun w _ => hf w

theorem opening_runToDefaultJointWaypointsCall (plan : Option (AuditedJointSequencePlan D)) :
    Opening (.runToDefaultJointWaypoints plan) (runToDefaultJointWaypointsCall env plan) := by
  unfold runToDefaultJointWaypointsCall
  refine opening_typedPlan rfl fun plan _ => ?_
  refine opening_check rfl ?_
  refine opening_findDefault rfl fun index => ?_
  refine opening_waypoint rfl fun default => ?_
  exact opening_toDefaultOnce rfl
    (triple_guarded rfl (stage_runToDefaultJointWaypoints plan) (atRest_approaching nofun)).2

theorem opening_runFullJointWaypointsCall (plan : Option (AuditedJointSequencePlan D)) :
    Opening (.runFullJointWaypoints plan) (runFullJointWaypointsCall env plan) := by
  unfold runFullJointWaypointsCall
  refine opening_typedPlan rfl fun plan hplan => ?_
  subst hplan
  refine opening_check rfl ?_
  refine opening_requireState rfl fun state hstate => ?_
  exact opening_full rfl hstate (stage_runToDefaultJointWaypoints _)
    (stage_runAfterDefaultJointWaypoints _ rfl)

theorem opening_runToPregraspJointWaypointsCall (plan : Option (AuditedPregraspSequencePlan D)) :
    Opening (.runToPregraspJointWaypoints plan) (runToPregraspJointWaypointsCall env plan) := by
  unfold runToPregraspJointWaypointsCall
  refine opening_typedPlan rfl fun plan _ => ?_
  refine opening_check rfl ?_
  refine opening_requireState rfl fun state hstate => ?_
  obtain rfl := List.mem_singleton.mp hstate
  have hrest : AtRest .pregraspVerified false false true :=
    ⟨rfl, ⟨fun h => (by cases h), fun h => (by cases h)⟩, fun _ => rfl⟩
  exact opening_approaching rfl rfl (by decide) (by decide)
    (triple_guarded rfl (stage_runPregraspOnlyJointWaypoints plan rfl) hrest).2

theorem opening_runLoadedLiftJointWaypointsCall
    (plan : Option (AuditedLoadedLiftSequencePlan D)) :
    Opening (.runLoadedLiftJointWaypoints plan) (runLoadedLiftJointWaypointsCall env plan) := by
  unfold runLoadedLiftJointWaypointsCall
  refine opening_typedPlan rfl fun plan hplan => ?_
  subst hplan
  refine opening_check rfl ?_
  refine opening_check rfl ?_
  refine opening_requireState rfl fun state hstate => ?_
  obtain rfl := List.mem_singleton.mp hstate
  have hrest : AtRest .liftedHolding true true false :=
    ⟨rfl, ⟨fun _ => rfl, fun _ => rfl⟩, fun h => (by cases h)⟩
  refine opening_approaching rfl rfl (by decide) (by decide) ?_
  exact Triple.seq (triple_update fun _ _ h => h.congr rfl rfl) fun _ =>
    (triple_guarded rfl (stage_loadedLift plan rfl rfl) hrest).2

theorem opening_returnLoadedLiftToSetdownCall (plan : Option (AuditedLoadedLiftSequencePlan D)) :
    Opening (.returnLoadedLiftToSetdown plan) (returnLoadedLiftToSetdownCall env plan) := by
  unfold returnLoadedLiftToSetdownCall
  refine opening_typedPlan rfl fun plan hplan => ?_
  subst hplan
  refine opening_requireState rfl fun state hstate => ?_
  obtain rfl := List.mem_singleton.mp hstate
  intro s t h
  rw [wp_bind, wp_read]
  beta_reduce
  rw [wp_bind, wp_check]
  refine ⟨fun _ => h.2.refused rfl true, fun _ => ?_⟩
  rw [wp_bind, wp_check]
  refine ⟨fun _ => h.2.refused rfl true, fun _ => ?_⟩
  exact opening_carrying rfl
    (triple_guarded rfl (stage_setdown plan rfl) (atRest_approaching nofun)).2 s t h

theorem stage_reopen :
    Stage call (approaching .holding none) (reopen env) (approaching .returnedOpen none) := by
  unfold reopen
  refine Stage.seq (stage_enter rfl rfl) fun _ => ?_
  refine Stage.seq (stage_handOpen _ rfl rfl rfl) fun _ => ?_
  exact Stage.seq (stage_enter rfl rfl) fun _ => stage_observeBoundary _

theorem opening_returnAirHandToOpenCall :
    Opening .returnAirHandToOpen (returnAirHandToOpenCall env) := by
  intro s t h
  unfold returnAirHandToOpenCall
  rw [wp_bind, wp_read]
  beta_reduce
  rw [wp_bind, wp_check]
  refine ⟨fun _ => h.refused rfl true, fun hholding => ?_⟩
  have hstate : s.state = .holding := by
    by_contra hs
    exact hholding (.inl hs)
  exact opening_approaching rfl rfl (by decide) (by decide)
    (triple_guarded rfl stage_reopen (atRest_approaching nofun)).1 s t ⟨hstate, h⟩

theorem stage_verifyBoundedHold (expected : RegisterVector) :
    Stage call p (verifyBoundedHold env expected) p := by
  unfold verifyBoundedHold
  refine stage_look fun s => ?_
  cases env.verifyBoundedHold with
  | none => exact stage_fail ⟨_, rfl⟩
  | some verifier => exact stage_other _ rfl

theorem opening_verifyBoundedHoldingCall :
    Opening .verifyBoundedHolding (verifyBoundedHoldingCall env) := by
  unfold verifyBoundedHoldingCall
  refine opening_requireState rfl fun state hstate => ?_
  obtain rfl := List.mem_singleton.mp hstate
  intro s t h
  rw [wp_bind, wp_read]
  cases hexpected : s.boundedHoldTargets with
  | none =>
    simp only [hexpected, wp_fail]
    exact h.2.refused rfl true
  | some expected =>
    simp only [hexpected]
    have hbody : Stage .verifyBoundedHolding (approaching .holding none)
        (verifyBoundedHold env expected) (approaching .holding none) :=
      stage_verifyBoundedHold expected
    exact opening_approaching rfl rfl (by decide) (by decide)
      (triple_guarded rfl hbody (atRest_approaching nofun)).2 s t h

theorem opening_verifyLoadedLiftHoldingCall :
    Opening .verifyLoadedLiftHolding (verifyLoadedLiftHoldingCall env) := by
  unfold verifyLoadedLiftHoldingCall
  refine opening_requireState rfl fun state hstate => ?_
  obtain rfl := List.mem_singleton.mp hstate
  have hbody : Stage .verifyLoadedLiftHolding (carrying .liftedHolding none) (verifyLifted env)
      (carrying .liftedHolding none) := by
    unfold verifyLifted
    refine Stage.seq (stage_other _ rfl) fun _ => ?_
    exact stage_verifyLoadedHold fun pose _ h => by cases h
  have hrest : AtRest .liftedHolding true true false :=
    ⟨rfl, ⟨fun _ => rfl, fun _ => rfl⟩, fun h => (by cases h)⟩
  exact opening_carrying rfl (triple_guarded rfl hbody hrest).2

/-! ## Aborts -/

theorem Begun.cleaning {reason : String} (h : Begun (.abort reason) s t)
    (hlive : s.state.isTerminal = false) :
    Cleaning (.abort reason) ⟨s.state, false, false, s.loadedObjectSuspended⟩ s t := by
  obtain ⟨m, hm, hstate, hrest⟩ := h
  have hflag := (hrest hlive).flag
  refine ⟨⟨_, hm, rfl, rfl, hstate, fun hs => ?_, fun _ hs => ?_, fun h => (by cases h),
    fun h => (by cases h)⟩, rfl, rfl⟩
  · exact hflag.symm.trans hs
  · exact hflag.trans hs

/-- **An abort** stops both drivers, or contains the load. -/
theorem opening_abortCall (reason : String) :
    Opening (.abort reason) (abortCall env reason) := by
  intro s t h
  unfold abortCall
  rw [wp_bind, wp_read]
  beta_reduce
  rw [wp_ite]
  refine ⟨fun hstopped => ?_, fun _ => ?_⟩
  · rw [wp_ret]
    exact h.closing (fun _ => by rw [hstopped]; rfl) false
  rw [wp_ite]
  refine ⟨fun hend => ?_, fun hlive => ?_⟩
  · rw [wp_fail]
    exact h.closing (fun _ => hend) true
  have hlive : s.state.isTerminal = false := by simpa using hlive
  have hcleaning := h.cleaning hlive
  unfold abortRunning
  rw [wp_bind, wp_read]
  beta_reduce
  rw [wp_ite]
  refine ⟨fun _ => triple_failSequence _ hlive (fun _ => rfl) s t hcleaning, fun haloft => ?_⟩
  have hguarded : s.loadedObjectSuspended = false := by simpa using haloft
  have hstopping := List.contains_iff_mem.mpr (SequenceState.stopping_mem_allowedTransitions hlive)
  rw [wp_bind]
  refine wp_mono (swept_transition hstopping rfl s t hcleaning) (fun _ s₁ t₁ h₁ => ?_)
    fun _ _ _ h => h.elim
  rw [wp_bind]
  refine wp_mono (swept_stopDrivers hguarded s₁ t₁ h₁) (fun errors s₂ t₂ h₂ => ?_)
    fun _ _ _ h => h.elim
  unfold finishAbort
  rw [wp_ite]
  refine ⟨fun _ => ?_, fun _ => ?_⟩
  · refine wp_mono (swept_transition rfl rfl s₂ t₂ h₂) (fun _ s₃ t₃ h₃ => ?_) fun _ _ _ h => h.elim
    exact h₃.closing rfl (fun h => (by cases h)) (fun _ => rfl) rfl fun _ => rfl
  · refine triple_latch rfl rfl ?_ ?_ ?_ s₂ t₂ h₂
    · intro _
      rfl
    · intro s
      rfl
    · intro s
      rfl

/-! ## Runs -/

/-- **Every public call** keeps the watch going up to its end. -/
theorem opening_callOf (call : SequenceCall D) : Opening call (callOf env call) := by
  cases call with
  | runToDefault plan => exact opening_runToDefaultCall plan
  | runFull plan => exact opening_runFullCall plan
  | runToDefaultJointWaypoints plan => exact opening_runToDefaultJointWaypointsCall plan
  | runFullJointWaypoints plan => exact opening_runFullJointWaypointsCall plan
  | runToPregraspJointWaypoints plan => exact opening_runToPregraspJointWaypointsCall plan
  | runLoadedLiftJointWaypoints plan => exact opening_runLoadedLiftJointWaypointsCall plan
  | returnLoadedLiftToSetdown plan => exact opening_returnLoadedLiftToSetdownCall plan
  | returnAirHandToOpen => exact opening_returnAirHandToOpenCall
  | verifyBoundedHolding => exact opening_verifyBoundedHoldingCall
  | verifyLoadedLiftHolding => exact opening_verifyLoadedLiftHoldingCall
  | abort reason => exact opening_abortCall reason

theorem Between.begun (h : Between s t) (call : SequenceCall D) : Begun call s (t ++ [.begun call]) := by
  obtain ⟨m, hm, hcall, hstate, hrest⟩ := h
  exact ⟨m, hm.next (.begun hcall), hstate, hrest⟩

theorem Closing.ended {raised : Bool} (h : Closing call raised s t) :
    Between s (t ++ [.ended raised]) := by
  obtain ⟨m, hm, hcall, hstate, hmay, hrest⟩ := h
  exact ⟨_, hm.next (.ended hcall hmay.latched hmay.clean hmay.stops), rfl, hstate, hrest⟩

theorem between_performCall (h : Between s t) (call : SequenceCall D) :
    wp (performCall env call) (fun _ => Between) (fun _ => Between) s t := by
  unfold performCall
  rw [wp_bind, wp_emit, wp_bind, wp_attempt]
  refine wp_mono (opening_callOf call s _ (h.begun call)) (fun _ s t hclosing => ?_)
    fun e s t hclosing => ?_
  · rw [wp_emit]
    exact hclosing.ended
  · rw [wp_emit]
    exact hclosing.ended

/-- **Every run of a sequence is watched**: whatever its plans are, and whatever the drivers and the
observers do. -/
theorem runs_are_watched (env : SequenceWorld D W) (world : W) (calls : List (SequenceCall D)) :
    ∃ m, Monitor.Accepts WatchStep Watch.start
      ((sequenceMachine env).trace (.init world) calls) m := by
  have hstart : Between (.init world : StagedGraspSequence D W) [] := by
    refine ⟨Watch.start, .start, rfl, rfl, fun _ => ?_⟩
    exact (atRest_approaching nofun : AtRest .disarmed false false false)
  obtain ⟨m, hm, -⟩ := (sequenceMachine env).monitor_induction (P := Between) hstart
    (fun s t call h => wp_outcome (between_performCall h call)) calls
  exact ⟨m, hm⟩

/-! ## A failure before the first driver call, and after the hand was disabled -/

def stuckArm : SequenceWorld Binary64 Unit where
  moveJoints _ w := (.error ⟨.ordinary, "RuntimeError", "motion aborted by reflex"⟩, w)
  moveLoadedJoints _ _ w := (.error ⟨.ordinary, "RuntimeError", "motion aborted by reflex"⟩, w)
  movePose _ w := (.error ⟨.ordinary, "RuntimeError", "motion aborted by reflex"⟩, w)
  verifySettled _ _ w := (.ok (some true), w)
  verifyAuditedJointSettled _ _ _ _ w := (.ok (some true), w)
  stop w := (.ok (), w)
  applyExternalLoadAndVerify _ w := (.ok (), w)
  clearExternalLoadAndVerify w := (.ok (), w)
  verifyIdleState w := (.ok (), w)
  openAndVerify _ w := (.ok (), w)
  preshapeThumb _ w := (.ok (), w)
  closeBendsAndHold _ w := (.ok (), w)
  closeBendsNoContactAndHold _ w := (.ok (), w)
  returnNoContactHandToOpen w := (.ok (), w)
  verifyLoadedHold _ _ w := (.ok (), w)
  verifyBoundedHold := none
  disableAndVerify w := (.ok (), w)
  transitionObserver := none
  boundaryObserver := none
  settleTolerances := none

def zeroJoints : FiniteVec 7 Binary64 := ⟨fun _ => FloatArith.zero, by decide +kernel⟩

def directPregraspPlan : AuditedPregraspSequencePlan Binary64 where
  executionEligible := true
  jointWaypoints := [⟨"current", zeroJoints⟩, ⟨"default", zeroJoints⟩, ⟨"pregrasp", zeroJoints⟩]
  pregraspPose _ _ := FloatArith.zero
  maxQTrackingErrorRad := FloatArith.zero
  settleTolerances := ⟨FloatArith.zero, FloatArith.zero, FloatArith.zero, FloatArith.zero,
    FloatArith.zero⟩
  ineligibilityReason := ""
  names_ok := ⟨0, 0, rfl⟩

/-- **Not every call that raises latches**, and not every call that raises stops the arm before it
disables the hand: a call without a plan is refused, and a pregrasp-only run has disabled the hand
before its first arm motion fails. -/
theorem refused_call_and_failed_pregrasp_only_run :
    (((sequenceMachine stuckArm).run (.init ()) [.runToDefaultJointWaypoints none]).state =
        .disarmed ∧
      (sequenceMachine stuckArm).trace (.init ()) [.runToDefaultJointWaypoints none] =
        [.begun (.runToDefaultJointWaypoints none), .ended true]) ∧
    (sequenceMachine stuckArm).trace (.init ())
        [.runToPregraspJointWaypoints (some directPregraspPlan)] =
      [.begun (.runToPregraspJointWaypoints (some directPregraspPlan)),
        .entered .openingHand,
        .called (.openAndVerify openHandTargets), .succeeded (.openAndVerify openHandTargets),
        .called .disableAndVerify, .succeeded .disableAndVerify,
        .entered .openVerified, .entered .movingFrankaDefault,
        .called (.moveJoints zeroJoints.1), .caught, .entered .stopping,
        .called .stop, .succeeded .stop,
        .called .disableAndVerify, .succeeded .disableAndVerify,
        .entered .faultLatched, .ended true] :=
  ⟨⟨rfl, rfl⟩, rfl⟩

end FrankaDeploy.GraspSequence
