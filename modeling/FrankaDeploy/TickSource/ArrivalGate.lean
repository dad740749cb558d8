import FrankaDeploy.TickSource.ArrivalProposals
import FrankaDeploy.TickSource.Provenance

/-! # The arrival gate of the tick source

Every run of the source with an enabled gate has a history that the law accepts, so before the next
command that moves the arm is proposed every axis has come to the last committed target, unless an
occluded closure was committed in between: its commit takes every axis as arrived. -/

set_option linter.unusedSectionVars false

namespace FrankaDeploy.TickSource

open FrankaDeploy.Foundation FrankaDeploy.ClosedLoop FrankaDeploy.Contracts
open FrankaDeploy.Foundation.Program
open scoped FloatArith

variable {D S : Type} [FloatArith D] [FloatArith S] [FloatCast D S] {W : Type}
  {config : TickSourceConfig D S} {env : TickWorld D S W}
  {records : List ((PolicyTickSource D S W × TickCall env) ⊕ TickEvent D S)}
  {s s' : PolicyTickSource D S W} {t : List (TickEvent D S)} {c : ArrivalLaw D S}
  {P : ArrivalLaw D S → Prop}

/-! ## Commits -/

variable (config records) in
/-- **The gate was armed by a tick** that the law has still to commit. -/
def ArmedFor (tick : PendingTick D S) (s : PolicyTickSource D S W) (t : List (TickEvent D S)) :
    Prop :=
  ∃ c started, Traced config records t c ∧ c.proposed = some tick ∧
    SameGate (c.gate.armedBy config tick started) s.arrivalGate

theorem gateOnly_armedFor {tick : PendingTick D S} : GateOnly (ArmedFor config records tick) := by
  rintro s s' t hgate ⟨c, started, hc, hproposed, hsame⟩
  exact ⟨c, started, hc, hproposed, hgate ▸ hsame⟩

theorem wp_armArrivalGate_follows (henabled : config.frankaArrivalGateEnabled = true)
    {tick : PendingTick D S} {start : FiniteVec 7 S} {reached : Vec 7 Bool}
    (hstart : start = tick.startQRad) (hreached : reached = tick.reachedAtStart config)
    (h : Follows config records (Proposing (some tick)) s t) :
    wp (armArrivalGate config env tick.command.frankaTargetQRad start reached)
      (fun _ => ArmedFor config records tick) (Tracked config records) s t := by
  obtain ⟨c, hc, hproposed, holds, hsame⟩ := h
  subst hstart hreached
  unfold armArrivalGate setGate
  rw [wp_runIf]
  refine ⟨fun _ => ?_, fun hdisabled => absurd henabled hdisabled⟩
  rw [wp_bind, wp_update, wp_bind]
  -- the clock only changes the world
  refine wp_mono (Keeps.bind (TickSource.keeps_environment
    (I := fun s' t' => t' = t ∧ s'.arrivalGate =
      { s.arrivalGate with
        targetQRad := some tick.command.frankaTargetQRad
        startQRad := some tick.startQRad
        reachedAxes := some (tick.reachedAtStart config) })
    fun _ _ h => h) (fun _ => keeps_ofExcept _) _ t ⟨rfl, rfl⟩) ?_ ?_
  · rintro started s₁ t₁ ⟨rfl, hgate⟩
    rw [wp_update]
    refine ⟨c, started, hc, hproposed, holds, ?_⟩
    simp only [hgate, hsame]
    rfl
  · rintro e s₁ t₁ ⟨rfl, -⟩
    exact ⟨c, hc⟩

theorem keeps_clearPending {tick : PendingTick D S} :
    Keeps (ArmedFor config records tick)
      (update fun s => { s with pending := none } : TickM D S W Unit) :=
  gateOnly_armedFor.keeps_update fun _ => rfl

theorem ArmedFor.tracked {tick : PendingTick D S} (h : ArmedFor config records tick s t)
    (e : TickException D S) : Tracked config records e s t := by
  obtain ⟨c, -, hc, -⟩ := h
  exact ⟨c, hc⟩

theorem wp_commitOccluded_follows (henabled : config.frankaArrivalGateEnabled = true)
    {tick : PendingTick D S} (hkind : tick.occludedClosureHandOnly = true)
    (h : Follows config records (Proposing (some tick)) s t) :
    wp (commitOccluded config env tick) (fun _ => ArmedFor config records tick)
      (Tracked config records) s t := by
  unfold commitOccluded
  rw [wp_bind, wp_check]
  refine ⟨fun _ => h.traced, fun _ => ?_⟩
  rw [wp_bind, wp_check]
  refine ⟨fun _ => h.traced, fun _ => ?_⟩
  rw [wp_bind, wp_read]
  beta_reduce
  rw [wp_bind, wp_check]
  refine ⟨fun _ => h.traced, fun _ => ?_⟩
  rw [wp_bind, wp_update, wp_bind]
  refine wp_mono (wp_armArrivalGate_follows henabled ?_ ?_ (gateOnly_follows s _ t rfl h)) ?_
    fun _ _ _ h => h
  · unfold PendingTick.startQRad
    by_cases hlift : tick.occludedClosureClearanceLift = true
    · rw [if_pos hlift, if_neg fun hhand => Bool.false_ne_true (hhand.2.symm.trans hlift)]
    · rw [if_neg hlift, if_pos ⟨hkind, Bool.not_eq_true _ ▸ hlift⟩]
  · unfold PendingTick.reachedAtStart
    rw [if_pos hkind]
  · intro _ s₂ t₂ h₂
    exact wp_mono (keeps_clearPending s₂ t₂ h₂) (fun _ _ _ h => h) fun e _ _ h => h.tracked e

variable (config) in
theorem start_of_not_occluded {tick : PendingTick D S}
    (hkind : tick.occludedClosureHandOnly = false) :
    tick.measuredFrankaQRad = tick.startQRad ∧
      startAxes config tick.command.frankaTargetQRad tick.measuredFrankaQRad =
        tick.reachedAtStart config := by
  constructor
  · unfold PendingTick.startQRad
    rw [if_neg fun hhand => Bool.false_ne_true (hkind.symm.trans hhand.1)]
  · unfold PendingTick.reachedAtStart
    rw [if_neg fun hocc => Bool.false_ne_true (hkind.symm.trans hocc)]

theorem wp_commitFrozen_follows (henabled : config.frankaArrivalGateEnabled = true)
    {tick : PendingTick D S} (hkind : tick.occludedClosureHandOnly = false)
    (h : Follows config records (Proposing (some tick)) s t) :
    wp (commitFrozen config env tick) (fun _ => ArmedFor config records tick)
      (Tracked config records) s t := by
  obtain ⟨hstart, hreached⟩ := start_of_not_occluded config hkind
  unfold commitFrozen
  rw [wp_bind, wp_check]
  refine ⟨fun _ => h.traced, fun _ => ?_⟩
  rw [wp_bind, wp_check]
  refine ⟨fun _ => h.traced, fun _ => ?_⟩
  rw [wp_bind, wp_update, wp_bind]
  refine wp_mono (wp_armArrivalGate_follows henabled hstart hreached
    (gateOnly_follows s _ t rfl h)) ?_ fun _ _ _ h => h
  intro _ s₂ t₂ h₂
  exact wp_mono (keeps_clearPending s₂ t₂ h₂) (fun _ _ _ h => h) fun e _ _ h => h.tracked e

theorem arrivalGate_useSource (s : PolicyTickSource D S W) (sourceFrameId : ℕ) :
    (s.useSource sourceFrameId).arrivalGate = s.arrivalGate := by
  unfold PolicyTickSource.useSource
  by_cases h : some sourceFrameId = s.lastAcceptedPointcloudSourceFrameId
  · rw [if_pos h]
  · rw [if_neg h]

theorem wp_commitOrdinary_follows (henabled : config.frankaArrivalGateEnabled = true)
    {tick : PendingTick D S} (hkind : tick.occludedClosureHandOnly = false)
    (h : Follows config records (Proposing (some tick)) s t) :
    wp (commitOrdinary config env tick) (fun _ => ArmedFor config records tick)
      (Tracked config records) s t := by
  obtain ⟨hstart, hreached⟩ := start_of_not_occluded config hkind
  have hI : GateOnly (Follows config records (Proposing (some tick))) := gateOnly_follows
  have htracked : ∀ (e : TickException D S) (s' : PolicyTickSource D S W) t',
      Follows config records (Proposing (some tick)) s' t' → Tracked config records e s' t' :=
    fun _ _ _ h => h.traced
  unfold commitOrdinary
  cases tick.history with
  | none =>
    simp only []
    rw [wp_fail]
    exact h.traced
  | some history =>
    cases tick.observation with
    | none =>
      simp only []
      rw [wp_fail]
      exact h.traced
    | some observation =>
      simp only []
      rw [wp_bind, wp_update, wp_bind, wp_read]
      beta_reduce
      have h₁ := hI s _ t (arrivalGate_useSource s tick.pointcloudSourceFrameId) h
      rw [wp_bind, wp_check]
      refine ⟨fun _ => htracked _ _ _ h₁, fun _ => ?_⟩
      rw [wp_bind, wp_update, wp_bind]
      refine wp_mono (wp_armArrivalGate_follows henabled hstart hreached
        (hI _ _ t rfl h₁)) ?_ fun _ _ _ h => h
      intro _ s₄ t₄ h₄
      refine keeps_clearPending.wp_bind h₄ ?_ fun e _ _ h => h.tracked e
      intro _ s₅ t₅ h₅
      exact wp_mono (gateOnly_armedFor.keeps_recordPolicyIoLocked _ s₅ t₅ h₅)
        (fun _ _ _ h => h) fun e _ _ h => h.tracked e

theorem wp_commitPending_follows (henabled : config.frankaArrivalGateEnabled = true)
    {tick : PendingTick D S} (again : ExecutedActionCommit S)
    (h : Follows config records (Proposing (some tick)) s t) :
    wp (commitPending config env tick again) (fun _ => ArmedFor config records tick)
      (Tracked config records) s t := by
  have hI : GateOnly (Follows config records (Proposing (some tick))) := gateOnly_follows
  have htracked : ∀ (e : TickException D S) (s' : PolicyTickSource D S W) t',
      Follows config records (Proposing (some tick)) s' t' → Tracked config records e s' t' :=
    fun _ _ _ h => h.traced
  have hshaper : Keeps (Follows config records (Proposing (some tick)))
      (commitShaper tick.rh56HardwareProposal : TickM D S W Unit) := by
    unfold commitShaper
    cases tick.rh56HardwareProposal with
    | none => exact keeps_ret _
    | some proposal => exact (hI.keeps_shaperCall _).bind fun _ => keeps_ret _
  have hpolicy : Keeps (Follows config records (Proposing (some tick)))
      (commitPolicy env tick.command.sequence) := by
    unfold commitPolicy
    cases env.commitReplayProposal with
    | none => exact keeps_ret _
    | some commitReplayProposal => exact hI.keeps_environment _
  unfold commitPending
  refine (hI.keeps_mapperCall _).wp_bind h ?_ htracked
  intro _ s₁ t₁ h₁
  refine hshaper.wp_bind h₁ ?_ htracked
  intro _ s₂ t₂ h₂
  refine hpolicy.wp_bind h₂ ?_ htracked
  intro _ s₃ t₃ h₃
  unfold commitTick
  rw [wp_ite]
  refine ⟨fun hkind => wp_commitOccluded_follows henabled hkind h₃, fun hkind => ?_⟩
  rw [Bool.not_eq_true] at hkind
  rw [wp_ite]
  exact ⟨fun _ => wp_commitFrozen_follows henabled hkind h₃,
    fun _ => wp_commitOrdinary_follows henabled hkind h₃⟩

/-- **`commit`** arms the gate by the pending tick, or raises. -/
theorem wp_commit_follows (henabled : config.frankaArrivalGateEnabled = true) (ident : ℕ)
    (ledger : Option (ExecutedActionCommit S × ExecutedActionCommit S))
    (h : Follows config records (Proposing s.pending) s t) :
    wp (commit config env ident ledger)
      (fun _ s' t' => ∃ tick, s.pending = some tick ∧ ArmedFor config records tick s' t')
      (fun _ => Ends config records (Proposing s.pending)) s t := by
  unfold commit
  cases ledger with
  | none =>
    simp only []
    rw [wp_fail]
    exact .inl h
  | some ledger =>
    simp only []
    rw [wp_bind]
    refine wp_requireHealthyLocked (fun _ => ?_) fun _ _ => .inl h
    rw [wp_bind, wp_read]
    beta_reduce
    cases hpending : s.pending with
    | none =>
      rw [hpending] at h
      exact wp_latchAndRaise_lost _ h
    | some tick =>
      rw [hpending] at h
      simp only []
      rw [wp_ite]
      refine ⟨fun _ => wp_latchAndRaise_lost _ h, fun _ => ?_⟩
      rw [wp_ite]
      refine ⟨fun _ => wp_latchAndRaise_lost _ h, fun _ => ?_⟩
      rw [wp_ite]
      refine ⟨fun _ => wp_latchAndRaise_lost _ h, fun _ => ?_⟩
      refine wp_latching (E := Ends config records (Proposing (some tick))) (wp_mono
        (wp_commitPending_follows henabled ledger.2 h) (fun _ _ _ h => ⟨tick, rfl, h⟩)
        fun _ _ _ h reason => .inr (lost_of_tracked h reason))

/-! ## Calls that ask for no arm -/

theorem keeps_snapshot_follows {p : Option (PendingTick D S)} (n : ℕ) (now deadline : D) :
    Keeps (Follows config records (Proposing p)) (snapshot env n now deadline) := by
  intro s t h
  refine wp_mono (wp_snapshot (I := Follows config records (Proposing p))
    (fun _ _ _ h => gateOnly_follows _ _ _ rfl h) n now deadline h) ?_ ?_
  · rintro o s₁ t₁ ⟨h₁, rfl⟩
    exact h₁.event trivial fun _ hc => hc
  · rintro e s₁ t₁ ⟨h₁, rfl⟩
    exact h₁

theorem keeps_prime_follows {p : Option (PendingTick D S)} (index : ℤ) (now deadline : D) :
    Keeps (Follows config records (Proposing p))
      (primeNonActuatedStartupTick config env index now deadline) := by
  have hI : GateOnly (Follows config records (Proposing p)) := gateOnly_follows
  have hhold : ∀ (frameId : ℕ) (reason : String) (observed : D),
      Keeps (Follows config records (Proposing p))
        (startupHold config frameId reason observed : TickM D S W _) := by
    intro frameId reason observed
    exact (hI.keeps_holdLocked _ _ _ _ _).bind fun _ => keeps_ret _
  have haccept : ∀ (index : ℕ) o candidate previous raw (afterPolicy : D),
      Keeps (Follows config records (Proposing p))
        (acceptStartup config env index o candidate previous raw afterPolicy) := by
    intro index o candidate previous raw afterPolicy
    refine (keeps_ofExcept _).bind fun record => ?_
    refine Keeps.bind (hI.keeps_update fun s => arrivalGate_useSource s _) fun _ => ?_
    exact (hI.keeps_recordPolicyIoLocked _).bind fun _ => keeps_ret _
  have hinfer : ∀ (index : ℕ) o (deadline : D), Keeps (Follows config records (Proposing p))
      (inferStartup config env index o deadline) := by
    intro index o deadline
    refine keeps_read.bind fun s => ?_
    refine (keeps_ofExcept _).bind fun candidate => ?_
    refine (hI.keeps_environment _).bind fun output => ?_
    refine (keeps_ofExcept _).bind fun raw => ?_
    refine (keeps_check _ _).bind fun _ => ?_
    refine hI.keeps_nowMonotonic.bind fun afterPolicy => ?_
    refine (keeps_check _ _).bind fun _ => ?_
    refine (hI.keeps_pointcloudAge o).bind fun cloudAge => ?_
    refine Keeps.ite (hhold _ _ _) ?_
    refine (keeps_frankaStateAge o afterPolicy).bind fun age => ?_
    exact Keeps.ite (hhold _ _ _) (haccept _ _ _ _ _ _)
  have hframe : ∀ (index : ℕ) o (afterSnapshot deadline : D),
      Keeps (Follows config records (Proposing p))
        (checkStartupFrame config env index o afterSnapshot deadline) := by
    intro index o afterSnapshot deadline
    refine keeps_read.bind fun s => ?_
    refine (keeps_check _ _).bind fun _ => ?_
    refine Keeps.ite (hhold _ _ _) ?_
    refine (hI.keeps_pointcloudAge o).bind fun cloudAge => ?_
    exact Keeps.ite (hhold _ _ _) (hinfer _ _ _)
  have hobserve : ∀ (index : ℕ) (now deadline : D), Keeps (Follows config records (Proposing p))
      (observeStartup config env index now deadline) := by
    intro index now deadline
    refine (keeps_snapshot_follows _ _ _).bind fun o => ?_
    refine hI.keeps_nowMonotonic.bind fun afterSnapshot => ?_
    refine (keeps_check _ _).bind fun _ => (keeps_check _ _).bind fun _ => ?_
    refine (keeps_frankaStateAge o afterSnapshot).bind fun age => ?_
    exact Keeps.ite (hhold _ _ _) (hframe _ _ _ _)
  refine (keeps_ofExcept _).bind fun index => ?_
  refine (keeps_ofExcept _).bind fun callerNow => (keeps_ofExcept _).bind fun hardDeadline => ?_
  refine Keeps.bind (fun s t h => wp_requireHealthyLocked (fun _ => h) fun _ _ => h) fun _ => ?_
  refine keeps_read.bind fun s => ?_
  refine (keeps_check _ _).bind fun _ => (keeps_check _ _).bind fun _ => ?_
  refine (keeps_check _ _).bind fun _ => (keeps_check _ _).bind fun _ => ?_
  refine (keeps_check _ _).bind fun _ => (hobserve _ _ _).attempt.bind fun r => ?_
  cases r with
  | ok result => exact keeps_ret _
  | error e =>
    cases e with
    | hold h => exact hI.keeps_nowMonotonic.bind fun observed => hhold _ _ _
    | raised error => exact Keeps.bind (hI.keeps_update fun _ => rfl) fun _ => keeps_fail _

theorem keeps_warmup_follows {p : Option (PendingTick D S)} (rounds : ℕ) (deadline maximum : D) :
    Keeps (Follows config records (Proposing p))
      (warmupBeforeFirstAction config env rounds deadline maximum) := by
  have hI : GateOnly (Follows config records (Proposing p)) := gateOnly_follows
  have hlook : ∀ (deadline : D) newerThan, Keeps (Follows config records (Proposing p))
      (lookForWarmup config env deadline newerThan) := by
    intro deadline newerThan
    refine hI.keeps_nowMonotonic.bind fun now => ?_
    refine (keeps_snapshot_follows _ _ _).bind fun o => ?_
    refine hI.keeps_nowMonotonic.bind fun checked => ?_
    refine Keeps.ite (keeps_ret _) (Keeps.bind ?_ fun _ => keeps_ret _)
    refine Keeps.ite (keeps_ret _) ?_
    refine (hI.keeps_pointcloudAge o).bind fun cloudAge => ?_
    exact Keeps.ite (keeps_ret _) ((keeps_frankaStateAge o checked).bind fun _ => keeps_ret _)
  have hloop : ∀ (hardDeadline deadline : D) newerThan rounds,
      Keeps (Follows config records (Proposing p))
        (warmupLoop config env hardDeadline deadline newerThan rounds) := by
    intro hardDeadline deadline newerThan rounds
    induction rounds with
    | zero => exact keeps_ret _
    | succ rounds ih =>
      refine hI.keeps_nowMonotonic.bind fun now => ?_
      refine Keeps.ite ?_ (keeps_ret _)
      refine (keeps_withoutHolds (hlook hardDeadline newerThan)).bind fun found => ?_
      cases found with
      | some o => exact keeps_ret _
      | none =>
        refine Keeps.bind ?_ fun _ => ih
        exact Keeps.bind (hI.keeps_update fun _ => rfl) fun _ => hI.keeps_environment _
  have hinfer : ∀ o, Keeps (Follows config records (Proposing p))
      (discardedInference config env o) := by
    intro o
    refine keeps_read.bind fun s => (keeps_ofExcept _).bind fun candidate => ?_
    refine hI.keeps_nowMonotonic.bind fun started => ?_
    refine (hI.keeps_environment _).bind fun output => ?_
    refine (keeps_ofExcept _).bind fun raw => (keeps_check _ _).bind fun _ => ?_
    exact hI.keeps_nowMonotonic.bind fun finished => hI.keeps_update fun _ => rfl
  refine (keeps_ofExcept _).bind fun hardDeadline => (keeps_ofExcept _).bind fun limit => ?_
  refine Keeps.bind (fun s t h => wp_requireHealthyLocked (fun _ => h) fun _ _ => h) fun _ => ?_
  refine keeps_read.bind fun s => ?_
  refine (keeps_check _ _).bind fun _ => (keeps_check _ _).bind fun _ => ?_
  refine Keeps.ite (hI.keeps_update fun _ => rfl) ?_
  refine hI.keeps_nowMonotonic.bind fun now => (hloop _ _ _ _).bind fun warmed => ?_
  cases warmed with
  | none => exact keeps_fail _
  | some o =>
    refine (hinfer o).bind fun _ => (hloop _ _ _ _).bind fun ready => ?_
    cases ready with
    | none => exact keeps_fail _
    | some _ => exact hI.keeps_update fun _ => rfl

/-! ## Calls -/

variable (config records) in
/-- **What a call leaves**: the law took the events, and as long as no fault is latched it agrees
with the source. -/
def Settled (s : PolicyTickSource D S W) (t : List (TickEvent D S)) : Prop :=
  ∃ c, Traced config records t c ∧
    (s.faultReason = none → c.proposed = s.pending ∧ SameGate c.gate s.arrivalGate)

theorem Follows.settled (h : Follows config records (Proposing s.pending) s t) :
    Settled config records s t := by
  obtain ⟨c, hc, hproposed, hsame⟩ := h
  exact ⟨c, hc, fun _ => ⟨hproposed, hsame⟩⟩

theorem Lost.settled (h : Lost config records s t) : Settled config records s t := by
  obtain ⟨hfault, c, hc⟩ := h
  exact ⟨c, hc, fun hhealthy => absurd hhealthy hfault⟩

theorem Settled.event {e : TickEvent D S} (h : Settled config records s t) (hquiet : e.IsQuiet) :
    Settled config records s (t ++ [e]) := by
  obtain ⟨c, hc, hagrees⟩ := h
  exact ⟨_, hc.snoc (.event hquiet) rfl, hagrees⟩

theorem settled_of_ends {p : Option (PendingTick D S)}
    (h : Ends config records (Proposing p) s t) (hpending : s.pending = p) :
    Settled config records s t := by
  subst hpending
  rcases h with h | h
  · exact h.settled
  · exact h.settled

/-- **A preparation** ends with a hold, with an admitted proposal, or raises. -/
theorem settled_prepare (henabled : config.frankaArrivalGateEnabled = true) (sequence : ℤ)
    (previous : Vec 13 S) (now deadline : D)
    (h : Follows config records (Proposing s.pending) s t) :
    wp (callOf config env (.prepare sequence previous now deadline))
      (fun _ => Settled config records)
      (fun _ s' t' => Settled config records s' (t' ++ [.raised])) s t := by
  unfold callOf
  rw [wp_bind]
  refine wp_mono (wp_and (wp_prepare_follows henabled sequence previous now deadline h)
    (wp_prepare sequence previous now deadline)) ?_ ?_
  · rintro r s₁ t₁ ⟨⟨hidle, hproposes⟩, -, hprepared⟩
    rw [wp_emit]
    cases r with
    | hold hold =>
      have hpending : s₁.pending = none :=
        (congrArg TickView.pending hprepared.1).trans hidle
      have hfollows : Follows config records (Proposing s₁.pending) s₁ t₁ :=
        hproposes.mono fun c hc => hc.1.trans hpending.symm
      exact hfollows.settled.event trivial
    | command tick =>
      obtain ⟨c, hc, ⟨hnone, hadmits⟩, hsame⟩ := hproposes
      have hpending : s₁.pending = some tick := congrArg TickView.pending hprepared.1
      exact ⟨_, hc.snoc (.prepared hnone (hadmits tick rfl)) rfl,
        fun _ => ⟨hpending.symm, hsame⟩⟩
  · rintro e s₁ t₁ ⟨hends, hrefused⟩
    have hpending : s₁.pending = s.pending := congrArg TickView.pending hrefused.1
    exact (settled_of_ends hends hpending).event trivial

/-- **A commit** arms the gate by the proposed tick, or raises. -/
theorem settled_commit (henabled : config.frankaArrivalGateEnabled = true) (ident : ℕ)
    (ledger : Option (ExecutedActionCommit S × ExecutedActionCommit S))
    (h : Follows config records (Proposing s.pending) s t) :
    wp (callOf config env (.commit ident ledger)) (fun _ => Settled config records)
      (fun _ s' t' => Settled config records s' (t' ++ [.raised])) s t := by
  unfold callOf
  rw [wp_bind]
  refine wp_mono (wp_and (wp_commit_follows henabled ident ledger h) (wp_commit ident ledger)) ?_ ?_
  · rintro _ s₁ t₁ ⟨⟨tick, hpending, harmed⟩, -, tick', hpending', rfl, ⟨hview, -⟩, -⟩
    obtain rfl := Option.some.inj (hpending.symm.trans hpending')
    obtain ⟨c, started, hc, hproposed, hsame⟩ := harmed
    rw [wp_emit]
    have hidle : s₁.pending = none :=
      (congrArg TickView.pending hview).trans (s.view.commit_pending tick)
    have hstep : ArrivalStep config c (.committed tick started : ArrivalEntry env)
        { c with gate := c.gate.armedBy config tick started, proposed := none } :=
      .committed hproposed
    exact ⟨_, hc.snoc hstep rfl, fun _ => ⟨hidle.symm, hsame⟩⟩
  · rintro e s₁ t₁ ⟨hends, hview | ⟨-, hfault, -⟩⟩
    · have hpending : s₁.pending = s.pending := congrArg TickView.pending hview.1
      exact (settled_of_ends hends hpending).event trivial
    · have htracked : ∃ c, Traced config records t₁ c := by
        rcases hends with hfollows | hlost
        · exact hfollows.traced
        · exact hlost.2
      exact (Lost.settled ⟨hfault, htracked⟩).event trivial

theorem wp_feedback_follows (sequence : ℤ) (feedback : env.Feedback)
    (h : Follows config records P s t) :
    wp (commitRh56FeedbackAfterDualAck env sequence feedback) (fun _ => Follows config records P)
      (fun _ => Ends config records P) s t := by
  have hI : GateOnly (Follows config records P) := gateOnly_follows
  unfold commitRh56FeedbackAfterDualAck
  rw [wp_bind]
  refine wp_requireHealthyLocked (fun _ => ?_) fun _ _ => .inl h
  rw [wp_bind, wp_read]
  beta_reduce
  rw [wp_ite]
  refine ⟨fun _ => wp_latchAndRaise_lost _ h, fun _ => ?_⟩
  rw [wp_ite]
  refine ⟨fun _ => wp_latchAndRaise_lost _ h, fun _ => ?_⟩
  cases env.commitRh56FeedbackAfterDualAck with
  | none =>
    simp only []
    rw [wp_ret]
    exact h
  | some observer =>
    exact wp_latching (E := Ends config records P) (wp_mono (hI.keeps_environment _ s t h)
      (fun _ _ _ h => h) fun e _ _ h reason => .inr (lost_of_tracked (e := e) h.traced reason))

theorem settled_callOf (henabled : config.frankaArrivalGateEnabled = true) (call : TickCall env)
    (h : Follows config records
      (fun c => c.proposed = s.pending ∧ c.presented = call.measured) s t) :
    wp (callOf config env call) (fun _ => Settled config records)
      (fun _ s' t' => Settled config records s' (t' ++ [.raised])) s t := by
  have hproposing : Follows config records (Proposing s.pending) s t := h.mono fun _ hc => hc.1
  -- a call after which the view is unchanged
  have hsame : ∀ (s' : PolicyTickSource D S W) t',
      Follows config records (Proposing s.pending) s' t' → s'.view = s.view →
      Settled config records s' t' := by
    intro s' t' h' hview
    have hpending : s'.pending = s.pending := congrArg TickView.pending hview
    exact settled_of_ends (.inl h') hpending
  cases call with
  | warmup rounds hardDeadline maximum =>
    have hview : Refused s.view t s t := ⟨rfl, .refl t⟩
    exact wp_mono (wp_and
      (keeps_warmup_follows rounds hardDeadline maximum s t hproposing)
      (keeps_warmup rounds hardDeadline maximum s t hview))
      (fun _ s' t' h' => hsame s' t' h'.1 h'.2.1)
      fun _ s' t' h' => (hsame s' t' h'.1 h'.2.1).event trivial
  | prime index now hardDeadline =>
    unfold callOf
    rw [wp_bind]
    refine wp_mono (wp_and (keeps_prime_follows index now hardDeadline s t hproposing)
      (wp_prime index now hardDeadline)) ?_ ?_
    · rintro r s₁ t₁ ⟨hfollows, -, -, hdone⟩
      rw [wp_emit]
      cases r with
      | hold hold => exact (hsame s₁ t₁ hfollows hdone.1).event trivial
      | record record =>
        obtain ⟨o, -, -, -, ⟨candidate, -, hview⟩, -⟩ := hdone
        have hpending : s₁.pending = s.pending :=
          (congrArg TickView.pending hview).trans (s.view.prime_pending o candidate _)
        exact (settled_of_ends (.inl hfollows) hpending).event trivial
    · rintro e s₁ t₁ ⟨hfollows, hrefused | ⟨-, -, hfault, -⟩⟩
      · exact (hsame s₁ t₁ hfollows hrefused.1).event trivial
      · exact (Lost.settled ⟨hfault, hfollows.traced⟩).event trivial
  | prepare sequence previous now hardDeadline =>
    exact settled_prepare henabled sequence previous now hardDeadline hproposing
  | commit ident ledger => exact settled_commit henabled ident ledger hproposing
  | feedback sequence feedback =>
    refine wp_mono (wp_and (wp_feedback_follows sequence feedback hproposing)
      (wp_feedback sequence feedback)) (fun _ s' t' h' => hsame s' t' h'.1 h'.2.1) ?_
    rintro e s₁ t₁ ⟨hends, hview, -⟩
    have hpending : s₁.pending = s.pending := congrArg TickView.pending hview
    exact (settled_of_ends hends hpending).event trivial
  | abort ident reason =>
    refine wp_mono (wp_abort ident reason) ?_ fun _ _ _ h' => h'.elim
    rintro _ s₁ t₁ ⟨⟨-, rfl⟩, hfault⟩
    exact Lost.settled ⟨hfault, h.traced⟩
  | checkArrival measured now =>
    unfold callOf
    rw [wp_bind]
    have hcheck : wp (checkFrankaArrivalGate config measured now)
        (fun _ => Follows config records (Proposing s.pending))
        (fun _ => Ends config records (Proposing s.pending)) s t := by
      unfold checkFrankaArrivalGate
      rw [wp_bind]
      refine wp_requireHealthyLocked (fun _ => ?_) fun _ _ => .inl hproposing
      refine wp_mono (wp_checkGate henabled (fun _ _ hc => hc) (fun c hc => ?_) now h)
        (fun _ _ _ h' => h'.mono fun _ hc => hc.1.1) ?_
      · rw [hc.2]
        exact List.mem_singleton.mpr rfl
      · rintro e s₁ t₁ (h₁ | ⟨h₁, -⟩)
        · exact .inl (h₁.mono fun _ hc => hc.1)
        · exact .inr h₁
    refine wp_mono (wp_and hcheck (wp_checkFrankaArrivalGate env measured now)) ?_ ?_
    · rintro arrived s₁ t₁ ⟨hfollows, hview, -⟩
      rw [wp_ret]
      exact hsame s₁ t₁ hfollows hview
    · rintro e s₁ t₁ ⟨hends, hview, -⟩
      have hpending : s₁.pending = s.pending := congrArg TickView.pending hview
      exact (settled_of_ends hends hpending).event trivial

theorem settled_performCall (henabled : config.frankaArrivalGateEnabled = true)
    (call : TickCall env) (h : Settled config records s []) :
    wp (performCall config env call) (fun _ => Settled config (records ++ [.inl (s, call)]))
      (fun _ => Settled config (records ++ [.inl (s, call)])) s [] := by
  obtain ⟨c, hc, hagrees⟩ := h
  -- the call is recorded
  have hcalled : Traced config (records ++ [.inl (s, call)]) []
      { c with presented := call.measured } := by
    obtain ⟨history, hrecord, haccepts⟩ := hc
    have hstep : ArrivalStep config c (.called s call) { c with presented := call.measured } :=
      .called fun hhealthy => (hagrees hhealthy).2
    refine ⟨history ++ [.called s call], ?_, .snoc haccepts hstep⟩
    rw [List.flatMap_append, hrecord, List.flatMap_singleton]
    simp [ArrivalEntry.record]
  have hcall : wp (callOf config env call)
      (fun _ => Settled config (records ++ [.inl (s, call)]))
      (fun _ s' t' => Settled config (records ++ [.inl (s, call)]) s' (t' ++ [.raised])) s [] := by
    by_cases hfault : s.faultReason = none
    · obtain ⟨hproposed, hsame⟩ := hagrees hfault
      exact settled_callOf henabled call ⟨_, hcalled, ⟨hproposed, rfl⟩, hsame⟩
    · have hstay : ∀ (s' : PolicyTickSource D S W) t',
          ViewIs s.view [] s' t' ∧ s'.faultReason ≠ none →
          Settled config (records ++ [.inl (s, call)]) s' t' := by
        rintro s' t' ⟨⟨-, rfl⟩, hfault'⟩
        exact Lost.settled ⟨hfault', _, hcalled⟩
      exact wp_mono (wp_callOf_faulted hfault call) (fun _ s' t' hs' => hstay s' t' hs')
        fun _ s' t' hs' => (hstay s' t' hs').event trivial
  unfold performCall
  rw [wp_bind, wp_attempt]
  refine wp_mono hcall (fun u s' t' hs' => ?_) fun e s' t' hs' => ?_
  · simp only []
    rw [wp_ret]
    exact hs'
  · simp only []
    rw [wp_emit]
    exact hs'

theorem settled_run (henabled : config.frankaArrivalGateEnabled = true) (world : W)
    (mapper : TransactionalV94ActionMapper D S) (shaper : Option RH56Shaper)
    (calls : List (TickCall env)) :
    Settled config
      ((tickMachine config env).recording.trace (.fresh config world mapper shaper) calls)
      ((tickMachine config env).run (.fresh config world mapper shaper) calls) [] := by
  have hstart : Settled config ([] : List ((PolicyTickSource D S W × TickCall env) ⊕ TickEvent D S))
      (.fresh config world mapper shaper : PolicyTickSource D S W) [] :=
    ⟨.start, ⟨[], rfl, .start⟩, fun _ => ⟨rfl, .refl _⟩⟩
  have hrun := (tickMachine config env).recording.monitor_induction
    (P := fun s records => Settled config records s []) hstart (fun s records call h => ?_) calls
  · rw [Machine.run_recording] at hrun
    exact hrun
  · obtain ⟨c, ⟨history, hrecord, haccepts⟩, hagrees⟩ :=
      wp_outcome (settled_performCall henabled call h)
    refine ⟨c, ⟨history, ?_, haccepts⟩, hagrees⟩
    rw [hrecord, List.nil_append, List.map_nil, List.append_nil, List.append_assoc]
    rfl

/-! ## The gate -/

/-- **A check that finds an axis unreached after the timeout latches a fault.** -/
def TimeoutLatches (config : TickSourceConfig D S) (s : PolicyTickSource D S W) : Prop :=
  ∀ (target start measured : FiniteVec 7 S) (reached : Vec 7 Bool) (started now : D),
    s.arrivalGate.targetQRad = some target → s.arrivalGate.startQRad = some start →
    s.arrivalGate.reachedAxes = some reached → s.arrivalGate.startedMonotonicS = some started →
    FloatArith.isFinite now = true → ¬ now < started →
    ¬ (∀ axis, reachedAxes config reached target start measured axis = true) →
    config.frankaArrivalGateTimeoutS ≤ now - started →
    (checkFrankaArrivalGateLocked config measured.1 now s).1.isOk = false ∧
      (checkFrankaArrivalGateLocked config measured.1 now s).2.1.faultReason ≠ none

theorem timeoutLatches (henabled : config.frankaArrivalGateEnabled = true)
    (s : PolicyTickSource D S W) : TimeoutLatches config s := by
  intro target start measured reached started now htarget hstart hreached hstarted hfinite hafter
    hopen htime
  have hcheck : wp (checkFrankaArrivalGateLocked config measured.1 now)
      (fun _ _ _ => False) (fun _ s' _ => s'.faultReason ≠ none) s [] := by
    unfold checkFrankaArrivalGateLocked
    rw [wp_bind, wp_read]
    beta_reduce
    rw [henabled, if_neg (by decide), htarget, hstart, hreached, hstarted]
    simp only []
    have hmeasured : readonlyFloatArray measured.1 "arrival-gate measured_franka_q_rad" =
        .ok measured := dif_pos measured.2
    have hnow : finiteScalar now "arrival-gate monotonic time" = .ok now := if_pos hfinite
    rw [hmeasured, hnow, wp_bind, wp_ofExcept]
    refine ⟨fun measured' hmeasured' => ?_, fun _ h => ?_⟩
    · obtain rfl := Except.ok.inj (ofSource_eq_ok.mp hmeasured')
      rw [wp_bind, wp_ofExcept]
      refine ⟨fun now' hnow' => ?_, fun _ h => ?_⟩
      · obtain rfl := Except.ok.inj (ofSource_eq_ok.mp hnow')
        rw [wp_bind, wp_check]
        refine ⟨fun hbefore => absurd hbefore hafter, fun _ => ?_⟩
        unfold judgeArrival setGate latchLocked
        dsimp only
        have hall : ¬ (List.finRange 7).all
            (reachedAxes config reached target start measured) = true := by
          rw [List.all_eq_true]
          exact fun h => hopen fun axis => h axis (List.mem_finRange axis)
        rw [wp_bind, wp_update, if_neg hall, if_pos htime, wp_bind, wp_update, wp_fail]
        exact Option.some_ne_none _
      · cases h
    · cases h
  have hend := wp_result (P := fun r s' (_ : List (TickEvent D S)) =>
    r.isOk = false ∧ s'.faultReason ≠ none) (wp_mono hcheck (fun _ _ _ h => h.elim)
      fun _ _ _ h => ⟨rfl, h⟩)
  exact hend

def gatedConfig : TickSourceConfig Binary64 Binary32 :=
  { relaxedConfig 0 with
    frankaArrivalGateEnabled := true
    frankaArrivalGateToleranceRad := FloatArith.ofRat (1 / 100)
    frankaArrivalGateTimeoutS := FloatArith.ofRat (35 / 100)
    frankaArrivalGateRetryIntervalS := FloatArith.ofRat (1 / 100) }

def armJoints (first others : Fin 100) : FiniteVec 7 Binary32 :=
  ⟨fun axis => FloatArith.ofRat ((if axis = 0 then first.1 else others.1 : ℕ) / 1000), by
    have hfinite : ∀ angle : Fin 100,
        FloatArith.isFinite (FloatArith.ofRat ((angle.1 : ℚ) / 1000) : Binary32) = true := by
      decide +kernel
    rw [Vec.allFinite_iff]
    intro axis
    by_cases h : axis = 0
    · rw [if_pos h]
      exact hfinite first
    · rw [if_neg h]
      exact hfinite others⟩

def armObserved (frame : ℕ) (joints : FiniteVec 7 Binary32) :
    Except (TickException Binary64 Binary32) (V94PolicyObservation Binary64 Binary32) :=
  .ok { observationOf frame frame with measuredFrankaQRad := joints }

def armOccluded (frame : ℕ) :
    Except (TickException Binary64 Binary32) (V94PolicyObservation Binary64 Binary32) :=
  .error (.hold ⟨frame, "object_pointcloud_transient_invalid:occluded", none⟩)

abbrev ArmScript :=
  List (Except (TickException Binary64 Binary32) (V94PolicyObservation Binary64 Binary32)) ×
    List (FiniteVec 7 Binary32)

def nextTarget (w : ArmScript) : PolicyOutput Binary64 Binary32 × ArmScript :=
  ({ replayedOutput with exactFrankaTargetQRad := w.2.head?.map (·.1) }, (w.1, w.2.tail))

/-- A world that follows a script at time zero; its policy also closes the hand during an
occlusion. -/
def armWorld : TickWorld Binary64 Binary32 ArmScript where
  monotonic w := (.ok FloatArith.zero, w)
  realtime w := (.ok FloatArith.zero, w)
  snapshot _ _ _ w := match w.1 with
    | [] => (.ok none, w)
    | .ok observation :: rest => (.ok (some observation), (rest, w.2))
    | .error e :: rest => (.error e, (rest, w.2))
  act _ w := (.ok (nextTarget w).1, (nextTarget w).2)
  actionForSequence := none
  actionForOccludedClosure := some fun _ _ w => (.ok (some (nextTarget w).1), (nextTarget w).2)
  actionForFrozenPostClosure := none
  commitReplayProposal := none
  discardReplayProposal := none
  Feedback := Unit
  commitRh56FeedbackAfterDualAck := none
  recordTick := none
  sleep _ w := (.ok (), w)

def armCalls (ticks : ℕ) : List (TickCall armWorld) :=
  (List.range ticks).flatMap fun n : ℕ =>
    [.prepare (n + 1 : ℕ) (zeroVec 13).1 FloatArith.zero FloatArith.one,
      .commit n (some (zeroCommit (n + 1), zeroCommit (n + 1)))]

def armRun (script : ArmScript) (ticks : ℕ) : List (TickEvent Binary64 Binary32) :=
  (tickMachine gatedConfig armWorld).trace
    (.fresh gatedConfig script (.fresh plainConfig (zeroVec 7) (zeroVec 6)) none) (armCalls ticks)

def proposedTargets (trace : List (TickEvent Binary64 Binary32)) :
    List (Bool × FiniteVec 7 Binary32) :=
  trace.filterMap fun
    | .prepared tick =>
      some (!tick.command.frankaTargetQRad.1.arrayEqual
        tick.mapperProposal.priorArmTargetQRad.1, tick.command.frankaTargetQRad)
    | _ => none

def committedIdents (trace : List (TickEvent Binary64 Binary32)) : List ℕ :=
  trace.filterMap fun
    | .committed ident => some ident
    | _ => none

def observedJoints (trace : List (TickEvent Binary64 Binary32)) : List (FiniteVec 7 Binary32) :=
  trace.filterMap fun
    | .observed o => some o.measuredFrankaQRad
    | _ => none

def arrivingScript : ArmScript :=
  ([armObserved 1 (armJoints 0 0), armObserved 2 (armJoints 50 50)],
    [armJoints 50 50, armJoints 60 60])

def occludedScript : ArmScript :=
  ([armObserved 1 (armJoints 0 0), armOccluded 2, armObserved 3 (armJoints 0 0)],
    [armJoints 50 50, armJoints 50 50, armJoints 60 60])

def driftingScript : ArmScript :=
  ([armObserved 1 (armJoints 0 5), armObserved 2 (armJoints 50 30)],
    [armJoints 50 0, armJoints 60 0])

instance (target measured : FiniteVec 7 Binary32) (axis : Fin 7) :
    Decidable (Within gatedConfig target measured axis) :=
  inferInstanceAs (Decidable (_ ≤ _))

instance (target start measured : FiniteVec 7 Binary32) (axis : Fin 7) :
    Decidable (Crossed Binary64 target start measured axis) :=
  inferInstanceAs (Decidable (_ ≤ _))

end FrankaDeploy.TickSource
