import FrankaDeploy.TickSource.Calls

/-! # What the calls of the tick source change

The view of a source is the part of its state that only accepted ticks and proposals change. Each
helper leaves the view alone, and each call has one specification: what it does to the view and
which events it emits. Everything that is proved about runs follows from these. -/

set_option linter.unusedSectionVars false

namespace FrankaDeploy.TickSource

open FrankaDeploy.Foundation FrankaDeploy.ClosedLoop FrankaDeploy.Contracts
open FrankaDeploy.Foundation.Program
open scoped FloatArith

variable {D S : Type} [FloatArith D] [FloatArith S] [FloatCast D S] {W : Type}

/-! ## The view -/

variable (D S) in
/-- **What ticks are about.** -/
structure TickView where
  history : Option (HistoryCandidate S)
  previous : FiniteVec 13 S
  pending : Option (PendingTick D S)
  sequence : ℕ
  frameId : Option ℕ
  sourceFrameId : Option ℕ
  uses : ℕ

def PolicyTickSource.view (s : PolicyTickSource D S W) : TickView D S :=
  ⟨s.history, s.policyPreviousAction13, s.pending, s.lastCommittedSequence, s.lastCommittedFrameId,
    s.lastAcceptedPointcloudSourceFrameId, s.acceptedUsesForLastFrame⟩

def PolicyTickSource.targets (s : PolicyTickSource D S W) :
    TransactionalV94ActionMapper D S × Option RH56Shaper :=
  (s.mapper, s.rh56HardwareCommandShaper)

namespace TickView

variable (v : TickView D S)

def useSource (sourceFrameId : ℕ) : TickView D S :=
  if some sourceFrameId = v.sourceFrameId then { v with uses := v.uses + 1 }
  else { v with sourceFrameId := some sourceFrameId, uses := 1 }

def usesOf (sourceFrameId : ℕ) : ℕ := if some sourceFrameId = v.sourceFrameId then v.uses else 0

def prime (observation : V94PolicyObservation D S) (candidate : HistoryCandidate S)
    (action : FiniteVec 13 S) : TickView D S :=
  { v.useSource observation.pointcloudSourceFrameId with
    history := some candidate
    previous := action
    frameId := some observation.cameraFrameId }

def commit (tick : PendingTick D S) : TickView D S :=
  if tick.occludedClosureHandOnly = true then
    { v with
      previous := tick.command.executedPolicyAction13
      sequence := tick.command.sequence
      pending := none }
  else if tick.frozenPostClosureWithoutPointcloud = true then
    { v with
      previous := tick.command.executedPolicyAction13
      sequence := tick.command.sequence
      frameId := some tick.cameraFrameId
      pending := none }
  else
    { v.useSource tick.pointcloudSourceFrameId with
      history := tick.history
      previous := tick.command.executedPolicyAction13
      sequence := tick.command.sequence
      frameId := some tick.cameraFrameId
      pending := none }

theorem useSource_eq (sourceFrameId : ℕ) :
    v.useSource sourceFrameId = { v with
      sourceFrameId := (v.useSource sourceFrameId).sourceFrameId
      uses := (v.useSource sourceFrameId).uses } := by
  unfold useSource
  by_cases h : some sourceFrameId = v.sourceFrameId
  · rw [if_pos h]
  · rw [if_neg h]

theorem prime_pending (observation : V94PolicyObservation D S) (candidate : HistoryCandidate S)
    (action : FiniteVec 13 S) : (v.prime observation candidate action).pending = v.pending := by
  unfold prime
  rw [useSource_eq]

theorem commit_pending (tick : PendingTick D S) : (v.commit tick).pending = none := by
  unfold commit
  by_cases hocc : tick.occludedClosureHandOnly = true
  · rw [if_pos hocc]
  · rw [if_neg hocc]
    by_cases hfrozen : tick.frozenPostClosureWithoutPointcloud = true
    · rw [if_pos hfrozen]
    · rw [if_neg hfrozen]

end TickView

theorem view_useSource (s : PolicyTickSource D S W) (sourceFrameId : ℕ) :
    (s.useSource sourceFrameId).view = s.view.useSource sourceFrameId := by
  unfold PolicyTickSource.useSource TickView.useSource
  by_cases h : some sourceFrameId = s.lastAcceptedPointcloudSourceFrameId
  · rw [if_pos h, if_pos (show some sourceFrameId = s.view.sourceFrameId from h)]
    rfl
  · rw [if_neg h, if_neg (show ¬ some sourceFrameId = s.view.sourceFrameId from h)]
    rfl

/-! ## What the helpers leave alone -/

/-- **A passive relation**: the clocks, the provider, latched faults and the arrival gate do not
matter to it. -/
structure Passive (env : TickWorld D S W)
    (I : PolicyTickSource D S W → List (TickEvent D S) → Prop) : Prop where
  monotonic : ∀ s t, I s t → I { s with world := (env.monotonic s.world).2 } t
  realtime : ∀ s t, I s t → I { s with world := (env.realtime s.world).2 } t
  snapshot : ∀ n now deadline s t, I s t →
    I { s with world := (env.snapshot n now deadline s.world).2 } t
  latched : ∀ s t reason, I s t → I (s.latched reason) t
  gate : ∀ s t gate, I s t → I { s with arrivalGate := gate } t

variable {config : TickSourceConfig D S} {env : TickWorld D S W}
  {I : PolicyTickSource D S W → List (TickEvent D S) → Prop}

theorem keeps_environment {α : Type} {f : W → Except (TickException D S) α × W}
    (hf : ∀ s t, I s t → I { s with world := (f s.world).2 } t) : Keeps I (environment f) :=
  keeps_ofStep hf

theorem keeps_holdLocked (hcount : ∀ s t, I s t → I { s with holdCount := s.holdCount + 1 } t)
    (sequence frameId : ℕ) (reason : String) (observed : D) (retryInterval : Option D) :
    Keeps I (holdLocked config sequence frameId reason observed retryInterval : TickM D S W _) := by
  refine (keeps_update hcount).bind fun _ => ?_
  exact (keeps_ofExcept _).bind fun _ => keeps_ofExcept _

section Passive

variable (hI : Passive env I)
include hI

theorem Passive.keeps_nowMonotonic : Keeps I (nowMonotonic env) :=
  (keeps_environment hI.monotonic).bind fun _ => keeps_ofExcept _

theorem Passive.keeps_nowRealtime : Keeps I (nowRealtime env) :=
  (keeps_environment hI.realtime).bind fun _ => keeps_ofExcept _

theorem Passive.keeps_latchLocked (reason : String) : Keeps I (latchLocked reason) :=
  keeps_update fun s t h => hI.latched s t reason h

theorem Passive.keeps_latchAndRaise {α : Type} (reason : String) :
    Keeps I (latchAndRaise reason : TickM D S W α) := by
  refine (hI.keeps_latchLocked reason).bind fun _ => ?_
  exact keeps_read.bind fun _ => keeps_fail _

theorem Passive.keeps_setGate (f : ArrivalGate D S → ArrivalGate D S) :
    Keeps I (setGate f : TickM D S W Unit) :=
  keeps_update fun s t h => hI.gate s t _ h

theorem Passive.keeps_pointcloudAge (observation : V94PolicyObservation D S) :
    Keeps I (pointcloudAge config env observation) := by
  refine hI.keeps_nowRealtime.bind fun _ => ?_
  exact (keeps_check _ _).bind fun _ => (keeps_check _ _).bind fun _ => keeps_ret _

theorem Passive.keeps_frankaStateAge (observation : V94PolicyObservation D S) (now : D) :
    Keeps I (frankaStateAge config observation now : TickM D S W D) := by
  refine (keeps_ofExcept _).bind fun _ => ?_
  exact (keeps_check _ _).bind fun _ => keeps_ret _

theorem Passive.keeps_judgeArrival (target start measured : FiniteVec 7 S) (reached : Vec 7 Bool)
    (elapsed : D) :
    Keeps I (judgeArrival config target start measured reached elapsed : TickM D S W Bool) := by
  refine (hI.keeps_setGate _).bind fun _ => ?_
  refine Keeps.ite ?_ (Keeps.ite ?_ (keeps_ret _))
  · -- all axes have arrived
    exact (hI.keeps_setGate _).bind fun _ => keeps_ret _
  · -- the timeout latches a fault
    exact (hI.keeps_latchLocked _).bind fun _ => keeps_fail _

theorem Passive.keeps_checkFrankaArrivalGateLocked (measured : Vec 7 S) (now : D) :
    Keeps I (checkFrankaArrivalGateLocked config measured now : TickM D S W Bool) := by
  refine keeps_read.bind fun s => ?_
  refine Keeps.ite (keeps_ret _) ?_
  cases s.arrivalGate.targetQRad with
  | none => exact keeps_ret _
  | some target =>
    cases s.arrivalGate.startedMonotonicS with
    | none => exact keeps_fail _
    | some started =>
      refine (keeps_ofExcept _).bind fun measured => ?_
      refine (keeps_ofExcept _).bind fun now => ?_
      refine (keeps_check _ _).bind fun _ => ?_
      cases s.arrivalGate.startQRad with
      | none => exact keeps_fail _
      | some start =>
        cases s.arrivalGate.reachedAxes with
        | none => exact keeps_fail _
        | some reached => exact hI.keeps_judgeArrival target start measured reached _

theorem Passive.keeps_countGateHold : Keeps I (countGateHold : TickM D S W Unit) :=
  hI.keeps_setGate _

theorem Passive.keeps_armArrivalGate (target start : FiniteVec 7 S) (reached : Vec 7 Bool) :
    Keeps I (armArrivalGate config env target start reached) := by
  refine Keeps.runIf _ ?_
  refine (hI.keeps_setGate _).bind fun _ => ?_
  exact hI.keeps_nowMonotonic.bind fun _ => hI.keeps_setGate _

end Passive

theorem wp_latching {α : Type} {m : TickM D S W α} {Q : α → PolicyTickSource D S W → _ → Prop}
    {E : PolicyTickSource D S W → List (TickEvent D S) → Prop} {s : PolicyTickSource D S W}
    {t : List (TickEvent D S)} (h : wp m Q (fun _ s t => ∀ reason, E (s.latched reason) t) s t) :
    wp (latching m) Q (fun _ => E) s t := by
  unfold latching
  rw [wp_bind, wp_attempt]
  refine wp_mono h (fun a s' t' ha => ?_) fun e s' t' he => ?_
  · rw [wp_ret]
    exact ha
  · simp only []
    unfold latchLocked
    rw [wp_bind, wp_update, wp_fail]
    exact he _

/-! ## The parts of a call -/

variable {v : TickView D S} {w : TransactionalV94ActionMapper D S × Option RH56Shaper}
  {t₀ : List (TickEvent D S)}

/-- The view is `v` and nothing was emitted since `t₀`. -/
def ViewIs (v : TickView D S) (t₀ : List (TickEvent D S)) (s : PolicyTickSource D S W)
    (t : List (TickEvent D S)) : Prop := s.view = v ∧ t = t₀

def Unchanged (v : TickView D S) (w : TransactionalV94ActionMapper D S × Option RH56Shaper)
    (t₀ : List (TickEvent D S)) (s : PolicyTickSource D S W) (t : List (TickEvent D S)) : Prop :=
  ViewIs v t₀ s t ∧ s.targets = w

theorem passive_viewIs : Passive env (ViewIs v t₀) :=
  ⟨fun _ _ h => h, fun _ _ h => h, fun _ _ _ _ _ h => h, fun _ _ _ h => h, fun _ _ _ h => h⟩

theorem passive_unchanged : Passive env (Unchanged v w t₀) :=
  ⟨fun _ _ h => h, fun _ _ h => h, fun _ _ _ _ _ h => h, fun _ _ _ h => h, fun _ _ _ h => h⟩

theorem keeps_policy {α : Type} (f : W → Except (TickException D S) α × W) :
    Keeps (Unchanged v w t₀) (environment f) :=
  keeps_environment fun _ _ h => h

theorem keeps_policy_view {α : Type} (f : W → Except (TickException D S) α × W) :
    Keeps (ViewIs v t₀) (environment f) :=
  keeps_environment fun _ _ h => h

theorem keeps_discardPolicyProposal (sequence : ℕ) :
    Keeps (Unchanged v w t₀) (discardPolicyProposal env sequence) := by
  unfold discardPolicyProposal
  cases env.discardReplayProposal with
  | none => exact keeps_ret _
  | some discard => exact keeps_policy _

theorem keeps_discardPolicyProposal_view (sequence : ℕ) :
    Keeps (ViewIs v t₀) (discardPolicyProposal env sequence) := by
  unfold discardPolicyProposal
  cases env.discardReplayProposal with
  | none => exact keeps_ret _
  | some discard => exact keeps_policy_view _

theorem keeps_mapperCall {α : Type} (f : TransactionalV94ActionMapper D S →
    TransactionalV94ActionMapper D S × Except PyError α) :
    Keeps (ViewIs v t₀) (mapperCall f : TickM D S W α) :=
  keeps_ofStep fun _ _ h => h

theorem keeps_shaperCall {α : Type} (f : RH56Shaper → RH56Shaper × Except PyError α) :
    Keeps (ViewIs v t₀) (shaperCall f : TickM D S W (Option α)) := by
  refine keeps_ofStep fun s t h => ?_
  cases hshaper : s.rh56HardwareCommandShaper with
  | none => exact h
  | some shaper => exact h

theorem wp_stage {tick : ℕ → PendingTick D S} {s : PolicyTickSource D S W}
    {t : List (TickEvent D S)} (h : ViewIs v t₀ s t)
    {E : TickException D S → PolicyTickSource D S W → List (TickEvent D S) → Prop} :
    wp (stage tick) (fun result s' t' =>
      ViewIs { v with pending := some result } t₀ s' t' ∧ ∃ ident, result = tick ident) E s t := by
  unfold stage
  rw [wp_bind, wp_read]
  beta_reduce
  rw [wp_bind, wp_update, wp_ret]
  refine ⟨⟨?_, h.2⟩, s.nextIdent, rfl⟩
  rw [← h.1]
  rfl

/-- **A tick that consumes the observation `o`**, staged from the view `v`. -/
structure OrdinaryTick (config : TickSourceConfig D S) (v : TickView D S)
    (o : V94PolicyObservation D S) (tick : PendingTick D S) : Prop where
  observation : tick.observation = some o
  history : ∃ candidate, tick.history = some candidate ∧
    candidateHistoryLocked config v.history o v.previous = .ok candidate
  cameraFrameId : tick.cameraFrameId = o.cameraFrameId
  sourceFrameId : tick.pointcloudSourceFrameId = o.pointcloudSourceFrameId
  forward : ∀ last ∈ v.frameId, last ≤ tick.cameraFrameId
  reuse : v.usesOf tick.pointcloudSourceFrameId < config.maximumActionsPerCameraFrame
  occluded : tick.occludedClosureHandOnly = false
  frozen : tick.frozenPostClosureWithoutPointcloud = false

/-- **A tick that consumes no observation**, staged from a recoverable hold. -/
structure HoldTick (h : V94RecoverableObservationHold D S) (tick : PendingTick D S) : Prop where
  observation : tick.observation = none
  cameraFrameId : tick.cameraFrameId = h.cameraFrameId
  kind : tick.occludedClosureHandOnly = true ∧ tick.frozenPostClosureWithoutPointcloud = false ∨
    tick.occludedClosureHandOnly = false ∧ tick.frozenPostClosureWithoutPointcloud = true

structure Admitted (config : TickSourceConfig D S) (v : TickView D S)
    (o : V94PolicyObservation D S) : Prop where
  forward : ∀ last ∈ v.frameId, last ≤ o.cameraFrameId
  reuse : v.usesOf o.pointcloudSourceFrameId < config.maximumActionsPerCameraFrame

variable {s : PolicyTickSource D S W} {t : List (TickEvent D S)}

theorem admitted_of_checks {o : V94PolicyObservation D S} (h : ViewIs v t₀ s t)
    (hframe : ¬ s.Regressed o.cameraFrameId)
    (huses : ¬ config.maximumActionsPerCameraFrame ≤ s.usesOf o.pointcloudSourceFrameId) :
    Admitted config v o where
  forward last hlast := by
    rw [← h.1] at hlast
    exact Nat.not_lt.mp fun hlt => hframe ⟨last, hlast, hlt⟩
  reuse := by
    rw [← h.1]
    exact Nat.not_le.mp huses

theorem keeps_proposeAction (sequence : ℕ) (o : V94PolicyObservation D S)
    (output : PolicyOutput D S) (raw : FiniteVec 13 S) :
    Keeps (ViewIs v t₀) (proposeAction config sequence o output raw : TickM D S W _) := by
  unfold proposeAction
  cases output.exactFrankaTargetQRad with
  | none => exact (keeps_check _ _).bind fun _ => keeps_mapperCall _
  | some arm =>
    cases output.exactRh56AngleSetRegisterOrder with
    | none => exact (keeps_check _ _).bind fun _ => keeps_mapperCall _
    | some hand => exact keeps_mapperCall _

theorem keeps_shapeHand (sequence : ℕ) (mapped : ImmutableMappedAction S) (bypass : Bool) :
    Keeps (ViewIs v t₀) (shapeHand (D := D) sequence mapped bypass : TickM D S W _) :=
  Keeps.ite (keeps_ret _) (keeps_shaperCall _)

/-- **The mapping of an admitted observation** stages the ordinary tick. -/
theorem wp_mapAction {o : V94PolicyObservation D S} {candidate : HistoryCandidate S}
    (hadmitted : Admitted config v o)
    (hcandidate : candidateHistoryLocked config v.history o v.previous = .ok candidate)
    (request : TickRequest D S) (output : PolicyOutput D S) (raw : FiniteVec 13 S)
    (h : ViewIs v t₀ s t) :
    wp (mapAction config env request v.previous o candidate output raw)
      (fun r s' t' => ∃ tick, r = .command tick ∧ ViewIs { v with pending := some tick } t₀ s' t' ∧
        OrdinaryTick config v o tick)
      (fun _ => ViewIs v t₀) s t := by
  have hpassive : Passive env (ViewIs v t₀) := passive_viewIs
  unfold mapAction
  refine (keeps_proposeAction request.sequence o output raw).wp_bind h ?_ fun _ _ _ h => h
  intro proposal s₁ t₁ h₁
  refine hpassive.keeps_nowMonotonic.wp_bind h₁ ?_ fun _ _ _ h => h
  intro produced s₂ t₂ h₂
  refine (keeps_check _ _).wp_bind h₂ ?_ fun _ _ _ h => h
  intro _ s₃ t₃ h₃
  have hexpired : Keeps (ViewIs v t₀) (runIf (request.hardDeadline ≤ produced) do
      mapperCall fun mapper => mapper.discardUnstaged proposal.ident
      fail (sourceError "hard deadline expired while mapping policy action") :
        TickM D S W Unit) :=
    Keeps.runIf _ ((keeps_mapperCall _).bind fun _ => keeps_fail _)
  refine hexpired.wp_bind h₃ ?_ fun _ _ _ h => h
  intro _ s₄ t₄ h₄
  refine (keeps_shapeHand request.sequence proposal.mapped _).wp_bind h₄ ?_ fun _ _ _ h => h
  intro hardware s₅ t₅ h₅
  refine (keeps_ofExcept _).wp_bind h₅ ?_ fun _ _ _ h => h
  intro command s₆ t₆ h₆
  -- all that is left is to stage the tick
  rw [wp_bind]
  refine wp_mono (wp_stage h₆) (fun tick s₇ t₇ h₇ => ?_) fun _ _ _ h => h
  obtain ⟨hview, ident, rfl⟩ := h₇
  rw [wp_ret]
  exact ⟨_, rfl, hview, rfl, ⟨candidate, rfl, hcandidate⟩, rfl, rfl, hadmitted.forward,
    hadmitted.reuse, rfl, rfl⟩

/-- **What an attempt of `prepare` leads to**: a hold leaves the view and the targets as they were,
a command is that of the tick of the observation `o`. -/
def Proposed (config : TickSourceConfig D S) (v : TickView D S)
    (w : TransactionalV94ActionMapper D S × Option RH56Shaper) (o : V94PolicyObservation D S)
    (t₀ : List (TickEvent D S)) :
    PrepareResult D S → PolicyTickSource D S W → List (TickEvent D S) → Prop
  | .hold _, s, t => Unchanged v w t₀ s t
  | .command tick, s, t =>
    ViewIs { v with pending := some tick } t₀ s t ∧ OrdinaryTick config v o tick

theorem wp_prepareHold {o : V94PolicyObservation D S} (sequence frameId : ℕ) (reason : String)
    (observed : D) (retryInterval : Option D) (h : Unchanged v w t₀ s t) :
    wp (prepareHold config sequence frameId reason observed retryInterval)
      (Proposed config v w o t₀) (fun _ => ViewIs v t₀) s t := by
  unfold prepareHold
  refine (keeps_holdLocked (fun _ _ h => h) _ _ _ _ _).wp_bind h ?_ fun _ _ _ h => h.1
  intro hold s₁ t₁ h₁
  rw [wp_ret]
  exact h₁

theorem wp_discardHold {o : V94PolicyObservation D S} (sequence frameId : ℕ) (reason : String)
    (observed : D) (h : Unchanged v w t₀ s t) :
    wp (do
        discardPolicyProposal env sequence
        prepareHold config sequence frameId reason observed none)
      (Proposed config v w o t₀) (fun _ => ViewIs v t₀) s t := by
  refine (keeps_discardPolicyProposal sequence).wp_bind h ?_ fun _ _ _ h => h.1
  intro _ s₁ t₁ h₁
  exact wp_prepareHold _ _ _ _ _ h₁

theorem wp_checkOutput {o : V94PolicyObservation D S} {candidate : HistoryCandidate S}
    (hadmitted : Admitted config v o)
    (hcandidate : candidateHistoryLocked config v.history o v.previous = .ok candidate)
    (request : TickRequest D S) (output : PolicyOutput D S) (raw : FiniteVec 13 S)
    (afterPolicy : D) (h : Unchanged v w t₀ s t) :
    wp (checkOutput config env request v.previous o candidate output raw afterPolicy)
      (Proposed config v w o t₀) (fun _ => ViewIs v t₀) s t := by
  have hpassive : Passive env (Unchanged v w t₀) := passive_unchanged
  unfold checkOutput
  refine (hpassive.keeps_pointcloudAge o).wp_bind h ?_ fun _ _ _ h => h.1
  intro cloudAge s₁ t₁ h₁
  rw [wp_ite]
  refine ⟨fun _ => wp_discardHold _ _ _ _ h₁, fun _ => ?_⟩
  refine (hpassive.keeps_frankaStateAge o afterPolicy).wp_bind h₁ ?_ fun _ _ _ h => h.1
  intro age s₂ t₂ h₂
  rw [wp_ite]
  refine ⟨fun _ => wp_discardHold _ _ _ _ h₂, fun _ => ?_⟩
  refine (keeps_check _ _).wp_bind h₂ ?_ fun _ _ _ h => h.1
  intro _ s₃ t₃ h₃
  rw [wp_ite]
  refine ⟨fun _ => wp_discardHold _ _ _ _ h₃, fun _ => ?_⟩
  refine wp_mono (wp_mapAction hadmitted hcandidate request output raw h₃.1) ?_ fun _ _ _ h => h
  rintro r s₄ t₄ ⟨tick, rfl, hview, htick⟩
  exact ⟨hview, htick⟩

theorem keeps_infer (sequence : ℕ) (candidate : HistoryCandidate S) :
    Keeps (Unchanged v w t₀) (infer env sequence candidate) := by
  unfold infer
  cases env.actionForSequence with
  | none => exact keeps_policy _
  | some actionForSequence => exact keeps_policy _

theorem wp_inferAction {o : V94PolicyObservation D S} (hadmitted : Admitted config v o)
    (request : TickRequest D S) (h : Unchanged v w t₀ s t) :
    wp (inferAction config env request v.previous o) (Proposed config v w o t₀)
      (fun _ => ViewIs v t₀) s t := by
  have hpassive : Passive env (Unchanged v w t₀) := passive_unchanged
  unfold inferAction
  rw [wp_bind, wp_read]
  beta_reduce
  have hhistory : s.history = v.history := congrArg TickView.history h.1.1
  rw [wp_bind, wp_ofExcept, hhistory]
  refine ⟨fun candidate hcandidate => ?_, fun _ _ => h.1⟩
  refine (keeps_infer request.sequence candidate).wp_bind h ?_ fun _ _ _ h => h.1
  intro output s₁ t₁ h₁
  refine (keeps_ofExcept _).wp_bind h₁ ?_ fun _ _ _ h => h.1
  intro raw s₂ t₂ h₂
  refine (keeps_check _ _).wp_bind h₂ ?_ fun _ _ _ h => h.1
  intro _ s₃ t₃ h₃
  refine hpassive.keeps_nowMonotonic.wp_bind h₃ ?_ fun _ _ _ h => h.1
  intro afterPolicy s₄ t₄ h₄
  refine (keeps_check _ _).wp_bind h₄ ?_ fun _ _ _ h => h.1
  intro _ s₅ t₅ h₅
  exact wp_checkOutput hadmitted hcandidate request output raw afterPolicy h₅

theorem wp_checkFrame {o : V94PolicyObservation D S} (request : TickRequest D S)
    (afterSnapshot : D) (h : Unchanged v w t₀ s t) :
    wp (checkFrame config env request v.previous o afterSnapshot) (Proposed config v w o t₀)
      (fun _ => ViewIs v t₀) s t := by
  have hpassive : Passive env (Unchanged v w t₀) := passive_unchanged
  unfold checkFrame
  rw [wp_bind, wp_read]
  beta_reduce
  rw [wp_bind, wp_check]
  refine ⟨fun _ => h.1, fun hframe => ?_⟩
  rw [wp_ite]
  refine ⟨fun _ => wp_prepareHold _ _ _ _ _ h, fun huses => ?_⟩
  have hadmitted : Admitted config v o := admitted_of_checks h.1 hframe huses
  refine (hpassive.keeps_pointcloudAge o).wp_bind h ?_ fun _ _ _ h => h.1
  intro cloudAge s₁ t₁ h₁
  rw [wp_ite]
  refine ⟨fun _ => ?_, fun _ => wp_inferAction hadmitted request h₁⟩
  refine hpassive.keeps_nowMonotonic.wp_bind h₁ ?_ fun _ _ _ h => h.1
  intro observed s₂ t₂ h₂
  exact wp_prepareHold _ _ _ _ _ h₂

theorem wp_checkArrival {o : V94PolicyObservation D S} (request : TickRequest D S)
    (afterSnapshot : D) (h : Unchanged v w t₀ s t) :
    wp (checkArrival config env request v.previous o afterSnapshot) (Proposed config v w o t₀)
      (fun _ => ViewIs v t₀) s t := by
  have hpassive : Passive env (Unchanged v w t₀) := passive_unchanged
  unfold checkArrival
  refine (hpassive.keeps_checkFrankaArrivalGateLocked _ _).wp_bind h ?_ fun _ _ _ h => h.1
  intro arrived s₁ t₁ h₁
  rw [wp_ite]
  refine ⟨fun _ => ?_, fun _ => wp_checkFrame request afterSnapshot h₁⟩
  refine hpassive.keeps_countGateHold.wp_bind h₁ ?_ fun _ _ _ h => h.1
  intro _ s₂ t₂ h₂
  exact wp_prepareHold _ _ _ _ _ h₂

/-- **The provider is asked**: its observation is noticed. -/
theorem wp_snapshot {I : PolicyTickSource D S W → List (TickEvent D S) → Prop}
    (hworld : ∀ s t x, I s t → I { s with world := x } t) (n : ℕ) (now deadline : D) (h : I s t) :
    wp (snapshot env n now deadline)
      (fun o s' t' => I s' t ∧ t' = t ++ [.observed o]) (fun _ s' t' => I s' t ∧ t' = t) s t := by
  unfold snapshot environment
  rw [wp_bind, wp_ofStep]
  refine ⟨fun value _ => ?_, fun _ _ => ⟨hworld _ _ _ h, rfl⟩⟩
  cases value with
  | none =>
    simp only []
    rw [wp_fail]
    exact ⟨hworld _ _ _ h, rfl⟩
  | some o =>
    simp only []
    rw [wp_bind, wp_emit, wp_ret]
    exact ⟨hworld _ _ _ h, rfl⟩

theorem wp_prepareObserved (request : TickRequest D S) (h : Unchanged v w t₀ s t) :
    wp (prepareObserved config env request v.previous)
      (fun r s' t' => ∃ o, Proposed config v w o (t₀ ++ [.observed o]) r s' t')
      (fun _ s' t' => ViewIs v t₀ s' t' ∨ ∃ o, ViewIs v (t₀ ++ [.observed o]) s' t') s t := by
  unfold prepareObserved
  rw [wp_bind]
  refine wp_mono (wp_snapshot (I := Unchanged v w t₀) (fun _ _ _ h => h) _ _ _ h) ?_ ?_
  · rintro o s₁ t₁ ⟨h₁, rfl⟩
    have hpassive : Passive env (Unchanged v w (t₀ ++ [.observed o])) := passive_unchanged
    have hnoticed : Unchanged v w (t₀ ++ [.observed o]) s₁ (t ++ [.observed o]) :=
      ⟨⟨h₁.1.1, by rw [h₁.1.2]⟩, h₁.2⟩
    have hraised : ∀ (e : TickException D S) (s' : PolicyTickSource D S W) t',
        Unchanged v w (t₀ ++ [.observed o]) s' t' →
        ViewIs v t₀ s' t' ∨ ∃ o, ViewIs v (t₀ ++ [.observed o]) s' t' :=
      fun _ _ _ h => .inr ⟨o, h.1⟩
    refine hpassive.keeps_nowMonotonic.wp_bind hnoticed ?_ hraised
    intro afterSnapshot s₂ t₂ h₂
    refine (keeps_check _ _).wp_bind h₂ ?_ hraised
    intro _ s₃ t₃ h₃
    refine (keeps_check _ _).wp_bind h₃ ?_ hraised
    intro _ s₄ t₄ h₄
    refine (hpassive.keeps_frankaStateAge o afterSnapshot).wp_bind h₄ ?_ hraised
    intro age s₅ t₅ h₅
    rw [wp_ite]
    refine ⟨fun _ => ?_, fun _ => ?_⟩
    · exact wp_mono (wp_prepareHold _ _ _ _ _ h₅) (fun _ _ _ h => ⟨o, h⟩)
        fun _ _ _ h => .inr ⟨o, h⟩
    · exact wp_mono (wp_checkArrival request afterSnapshot h₅) (fun _ _ _ h => ⟨o, h⟩)
        fun _ _ _ h => .inr ⟨o, h⟩
  · rintro e s₁ t₁ ⟨h₁, rfl⟩
    exact .inl h₁.1

/-! ## Ticks without an observation -/

/-- **What an attempt without an observation leads to**: no tick, and the view and the targets are
as they were, or a tick of the hold. -/
def Completed (v : TickView D S) (w : TransactionalV94ActionMapper D S × Option RH56Shaper)
    (h : V94RecoverableObservationHold D S) (t₀ : List (TickEvent D S)) :
    Option (PendingTick D S) → PolicyTickSource D S W → List (TickEvent D S) → Prop
  | none, s, t => Unchanged v w t₀ s t
  | some tick, s, t => ViewIs { v with pending := some tick } t₀ s t ∧ HoldTick h tick

variable {hold : V94RecoverableObservationHold D S}

theorem keeps_proposeExactTargets (request : TickRequest D S) (arguments : ExactArguments D S)
    (expired : String) :
    Keeps (ViewIs v t₀) (proposeExactTargets env request arguments expired) := by
  have hpassive : Passive env (ViewIs v t₀) := passive_viewIs
  refine (keeps_mapperCall _).bind fun proposal => ?_
  refine hpassive.keeps_nowMonotonic.bind fun produced => ?_
  refine (keeps_check _ _).bind fun _ => ?_
  refine Keeps.bind (Keeps.runIf _ ?_) fun _ => keeps_ret _
  refine (keeps_mapperCall _).bind fun _ => ?_
  exact (keeps_discardPolicyProposal_view _).bind fun _ => keeps_fail _

theorem wp_noTick (h : Unchanged v w t₀ s t) :
    wp (ret none : TickM D S W (Option (PendingTick D S))) (Completed v w hold t₀)
      (fun _ => ViewIs v t₀) s t := by
  rw [wp_ret]
  exact h

theorem wp_discardTick (sequence : ℕ) (h : Unchanged v w t₀ s t) :
    wp (discardTick env sequence) (Completed v w hold t₀) (fun _ => ViewIs v t₀) s t := by
  unfold discardTick
  exact (keeps_discardPolicyProposal sequence).wp_bind h (fun _ _ _ h => wp_noTick h)
    fun _ _ _ h => h.1

theorem wp_stageOccluded (request : TickRequest D S) (tick : ExactTick D S)
    (requestedArm committedArm measured : FiniteVec 7 S) (observed : D) (h : ViewIs v t₀ s t) :
    wp (stageOccluded env request hold tick requestedArm committedArm measured observed)
      (Completed v w hold t₀) (fun _ => ViewIs v t₀) s t := by
  unfold stageOccluded
  refine (keeps_proposeExactTargets request _ _).wp_bind h ?_ fun _ _ _ h => h
  rintro ⟨proposal, produced⟩ s₁ t₁ h₁
  refine (keeps_check _ _).wp_bind h₁ ?_ fun _ _ _ h => h
  intro _ s₂ t₂ h₂
  refine (keeps_check _ _).wp_bind h₂ ?_ fun _ _ _ h => h
  intro _ s₃ t₃ h₃
  rw [wp_bind, wp_read]
  beta_reduce
  refine (keeps_ofExcept _).wp_bind h₃ ?_ fun _ _ _ h => h
  intro command s₄ t₄ h₄
  rw [wp_bind]
  refine wp_mono (wp_stage h₄) ?_ fun _ _ _ h => h
  rintro pending s₅ t₅ ⟨hview, ident, rfl⟩
  rw [wp_ret]
  exact ⟨hview, rfl, rfl, .inl ⟨rfl, rfl⟩⟩

theorem wp_checkClearanceLift (request : TickRequest D S) (tick : ExactTick D S)
    (requestedArm committedArm : FiniteVec 7 S) (h : Unchanged v w t₀ s t) :
    wp (checkClearanceLift config env request hold tick requestedArm committedArm)
      (Completed v w hold t₀) (fun _ => ViewIs v t₀) s t := by
  have hpassive : Passive env (Unchanged v w t₀) := passive_unchanged
  unfold checkClearanceLift
  cases hold.freshActuatorSnapshot with
  | none => exact wp_discardTick _ h
  | some actuator =>
    refine hpassive.keeps_nowMonotonic.wp_bind h ?_ fun _ _ _ h => h.1
    intro observedNow s₁ t₁ h₁
    refine (keeps_check _ _).wp_bind h₁ ?_ fun _ _ _ h => h.1
    intro _ s₂ t₂ h₂
    refine (keeps_check _ _).wp_bind h₂ ?_ fun _ _ _ h => h.1
    intro _ s₃ t₃ h₃
    rw [wp_ite]
    refine ⟨fun _ => wp_discardTick _ h₃, fun _ => ?_⟩
    refine (hpassive.keeps_checkFrankaArrivalGateLocked _ _).wp_bind h₃ ?_ fun _ _ _ h => h.1
    intro arrived s₄ t₄ h₄
    rw [wp_ite]
    refine ⟨fun _ => ?_, fun _ => wp_stageOccluded request tick _ _ _ _ h₄.1⟩
    refine hpassive.keeps_countGateHold.wp_bind h₄ ?_ fun _ _ _ h => h.1
    intro _ s₅ t₅ h₅
    exact wp_discardTick _ h₅

theorem wp_occludedTick (request : TickRequest D S) (output : PolicyOutput D S)
    (h : Unchanged v w t₀ s t) :
    wp (occludedTick config env request hold output) (Completed v w hold t₀)
      (fun _ => ViewIs v t₀) s t := by
  have hpassive : Passive env (Unchanged v w t₀) := passive_unchanged
  unfold occludedTick
  refine (keeps_ofExcept _).wp_bind h ?_ fun _ _ _ h => h.1
  intro tick s₁ t₁ h₁
  rw [wp_bind, wp_read]
  beta_reduce
  refine (keeps_ofExcept _).wp_bind h₁ ?_ fun _ _ _ h => h.1
  intro requestedArm s₂ t₂ h₂
  refine (keeps_check _ _).wp_bind h₂ ?_ fun _ _ _ h => h.1
  intro _ s₃ t₃ h₃
  refine hpassive.keeps_nowRealtime.wp_bind h₃ ?_ fun _ _ _ h => h.1
  intro observed s₄ t₄ h₄
  rw [wp_ite]
  exact ⟨fun _ => wp_checkClearanceLift request tick requestedArm _ h₄,
    fun _ => wp_stageOccluded request tick requestedArm _ _ observed h₄.1⟩

theorem wp_prepareOccluded (request : TickRequest D S) (h : Unchanged v w t₀ s t) :
    wp (prepareOccludedClosureHandOnlyLocked config env request hold) (Completed v w hold t₀)
      (fun _ => ViewIs v t₀) s t := by
  have hpassive : Passive env (Unchanged v w t₀) := passive_unchanged
  unfold prepareOccludedClosureHandOnlyLocked
  rw [wp_bind, wp_read]
  beta_reduce
  cases env.actionForOccludedClosure with
  | none => exact wp_noTick h
  | some action =>
    simp only []
    rw [wp_ite]
    refine ⟨fun _ => wp_noTick h, fun _ => ?_⟩
    unfold askOccluded
    refine hpassive.keeps_nowMonotonic.wp_bind h ?_ fun _ _ _ h => h.1
    intro now s₁ t₁ h₁
    refine (keeps_check _ _).wp_bind h₁ ?_ fun _ _ _ h => h.1
    intro _ s₂ t₂ h₂
    refine (keeps_policy _).wp_bind h₂ ?_ fun _ _ _ h => h.1
    intro output s₃ t₃ h₃
    cases output with
    | none => exact wp_noTick h₃
    | some output => exact wp_occludedTick request output h₃

theorem wp_stageFrozen (request : TickRequest D S) (actuator : V94FreshActuatorSnapshot D S)
    (output : PolicyOutput D S) (h : ViewIs v t₀ s t) :
    wp (stageFrozen env request hold actuator output) (Completed v w hold t₀)
      (fun _ => ViewIs v t₀) s t := by
  unfold stageFrozen
  refine (keeps_ofExcept _).wp_bind h ?_ fun _ _ _ h => h
  intro tick s₁ t₁ h₁
  refine (keeps_proposeExactTargets request _ _).wp_bind h₁ ?_ fun _ _ _ h => h
  rintro ⟨proposal, produced⟩ s₂ t₂ h₂
  rw [wp_bind, wp_read]
  beta_reduce
  refine (keeps_ofExcept _).wp_bind h₂ ?_ fun _ _ _ h => h
  intro command s₃ t₃ h₃
  rw [wp_bind]
  refine wp_mono (wp_stage h₃) ?_ fun _ _ _ h => h
  rintro pending s₄ t₄ ⟨hview, ident, rfl⟩
  rw [wp_ret]
  exact ⟨hview, rfl, rfl, .inr ⟨rfl, rfl⟩⟩

theorem wp_checkFrozen (request : TickRequest D S) (actuator : V94FreshActuatorSnapshot D S)
    (action : ℕ → String → W → Except (TickException D S) (Option (PolicyOutput D S)) × W)
    (h : Unchanged v w t₀ s t) :
    wp (checkFrozen config env request hold actuator action) (Completed v w hold t₀)
      (fun _ => ViewIs v t₀) s t := by
  have hpassive : Passive env (Unchanged v w t₀) := passive_unchanged
  unfold checkFrozen
  refine hpassive.keeps_nowMonotonic.wp_bind h ?_ fun _ _ _ h => h.1
  intro observedNow s₁ t₁ h₁
  refine (keeps_check _ _).wp_bind h₁ ?_ fun _ _ _ h => h.1
  intro _ s₂ t₂ h₂
  refine (keeps_check _ _).wp_bind h₂ ?_ fun _ _ _ h => h.1
  intro _ s₃ t₃ h₃
  rw [wp_ite]
  refine ⟨fun _ => wp_noTick h₃, fun _ => ?_⟩
  refine (hpassive.keeps_checkFrankaArrivalGateLocked _ _).wp_bind h₃ ?_ fun _ _ _ h => h.1
  intro arrived s₄ t₄ h₄
  rw [wp_ite]
  refine ⟨fun _ => ?_, fun _ => ?_⟩
  · exact hpassive.keeps_countGateHold.wp_bind h₄ (fun _ _ _ h => wp_noTick h) fun _ _ _ h => h.1
  · unfold askFrozen
    refine (keeps_check _ _).wp_bind h₄ ?_ fun _ _ _ h => h.1
    intro _ s₅ t₅ h₅
    refine (keeps_policy _).wp_bind h₅ ?_ fun _ _ _ h => h.1
    intro output s₆ t₆ h₆
    cases output with
    | none => exact wp_noTick h₆
    | some output => exact wp_stageFrozen request actuator output h₆.1

theorem wp_prepareFrozen (request : TickRequest D S) (h : Unchanged v w t₀ s t) :
    wp (prepareFrozenPostClosureLocked config env request hold) (Completed v w hold t₀)
      (fun _ => ViewIs v t₀) s t := by
  unfold prepareFrozenPostClosureLocked
  rw [wp_bind, wp_read]
  beta_reduce
  cases hold.freshActuatorSnapshot with
  | none => exact wp_noTick h
  | some actuator =>
    cases env.actionForFrozenPostClosure with
    | none => exact wp_noTick h
    | some action =>
      simp only []
      rw [wp_ite]
      exact ⟨fun _ => wp_noTick h, fun _ => wp_checkFrozen request actuator action h⟩

/-- **What the handler of a recoverable hold leads to.** -/
def Recovered (v : TickView D S) (w : TransactionalV94ActionMapper D S × Option RH56Shaper)
    (h : V94RecoverableObservationHold D S) (t₀ : List (TickEvent D S)) :
    PrepareResult D S → PolicyTickSource D S W → List (TickEvent D S) → Prop
  | .hold _, s, t => Unchanged v w t₀ s t
  | .command tick, s, t => ViewIs { v with pending := some tick } t₀ s t ∧ HoldTick h tick

theorem wp_recoverHold (request : TickRequest D S) (h : Unchanged v w t₀ s t) :
    wp (recoverHold config env request hold) (Recovered v w hold t₀) (fun _ => ViewIs v t₀) s t := by
  have hpassive : Passive env (Unchanged v w t₀) := passive_unchanged
  unfold recoverHold prepareHold
  refine hpassive.keeps_nowMonotonic.wp_bind h ?_ fun _ _ _ h => h.1
  intro observed s₁ t₁ h₁
  refine (keeps_holdLocked (fun _ _ h => h) _ _ _ _ _).wp_bind h₁ ?_ fun _ _ _ h => h.1
  intro held s₂ t₂ h₂
  rw [wp_ret]
  exact h₂

/-- **The handler of a recoverable hold**: a completion, a frozen motion, or the hold. -/
theorem wp_recover (request : TickRequest D S) (h : Unchanged v w t₀ s t) :
    wp (recover config env request hold) (Recovered v w hold (t₀ ++ [.recoverable hold]))
      (fun _ => ViewIs v (t₀ ++ [.recoverable hold])) s t := by
  unfold recover
  rw [wp_bind, wp_emit]
  have hcaught : Unchanged v w (t₀ ++ [.recoverable hold]) s (t ++ [.recoverable hold]) :=
    ⟨⟨h.1.1, by rw [h.1.2]⟩, h.2⟩
  rw [wp_bind]
  refine wp_latching (wp_mono (wp_prepareOccluded request hcaught) ?_ fun _ _ _ h _ => h)
  intro completion s₁ t₁ h₁
  cases completion with
  | some tick =>
    simp only []
    rw [wp_ret]
    exact h₁
  | none =>
    simp only []
    unfold recoverFrozen
    rw [wp_bind]
    refine wp_latching (wp_mono (wp_prepareFrozen request h₁) ?_ fun _ _ _ h _ => h)
    intro frozen s₂ t₂ h₂
    cases frozen with
    | some tick =>
      simp only []
      rw [wp_ret]
      exact h₂
    | none =>
      simp only []
      exact wp_recoverHold request h₂

end FrankaDeploy.TickSource
