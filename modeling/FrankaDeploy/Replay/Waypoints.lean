import FrankaDeploy.Foundation.Ieee754
import FrankaDeploy.Foundation.Monitor
import FrankaDeploy.Replay.Policy

/-! # Replay waypoints are never skipped

The cursor of a replay says what the proposals, commits and discards of a policy may do: at most one
proposal is open, it is repeated unchanged, and a commit stays at the last waypoint or goes to the
next one, under the conditions of the policy's mode. The policy refines the cursor: every trace of
every run is accepted by it. -/

namespace FrankaDeploy.Replay

open FrankaDeploy.Foundation FrankaDeploy.Foundation.Program
open scoped FloatArith

variable {D S : Type} [FloatArith D] [FloatArith S] [FloatCast D S]

/-! ## The cursor -/

/-- **A proposal** that is neither committed nor discarded. -/
structure OpenProposal (D S : Type) where
  sequence : ℤ
  input : PolicyInput S
  output : ReplayPolicyOutput D S

/-- **The cursor of a replay.** -/
structure ReplayCursor (D S : Type) where
  last : Option ℤ
  proposal : Option (OpenProposal D S)
  triggered : Bool
  complete : Bool

def ReplayCursor.start : ReplayCursor D S := ⟨none, none, false, false⟩

/-- **The arm was measured at a waypoint**, within the tolerance. -/
def MeasuredAt (config : ReplayConfig D S) (input : PolicyInput S) (waypoint : ℤ) : Prop :=
  ∃ target, config.sequence.recordedFrankaTargetQRad = some target ∧
    arrivalError config target waypoint input ≤ config.arrivalToleranceRad

/-- **A commit of a waypoint is allowed** for the open proposal: it is the first one, the last
committed one or the next one. Without an intercept the next one needs the measured arrival at the
last one; past the preposition endpoint the intercept is triggered; the replay becomes complete at
the last waypoint, after its measured arrival. -/
structure CommitAllowed (config : ReplayConfig D S) (c : ReplayCursor D S)
    (input : PolicyInput S) (index : ℤ) (complete triggered : Bool) : Prop where
  first : c.last = none → index = 0
  next : ∀ i, c.last = some i → index = i ∨ index = i + 1
  arrived : config.sequence.tabletopIntercept = none → ∀ i, c.last = some i → index = i + 1 →
    MeasuredAt config input i
  endpoint : ∀ intercept, config.sequence.tabletopIntercept = some intercept →
    (intercept.prepositionEndIndex : ℤ) < index → triggered = true
  trigger : c.triggered = true → triggered = true
  finished : complete = true → index = config.selectedSteps - 1 ∧ c.last = some index ∧
    MeasuredAt config input index

/-- **The steps of the cursor.** -/
inductive CursorStep (config : ReplayConfig D S) :
    ReplayCursor D S → ReplayEvent D S → ReplayCursor D S → Prop where
  | propose {c : ReplayCursor D S} {sequence : ℤ} {input : PolicyInput S}
      {output : ReplayPolicyOutput D S} : c.proposal = none →
      CursorStep config c (.proposed sequence input output)
        { c with proposal := some ⟨sequence, input, output⟩ }
  /-- The open proposal again, from any observation: the same output. -/
  | repeat {c : ReplayCursor D S} {p : OpenProposal D S} {input : PolicyInput S} :
      c.proposal = some p → CursorStep config c (.proposed p.sequence input p.output) c
  | discard {c : ReplayCursor D S} {p : OpenProposal D S} : c.proposal = some p →
      CursorStep config c (.discarded p.sequence) { c with proposal := none }
  | commit {c : ReplayCursor D S} {p : OpenProposal D S} {complete triggered : Bool} :
      c.proposal = some p →
      CommitAllowed config c p.input p.output.replayFrameIndex complete triggered →
      CursorStep config c
        (.committed p.sequence p.output.replayFrameIndex complete triggered)
        ⟨some p.output.replayFrameIndex, none, triggered, complete⟩

/-! ## Runs -/

/-- **A call of the policy.** -/
inductive ReplayCall (S : Type) where
  | propose (sequence : ℤ) (input : PolicyInput S)
  | commit (sequence : ℤ)
  | discard (sequence : ℤ)

def performCall (config : ReplayConfig D S) : ReplayCall S → ReplayM D S Unit
  | .propose sequence input => do
    let _ ← actionForSequence config sequence input
    ret ()
  | .commit sequence => commitReplayProposal config sequence
  | .discard sequence => discardReplayProposal config sequence

/-- **The policy as a machine**: a call that raises leaves what it did. -/
def replayMachine (config : ReplayConfig D S) :
    Machine (ReplayPolicy D) (ReplayCall S) (ReplayEvent D S) where
  step s call := (performCall config call s).2

/-! ## Refinement -/

/-- **What a staged proposal is entitled to.** -/
structure Entitled (config : ReplayConfig D S) (c : ReplayCursor D S) (input : PolicyInput S)
    (staged : StagedReplay D) (triggered : Bool) : Prop where
  waypoint : 0 ≤ staged.index ∧ staged.index < config.selectedSteps
  allowed : CommitAllowed config c input staged.index staged.finalArrived triggered

/-- **The policy and the cursor agree.** -/
structure Agrees (config : ReplayConfig D S) (s : ReplayPolicy D) (c : ReplayCursor D S) :
    Prop where
  last : s.committedReplayIndex = c.last.getD (-1)
  waypoint : ∀ i, c.last = some i → 0 ≤ i ∧ i < config.selectedSteps
  triggered : s.interceptTriggered = c.triggered
  complete : s.replayComplete = c.complete
  endpoint : ∀ intercept i, config.sequence.tabletopIntercept = some intercept →
    c.last = some i → (intercept.prepositionEndIndex : ℤ) < i → s.interceptTriggered = true
  waits : ∀ intercept, config.sequence.tabletopIntercept = some intercept →
    s.interceptWaitTicks ≤ intercept.maxWaitTicks ∧
      (s.pendingInterceptSample ≠ none → s.interceptWaitTicks < intercept.maxWaitTicks)
  idle : s.pendingSequence = none → c.proposal = none
  pending : ∀ sequence, s.pendingSequence = some sequence → ∃ index input,
    s.pendingReplayIndex = some index ∧
      c.proposal = some ⟨sequence, input,
        replayOutput config ⟨index, s.pendingFinalArrived, s.pendingArrivalErrorRad⟩⟩ ∧
      Entitled config c input ⟨index, s.pendingFinalArrived, s.pendingArrivalErrorRad⟩
        (s.interceptTriggered || s.pendingInterceptTriggered)

def Refines (config : ReplayConfig D S) (s : ReplayPolicy D) (t : List (ReplayEvent D S)) : Prop :=
  ∃ c, Monitor.Accepts (CursorStep config) .start t c ∧ Agrees config s c

variable {config : ReplayConfig D S} {s s' : ReplayPolicy D} {c : ReplayCursor D S}
  {t : List (ReplayEvent D S)}

theorem Agrees.stage (h : Agrees config s c) (hidle : s'.pendingSequence = none)
    (hcommitted : s'.committedReplayIndex = s.committedReplayIndex)
    (htriggered : s'.interceptTriggered = s.interceptTriggered)
    (hcomplete : s'.replayComplete = s.replayComplete)
    (hticks : s'.interceptWaitTicks = s.interceptWaitTicks) (hproposal : c.proposal = none)
    (hsample : ∀ intercept, config.sequence.tabletopIntercept = some intercept →
      s'.pendingInterceptSample ≠ none → s.interceptWaitTicks < intercept.maxWaitTicks) :
    Agrees config s' c where
  last := hcommitted.trans h.last
  waypoint := h.waypoint
  triggered := htriggered.trans h.triggered
  complete := hcomplete.trans h.complete
  endpoint intercept i hi hlast hlt := htriggered.trans (h.endpoint intercept i hi hlast hlt)
  waits intercept hi := by
    rw [hticks]
    exact ⟨(h.waits intercept hi).1, hsample intercept hi⟩
  idle _ := hproposal
  pending sequence hsequence := by
    rw [hidle] at hsequence
    cases hsequence

/-- **A wait** is staged before the bound is reached; what it stages is dropped or committed with
its proposal, also after an exception. -/
theorem wp_stageInterceptWait (h : Agrees config s c) (hidle : s.pendingSequence = none)
    {intercept : TabletopInterceptReplayConfig D}
    (hintercept : config.sequence.tabletopIntercept = some intercept) (sequence : ℤ)
    (input : PolicyInput S) :
    wp (stageInterceptWait config.np intercept sequence input)
      (fun trigger s' t' => t' = t ∧ Agrees config s' c ∧ s'.pendingSequence = none ∧
        s'.interceptTriggered = s.interceptTriggered ∧
        (trigger = true → s'.pendingInterceptTriggered = true))
      (fun _ s' t' => t' = t ∧ Agrees config s' c) s t := by
  have hproposal := h.idle hidle
  unfold stageInterceptWait
  rw [wp_bind, wp_read]
  beta_reduce
  rw [wp_bind, wp_check]
  refine ⟨fun _ => ⟨rfl, h⟩, fun hbound => ?_⟩
  have hlt : ∀ other, config.sequence.tabletopIntercept = some other →
      s.interceptWaitTicks < other.maxWaitTicks := by
    intro other hother
    rw [hintercept] at hother
    cases hother
    exact Nat.lt_of_not_le hbound
  rw [wp_bind, wp_ofExcept]
  refine ⟨fun center _ => ?_, fun _ _ => ⟨rfl, h⟩⟩
  rw [wp_bind, wp_update]
  -- from here on the sample is staged
  have hsample : Agrees config
      { s with
        pendingInterceptSample := some (sequence, center)
        pendingInterceptArmed := !s.interceptArmed } c :=
    h.stage hidle rfl rfl rfl rfl hproposal fun other hother _ => hlt other hother
  simp only []
  rw [wp_bind, wp_ofExcept]
  refine ⟨fun fit _ => ?_, fun _ _ => ⟨rfl, hsample⟩⟩
  rw [wp_bind, wp_update, wp_ret]
  refine ⟨rfl, h.stage hidle rfl rfl rfl rfl hproposal fun other hother _ => hlt other hother,
    hidle, rfl, fun htrigger => ?_⟩
  simp only [htrigger, Bool.or_true]

theorem commitAllowed_stay {input : PolicyInput S} {i : ℤ} {triggered : Bool}
    (h : Agrees config s c) (hlast : c.last = some i) {complete : Bool}
    (htrigger : s.interceptTriggered = true → triggered = true)
    (hcomplete : complete = true → i = config.selectedSteps - 1 ∧ MeasuredAt config input i) :
    CommitAllowed config c input i complete triggered where
  first hnone := by
    rw [hlast] at hnone
    cases hnone
  next j hj := by
    rw [hlast] at hj
    exact .inl (Option.some.inj hj)
  arrived _ j hj hnext := by
    rw [hlast] at hj
    have := Option.some.inj hj
    omega
  endpoint intercept hi hlt := htrigger (h.endpoint intercept i hi hlast hlt)
  trigger hc := htrigger (h.triggered.trans hc)
  finished hfinal := ⟨(hcomplete hfinal).1, hlast, (hcomplete hfinal).2⟩

theorem commitAllowed_next {input : PolicyInput S} {i : ℤ} {triggered : Bool}
    (h : Agrees config s c) (hlast : c.last = some i)
    (hmeasured : config.sequence.tabletopIntercept = none → MeasuredAt config input i)
    (hendpoint : ∀ intercept, config.sequence.tabletopIntercept = some intercept →
      (intercept.prepositionEndIndex : ℤ) < i + 1 → triggered = true)
    (htrigger : s.interceptTriggered = true → triggered = true) :
    CommitAllowed config c input (i + 1) false triggered where
  first hnone := by
    rw [hlast] at hnone
    cases hnone
  next j hj := by
    rw [hlast] at hj
    rw [Option.some.inj hj]
    exact .inr rfl
  arrived hnone j hj _ := by
    rw [hlast] at hj
    cases hj
    exact hmeasured hnone
  endpoint := hendpoint
  trigger hc := htrigger (h.triggered.trans hc)
  finished := nofun

theorem wp_stageReplay (h : Agrees config s c) (hidle : s.pendingSequence = none) (sequence : ℤ)
    (input : PolicyInput S) :
    wp (stageReplay config sequence input)
      (fun staged s' t' => t' = t ∧ Agrees config s' c ∧ s'.pendingSequence = none ∧
        Entitled config c input staged (s'.interceptTriggered || s'.pendingInterceptTriggered))
      (fun _ s' t' => t' = t ∧ Agrees config s' c) s t := by
  have hselected := config.selected.1
  unfold stageReplay
  rw [wp_bind, wp_read]
  beta_reduce
  cases hlast : c.last with
  | none =>
    have hcommitted : s.committedReplayIndex = -1 := by rw [h.last, hlast]; rfl
    simp only [hcommitted]
    rw [if_pos (by decide), wp_ret]
    refine ⟨rfl, h, hidle, ⟨le_refl _, by simp only []; omega⟩, ?_⟩
    refine ⟨fun _ => rfl, fun i hi => ?_, fun _ i hi => ?_, fun intercept _ hlt => ?_,
      fun hc => ?_, nofun⟩
    · rw [hlast] at hi
      cases hi
    · rw [hlast] at hi
      cases hi
    · simp only [] at hlt
      omega
    · rw [h.triggered, hc]
      rfl
  | some i =>
    have hcommitted : s.committedReplayIndex = i := by rw [h.last, hlast]; rfl
    obtain ⟨hi, hlt⟩ := h.waypoint i hlast
    simp only [hcommitted]
    rw [if_neg (by omega)]
    have hkeep : s.interceptTriggered = true →
        (s.interceptTriggered || s.pendingInterceptTriggered) = true := fun ht => by
      rw [ht]
      rfl
    have stay : ∀ {complete : Bool} {error : Option D},
        (complete = true → i = config.selectedSteps - 1 ∧ MeasuredAt config input i) →
        Entitled config c input ⟨i, complete, error⟩
          (s.interceptTriggered || s.pendingInterceptTriggered) := fun hcomplete =>
      ⟨⟨hi, hlt⟩, commitAllowed_stay h hlast hkeep hcomplete⟩
    cases htarget : config.sequence.recordedFrankaTargetQRad with
    | none =>
      simp only []
      rw [wp_fail]
      exact ⟨rfl, h⟩
    | some target =>
      simp only []
      have hfinal : ∀ {b : Bool}, (FloatArith.le (arrivalError config target i input)
          config.arrivalToleranceRad && decide (i = config.selectedSteps - 1)) = b →
          b = true → i = config.selectedSteps - 1 ∧ MeasuredAt config input i := by
        intro b hb htrue
        rw [htrue, Bool.and_eq_true, decide_eq_true_eq] at hb
        exact ⟨hb.2, target, htarget, hb.1⟩
      cases hintercept : config.sequence.tabletopIntercept with
      | none =>
        simp only []
        rw [wp_ite]
        refine ⟨fun hnext => ?_, fun _ => ?_⟩
        · rw [wp_ret]
          refine ⟨rfl, h, hidle, ⟨by simp only []; omega, hnext.2⟩, ?_⟩
          refine commitAllowed_next h hlast (fun _ => ⟨target, htarget, hnext.1⟩)
            (fun intercept hsome => ?_) hkeep
          rw [hintercept] at hsome
          cases hsome
        · rw [wp_ret]
          exact ⟨rfl, h, hidle, stay (hfinal rfl)⟩
      | some intercept =>
        obtain ⟨-, -, hend⟩ := config.intercept intercept hintercept
        -- an advance that is not past the endpoint, or with the trigger
        have advance : ∀ {error : Option D} {s' : ReplayPolicy D},
            i + 1 < config.selectedSteps → Agrees config s' c →
            ((intercept.prepositionEndIndex : ℤ) < i + 1 →
              (s'.interceptTriggered || s'.pendingInterceptTriggered) = true) →
            Entitled config c input ⟨i + 1, false, error⟩
              (s'.interceptTriggered || s'.pendingInterceptTriggered) := by
          intro error s' hnext hs' htrigger
          refine ⟨⟨by simp only []; omega, hnext⟩, commitAllowed_next hs' hlast
            (fun hnone => ?_) (fun other hother => ?_) fun ht => by rw [ht]; rfl⟩
          · rw [hintercept] at hnone
            cases hnone
          · rw [hintercept] at hother
            cases hother
            exact htrigger
        simp only []
        rw [wp_ite]
        refine ⟨fun hbefore => ?_, fun hbefore => ?_⟩
        · rw [wp_ret]
          exact ⟨rfl, h, hidle, advance (by omega) h (by omega)⟩
        · rw [wp_ite]
          refine ⟨fun hwait => ?_, fun hwait => ?_⟩
          · rw [wp_ite]
            refine ⟨fun _ => ?_, fun _ => ?_⟩
            · rw [wp_bind]
              refine wp_mono (wp_stageInterceptWait h hidle hintercept sequence input)
                (fun trigger s' t' hs' => ?_) fun _ _ _ hs' => hs'
              obtain ⟨ht, hagrees, hidle', htriggered, htrigger⟩ := hs'
              rw [wp_ret]
              refine ⟨ht, hagrees, hidle', ?_⟩
              cases trigger with
              | true =>
                have hstaged : (s'.interceptTriggered ||
                    s'.pendingInterceptTriggered) = true := by
                  rw [htrigger rfl, Bool.or_true]
                exact advance (by omega) hagrees fun _ => hstaged
              | false =>
                refine ⟨⟨hi, hlt⟩, commitAllowed_stay hagrees hlast (fun ht => ?_) nofun⟩
                rw [ht]
                rfl
            · rw [wp_ret]
              exact ⟨rfl, h, hidle, stay nofun⟩
          · -- past the endpoint the trigger is committed
            have htriggered : s.interceptTriggered = true := by
              rcases lt_or_eq_of_le (not_lt.mp hbefore) with hpast | heq
              · exact h.endpoint intercept i hintercept hlast hpast
              · by_contra hnot
                exact hwait ⟨heq.symm, by simpa using hnot⟩
            rw [wp_ite]
            refine ⟨fun hnext => ?_, fun _ => ?_⟩
            · rw [wp_ret]
              exact ⟨rfl, h, hidle, advance hnext h fun _ => hkeep htriggered⟩
            · rw [wp_ret]
              exact ⟨rfl, h, hidle, stay (hfinal rfl)⟩

theorem Entitled.setProposal {input : PolicyInput S} {staged : StagedReplay D} {triggered : Bool}
    (h : Entitled config c input staged triggered) (proposal : Option (OpenProposal D S)) :
    Entitled config { c with proposal := proposal } input staged triggered where
  waypoint := h.waypoint
  allowed :=
    { first := h.allowed.first
      next := h.allowed.next
      arrived := h.allowed.arrived
      endpoint := h.allowed.endpoint
      trigger := h.allowed.trigger
      finished := h.allowed.finished }

/-! ## The calls refine the cursor -/

theorem keeps_checkInput (sequence : ℤ) (input : PolicyInput S) :
    Keeps (Refines config) (checkInput config sequence input) := by
  unfold checkInput
  refine (keeps_check _ _).bind fun _ => ?_
  refine (keeps_check _ _).bind fun _ => ?_
  exact keeps_check _ _

theorem keeps_proposeGated (sequence : ℤ) (input : PolicyInput S) :
    Keeps (Refines config) (proposeGated config sequence input) := by
  rintro s t ⟨c, haccepts, h⟩
  unfold proposeGated pendingReplay
  rw [wp_bind, wp_bind, wp_read]
  beta_reduce
  cases hpending : s.pendingSequence with
  | some pending =>
    obtain ⟨index, first, hindex, hopen, hentitled⟩ := h.pending pending hpending
    simp only [hindex]
    rw [wp_bind, wp_check]
    refine ⟨fun _ => ⟨c, haccepts, h⟩, fun hsame => ?_⟩
    obtain rfl : pending = sequence := not_not.mp hsame
    rw [wp_ret, wp_bind, wp_check]
    refine ⟨fun hbad => absurd hentitled.waypoint hbad, fun _ => ?_⟩
    unfold keepPending
    rw [wp_bind, wp_update]
    beta_reduce
    rw [if_neg (by rw [hpending]; exact Option.some_ne_none _), wp_bind, wp_emit, wp_ret]
    -- the staged proposal is the open one, whatever the observation
    exact ⟨c, .snoc haccepts (.repeat hopen), h⟩
  | none =>
    simp only []
    refine wp_mono (wp_stageReplay h hpending sequence input)
      (fun staged s' t' hs' => ?_) fun _ s' t' hs' => ?_
    · obtain ⟨rfl, hagrees, hidle, hentitled⟩ := hs'
      rw [wp_bind, wp_check]
      refine ⟨fun hbad => absurd hentitled.waypoint hbad, fun _ => ?_⟩
      unfold keepPending
      rw [wp_bind, wp_update]
      beta_reduce
      rw [if_pos hidle, wp_bind, wp_emit, wp_ret]
      refine ⟨{ c with proposal := some ⟨sequence, input, replayOutput config staged⟩ },
        .snoc haccepts (.propose (hagrees.idle hidle)), ?_⟩
      exact
        { last := hagrees.last
          waypoint := hagrees.waypoint
          triggered := hagrees.triggered
          complete := hagrees.complete
          endpoint := hagrees.endpoint
          waits := hagrees.waits
          idle := fun hnone => absurd hnone (Option.some_ne_none _)
          pending := by
            rintro other hother
            obtain rfl := Option.some.inj hother
            exact ⟨staged.index, input, rfl, rfl, hentitled.setProposal _⟩ }
    · obtain ⟨rfl, hagrees⟩ := hs'
      exact ⟨c, haccepts, hagrees⟩

theorem commitSample_interceptWaitTicks (s : ReplayPolicy D) :
    s.commitSample.interceptWaitTicks =
      s.interceptWaitTicks + if s.pendingInterceptSample = none then 0 else 1 := by
  unfold ReplayPolicy.commitSample
  cases h : s.pendingInterceptSample with
  | none => rfl
  | some sample => rfl

theorem commitSample_frame (s : ReplayPolicy D) :
    s.commitSample.committedReplayIndex = s.committedReplayIndex ∧
      s.commitSample.replayComplete = s.replayComplete ∧
      s.commitSample.pendingSequence = s.pendingSequence ∧
      s.commitSample.interceptTriggered = s.interceptTriggered ∧
      s.commitSample.pendingInterceptTriggered = s.pendingInterceptTriggered := by
  unfold ReplayPolicy.commitSample
  cases s.pendingInterceptSample with
  | none => exact ⟨rfl, rfl, rfl, rfl, rfl⟩
  | some sample => exact ⟨rfl, rfl, rfl, rfl, rfl⟩

theorem keeps_commitGated (sequence : ℤ) :
    Keeps (Refines config) (commitGated (D := D) (S := S) sequence) := by
  rintro s t ⟨c, haccepts, h⟩
  unfold commitGated
  rw [wp_bind, wp_read]
  beta_reduce
  cases hindex : s.pendingReplayIndex with
  | none =>
    simp only []
    rw [wp_fail]
    exact ⟨c, haccepts, h⟩
  | some index =>
    simp only []
    rw [wp_bind, wp_check]
    refine ⟨fun _ => ⟨c, haccepts, h⟩, fun hsame => ?_⟩
    obtain ⟨index', first, hindex', hopen, hentitled⟩ := h.pending sequence (not_not.mp hsame)
    obtain rfl : index' = index := Option.some.inj (hindex'.symm.trans hindex)
    rw [wp_bind, wp_update, wp_emit]
    have hframe := commitSample_frame (s.commitIndex index').clearPending
    have hticks := commitSample_interceptWaitTicks (s.commitIndex index').clearPending
    generalize (s.commitIndex index').clearPending.commitSample = u at hframe hticks ⊢
    obtain ⟨hcommitted, hcomplete, hsequence, htriggered, hstaged⟩ := hframe
    have htrigger : u.commitIntercept.clearPendingIntercept.interceptTriggered =
        (s.interceptTriggered || s.pendingInterceptTriggered) := by
      show (u.interceptTriggered || u.pendingInterceptTriggered) = _
      rw [htriggered, hstaged]
      rfl
    have hdone : u.commitIntercept.clearPendingIntercept.replayComplete =
        s.pendingFinalArrived := hcomplete
    rw [hdone, htrigger]
    refine ⟨_, .snoc haccepts (.commit hopen hentitled.allowed), ?_⟩
    exact
      { last := hcommitted
        waypoint := by
          rintro i hi
          obtain rfl := Option.some.inj hi
          exact hentitled.waypoint
        triggered := htrigger
        complete := hdone
        endpoint := by
          rintro intercept i hintercept hi hlt
          obtain rfl := Option.some.inj hi
          exact htrigger.trans (hentitled.allowed.endpoint intercept hintercept hlt)
        waits := by
          intro intercept hintercept
          obtain ⟨hbound, hroom⟩ := h.waits intercept hintercept
          refine ⟨?_, fun hsome => absurd rfl hsome⟩
          show u.interceptWaitTicks ≤ _
          rw [hticks]
          show s.interceptWaitTicks + (if s.pendingInterceptSample = none then 0 else 1) ≤ _
          by_cases hsample : s.pendingInterceptSample = none
          · rwa [if_pos hsample]
          · rw [if_neg hsample]
            exact hroom hsample
        idle := fun _ => rfl
        pending := by
          intro other hother
          have hnone : u.pendingSequence = some other := hother
          rw [hsequence] at hnone
          cases hnone }

/-- **A discard** drops the open proposal with everything it staged. -/
theorem keeps_discard (hgated : config.arrivalGated = true) (sequence : ℤ) :
    Keeps (Refines config) (discardReplayProposal config sequence) := by
  rintro s t ⟨c, haccepts, h⟩
  unfold discardReplayProposal
  rw [if_neg (by rw [hgated]; decide), wp_bind, wp_read]
  beta_reduce
  rw [wp_bind, wp_check]
  refine ⟨fun _ => ⟨c, haccepts, h⟩, fun hsame => ?_⟩
  obtain ⟨index, first, -, hopen, -⟩ := h.pending sequence (not_not.mp hsame)
  rw [wp_bind, wp_update, wp_emit]
  refine ⟨{ c with proposal := none }, .snoc haccepts (.discard hopen), ?_⟩
  exact
    { last := h.last
      waypoint := h.waypoint
      triggered := h.triggered
      complete := h.complete
      endpoint := h.endpoint
      waits := fun intercept hi => ⟨(h.waits intercept hi).1, fun hsome => absurd rfl hsome⟩
      idle := fun _ => rfl
      pending := nofun }

theorem agrees_init (config : ReplayConfig D S) : Agrees config (.init config) .start where
  last := rfl
  waypoint := nofun
  triggered := rfl
  complete := rfl
  endpoint := nofun
  waits _ _ := ⟨Nat.zero_le _, fun hsome => absurd rfl hsome⟩
  idle _ := rfl
  pending := nofun

/-- **Every call keeps the refinement**, also one that raises. -/
theorem keeps_performCall (hgated : config.arrivalGated = true) (call : ReplayCall S) :
    Keeps (Refines config) (performCall config call) := by
  cases call with
  | propose sequence input =>
    unfold performCall actionForSequence
    refine ((keeps_checkInput sequence input).bind fun _ => ?_).bind fun _ => keeps_ret ()
    rw [if_neg (by rw [hgated]; decide)]
    exact keeps_proposeGated sequence input
  | commit sequence =>
    show Keeps _ (commitReplayProposal config sequence)
    unfold commitReplayProposal
    rw [if_neg (by rw [hgated]; decide)]
    exact keeps_commitGated sequence
  | discard sequence => exact keeps_discard hgated sequence

/-- **Replay waypoints are never skipped.** Whatever proposals, repeated proposals, commits and
discards an arrival-gated policy is called with, what it does is accepted by the cursor: the first
committed waypoint is 0 and each next one is the last one or the one after it, a pending sequence is
proposed again with the same output, an advance needs the arrival that its own observation measures
or, with an intercept, past the preposition endpoint the committed trigger, and the replay becomes
complete by the commit of the last waypoint after its measured arrival. The policy's index and flag
are the cursor's, and the waits stay within their bound. -/
theorem waypoints_never_skipped (config : ReplayConfig D S) (hgated : config.arrivalGated = true)
    (calls : List (ReplayCall S)) :
    ∃ c, Monitor.Accepts (CursorStep config) .start
        ((replayMachine config).trace (.init config) calls) c ∧
      ((replayMachine config).run (.init config) calls).committedReplayIndex = c.last.getD (-1) ∧
      ((replayMachine config).run (.init config) calls).replayComplete = c.complete ∧
      ∀ intercept, config.sequence.tabletopIntercept = some intercept →
        ((replayMachine config).run (.init config) calls).interceptWaitTicks ≤
          intercept.maxWaitTicks := by
  have hrefines : Refines config ((replayMachine config).run (.init config) calls)
      ((replayMachine config).trace (.init config) calls) :=
    (replayMachine config).monitor_induction (P := Refines config)
      ⟨.start, .start, agrees_init config⟩
      (fun s t call h => wp_outcome (keeps_performCall hgated call s t h)) calls
  obtain ⟨c, haccepts, h⟩ := hrefines
  exact ⟨c, haccepts, h.last, h.complete, fun intercept hi => (h.waits intercept hi).1⟩

/-! ## A run -/

def benchReplay : ReplayConfig Binary64 Binary32 where
  sequence :=
    { actions13 := fun _ _ => FloatArith.ofRat 0
      actionCount := 2
      recordedFrankaTargetQRad := some fun _ _ => FloatArith.ofRat 0
      recordedRh56AngleSet := some fun _ _ => 1000
      tabletopIntercept := none }
  pointFeatureDim := 3
  selectedSteps := 2
  arrivalGated := true
  arrivalToleranceRad := FloatArith.ofRat (1 / 100)
  qHomeRad _ := FloatArith.ofRat 0
  np :=
    { mean := fun _ => FloatArith.ofRat 0
      meanRows := fun _ _ => FloatArith.ofRat 0
      lstsq := fun _ _ => .ok (fun _ => FloatArith.ofRat 0, fun _ => FloatArith.ofRat 0)
      matmul := fun _ _ => []
      rootMeanSquare := fun _ => FloatArith.ofRat 0
      dot := fun _ _ => FloatArith.ofRat 0
      norm := fun _ => FloatArith.ofRat 0 }
  selected := by decide
  tolerance := by decide +kernel
  targets := fun _ => ⟨rfl, rfl⟩
  intercept := fun c hc => absurd hc (Option.not_mem_none c)

def benchObservation (away : ℚ) : PolicyInput Binary32 where
  pointcloud := ⟨[4, 128, 3], fun _ => FloatArith.ofRat 0⟩
  valid := ⟨[4, 128], fun _ => FloatArith.ofRat 1⟩
  proprio := ⟨[4, 67], fun _ => FloatArith.ofRat away⟩

/-- The first waypoint is committed, the second one proposed, discarded, proposed far from the first
one and so kept back, proposed again, and committed after the arrivals. -/
def benchCalls : List (ReplayCall Binary32) :=
  [.propose 1 (benchObservation 1), .commit 1, .propose 2 (benchObservation 0), .discard 2,
    .propose 2 (benchObservation 1), .propose 2 (benchObservation 0), .commit 2,
    .propose 3 (benchObservation 0), .commit 3, .propose 4 (benchObservation 0), .commit 4]

/-- **A replay to its end**: the waypoint is committed once more when the arm is away from it. -/
theorem waypoints_never_skipped_bench :
    ((∃ c, Monitor.Accepts (CursorStep benchReplay) .start
        ((replayMachine benchReplay).trace (.init benchReplay) benchCalls) c ∧
      ((replayMachine benchReplay).run (.init benchReplay) benchCalls).committedReplayIndex =
        c.last.getD (-1) ∧
      ((replayMachine benchReplay).run (.init benchReplay) benchCalls).replayComplete =
        c.complete ∧
      ∀ intercept, benchReplay.sequence.tabletopIntercept = some intercept →
        ((replayMachine benchReplay).run (.init benchReplay) benchCalls).interceptWaitTicks ≤
          intercept.maxWaitTicks)) ∧
    ((replayMachine benchReplay).run (.init benchReplay) benchCalls).committedReplayIndex = 1 ∧
    ((replayMachine benchReplay).run (.init benchReplay) benchCalls).repeatedTargetCommands = 2 ∧
    ((replayMachine benchReplay).run (.init benchReplay) benchCalls).replayComplete = true :=
  ⟨waypoints_never_skipped benchReplay rfl benchCalls, by decide +kernel, by decide +kernel,
    by decide +kernel⟩

end FrankaDeploy.Replay
