import FrankaDeploy.ClosedLoop.LockstepContract
import FrankaDeploy.Foundation.LastKeyCounter
import FrankaDeploy.TickSource.CallSpecs
import Mathlib.Data.List.Chain

/-! # Camera provenance of the committed ticks

The log of a run lists its committed ticks with their camera frames. Observations pass a check
against the last committed frame; a frozen motion takes the frame of a hold, which passes none, and
the reuse of a source frame is counted with the last one in mind only. So the frames never decrease
exactly if those of the frozen motions do not, and each source frame is used within the limit if
none comes back after it was left. -/

set_option linter.unusedSectionVars false

namespace FrankaDeploy.TickSource

open FrankaDeploy.Foundation FrankaDeploy.ClosedLoop FrankaDeploy.Contracts
open FrankaDeploy.Foundation.Program
open scoped FloatArith

variable {D S : Type} [FloatArith D] [FloatArith S] [FloatCast D S] {W : Type}

/-! ## The log -/

inductive TickKind where
  | observation
  | occluded
  | frozen
deriving DecidableEq, Repr

/-- **A committed tick.** -/
structure CommittedTick where
  kind : TickKind
  cameraFrameId : ℕ
  sourceFrameId : Option ℕ
deriving DecidableEq, Repr

def PendingTick.committedTick (tick : PendingTick D S) : CommittedTick :=
  if tick.occludedClosureHandOnly = true then ⟨.occluded, tick.cameraFrameId, none⟩
  else if tick.frozenPostClosureWithoutPointcloud = true then ⟨.frozen, tick.cameraFrameId, none⟩
  else ⟨.observation, tick.cameraFrameId, some tick.pointcloudSourceFrameId⟩

variable (D S) in
/-- **The log of a run.** -/
structure TickLog where
  ticks : List CommittedTick
  seen : Option (V94PolicyObservation D S)
  proposed : Option (PendingTick D S)

namespace TickLog

def next (c : TickLog D S) : TickEvent D S → TickLog D S
  | .observed o => { c with seen := some o }
  | .primed record =>
    { c with ticks := c.ticks ++ [⟨.observation, record.cameraFrameId,
        c.seen.map (·.pointcloudSourceFrameId)⟩] }
  | .prepared tick => { c with proposed := some tick }
  | .committed _ =>
    { c with ticks := c.ticks ++ (c.proposed.map PendingTick.committedTick).toList }
  | .recoverable _ => c
  | .held _ => c
  | .raised => c

def of (t : List (TickEvent D S)) : TickLog D S := t.foldl next ⟨[], none, none⟩

theorem of_snoc (t : List (TickEvent D S)) (e : TickEvent D S) : of (t ++ [e]) = (of t).next e := by
  unfold of
  rw [List.foldl_append]
  rfl

def provenance (c : TickLog D S) : List CommittedTick := c.ticks.filter fun k => k.kind ≠ .occluded

def sources (c : TickLog D S) : List ℕ := c.ticks.filterMap (·.sourceFrameId)

end TickLog

theorem log_noticed {t t' : List (TickEvent D S)} (h : Noticed t t') :
    (TickLog.of t').ticks = (TickLog.of t).ticks ∧
      (TickLog.of t').proposed = (TickLog.of t).proposed := by
  obtain ⟨notices, rfl, hall⟩ := h
  induction notices using List.reverseRecOn with
  | nil =>
    rw [List.append_nil]
    exact ⟨rfl, rfl⟩
  | append_singleton notices e ih =>
    have hrest := ih fun e' he' => hall e' (List.mem_append_left _ he')
    have he : e.IsNotice := hall e (List.mem_append_right _ (List.mem_singleton.mpr rfl))
    rw [← List.append_assoc, TickLog.of_snoc]
    cases e with
    | observed o => exact hrest
    | recoverable h => exact hrest
    | primed record => exact he.elim
    | prepared tick => exact he.elim
    | held h => exact he.elim
    | committed ident => exact he.elim
    | raised => exact he.elim

/-! ## Checked provenance -/

def Forward (a b : CommittedTick) : Prop := a.cameraFrameId ≤ b.cameraFrameId

/-- **What every run keeps.** -/
structure Checked (limit : ℕ) (ticks : List CommittedTick) : Prop where
  provenance : (ticks.filter fun k => k.kind ≠ .occluded).IsChain
    fun a b => b.kind = .observation → Forward a b
  direct : ticks.IsChain fun a b => b.kind = .observation → a.kind ≠ .occluded → Forward a b
  admitted : LastKeyCounter.AdmittedBelow limit (ticks.filterMap (·.sourceFrameId))

theorem isChain_snoc {α : Type} {R : α → α → Prop} {l : List α} {b : α} (h : l.IsChain R)
    (hb : ∀ a ∈ l.getLast?, R a b) : (l ++ [b]).IsChain R := by
  rw [List.isChain_append]
  refine ⟨h, List.isChain_singleton b, fun a ha y hy => ?_⟩
  obtain rfl : b = y := by simpa using hy
  exact hb a ha

theorem Checked.hold {limit : ℕ} {ticks : List CommittedTick} (h : Checked limit ticks)
    {k : CommittedTick} (hkind : k.kind ≠ .observation) (hsource : k.sourceFrameId = none) :
    Checked limit (ticks ++ [k]) := by
  refine ⟨?_, isChain_snoc h.direct fun a _ hobs => absurd hobs hkind, ?_⟩
  · rw [List.filter_append]
    by_cases hocc : k.kind = .occluded
    · have hdrop : [k].filter (fun k => k.kind ≠ .occluded) = [] := by
        simp [hocc]
      rw [hdrop, List.append_nil]
      exact h.provenance
    · have hkeep : [k].filter (fun k => k.kind ≠ .occluded) = [k] := by
        simp [hocc]
      rw [hkeep]
      exact isChain_snoc h.provenance fun a _ hobs => absurd hobs hkind
  · have hnone : [k].filterMap (·.sourceFrameId) = [] := by
      simp [hsource]
    rw [List.filterMap_append, hnone, List.append_nil]
    exact h.admitted

theorem getLast?_filter_of_last {ticks : List CommittedTick} {a : CommittedTick}
    (ha : ticks.getLast? = some a) (hkind : a.kind ≠ .occluded) :
    (ticks.filter fun k => k.kind ≠ .occluded).getLast? = some a := by
  obtain ⟨rest, rfl⟩ := List.getLast?_eq_some_iff.mp ha
  have hkeep : [a].filter (fun k => k.kind ≠ .occluded) = [a] := by
    simp [hkind]
  rw [List.filter_append, hkeep, List.getLast?_concat]

theorem Checked.observation {limit : ℕ} {ticks : List CommittedTick} (h : Checked limit ticks)
    {frame source : ℕ}
    (hforward : ∀ a ∈ (ticks.filter fun k => k.kind ≠ .occluded).getLast?,
      a.cameraFrameId ≤ frame)
    (hadmitted : (LastKeyCounter.after (ticks.filterMap (·.sourceFrameId))).usesOf source < limit) :
    Checked limit (ticks ++ [⟨.observation, frame, some source⟩]) := by
  refine ⟨?_, isChain_snoc h.direct fun a ha _ hkind => ?_, ?_⟩
  · rw [List.filter_append]
    exact isChain_snoc h.provenance fun a ha _ => hforward a ha
  · exact hforward a (getLast?_filter_of_last ha hkind)
  · rw [List.filterMap_append]
    exact h.admitted.snoc hadmitted

/-! ## Agreement -/

/-- **The source and the log agree**, as long as no fault is latched. -/
structure AgreesLog (limit : ℕ) (c : TickLog D S) (v : TickView D S) : Prop where
  frameId : v.frameId = c.provenance.getLast?.map (·.cameraFrameId)
  counter : (⟨v.sourceFrameId, v.uses⟩ : LastKeyCounter ℕ) = LastKeyCounter.after c.sources
  pending : ∀ tick, v.pending = some tick → c.proposed = some tick
  admitted : ∀ tick, v.pending = some tick → tick.occludedClosureHandOnly = false →
    tick.frozenPostClosureWithoutPointcloud = false →
    (∀ last ∈ v.frameId, last ≤ tick.cameraFrameId) ∧
      v.usesOf tick.pointcloudSourceFrameId < limit

variable {config : TickSourceConfig D S} {env : TickWorld D S W} {v : TickView D S}
  {limit : ℕ} {c c' : TickLog D S} {s s' : PolicyTickSource D S W} {t t' : List (TickEvent D S)}

theorem AgreesLog.congr (h : AgreesLog limit c v) (hticks : c'.ticks = c.ticks)
    (hproposed : c'.proposed = c.proposed) : AgreesLog limit c' v := by
  have hprovenance : c'.provenance = c.provenance := by
    unfold TickLog.provenance
    rw [hticks]
  have hsources : c'.sources = c.sources := by
    unfold TickLog.sources
    rw [hticks]
  refine ⟨?_, ?_, fun tick htick => hproposed.trans (h.pending tick htick), h.admitted⟩
  · rw [hprovenance]
    exact h.frameId
  · rw [hsources]
    exact h.counter

theorem AgreesLog.checks (h : AgreesLog limit c v) {frame source : ℕ}
    (hforward : ∀ last ∈ v.frameId, last ≤ frame) (hreuse : v.usesOf source < limit) :
    (∀ a ∈ c.provenance.getLast?, a.cameraFrameId ≤ frame) ∧
      (LastKeyCounter.after c.sources).usesOf source < limit := by
  refine ⟨fun a ha => hforward _ ?_, ?_⟩
  · rw [h.frameId, ha]
    rfl
  · rw [← h.counter]
    exact hreuse

theorem counter_useSource (v : TickView D S) (source : ℕ) :
    (⟨(v.useSource source).sourceFrameId, (v.useSource source).uses⟩ : LastKeyCounter ℕ) =
      LastKeyCounter.use ⟨v.sourceFrameId, v.uses⟩ source := by
  unfold TickView.useSource LastKeyCounter.use
  by_cases h : some source = v.sourceFrameId
  · rw [if_pos h, if_pos h]
  · rw [if_neg h, if_neg h]

theorem agreesLog_idle (hframe : v.frameId = c.provenance.getLast?.map (·.cameraFrameId))
    (hcounter : (⟨v.sourceFrameId, v.uses⟩ : LastKeyCounter ℕ) = LastKeyCounter.after c.sources)
    (hpending : v.pending = none) : AgreesLog limit c v where
  frameId := hframe
  counter := hcounter
  pending tick htick := by
    rw [hpending] at htick
    cases htick
  admitted tick htick := by
    rw [hpending] at htick
    cases htick

theorem AgreesLog.observation (h : AgreesLog limit c v) {v' : TickView D S} {frame source : ℕ}
    (hticks : c'.ticks = c.ticks ++ [⟨.observation, frame, some source⟩])
    (hframe : v'.frameId = some frame)
    (hsource : v'.sourceFrameId = (v.useSource source).sourceFrameId)
    (huses : v'.uses = (v.useSource source).uses) (hpending : v'.pending = none) :
    AgreesLog limit c' v' := by
  refine agreesLog_idle ?_ ?_ hpending
  · have hprovenance : c'.provenance = c.provenance ++ [⟨.observation, frame, some source⟩] := by
      unfold TickLog.provenance
      rw [hticks, List.filter_append]
      rfl
    rw [hprovenance, List.getLast?_concat, hframe]
    rfl
  · have hsources : c'.sources = c.sources ++ [source] := by
      unfold TickLog.sources
      rw [hticks, List.filterMap_append]
      rfl
    rw [hsources, LastKeyCounter.after_snoc, ← h.counter, hsource, huses]
    exact counter_useSource v source

/-- **The log of a run is checked**, and agrees with the source unless a fault is latched. -/
def LogInvariant (config : TickSourceConfig D S) (s : PolicyTickSource D S W)
    (t : List (TickEvent D S)) : Prop :=
  Checked config.maximumActionsPerCameraFrame (TickLog.of t).ticks ∧
    (s.faultReason = none →
      AgreesLog config.maximumActionsPerCameraFrame (TickLog.of t) s.view)

theorem logInvariant_of_fault (h : Checked config.maximumActionsPerCameraFrame (TickLog.of t).ticks)
    (hfault : s.faultReason ≠ none) : LogInvariant config s t :=
  ⟨h, fun hhealthy => absurd hhealthy hfault⟩

theorem LogInvariant.raised (h : LogInvariant config s t) :
    LogInvariant config s (t ++ [.raised]) := by
  unfold LogInvariant
  rw [TickLog.of_snoc]
  exact h

theorem LogInvariant.held (h : LogInvariant config s t) (hold : BoundedPolicyTickHold D) :
    LogInvariant config s (t ++ [.held hold]) := by
  unfold LogInvariant
  rw [TickLog.of_snoc]
  exact h

section Healthy

variable (hchecked : Checked config.maximumActionsPerCameraFrame (TickLog.of t).ticks)
  (hagrees : AgreesLog config.maximumActionsPerCameraFrame (TickLog.of t) s.view)
include hchecked hagrees

theorem logInvariant_of_refused (h : Refused s.view t s' t') : LogInvariant config s' t' := by
  obtain ⟨hview, hnoticed⟩ := h
  obtain ⟨hticks, hproposed⟩ := log_noticed hnoticed
  refine ⟨by rw [hticks]; exact hchecked, fun _ => ?_⟩
  rw [hview]
  exact hagrees.congr hticks hproposed

theorem logInvariant_prime (index : ℤ) (now deadline : D) :
    wp (callOf config env (.prime index now deadline)) (fun _ => LogInvariant config)
      (fun _ s' t' => LogInvariant config s' (t' ++ [.raised])) s t := by
  unfold callOf
  rw [wp_bind]
  refine wp_mono (wp_prime index now deadline) ?_ ?_
  · rintro r s₁ t₁ ⟨-, hidle, hdone⟩
    rw [wp_emit]
    cases r with
    | hold hold => exact (logInvariant_of_refused hchecked hagrees hdone).held hold
    | record record =>
      obtain ⟨o, hframe, -, rfl, ⟨candidate, -, hview⟩, hadmitted⟩ := hdone
      obtain ⟨hforward, hreuse⟩ := hagrees.checks hadmitted.forward hadmitted.reuse
      have hlog : (TickLog.of (t ++ [.observed o] ++ [.primed record])).ticks =
          (TickLog.of t).ticks ++ [⟨.observation, o.cameraFrameId,
            some o.pointcloudSourceFrameId⟩] := by
        rw [TickLog.of_snoc, TickLog.of_snoc, ← hframe]
        rfl
      show LogInvariant config s₁ (t ++ [.observed o] ++ [.primed record])
      refine ⟨by rw [hlog]; exact hchecked.observation hforward hreuse, fun _ => ?_⟩
      rw [hview]
      exact hagrees.observation hlog rfl rfl rfl
        ((s.view.prime_pending o candidate record.acceptedPolicyAction13).trans hidle)
  · rintro e s₁ t₁ (hrefused | ⟨-, -, hfault, o, action, haccepted⟩)
    · exact (logInvariant_of_refused hchecked hagrees hrefused).raised
    · have hticks : (TickLog.of t₁).ticks = (TickLog.of t).ticks := by
        rw [haccepted.noticed, TickLog.of_snoc]
        rfl
      have hsame : Checked config.maximumActionsPerCameraFrame (TickLog.of t₁).ticks := by
        rw [hticks]
        exact hchecked
      exact (logInvariant_of_fault hsame hfault).raised

theorem logInvariant_prepare (sequence : ℤ) (previous : Vec 13 S) (now deadline : D) :
    wp (callOf config env (.prepare sequence previous now deadline))
      (fun _ => LogInvariant config)
      (fun _ s' t' => LogInvariant config s' (t' ++ [.raised])) s t := by
  unfold callOf
  rw [wp_bind]
  refine wp_mono (wp_prepare sequence previous now deadline) ?_ fun _ s' t' hs' =>
    (logInvariant_of_refused hchecked hagrees hs').raised
  rintro r s₁ t₁ ⟨-, hprepared⟩
  rw [wp_emit]
  cases r with
  | hold hold => exact (logInvariant_of_refused hchecked hagrees hprepared).held hold
  | command tick =>
    obtain ⟨hview, -, hkind⟩ := hprepared
    have hnoticed : Noticed t t₁ := by
      rcases hkind with ⟨o, rfl, -⟩ | ⟨hold, t₂, ht₂, rfl, -⟩
      · exact (Noticed.refl t).snoc trivial
      · exact ht₂.snoc trivial
    obtain ⟨hticks, -⟩ := log_noticed hnoticed
    have hlog : (TickLog.of (t₁ ++ [.prepared tick])).ticks = (TickLog.of t).ticks := by
      rw [TickLog.of_snoc]
      exact hticks
    show LogInvariant config s₁ (t₁ ++ [.prepared tick])
    refine ⟨by rw [hlog]; exact hchecked, fun _ => ?_⟩
    rw [hview]
    refine ⟨?_, ?_, fun tick' htick' => ?_, fun tick' htick' hocc hfrozen => ?_⟩
    · unfold TickLog.provenance
      rw [hlog]
      exact hagrees.frameId
    · unfold TickLog.sources
      rw [hlog]
      exact hagrees.counter
    · obtain rfl := Option.some.inj htick'
      rw [TickLog.of_snoc]
      rfl
    · obtain rfl := Option.some.inj htick'
      rcases hkind with ⟨o, -, htick⟩ | ⟨hold, t₂, -, -, htick⟩
      · exact ⟨htick.forward, htick.reuse⟩
      · -- a tick from a hold is of one of the other kinds
        rcases htick.kind with ⟨h, -⟩ | ⟨-, h⟩
        · exact absurd (hocc.symm.trans h) Bool.false_ne_true
        · exact absurd (hfrozen.symm.trans h) Bool.false_ne_true

theorem logInvariant_commit (ident : ℕ)
    (ledger : Option (ExecutedActionCommit S × ExecutedActionCommit S)) :
    wp (callOf config env (.commit ident ledger)) (fun _ => LogInvariant config)
      (fun _ s' t' => LogInvariant config s' (t' ++ [.raised])) s t := by
  unfold callOf
  rw [wp_bind]
  refine wp_mono (wp_commit ident ledger) ?_ ?_
  · rintro _ s₁ t₁ ⟨-, tick, hpending, rfl, ⟨hview, rfl⟩, -⟩
    rw [wp_emit]
    have hlog : (TickLog.of (t₁ ++ [.committed tick.ident])).ticks =
        (TickLog.of t₁).ticks ++ [tick.committedTick] := by
      rw [TickLog.of_snoc]
      show _ ++ ((TickLog.of t₁).proposed.map PendingTick.committedTick).toList = _
      rw [hagrees.pending tick hpending]
      rfl
    have hidle := s.view.commit_pending tick
    unfold TickView.commit at hview hidle
    by_cases hocc : tick.occludedClosureHandOnly = true
    · -- an occluded closure advances no provenance
      rw [if_pos hocc] at hview
      have htick : tick.committedTick = ⟨.occluded, tick.cameraFrameId, none⟩ := if_pos hocc
      rw [htick] at hlog
      refine ⟨by rw [hlog]; exact hchecked.hold nofun rfl, fun _ => ?_⟩
      rw [hview]
      refine agreesLog_idle ?_ ?_ rfl
      · unfold TickLog.provenance
        rw [hlog, List.filter_append]
        exact hagrees.frameId.trans (by rw [show List.filter _ [_] = [] from rfl, List.append_nil]; rfl)
      · unfold TickLog.sources
        rw [hlog, List.filterMap_append]
        exact hagrees.counter.trans (by rw [show List.filterMap _ [_] = [] from rfl, List.append_nil]; rfl)
    · rw [if_neg hocc] at hview
      by_cases hfrozen : tick.frozenPostClosureWithoutPointcloud = true
      · -- a frozen motion takes the frame of its hold
        rw [if_pos hfrozen] at hview
        have htick : tick.committedTick = ⟨.frozen, tick.cameraFrameId, none⟩ :=
          (if_neg hocc).trans (if_pos hfrozen)
        rw [htick] at hlog
        refine ⟨by rw [hlog]; exact hchecked.hold nofun rfl, fun _ => ?_⟩
        rw [hview]
        refine agreesLog_idle ?_ ?_ rfl
        · have hprovenance : (TickLog.of (t₁ ++ [.committed tick.ident])).provenance =
              (TickLog.of t₁).provenance ++ [⟨.frozen, tick.cameraFrameId, none⟩] := by
            unfold TickLog.provenance
            rw [hlog, List.filter_append]
            rfl
          rw [hprovenance, List.getLast?_concat]
          rfl
        · have hsources : (TickLog.of (t₁ ++ [.committed tick.ident])).sources =
              (TickLog.of t₁).sources := by
            unfold TickLog.sources
            rw [hlog, List.filterMap_append]
            exact List.append_nil _
          rw [hsources]
          exact hagrees.counter
      · -- an ordinary tick was admitted when it was staged
        rw [if_neg hfrozen] at hview
        have htick : tick.committedTick =
            ⟨.observation, tick.cameraFrameId, some tick.pointcloudSourceFrameId⟩ :=
          (if_neg hocc).trans (if_neg hfrozen)
        rw [htick] at hlog
        rw [Bool.not_eq_true] at hocc hfrozen
        obtain ⟨hforward, hreuse⟩ := hagrees.admitted tick hpending hocc hfrozen
        obtain ⟨hforward, hreuse⟩ := hagrees.checks hforward hreuse
        refine ⟨by rw [hlog]; exact hchecked.observation hforward hreuse, fun _ => ?_⟩
        rw [hview]
        exact hagrees.observation hlog rfl rfl rfl rfl
  · rintro _ s₁ t₁ (hs₁ | ⟨-, hfault, tick, -, hs₁ | ⟨rfl, -⟩⟩)
    · exact (logInvariant_of_refused hchecked hagrees (refused_of_view hs₁)).raised
    · exact (logInvariant_of_refused hchecked hagrees (refused_of_view hs₁)).raised
    · exact (logInvariant_of_fault hchecked hfault).raised

theorem logInvariant_callOf (call : TickCall env) :
    wp (callOf config env call) (fun _ => LogInvariant config)
      (fun _ s' t' => LogInvariant config s' (t' ++ [.raised])) s t := by
  have hrefused : ∀ (s' : PolicyTickSource D S W) t', Refused s.view t s' t' →
      LogInvariant config s' t' := fun _ _ h => logInvariant_of_refused hchecked hagrees h
  have hview : ∀ (s' : PolicyTickSource D S W) t', ViewIs s.view t s' t' →
      LogInvariant config s' t' := fun s' t' h => hrefused s' t' (refused_of_view h)
  cases call with
  | warmup rounds hardDeadline maximum =>
    exact wp_mono (keeps_warmup rounds hardDeadline maximum s t ⟨rfl, .refl t⟩)
      (fun _ s' t' h => hrefused s' t' h) fun _ s' t' h => (hrefused s' t' h).raised
  | prime index now hardDeadline => exact logInvariant_prime hchecked hagrees index now hardDeadline
  | prepare sequence previous now hardDeadline =>
    exact logInvariant_prepare hchecked hagrees sequence previous now hardDeadline
  | commit ident ledger => exact logInvariant_commit hchecked hagrees ident ledger
  | feedback sequence feedback =>
    exact wp_mono (wp_feedback sequence feedback) (fun _ s' t' h => hview s' t' h)
      fun _ s' t' h => (hview s' t' h).raised
  | abort ident reason =>
    exact wp_mono (wp_abort ident reason) (fun _ s' t' h => hview s' t' h.1)
      fun _ _ _ h => h.elim
  | checkArrival measured now =>
    unfold callOf
    rw [wp_bind]
    refine wp_mono (wp_checkFrankaArrivalGate env measured now) (fun _ s' t' h => ?_)
      fun _ s' t' h => (hview s' t' h).raised
    rw [wp_ret]
    exact hview s' t' h

end Healthy

theorem logInvariant_performCall (h : LogInvariant config s t) (call : TickCall env) :
    wp (performCall config env call) (fun _ => LogInvariant config)
      (fun _ => LogInvariant config) s t := by
  have hcall : wp (callOf config env call) (fun _ => LogInvariant config)
      (fun _ s' t' => LogInvariant config s' (t' ++ [.raised])) s t := by
    by_cases hfault : s.faultReason = none
    · exact logInvariant_callOf h.1 (h.2 hfault) call
    · have hstay : ∀ (s' : PolicyTickSource D S W) t',
          ViewIs s.view t s' t' ∧ s'.faultReason ≠ none → LogInvariant config s' t' := by
        rintro s' t' ⟨⟨-, rfl⟩, hfault'⟩
        exact logInvariant_of_fault h.1 hfault'
      exact wp_mono (wp_callOf_faulted hfault call) (fun _ s' t' hs' => hstay s' t' hs')
        fun _ s' t' hs' => (hstay s' t' hs').raised
  unfold performCall
  rw [wp_bind, wp_attempt]
  refine wp_mono hcall (fun u s' t' hs' => ?_) fun e s' t' hs' => ?_
  · simp only []
    rw [wp_ret]
    exact hs'
  · simp only []
    rw [wp_emit]
    exact hs'

theorem checked_run (config : TickSourceConfig D S) (env : TickWorld D S W) (world : W)
    (mapper : TransactionalV94ActionMapper D S) (shaper : Option RH56Shaper)
    (calls : List (TickCall env)) :
    Checked config.maximumActionsPerCameraFrame (TickLog.of
      ((tickMachine config env).trace (.fresh config world mapper shaper) calls)).ticks := by
  have hstart : LogInvariant config
      (.fresh config world mapper shaper : PolicyTickSource D S W) [] := by
    refine ⟨⟨.nil, .nil, fun pre x post hsplit => ?_⟩, fun _ => agreesLog_idle rfl rfl rfl⟩
    simp [TickLog.of] at hsplit
  exact ((tickMachine config env).monitor_induction (P := LogInvariant config) hstart
    (fun s t call h => wp_outcome (logInvariant_performCall h call)) calls).1

/-! ## The provenance of a run -/

theorem isChain_and_iff {α : Type} {R Q P : α → α → Prop} {l : List α} (h : l.IsChain R)
    (hRQ : ∀ a b, R a b → Q a b → P a b) (hP : ∀ a b, P a b → Q a b) :
    l.IsChain P ↔ l.IsChain Q := by
  refine ⟨fun hp => hp.imp hP, fun hq => ?_⟩
  induction l with
  | nil => exact .nil
  | cons a l ih =>
    cases l with
    | nil => exact .singleton a
    | cons b l =>
      rw [List.isChain_cons_cons] at h hq ⊢
      exact ⟨hRQ a b h.1 hq.1, ih h.2 hq.2⟩

/-- **Camera provenance of a run.** The frames of the ticks that carry one never decrease exactly if
no frozen motion goes back; the frames of all committed ticks never decrease exactly if neither a
tick from a hold nor the tick behind an occluded closure goes back; and if no source frame comes
back after it was left, each is consumed within the limit. -/
theorem camera_provenance (config : TickSourceConfig D S) (env : TickWorld D S W) (world : W)
    (mapper : TransactionalV94ActionMapper D S) (shaper : Option RH56Shaper)
    (calls : List (TickCall env)) :
    let log := TickLog.of
      ((tickMachine config env).trace (.fresh config world mapper shaper) calls)
    (log.provenance.IsChain Forward ↔
        log.provenance.IsChain fun a b => b.kind = .frozen → Forward a b) ∧
      (log.ticks.IsChain Forward ↔
        log.ticks.IsChain fun a b => b.kind ≠ .observation ∨ a.kind = .occluded → Forward a b) ∧
      (LastKeyCounter.NeverReturns log.sources →
        ∀ source, log.sources.count source ≤ config.maximumActionsPerCameraFrame) := by
  intro log
  have hchecked := checked_run config env world mapper shaper calls
  have hkinds : log.provenance.IsChain fun a b =>
      (b.kind = .observation → Forward a b) ∧ b.kind ≠ .occluded := by
    have hmem : ∀ b ∈ log.provenance, b.kind ≠ .occluded := by
      intro b hb
      simpa using (List.mem_filter.mp hb).2
    exact hchecked.provenance.imp_of_mem_imp fun a b _ hb h => ⟨h, hmem b hb⟩
  refine ⟨?_, ?_, fun hreturns => ?_⟩
  · refine isChain_and_iff hkinds (fun a b hab hfrozen => ?_) fun a b hab _ => hab
    -- a tick that carries a frame is an observation or a frozen motion
    cases hkind : b.kind with
    | observation => exact hab.1 hkind
    | occluded => exact absurd hkind hab.2
    | frozen => exact hfrozen hkind
  · refine isChain_and_iff hchecked.direct (fun a b hab hrest => ?_) fun a b hab _ => hab
    by_cases hobs : b.kind = .observation
    · by_cases hocc : a.kind = .occluded
      · exact hrest (.inr hocc)
      · exact hab hobs hocc
    · exact hrest (.inl hobs)
  · exact LastKeyCounter.count_le_of_neverReturns hreturns hchecked.admitted

/-! ## Frames that go back -/

def relaxedConfig (startupSteps : ℕ) : TickSourceConfig Binary64 Binary32 where
  pointFeatureDim := 3
  historyLength := 4
  proprioDim := 67
  actionControllerContractId := "legacy"
  initialPreviousAction13 := zeroVec 13
  requiresShaperQD := false
  maximumObjectPointcloudAgeS := FloatArith.one
  maximumPointcloudFutureSkewS := FloatArith.one
  maximumFrankaActionAgeS := FloatArith.one
  maximumFrankaHardAgeS := FloatArith.one
  maximumActionsPerCameraFrame := 2
  startupNonActuatedPolicySteps := startupSteps
  holdRetryIntervalS := FloatArith.one
  frankaArrivalGateEnabled := false
  frankaArrivalGateToleranceRad := FloatArith.one
  frankaArrivalGateTimeoutS := FloatArith.one
  frankaArrivalGateRetryIntervalS := FloatArith.one
  isReplaySource := false
  history_contract := by decide
  reuse_contract := by decide

def observationOf (frame source : ℕ) : V94PolicyObservation Binary64 Binary32 where
  pointcloudXyzrgbPalm := ⟨3, fun _ _ => FloatArith.zero, .inl rfl, fun _ _ => isFinite_zero32⟩
  pointcloudValid := zeroVec 128
  proprioPrefix54 := zeroVec 54
  measuredFrankaQRad := zeroVec 7
  frankaStateCapturedMonotonicS := FloatArith.zero
  pointcloudCapturedRealtimeS := FloatArith.zero
  observationRealtimeS := FloatArith.zero
  cameraFrameId := frame
  holdArmTarget := false
  controllerState29 := none
  shaperQDRad := none
  pointcloudStatus := "fresh"
  sourceValidPoints := 128
  pointcloudSourceFrameId := source
  state_finite := isFinite_zero
  cloud_finite := isFinite_zero
  observed_finite := isFinite_zero

def holdAt (frame : ℕ) : TickException Binary64 Binary32 :=
  .hold ⟨frame, "camera is behind",
    some ⟨zeroVec 7, FloatArith.zero, FloatArith.zero, false, isFinite_zero, isFinite_zero⟩⟩

def replayedOutput : PolicyOutput Binary64 Binary32 :=
  ⟨some (zeroVec 13).1, some (zeroVec 7).1, some fun _ => FloatArith.ofRat 1000, true, false⟩

def scriptedWorld : TickWorld Binary64 Binary32
    (List (Except (TickException Binary64 Binary32) (V94PolicyObservation Binary64 Binary32))) where
  monotonic w := (.ok FloatArith.zero, w)
  realtime w := (.ok FloatArith.zero, w)
  snapshot _ _ _ w := match w with
    | [] => (.ok none, [])
    | .ok observation :: rest => (.ok (some observation), rest)
    | .error e :: rest => (.error e, rest)
  act _ w := (.ok replayedOutput, w)
  actionForSequence := none
  actionForOccludedClosure := none
  actionForFrozenPostClosure := some fun _ _ w => (.ok (some replayedOutput), w)
  commitReplayProposal := none
  discardReplayProposal := none
  Feedback := Unit
  commitRh56FeedbackAfterDualAck := none
  recordTick := none
  sleep _ w := (.ok (), w)

def scriptedLog (startupSteps : ℕ)
    (script : List (Except (TickException Binary64 Binary32) (V94PolicyObservation Binary64 Binary32)))
    (calls : List (TickCall scriptedWorld)) : TickLog Binary64 Binary32 :=
  TickLog.of ((tickMachine (relaxedConfig startupSteps) scriptedWorld).trace
    (.fresh (relaxedConfig startupSteps) script (.fresh plainConfig (zeroVec 7) (zeroVec 6)) none)
    calls)

def zeroCommit (sequence : ℕ) : ExecutedActionCommit Binary32 := ⟨sequence, zeroVec 13⟩

def frozenBehind : TickLog Binary64 Binary32 :=
  scriptedLog 0 [.ok (observationOf 5 5), .error (holdAt 3)]
    [.prepare 1 (zeroVec 13).1 FloatArith.zero FloatArith.one,
      .commit 0 (some (zeroCommit 1, zeroCommit 1)),
      .prepare 2 (zeroVec 13).1 FloatArith.zero FloatArith.one,
      .commit 1 (some (zeroCommit 2, zeroCommit 2))]

def alternatingStartup : TickLog Binary64 Binary32 :=
  scriptedLog 5
    [.ok (observationOf 1 1), .ok (observationOf 2 2), .ok (observationOf 3 1),
      .ok (observationOf 4 2), .ok (observationOf 5 1)]
    [.prime 0 FloatArith.zero FloatArith.one, .prime 1 FloatArith.zero FloatArith.one,
      .prime 2 FloatArith.zero FloatArith.one, .prime 3 FloatArith.zero FloatArith.one,
      .prime 4 FloatArith.zero FloatArith.one]

/-- **A frozen motion takes the frame of a hold that is behind the last commit, and a source frame
that comes back is used three times though the limit is two.** -/
theorem frozen_frame_goes_back_and_reuse_restarts :
    (frozenBehind.ticks.map fun k => (k.kind, k.cameraFrameId)) = [(.observation, 5), (.frozen, 3)] ∧
      alternatingStartup.sources = [1, 2, 1, 2, 1] ∧
      (relaxedConfig 5).maximumActionsPerCameraFrame < alternatingStartup.sources.count 1 := by
  decide +kernel

end FrankaDeploy.TickSource
