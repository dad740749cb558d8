import FrankaDeploy.Foundation.Monitor
import FrankaDeploy.Foundation.SlidingWindow
import FrankaDeploy.TickSource.CallSpecs

/-! # The history law of the tick source

The law reads the events of a run and keeps what was accepted: each frame is an observation together
with the action of the tick that was accepted immediately before it. The tick source refines the
law: it accepts every trace, and the stored history is the window over the law's frames.

Holds, refused calls and ticks that are never committed leave the frames alone. A call that raises
after its tick was accepted closes the law: nothing is accepted after it. -/

set_option linter.unusedSectionVars false

namespace FrankaDeploy.TickSource

open FrankaDeploy.Foundation FrankaDeploy.ClosedLoop FrankaDeploy.Contracts
open FrankaDeploy.Foundation.Program
open scoped FloatArith

variable {D S : Type} [FloatArith D] [FloatArith S] [FloatCast D S] {W : Type}

/-! ## The law -/

variable (D S) in
/-- **An accepted frame**: an observation and the previous action. -/
structure AcceptedFrame where
  observation : V94PolicyObservation D S
  previous : FiniteVec 13 S

variable (D S) in
/-- **The history law.** -/
structure HistoryLaw where
  frames : List (AcceptedFrame D S)
  previous : FiniteVec 13 S
  seen : Option (V94PolicyObservation D S)
  proposed : Option (PendingTick D S)
  closed : Bool

namespace HistoryLaw

def start (config : TickSourceConfig D S) : HistoryLaw D S :=
  ⟨[], config.initialPreviousAction13, none, none, false⟩

def accept (c : HistoryLaw D S) (observation : Option (V94PolicyObservation D S))
    (action : FiniteVec 13 S) : HistoryLaw D S :=
  { c with
    frames := c.frames ++ (observation.map fun o => ⟨o, c.previous⟩).toList
    previous := action
    proposed := none }

end HistoryLaw

/-- **The steps of the law.** -/
inductive HistoryStep : HistoryLaw D S → TickEvent D S → HistoryLaw D S → Prop where
  | observed {c : HistoryLaw D S} {o : V94PolicyObservation D S} :
      HistoryStep c (.observed o) { c with seen := some o }
  /-- A hold was caught: what follows consumes no observation. -/
  | recoverable {c : HistoryLaw D S} {h : V94RecoverableObservationHold D S} :
      HistoryStep c (.recoverable h) { c with seen := none }
  | held {c : HistoryLaw D S} {h : BoundedPolicyTickHold D} : HistoryStep c (.held h) c
  /-- A command is proposed for the observation that was seen, or for none. -/
  | prepared {c : HistoryLaw D S} {tick : PendingTick D S} : c.closed = false →
      c.proposed = none → tick.observation = c.seen →
      HistoryStep c (.prepared tick) { c with proposed := some tick }
  /-- **A startup tick is accepted** with the observation that was seen. -/
  | primed {c : HistoryLaw D S} {record : NonActuatedPolicyTick D S}
      {o : V94PolicyObservation D S} : c.closed = false → c.proposed = none → c.seen = some o →
      record.cameraFrameId = o.cameraFrameId →
      record.previousPolicyAction13Used = c.previous →
      HistoryStep c (.primed record) (c.accept (some o) record.acceptedPolicyAction13)
  /-- **The proposed tick is accepted** with its observation, if it has one. -/
  | committed {c : HistoryLaw D S} {tick : PendingTick D S} : c.closed = false →
      c.proposed = some tick →
      HistoryStep c (.committed tick.ident)
        (c.accept tick.observation tick.command.executedPolicyAction13)
  | raised {c : HistoryLaw D S} : HistoryStep c .raised c
  | primedRaised {c : HistoryLaw D S} {o : V94PolicyObservation D S} {action : FiniteVec 13 S} :
      c.closed = false → c.proposed = none → c.seen = some o →
      HistoryStep c .raised { c.accept (some o) action with closed := true }
  | committedRaised {c : HistoryLaw D S} {tick : PendingTick D S} : c.closed = false →
      c.proposed = some tick →
      HistoryStep c .raised
        { c.accept tick.observation tick.command.executedPolicyAction13 with closed := true }

/-! ## The window -/

variable {config : TickSourceConfig D S} {env : TickWorld D S W}

/-- **The proprioception of an accepted frame**: the observation's prefix, then the previous
action, then the controller's state in the long layout. -/
def proprioRow (config : TickSourceConfig D S) (frame : AcceptedFrame D S) : List S :=
  (List.ofFn frame.observation.proprioPrefix54.1 ++ List.ofFn frame.previous.1) ++
    if config.proprioDim = 96 then
      (frame.observation.controllerState29.map fun state => List.ofFn state.1).getD []
    else []

/-- **The history over a list of accepted frames**: the last `history_length` ones, the first one
repeated to fill. -/
def windowOf (config : TickSourceConfig D S) (frames : List (AcceptedFrame D S)) :
    HistoryCandidate S :=
  let window := slidingWindow config.historyLength frames
  ⟨window.map fun f => f.observation.pointcloudXyzrgbPalm,
    window.map fun f => f.observation.pointcloudValid, window.map (proprioRow config)⟩

def HistoryLaw.history (config : TickSourceConfig D S) (c : HistoryLaw D S) :
    Option (HistoryCandidate S) :=
  if c.frames.isEmpty = true then none else some (windowOf config c.frames)

theorem historyLength_pos (config : TickSourceConfig D S) : 0 < config.historyLength := by
  have h := config.history_contract
  simp only [List.mem_cons, Prod.mk.injEq, List.not_mem_nil, or_false] at h
  omega

theorem currentProprio_eq {o : V94PolicyObservation D S} {previous : FiniteVec 13 S} {row : List S}
    (h : currentProprio config.proprioDim o previous = .ok row) :
    row = proprioRow config ⟨o, previous⟩ := by
  unfold currentProprio at h
  unfold proprioRow
  by_cases hlong : config.proprioDim = 96
  · rw [if_pos hlong] at h ⊢
    cases hstate : o.controllerState29 with
    | none =>
      rw [hstate] at h
      cases h
    | some state =>
      rw [hstate] at h
      cases h
      rfl
  · rw [if_neg hlong] at h ⊢
    cases h
    rw [List.append_nil]

theorem eq_of_ite_eq_ok {α : Type} {c : Prop} [Decidable c] {a b : α} {e : PyError}
    (h : (if c then Except.ok a else .error e : Except PyError α) = .ok b) : b = a := by
  by_cases hc : c
  · rw [if_pos hc] at h
    exact (Except.ok.inj h).symm
  · rw [if_neg hc] at h
    cases h

theorem candidate_eq_window {c : HistoryLaw D S} {o : V94PolicyObservation D S}
    {candidate : HistoryCandidate S}
    (h : candidateHistoryLocked config (c.history config) o c.previous = .ok candidate) :
    candidate = windowOf config (c.frames ++ [⟨o, c.previous⟩]) := by
  unfold candidateHistoryLocked at h
  rw [except_bind_eq_ok] at h
  obtain ⟨row, hrow, h⟩ := h
  obtain rfl := currentProprio_eq hrow
  rw [ite_error_eq_ok] at h
  obtain ⟨-, h⟩ := h
  simp only [except_bind_eq_ok, ofSource_eq_ok] at h
  obtain ⟨points, hpoints, valid, hvalid, proprio, hproprio, h⟩ := h
  obtain rfl := eq_of_ite_eq_ok hpoints
  obtain rfl := eq_of_ite_eq_ok hvalid
  obtain rfl := eq_of_ite_eq_ok hproprio
  obtain rfl := (Except.ok.inj h).symm
  have hpos := historyLength_pos config
  unfold windowOf HistoryLaw.history
  cases hframes : c.frames with
  | nil =>
    -- the first frame is repeated
    simp only [List.isEmpty_nil, if_true, List.nil_append, slidingWindow_singleton hpos,
      List.map_replicate]
  | cons f fs =>
    -- the oldest frame is dropped and the new one is added
    have hne : f :: fs ≠ [] := List.cons_ne_nil f fs
    simp only [List.isEmpty_cons, Bool.false_eq_true, if_false, windowOf,
      slidingWindow_snoc config.historyLength hne, List.map_append, List.map_drop, List.map_cons,
      List.map_nil]

/-! ## Refinement -/

/-- **The source agrees with the law.** -/
structure AgreesHistory (config : TickSourceConfig D S) (c : HistoryLaw D S)
    (s : PolicyTickSource D S W) : Prop where
  history : s.history = c.history config
  previous : s.policyPreviousAction13 = c.previous
  closed : c.closed = true → s.faultReason ≠ none
  pending : c.closed = false → s.pending = c.proposed
  candidate : c.closed = false → ∀ tick o, c.proposed = some tick → tick.observation = some o →
    ∃ candidate, tick.history = some candidate ∧
      candidateHistoryLocked config s.history o s.policyPreviousAction13 = .ok candidate

def RefinesHistory (config : TickSourceConfig D S) (s : PolicyTickSource D S W)
    (t : List (TickEvent D S)) : Prop :=
  ∃ c, Monitor.Accepts HistoryStep (.start config) t c ∧ AgreesHistory config c s

variable {c : HistoryLaw D S} {s s' : PolicyTickSource D S W} {t t' : List (TickEvent D S)}

theorem AgreesHistory.of_view (h : AgreesHistory config c s) (hview : s'.view = s.view)
    (hfault : c.closed = true → s'.faultReason ≠ none)
    (seen : Option (V94PolicyObservation D S)) :
    AgreesHistory config { c with seen := seen } s' := by
  have hhistory : s'.history = s.history := congrArg TickView.history hview
  have hprevious : s'.policyPreviousAction13 = s.policyPreviousAction13 :=
    congrArg TickView.previous hview
  have hpending : s'.pending = s.pending := congrArg TickView.pending hview
  refine ⟨hhistory.trans h.history, hprevious.trans h.previous, hfault,
    fun hopen => hpending.trans (h.pending hopen), fun hopen tick o htick ho => ?_⟩
  rw [hhistory, hprevious]
  exact h.candidate hopen tick o htick ho

theorem accepts_notices (h : Monitor.Accepts HistoryStep (.start config) t c)
    (ht : Noticed t t') :
    ∃ seen, Monitor.Accepts HistoryStep (.start config) t' { c with seen := seen } := by
  obtain ⟨notices, rfl, hall⟩ := ht
  induction notices using List.reverseRecOn with
  | nil =>
    rw [List.append_nil]
    exact ⟨c.seen, h⟩
  | append_singleton notices e ih =>
    obtain ⟨seen, hseen⟩ := ih fun e' he' => hall e' (List.mem_append_left _ he')
    have he : e.IsNotice := hall e (List.mem_append_right _ (List.mem_singleton.mpr rfl))
    rw [← List.append_assoc]
    cases e with
    | observed o => exact ⟨some o, .snoc hseen .observed⟩
    | recoverable h => exact ⟨none, .snoc hseen .recoverable⟩
    | primed record => exact he.elim
    | prepared tick => exact he.elim
    | held h => exact he.elim
    | committed ident => exact he.elim
    | raised => exact he.elim

/-- **A refused call**: the view is unchanged and only notices were added. -/
theorem refines_of_refused (hc : Monitor.Accepts HistoryStep (.start config) t c)
    (h : AgreesHistory config c s) (hopen : c.closed = false) (hrefused : Refused s.view t s' t') :
    RefinesHistory config s' t' := by
  obtain ⟨seen, hseen⟩ := accepts_notices hc hrefused.2
  refine ⟨_, hseen, h.of_view hrefused.1 (fun hclosed => ?_) seen⟩
  rw [hopen] at hclosed
  cases hclosed

theorem RefinesHistory.raised (h : RefinesHistory config s t) :
    RefinesHistory config s (t ++ [.raised]) := by
  obtain ⟨c, hc, hagrees⟩ := h
  exact ⟨c, .snoc hc .raised, hagrees⟩

theorem RefinesHistory.held (h : RefinesHistory config s t) (hold : BoundedPolicyTickHold D) :
    RefinesHistory config s (t ++ [.held hold]) := by
  obtain ⟨c, hc, hagrees⟩ := h
  exact ⟨c, .snoc hc .held, hagrees⟩

theorem history_accept (c : HistoryLaw D S) (o : V94PolicyObservation D S)
    (action : FiniteVec 13 S) :
    (c.accept (some o) action).history config =
      some (windowOf config (c.frames ++ [⟨o, c.previous⟩])) := by
  unfold HistoryLaw.history HistoryLaw.accept
  simp

theorem agrees_primed {o : V94PolicyObservation D S} {action : FiniteVec 13 S}
    (h : AgreesHistory config c s) (hopen : c.closed = false) (hidle : c.proposed = none)
    (haccepted : StartupAccepted config s.view t o action s' t') :
    AgreesHistory config (c.accept (some o) action) s' := by
  obtain ⟨-, ⟨candidate, hcandidate, hview⟩, -⟩ := haccepted
  have hwindow : candidate = windowOf config (c.frames ++ [⟨o, c.previous⟩]) := by
    refine candidate_eq_window ?_
    rw [← h.history, ← h.previous]
    exact hcandidate
  have hfields : s'.view.history = some candidate ∧ s'.view.previous = action ∧
      s'.view.pending = s.view.pending := by
    rw [hview]
    exact ⟨rfl, rfl, s.view.prime_pending o candidate action⟩
  refine ⟨?_, hfields.2.1, fun hclosed => ?_, fun _ => ?_, fun _ tick o' htick => ?_⟩
  · rw [history_accept, ← hwindow]
    exact hfields.1
  · exact absurd (hopen.symm.trans hclosed) Bool.false_ne_true
  · exact hfields.2.2.trans ((h.pending hopen).trans hidle)
  · cases htick

/-- **An accepted tick of any kind**: the history and the previous action are the law's. -/
theorem commit_history_previous {tick : PendingTick D S} (h : AgreesHistory config c s)
    (hopen : c.closed = false) (hproposed : c.proposed = some tick)
    (hcommittable : Committable tick) :
    (s.view.commit tick).history =
        (c.accept tick.observation tick.command.executedPolicyAction13).history config ∧
      (s.view.commit tick).previous = tick.command.executedPolicyAction13 := by
  -- a tick without an observation keeps the frames
  have hkeep : tick.observation = none → s.view.history =
      (c.accept tick.observation tick.command.executedPolicyAction13).history config := by
    intro hnone
    rw [hnone]
    have hframes : (c.accept none tick.command.executedPolicyAction13).frames = c.frames := by
      show c.frames ++ [] = c.frames
      rw [List.append_nil]
    unfold HistoryLaw.history
    rw [hframes]
    exact h.history
  unfold TickView.commit
  by_cases hocc : tick.occludedClosureHandOnly = true
  · rw [if_pos hocc]
    exact ⟨hkeep (hcommittable.occluded hocc), rfl⟩
  · rw [if_neg hocc]
    rw [Bool.not_eq_true] at hocc
    by_cases hfrozen : tick.frozenPostClosureWithoutPointcloud = true
    · rw [if_pos hfrozen]
      exact ⟨hkeep (hcommittable.frozen hocc hfrozen), rfl⟩
    · rw [if_neg hfrozen]
      rw [Bool.not_eq_true] at hfrozen
      refine ⟨?_, rfl⟩
      obtain ⟨o, ho⟩ := Option.isSome_iff_exists.mp (hcommittable.ordinary hocc hfrozen).1
      obtain ⟨candidate, hhistory, hcandidate⟩ := h.candidate hopen tick o hproposed ho
      rw [h.history, h.previous] at hcandidate
      show tick.history = _
      rw [ho, history_accept, hhistory, candidate_eq_window hcandidate]

theorem agrees_closed (hhistory : s.history = c.history config)
    (hprevious : s.policyPreviousAction13 = c.previous) (hfault : s.faultReason ≠ none) :
    AgreesHistory config { c with closed := true } s where
  history := hhistory
  previous := hprevious
  closed _ := hfault
  pending hopen := by cases hopen
  candidate hopen := by cases hopen

theorem agrees_idle (hhistory : s.history = c.history config)
    (hprevious : s.policyPreviousAction13 = c.previous) (hopen : c.closed = false)
    (hproposed : c.proposed = none) (hpending : s.pending = none) : AgreesHistory config c s where
  history := hhistory
  previous := hprevious
  closed hclosed := by
    rw [hopen] at hclosed
    cases hclosed
  pending _ := hpending.trans hproposed.symm
  candidate _ tick o htick := by
    rw [hproposed] at htick
    cases htick

section Open

variable (hc : Monitor.Accepts HistoryStep (.start config) t c) (hagrees : AgreesHistory config c s)
  (hopen : c.closed = false)
include hc hagrees hopen

theorem refines_prime (index : ℤ) (now deadline : D) :
    wp (callOf config env (.prime index now deadline)) (fun _ => RefinesHistory config)
      (fun _ s' t' => RefinesHistory config s' (t' ++ [.raised])) s t := by
  -- the law after the observation of an accepted tick
  have hseen : ∀ {o : V94PolicyObservation D S} {action : FiniteVec 13 S}
      {s₁ : PolicyTickSource D S W} {t₁ : List (TickEvent D S)},
      StartupAccepted config s.view t o action s₁ t₁ →
      Monitor.Accepts HistoryStep (.start config) t₁ { c with seen := some o } := by
    intro o action s₁ t₁ haccepted
    rw [haccepted.noticed]
    exact .snoc hc .observed
  have hsame : ∀ seen, AgreesHistory config { c with seen := seen } s := fun seen =>
    hagrees.of_view rfl hagrees.closed seen
  unfold callOf
  rw [wp_bind]
  refine wp_mono (wp_prime index now deadline) ?_ ?_
  · rintro r s₁ t₁ ⟨-, hidle, hdone⟩
    have hproposed : c.proposed = none := (hagrees.pending hopen).symm.trans hidle
    rw [wp_emit]
    cases r with
    | hold hold =>
      have hrefines : RefinesHistory config s₁ t₁ := refines_of_refused hc hagrees hopen hdone
      exact hrefines.held hold
    | record record =>
      obtain ⟨o, hframe, hprevious, haccepted⟩ := hdone
      have hstep := Monitor.Accepts.snoc (hseen haccepted)
        (.primed hopen hproposed rfl hframe (hprevious.trans hagrees.previous))
      exact ⟨_, hstep, agrees_primed (hsame (some o)) hopen hproposed haccepted⟩
  · rintro e s₁ t₁ (hrefused | ⟨-, hidle, hfault, o, action, haccepted⟩)
    · exact (refines_of_refused hc hagrees hopen hrefused).raised
    · have hproposed : c.proposed = none := (hagrees.pending hopen).symm.trans hidle
      have hinstalled := agrees_primed (hsame (some o)) hopen hproposed haccepted
      have hraised : HistoryStep { c with seen := some o } .raised
          { ({ c with seen := some o } : HistoryLaw D S).accept (some o) action with
            closed := true } := .primedRaised hopen hproposed rfl
      exact ⟨_, .snoc (hseen haccepted) hraised, agrees_closed hinstalled.history hinstalled.previous hfault⟩

theorem refines_prepare (sequence : ℤ) (previous : Vec 13 S) (now deadline : D) :
    wp (callOf config env (.prepare sequence previous now deadline))
      (fun _ => RefinesHistory config)
      (fun _ s' t' => RefinesHistory config s' (t' ++ [.raised])) s t := by
  unfold callOf
  rw [wp_bind]
  refine wp_mono (wp_prepare sequence previous now deadline) ?_ fun _ s' t' hs' =>
    (refines_of_refused hc hagrees hopen hs').raised
  rintro r s₁ t₁ ⟨-, hprepared⟩
  rw [wp_emit]
  cases r with
  | hold hold =>
    have hrefines : RefinesHistory config s₁ t₁ := refines_of_refused hc hagrees hopen hprepared
    exact hrefines.held hold
  | command tick =>
    obtain ⟨hs₁, hidle, hkind⟩ := hprepared
    have hproposed : c.proposed = none := (hagrees.pending hopen).symm.trans hidle
    have hhistory : s₁.history = s.history := congrArg TickView.history hs₁
    have hprevious : s₁.policyPreviousAction13 = s.policyPreviousAction13 :=
      congrArg TickView.previous hs₁
    have hpending : s₁.pending = some tick := congrArg TickView.pending hs₁
    -- the law with the proposed tick agrees if the tick's history is the candidate
    have hproposal : ∀ seen, (∀ o, tick.observation = some o → ∃ candidate,
          tick.history = some candidate ∧
            candidateHistoryLocked config s.history o s.policyPreviousAction13 = .ok candidate) →
        AgreesHistory config { c with seen := seen, proposed := some tick } s₁ := by
      intro seen hcandidate
      refine ⟨hhistory.trans hagrees.history, hprevious.trans hagrees.previous, fun h => ?_,
        fun _ => hpending, fun _ tick' o htick' ho => ?_⟩
      · exact absurd (hopen.symm.trans h) Bool.false_ne_true
      · obtain rfl := Option.some.inj htick'
        rw [hhistory, hprevious]
        exact hcandidate o ho
    rcases hkind with ⟨o, rfl, htick⟩ | ⟨hold, t₂, hnoticed, rfl, htick⟩
    · -- the tick carries the observation that was seen
      have hseen := Monitor.Accepts.snoc hc (.observed (o := o))
      have hstep := Monitor.Accepts.snoc hseen (.prepared hopen hproposed htick.observation)
      refine ⟨_, hstep, hproposal _ fun o' ho' => ?_⟩
      obtain rfl := Option.some.inj (htick.observation.symm.trans ho')
      exact htick.history
    · -- the tick carries no observation
      obtain ⟨seen, hseen⟩ := accepts_notices hc hnoticed
      have hcaught := Monitor.Accepts.snoc hseen (.recoverable (h := hold))
      have hstep := Monitor.Accepts.snoc hcaught (.prepared hopen hproposed htick.observation)
      refine ⟨_, hstep, hproposal _ fun o' ho' => ?_⟩
      rw [htick.observation] at ho'
      cases ho'

theorem refines_commit (ident : ℕ)
    (ledger : Option (ExecutedActionCommit S × ExecutedActionCommit S)) :
    wp (callOf config env (.commit ident ledger)) (fun _ => RefinesHistory config)
      (fun _ s' t' => RefinesHistory config s' (t' ++ [.raised])) s t := by
  unfold callOf
  rw [wp_bind]
  refine wp_mono (wp_commit ident ledger) ?_ ?_
  · rintro _ s₁ t₁ ⟨-, tick, hpending, rfl, ⟨hs₁, rfl⟩, hcommittable⟩
    rw [wp_emit]
    have hproposed : c.proposed = some tick := (hagrees.pending hopen).symm.trans hpending
    obtain ⟨hhistory, hprevious⟩ :=
      commit_history_previous hagrees hopen hproposed hcommittable
    have hstep := Monitor.Accepts.snoc hc (.committed hopen hproposed)
    refine ⟨_, hstep, agrees_idle ?_ ?_ hopen rfl ?_⟩
    · exact (congrArg TickView.history hs₁).trans hhistory
    · exact (congrArg TickView.previous hs₁).trans hprevious
    · exact (congrArg TickView.pending hs₁).trans (s.view.commit_pending tick)
  · rintro _ s₁ t₁ (hs₁ | ⟨-, hfault, tick, hpending, hs₁ | ⟨rfl, hcommittable, hh, hp⟩⟩)
    · exact (refines_of_refused hc hagrees hopen (refused_of_view hs₁)).raised
    · exact (refines_of_refused hc hagrees hopen (refused_of_view hs₁)).raised
    · have hproposed : c.proposed = some tick := (hagrees.pending hopen).symm.trans hpending
      obtain ⟨hhistory, hprevious⟩ :=
        commit_history_previous hagrees hopen hproposed hcommittable
      have hstep := Monitor.Accepts.snoc hc (.committedRaised hopen hproposed)
      exact ⟨_, hstep, agrees_closed (hh.trans hhistory) (hp.trans hprevious) hfault⟩

/-- **Any call of an open source keeps the refinement.** -/
theorem refines_callOf (call : TickCall env) :
    wp (callOf config env call) (fun _ => RefinesHistory config)
      (fun _ s' t' => RefinesHistory config s' (t' ++ [.raised])) s t := by
  have hrefused : ∀ (s' : PolicyTickSource D S W) t', Refused s.view t s' t' →
      RefinesHistory config s' t' := fun s' t' hs' => refines_of_refused hc hagrees hopen hs'
  have hview : ∀ (s' : PolicyTickSource D S W) t', ViewIs s.view t s' t' →
      RefinesHistory config s' t' := fun s' t' hs' => hrefused s' t' (refused_of_view hs')
  cases call with
  | warmup rounds hardDeadline maximum =>
    exact wp_mono (keeps_warmup rounds hardDeadline maximum s t ⟨rfl, .refl t⟩)
      (fun _ s' t' hs' => hrefused s' t' hs') fun _ s' t' hs' => (hrefused s' t' hs').raised
  | prime index now hardDeadline => exact refines_prime hc hagrees hopen index now hardDeadline
  | prepare sequence previous now hardDeadline =>
    exact refines_prepare hc hagrees hopen sequence previous now hardDeadline
  | commit ident ledger => exact refines_commit hc hagrees hopen ident ledger
  | feedback sequence feedback =>
    exact wp_mono (wp_feedback sequence feedback) (fun _ s' t' hs' => hview s' t' hs')
      fun _ s' t' hs' => (hview s' t' hs').raised
  | abort ident reason =>
    exact wp_mono (wp_abort ident reason) (fun _ s' t' hs' => hview s' t' hs'.1)
      fun _ _ _ hs' => hs'.elim
  | checkArrival measured now =>
    unfold callOf
    rw [wp_bind]
    refine wp_mono (wp_checkFrankaArrivalGate env measured now) (fun _ s' t' hs' => ?_)
      fun _ s' t' hs' => (hview s' t' hs').raised
    rw [wp_ret]
    exact hview s' t' hs'

end Open

theorem refines_performCall (h : RefinesHistory config s t) (call : TickCall env) :
    wp (performCall config env call) (fun _ => RefinesHistory config)
      (fun _ => RefinesHistory config) s t := by
  obtain ⟨c, hc, hagrees⟩ := h
  have hcall : wp (callOf config env call) (fun _ => RefinesHistory config)
      (fun _ s' t' => RefinesHistory config s' (t' ++ [.raised])) s t := by
    by_cases hclosed : c.closed = true
    · -- the source is faulted
      have hstay : ∀ (s' : PolicyTickSource D S W) t',
          ViewIs s.view t s' t' ∧ s'.faultReason ≠ none → RefinesHistory config s' t' := by
        rintro s' t' ⟨⟨hview, rfl⟩, hfault⟩
        exact ⟨c, hc, hagrees.of_view hview (fun _ => hfault) c.seen⟩
      refine wp_mono (wp_callOf_faulted (hagrees.closed hclosed) call)
        (fun _ s' t' hs' => hstay s' t' hs') fun _ s' t' hs' => (hstay s' t' hs').raised
    · rw [Bool.not_eq_true] at hclosed
      exact refines_callOf hc hagrees hclosed call
  unfold performCall
  rw [wp_bind, wp_attempt]
  refine wp_mono hcall (fun u s' t' hs' => ?_) fun e s' t' hs' => ?_
  · simp only []
    rw [wp_ret]
    exact hs'
  · simp only []
    rw [wp_emit]
    exact hs'

/-- **The history law.** After every run of the tick source, whatever the environment does, the law
accepts the events of the run, the stored history is the window over the accepted frames, and the
previous action is that of the last accepted tick. -/
theorem committed_history_is_window (config : TickSourceConfig D S) (env : TickWorld D S W)
    (world : W) (mapper : TransactionalV94ActionMapper D S) (shaper : Option RH56Shaper)
    (calls : List (TickCall env)) :
    ∃ c : HistoryLaw D S,
      Monitor.Accepts HistoryStep (.start config)
        ((tickMachine config env).trace (.fresh config world mapper shaper) calls) c ∧
      ((tickMachine config env).run (.fresh config world mapper shaper) calls).history =
        c.history config ∧
      ((tickMachine config env).run (.fresh config world mapper shaper) calls).policyPreviousAction13
        = c.previous := by
  have hstart : AgreesHistory config (.start config)
      (.fresh config world mapper shaper : PolicyTickSource D S W) :=
    agrees_idle rfl rfl rfl rfl rfl
  have hrun := (tickMachine config env).monitor_induction
    (P := RefinesHistory config) (s := .fresh config world mapper shaper)
    ⟨.start config, .start, hstart⟩
    (fun s t call h => wp_outcome (refines_performCall h call)) calls
  obtain ⟨c, hc, hagrees⟩ := hrun
  exact ⟨c, hc, hagrees.history, hagrees.previous⟩

end FrankaDeploy.TickSource
