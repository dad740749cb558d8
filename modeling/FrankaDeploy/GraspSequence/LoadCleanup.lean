import FrankaDeploy.FrankaDriver.ZeroLoad
import FrankaDeploy.GraspSequence.Containment

/-! # The sequence over the arm's load operations

The staged sequence with the driver of `FrankaDriver.LoadOperations` in the place of its arm: what it
applies and clears is the driver's own, everything else of the environment is open. The driver's log
and the trace of the sequence together say whether a load that may be configured was cleaned up.

Most statements of a sequence have nothing to do with this. `Quiet` statements leave the load, the
log and the state alone; `Neutral` stages change the state, but not to one of the end. -/

set_option linter.unusedSectionVars false

namespace FrankaDeploy.GraspSequence

open FrankaDeploy.Foundation FrankaDeploy.ClosedLoop FrankaDeploy.FrankaDriver
open FrankaDeploy.Foundation.Program
open scoped FloatArith

variable {D : Type} [FloatArith D] {W : Type} {α β : Type}

/-! ## The environment -/

variable (D W) in
/-- **The arm with its driver**, and what the driver logged. -/
structure LoadedArm where
  driver : FrankaSequenceDriver D W
  log : List (LoadEvent D)

namespace LoadedArm

def onWorld (f : W → Except PyException α × W) (arm : LoadedArm D W) :
    Except PyException α × LoadedArm D W :=
  ((f arm.driver.world).1, { arm with driver := { arm.driver with world := (f arm.driver.world).2 } })

def onDriver (m : DriverM D W α) (arm : LoadedArm D W) : Except PyException α × LoadedArm D W :=
  ((m arm.driver).1, ⟨(m arm.driver).2.1, arm.log ++ (m arm.driver).2.2⟩)

end LoadedArm

def LoadedLiftPayload.argument (payload : LoadedLiftPayload D) : PayloadArgument D where
  massKg := .ok payload.massKg
  centerM := .ok payload.fxCloadM.1
  inertiaKgM2 := .ok (ofColumnMajor payload.iLoadKgM2.1)
  bindingSha256 := payload.bindingSha256

/-- **The environment of a sequence whose arm applies and clears loads as its driver does.** -/
def loadedWorld (robot : FrankaRobot D W) (base : SequenceWorld D W) :
    SequenceWorld D (LoadedArm D W) where
  moveJoints q := LoadedArm.onWorld (base.moveJoints q)
  moveLoadedJoints q law := LoadedArm.onWorld (base.moveLoadedJoints q law)
  movePose pose := LoadedArm.onWorld (base.movePose pose)
  verifySettled pose tolerances := LoadedArm.onWorld (base.verifySettled pose tolerances)
  verifyAuditedJointSettled q pose toleranceRad tolerances :=
    LoadedArm.onWorld (base.verifyAuditedJointSettled q pose toleranceRad tolerances)
  stop := LoadedArm.onWorld base.stop
  applyExternalLoadAndVerify payload :=
    LoadedArm.onDriver (FrankaDriver.applyExternalLoadAndVerify robot payload.argument)
  clearExternalLoadAndVerify := LoadedArm.onDriver (FrankaDriver.clearExternalLoadAndVerify robot)
  verifyIdleState := LoadedArm.onWorld base.verifyIdleState
  openAndVerify targets := LoadedArm.onWorld (base.openAndVerify targets)
  preshapeThumb q6 := LoadedArm.onWorld (base.preshapeThumb q6)
  closeBendsAndHold targets := LoadedArm.onWorld (base.closeBendsAndHold targets)
  closeBendsNoContactAndHold targets := LoadedArm.onWorld (base.closeBendsNoContactAndHold targets)
  returnNoContactHandToOpen := LoadedArm.onWorld base.returnNoContactHandToOpen
  verifyLoadedHold targets axes := LoadedArm.onWorld (base.verifyLoadedHold targets axes)
  verifyBoundedHold := base.verifyBoundedHold.map fun verifier targets noContact =>
    LoadedArm.onWorld (verifier targets noContact)
  disableAndVerify := LoadedArm.onWorld base.disableAndVerify
  transitionObserver := base.transitionObserver.map fun observer state =>
    LoadedArm.onWorld (observer state)
  boundaryObserver := base.boundaryObserver.map fun observer boundary =>
    LoadedArm.onWorld (observer boundary)
  settleTolerances := base.settleTolerances

/-! ## The cleanup of a load -/

def scanCleanup : Bool × Bool → SequenceEvent D → Bool × Bool
  | (_, cleared), .caught => (true, cleared)
  | (failed, cleared), .called .clearExternalLoadAndVerify => (failed, cleared || failed)
  | seen, _ => seen

def cleanupScan (t : List (SequenceEvent D)) : Bool × Bool := t.foldl scanCleanup (false, false)

/-- **`clear_external_load_and_verify` was attempted after a failure.** -/
def clearAttempted (t : List (SequenceEvent D)) : Bool := (cleanupScan t).2

theorem cleanupScan_snoc (t : List (SequenceEvent D)) (event : SequenceEvent D) :
    cleanupScan (t ++ [event]) = scanCleanup (cleanupScan t) event := by
  rw [cleanupScan, List.foldl_append]
  rfl

def Ended (state : SequenceState) : Prop := state.isTerminal = true ∨ state = .setdownComplete

/-- **The load is cleaned up**: at the end of a sequence, unless it contains a suspended load, the
driver verified a zero load after its last call of `set_load`, or a clear was attempted after the
failure. -/
def CleanedUp (s : StagedGraspSequence D (LoadedArm D W)) (t : List (SequenceEvent D)) : Prop :=
  Ended s.state → s.loadedObjectSuspended = false →
    zeroVerified s.world.log = true ∨ clearAttempted t = true

instance (state : SequenceState) : Decidable (Ended state) :=
  inferInstanceAs (Decidable (_ ∨ _))

instance (s : StagedGraspSequence D (LoadedArm D W)) (t : List (SequenceEvent D)) :
    Decidable (CleanedUp s t) :=
  inferInstanceAs (Decidable (_ → _ → _))

/-! ## What statements leave alone -/

/-- **The load's part** of the sequence is the same. -/
structure SameLoad (s : StagedGraspSequence D (LoadedArm D W)) (t : List (SequenceEvent D))
    (s' : StagedGraspSequence D (LoadedArm D W)) (t' : List (SequenceEvent D)) : Prop where
  active : s'.loadedPayloadActive = s.loadedPayloadActive
  suspended : s'.loadedObjectSuspended = s.loadedObjectSuspended
  log : s'.world.log = s.world.log
  scan : cleanupScan t' = cleanupScan t

variable {robot : FrankaRobot D W} {base : SequenceWorld D W}
  {s s' s₀ : StagedGraspSequence D (LoadedArm D W)} {t t' t₀ : List (SequenceEvent D)}

theorem SameLoad.refl : SameLoad s t s t := ⟨rfl, rfl, rfl, rfl⟩

theorem SameLoad.trans (h : SameLoad s t s' t') (h' : SameLoad s' t' s₀ t₀) : SameLoad s t s₀ t₀ :=
  ⟨h'.active.trans h.active, h'.suspended.trans h.suspended, h'.log.trans h.log,
    h'.scan.trans h.scan⟩

def Keeps (s : StagedGraspSequence D (LoadedArm D W)) (t : List (SequenceEvent D))
    (s' : StagedGraspSequence D (LoadedArm D W)) (t' : List (SequenceEvent D)) : Prop :=
  SameLoad s t s' t' ∧ s'.state = s.state

def GoesOn (s : StagedGraspSequence D (LoadedArm D W)) (t : List (SequenceEvent D))
    (s' : StagedGraspSequence D (LoadedArm D W)) (t' : List (SequenceEvent D)) : Prop :=
  SameLoad s t s' t' ∧ s'.state.isTerminal = false

/-- **A quiet statement** leaves the load and the state alone. -/
def Quiet (m : SeqM D (LoadedArm D W) α) : Prop :=
  ∀ s t, wp m (fun _ => Keeps s t) (fun e s' t' => e.IsRaised ∧ Keeps s t s' t') s t

/-- **A neutral stage** leaves the load alone and does not end the sequence. -/
def Neutral (m : SeqM D (LoadedArm D W) α) : Prop :=
  ∀ s t, s.state.isTerminal = false →
    wp m (fun _ => GoesOn s t) (fun e s' t' => e.IsRaised ∧ GoesOn s t s' t') s t

theorem Quiet.keeps {m : SeqM D (LoadedArm D W) α} (h : Quiet m) (s t) :
    wp m (fun _ => Keeps s t) (fun _ => Keeps s t) s t :=
  wp_mono (h s t) (fun _ _ _ hk => hk) fun _ _ _ he => he.2

theorem Quiet.neutral {m : SeqM D (LoadedArm D W) α} (h : Quiet m) : Neutral m := by
  intro s t hlive
  have hkeeps : ∀ s' t', Keeps s t s' t' → GoesOn s t s' t' := fun s' t' hk =>
    ⟨hk.1, by rw [hk.2]; exact hlive⟩
  exact wp_mono (h s t) (fun _ => hkeeps) fun _ _ _ he => ⟨he.1, hkeeps _ _ he.2⟩

theorem Quiet.seq {m : SeqM D (LoadedArm D W) α} {f : α → SeqM D (LoadedArm D W) β}
    (hm : Quiet m) (hf : ∀ a, Quiet (f a)) : Quiet (m >>= f) := by
  intro s t
  rw [wp_bind]
  refine wp_mono (hm s t) (fun a s' t' h => ?_) fun _ _ _ h => h
  have htrans : ∀ s'' t'', Keeps s' t' s'' t'' → Keeps s t s'' t'' := fun s'' t'' h' =>
    ⟨h.1.trans h'.1, h'.2.trans h.2⟩
  exact wp_mono (hf a s' t') (fun _ => htrans) fun _ _ _ he => ⟨he.1, htrans _ _ he.2⟩

theorem Neutral.seq {m : SeqM D (LoadedArm D W) α} {f : α → SeqM D (LoadedArm D W) β}
    (hm : Neutral m) (hf : ∀ a, Neutral (f a)) : Neutral (m >>= f) := by
  intro s t hlive
  rw [wp_bind]
  refine wp_mono (hm s t hlive) (fun a s' t' h => ?_) fun _ _ _ h => h
  have htrans : ∀ s'' t'', GoesOn s' t' s'' t'' → GoesOn s t s'' t'' := fun s'' t'' h' =>
    ⟨h.1.trans h'.1, h'.2⟩
  exact wp_mono (hf a s' t' h.2) (fun _ => htrans) fun _ _ _ he => ⟨he.1, htrans _ _ he.2⟩

/-! ## Statements -/

theorem quiet_ret (a : α) : Quiet (ret a : SeqM D (LoadedArm D W) α) := fun s t => by
  rw [wp_ret]
  exact ⟨.refl, rfl⟩

theorem quiet_fail {e : SequenceException} (he : e.IsRaised) :
    Quiet (fail e : SeqM D (LoadedArm D W) α) := fun s t => by
  rw [wp_fail]
  exact ⟨he, .refl, rfl⟩

theorem quiet_check {c : Prop} [Decidable c] {e : SequenceException} (he : e.IsRaised) :
    Quiet (check c e : SeqM D (LoadedArm D W) Unit) := fun s t => by
  rw [wp_check]
  exact ⟨fun _ => ⟨he, .refl, rfl⟩, fun _ => ⟨.refl, rfl⟩⟩

theorem quiet_ofExcept {r : Except SequenceException α} (hr : ∀ e, r = .error e → e.IsRaised) :
    Quiet (ofExcept r : SeqM D (LoadedArm D W) α) := fun s t => by
  rw [wp_ofExcept]
  exact ⟨fun _ _ => ⟨.refl, rfl⟩, fun e he => ⟨hr e he, .refl, rfl⟩⟩

theorem quiet_update
    {f : StagedGraspSequence D (LoadedArm D W) → StagedGraspSequence D (LoadedArm D W)}
    (hf : ∀ s t, Keeps s t (f s) t) : Quiet (update f) := fun s t => by
  rw [wp_update]
  exact hf s t

theorem quiet_emit {event : SequenceEvent D} (hevent : ∀ seen, scanCleanup seen event = seen) :
    Quiet (emit event : SeqM D (LoadedArm D W) Unit) := fun s t => by
  rw [wp_emit]
  exact ⟨⟨rfl, rfl, rfl, (cleanupScan_snoc t event).trans (hevent _)⟩, rfl⟩

theorem quiet_look {f : StagedGraspSequence D (LoadedArm D W) → SeqM D (LoadedArm D W) α}
    (hf : ∀ s, Quiet (f s)) : Quiet (Program.read >>= f) := fun s t => by
  rw [wp_bind, wp_read]
  exact hf s s t

theorem quiet_ite {c : Prop} [Decidable c] {m n : SeqM D (LoadedArm D W) α} (hm : Quiet m)
    (hn : Quiet n) : Quiet (if c then m else n) := fun s t => by
  rw [wp_ite]
  exact ⟨fun _ => hm s t, fun _ => hn s t⟩

theorem neutral_look {f : StagedGraspSequence D (LoadedArm D W) → SeqM D (LoadedArm D W) α}
    (hf : ∀ s, Neutral (f s)) : Neutral (Program.read >>= f) := fun s t hlive => by
  rw [wp_bind, wp_read]
  exact hf s s t hlive

theorem neutral_runIf {c : Prop} [Decidable c] {m : SeqM D (LoadedArm D W) Unit} (hm : Neutral m) :
    Neutral (runIf c m) := fun s t hlive => by
  rw [wp_runIf]
  exact ⟨fun _ => hm s t hlive, fun _ => ⟨.refl, hlive⟩⟩

theorem raised_of_mapError {r : Except PyException α} {e : SequenceException}
    (h : r.mapError SequenceException.raised = .error e) : e.IsRaised := by
  cases r with
  | ok a => cases h
  | error error =>
    cases h
    exact ⟨error, rfl⟩

theorem quiet_environment (f : W → Except PyException α × W) :
    Quiet (environment (LoadedArm.onWorld f) : SeqM D (LoadedArm D W) α) := fun s t => by
  unfold environment
  rw [wp_ofStep]
  refine ⟨fun _ _ => ⟨⟨rfl, rfl, rfl, rfl⟩, rfl⟩, fun e he => ⟨?_, ⟨rfl, rfl, rfl, rfl⟩, rfl⟩⟩
  exact raised_of_mapError he

theorem quiet_driver {call : DriverCall D} (f : W → Except PyException α × W)
    (hcall : ∀ seen, scanCleanup seen (.called call) = seen) :
    Quiet (driver call (LoadedArm.onWorld f) : SeqM D (LoadedArm D W) α) := by
  unfold driver
  refine (quiet_emit hcall).seq fun _ => ?_
  refine (quiet_environment f).seq fun a => ?_
  exact (quiet_emit fun _ => rfl).seq fun _ => quiet_ret a

theorem quiet_verification {call : DriverCall D} (f : W → Except PyException (Option Bool) × W)
    (message : String) (hcall : ∀ seen, scanCleanup seen (.called call) = seen) :
    Quiet (verification call (LoadedArm.onWorld f) message : SeqM D (LoadedArm D W) Unit) := by
  unfold verification
  refine (quiet_emit hcall).seq fun _ => ?_
  refine (quiet_environment f).seq fun a => ?_
  exact (quiet_check ⟨_, rfl⟩).seq fun _ => quiet_emit fun _ => rfl

theorem quiet_observeBoundary (boundary : Boundary D) :
    Quiet (observeBoundary (loadedWorld robot base) boundary) := by
  unfold observeBoundary loadedWorld
  cases base.boundaryObserver with
  | none => exact quiet_ret ()
  | some observer => exact quiet_environment _

theorem quiet_requireSettleGate (operation : String) :
    Quiet (requireSettleGate operation : SeqM D (LoadedArm D W) Unit) :=
  quiet_look fun _ => quiet_check ⟨_, rfl⟩

theorem quiet_verifyLoadedHold : Quiet (verifyLoadedHold (loadedWorld robot base)) := by
  unfold verifyLoadedHold
  refine quiet_look fun s => ?_
  cases s.loadedHoldTargets with
  | none => exact quiet_fail ⟨_, rfl⟩
  | some targets =>
    cases s.loadedMinimumContactAxes with
    | none => exact quiet_fail ⟨_, rfl⟩
    | some axes => exact quiet_driver _ fun _ => rfl

theorem wp_cleanupStep {m : SeqM D (LoadedArm D W) Unit}
    {P : StagedGraspSequence D (LoadedArm D W) → List (SequenceEvent D) → Prop}
    (hm : wp m (fun _ => P) (fun _ => P) s t) :
    wp (cleanupStep m) (fun _ => P) (fun _ _ _ => False) s t := by
  unfold cleanupStep
  rw [wp_bind, wp_attempt]
  refine wp_mono hm (fun _ s' t' h => ?_) fun e s' t' h => ?_
  · rw [wp_ret]
    exact h
  · rw [wp_ret]
    exact h

theorem quiet_notifyTransition (new : SequenceState) :
    Quiet (notifyTransition (loadedWorld robot base) new) := by
  unfold notifyTransition loadedWorld
  refine quiet_look fun s => ?_
  cases base.transitionObserver with
  | none => exact quiet_ret ()
  | some observer =>
    refine quiet_ite (quiet_ret ()) fun s t => ?_
    rw [wp_bind, wp_attempt]
    refine wp_mono (quiet_environment _ s t) (fun _ s' t' h => ?_) fun e s' t' h => ?_
    · rw [wp_ret]
      exact h
    · unfold dropObserver
      obtain ⟨he, h⟩ := h
      rw [wp_bind, wp_update, wp_runIf]
      have hdropped : ∀ error, Keeps s t
          { s' with transitionObserverInstalled := false, transitionObserverError := error } t' :=
        fun error => ⟨⟨h.1.active, h.1.suspended, h.1.log, h.1.scan⟩, h.2⟩
      refine ⟨fun _ => ?_, fun _ => hdropped _⟩
      rw [wp_fail]
      exact ⟨he, hdropped _⟩

theorem neutral_transition {new : SequenceState} (hnew : new.isTerminal = false) :
    Neutral (transition (loadedWorld robot base) new) := by
  intro s t hlive
  unfold transition
  rw [wp_bind, wp_read]
  beta_reduce
  rw [wp_bind, wp_check]
  refine ⟨fun _ => ⟨⟨_, rfl⟩, .refl, hlive⟩, fun _ => ?_⟩
  rw [wp_bind, wp_update, wp_bind, wp_emit]
  have hentered : SameLoad s t
      { s with state := new, stateHistory := s.stateHistory ++ [new] } (t ++ [.entered new]) :=
    ⟨rfl, rfl, rfl, cleanupScan_snoc t _⟩
  have hnotified : ∀ s' t', Keeps
      { s with state := new, stateHistory := s.stateHistory ++ [new] } (t ++ [.entered new]) s' t' →
      GoesOn s t s' t' := fun s' t' h => ⟨hentered.trans h.1, by rw [h.2]; exact hnew⟩
  exact wp_mono (quiet_notifyTransition new _ _) (fun _ => hnotified) fun _ _ _ he =>
    ⟨he.1, hnotified _ _ he.2⟩

theorem wp_transition_end {new : SequenceState} (hallowed : new ∈ s.state.allowedTransitions)
    (hend : new.isTerminal = true) :
    wp (transition (loadedWorld robot base) new)
      (fun _ s' t' => SameLoad s t s' t' ∧ s'.state = new) (fun _ _ _ => False) s t := by
  unfold transition
  rw [wp_bind, wp_read]
  beta_reduce
  rw [wp_bind, wp_check]
  refine ⟨fun hc => hc hallowed, fun _ => ?_⟩
  rw [wp_bind, wp_update, wp_bind, wp_emit]
  have hentered : SameLoad s t
      { s with state := new, stateHistory := s.stateHistory ++ [new] } (t ++ [.entered new]) :=
    ⟨rfl, rfl, rfl, cleanupScan_snoc t _⟩
  unfold notifyTransition loadedWorld
  rw [wp_bind, wp_read]
  beta_reduce
  cases base.transitionObserver with
  | none =>
    rw [Option.map_none, wp_ret]
    exact ⟨hentered, rfl⟩
  | some observer =>
    rw [Option.map_some, wp_ite]
    refine ⟨fun _ => ?_, fun _ => ?_⟩
    · rw [wp_ret]
      exact ⟨hentered, rfl⟩
    rw [wp_bind, wp_attempt]
    refine wp_mono (quiet_environment _ _ _) (fun _ s' t' h => ?_) fun e s' t' h => ?_
    · rw [wp_ret]
      exact ⟨hentered.trans h.1, h.2⟩
    · unfold dropObserver
      obtain ⟨-, h⟩ := h
      rw [wp_bind, wp_update, wp_runIf]
      refine ⟨fun hlive => ?_, fun _ => ⟨hentered.trans ?_, h.2⟩⟩
      · rw [hend] at hlive
        cases hlive
      · exact ⟨h.1.active, h.1.suspended, h.1.log, h.1.scan⟩

end FrankaDeploy.GraspSequence
