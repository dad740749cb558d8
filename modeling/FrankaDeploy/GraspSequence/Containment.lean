import FrankaDeploy.Foundation.Monitor
import FrankaDeploy.GraspSequence.Calls

/-! # Containment of a suspended load

A watch reads the events of a sequence and says what each of them may follow: the fingers close only
at a settled grasp pose, a suspended load is not released, a failure stops the arm before it disables
the hand, and nothing moves after the end. Whatever the drivers and the observers do, the watch
accepts every run.

The proof follows the stages. `Working p` relates the state in the middle of a call to the watch, with
what the call knows in `p`; each statement goes over to a new `p` or leaves `Failing`, from where the
cleanup starts. -/

set_option linter.unusedSectionVars false

namespace FrankaDeploy.GraspSequence

open FrankaDeploy.Foundation FrankaDeploy.ClosedLoop
open FrankaDeploy.Foundation.Program
open scoped FloatArith

variable {D : Type} [FloatArith D] {W : Type}

/-! ## The watch -/

inductive CallKind (D : Type) where
  | motion
  | loadedMotion
  | settle (pose : Pose D)
  | openHand
  | closeHand
  | holdCheck
  | stop
  | disable
  | clearLoad
  | other

def DriverCall.kind : DriverCall D → CallKind D
  | .moveJoints _ => .motion
  | .moveLoadedJoints _ _ => .loadedMotion
  | .movePose _ => .motion
  | .verifySettled pose _ => .settle pose
  | .verifyAuditedJointSettled _ pose _ _ => .settle pose
  | .stop => .stop
  | .applyExternalLoadAndVerify _ => .other
  | .clearExternalLoadAndVerify => .clearLoad
  | .verifyIdleState => .other
  | .openAndVerify _ => .openHand
  | .preshapeThumb _ => .closeHand
  | .closeBendsAndHold _ => .closeHand
  | .closeBendsNoContactAndHold _ => .closeHand
  | .returnNoContactHandToOpen => .openHand
  | .verifyLoadedHold _ _ => .holdCheck
  | .verifyBoundedHold _ _ => .other
  | .disableAndVerify => .disable

namespace SequenceCall

def graspPose? : SequenceCall D → Option (Pose D)
  | runFull (.ok plan) => some plan.graspPose
  | runFullJointWaypoints (some plan) => some plan.graspPose
  | runLoadedLiftJointWaypoints (some plan) => some plan.graspPlan.graspPose
  | _ => none

def setdownPose? : SequenceCall D → Option (Pose D)
  | returnLoadedLiftToSetdown (some plan) => some plan.graspPlan.graspPose
  | _ => none

def isPregraspOnly : SequenceCall D → Bool
  | runToPregraspJointWaypoints _ => true
  | _ => false

def isAbort : SequenceCall D → Bool
  | abort _ => true
  | _ => false

end SequenceCall

/-- **The watch.** -/
structure Watch (D : Type) [FloatArith D] where
  call : Option (SequenceCall D)
  state : SequenceState
  startState : SequenceState
  touched : Bool
  cleanup : Bool
  settledAt : Option (Pose D)
  suspended : Bool
  stopAttempted : Bool
  disableAttempted : Bool
  pregraspOnly : Bool

namespace Watch

def start : Watch D := ⟨none, .disarmed, .disarmed, false, false, none, false, false, false, false⟩

def Executing (m : Watch D) : Prop := m.cleanup = false ∧ m.state.isTerminal = false

def begin (m : Watch D) (call : SequenceCall D) : Watch D :=
  { m with
    call := some call
    startState := m.state
    touched := false
    cleanup := call.isAbort
    settledAt := none
    stopAttempted := false
    disableAttempted := false }

def touch (m : Watch D) : Watch D := { m with touched := true }

def SetDown (m : Watch D) : Prop :=
  ∃ call pose, m.call = some call ∧ call.setdownPose? = some pose ∧ m.settledAt = some pose

end Watch

/-- **The steps of the watch.** -/
inductive WatchStep : Watch D → SequenceEvent D → Watch D → Prop where
  | begun {m : Watch D} {call : SequenceCall D} : m.call = none →
      WatchStep m (.begun call) (m.begin call)
  /-- The sequence takes an allowed transition; there is none from its end. -/
  | entered {m : Watch D} {new : SequenceState} : new ∈ m.state.allowedTransitions →
      WatchStep m (.entered new) { m with state := new }
  /-- **The arm moves**: not in a cleanup and not after the end. -/
  | motion {m : Watch D} {c : DriverCall D} : c.kind = .motion → m.Executing →
      WatchStep m (.called c) { m.touch with settledAt := none }
  /-- **The arm moves with the load**, which may be suspended from now on. -/
  | loadedMotion {m : Watch D} {c : DriverCall D} : c.kind = .loadedMotion → m.Executing →
      WatchStep m (.called c) { m.touch with settledAt := none, suspended := true }
  | settle {m : Watch D} {c : DriverCall D} {pose : Pose D} : c.kind = .settle pose →
      m.Executing → WatchStep m (.called c) m.touch
  /-- **The hand opens**: not in a cleanup, not after the end, not with a suspended load and not
  after a pregrasp-only run. -/
  | openHand {m : Watch D} {c : DriverCall D} : c.kind = .openHand → m.Executing →
      m.suspended = false → m.pregraspOnly = false → WatchStep m (.called c) m.touch
  /-- **The hand closes**: besides, the arm is settled at the grasp pose of this very call. -/
  | closeHand {m : Watch D} {c : DriverCall D} {call : SequenceCall D} {pose : Pose D} :
      c.kind = .closeHand → m.Executing → m.suspended = false → m.pregraspOnly = false →
      m.call = some call → call.graspPose? = some pose → m.settledAt = some pose →
      WatchStep m (.called c) m.touch
  | holdCheck {m : Watch D} {c : DriverCall D} : c.kind = .holdCheck →
      WatchStep m (.called c) m.touch
  /-- **The arm is stopped**, in a cleanup. -/
  | stop {m : Watch D} {c : DriverCall D} : c.kind = .stop → m.cleanup = true →
      WatchStep m (.called c) { m.touch with stopAttempted := true }
  /-- **The hand is disabled in a cleanup**: after the arm was stopped, and not with a suspended
  load. -/
  | disable {m : Watch D} {c : DriverCall D} : c.kind = .disable → m.cleanup = true →
      m.stopAttempted = true → m.suspended = false →
      WatchStep m (.called c) { m.touch with disableAttempted := true }
  /-- **A pregrasp-only run disables the hand.** -/
  | disableOpen {m : Watch D} {c : DriverCall D} {call : SequenceCall D} : c.kind = .disable →
      m.Executing → m.suspended = false → m.call = some call → call.isPregraspOnly = true →
      WatchStep m (.called c) { m.touch with pregraspOnly := true }
  /-- **A load that was set down is released.** -/
  | release {m : Watch D} {c : DriverCall D} : c.kind = .disable → m.Executing →
      m.suspended = false → m.SetDown → WatchStep m (.called c) m.touch
  /-- The external load is cleared: not with a suspended load. -/
  | clearLoad {m : Watch D} {c : DriverCall D} : c.kind = .clearLoad → m.suspended = false →
      WatchStep m (.called c) m.touch
  | other {m : Watch D} {c : DriverCall D} : c.kind = .other → m.Executing →
      WatchStep m (.called c) m.touch
  | settled {m : Watch D} {c : DriverCall D} {pose : Pose D} : c.kind = .settle pose →
      WatchStep m (.succeeded c) { m with settledAt := some pose }
  /-- **The load is set down**: the hold was verified after the arm settled at the setdown pose. -/
  | setDown {m : Watch D} {c : DriverCall D} : c.kind = .holdCheck → m.SetDown →
      WatchStep m (.succeeded c) { m with suspended := false }
  | succeeded {m : Watch D} {c : DriverCall D} : (∀ pose, c.kind ≠ .settle pose) →
      (c.kind = .holdCheck → ¬ m.SetDown) → WatchStep m (.succeeded c) m
  | caught {m : Watch D} : m.call.isSome = true → m.cleanup = false →
      WatchStep m .caught { m with cleanup := true }
  /-- **A call ends.** If it raised, it was refused before it did anything or it ends latched after
  it attempted to stop the arm; if it returns, it caught nothing. An abort that was not refused has
  attempted both stops, unless a load is suspended. -/
  | ended {m : Watch D} {call : SequenceCall D} {raised : Bool} : m.call = some call →
      (raised = true → (m.touched = false ∧ m.state = m.startState) ∨
        (m.state = .faultLatched ∧ m.stopAttempted = true)) →
      (raised = false → m.cleanup = call.isAbort) →
      (call.isAbort = true → m.startState.isTerminal = false → m.suspended = false →
        m.stopAttempted = true ∧ m.disableAttempted = true) →
      WatchStep m (.ended raised) { m with call := none }

def Watched (t : List (SequenceEvent D)) (m : Watch D) : Prop :=
  Monitor.Accepts WatchStep Watch.start t m

theorem Watched.next {t : List (SequenceEvent D)} {m m' : Watch D} {event : SequenceEvent D}
    (h : Watched t m) (hstep : WatchStep m event m') : Watched (t ++ [event]) m' :=
  Monitor.Accepts.snoc h hstep

/-! ## In the middle of a call -/

/-- **What a call knows** in its middle. -/
structure Progress (D : Type) where
  state : SequenceState
  settledAt : Option (Pose D)
  suspended : Bool
  guarded : Bool
  pregraspOnly : Bool

structure Agrees (call : SequenceCall D) (p : Progress D) (m : Watch D) : Prop where
  call : m.call = some call
  executing : m.Executing
  state : m.state = p.state
  settledAt : m.settledAt = p.settledAt
  suspended : m.suspended = p.suspended
  pregraspOnly : m.pregraspOnly = p.pregraspOnly

/-- **In the middle of a call** that executes its plan. The sequence's flag covers every suspended
load. -/
structure Working (call : SequenceCall D) (p : Progress D) (s : StagedGraspSequence D W)
    (t : List (SequenceEvent D)) : Prop where
  watched : ∃ m, Watched t m ∧ Agrees call p m
  state : s.state = p.state
  guarded : s.loadedObjectSuspended = p.guarded
  covered : p.suspended = true → p.guarded = true

/-- **A call failed** and has not been cleaned up. -/
def Failing (call : SequenceCall D) (s : StagedGraspSequence D W) (t : List (SequenceEvent D)) :
    Prop :=
  ∃ m, Watched t m ∧ m.call = some call ∧ m.Executing ∧ m.state = s.state ∧
    (m.suspended = true → s.loadedObjectSuspended = true)

variable {env : SequenceWorld D W} {call : SequenceCall D} {p p' : Progress D}
  {s s' : StagedGraspSequence D W} {t : List (SequenceEvent D)}

theorem Working.failing (h : Working call p s t) : Failing call s t := by
  obtain ⟨m, hm, hagrees⟩ := h.watched
  refine ⟨m, hm, hagrees.call, hagrees.executing, hagrees.state.trans h.state.symm, ?_⟩
  rw [hagrees.suspended, h.guarded]
  exact h.covered

theorem Working.congr (h : Working call p s t) (hstate : s'.state = s.state)
    (hguarded : s'.loadedObjectSuspended = s.loadedObjectSuspended) : Working call p s' t :=
  ⟨h.watched, hstate.trans h.state, hguarded.trans h.guarded, h.covered⟩

theorem Failing.congr (h : Failing call s t) (hstate : s'.state = s.state)
    (hguarded : s'.loadedObjectSuspended = s.loadedObjectSuspended) : Failing call s' t := by
  obtain ⟨m, hm, hcall, hexec, hmstate, hcover⟩ := h
  exact ⟨m, hm, hcall, hexec, hmstate.trans hstate.symm, fun hs => hguarded.trans (hcover hs)⟩

theorem Working.next (h : Working call p s t) {event : SequenceEvent D}
    (hstep : ∀ m, Agrees call p m → ∃ m', WatchStep m event m' ∧ Agrees call p' m')
    (hstate : s'.state = p'.state) (hguarded : s'.loadedObjectSuspended = p'.guarded)
    (hcovered : p'.suspended = true → p'.guarded = true) : Working call p' s' (t ++ [event]) := by
  obtain ⟨m, hm, hagrees⟩ := h.watched
  obtain ⟨m', hstep', hagrees'⟩ := hstep m hagrees
  exact ⟨⟨m', hm.next hstep', hagrees'⟩, hstate, hguarded, hcovered⟩

/-! ## Statements -/

/-- The exception is no `SequenceExecutionError`. -/
def SequenceException.IsRaised (e : SequenceException) : Prop := ∃ error, e = .raised error

/-- **An exception of a stage** leaves the call failing. -/
def Broken (call : SequenceCall D) (e : SequenceException) (s : StagedGraspSequence D W)
    (t : List (SequenceEvent D)) : Prop :=
  e.IsRaised ∧ Failing call s t

/-- **A stage** of a call goes from what the call knows in `p` to what it knows in `p'`. -/
def Stage {α : Type} (call : SequenceCall D) (p : Progress D) (m : SeqM D W α) (p' : Progress D) :
    Prop :=
  Triple (Working call p) m (fun _ => Working call p') (Broken call)

theorem Stage.seq {α β : Type} {m : SeqM D W α} {f : α → SeqM D W β} {p₁ : Progress D}
    (hm : Stage call p m p₁) (hf : ∀ a, Stage call p₁ (f a) p') : Stage call p (m >>= f) p' :=
  Triple.seq hm hf

theorem stage_ret {α : Type} (a : α) : Stage call p (ret a : SeqM D W α) p :=
  triple_ret fun _ _ h => h

theorem stage_fail {α : Type} {e : SequenceException} (he : e.IsRaised) :
    Stage call p (fail e : SeqM D W α) p' :=
  triple_fail fun _ _ h => ⟨he, h.failing⟩

theorem stage_check {c : Prop} [Decidable c] {e : SequenceException} (he : e.IsRaised) :
    Stage call p (check c e : SeqM D W Unit) p :=
  (triple_check fun _ _ h => ⟨he, h.failing⟩).post fun _ _ _ h => h.2

theorem stage_update {f : StagedGraspSequence D W → StagedGraspSequence D W}
    (hstate : ∀ s, (f s).state = s.state)
    (hguarded : ∀ s, (f s).loadedObjectSuspended = s.loadedObjectSuspended) :
    Stage call p (update f) p :=
  triple_update fun s _ h => h.congr (hstate s) (hguarded s)

theorem stage_look {β : Type} {f : StagedGraspSequence D W → SeqM D W β}
    (hf : ∀ s, Stage call p (f s) p') : Stage call p (read >>= f) p' :=
  Triple.look fun s => (hf s).pre fun _ _ h => h.2

theorem stage_environment {α : Type} (f : W → Except PyException α × W) :
    Stage call p (environment f : SeqM D W α) p := by
  intro s t h
  unfold environment
  rw [wp_ofStep]
  refine ⟨fun _ _ => h.congr rfl rfl, fun e he => ⟨?_, h.failing.congr rfl rfl⟩⟩
  cases hf : (f s.world).1 with
  | ok a =>
    rw [hf] at he
    cases he
  | error error =>
    rw [hf] at he
    cases he
    exact ⟨error, rfl⟩

theorem stage_forEach {α : Type} {l : List α} {f : α → SeqM D W Unit}
    (hf : ∀ a ∈ l, Stage call p (f a) p) : Stage call p (forEach l f) p :=
  triple_forEach hf

/-! ## Transitions and observers -/

theorem Agrees.entered {m : Watch D} (h : Agrees call p m) {new : SequenceState}
    (hnew : new ∈ p.state.allowedTransitions) (hlive : new.isTerminal = false) :
    ∃ m', WatchStep m (.entered new) m' ∧ Agrees call { p with state := new } m' := by
  refine ⟨{ m with state := new }, .entered ?_, ?_⟩
  · rw [h.state]
    exact hnew
  · exact ⟨h.call, ⟨h.executing.1, hlive⟩, rfl, h.settledAt, h.suspended, h.pregraspOnly⟩

theorem triple_dropObserver {new : SequenceState} (hlive : new.isTerminal = false)
    (e : SequenceException) :
    Triple (Broken call e) (dropObserver new e : SeqM D W Unit) (fun _ => Working call p)
      (Broken call) := by
  rintro s t ⟨he, h⟩
  unfold dropObserver
  rw [wp_bind, wp_update, wp_runIf, wp_fail]
  exact ⟨fun _ => ⟨he, h.congr rfl rfl⟩, fun hterminal => absurd hlive hterminal⟩

theorem stage_notifyTransition {new : SequenceState} (hlive : new.isTerminal = false) :
    Stage call p (notifyTransition env new) p := by
  unfold notifyTransition
  refine stage_look fun s => ?_
  cases env.transitionObserver with
  | none => exact stage_ret ()
  | some observer =>
    refine Triple.ite (fun _ => stage_ret ()) fun _ => ?_
    exact Triple.caught (stage_environment _) (fun _ => stage_ret ()) fun e =>
      triple_dropObserver hlive e

theorem stage_transition {new : SequenceState} (hnew : new ∈ p.state.allowedTransitions)
    (hlive : new.isTerminal = false) :
    Stage call p (transition env new) { p with state := new } := by
  unfold transition
  refine stage_look fun s => ?_
  refine Stage.seq (stage_check ⟨_, rfl⟩) fun _ => ?_
  -- the assignment and its record are one step of the watch
  intro s t h
  rw [wp_bind, wp_update, wp_bind, wp_emit]
  exact stage_notifyTransition hlive _ _
    (h.next (fun m hm => hm.entered hnew hlive) rfl h.guarded h.covered)

theorem stage_observeBoundary (boundary : Boundary D) :
    Stage call p (observeBoundary env boundary) p := by
  unfold observeBoundary
  cases env.boundaryObserver with
  | none => exact stage_ret ()
  | some observer => exact stage_environment _

end FrankaDeploy.GraspSequence
