import FrankaDeploy.Foundation.Monitor
import FrankaDeploy.PersistentSession.Run

/-! # The write boundary of the reference session

A boundary reads the events of a session and says what each of them may follow: a write answers one
read and none follows a failure, an acknowledgement follows the timely write of the next sequence,
the backend is stopped and closed once. Whatever the backend, the clocks and the other threads do,
the trace of a session is accepted, and its terminal state is the one that the boundary has seen. -/

set_option linter.unusedSectionVars false

namespace FrankaDeploy.PersistentSession

open FrankaDeploy.Foundation FrankaDeploy.ClosedLoop FrankaDeploy.Runtime
open FrankaDeploy.Foundation.Program
open scoped FloatArith

/-! ## The boundary -/

/-- **The write boundary of a session.** -/
structure Boundary where
  opened : Bool
  answerable : Bool
  writing : Option (Option ℕ)
  due : Option ℕ
  acked : ℕ
  failed : Bool
  finished : Bool
  stopRequested : Bool
  streak : ℕ
  closed : Bool

def Boundary.start : Boundary := ⟨false, false, none, none, 0, false, false, false, 0, false⟩

/-- **Motion is possible**: there is a backend, nothing has failed, finished or been stopped, and no
acknowledgement is due. -/
structure Boundary.Active (c : Boundary) : Prop where
  opened : c.opened = true
  failed : c.failed = false
  finished : c.finished = false
  stopRequested : c.stopRequested = false
  due : c.due = none

variable {D S T W : Type} [FloatArith D] [FloatArith S] [DecidableEq T]

/-- **The acknowledgement that a write makes due**: of a new sequence, if the session has a ledger
and the write was in time. -/
def dueAck (transactional : Bool) (acked : ℕ) (sequence : Option ℕ) (elapsed limit : D) :
    Option ℕ :=
  sequence.filter fun n => transactional && decide (¬ limit < elapsed) && decide (acked < n)

/-- **The steps of the boundary.** -/
inductive BoundaryStep (transactional : Bool) : Boundary → SessionEvent D → Boundary → Prop where
  | opened {c : Boundary} : c = .start →
      BoundaryStep transactional c .opened { c with opened := true }
  | read {c : Boundary} : c.Active →
      BoundaryStep transactional c .read { c with answerable := true }
  /-- **At most one write answers a read**, and none follows a failure. -/
  | write {c : Boundary} {sequence : Option ℕ} : c.Active → c.answerable = true →
      BoundaryStep transactional c (.write sequence)
        { c with answerable := false, writing := some sequence }
  | completed {c : Boundary} {sequence : Option ℕ} {elapsed limit : D} : c.Active →
      c.writing = some sequence →
      BoundaryStep transactional c (.completed sequence elapsed limit)
        { c with writing := none, due := dueAck transactional c.acked sequence elapsed limit }
  /-- **The sequence that is due is acknowledged**, and it is the next one. -/
  | ack {c : Boundary} : c.failed = false → c.due = some (c.acked + 1) →
      BoundaryStep transactional c (.ack (c.acked + 1))
        { c with acked := c.acked + 1, due := none }
  | failed {c : Boundary} : c.due = none →
      BoundaryStep transactional c .failed { c with failed := true }
  | finish {c : Boundary} : c.Active →
      BoundaryStep transactional c .finish { c with finished := true }
  /-- **The stop is requested once.** -/
  | requestStop {c : Boundary} : c.opened = true → c.stopRequested = false → c.due = none →
      BoundaryStep transactional c .requestStop { c with stopRequested := true }
  | postStop {c : Boundary} {healthy : Bool} : c.stopRequested = true → c.closed = false →
      BoundaryStep transactional c (.postStop healthy)
        { c with streak := if healthy = true then c.streak + 1 else 0 }
  /-- **The backend is closed once**, after the stop request. -/
  | close {c : Boundary} : c.stopRequested = true → c.closed = false →
      BoundaryStep transactional c .close { c with closed := true }

/-- **The end of a session**, as the boundary has seen it. -/
structure Ended (session : FrankaPersistentSession D T) (c : Boundary)
    (s : SessionState D S T W) : Prop where
  closed : c.opened = true → c.stopRequested = true ∧ c.closed = true
  acknowledged : c.due = none
  stopped : s.state = .stopped ↔ c.failed = false
  verified : c.failed = false → session.envelope.stopConsecutiveSamples ≤ c.streak
  latched : c.failed = true → s.state = .faultLatched ∧ s.safetyGate.state = .faultLatched

/-! ## What most statements leave unchanged -/

/-- **What the boundary depends on.** -/
structure View where
  state : FrankaSessionState
  backend : Bool
  current : Option ℕ
  acked : ℕ

def SessionState.view (s : SessionState D S T W) : View :=
  ⟨s.state, s.locals.backend, s.locals.currentTarget.map (·.sequence),
    s.locals.lastFrankaAckedSequence⟩

def Unchanged (v : View) (t₀ : List (SessionEvent D)) (s : SessionState D S T W)
    (t : List (SessionEvent D)) : Prop := s.view = v ∧ t = t₀

variable {v : View} {t₀ : List (SessionEvent D)} {session : FrankaPersistentSession D T}
  {env : SessionWorld D S T W}

theorem view_receive (calls : List (OtherCall D S T)) (s : SessionState D S T W) :
    (calls.foldl SessionState.receive s).view = s.view := by
  induction calls generalizing s with
  | nil => rfl
  | cons call calls ih =>
    rw [List.foldl_cons, ih]
    cases call with
    | gate caller call => rfl
    | ledger call => rfl
    | publish target => rfl
    | requestCleanStop => rfl

theorem keeps_preempt : Keeps (Unchanged v t₀) (preempt env) := by
  refine keeps_update fun s t h => ⟨?_, h.2⟩
  rw [view_receive]
  exact h.1

theorem keeps_environment {α : Type} (f : W → Except PyException α × W) :
    Keeps (Unchanged v t₀) (environment (D := D) (S := S) (T := T) f) :=
  keeps_ofStep fun _ _ h => h

theorem keeps_gateCall (call : GateCall D) :
    Keeps (Unchanged v t₀) (gateCall session env call) :=
  keeps_preempt.bind fun _ => keeps_ofStep fun _ _ h => h

theorem keeps_ledgerCall (call : LedgerCall D S) :
    Keeps (Unchanged v t₀) (ledgerCall env call) :=
  keeps_preempt.bind fun _ => keeps_ofStep fun _ _ h => h

theorem keeps_look : Keeps (Unchanged v t₀) (look env) :=
  keeps_preempt.bind fun _ => keeps_read

theorem keeps_monotonicNow : Keeps (Unchanged v t₀) (monotonicNow env) :=
  (keeps_environment _).bind fun _ => keeps_ofExcept _

theorem keeps_setTelemetry (f : FrankaTelemetry → FrankaTelemetry) :
    Keeps (Unchanged v t₀) (setTelemetry (D := D) (S := S) (T := T) (W := W) f) :=
  keeps_update fun _ _ h => h

theorem keeps_setLocals {f : RunLocals D → RunLocals D}
    (hbackend : ∀ l, (f l).backend = l.backend)
    (hcurrent : ∀ l, (f l).currentTarget = l.currentTarget)
    (hacked : ∀ l, (f l).lastFrankaAckedSequence = l.lastFrankaAckedSequence) :
    Keeps (Unchanged v t₀) (setLocals (S := S) (T := T) (W := W) f) := by
  refine keeps_update fun s t h => ⟨?_, h.2⟩
  rw [← h.1]
  simp only [SessionState.view, hbackend, hcurrent, hacked]

theorem keeps_assertSome {α : Type} (a : Option α) :
    Keeps (Unchanged v t₀) (assertSome (D := D) (S := S) (T := T) (W := W) a) := by
  cases a with
  | none => exact keeps_fail _
  | some a => exact keeps_ret a

/-! ### The phases of a cycle that emit nothing -/

theorem keeps_enterCycle (token : FrankaPreflightToken D) (sessionStart : D) :
    Keeps (Unchanged v t₀) (enterCycle session env token sessionStart) := by
  unfold enterCycle
  refine keeps_monotonicNow.bind fun cycleNow => ?_
  refine (keeps_gateCall _).bind fun _ => ?_
  refine (keeps_ofExcept _).bind fun _ => ?_
  refine (keeps_check _ _).bind fun _ => ?_
  exact keeps_ret _

theorem keeps_shapingPeriod (dt : D) :
    Keeps (Unchanged v t₀) (shapingPeriod (S := S) (W := W) session dt) := by
  unfold shapingPeriod
  refine keeps_read.bind fun s => Keeps.bind ?_ fun _ => Keeps.ite (keeps_ret _) ?_
  · exact keeps_setLocals (fun _ => rfl) (fun _ => rfl) fun _ => rfl
  · exact (keeps_check _ _).bind fun _ => keeps_ret _

theorem keeps_checkProvenance (state : RobotState D) :
    Keeps (Unchanged v t₀) (checkProvenance (S := S) (W := W) session state) := by
  unfold checkProvenance
  refine keeps_read.bind fun s => Keeps.runIf _ ?_
  exact (Keeps.runIf _ (keeps_ofExcept _)).bind fun _ => keeps_setTelemetry _

theorem keeps_checkEpisode (guards : SupervisedGuards D) (q : Vec 7 D) (message : String) :
    Keeps (Unchanged v t₀) (checkEpisode (S := S) (W := W) session guards q message) := by
  unfold checkEpisode
  refine Keeps.runIf _ ((keeps_assertSome _).bind fun limit => ?_)
  refine keeps_read.bind fun s => (keeps_assertSome _).bind fun startQ => ?_
  exact keeps_check _ _

theorem keeps_checkSupervised (q : Vec 7 D) :
    Keeps (Unchanged v t₀) (checkSupervised (S := S) (W := W) session q) := by
  unfold checkSupervised
  cases session.guards with
  | none => exact keeps_ret _
  | some guards =>
    refine Keeps.bind ?_ fun _ => keeps_checkEpisode _ _ _
    unfold checkSupervisedStart
    refine keeps_read.bind fun s => Keeps.runIf _ ((keeps_check _ _).bind fun _ => ?_)
    exact keeps_setLocals (fun _ => rfl) (fun _ => rfl) fun _ => rfl

theorem keeps_publishPoseSample (state : RobotState D) (readComplete realtime : D)
    (q dq : Vec 7 D) : Keeps (Unchanged v t₀)
      (publishPoseSample (S := S) (W := W) session state readComplete realtime q dq) := by
  unfold publishPoseSample
  refine (keeps_ofExcept _).bind fun pose => keeps_read.bind fun s => ?_
  refine (keeps_ofExcept _).bind fun ring => ?_
  refine Keeps.bind ?_ fun _ => keeps_setTelemetry _
  exact keeps_update fun _ _ h => h

theorem keeps_observe (sessionStart cycleNow : D) (reading : RobotState D × Option D) :
    Keeps (Unchanged v t₀) (observe session env sessionStart cycleNow reading) := by
  obtain ⟨state, rawDt⟩ := reading
  unfold observe
  refine keeps_monotonicNow.bind fun readComplete => ?_
  refine (keeps_environment _).bind fun value => ?_
  refine (keeps_ofExcept _).bind fun realtime => (keeps_ofExcept _).bind fun dt => ?_
  refine (keeps_shapingPeriod _).bind fun shapingDt => ?_
  refine (keeps_checkProvenance _).bind fun _ => keeps_read.bind fun s => ?_
  refine (keeps_ofExcept _).bind fun ⟨q, dq, measuredAcceleration⟩ => ?_
  refine (keeps_checkSupervised _).bind fun _ => ?_
  exact (keeps_publishPoseSample _ _ _ _ _).bind fun _ => keeps_ret _

theorem keeps_requirePendingTransaction (target : FrankaJointTarget D) :
    Keeps (Unchanged v t₀) (requirePendingTransaction session env target) := by
  unfold requirePendingTransaction
  refine Keeps.runIf _ (keeps_look.bind fun s => (keeps_check _ _).bind fun _ => ?_)
  exact keeps_look.bind fun s => keeps_check _ _

theorem keeps_requireTargetGuards (current : Option (FrankaJointTarget D))
    (target : FrankaJointTarget D) : Keeps (Unchanged v t₀)
      (requireTargetGuards (S := S) (W := W) session current target) := by
  unfold requireTargetGuards
  cases session.guards with
  | none => exact keeps_ret _
  | some guards =>
    refine Keeps.bind (Keeps.runIf _ (keeps_read.bind fun s => ?_)) fun _ =>
      keeps_checkEpisode _ _ _
    exact (keeps_assertSome _).bind fun startQ => keeps_check _ _

theorem keeps_requireInitialTarget (target : FrankaJointTarget D) (q : Vec 7 D) :
    Keeps (Unchanged v t₀) (requireInitialTarget (S := S) (W := W) session target q) := by
  unfold requireInitialTarget
  refine (Keeps.runIf _ (keeps_ofExcept _)).bind fun _ => ?_
  exact keeps_setLocals (fun _ => rfl) (fun _ => rfl) fun _ => rfl

theorem keeps_requireContinuation (current : Option (FrankaJointTarget D))
    (target : FrankaJointTarget D) (q : Vec 7 D) : Keeps (Unchanged v t₀)
      (requireContinuation (S := S) (W := W) session current target q) := by
  unfold requireContinuation
  cases current with
  | none => exact keeps_requireInitialTarget _ _
  | some previous => exact keeps_ofExcept _

theorem keeps_activeTargetQ (target : Option (FrankaJointTarget D)) (q : Vec 7 D) :
    Keeps (Unchanged v t₀) (activeTargetQ (S := S) (T := T) (W := W) target q) := by
  unfold activeTargetQ
  cases target with
  | none =>
    unfold bootstrapHold
    refine keeps_read.bind fun s => ?_
    cases s.locals.bootstrapHoldQ with
    | none =>
      refine Keeps.bind ?_ fun _ => keeps_ret _
      exact keeps_setLocals (fun _ => rfl) (fun _ => rfl) fun _ => rfl
    | some hold => exact keeps_ret _
  | some target =>
    exact keeps_read.bind fun s => (keeps_assertSome _).bind fun current => keeps_ret _

theorem keeps_shapeCommand (targetQ : Vec 7 D) (dt : D) :
    Keeps (Unchanged v t₀) (shapeCommand (S := S) (W := W) session targetQ dt) := by
  unfold shapeCommand
  refine keeps_read.bind fun s => (keeps_assertSome _).bind fun shaper => ?_
  refine (keeps_ofExcept _).bind fun ⟨commandQ, next⟩ => ?_
  refine Keeps.bind ?_ fun _ => Keeps.bind ?_ fun _ =>
    (Keeps.runIf _ (keeps_ofExcept _)).bind fun _ => keeps_ret _
  · exact keeps_setLocals (fun _ => rfl) (fun _ => rfl) fun _ => rfl
  · unfold checkCommandEpisode
    cases session.guards with
    | none => exact keeps_ret _
    | some guards => exact keeps_checkEpisode _ _ _

theorem keeps_beforeWrite (token : FrankaPreflightToken D)
    (target : Option (FrankaJointTarget D)) (readComplete : D) :
    Keeps (Unchanged v t₀) (beforeWrite session env token target readComplete) := by
  unfold beforeWrite
  refine keeps_monotonicNow.bind fun beforeWrite => (keeps_gateCall _).bind fun _ => ?_
  refine (keeps_ofExcept _).bind fun _ => Keeps.bind ?_ fun _ => ?_
  · unfold requireCommandAge
    refine Keeps.runIf _ (keeps_read.bind fun s => (keeps_assertSome _).bind fun current => ?_)
    exact keeps_check _ _
  · refine (keeps_check _ _).bind fun _ => Keeps.bind ?_ fun deadline => ?_
    · exact keeps_read.bind fun s => keeps_ret _
    · exact (keeps_check _ _).bind fun _ => keeps_ret _

/-! ## The control loop within its boundary -/

def Within (transactional : Bool) (P : Boundary → View → Prop) (s : SessionState D S T W)
    (t : List (SessionEvent D)) : Prop :=
  ∃ c, Monitor.Accepts (BoundaryStep transactional) .start t c ∧ P c s.view

/-- **The session runs and has not failed**, whatever the cycle has done so far. -/
structure Running (c : Boundary) (v : View) : Prop where
  state : v.state = .running
  opened : c.opened = v.backend
  failed : c.failed = false
  finished : c.finished = false
  stopRequested : c.stopRequested = false
  closed : c.closed = false

structure Idle (c : Boundary) (v : View) : Prop extends Running c v where
  due : c.due = none

/-- **The sequence of a cycle**: without a target the current one is acknowledged; a target's
sequence is the acknowledged one or the next one. -/
structure Carries (transactional : Bool) (sequence : Option ℕ) (c : Boundary) (v : View) :
    Prop where
  backend : v.backend = true
  acked : c.acked = v.acked
  hold : sequence = none → transactional = true → c.acked = v.current.getD 0
  target : ∀ n, sequence = some n → v.current = some n ∧
    (transactional = true → n = c.acked ∨ n = c.acked + 1)

variable {tr : Bool} {P P' : Boundary → View → Prop}

theorem Within.mono {s : SessionState D S T W} {t : List (SessionEvent D)}
    (h : Within tr P s t) (hP : ∀ c v, P c v → P' c v) : Within tr P' s t := by
  obtain ⟨c, haccepts, hc⟩ := h
  exact ⟨c, haccepts, hP c _ hc⟩

theorem keeps_within {α : Type} {m : SessionM D S T W α}
    (hm : ∀ v t₀, Keeps (Unchanged v t₀) m) : Keeps (Within tr P) m := by
  rintro s t ⟨c, haccepts, hc⟩
  refine wp_mono (hm s.view t s t ⟨rfl, rfl⟩) (fun _ s' t' h => ?_) fun _ s' t' h => ?_
  · obtain ⟨hview, rfl⟩ := h
    exact ⟨c, haccepts, hview ▸ hc⟩
  · obtain ⟨hview, rfl⟩ := h
    exact ⟨c, haccepts, hview ▸ hc⟩

theorem active_of_idle {c : Boundary} {v : View} (h : Idle c v) (hbackend : v.backend = true) :
    c.Active :=
  ⟨h.opened.trans hbackend, h.failed, h.finished, h.stopRequested, h.due⟩

def Looping (transactional : Bool) (c : Boundary) (v : View) : Prop :=
  Idle c v ∧ Carries transactional none c v

def Answering (transactional : Bool) (sequence : Option ℕ) (c : Boundary) (v : View) : Prop :=
  Idle c v ∧ Carries transactional sequence c v ∧ c.answerable = true

def Writing (transactional : Bool) (sequence : Option ℕ) (c : Boundary) (v : View) : Prop :=
  Idle c v ∧ Carries transactional sequence c v ∧ c.writing = some sequence

def Written (transactional : Bool) (sequence : Option ℕ) (c : Boundary) (v : View) : Prop :=
  Running c v ∧ Carries transactional sequence c v ∧
    c.due = sequence.filter fun n => transactional && decide (c.acked < n)

theorem wp_readActiveHandle {s : SessionState D S T W} {t : List (SessionEvent D)}
    (h : Within tr (Looping tr) s t) :
    wp (readActiveHandle env) (fun _ => Within tr (Answering tr none))
      (fun _ => Within tr Idle) s t := by
  unfold readActiveHandle
  refine (keeps_within fun _ _ => keeps_environment _).wp_bind h (fun reading s t h => ?_)
    fun _ _ _ h => h.mono fun _ _ h => h.1
  obtain ⟨c, haccepts, hidle, hcarries⟩ := h
  rw [wp_bind, wp_emit, wp_bind]
  unfold setTelemetry
  rw [wp_update, wp_ret]
  refine ⟨{ c with answerable := true },
    .snoc haccepts (.read (active_of_idle hidle hcarries.backend)), ?_, ?_, rfl⟩
  · exact ⟨⟨hidle.state, hidle.opened, hidle.failed, hidle.finished, hidle.stopRequested,
      hidle.closed⟩, hidle.due⟩
  · exact ⟨hcarries.backend, hcarries.acked, hcarries.hold, hcarries.target⟩

/-- **The selected target**: there is none only before the first one. -/
theorem wp_selectTarget {s : SessionState D S T W} {t : List (SessionEvent D)} (readComplete : D)
    (h : Within tr (Answering tr none) s t) :
    wp (selectTarget session env readComplete) (fun _ => Within tr (Answering tr none))
      (fun _ => Within tr Idle) s t := by
  have hkeeps : Keeps (Within tr (Answering tr none)) (selectTarget session env readComplete) := by
    refine keeps_within fun v t₀ => ?_
    unfold selectTarget
    refine keeps_look.bind fun s => ?_
    cases s.targetHold with
    | none => exact (keeps_check _ _).bind fun _ => (keeps_check _ _).bind fun _ => keeps_ret _
    | some latest =>
      refine keeps_look.bind fun s => (keeps_ofExcept _).bind fun target => ?_
      exact (keeps_check _ _).bind fun _ => keeps_ret _
  exact wp_mono (hkeeps s t h) (fun _ _ _ h => h) fun _ _ _ h => h.mono fun _ _ h => h.1

/-- **An admitted target** is the current one or its successor. -/
theorem wp_admitTarget {s : SessionState D S T W} {t : List (SessionEvent D)}
    (target : FrankaJointTarget D) (q : Vec 7 D) (h : Within tr (Answering tr none) s t) :
    wp (admitTarget session env target q)
      (fun _ => Within tr (Answering tr (some target.sequence))) (fun _ => Within tr Idle) s t := by
  obtain ⟨c, haccepts, hidle, hcarries, hanswer⟩ := h
  unfold admitTarget
  rw [wp_bind, wp_read]
  beta_reduce
  rw [wp_runIf]
  refine ⟨fun _ => ?_, fun hsame => ?_⟩
  · rw [wp_bind, wp_check]
    refine ⟨fun _ => ⟨c, haccepts, hidle⟩, fun hnext => ?_⟩
    have hsequence : target.sequence = s.view.current.getD 0 + 1 := not_not.mp hnext
    have lost : ∀ {s' : SessionState D S T W} {t' : List (SessionEvent D)},
        Unchanged s.view t s' t' → Within tr Idle s' t' := by
      rintro s' t' ⟨hview, rfl⟩
      exact ⟨c, haccepts, hview ▸ hidle⟩
    refine (keeps_requirePendingTransaction _).wp_bind ⟨rfl, rfl⟩ (fun _ s₁ t₁ h₁ => ?_)
      fun _ _ _ => lost
    refine (keeps_requireTargetGuards _ _).wp_bind h₁ (fun _ s₂ t₂ h₂ => ?_) fun _ _ _ => lost
    refine (keeps_ofExcept _).wp_bind h₂ (fun _ s₃ t₃ h₃ => ?_) fun _ _ _ => lost
    refine (keeps_requireContinuation _ _ _).wp_bind h₃ (fun _ s₄ t₄ h₄ => ?_) fun _ _ _ => lost
    obtain ⟨hview, rfl⟩ := h₄
    unfold setLocals setTelemetry
    rw [wp_bind, wp_update, wp_update]
    -- the target becomes the current one
    have hstate : s₄.state = s.state := congrArg View.state hview
    have hbackend : s₄.locals.backend = s.locals.backend := congrArg View.backend hview
    have hacked : s₄.locals.lastFrankaAckedSequence = s.locals.lastFrankaAckedSequence :=
      congrArg View.acked hview
    refine ⟨c, haccepts, ?_, ⟨?_, ?_, nofun, ?_⟩, hanswer⟩
    · exact ⟨⟨hstate.trans hidle.state, hidle.opened.trans hbackend.symm, hidle.failed,
        hidle.finished, hidle.stopRequested, hidle.closed⟩, hidle.due⟩
    · exact hbackend.trans hcarries.backend
    · exact hcarries.acked.trans hacked.symm
    · rintro n hn
      obtain rfl := Option.some.inj hn
      refine ⟨rfl, fun htrue => .inr ?_⟩
      rw [hsequence, hcarries.hold rfl htrue]
  · have hcurrent : s.view.current = some target.sequence := not_not.mp hsame
    refine ⟨c, haccepts, hidle, ⟨hcarries.backend, hcarries.acked, nofun, ?_⟩, hanswer⟩
    rintro n hn
    obtain rfl := Option.some.inj hn
    refine ⟨hcurrent, fun htrue => .inl ?_⟩
    have := hcarries.hold rfl htrue
    rw [hcurrent] at this
    exact this.symm

/-- **A prepared write** carries the sequence of the cycle's target. -/
theorem wp_prepareWrite {s : SessionState D S T W} {t : List (SessionEvent D)}
    (token : FrankaPreflightToken D) (o : Observation D) (h : Within tr (Answering tr none) s t) :
    wp (prepareWrite session env token o)
      (fun prepared => Within tr (Answering tr (prepared.1.map (·.sequence))))
      (fun _ => Within tr Idle) s t := by
  unfold prepareWrite
  rw [wp_bind]
  refine wp_mono (wp_selectTarget o.readComplete h) (fun target s t h => ?_) fun _ _ _ h => h
  have hadmitted : wp (admitSelected session env target o.q)
      (fun _ => Within tr (Answering tr (target.map (·.sequence)))) (fun _ => Within tr Idle) s t := by
    unfold admitSelected
    cases target with
    | none =>
      rw [wp_ret]
      exact h
    | some target => exact wp_admitTarget target o.q h
  rw [wp_bind]
  refine wp_mono hadmitted (fun _ s t h => ?_) fun _ _ _ h => h
  have lost : ∀ (e : PyException) (s : SessionState D S T W) (t : List (SessionEvent D)),
      Within tr (Answering tr (target.map (·.sequence))) s t → Within tr Idle s t :=
    fun _ _ _ h => h.mono fun _ _ h => h.1
  refine (keeps_within fun _ _ => keeps_activeTargetQ _ _).wp_bind h (fun targetQ s t h => ?_) lost
  refine (keeps_within fun _ _ => keeps_shapeCommand _ _).wp_bind h (fun commandQ s t h => ?_) lost
  refine (keeps_within fun _ _ => keeps_beforeWrite _ _ _).wp_bind h (fun deadline s t h => ?_) lost
  rw [wp_ret]
  exact h

theorem Within.write {s : SessionState D S T W} {t : List (SessionEvent D)} {sequence : Option ℕ}
    (h : Within tr (Answering tr sequence) s t) :
    Within tr (Writing tr sequence) s (t ++ [.write sequence]) := by
  obtain ⟨c, haccepts, hidle, hcarries, hanswer⟩ := h
  refine ⟨{ c with answerable := false, writing := some sequence },
    .snoc haccepts (.write (active_of_idle hidle hcarries.backend) hanswer), ?_, ?_, rfl⟩
  · exact ⟨⟨hidle.state, hidle.opened, hidle.failed, hidle.finished, hidle.stopRequested,
      hidle.closed⟩, hidle.due⟩
  · exact ⟨hcarries.backend, hcarries.acked, hcarries.hold, hcarries.target⟩

/-- **The write of a cycle** is of the sequence that it carries. -/
theorem wp_writeCommand {s : SessionState D S T W} {t : List (SessionEvent D)}
    (target : Option (FrankaJointTarget D)) (commandQ : Vec 7 D)
    (h : Within tr (Answering tr (target.map (·.sequence))) s t) :
    wp (writeCommand env target commandQ) (fun sequence => Within tr (Writing tr sequence))
      (fun _ => Within tr Idle) s t := by
  unfold writeCommand
  cases target with
  | none =>
    refine (keeps_within fun _ _ => keeps_environment _).wp_bind h (fun callable s t h => ?_)
      fun _ _ _ h => h.mono fun _ _ h => h.1
    rw [wp_bind, wp_check]
    refine ⟨fun _ => h.mono fun _ _ h => h.1, fun _ => ?_⟩
    rw [wp_bind, wp_emit]
    refine (keeps_within fun _ _ => keeps_environment _).wp_bind h.write (fun _ s t h => ?_)
      fun _ _ _ h => h.mono fun _ _ h => h.1
    refine (keeps_within fun _ _ => keeps_setTelemetry _).wp_bind h (fun _ s t h => ?_)
      fun _ _ _ h => h.mono fun _ _ h => h.1
    rw [wp_ret]
    exact h
  | some target =>
    rw [wp_bind, wp_read]
    beta_reduce
    have hsequence : s.view.current = some target.sequence := by
      obtain ⟨c, -, -, hcarries, -⟩ := h
      exact (hcarries.target _ rfl).1
    obtain ⟨current, hcurrent, hsame⟩ := Option.map_eq_some_iff.mp hsequence
    rw [hcurrent]
    simp only [assertSome]
    rw [wp_bind, wp_ret, wp_bind, wp_emit]
    have hwriting : Within tr (Writing tr (some current.sequence)) s
        (t ++ [.write (some current.sequence)]) := by
      rw [hsame]
      exact h.write
    refine (keeps_within fun _ _ => keeps_environment _).wp_bind hwriting (fun _ s t h => ?_)
      fun _ _ _ h => h.mono fun _ _ h => h.1
    rw [wp_ret]
    exact h

/-- **A write that returns in time** makes its acknowledgement due; a late one fails. -/
theorem wp_completeWrite {s : SessionState D S T W} {t : List (SessionEvent D)}
    (sequence : Option ℕ) (readComplete deadline : D) (h : Within tr (Writing tr sequence) s t) :
    wp (completeWrite env sequence readComplete deadline) (fun _ => Within tr (Written tr sequence))
      (fun _ => Within tr Idle) s t := by
  unfold completeWrite
  refine (keeps_within fun _ _ => keeps_setTelemetry _).wp_bind h (fun _ s t h => ?_)
    fun _ _ _ h => h.mono fun _ _ h => h.1
  refine (keeps_within fun _ _ => keeps_monotonicNow).wp_bind h (fun afterWrite s t h => ?_)
    fun _ _ _ h => h.mono fun _ _ h => h.1
  obtain ⟨c, haccepts, hidle, hcarries, hwriting⟩ := h
  rw [wp_bind, wp_emit, wp_bind, wp_check]
  have hstep : BoundaryStep tr c (.completed sequence (afterWrite - readComplete) deadline)
      { c with
        writing := none
        due := dueAck tr c.acked sequence (afterWrite - readComplete) deadline } :=
    .completed (active_of_idle hidle hcarries.backend) hwriting
  have hrunning : Running { c with
      writing := none
      due := dueAck tr c.acked sequence (afterWrite - readComplete) deadline } s.view :=
    ⟨hidle.state, hidle.opened, hidle.failed, hidle.finished, hidle.stopRequested, hidle.closed⟩
  refine ⟨fun hlate => ⟨_, haccepts.snoc hstep, hrunning, ?_⟩, fun htimely => ?_⟩
  · -- nothing is due after a late write
    simp only [dueAck, hlate, not_true_eq_false, decide_false, Bool.and_false, Bool.false_and]
    cases sequence with
    | none => rfl
    | some n => rfl
  · rw [wp_ret]
    refine ⟨_, haccepts.snoc hstep, hrunning,
      ⟨hcarries.backend, hcarries.acked, hcarries.hold, hcarries.target⟩, ?_⟩
    simp only [dueAck, htimely, not_false_eq_true, decide_true, Bool.and_true]

/-- **The acknowledgement of a cycle**: of the sequence that is due, and of nothing else. -/
theorem wp_acknowledgeWrite {s : SessionState D S T W} {t : List (SessionEvent D)}
    (htr : tr = isTransactionalPolicyMode session.mode) (sequence : Option ℕ) (afterWrite : D)
    (h : Within tr (Written tr sequence) s t) :
    wp (acknowledgeWrite session env sequence afterWrite) (fun _ => Within tr (Looping tr))
      (fun _ => Within tr Idle) s t := by
  obtain ⟨c, haccepts, hrunning, hcarries, hdue⟩ := h
  unfold acknowledgeWrite
  cases sequence with
  | none =>
    rw [wp_update]
    exact ⟨c, haccepts, ⟨hrunning, hdue⟩, hcarries⟩
  | some n =>
    obtain ⟨hcurrent, hnext⟩ := hcarries.target n rfl
    rw [wp_bind, wp_read]
    beta_reduce
    rw [wp_runIf]
    refine ⟨fun ⟨htrue, hnew⟩ => ?_, fun hold => ?_⟩
    · -- a new sequence is the next one
      rw [← htr] at htrue
      have hlt : c.acked < n := by
        rw [hcarries.acked]
        exact hnew
      have hn : n = c.acked + 1 := by
        have := hnext htrue
        omega
      have hdue' : c.due = some (c.acked + 1) := by
        rw [hdue, htrue, ← hn]
        simp only [Option.filter_some, Bool.true_and, decide_eq_true_eq, hlt, if_true]
      have haccepted := haccepts.snoc (.ack hrunning.failed hdue')
      rw [← hn] at haccepted
      rw [wp_bind, wp_emit]
      have hidle : Idle { c with acked := n, due := none } s.view :=
        ⟨⟨hrunning.state, hrunning.opened, hrunning.failed, hrunning.finished,
          hrunning.stopRequested, hrunning.closed⟩, rfl⟩
      have lost : ∀ {s' : SessionState D S T W} {t' : List (SessionEvent D)},
          Unchanged s.view (t ++ [.ack n]) s' t' → Within tr Idle s' t' := by
        rintro s' t' ⟨hview, rfl⟩
        exact ⟨_, haccepted, hview ▸ hidle⟩
      refine (keeps_ledgerCall _).wp_bind ⟨rfl, rfl⟩ (fun _ s₁ t₁ h₁ => ?_) fun _ _ _ => lost
      obtain ⟨hview, rfl⟩ := h₁
      unfold setLocals setTelemetry
      rw [wp_bind, wp_update, wp_update]
      have hstate : s₁.state = s.state := congrArg View.state hview
      have hbackend : s₁.locals.backend = s.locals.backend := congrArg View.backend hview
      have hcurrent' : s₁.view.current = some n := by rw [hview, hcurrent]
      refine ⟨_, haccepted, ?_, hbackend.trans hcarries.backend, rfl, fun _ _ => ?_, nofun⟩
      · exact ⟨⟨hstate.trans hrunning.state, hrunning.opened.trans hbackend.symm,
          hrunning.failed, hrunning.finished, hrunning.stopRequested, hrunning.closed⟩, rfl⟩
      · show n = s₁.view.current.getD 0
        rw [hcurrent']
        rfl
    · have hnot : (tr && decide (c.acked < n)) = false := by
        rw [Bool.and_eq_false_iff, decide_eq_false_iff_not]
        by_contra hboth
        push Not at hboth
        obtain ⟨htrue, hlt⟩ := hboth
        rw [hcarries.acked] at hlt
        exact hold ⟨by rw [← htr]; simpa using htrue, hlt⟩
      refine ⟨c, haccepts, ⟨hrunning, ?_⟩, hcarries.backend, hcarries.acked, fun _ htrue => ?_,
        nofun⟩
      · rw [hdue, Option.filter_some, hnot]
        rfl
      · rw [hcurrent]
        show c.acked = n
        rw [htrue, Bool.true_and, decide_eq_false_iff_not] at hnot
        have := hnext htrue
        omega

theorem wp_cycle {s : SessionState D S T W} {t : List (SessionEvent D)}
    (htr : tr = isTransactionalPolicyMode session.mode) (token : FrankaPreflightToken D)
    (sessionStart : D) (h : Within tr (Looping tr) s t) :
    wp (cycle session env token sessionStart) (fun _ => Within tr (Looping tr))
      (fun _ => Within tr Idle) s t := by
  unfold cycle
  refine (keeps_within fun _ _ => keeps_enterCycle _ _).wp_bind h (fun cycleNow s t h => ?_)
    fun _ _ _ h => h.mono fun _ _ h => h.1
  rw [wp_bind]
  refine wp_mono (wp_readActiveHandle h) (fun reading s t h => ?_) fun _ _ _ h => h
  refine (keeps_within fun _ _ => keeps_observe _ _ _).wp_bind h (fun o s t h => ?_)
    fun _ _ _ h => h.mono fun _ _ h => h.1
  rw [wp_bind]
  refine wp_mono (wp_prepareWrite token o h) (fun ⟨target, commandQ, deadline⟩ s t h => ?_)
    fun _ _ _ h => h
  rw [wp_bind]
  refine wp_mono (wp_writeCommand target commandQ h) (fun sequence s t h => ?_) fun _ _ _ h => h
  rw [wp_bind]
  refine wp_mono (wp_completeWrite sequence o.readComplete deadline h)
    (fun afterWrite s t h => ?_) fun _ _ _ h => h
  rw [wp_bind]
  refine wp_mono (wp_acknowledgeWrite htr sequence afterWrite h) (fun _ s t h => ?_)
    fun _ _ _ h => h
  have hkeeps : Keeps (Within tr (Looping tr)) (setLocals (S := S) (T := T) (W := W) fun l =>
      { l with previous := ⟨some commandQ, some o.dq, o.measuredAcceleration⟩ }) :=
    keeps_within fun _ _ => keeps_setLocals (fun _ => rfl) (fun _ => rfl) fun _ => rfl
  exact wp_mono (hkeeps s t h) (fun _ _ _ h => h) fun _ _ _ h => h.mono fun _ _ h => h.1

/-- **The control loop** stays within the boundary, however many cycles it takes. -/
theorem wp_controlLoop {s : SessionState D S T W} {t : List (SessionEvent D)}
    (htr : tr = isTransactionalPolicyMode session.mode) (token : FrankaPreflightToken D)
    (sessionStart : D) (maximumCycles : Option ℕ) (fuel : ℕ) (h : Within tr (Looping tr) s t) :
    wp (controlLoop session env token sessionStart maximumCycles fuel)
      (fun _ => Within tr (Looping tr)) (fun _ => Within tr Idle) s t := by
  induction fuel generalizing s t with
  | zero =>
    unfold controlLoop
    rw [wp_ret]
    exact h
  | succ fuel ih =>
    unfold controlLoop
    refine (keeps_within fun _ _ => keeps_look).wp_bind h (fun seen s t h => ?_)
      fun _ _ _ h => h.mono fun _ _ h => h.1
    rw [wp_ite]
    refine ⟨fun _ => ?_, fun _ => ?_⟩
    · rw [wp_ret]
      exact h
    · rw [wp_bind]
      refine wp_mono (wp_cycle htr token sessionStart h) (fun _ s t h => ?_) fun _ _ _ h => h
      rw [wp_bind, wp_read]
      beta_reduce
      rw [wp_ite]
      refine ⟨fun _ => ?_, fun _ => ih h⟩
      rw [wp_ret]
      exact h

def Starting (c : Boundary) (v : View) : Prop := c = .start ∧ v = ⟨.running, false, none, 0⟩

theorem wp_openBackend {s : SessionState D S T W} {t : List (SessionEvent D)}
    (h : Within tr Starting s t) :
    wp (openBackend env) (fun _ => Within tr (Looping tr)) (fun _ => Within tr Idle) s t := by
  have hstart : ∀ c v, Starting c v → Idle c v := by
    rintro c v ⟨rfl, rfl⟩
    exact ⟨⟨rfl, rfl, rfl, rfl, rfl, rfl⟩, rfl⟩
  unfold openBackend
  refine (keeps_within fun _ _ => keeps_environment _).wp_bind h (fun backend s t h => ?_)
    fun _ _ _ h => h.mono hstart
  rw [wp_bind, wp_check]
  refine ⟨fun _ => h.mono hstart, fun _ => ?_⟩
  obtain ⟨c, haccepts, rfl, hview⟩ := h
  unfold setLocals setTelemetry
  rw [wp_bind, wp_emit, wp_bind, wp_update, wp_bind, wp_update]
  have hstate : s.state = .running := congrArg View.state hview
  have hcurrent : s.view.current = none := congrArg View.current hview
  have hacked : s.locals.lastFrankaAckedSequence = 0 := congrArg View.acked hview
  have hopened : Within tr (Looping tr)
      { s with
        locals := { s.locals with backend := true }
        telemetry := { s.telemetry with backendOpened := true } } (t ++ [.opened]) := by
    refine ⟨{ Boundary.start with opened := true }, .snoc haccepts (.opened rfl),
      ⟨⟨hstate, rfl, rfl, rfl, rfl, rfl⟩, rfl⟩, rfl, hacked.symm, fun _ _ => ?_, nofun⟩
    show 0 = s.view.current.getD 0
    rw [hcurrent]
    rfl
  have lost : ∀ (e : PyException) (s : SessionState D S T W) (t : List (SessionEvent D)),
      Within tr (Looping tr) s t → Within tr Idle s t := fun _ _ _ h => h.mono fun _ _ h => h.1
  refine (keeps_within fun _ _ => keeps_environment _).wp_bind hopened (fun control s t h => ?_) lost
  rw [wp_bind, wp_check]
  refine ⟨fun _ => lost (sessionError "") s t h, fun _ => ?_⟩
  have hkeeps : Keeps (Within tr (Looping tr)) (setLocals (D := D) (S := S) (T := T) (W := W)
      fun l => { l with control := true }) :=
    keeps_within fun _ _ => keeps_setLocals (fun _ => rfl) (fun _ => rfl) fun _ => rfl
  exact wp_mono (hkeeps s t h) (fun _ _ _ h => h) lost

/-! ## Faults reach the gate -/

theorem wp_failedSequence {s : SessionState D S T W} {t : List (SessionEvent D)}
    (h : Unchanged v t₀ s t) :
    wp (failedSequence env) (fun _ => Unchanged v t₀) (fun _ _ _ => False) s t := by
  have htotal : Total (look env) := (total_update _).bind fun _ => total_read
  unfold failedSequence
  refine keeps_look.wp_bind_total htotal h fun seen s t h => ?_
  cases seen.locals.currentTarget with
  | some target =>
    rw [wp_ret]
    exact h
  | none =>
    cases seen.actionLedger.pending with
    | some command =>
      rw [wp_ret]
      exact h
    | none =>
      refine keeps_look.wp_bind_total htotal h fun seen s t h => ?_
      rw [wp_ret]
      exact h

/-- **A fault latches the gate**, and nothing is raised. -/
theorem wp_latchFault {s : SessionState D S T W} {t : List (SessionEvent D)} (reason : String)
    (h : Unchanged v t₀ s t) :
    wp (latchFault session env reason)
      (fun _ s t => Unchanged v t₀ s t ∧ s.safetyGate.state = .faultLatched)
      (fun _ _ _ => False) s t := by
  unfold latchFault
  have hledger : wp (runIf (isTransactionalPolicyMode session.mode = true) (do
        let sequence ← failedSequence env
        ledgerCall env (.fail "franka" sequence reason)))
      (fun _ => Unchanged v t₀) (fun _ _ _ => False) s t := by
    rw [wp_runIf]
    refine ⟨fun _ => ?_, fun _ => h⟩
    rw [wp_bind]
    refine wp_mono (wp_failedSequence h) (fun sequence s t h => ?_) fun _ _ _ h => h
    unfold ledgerCall
    refine keeps_preempt.wp_bind_total (total_update _) h fun _ s t h => ?_
    rw [wp_ofStep]
    -- the consumer's name is known, so the ledger takes the failure
    exact ⟨fun _ _ => h, fun e he => by cases he⟩
  rw [wp_bind]
  refine wp_mono hledger (fun _ s t h => ?_) fun _ _ _ h => h
  unfold gateCall
  refine keeps_preempt.wp_bind_total (total_update _) h fun _ s t h => ?_
  rw [wp_ofStep]
  exact ⟨fun _ _ => ⟨h, rfl⟩, fun e he => by cases he⟩

/-! ## The cleanup -/

def Held (transactional : Bool) (P : Boundary → View → SafetyState → Prop)
    (s : SessionState D S T W) (t : List (SessionEvent D)) : Prop :=
  ∃ c, Monitor.Accepts (BoundaryStep transactional) .start t c ∧ P c s.view s.safetyGate.state

variable {R : Boundary → View → SafetyState → Prop} {failure stopFailure : Option PyException}

theorem keeps_held_environment {α : Type} (f : W → Except PyException α × W) :
    Keeps (Held tr R) (environment (D := D) (S := S) (T := T) f) := keeps_ofStep fun _ _ h => h

theorem keeps_held_setTelemetry (f : FrankaTelemetry → FrankaTelemetry) :
    Keeps (Held tr R) (setTelemetry (D := D) (S := S) (T := T) (W := W) f) :=
  keeps_update fun _ _ h => h

/-- **A session that is being stopped** after the given failures, up to the given points. -/
structure Stopping (required : ℕ) (failure stopFailure : Option PyException)
    (requested closed verified : Bool) (c : Boundary) (v : View) (g : SafetyState) : Prop where
  state : v.state = .running
  opened : c.opened = v.backend
  backend : failure = none → v.backend = true
  due : c.due = none
  failed : c.failed = (failure.or stopFailure).isSome
  faulted : failure ≠ none → g = .faultLatched
  requested : c.stopRequested = requested
  closed : c.closed = closed
  verified : verified = true → c.failed = false → required ≤ c.streak

theorem Stopping.fail {required : ℕ} {requested closed verified : Bool} {c : Boundary} {v : View}
    {g : SafetyState} (h : Stopping required failure stopFailure requested closed verified c v g)
    (e : PyException) (verified' : Bool) :
    Stopping required failure (some (stopFailure.getD e)) requested closed verified'
      { c with failed := true } v g where
  state := h.state
  opened := h.opened
  backend := h.backend
  due := h.due
  failed := by rw [Option.isSome_or]; simp
  faulted := h.faulted
  requested := h.requested
  closed := h.closed
  verified _ hfailed := by cases hfailed

/-- **A step of the cleanup**: what it raises is a failure. -/
theorem wp_cleanupStep {required : ℕ} {requested closed verified : Bool}
    {m : SessionM D S T W Unit} {s : SessionState D S T W} {t : List (SessionEvent D)}
    (h : wp m
      (fun _ => Held tr (Stopping required failure stopFailure requested closed verified))
      (fun _ => Held tr (Stopping required failure stopFailure requested closed false)) s t) :
    wp (cleanupStep m stopFailure)
      (fun stopFailure =>
        Held tr (Stopping required failure stopFailure requested closed verified))
      (fun _ _ _ => False) s t := by
  unfold cleanupStep
  rw [wp_bind, wp_attempt]
  refine wp_mono h (fun _ s t h => ?_) fun e s t h => ?_
  · rw [wp_ret]
    exact h
  · simp only []
    obtain ⟨c, haccepts, hc⟩ := h
    rw [wp_bind, wp_emit, wp_ret]
    exact ⟨_, haccepts.snoc (.failed hc.due), hc.fail e verified⟩

theorem wp_finishMotion {required : ℕ} {s : SessionState D S T W} {t : List (SessionEvent D)}
    (h : Held tr (fun c v g => Stopping required failure none false false false c v g ∧
      c.finished = false) s t) :
    wp (finishMotion env failure)
      (fun stopFailure => Held tr (Stopping required failure stopFailure false false false))
      (fun _ _ _ => False) s t := by
  have hidle : Held tr (Stopping required failure none false false false) s t := by
    obtain ⟨c, haccepts, hc, -⟩ := h
    exact ⟨c, haccepts, hc⟩
  unfold finishMotion
  rw [wp_bind, wp_read]
  beta_reduce
  split
  · refine wp_cleanupStep ?_
    obtain ⟨c, haccepts, hc, hfinished⟩ := h
    have hactive : c.Active :=
      ⟨hc.opened.trans (hc.backend rfl), hc.failed, hfinished, hc.requested, hc.due⟩
    have hheld : Held tr (Stopping required none none false false false) s (t ++ [.finish]) :=
      ⟨_, haccepts.snoc (.finish hactive),
        { state := hc.state
          opened := hc.opened
          backend := hc.backend
          due := hc.due
          failed := hc.failed
          faulted := hc.faulted
          requested := hc.requested
          closed := hc.closed
          verified := nofun }⟩
    rw [wp_bind, wp_emit]
    refine (keeps_held_environment _).wp_bind hheld (fun _ s t h => ?_) fun _ _ _ h => h
    exact keeps_held_setTelemetry _ s t h
  · rw [wp_ret]
    exact hidle

/-- **The verification of a stop** counts the healthy idle samples that the boundary has seen. -/
theorem wp_verifyStop (remaining consecutive : ℕ) {s : SessionState D S T W}
    {t : List (SessionEvent D)}
    (h : Held tr (fun c v g => Stopping session.envelope.stopConsecutiveSamples failure stopFailure
      true false false c v g ∧ consecutive ≤ c.streak) s t) :
    wp (verifyStop session env remaining consecutive)
      (fun verified => Held tr
        (Stopping session.envelope.stopConsecutiveSamples failure stopFailure true false verified))
      (fun _ => Held tr
        (Stopping session.envelope.stopConsecutiveSamples failure stopFailure true false false))
      s t := by
  have stopping : ∀ {consecutive : ℕ} {s : SessionState D S T W} {t : List (SessionEvent D)},
      Held tr (fun c v g => Stopping session.envelope.stopConsecutiveSamples failure stopFailure
        true false false c v g ∧ consecutive ≤ c.streak) s t →
      Held tr (Stopping session.envelope.stopConsecutiveSamples failure stopFailure true false
        false) s t := by
    rintro consecutive s t ⟨c, haccepts, hc, -⟩
    exact ⟨c, haccepts, hc⟩
  induction remaining generalizing consecutive s t with
  | zero =>
    unfold verifyStop
    rw [wp_ret]
    exact stopping h
  | succ remaining ih =>
    unfold verifyStop
    refine (keeps_held_environment _).wp_bind h (fun state s t h => ?_) fun _ _ _ h => stopping h
    refine (keeps_held_setTelemetry _).wp_bind h (fun _ s t h => ?_) fun _ _ _ h => stopping h
    rw [wp_bind, wp_ofExcept]
    refine ⟨fun healthy _ => ?_, fun _ _ => stopping h⟩
    obtain ⟨c, haccepts, hc, hstreak⟩ := h
    rw [wp_bind, wp_emit]
    have hsampled : ∀ verified : Bool, (verified = true → c.failed = false →
          session.envelope.stopConsecutiveSamples ≤ if healthy = true then c.streak + 1 else 0) →
        Stopping session.envelope.stopConsecutiveSamples failure stopFailure true false verified
          { c with streak := if healthy = true then c.streak + 1 else 0 } s.view
          s.safetyGate.state := fun verified hverified =>
      { state := hc.state
        opened := hc.opened
        backend := hc.backend
        due := hc.due
        failed := hc.failed
        faulted := hc.faulted
        requested := hc.requested
        closed := hc.closed
        verified := hverified }
    have hstep : BoundaryStep (D := D) tr c (.postStop healthy)
        { c with streak := if healthy = true then c.streak + 1 else 0 } :=
      .postStop hc.requested hc.closed
    have haccepted := haccepts.snoc hstep
    rw [wp_ite]
    refine ⟨fun hhealthy => ?_, fun hunhealthy => ?_⟩
    · rw [wp_ite]
      refine ⟨fun hreached => ?_, fun _ => ih (consecutive + 1) ⟨_, haccepted, ?_⟩⟩
      · rw [wp_ret]
        refine ⟨_, haccepted, hsampled true fun _ _ => ?_⟩
        rw [if_pos hhealthy]
        omega
      · refine ⟨hsampled false nofun, ?_⟩
        simp only [hhealthy, if_true]
        omega
    · exact ih 0 ⟨_, haccepted, hsampled false nofun, Nat.zero_le _⟩

theorem wp_requestBackendStop {required : ℕ} {s : SessionState D S T W}
    {t : List (SessionEvent D)} (hbackend : s.locals.backend = true)
    (h : Held tr (Stopping required failure stopFailure false false false) s t) :
    wp (requestBackendStop env stopFailure)
      (fun stopFailure => Held tr (Stopping required failure stopFailure true false false))
      (fun _ _ _ => False) s t := by
  refine wp_cleanupStep ?_
  obtain ⟨c, haccepts, hc⟩ := h
  have hrequested : Held tr (Stopping required failure stopFailure true false false) s
      (t ++ [.requestStop]) :=
    ⟨_, haccepts.snoc (.requestStop (hc.opened.trans hbackend) hc.requested hc.due),
      { state := hc.state
        opened := hc.opened
        backend := hc.backend
        due := hc.due
        failed := hc.failed
        faulted := hc.faulted
        requested := rfl
        closed := hc.closed
        verified := nofun }⟩
  rw [wp_bind, wp_emit]
  refine (keeps_held_environment _).wp_bind hrequested (fun _ s t h => ?_) fun _ _ _ h => h
  exact keeps_held_setTelemetry _ s t h

theorem wp_verifyBackendStop {s : SessionState D S T W} {t : List (SessionEvent D)}
    (h : Held tr (Stopping session.envelope.stopConsecutiveSamples failure stopFailure
      true false false) s t) :
    wp (verifyBackendStop session env stopFailure)
      (fun stopFailure => Held tr
        (Stopping session.envelope.stopConsecutiveSamples failure stopFailure true false true))
      (fun _ _ _ => False) s t := by
  refine wp_cleanupStep ?_
  have hzero : Held tr (fun c v g => Stopping session.envelope.stopConsecutiveSamples failure
      stopFailure true false false c v g ∧ 0 ≤ c.streak) s t := by
    obtain ⟨c, haccepts, hc⟩ := h
    exact ⟨c, haccepts, hc, Nat.zero_le _⟩
  rw [wp_bind]
  refine wp_mono (wp_verifyStop session.envelope.stopMaximumSamples 0 hzero)
    (fun verified s t h => ?_) fun _ _ _ h => h
  unfold setTelemetry
  rw [wp_bind, wp_update, wp_check]
  refine ⟨fun hfalse => ?_, fun htrue => ?_⟩
  · rw [hfalse] at h
    exact h
  · rw [Bool.not_eq_false] at htrue
    rw [htrue] at h
    exact h

theorem wp_closeBackend {required : ℕ} {s : SessionState D S T W} {t : List (SessionEvent D)}
    (h : Held tr (Stopping required failure stopFailure true false true) s t) :
    wp (closeBackend env stopFailure)
      (fun stopFailure => Held tr (Stopping required failure stopFailure true true true))
      (fun _ _ _ => False) s t := by
  refine wp_cleanupStep ?_
  obtain ⟨c, haccepts, hc⟩ := h
  have hclosed : ∀ verified : Bool, (verified = true → c.failed = false → required ≤ c.streak) →
      Held tr (Stopping required failure stopFailure true true verified) s (t ++ [.close]) :=
    fun verified hverified =>
    ⟨_, haccepts.snoc (.close hc.requested hc.closed),
      { state := hc.state
        opened := hc.opened
        backend := hc.backend
        due := hc.due
        failed := hc.failed
        faulted := hc.faulted
        requested := hc.requested
        closed := rfl
        verified := hverified }⟩
  rw [wp_bind, wp_emit]
  unfold environment
  rw [wp_ofStep]
  exact ⟨fun _ _ => hclosed true hc.verified, fun _ _ => hclosed false nofun⟩

/-- **The cleanup has ended.** -/
structure CleanedUp (required : ℕ) (failure stopFailure : Option PyException) (c : Boundary)
    (v : View) (g : SafetyState) : Prop where
  closed : c.opened = true → c.stopRequested = true ∧ c.closed = true
  due : c.due = none
  failed : c.failed = (failure.or stopFailure).isSome
  faulted : failure ≠ none → g = .faultLatched
  verified : c.failed = false → required ≤ c.streak

/-- **A backend is stopped, verified and closed**, whatever raises. -/
theorem wp_stopBackend {s : SessionState D S T W} {t : List (SessionEvent D)}
    (h : Held tr (Stopping session.envelope.stopConsecutiveSamples failure stopFailure
      false false false) s t) :
    wp (stopBackend session env stopFailure)
      (fun stopFailure => Held tr
        (CleanedUp session.envelope.stopConsecutiveSamples failure stopFailure))
      (fun _ _ _ => False) s t := by
  unfold stopBackend
  rw [wp_bind, wp_read]
  beta_reduce
  rw [wp_ite]
  refine ⟨fun hbackend => ?_, fun hnone => ?_⟩
  · rw [wp_bind]
    refine wp_mono (wp_requestBackendStop hbackend h) (fun _ s t h => ?_) fun _ _ _ h => h
    rw [wp_bind]
    refine wp_mono (wp_verifyBackendStop h) (fun _ s t h => ?_) fun _ _ _ h => h
    refine wp_mono (wp_closeBackend h) (fun _ s t h => ?_) fun _ _ _ h => h
    obtain ⟨c, haccepts, hc⟩ := h
    exact ⟨c, haccepts, fun _ => ⟨hc.requested, hc.closed⟩, hc.due, hc.failed, hc.faulted,
      hc.verified rfl⟩
  · rw [wp_ret]
    obtain ⟨c, haccepts, hc⟩ := h
    refine ⟨c, haccepts, fun hopened => absurd (hc.opened.symm.trans hopened) hnone, hc.due,
      hc.failed, hc.faulted, fun hfailed => ?_⟩
    -- a session without a backend has failed
    rw [hc.failed] at hfailed
    have hnofailure : failure = none := by
      cases failure with
      | none => rfl
      | some e => cases hfailed
    exact absurd (hc.backend hnofailure) hnone

/-- **The `finally` clause** ends the session with what the boundary has seen. -/
theorem wp_conclude {s : SessionState D S T W} {t : List (SessionEvent D)}
    (h : Held tr (fun c v g => Stopping session.envelope.stopConsecutiveSamples failure none
      false false false c v g ∧ c.finished = false) s t) :
    wp (conclude session env failure)
      (fun _ s t => ∃ c, Monitor.Accepts (BoundaryStep tr) .start t c ∧ Ended session c s)
      (fun _ _ _ => False) s t := by
  unfold conclude
  rw [wp_bind]
  refine wp_mono (wp_finishMotion h) (fun finishFailure s t h => ?_) fun _ _ _ h => h
  rw [wp_bind]
  refine wp_mono (wp_stopBackend h) (fun stopFailure s t h => ?_) fun _ _ _ h => h
  obtain ⟨c, haccepts, hc⟩ := h
  have hstop : wp (handleStop session env stopFailure)
      (fun _ s' t' => t' = t ∧ (c.failed = true → s'.safetyGate.state = .faultLatched))
      (fun _ _ _ => False) s t := by
    unfold handleStop
    cases stopFailure with
    | none =>
      rw [wp_ret]
      refine ⟨rfl, fun hfailed => hc.faulted ?_⟩
      rw [hc.failed, Option.or_none] at hfailed
      rintro rfl
      cases hfailed
    | some e =>
      unfold handleStopFailure setTelemetry
      simp only []
      rw [wp_bind, wp_update, wp_bind, wp_read]
      beta_reduce
      have hunchanged := fun (telemetry : FrankaTelemetry) => show Unchanged s.view t
        { s with telemetry := telemetry } t from ⟨rfl, rfl⟩
      refine wp_mono (wp_latchFault _ (hunchanged _)) (fun _ s' t' h => ?_) fun _ _ _ h => h
      exact ⟨h.1.2, fun _ => h.2⟩
  rw [wp_bind]
  refine wp_mono hstop (fun _ s' t' h => ?_) fun _ _ _ h => h
  obtain ⟨rfl, hgate⟩ := h
  simp only []
  rw [wp_bind, wp_update, wp_ret]
  refine ⟨c, haccepts, hc.closed, hc.due, ?_, hc.verified, fun hfailed => ⟨?_, hgate hfailed⟩⟩
  · rw [hc.failed]
    cases failure.or stopFailure with
    | none => exact ⟨fun _ => rfl, fun _ => by simp only [if_true]⟩
    | some e => exact ⟨fun hstate => by simp at hstate, nofun⟩
  · rw [hc.failed] at hfailed
    cases hor : failure.or stopFailure with
    | none =>
      rw [hor] at hfailed
      cases hfailed
    | some e => simp only [reduceCtorEq, if_false]

/-! ## The write boundary -/

def HasEnded (session : FrankaPersistentSession D T) (transactional : Bool)
    (s : SessionState D S T W) (t : List (SessionEvent D)) : Prop :=
  ∃ c, Monitor.Accepts (BoundaryStep transactional) .start t c ∧ Ended session c s

theorem keeps_outcome {I : SessionState D S T W → List (SessionEvent D) → Prop}
    (failure : Option PyException) : Keeps I (outcome failure) := by
  unfold outcome
  cases failure with
  | none => exact keeps_ret _
  | some e => exact Keeps.ite (keeps_fail _) (keeps_fail _)

def Progress (session : FrankaPersistentSession D T) (transactional : Bool) (ended : Bool)
    (s : SessionState D S T W) (t : List (SessionEvent D)) : Prop :=
  if ended = true then HasEnded session transactional s t else Within transactional Running s t

theorem wp_outcome_ended {s : SessionState D S T W} {t : List (SessionEvent D)}
    (failure : Option PyException) (h : HasEnded session tr s t) :
    wp (do
        outcome failure
        ret true) (Progress session tr) (fun _ => HasEnded session tr) s t := by
  refine (keeps_outcome failure).wp_bind h (fun _ s t h => ?_) fun _ _ _ h => h
  rw [wp_ret]
  exact h

/-- **A failure of the loop** is latched, and the session is cleaned up. -/
theorem wp_failedLoop {s : SessionState D S T W} {t : List (SessionEvent D)} (e : PyException)
    (h : Within tr Idle s t) :
    wp (do
        emit .failed
        let handled ← attempt (handleFailure session env e)
        let failure ← conclude session env (some e)
        ofExcept handled
        outcome failure
        ret true)
      (Progress session tr) (fun _ => HasEnded session tr) s t := by
  obtain ⟨c, haccepts, hidle⟩ := h
  have haccepted := haccepts.snoc (.failed hidle.due)
  have hhandled : wp (handleFailure session env e)
      (fun _ s' t' => Unchanged s.view (t ++ [.failed]) s' t' ∧
        s'.safetyGate.state = .faultLatched) (fun _ _ _ => False) s (t ++ [.failed]) := by
    unfold handleFailure setTelemetry
    rw [wp_bind, wp_update]
    exact wp_latchFault _ ⟨rfl, rfl⟩
  rw [wp_bind, wp_emit, wp_bind, wp_attempt]
  refine wp_mono hhandled (fun _ s' t' h => ?_) fun _ _ _ h => h.elim
  obtain ⟨⟨hview, rfl⟩, hgate⟩ := h
  have hstopping : Held tr (fun c v g => Stopping session.envelope.stopConsecutiveSamples (some e)
      none false false false c v g ∧ c.finished = false) s' (t ++ [.failed]) :=
    ⟨_, haccepted,
      { state := (congrArg View.state hview).trans hidle.state
        opened := hidle.opened.trans (congrArg View.backend hview).symm
        backend := nofun
        due := hidle.due
        failed := rfl
        faulted := fun _ => hgate
        requested := hidle.stopRequested
        closed := hidle.closed
        verified := nofun }, hidle.finished⟩
  rw [wp_bind]
  refine wp_mono (wp_conclude hstopping) (fun failure s t h => ?_) fun _ _ _ h => h.elim
  refine (keeps_ofExcept _).wp_bind h (fun _ s t h => ?_) fun _ _ _ h => h
  exact wp_outcome_ended failure h

/-- **A session that was set running** stays within the boundary; when it has ended, the boundary
has seen its end. -/
theorem wp_runActive {s : SessionState D S T W} {t : List (SessionEvent D)}
    (htr : tr = isTransactionalPolicyMode session.mode) (token : FrankaPreflightToken D)
    (sessionStart : D) (maximumCycles : Option ℕ) (fuel : ℕ) (h : Within tr Starting s t) :
    wp (runActive session env token sessionStart maximumCycles fuel)
      (Progress session tr) (fun _ => HasEnded session tr) s t := by
  unfold runActive
  rw [wp_bind, wp_attempt, wp_bind]
  refine wp_mono (wp_openBackend h) (fun _ s t h => ?_) fun e s t h => ?_
  · refine wp_mono (wp_controlLoop htr token sessionStart maximumCycles fuel h)
      (fun ended s t h => ?_) fun e s t h => ?_
    · cases ended with
      | false =>
        simp only []
        rw [wp_ret]
        exact h.mono fun _ _ h => h.1.1
      | true =>
        simp only []
        obtain ⟨c, haccepts, hidle, hcarries⟩ := h
        have hstopping : Held tr (fun c v g => Stopping session.envelope.stopConsecutiveSamples
            none none false false false c v g ∧ c.finished = false) s t :=
          ⟨c, haccepts,
            { state := hidle.state
              opened := hidle.opened
              backend := fun _ => hcarries.backend
              due := hidle.due
              failed := hidle.failed
              faulted := fun hne => absurd rfl hne
              requested := hidle.stopRequested
              closed := hidle.closed
              verified := nofun }, hidle.finished⟩
        rw [wp_bind]
        refine wp_mono (wp_conclude hstopping) (fun failure s t h => ?_) fun _ _ _ h => h.elim
        exact wp_outcome_ended failure h
    · simp only []
      exact wp_failedLoop e h
  · simp only []
    exact wp_failedLoop e h

theorem keeps_requireAuthorized (authorization : MotionAuthorization D)
    (token : FrankaPreflightToken D) (now : D) :
    Keeps (Unchanged v t₀) (requireAuthorized session env authorization token now) := by
  unfold requireAuthorized
  refine (keeps_ofExcept _).bind fun _ => (keeps_check _ _).bind fun _ => ?_
  refine (keeps_check _ _).bind fun _ => (keeps_check _ _).bind fun _ => ?_
  refine (keeps_ofExcept _).bind fun _ => keeps_look.bind fun _ => ?_
  refine (keeps_check _ _).bind fun _ => keeps_look.bind fun _ => ?_
  exact (keeps_check _ _).bind fun _ => keeps_gateCall _

/-- **A run is admitted or refused** before it changes anything of the session. -/
theorem keeps_admitRun (authorization : MotionAuthorization D) (token : FrankaPreflightToken D) :
    Keeps (Unchanged v t₀) (admitRun session env authorization token) := by
  unfold admitRun validateBoundary
  refine keeps_monotonicNow.bind fun now => Keeps.bind (Keeps.ite ?_ ?_) fun _ =>
    (keeps_check _ _).bind fun _ => keeps_ret _
  · unfold validateBootstrapAuthorizedBoundary
    refine (keeps_check _ _).bind fun _ => (keeps_requireAuthorized _ _ _).bind fun _ => ?_
    refine keeps_look.bind fun _ => (keeps_check _ _).bind fun _ => ?_
    refine keeps_look.bind fun _ => (keeps_check _ _).bind fun _ => ?_
    exact keeps_look.bind fun _ => keeps_check _ _
  · unfold validateAuthorizedBoundary
    refine (keeps_requireAuthorized _ _ _).bind fun _ => keeps_look.bind fun s => ?_
    refine (keeps_ofExcept _).bind fun target => (keeps_check _ _).bind fun _ => ?_
    refine Keeps.runIf _ (keeps_look.bind fun s => (keeps_check _ _).bind fun _ => ?_)
    exact keeps_look.bind fun s => keeps_check _ _

/-- **The write boundary of the reference session.** For every backend, clock and other threads,
and however many control cycles are taken, a call of `run` is either refused before a backend is
created, without an event and with the session's state unchanged; or its trace is accepted by the
boundary: at most one write answers a read, no write and no finish follows a failure, each sequence
is acknowledged once, in order, when its first write has returned in time, the stop is requested
once and the backend closed once. When the session has ended, a backend was stopped and closed, the
session is stopped exactly if nothing has failed, and then the required healthy idle samples were the
last ones after the stop request; else the session and its safety gate are latched. -/
theorem run_write_boundary (session : FrankaPersistentSession D T) (env : SessionWorld D S T W)
    (authorization : MotionAuthorization D) (token : FrankaPreflightToken D)
    (maximumCycles : Option ℤ) (fuel : ℕ) (s : SessionState D S T W) :
    wp (run session env authorization token maximumCycles fuel)
      (fun ended s' t => Progress session (isTransactionalPolicyMode session.mode) ended s' t)
      (fun _ s' t => (s'.state = s.state ∧ t = []) ∨
        HasEnded session (isTransactionalPolicyMode session.mode) s' t) s [] := by
  have hrefused : ∀ {s' : SessionState D S T W} {t' : List (SessionEvent D)},
      Unchanged s.view [] s' t' → (s'.state = s.state ∧ t' = []) ∨
        HasEnded session (isTransactionalPolicyMode session.mode) s' t' :=
    fun h => .inl ⟨congrArg View.state h.1, h.2⟩
  have hstart : Unchanged s.view [] s [] := ⟨rfl, rfl⟩
  unfold run
  refine (keeps_ofExcept _).wp_bind hstart (fun maximum s₁ t₁ h₁ => ?_) fun _ _ _ => hrefused
  refine (keeps_admitRun _ _).wp_bind h₁ (fun now s₂ t₂ h₂ => ?_) fun _ _ _ => hrefused
  unfold setRunningOnce
  rw [wp_bind, wp_bind, wp_read]
  beta_reduce
  rw [wp_bind, wp_check]
  refine ⟨fun _ => hrefused h₂, fun _ => ?_⟩
  rw [wp_update]
  obtain ⟨-, rfl⟩ := h₂
  refine wp_mono (wp_runActive rfl token now maximum fuel ⟨.start, .start, rfl, rfl⟩)
    (fun _ _ _ h => h) fun _ _ _ h => .inr h

/-! ## A refused run -/

def perJoint (x : ℚ) : Vec 7 Binary64 := fun _ => FloatArith.ofRat x

def benchEnvelope : FrankaEnvelope Binary64 where
  profileSha256 := "profile"
  bindingSha256 := "binding"
  experimentalSupervised := false
  expectedFTEE := identityMatrix 4
  expectedEndEffectorMassKg := FloatArith.one
  expectedEndEffectorComM _ := FloatArith.zero
  expectedEndEffectorInertiaKgM2 := identityMatrix 3
  expectedExternalLoadMassKg := FloatArith.zero
  expectedExternalLoadComM _ := FloatArith.zero
  expectedExternalLoadInertiaKgM2 _ _ := FloatArith.zero
  fTEETolerance := FloatArith.ofRat (1 / 1000)
  massToleranceKg := FloatArith.ofRat (1 / 1000)
  centerOfMassToleranceM := FloatArith.ofRat (1 / 1000)
  inertiaToleranceKgM2 := FloatArith.ofRat (1 / 1000)
  jointLowerRad := perJoint (-2)
  jointUpperRad := perJoint 2
  jointLimitMarginRad := FloatArith.ofRat (1 / 10)
  maximumVelocityRadS := perJoint 1
  maximumTargetRateRadS := perJoint 1
  maximumAccelerationRadS2 := perJoint 5
  maximumJerkRadS3 := perJoint 100
  maximumMeasuredAccelerationRadS2 := perJoint 5
  maximumMeasuredJerkRadS3 := perJoint 100
  maximumTrackingErrorRad := perJoint (1 / 10)
  initialTargetToleranceRad := perJoint (1 / 100)
  targetReachedToleranceRad := perJoint (1 / 100)
  controlPeriodMinS := FloatArith.ofRat (1 / 1000)
  controlPeriodMaxS := FloatArith.ofRat (3 / 1000)
  policyCommandMaxAgeS := FloatArith.ofRat (1 / 10)
  readToWriteDeadlineS := FloatArith.ofRat (1 / 2000)
  minimumControlSuccessRate := FloatArith.ofRat (9 / 10)
  maximumSessionDurationS := FloatArith.one
  stopMaximumVelocityRadS := perJoint (1 / 100)
  stopConsecutiveSamples := 3
  stopMaximumSamples := 100
  poseRingCapacity := 64
  allowOneInitialZeroPeriod := true
  stopConsecutiveSamples_pos := by decide
  poseRingCapacity_two := by decide

def benchSession : FrankaPersistentSession Binary64 Unit where
  runId := "bench"
  mode := .c1Commissioning
  envelope := benchEnvelope
  backendInjected := true
  actionContract := .legacy
  enableBootstrap := false
  guards := none
  owner := ()
  np := ⟨id, fun _ => FloatArith.one, id⟩
  bootstrap_mode := nofun
  guards_mode := by decide
  contract_mode _ := rfl
  episode_limit := nofun

def benchWorld : SessionWorld Binary64 Binary32 Unit Unit where
  preempt w := ([], w)
  monotonic w := (.ok (some FloatArith.zero), w)
  realtime w := (.ok (some FloatArith.zero), w)
  backendFactory w := (.ok true, w)
  startJointPositionSession w := (.ok true, w)
  readOnce w := (.error (sessionError "no state"), w)
  writeOnce _ _ w := (.ok (), w)
  hasBootstrapWriter w := (.ok true, w)
  writeBootstrapHold _ w := (.ok (), w)
  finish _ w := (.ok (), w)
  requestStop w := (.ok (), w)
  readPostStopState w := (.error (sessionError "no state"), w)
  close w := (.ok (), w)

def benchToken : FrankaPreflightToken Binary64 where
  supervised := false
  runId := "bench"
  stage := .c1Commissioning
  profileSha256 := "profile"
  envelopeSha256 := "binding"
  issuedMonotonicS := FloatArith.zero
  expiresMonotonicS := FloatArith.one

def benchState : SessionState Binary64 Binary32 Unit Unit where
  world := ()
  safetyGate :=
    { ClosedLoopSafetyGate.fresh with
      state := .armed
      deadmanAsserted := some true
      estopHealthy := some true
      authorization := some benchAuthorization }
  actionLedger := .fresh FloatArith.one (zeroVec 13)
  targetHold := none
  cleanStop := false
  state := .disabled
  bootstrapReady := false
  poseRing := []
  telemetry := .init
  lastTelemetry := none
  locals := .init false

def hasRaised : Except PyException Bool → Bool
  | .ok _ => false
  | .error _ => true

/-- **A run without a target is refused**: it raises, and the session is neither stopped nor
fault-latched; its gate is still armed. -/
theorem refused_run_stays_disabled :
    let out := run benchSession benchWorld benchAuthorization benchToken none 5 benchState
    hasRaised out.1 = true ∧ out.2.1.state = .disabled ∧ out.2.1.safetyGate.state = .armed ∧
      out.2.2 = [] := by
  decide +kernel

end FrankaDeploy.PersistentSession
