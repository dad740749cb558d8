import FrankaDeploy.CartesianSegment.SegmentWatch

/-! # A segment follows its protocol

Between a read and its answer nothing is emitted unless a check fails, so a cycle is followed
statement by statement with a fixed trace; `wp_writePose` is the one place where a command goes
out. The facts about the variables are stated of the `Course`, the part of them that the
bookkeeping of the telemetry leaves alone. -/

namespace FrankaDeploy.CartesianSegment

open FrankaDeploy.Foundation
open FrankaDeploy.Foundation.Program
open FloatArith (ofRat isFinite zero one stdMin)
open scoped FloatArith

/-! ## The course of a segment -/

/-- **The variables that decide what a segment does.** -/
structure Course where
  reads : ℕ
  positivePeriodWrites : ℕ
  successQualified : Bool
  qualificationControlTimeS : Binary64
  successWindow : SuccessWindow Binary64
  wallStart : ℤ
  allowInitialZeroPeriod : Bool
  interpolation : Option (PreparedInterpolation Binary64)
  trajectoryElapsed : Binary64
  endpointElapsed : Binary64
  endpointStableElapsed : Binary64

variable {W : Type}

def SegmentState.course (s : SegmentState W Binary64) : Course where
  reads := s.telemetry.reads
  positivePeriodWrites := s.telemetry.positivePeriodWrites
  successQualified := s.telemetry.successQualified
  qualificationControlTimeS := s.telemetry.qualificationControlTimeS
  successWindow := s.successWindow
  wallStart := s.wallStart
  allowInitialZeroPeriod := s.allowInitialZeroPeriod
  interpolation := s.interpolation
  trajectoryElapsed := s.trajectoryElapsed
  endpointElapsed := s.endpointElapsed
  endpointStableElapsed := s.endpointStableElapsed

def Course.phase (c : Course) : SegmentPhase Binary64 :=
  match c.successQualified, c.interpolation with
  | true, some interpolation =>
    .moving interpolation.start c.trajectoryElapsed c.endpointElapsed c.endpointStableElapsed
  | _, interpolation =>
    .holding (interpolation.map PreparedInterpolation.start) c.positivePeriodWrites
      c.qualificationControlTimeS

theorem Course.phase_live (c : Course) : c.phase.Live := by
  unfold Course.phase
  split <;> trivial

section Program

variable (libm : Libm Binary64) (env : ControlEnvironment W Binary64)
  (plannedStart target : Pose Binary64) (config : CartesianSegmentConfig Binary64)
  (wallStart : ℤ)

/-- **What the variables of a course have to do with each other.** -/
structure Course.Sound (c : Course) : Prop where
  qualified : c.successQualified = true → c.interpolation.isSome = true ∧ c.reads ≠ 0
  fresh : c.successQualified = false → c.trajectoryElapsed = zero ∧ c.endpointElapsed = zero ∧
    c.endpointStableElapsed = zero
  prepared : ∀ interpolation, c.interpolation = some interpolation →
    PreparedInterpolation.make libm interpolation.start target = .ok interpolation
  wellTimed : c.successWindow.WellTimed
  wall : c.wallStart = wallStart

def LiveAt (t : List (SegmentEvent Binary64)) : Prop :=
  ∃ m, Watched libm target config wallStart t m ∧ m.phase.Live

/-- **What an exception leaves**: a failure that ended the protocol, or another exception, which
the outer handler turns into one. -/
def Thrown (e : SegmentThrown Binary64) (_ : SegmentState W Binary64)
    (t : List (SegmentEvent Binary64)) : Prop :=
  match e with
  | .segment _ => ∃ m, Watched libm target config wallStart t m ∧ m.phase = .failed
  | .other _ => LiveAt libm target config wallStart t
  | .diverged => False

variable {libm target config wallStart}
variable {α : Type} {Q : α → SegmentState W Binary64 → List (SegmentEvent Binary64) → Prop}
  {R : Unit → SegmentState W Binary64 → List (SegmentEvent Binary64) → Prop}
  {s : SegmentState W Binary64} {t : List (SegmentEvent Binary64)}

/-! ## Statements that do not write -/

theorem wp_failSegment_of {E : SegmentThrown Binary64 → SegmentState W Binary64 →
      List (SegmentEvent Binary64) → Prop} (hlive : LiveAt libm target config wallStart t)
    (code : CartesianSegmentFailureCode) (message : String)
    (h : ∀ error t', (∃ m, Watched libm target config wallStart t' m ∧ m.phase = .failed) →
      E (.segment error) s t') :
    wp (failSegment code message : Segment W Binary64 α) Q E s t := by
  obtain ⟨m, hm, hphase⟩ := hlive
  unfold failSegment
  rw [wp_bind, wp_read]
  beta_reduce
  rw [wp_bind, wp_emit]
  beta_reduce
  rw [wp_fail]
  exact h _ _ ⟨_, hm.snoc (.failed code hphase), rfl⟩

theorem wp_failSegment (hlive : LiveAt libm target config wallStart t)
    (code : CartesianSegmentFailureCode) (message : String) :
    wp (failSegment code message : Segment W Binary64 α) Q
      (Thrown libm target config wallStart) s t :=
  wp_failSegment_of hlive code message fun _ _ hfailed => hfailed

theorem wp_failIf {c : Prop} [Decidable c] {code : CartesianSegmentFailureCode} {message : String}
    (hlive : LiveAt libm target config wallStart t) (h : ¬c → R () s t) :
    wp (failIf c code message : Segment W Binary64 Unit) R
      (Thrown libm target config wallStart) s t := by
  unfold failIf
  rw [wp_runIf]
  exact ⟨fun _ => wp_failSegment hlive code message, h⟩

theorem wp_orThrow {r : Except String α} (hlive : LiveAt libm target config wallStart t)
    (h : ∀ a, r = .ok a → Q a s t) :
    wp (orThrow r : Segment W Binary64 α) Q (Thrown libm target config wallStart) s t := by
  cases r with
  | ok a =>
    unfold orThrow
    rw [wp_ret]
    exact h a rfl
  | error what =>
    unfold orThrow
    rw [wp_fail]
    exact hlive

theorem wp_requireNoFault {fault : Fault} (hlive : LiveAt libm target config wallStart t)
    (h : fault = none → R () s t) :
    wp (requireNoFault fault : Segment W Binary64 Unit) R
      (Thrown libm target config wallStart) s t := by
  cases fault with
  | none =>
    unfold requireNoFault
    rw [wp_ret]
    exact h rfl
  | some f => exact wp_failSegment hlive f.1 f.2

theorem wp_orControlIo {label : String} {r : Except String α}
    (hlive : LiveAt libm target config wallStart t) (h : ∀ a, r = .ok a → Q a s t) :
    wp (orControlIo label r : Segment W Binary64 α) Q
      (Thrown libm target config wallStart) s t := by
  cases r with
  | ok a =>
    unfold orControlIo
    rw [wp_ret]
    exact h a rfl
  | error what => exact wp_failSegment hlive _ _

theorem wp_ofWorld {E : SegmentThrown Binary64 → SegmentState W Binary64 →
      List (SegmentEvent Binary64) → Prop} (f : W → α × W)
    (h : ∀ w, Q (f s.world).1 { s with world := w } t) :
    wp (ofStep fun s : SegmentState W Binary64 =>
      (.ok (f s.world).1, { s with world := (f s.world).2 })) Q E s t := by
  rw [wp_ofStep]
  refine ⟨?_, ?_⟩
  · rintro a ha
    cases ha
    exact h _
  · rintro e he
    cases he

/-! ## Writes -/

/-- **A write**: the monitor takes the command, and the answer of the handle decides whether the
segment goes on. -/
theorem wp_writePose {phase next : SegmentPhase Binary64} {reading : Reading Binary64} {reads : ℕ}
    {pose : Pose Binary64} {finished : Bool} {cycleStart : ℤ}
    (hwatched : Watched libm target config wallStart t ⟨phase, .answering reading, reads⟩)
    (hlive : phase.Live)
    (hstep : SegmentStep libm target config wallStart ⟨phase, .answering reading, reads⟩
      (.write pose finished) ⟨phase, .writing next, reads⟩)
    (h : ∀ s' t', s'.course = s.course →
      Watched libm target config wallStart t' ⟨next, .idle, reads⟩ → R () s' t') :
    wp (writePose env config pose finished cycleStart) R
      (Thrown libm target config wallStart) s t := by
  have hwriting := hwatched.snoc hstep
  unfold writePose callHandle
  rw [wp_bind, wp_emit]
  beta_reduce
  rw [wp_bind]
  refine wp_ofWorld (fun w => env.writeOnce pose finished w) fun w => ?_
  rw [wp_bind]
  refine wp_orControlIo ⟨_, hwriting, hlive⟩ fun _ _ => ?_
  unfold updateTelemetry updateWriteTiming clockNow updateTelemetry
  rw [wp_bind, wp_update]
  beta_reduce
  rw [wp_bind, wp_emit]
  beta_reduce
  rw [wp_bind]
  refine wp_ofWorld (fun w => env.now w) fun w => ?_
  rw [wp_update]
  exact h _ _ rfl (hwriting.snoc .written)

/-! ## Cycles -/

variable (libm target config wallStart) in
/-- **Between two rounds of the loop**, after `n` reads, the protocol waits for a read in the phase
of the variables. -/
structure Head (n : ℕ) (s : SegmentState W Binary64) (t : List (SegmentEvent Binary64)) :
    Prop where
  count : s.course.reads = n
  sound : s.course.Sound libm target wallStart
  first : s.course.allowInitialZeroPeriod = decide (s.course.reads = 0)
  watched : Watched libm target config wallStart t ⟨s.course.phase, .idle, s.course.reads⟩

variable (libm target config wallStart) in
/-- **A checked read that waits for its answer**: `c` are the variables at the beginning of the
round, `interpolation` is the one that it uses. -/
structure Answering (c : Course) (interpolation : PreparedInterpolation Binary64)
    (r : Reading Binary64) (s : SegmentState W Binary64) (t : List (SegmentEvent Binary64)) :
    Prop where
  sound : c.Sound libm target wallStart
  course : s.course = { c with
    reads := c.reads + 1
    allowInitialZeroPeriod := false
    interpolation := some interpolation }
  start : interpolation.start =
    heldPose (c.interpolation.map PreparedInterpolation.start) r
  kept : ∀ i, c.interpolation = some i → interpolation = i
  prepared : PreparedInterpolation.make libm interpolation.start target = .ok interpolation
  admissible : r.Admissible config wallStart (decide (c.reads + 1 = 1))
  watched : Watched libm target config wallStart t ⟨c.phase, .answering r, c.reads + 1⟩

theorem Answering.live {c : Course} {interpolation : PreparedInterpolation Binary64}
    {r : Reading Binary64} (h : Answering libm target config wallStart c interpolation r s t) :
    LiveAt libm target config wallStart t :=
  ⟨_, h.watched, c.phase_live⟩

def Course.holding (c : Course) : SegmentPhase Binary64 :=
  .holding (c.interpolation.map PreparedInterpolation.start) c.positivePeriodWrites
    c.qualificationControlTimeS

theorem Course.phase_of_not_qualified {c : Course} (h : c.successQualified = false) :
    c.phase = c.holding := by
  unfold Course.phase Course.holding
  rw [h]

theorem Course.phase_of_qualified {c : Course} {interpolation : PreparedInterpolation Binary64}
    (h : c.successQualified = true) (hi : c.interpolation = some interpolation) :
    c.phase = .moving interpolation.start c.trajectoryElapsed c.endpointElapsed
      c.endpointStableElapsed := by
  unfold Course.phase
  rw [h, hi]

theorem Answering.hold {c : Course} {interpolation : PreparedInterpolation Binary64}
    {r : Reading Binary64} (h : Answering libm target config wallStart c interpolation r s t)
    (hbefore : ¬ StartupTimedOut config (advance c.qualificationControlTimeS r.dt)
      (r.wallElapsed wallStart)) :
    SegmentStep libm target config wallStart ⟨c.holding, .answering r, c.reads + 1⟩
      (.write interpolation.start false)
      ⟨c.holding, .writing (.holding (some interpolation.start)
        (c.positivePeriodWrites + if r.dt > zero then 1 else 0)
        (advance c.qualificationControlTimeS r.dt)), c.reads + 1⟩ := by
  rw [h.start]
  exact .hold h.admissible hbefore

theorem Answering.qualify {c : Course} {interpolation : PreparedInterpolation Binary64}
    {r : Reading Binary64} (h : Answering libm target config wallStart c interpolation r s t)
    (hcandidate : r.Qualifies config wallStart c.positivePeriodWrites
      c.qualificationControlTimeS) :
    SegmentStep libm target config wallStart ⟨c.holding, .answering r, c.reads + 1⟩
      (.write interpolation.start false)
      ⟨c.holding, .writing (.moving interpolation.start zero zero zero), c.reads + 1⟩ := by
  rw [h.start]
  exact .qualify h.admissible hcandidate

theorem wp_countPositive {dt : Binary64} {E : SegmentThrown Binary64 → SegmentState W Binary64 →
      List (SegmentEvent Binary64) → Prop}
    (h : ∀ s', s'.course = { s.course with
        positivePeriodWrites := s.course.positivePeriodWrites + if dt > zero then 1 else 0 } →
      R () s' t) :
    wp (runIf (dt > zero) (updateTelemetry fun telemetry => { telemetry with
      positivePeriodWrites := telemetry.positivePeriodWrites + 1 }) : Segment W Binary64 Unit)
      R E s t := by
  unfold updateTelemetry
  rw [wp_runIf, wp_update]
  constructor
  · intro hdt
    refine h _ ?_
    rw [if_pos hdt]
    rfl
  · intro hdt
    refine h s ?_
    rw [if_neg hdt]
    rfl

theorem wp_completeQualification {success : Binary64}
    (hlive : LiveAt libm target config wallStart t)
    (h : ∀ s', s'.course = { s.course with successQualified := true } → R () s' t) :
    wp (completeQualification env config success) R
      (Thrown libm target config wallStart) s t := by
  unfold completeQualification clockNow updateTelemetry
  rw [wp_bind]
  refine wp_ofWorld (fun w => env.now w) fun w => ?_
  rw [wp_bind, wp_update]
  beta_reduce
  rw [wp_bind, wp_read]
  beta_reduce
  rw [wp_bind, wp_update]
  beta_reduce
  exact wp_failIf hlive fun _ => h _ rfl

/-- **A cycle before the qualification** leaves the loop at its head. -/
theorem wp_qualificationCycle {c : Course} {interpolation : PreparedInterpolation Binary64}
    {r : Reading Binary64} (h : Answering libm target config wallStart c interpolation r s t)
    (hq : c.successQualified = false) :
    wp (qualificationCycle env config interpolation r.state.controlCommandSuccessRate r.dt
        (r.wallElapsed wallStart) r.cycleStart)
      (fun _ => Head libm target config wallStart (c.reads + 1))
      (Thrown libm target config wallStart) s t := by
  have hcourse := h.course
  have hwatched := h.watched
  rw [Course.phase_of_not_qualified hq] at hwatched
  unfold qualificationCycle
  unfold updateTelemetry
  rw [wp_bind, wp_update]
  beta_reduce
  rw [wp_bind, wp_read]
  beta_reduce
  generalize hs : ({ s with telemetry := _ } : SegmentState W Binary64) = s₁
  have hcourse₁ : s₁.course = { c with
      reads := c.reads + 1
      allowInitialZeroPeriod := false
      interpolation := some interpolation
      qualificationControlTimeS := advance c.qualificationControlTimeS r.dt } := by
    rw [← hs]
    show { s.course with
      qualificationControlTimeS := advance s.course.qualificationControlTimeS r.dt } = _
    rw [hcourse]
  have hpositive : s₁.telemetry.positivePeriodWrites = c.positivePeriodWrites :=
    congrArg Course.positivePeriodWrites hcourse₁
  have htime : s₁.telemetry.qualificationControlTimeS =
      advance c.qualificationControlTimeS r.dt :=
    congrArg Course.qualificationControlTimeS hcourse₁
  rw [hpositive, htime, wp_bind]
  refine wp_failIf h.live fun htimely => ?_
  rw [wp_bind]
  refine wp_failIf h.live fun _ => ?_
  rw [wp_bind]
  by_cases hcandidate : r.Qualifies config wallStart c.positivePeriodWrites
      c.qualificationControlTimeS
  · -- The qualifying read: the motion starts with the next one.
    obtain ⟨htrajectory, hendpoint, hstable⟩ := h.sound.fresh hq
    refine wp_writePose env hwatched trivial (h.qualify hcandidate) fun s₂ t₂ hcourse₂ hwatched₂ => ?_
    rw [wp_bind]
    refine wp_countPositive fun s₃ hcourse₃ => ?_
    rw [wp_runIf]
    refine ⟨fun _ => ?_, fun hnot => absurd
      (decide_eq_true (show IsCandidate _ _ _ _ _ _ from hcandidate)) hnot⟩
    refine wp_completeQualification env ⟨_, hwatched₂, trivial⟩ fun s₄ hcourse₄ => ?_
    rw [hcourse₃, hcourse₂, hcourse₁] at hcourse₄
    refine ⟨?_, ?_, ?_, ?_⟩
    · rw [hcourse₄]
    · rw [hcourse₄]
      refine ⟨fun _ => ⟨rfl, Nat.succ_ne_zero _⟩, fun hfalse => (by cases hfalse), ?_,
        h.sound.wellTimed, h.sound.wall⟩
      rintro i hi
      cases hi
      exact h.prepared
    · rw [hcourse₄]
      exact (decide_eq_false (Nat.succ_ne_zero _)).symm
    · have hphase : s₄.course.phase = .moving interpolation.start zero zero zero := by
        rw [hcourse₄, Course.phase_of_qualified rfl rfl, htrajectory, hendpoint, hstable]
      rw [hphase, hcourse₄]
      exact hwatched₂
  · have hdecide : decide (IsCandidate config c.positivePeriodWrites
        r.state.controlCommandSuccessRate r.dt (advance c.qualificationControlTimeS r.dt)
        (r.wallElapsed wallStart)) = false := decide_eq_false hcandidate
    rw [hdecide] at htimely
    have hbefore : ¬ StartupTimedOut config (advance c.qualificationControlTimeS r.dt)
        (r.wallElapsed wallStart) := fun hout => htimely ⟨rfl, hout⟩
    refine wp_writePose env hwatched trivial (h.hold hbefore) fun s₂ t₂ hcourse₂ hwatched₂ => ?_
    rw [wp_bind]
    refine wp_countPositive fun s₃ hcourse₃ => ?_
    rw [wp_runIf]
    refine ⟨fun hyes => absurd (of_decide_eq_true hyes) hcandidate, fun _ => ?_⟩
    rw [hcourse₂, hcourse₁] at hcourse₃
    refine ⟨?_, ?_, ?_, ?_⟩
    · rw [hcourse₃]
    · rw [hcourse₃]
      refine ⟨fun htrue => ?_, h.sound.fresh, ?_, h.sound.wellTimed, h.sound.wall⟩
      · rw [hq] at htrue
        cases htrue
      · rintro i hi
        cases hi
        exact h.prepared
    · rw [hcourse₃]
      exact (decide_eq_false (Nat.succ_ne_zero _)).symm
    · have hphase : s₃.course.phase = .holding (some interpolation.start)
          (c.positivePeriodWrites + if r.dt > zero then 1 else 0)
          (advance c.qualificationControlTimeS r.dt) := by
        rw [hcourse₃]
        exact Course.phase_of_not_qualified hq
      rw [hphase, hcourse₃]
      exact hwatched₂

/-! ## Cycles after the qualification -/

theorem notNegative_of_positive {dt : Binary64} (h : dt > zero) : Ieee.NotNegative dt := by
  obtain ⟨-, -, hkey⟩ := Ieee.lt_iff.mp (show Ieee.lt zero dt = true from h)
  have hzero : 0 ≤ (zero : Binary64).key := Ieee.key_round_nonneg false le_rfl
  exact .inr (hzero.trans hkey.le)

theorem wp_observeSuccess {success dt : Binary64} (hlive : LiveAt libm target config wallStart t)
    (hwell : s.course.successWindow.WellTimed) (hdt : dt > zero)
    (h : ∀ s' window, window.WellTimed → s'.course = { s.course with successWindow := window } →
      R () s' t) :
    wp (observeSuccess config success dt) R (Thrown libm target config wallStart) s t := by
  unfold observeSuccess
  rw [wp_bind, wp_read]
  beta_reduce
  rcases SuccessWindow.observe_wellTimed hwell (notNegative_of_positive hdt)
    with hfull | ⟨average, window, hobserved, hwindow⟩
  · rw [show s.successWindow.observe success dt = .error .capacity from hfull]
    exact wp_failSegment hlive _ _
  · rw [show s.successWindow.observe success dt = .ok (average, window) from hobserved]
    dsimp only
    unfold updateTelemetry
    rw [wp_bind, wp_update]
    beta_reduce
    rw [wp_runIf]
    refine ⟨fun _ => ?_, fun _ => h _ window hwindow rfl⟩
    rw [wp_bind, wp_update]
    beta_reduce
    exact wp_failIf hlive fun _ => h _ window hwindow rfl

theorem wp_superviseSuccess {success dt : Binary64}
    (hlive : LiveAt libm target config wallStart t)
    (hwell : s.course.successWindow.WellTimed) (hdt : dt > zero)
    (h : ∀ s' window, window.WellTimed → s'.course = { s.course with successWindow := window } →
      ¬ success < config.controlSuccessHardFloor - ofRat kAbsoluteTolerance → R () s' t) :
    wp (superviseSuccess config success dt) R (Thrown libm target config wallStart) s t := by
  unfold superviseSuccess updateTelemetry
  rw [wp_bind, wp_update]
  beta_reduce
  rw [wp_bind]
  refine wp_failIf hlive fun hfloor => ?_
  rw [wp_runIf]
  refine ⟨fun _ => ?_, fun hnot => absurd hdt hnot⟩
  refine wp_observeSuccess hlive hwell hdt fun s' window hwindow hcourse => ?_
  exact h s' window hwindow hcourse hfloor

theorem wp_sendCommand {phase next : SegmentPhase Binary64} {reading : Reading Binary64}
    {reads : ℕ} {command : Pose Binary64} {cycleStart : ℤ}
    (hwatched : Watched libm target config wallStart t ⟨phase, .answering reading, reads⟩)
    (hlive : phase.Live)
    (hstep : validPose command = true → inWorkspace command config = true →
      SegmentStep libm target config wallStart ⟨phase, .answering reading, reads⟩
        (.write command false) ⟨phase, .writing next, reads⟩)
    (h : ∀ s' t', s'.course = s.course →
      Watched libm target config wallStart t' ⟨next, .idle, reads⟩ → R () s' t') :
    wp (sendCommand env config command cycleStart) R
      (Thrown libm target config wallStart) s t := by
  unfold sendCommand
  rw [wp_bind]
  refine wp_failIf ⟨_, hwatched, hlive⟩ fun hvalid => ?_
  rw [wp_bind]
  refine wp_failIf ⟨_, hwatched, hlive⟩ fun hinside => ?_
  exact wp_writePose env hwatched hlive
    (hstep (by simpa using hvalid) (by simpa using hinside)) h

variable (libm target config wallStart) in
/-- **A checked read of the motion**: the variables after the supervision of the control success,
which are those of the protocol's phase. -/
structure Moving (interpolation : PreparedInterpolation Binary64) (r : Reading Binary64)
    (s : SegmentState W Binary64) (t : List (SegmentEvent Binary64)) : Prop where
  sound : s.course.Sound libm target wallStart
  qualified : s.course.successQualified = true
  first : s.course.allowInitialZeroPeriod = decide (s.course.reads = 0)
  prepared : s.course.interpolation = some interpolation
  steady : r.Steady config wallStart
  watched : Watched libm target config wallStart t
    ⟨.moving interpolation.start s.course.trajectoryElapsed s.course.endpointElapsed
      s.course.endpointStableElapsed, .answering r, s.course.reads⟩

variable {interpolation : PreparedInterpolation Binary64} {r : Reading Binary64}

theorem Moving.live (h : Moving libm target config wallStart interpolation r s t) :
    LiveAt libm target config wallStart t :=
  ⟨_, h.watched, trivial⟩

/-- **After a command of the motion** the loop is at its head again, with the advanced times. -/
theorem Moving.head (h : Moving libm target config wallStart interpolation r s t)
    {s' : SegmentState W Binary64} {t' : List (SegmentEvent Binary64)}
    {trajectory endpoint stable : Binary64}
    (hcourse : s'.course = { s.course with
      trajectoryElapsed := trajectory
      endpointElapsed := endpoint
      endpointStableElapsed := stable })
    (hwatched : Watched libm target config wallStart t'
      ⟨.moving interpolation.start trajectory endpoint stable, .idle, s.course.reads⟩) :
    Head libm target config wallStart s.course.reads s' t' := by
  refine ⟨by rw [hcourse], ?_, ?_, ?_⟩
  · rw [hcourse]
    refine ⟨h.sound.qualified, fun hfalse => ?_, h.sound.prepared, h.sound.wellTimed,
      h.sound.wall⟩
    have hnot : s.course.successQualified = false := hfalse
    rw [h.qualified] at hnot
    cases hnot
  · rw [hcourse]
    exact h.first
  · have hphase : s'.course.phase = .moving interpolation.start trajectory endpoint stable := by
      rw [hcourse]
      exact Course.phase_of_qualified h.qualified h.prepared
    rw [hphase, hcourse]
    exact hwatched

theorem advance_of_positive (elapsed : Binary64) {dt : Binary64} (h : dt > zero) :
    advance elapsed dt = elapsed + dt := if_pos h

/-- **A cycle on the trajectory** leaves the loop at its head. -/
theorem wp_trajectoryCycle (h : Moving libm target config wallStart interpolation r s t)
    (hbefore : s.course.trajectoryElapsed < config.durationS) :
    wp (trajectoryCycle libm env config interpolation r.dt r.cycleStart)
      (fun _ => Head libm target config wallStart s.course.reads)
      (Thrown libm target config wallStart) s t := by
  have hadvance := advance_of_positive s.course.trajectoryElapsed h.steady.positive
  unfold trajectoryCycle
  rw [wp_bind, wp_update]
  beta_reduce
  rw [wp_bind, wp_read]
  beta_reduce
  rw [wp_bind]
  refine wp_orThrow h.live fun command hcommand => ?_
  have hsample : interpolation.sample libm
      (stdMin one ((s.course.trajectoryElapsed + r.dt) / config.durationS)) = .ok command := by
    rw [← hadvance]
    exact hcommand
  refine wp_sendCommand env h.watched trivial
    (fun hvalid hinside => .travel h.steady hbefore (h.sound.prepared _ h.prepared) hsample
      hvalid hinside) fun s' t' hcourse hwatched => ?_
  refine h.head (hcourse.trans ?_) hwatched
  rw [← hadvance]
  rfl

theorem wp_measureEndpoint {Q : Bool → SegmentState W Binary64 → List (SegmentEvent Binary64) →
      Prop} (hlive : LiveAt libm target config wallStart t)
    (h : ∀ good s', s'.course = s.course → (good = true ↔ r.Arrived libm target config) →
      Q good s' t) :
    wp (measureEndpoint libm target config r.state) Q
      (Thrown libm target config wallStart) s t := by
  unfold measureEndpoint updateTelemetry
  rw [wp_bind, wp_update]
  beta_reduce
  rw [wp_bind]
  refine wp_orThrow hlive fun rotation hrotation => ?_
  rw [wp_bind, wp_update]
  beta_reduce
  rw [wp_bind]
  refine wp_failIf hlive fun hfinite => ?_
  rw [wp_bind, wp_update]
  beta_reduce
  rw [wp_pure]
  refine h _ _ rfl ?_
  rw [decide_eq_true_iff]
  constructor
  · intro hgood
    exact ⟨by simpa using hfinite, rotation, hrotation, hgood⟩
  · rintro ⟨-, rotation', hrotation', hgood⟩
    rw [hrotation] at hrotation'
    cases hrotation'
    exact hgood

variable (libm target config wallStart) in
/-- **The loop has ended**: the protocol waits for the last command. -/
def Finishing (t : List (SegmentEvent Binary64)) : Prop :=
  ∃ phase reading reads, Watched libm target config wallStart t
      ⟨phase, .answering reading, reads⟩ ∧ phase.Live ∧
    SegmentStep libm target config wallStart ⟨phase, .answering reading, reads⟩
      (.write target true) ⟨phase, .writing .finished, reads⟩

variable (libm target config wallStart) in
/-- What a round of the loop establishes that ends with `n` reads. -/
def AfterRound (n : ℕ) (continues : Bool) (s : SegmentState W Binary64)
    (t : List (SegmentEvent Binary64)) : Prop :=
  if continues then Head libm target config wallStart n s t
  else Finishing libm target config wallStart t

/-- **A cycle at the endpoint** leaves the loop at its head or ends it. -/
theorem wp_endpointCycle (h : Moving libm target config wallStart interpolation r s t)
    (hcomplete : ¬ s.course.trajectoryElapsed < config.durationS) :
    wp (endpointCycle libm env target config r.state r.dt r.cycleStart)
      (AfterRound libm target config wallStart s.course.reads) (Thrown libm target config wallStart) s t := by
  have hadvance := advance_of_positive s.course.endpointElapsed h.steady.positive
  unfold endpointCycle setStable
  rw [wp_bind, wp_update]
  beta_reduce
  rw [wp_bind]
  refine wp_measureEndpoint h.live fun good s₁ hcourse₁ hgood => ?_
  have hstable₁ : s₁.endpointStableElapsed = s.course.endpointStableElapsed :=
    congrArg Course.endpointStableElapsed hcourse₁
  have hendpoint₁ : s₁.endpointElapsed = s.course.endpointElapsed + r.dt := by
    rw [← hadvance]
    exact congrArg Course.endpointElapsed hcourse₁
  rw [wp_bind, wp_read]
  beta_reduce
  rw [hstable₁]
  set stable := if good = true then s.course.endpointStableElapsed + r.dt else zero with hset
  rw [wp_bind, wp_update]
  beta_reduce
  rw [wp_ite]
  refine ⟨?_, ?_⟩
  · -- The bounds have been met for long enough.
    rintro ⟨hyes, hsettled⟩
    rw [hset, if_pos hyes] at hsettled
    rw [wp_pure]
    exact ⟨_, r, _, h.watched, trivial, .finish h.steady hcomplete (hgood.mp hyes) hsettled⟩
  · intro _
    unfold holdTarget
    rw [wp_bind, wp_bind, wp_read]
    beta_reduce
    rw [wp_bind]
    refine wp_failIf h.live fun htimely => ?_
    dsimp only at htimely
    rw [hendpoint₁] at htimely
    have hcount : r.Arrived libm target config ∧ stable = s.course.endpointStableElapsed + r.dt ∨
        ¬ r.Arrived libm target config ∧ stable = zero := by
      by_cases hyes : good = true
      · exact .inl ⟨hgood.mp hyes, if_pos hyes⟩
      · exact .inr ⟨fun harrived => hyes (hgood.mpr harrived), if_neg hyes⟩
    refine wp_sendCommand env h.watched trivial
      (fun _ _ => .dwell h.steady hcomplete (fun hout => htimely (.inl hout)) hcount)
      fun s₂ t₂ hcourse₂ hwatched₂ => ?_
    rw [wp_pure]
    refine h.head (hcourse₂.trans ?_) hwatched₂
    show { s₁.course with endpointStableElapsed := stable } = _
    rw [hcourse₁, ← hadvance]
    rfl

/-- **A cycle after the qualification** leaves the loop at its head or ends it. -/
theorem wp_motionCycle {c : Course}
    (h : Answering libm target config wallStart c interpolation r s t)
    (hq : c.successQualified = true) (hpositive : r.dt > zero) :
    wp (motionCycle libm env target config interpolation r.state r.dt r.cycleStart)
      (AfterRound libm target config wallStart (c.reads + 1)) (Thrown libm target config wallStart)
      s t := by
  obtain ⟨hsome, hreads⟩ := h.sound.qualified hq
  obtain ⟨i, hi⟩ := Option.isSome_iff_exists.mp hsome
  obtain rfl := h.kept i hi
  have hwell : s.course.successWindow.WellTimed := by
    rw [h.course]
    exact h.sound.wellTimed
  unfold motionCycle
  rw [wp_bind]
  refine wp_superviseSuccess h.live hwell hpositive fun s₁ window hwindow hcourse₁ hfloor => ?_
  rw [h.course] at hcourse₁
  have hadmissible := h.admissible
  rw [decide_eq_false (show ¬ c.reads + 1 = 1 by omega)] at hadmissible
  have hmoving : Moving libm target config wallStart interpolation r s₁ t := by
    refine ⟨?_, ?_, ?_, ?_, ⟨hadmissible, hpositive, hfloor⟩, ?_⟩
    · rw [hcourse₁]
      refine ⟨fun _ => ⟨rfl, Nat.succ_ne_zero _⟩, h.sound.fresh, ?_, hwindow, h.sound.wall⟩
      rintro j hj
      cases hj
      exact h.prepared
    · rw [hcourse₁]
      exact hq
    · rw [hcourse₁]
      exact (decide_eq_false (Nat.succ_ne_zero _)).symm
    · rw [hcourse₁]
    · rw [hcourse₁]
      have hwatched := h.watched
      rw [Course.phase_of_qualified hq hi] at hwatched
      exact hwatched
  have hcount : s₁.course.reads = c.reads + 1 := by rw [hcourse₁]
  rw [wp_bind, wp_read, ← hcount]
  beta_reduce
  rw [wp_ite]
  refine ⟨fun hbefore => ?_, fun hcomplete => ?_⟩
  · rw [wp_bind]
    refine wp_mono (wp_trajectoryCycle env hmoving hbefore) (fun _ s' t' hhead => ?_)
      fun _ _ _ he => he
    rw [wp_pure]
    exact hhead
  · exact wp_endpointCycle env hmoving hcomplete

/-! ## One round -/

theorem or_eq_none {fault fault' : Fault} : fault.or fault' = none ↔ fault = none ∧ fault' = none := by
  cases fault <;> simp

theorem faultIf_eq_none {c : Prop} [Decidable c] {code : CartesianSegmentFailureCode}
    {message : String} : faultIf c code message = none ↔ ¬c := by
  unfold faultIf
  by_cases h : c
  · simp [h]
  · simp [h]

/-- **After the first read an admissible period is positive.** -/
theorem positive_of_validatePeriod {dt : Binary64} (h : validatePeriod config false dt = none) :
    dt > zero := by
  unfold validatePeriod at h
  obtain ⟨hrange, hzero⟩ := or_eq_none.mp h
  have hrange := faultIf_eq_none.mp hrange
  have hzero := faultIf_eq_none.mp hzero
  simp only [not_or, Bool.not_eq_true', Bool.not_eq_false, Bool.not_false, and_true] at hrange hzero
  obtain ⟨hfinite, hnegative, -, -⟩ := hrange
  have hnan := Ieee.isNaN_of_isFinite hfinite
  have hznan : (zero : Binary64).isNaN = false := Ieee.isNaN_round _ _
  have hle : Ieee.le zero dt = true := by
    refine Ieee.le_of_not_lt hnan hznan ?_
    exact Bool.eq_false_iff.mpr hnegative
  refine Ieee.lt_iff.mpr ⟨hznan, hnan, ?_⟩
  refine lt_of_le_of_ne (Ieee.le_iff.mp hle).2.2 fun heq => hzero ?_
  show Ieee.eqv dt zero = true
  simp [Ieee.eqv, hnan, hznan, heq]

theorem wp_requireStartTracking {reference candidate : Pose Binary64} {label : String}
    (hlive : LiveAt libm target config wallStart t) (h : R () s t) :
    wp (requireStartTracking libm config reference candidate label) R
      (Thrown libm target config wallStart) s t := by
  unfold requireStartTracking
  rw [wp_bind]
  refine wp_orThrow hlive fun _ _ => ?_
  exact wp_failIf hlive fun _ => h

/-- **The interpolation of the segment**: a prepared one is kept, a new one starts at the pose that
the protocol holds. -/
theorem wp_ensureInitialized {Q : PreparedInterpolation Binary64 → SegmentState W Binary64 →
      List (SegmentEvent Binary64) → Prop}
    (hsound : ∀ i, s.course.interpolation = some i →
      PreparedInterpolation.make libm i.start target = .ok i)
    (hlive : LiveAt libm target config wallStart t)
    (h : ∀ i s', s'.course = { s.course with interpolation := some i } →
      (∀ j, s.course.interpolation = some j → i = j) →
      i.start = heldPose (s.course.interpolation.map PreparedInterpolation.start) r →
      PreparedInterpolation.make libm i.start target = .ok i → Q i s' t) :
    wp (ensureInitialized libm plannedStart target config r.state) Q
      (Thrown libm target config wallStart) s t := by
  unfold ensureInitialized
  rw [wp_bind, wp_read]
  beta_reduce
  cases hi : s.interpolation with
  | some i =>
    have hcourse : s.course.interpolation = some i := hi
    dsimp only
    rw [wp_ret]
    refine h i s ?_ ?_ ?_ (hsound i hcourse)
    · rw [← hcourse]
    · rintro j hj
      rw [hcourse] at hj
      exact Option.some.inj hj
    · rw [hcourse]
      rfl
  | none =>
    have hcourse : s.course.interpolation = none := hi
    dsimp only
    unfold initializeStart
    rw [wp_bind]
    refine wp_failIf hlive fun _ => ?_
    rw [wp_bind]
    refine wp_failIf hlive fun _ => ?_
    rw [wp_bind]
    refine wp_requireStartTracking hlive ?_
    rw [wp_bind]
    refine wp_requireStartTracking hlive ?_
    rw [wp_bind]
    refine wp_requireStartTracking hlive ?_
    rw [wp_bind]
    refine wp_orThrow hlive fun i hmake => ?_
    obtain ⟨hstart, -⟩ := PreparedInterpolation.make_spec libm hmake
    rw [wp_bind, wp_update]
    beta_reduce
    rw [wp_pure]
    refine h i _ rfl ?_ ?_ ?_
    · rintro j hj
      rw [hcourse] at hj
      cases hj
    · rw [hcourse, hstart]
      rfl
    · rw [hstart]
      exact hmake

/-- **The checks of a cycle** leave a read that waits for its answer. -/
theorem wp_checkCycle {c : Course} (hsound : c.Sound libm target wallStart)
    (hfirst : c.allowInitialZeroPeriod = decide (c.reads = 0))
    (hcourse : s.course = { c with reads := c.reads + 1 })
    (hwatched : Watched libm target config wallStart t ⟨c.phase, .answering r, c.reads + 1⟩) :
    wp (checkCycle libm plannedStart target config r.state r.dt (r.wallElapsed wallStart))
      (fun i s' t' => Answering libm target config wallStart c i r s' t')
      (Thrown libm target config wallStart) s t := by
  have hlive : LiveAt libm target config wallStart t := ⟨_, hwatched, c.phase_live⟩
  have hallow : s.allowInitialZeroPeriod = decide (c.reads + 1 = 1) := by
    rw [show s.allowInitialZeroPeriod = c.allowInitialZeroPeriod from
      congrArg Course.allowInitialZeroPeriod hcourse, hfirst]
    simp
  unfold checkCycle updateTelemetry
  rw [wp_bind]
  refine wp_requireNoFault hlive fun hwall => ?_
  rw [wp_bind, wp_read]
  beta_reduce
  rw [wp_bind]
  refine wp_requireNoFault hlive fun hperiod => ?_
  rw [hallow] at hperiod
  rw [wp_bind, wp_update]
  beta_reduce
  rw [wp_bind]
  refine wp_requireNoFault hlive fun hstate => ?_
  rw [wp_bind, wp_update]
  beta_reduce
  generalize hs : ({ s with allowInitialZeroPeriod := _, telemetry := _ } :
    SegmentState W Binary64) = s₁
  have hcourse₁ : s₁.course = { c with
      reads := c.reads + 1
      allowInitialZeroPeriod := false } := by
    rw [← hs]
    show { s.course with allowInitialZeroPeriod := false } = _
    rw [hcourse]
  have hinterpolation : s₁.course.interpolation = c.interpolation := by rw [hcourse₁]
  refine wp_ensureInitialized plannedStart ?_ hlive fun i s₂ hcourse₂ hkept hstart hmake => ?_
  · rw [hinterpolation]
    exact hsound.prepared
  · rw [hinterpolation] at hkept hstart
    rw [hcourse₁] at hcourse₂
    exact ⟨hsound, hcourse₂, hstart, hkept, hmake, ⟨hwall, hperiod, hstate⟩, hwatched⟩

/-- **The answer to a checked read** leaves the loop at its head or ends it. -/
theorem wp_answerRead {c : Course}
    (h : Answering libm target config wallStart c interpolation r s t) :
    wp (answerRead libm env target config interpolation r.state r.dt (r.wallElapsed wallStart)
        r.cycleStart)
      (AfterRound libm target config wallStart (c.reads + 1)) (Thrown libm target config wallStart)
      s t := by
  have hqualified : s.telemetry.successQualified = c.successQualified :=
    congrArg Course.successQualified h.course
  unfold answerRead
  rw [wp_bind, wp_read]
  beta_reduce
  rw [hqualified, wp_ite]
  refine ⟨fun hq => ?_, fun hq => ?_⟩
  · -- After the qualification the read is not the first one.
    have hnot : ¬ c.reads + 1 = 1 := by
      have := (h.sound.qualified hq).2
      omega
    have hperiod := h.admissible.period
    rw [decide_eq_false hnot] at hperiod
    exact wp_motionCycle env h hq (positive_of_validatePeriod hperiod)
  · rw [wp_bind]
    refine wp_mono (wp_qualificationCycle env h (Bool.eq_false_iff.mpr hq))
      (fun _ s' t' hhead => ?_) fun _ _ _ he => he
    rw [wp_pure]
    exact hhead

/-- **What follows a read** leaves the loop at its head or ends it. -/
theorem wp_checkedRead (r : Reading Binary64) {c : Course} (hsound : c.Sound libm target wallStart)
    (hfirst : c.allowInitialZeroPeriod = decide (c.reads = 0))
    (hcourse : s.course = { c with reads := c.reads + 1 })
    (hwatched : Watched libm target config wallStart t ⟨c.phase, .answering r, c.reads + 1⟩) :
    wp (checkCycle libm plannedStart target config r.state r.dt (r.wallElapsed wallStart))
      (fun i => wp (answerRead libm env target config i r.state r.dt (r.wallElapsed wallStart)
          r.cycleStart) (AfterRound libm target config wallStart (c.reads + 1))
        (Thrown libm target config wallStart))
      (Thrown libm target config wallStart) s t :=
  wp_mono (wp_checkCycle plannedStart hsound hfirst hcourse hwatched)
    (fun _ _ _ hanswering => wp_answerRead env hanswering) fun _ _ _ he => he

/-- **One round of the loop** leaves it at its head or ends it. -/
theorem wp_controlCycle {n : ℕ} (h : Head libm target config wallStart n s t) :
    wp (controlCycle libm env plannedStart target config)
      (AfterRound libm target config wallStart (n + 1)) (Thrown libm target config wallStart)
      s t := by
  obtain rfl := h.count
  obtain rfl : s.wallStart = wallStart := h.sound.wall
  have hlive : LiveAt libm target config s.wallStart t := ⟨_, h.watched, s.course.phase_live⟩
  unfold controlCycle
  rw [wp_bind, wp_read]
  beta_reduce
  rw [wp_bind]
  refine wp_failIf hlive fun hcapacity => ?_
  have hreads : s.course.reads < kMaximumControlCycles := not_le.mp hcapacity
  unfold readState callHandle updateTelemetry clockNow
  rw [wp_bind, wp_bind]
  refine wp_ofWorld env.readOnce fun w => ?_
  refine wp_orControlIo hlive fun result _ => ?_
  obtain ⟨state, dt⟩ := result
  dsimp only
  rw [wp_bind, wp_update]
  beta_reduce
  rw [wp_bind]
  refine wp_ofWorld env.now fun w' => ?_
  rw [wp_bind, wp_emit]
  beta_reduce
  generalize (env.now _).1 = cycleStart
  rw [wp_bind, wp_read]
  beta_reduce
  dsimp only
  rw [wp_bind]
  exact wp_checkedRead env plannedStart ⟨state, dt, cycleStart⟩ h.sound h.first rfl
    (h.watched.snoc (.read ⟨state, dt, cycleStart⟩ s.course.phase_live hreads))

/-! ## The whole call -/

theorem watched_reads_le {m : Watch Binary64} (h : Watched libm target config wallStart t m) :
    m.reads ≤ kMaximumControlCycles := by
  induction h with
  | start => exact Nat.zero_le _
  | snoc _ hstep ih =>
    cases hstep with
    | read _ _ hlt => exact hlt
    | hold => exact ih
    | qualify => exact ih
    | travel => exact ih
    | dwell => exact ih
    | finish => exact ih
    | written => exact ih
    | failed => exact ih

/-- **The loop** ends with the protocol waiting for the last command. It has fewer rounds than the
model gives it because every round reads. -/
theorem wp_controlLoop (rounds : ℕ) {n : ℕ} (hrounds : kMaximumControlCycles < n + rounds)
    (h : Head libm target config wallStart n s t) :
    wp (controlLoop libm env plannedStart target config rounds)
      (fun _ _ => Finishing libm target config wallStart) (Thrown libm target config wallStart)
      s t := by
  induction rounds generalizing n s t with
  | zero =>
    have hle := watched_reads_le h.watched
    have hcount := h.count
    dsimp only at hle
    omega
  | succ rounds ih =>
    unfold controlLoop
    rw [wp_bind]
    refine wp_mono (wp_controlCycle env plannedStart h) (fun continues s' t' hafter => ?_)
      fun _ _ _ he => he
    cases continues with
    | true => exact ih (by omega) hafter
    | false =>
      show wp (ret ()) _ _ s' t'
      rw [wp_ret]
      exact hafter

variable (libm target config wallStart) in
/-- What the body of the outer `try` leaves. -/
def Finished (t : List (SegmentEvent Binary64)) : Prop :=
  ∃ reads, Watched libm target config wallStart t ⟨.finished, .idle, reads⟩

theorem wp_segmentBody (h : Head libm target config wallStart 0 s t) :
    wp (segmentBody libm env plannedStart target config)
      (fun _ _ => Finished libm target config wallStart) (Thrown libm target config wallStart)
      s t := by
  unfold segmentBody clockNow
  rw [wp_bind]
  refine wp_mono (wp_controlLoop env plannedStart _ (by omega) h)
    (fun _ s' t' hfinishing => ?_) fun _ _ _ he => he
  obtain ⟨phase, reading, reads, hwatched, hlive, hstep⟩ := hfinishing
  rw [wp_bind]
  refine wp_ofWorld env.now fun w => ?_
  exact wp_writePose env hwatched hlive hstep fun _ _ _ hdone => ⟨reads, hdone⟩

variable (libm target config wallStart) in
/-- **What a call leaves**: its telemetry after the last command, or a failure. -/
def Concluded (outcome : Except (SegmentThrown Binary64) (CartesianSegmentTelemetry Binary64))
    (_ : SegmentState W Binary64) (t : List (SegmentEvent Binary64)) : Prop :=
  match outcome with
  | .ok _ => Finished libm target config wallStart t
  | .error (.segment _) => ∃ m, Watched libm target config wallStart t m ∧ m.phase = .failed
  | .error _ => False

theorem wp_segment (h : Head libm target config wallStart 0 s t) :
    wp (attempt (segmentBody libm env plannedStart target config) >>= handleThrown)
      (fun telemetry => Concluded libm target config wallStart (.ok telemetry))
      (fun thrown => Concluded libm target config wallStart (.error thrown)) s t := by
  rw [wp_bind, wp_attempt]
  refine wp_mono (wp_segmentBody env plannedStart h) (fun _ s' t' hfinished => ?_)
    fun thrown s' t' hthrown => ?_
  · show wp (read >>= fun s => pure s.telemetry) _ _ s' t'
    rw [wp_bind, wp_read]
    beta_reduce
    rw [wp_pure]
    exact hfinished
  · cases thrown with
    | segment error =>
      show wp (fail _) _ _ s' t'
      rw [wp_fail]
      exact hthrown
    | other what =>
      exact wp_failSegment_of hthrown _ _ fun _ _ hfailed => hfailed
    | diverged => exact hthrown.elim

theorem head_initial (w : W) :
    Head libm target config wallStart 0
      (SegmentState.initial config wallStart w : SegmentState W Binary64) [] := by
  refine ⟨rfl, ⟨?_, fun _ => ⟨rfl, rfl, rfl⟩, ?_, ?_, rfl⟩, rfl, .start⟩
  · intro hfalse
    cases hfalse
  · intro i hi
    cases hi
  · exact SuccessWindow.wellTimed_empty _

def Concludes : SegmentOutcome Binary64 → SegmentPhase Binary64 → Prop
  | .returned _, .finished => True
  | .threw (.segment _), .failed => True
  | _, _ => False

/-- **A call of an accepted contract follows the protocol to its end**: it returns after the last
command was written or throws its own exception after a failure. -/
theorem run_watched (w : W)
    (haccepted : validateCartesianSegmentContract libm plannedStart target config = .ok ()) :
    ∃ m, Watched libm target config (env.now w).1
        (runBoundedCartesianSegment libm env plannedStart target config w).2.1 m ∧
      Concludes (runBoundedCartesianSegment libm env plannedStart target config w).1 m.phase := by
  have hrun := wp_result (P := Concluded libm target config (env.now w).1)
    (wp_segment env plannedStart (head_initial (env.now w).2))
  unfold runBoundedCartesianSegment
  rw [haccepted]
  dsimp only
  generalize (attempt (segmentBody libm env plannedStart target config) >>= handleThrown)
    (SegmentState.initial config (env.now w).1 (env.now w).2) = outcome at hrun ⊢
  obtain ⟨result, s, events⟩ := outcome
  rw [List.nil_append] at hrun
  cases result with
  | ok telemetry =>
    obtain ⟨reads, hwatched⟩ := hrun
    exact ⟨_, hwatched, trivial⟩
  | error thrown =>
    cases thrown with
    | segment error =>
      obtain ⟨m, hwatched, hphase⟩ := hrun
      refine ⟨m, hwatched, ?_⟩
      rw [hphase]
      trivial
    | other what => exact hrun.elim
    | diverged => exact hrun.elim

end Program

end FrankaDeploy.CartesianSegment
