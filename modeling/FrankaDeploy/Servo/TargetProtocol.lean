import FrankaDeploy.Foundation.Monitor
import FrankaDeploy.Servo.Loop

/-! # The TARGET/ACK protocol

The contract of the child: which TARGET it may accept, when it may announce ACTION_READY and when
it may acknowledge. `TargetStep` is the protocol as a monitor of the events of a run, and
`TargetContract` says what a trace that the monitor accepts guarantees. -/

namespace FrankaDeploy.Servo

open FrankaDeploy.Foundation FrankaDeploy.Foundation.Monitor
open scoped FloatArith

variable {D : Type}

/-! ## Reading a trace -/

def acceptedSequences (t : List (ServoEvent D)) : List ℕ :=
  t.filterMap fun
    | .targetAccepted target => some target.targetSequence
    | _ => none

def acknowledgedSequences (t : List (ServoEvent D)) : List ℕ :=
  t.filterMap fun
    | .acknowledged payload => some payload.targetSequence
    | _ => none

def judgments (t : List (ServoEvent D)) : List Bool :=
  t.filterMap fun
    | .judged healthy => some healthy
    | _ => none

def ServoEvent.beginsCycle : ServoEvent D → Bool
  | .cycleStarted _ => true
  | _ => false

def ServoEvent.acceptsTarget : ServoEvent D → Bool
  | .targetAccepted _ => true
  | _ => false

def ServoEvent.announcesReady : ServoEvent D → Bool
  | .actionReady _ => true
  | _ => false

/-- **The acknowledged write.** The trace so far ends in a single cycle that accepted target
`sequence`, then computed a command and then wrote this very command; no other target was accepted
after it and no other cycle was begun. -/
def WroteAfterTarget (t : List (ServoEvent D)) (sequence : ℕ) (commandedQ : Vec 7 D) : Prop :=
  ∃ before target between command middle after,
    t = before ++ .targetAccepted target :: between ++ .computed command :: middle ++
      .written command :: after ∧
    target.targetSequence = sequence ∧ command.q = commandedQ ∧
    ∀ event ∈ between ++ middle ++ after,
      event.beginsCycle = false ∧ event.acceptsTarget = false

/-- **The TARGET/ACK contract** of a trace, for the armed number of targets. -/
structure TargetContract (maximum : ℕ) (t : List (ServoEvent D)) : Prop where
  accepted : ∃ n ≤ maximum, acceptedSequences t = List.range' 1 n
  acknowledged : ∃ n, acknowledgedSequences t = List.range' 1 n
  pending : ∀ pre post, t = pre ++ post →
    (acknowledgedSequences pre).length ≤ (acceptedSequences pre).length ∧
      (acceptedSequences pre).length ≤ (acknowledgedSequences pre).length + 1
  acceptedAt : ∀ pre target post, t = pre ++ .targetAccepted target :: post →
    (∃ payload, .actionReady payload ∈ pre) ∧
      (acknowledgedSequences pre).length = (acceptedSequences pre).length
  cycleAt : ∀ pre sample post, t = pre ++ .cycleStarted sample :: post →
    (acknowledgedSequences pre).length = (acceptedSequences pre).length
  /-- ACTION_READY is announced once, after a hundred healthy cycles in a row: every cycle but the
  first is judged, and the last hundred judgments are good. -/
  readyAt : ∀ pre payload post, t = pre ++ .actionReady payload :: post →
    (∀ event ∈ pre, event.announcesReady = false) ∧
      (pre.filter ServoEvent.beginsCycle).length = (judgments pre).length + 1 ∧
      List.replicate HardSafetyLimits.healthyCyclesBeforeAction true <:+ judgments pre
  acknowledgedAt : ∀ pre payload post, t = pre ++ .acknowledged payload :: post →
    WroteAfterTarget pre payload.targetSequence payload.commandedQRad

/-! ## The monitor -/

variable (D) in
inductive CycleStage where
  | serving
  | computed (command : ExactDesiredHistory D)
  | written (command : ExactDesiredHistory D)

variable (D) in
/-- **The state of the protocol.** -/
structure TargetWatch where
  ready : Bool
  accepted : ℕ
  acked : ℕ
  cycles : ℕ
  judged : ℕ
  healthy : ℕ
  stage : CycleStage D

def TargetWatch.start : TargetWatch D := ⟨false, 0, 0, 0, 0, 0, .serving⟩

/-- **The steps of the protocol.** -/
inductive TargetStep (maximum : ℕ) : TargetWatch D → ServoEvent D → TargetWatch D → Prop where
  | cycleStarted {w sample} : w.accepted = w.acked →
      TargetStep maximum w (.cycleStarted sample)
        { w with cycles := w.cycles + 1, stage := .serving }
  | bootstrapped {w reference} : TargetStep maximum w (.bootstrapped reference) w
  | historySelected {w period choice reference} :
      TargetStep maximum w (.historySelected period choice reference) w
  | targetAccepted {w target} : w.stage = .serving → w.ready = true → w.accepted = w.acked →
      w.accepted < maximum → target.targetSequence = w.accepted + 1 →
      TargetStep maximum w (.targetAccepted target) { w with accepted := w.accepted + 1 }
  | computed {w command} : w.stage = .serving →
      TargetStep maximum w (.computed command) { w with stage := .computed command }
  | written {w command} : w.stage = .computed command →
      TargetStep maximum w (.written command) { w with stage := .written command }
  | judged {w healthy} :
      TargetStep maximum w (.judged healthy)
        { w with judged := w.judged + 1, healthy := if healthy then w.healthy + 1 else 0 }
  | actionReady {w payload} : w.ready = false →
      HardSafetyLimits.healthyCyclesBeforeAction ≤ w.healthy → w.cycles = w.judged + 1 →
      TargetStep maximum w (.actionReady payload) { w with ready := true }
  | acknowledged {w command payload} : w.stage = .written command → w.accepted = w.acked + 1 →
      payload.targetSequence = w.accepted → payload.commandedQRad = command.q →
      TargetStep maximum w (.acknowledged payload) { w with acked := w.acked + 1 }

abbrev Watched (maximum : ℕ) (t : List (ServoEvent D)) (w : TargetWatch D) : Prop :=
  Accepts (TargetStep maximum) .start t w

/-! ## What the monitor's state says about the trace -/

theorem filterMap_snoc {α β : Type} (f : α → Option β) (t : List α) (a : α) :
    (t ++ [a]).filterMap f = t.filterMap f ++ (f a).toList := by
  rw [List.filterMap_append, List.filterMap_cons]
  cases f a <;> rfl

section Reading

variable {t : List (ServoEvent D)} {event : ServoEvent D}

theorem acceptedSequences_snoc : acceptedSequences (t ++ [event]) = acceptedSequences t ++
    (match event with
      | .targetAccepted target => [target.targetSequence]
      | _ => []) := by
  rw [acceptedSequences, filterMap_snoc]
  cases event <;> rfl

theorem acknowledgedSequences_snoc : acknowledgedSequences (t ++ [event]) =
    acknowledgedSequences t ++
    (match event with
      | .acknowledged payload => [payload.targetSequence]
      | _ => []) := by
  rw [acknowledgedSequences, filterMap_snoc]
  cases event <;> rfl

theorem judgments_snoc : judgments (t ++ [event]) = judgments t ++
    (match event with
      | .judged healthy => [healthy]
      | _ => []) := by
  rw [judgments, filterMap_snoc]
  cases event <;> rfl

end Reading

def PendingShape (rest : List (ServoEvent D)) : CycleStage D → Prop
  | .serving => True
  | .computed command => ∃ between middle, rest = between ++ .computed command :: middle
  | .written command => ∃ between middle after,
      rest = between ++ .computed command :: middle ++ .written command :: after

/-! ## One step -/

section Step

variable {maximum : ℕ} {t : List (ServoEvent D)} {event : ServoEvent D} {w w' : TargetWatch D}

theorem TargetStep.acceptedSequences (hstep : TargetStep maximum w event w')
    (h : acceptedSequences t = List.range' 1 w.accepted) :
    acceptedSequences (t ++ [event]) = List.range' 1 w'.accepted := by
  rw [acceptedSequences_snoc, h]
  cases hstep with
  | targetAccepted _ _ _ _ hsequence =>
    rw [List.range'_1_concat, Nat.add_comm 1, ← hsequence]
  | _ => exact List.append_nil _

theorem TargetStep.acknowledgedSequences (hstep : TargetStep maximum w event w')
    (h : acknowledgedSequences t = List.range' 1 w.acked) :
    acknowledgedSequences (t ++ [event]) = List.range' 1 w'.acked := by
  rw [acknowledgedSequences_snoc, h]
  cases hstep with
  | acknowledged _ hpending hsequence _ =>
    rw [List.range'_1_concat, Nat.add_comm 1, ← hpending, ← hsequence]
  | _ => exact List.append_nil _

theorem TargetStep.counters (hstep : TargetStep maximum w event w')
    (h : w.acked ≤ w.accepted ∧ w.accepted ≤ w.acked + 1 ∧ w.accepted ≤ maximum) :
    w'.acked ≤ w'.accepted ∧ w'.accepted ≤ w'.acked + 1 ∧ w'.accepted ≤ maximum := by
  cases hstep with
  | targetAccepted _ _ hidle hbelow _ => exact ⟨by simp only; omega, by simp only; omega, hbelow⟩
  | acknowledged _ hpending _ _ => exact ⟨by simp only; omega, by simp only; omega, h.2.2⟩
  | _ => exact h

theorem TargetStep.ready (hstep : TargetStep maximum w event w')
    (h : w.ready = true ↔ ∃ payload, .actionReady payload ∈ t) :
    w'.ready = true ↔ ∃ payload, .actionReady payload ∈ t ++ [event] := by
  cases hstep with
  | actionReady _ _ _ => simp
  | _ => simpa using h

theorem TargetStep.cycles (hstep : TargetStep maximum w event w')
    (h : (t.filter ServoEvent.beginsCycle).length = w.cycles) :
    ((t ++ [event]).filter ServoEvent.beginsCycle).length = w'.cycles := by
  rw [List.filter_append, List.length_append, h]
  cases hstep <;> rfl

theorem TargetStep.judgments_length (hstep : TargetStep maximum w event w')
    (h : (judgments t).length = w.judged) : (judgments (t ++ [event])).length = w'.judged := by
  rw [judgments_snoc, List.length_append, h]
  cases hstep <;> rfl

theorem TargetStep.healthy (hstep : TargetStep maximum w event w')
    (h : List.replicate w.healthy true <:+ judgments t) :
    List.replicate w'.healthy true <:+ judgments (t ++ [event]) := by
  rw [judgments_snoc]
  cases hstep with
  | @judged healthy =>
    cases healthy with
    | false => exact List.nil_suffix
    | true =>
      show List.replicate (w.healthy + 1) true <:+ _
      rw [List.replicate_succ']
      obtain ⟨before, hbefore⟩ := h
      exact ⟨before, by rw [← List.append_assoc, hbefore]⟩
  | _ => simpa using h

theorem PendingShape.snoc {rest : List (ServoEvent D)} {stage : CycleStage D}
    (h : PendingShape rest stage) : PendingShape (rest ++ [event]) stage := by
  cases stage with
  | serving => trivial
  | computed command =>
    obtain ⟨between, middle, rfl⟩ := h
    exact ⟨between, middle ++ [event], by simp⟩
  | written command =>
    obtain ⟨between, middle, after, rfl⟩ := h
    exact ⟨between, middle, after ++ [event], by simp⟩

/-- **A pending target's cycle.** The last accepted target is pending, no cycle began since, and the
cycle stands where the stage says. -/
def PendingTarget (t : List (ServoEvent D)) (w : TargetWatch D) : Prop :=
  ∃ before target rest, t = before ++ .targetAccepted target :: rest ∧
    target.targetSequence = w.accepted ∧
    (∀ event ∈ rest, event.beginsCycle = false ∧ event.acceptsTarget = false) ∧
    PendingShape rest w.stage

theorem PendingTarget.snoc (h : PendingTarget t w) (hcycle : event.beginsCycle = false)
    (htarget : event.acceptsTarget = false) (haccepted : w'.accepted = w.accepted)
    (hshape : ∀ rest, PendingShape rest w.stage → PendingShape (rest ++ [event]) w'.stage) :
    PendingTarget (t ++ [event]) w' := by
  obtain ⟨before, target, rest, rfl, hsequence, hrest, hstage⟩ := h
  refine ⟨before, target, rest ++ [event], by simp, hsequence.trans haccepted.symm, ?_,
    hshape rest hstage⟩
  intro e he
  rcases List.mem_append.1 he with he | he
  · exact hrest e he
  · obtain rfl := List.mem_singleton.1 he
    exact ⟨hcycle, htarget⟩

theorem TargetStep.pending (hstep : TargetStep maximum w event w')
    (h : w.accepted = w.acked + 1 → PendingTarget t w) (hpending : w'.accepted = w'.acked + 1) :
    PendingTarget (t ++ [event]) w' := by
  cases hstep with
  | cycleStarted hidle => exact absurd hpending (by simp only; omega)
  | bootstrapped => exact (h hpending).snoc rfl rfl rfl fun _ => .snoc
  | historySelected => exact (h hpending).snoc rfl rfl rfl fun _ => .snoc
  | @targetAccepted target hstage _ _ _ hsequence =>
    refine ⟨t, target, [], rfl, hsequence, by simp, ?_⟩
    show PendingShape [] w.stage
    rw [hstage]
    trivial
  | computed hstage =>
    exact (h hpending).snoc rfl rfl rfl fun rest _ => ⟨rest, [], rfl⟩
  | @written command hstage =>
    refine (h hpending).snoc rfl rfl rfl fun rest hshape => ?_
    rw [hstage] at hshape
    obtain ⟨between, middle, rfl⟩ := hshape
    exact ⟨between, middle, [], rfl⟩
  | judged => exact (h hpending).snoc rfl rfl rfl fun _ => .snoc
  | actionReady _ _ _ => exact (h hpending).snoc rfl rfl rfl fun _ => .snoc
  | acknowledged _ hready _ _ => exact absurd hpending (by simp only; omega)

end Step

/-- **The counters of the protocol count the trace.** -/
structure WatchReads (maximum : ℕ) (t : List (ServoEvent D)) (w : TargetWatch D) : Prop where
  accepted : acceptedSequences t = List.range' 1 w.accepted
  acknowledged : acknowledgedSequences t = List.range' 1 w.acked
  counters : w.acked ≤ w.accepted ∧ w.accepted ≤ w.acked + 1 ∧ w.accepted ≤ maximum
  ready : w.ready = true ↔ ∃ payload, .actionReady payload ∈ t
  cycles : (t.filter ServoEvent.beginsCycle).length = w.cycles
  judged : (judgments t).length = w.judged
  healthy : List.replicate w.healthy true <:+ judgments t
  pending : w.accepted = w.acked + 1 → PendingTarget t w

/-- **Every trace that the protocol allows is read right**, by induction on the trace. -/
theorem Watched.reads {maximum : ℕ} {t : List (ServoEvent D)} {w : TargetWatch D}
    (h : Watched maximum t w) : WatchReads maximum t w := by
  induction h with
  | start =>
    constructor
    · rfl
    · rfl
    · exact ⟨le_rfl, Nat.zero_le 1, Nat.zero_le maximum⟩
    · simp [TargetWatch.start]
    · rfl
    · rfl
    · exact List.nil_suffix
    · exact fun h => absurd h Nat.zero_ne_one
  | snoc _ hstep ih =>
    constructor
    · exact hstep.acceptedSequences ih.accepted
    · exact hstep.acknowledgedSequences ih.acknowledged
    · exact hstep.counters ih.counters
    · exact hstep.ready ih.ready
    · exact hstep.cycles ih.cycles
    · exact hstep.judgments_length ih.judged
    · exact hstep.healthy ih.healthy
    · exact hstep.pending ih.pending

/-! ## The contract -/

section Contract

variable {maximum : ℕ} {t : List (ServoEvent D)} {w : TargetWatch D}

theorem WatchReads.lengths (h : WatchReads maximum t w) :
    (acceptedSequences t).length = w.accepted ∧ (acknowledgedSequences t).length = w.acked := by
  rw [h.accepted, h.acknowledged, List.length_range', List.length_range']
  exact ⟨rfl, rfl⟩

theorem announcesReady_false_of {pre : List (ServoEvent D)}
    (h : ¬∃ payload, .actionReady payload ∈ pre) : ∀ event ∈ pre, event.announcesReady = false := by
  intro event hevent
  cases event with
  | actionReady payload => exact absurd ⟨payload, hevent⟩ h
  | _ => rfl

theorem PendingTarget.wrote {command : ExactDesiredHistory D} (h : PendingTarget t w)
    (hstage : w.stage = .written command) : WroteAfterTarget t w.accepted command.q := by
  obtain ⟨before, target, rest, rfl, hsequence, hrest, hshape⟩ := h
  rw [hstage] at hshape
  obtain ⟨between, middle, after, rfl⟩ := hshape
  refine ⟨before, target, between, command, middle, after, by simp, hsequence, rfl, ?_⟩
  intro event hevent
  refine hrest event ?_
  simp only [List.mem_append, List.mem_cons] at hevent ⊢
  rcases hevent with (hevent | hevent) | hevent
  · exact .inl (.inl hevent)
  · exact .inl (.inr (.inr hevent))
  · exact .inr (.inr hevent)

/-- **A trace that the protocol allows meets the contract.** -/
theorem Watched.contract (h : Watched maximum t w) : TargetContract maximum t := by
  constructor
  · exact ⟨w.accepted, h.reads.counters.2.2, h.reads.accepted⟩
  · exact ⟨w.acked, h.reads.acknowledged⟩
  · rintro pre post rfl
    obtain ⟨w₁, hpre, -⟩ := h.cut
    obtain ⟨haccepted, hacked⟩ := WatchReads.lengths (Watched.reads hpre)
    rw [haccepted, hacked]
    exact ⟨(Watched.reads hpre).counters.1, (Watched.reads hpre).counters.2.1⟩
  · rintro pre target post rfl
    obtain ⟨w₁, w₂, hpre, hstep⟩ := h.at
    have hreads := Watched.reads hpre
    obtain ⟨haccepted, hacked⟩ := hreads.lengths
    cases hstep with
    | targetAccepted _ hready hidle _ _ =>
      exact ⟨hreads.ready.1 hready, by rw [haccepted, hacked, hidle]⟩
  · rintro pre sample post rfl
    obtain ⟨w₁, w₂, hpre, hstep⟩ := h.at
    obtain ⟨haccepted, hacked⟩ := WatchReads.lengths (Watched.reads hpre)
    cases hstep with
    | cycleStarted hidle => rw [haccepted, hacked, hidle]
  · rintro pre payload post rfl
    obtain ⟨w₁, w₂, hpre, hstep⟩ := h.at
    have hreads := Watched.reads hpre
    cases hstep with
    | actionReady hready hhealthy hcycles =>
      refine ⟨announcesReady_false_of fun hex => ?_, ?_, ?_⟩
      · rw [hreads.ready.2 hex] at hready
        cases hready
      · rw [hreads.cycles, hreads.judged, hcycles]
      · obtain ⟨more, hmore⟩ := Nat.exists_eq_add_of_le' hhealthy
        have hsuffix := hreads.healthy
        rw [hmore, List.replicate_add] at hsuffix
        exact (List.suffix_append _ _).trans hsuffix
  · rintro pre payload post rfl
    obtain ⟨w₁, w₂, hpre, hstep⟩ := h.at
    cases hstep with
    | acknowledged hstage hpending hsequence hcommand =>
      rw [hsequence, hcommand]
      exact ((Watched.reads hpre).pending hpending).wrote hstage

end Contract

end FrankaDeploy.Servo
