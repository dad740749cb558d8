import FrankaDeploy.NativeSession.Session

/-! # The target in flight

A published target stays pending in the session until the event pump has handled its ACK. The
ledger may commit the command before that: the pump acknowledges to the ledger first and clears
the pending target in a later section. Between the two the session looks busy with a command that
is already committed. -/

namespace FrankaDeploy.NativeSession

open FrankaDeploy.Foundation FrankaDeploy.Servo FrankaDeploy.ClosedLoop
open scoped FloatArith

variable {D S : Type} [FloatArith D] [FloatArith S] [FloatCast D S]

/-! ## The ACK under way -/

def Point.ack : Point D S → Option (Bool × AckPayload D)
  | .ackChecked p => some (false, p)
  | .ackRecorded p => some (true, p)
  | _ => none

def Session.betweenAckSections (X : Session D S) : Bool :=
  match (X.threads .pump).point.ack with
  | some (true, _) => true
  | _ => false

structure SameFlight (X Y : Session D S) : Prop where
  ledger : Y.ledger = X.ledger
  pendingTarget : Y.pendingTarget = X.pendingTarget
  lastSentSequence : Y.lastSentSequence = X.lastSentSequence
  ack : (Y.threads .pump).point.ack = (X.threads .pump).point.ack

theorem SameFlight.refl (X : Session D S) : SameFlight X X := ⟨rfl, rfl, rfl, rfl⟩

theorem SameFlight.setThread {X Y : Session D S} (h : SameFlight X Y) {i : Thread}
    {thread : ThreadState D S} (hold : (X.threads i).point.ack = none)
    (hnew : thread.point.ack = none) : SameFlight X (Y.setThread i thread) := by
  refine ⟨h.ledger, h.pendingTarget, h.lastSentSequence, ?_⟩
  by_cases hi : Thread.pump = i
  · subst hi
    rw [Session.setThread_threads_self, hnew, hold]
  · rw [Session.setThread_threads_of_ne _ hi]
    exact h.ack

/-! ## The invariant -/

/-- **The target in flight and the ledger**: what the arm has acknowledged was published, and
outside the pump's two sections a pending target is pending in the ledger too, without the arm's
acknowledgement. -/
structure InFlight (X : Session D S) : Prop where
  staged : ∀ command, X.ledger.pending = some command →
    command.sequence = X.ledger.lastCommittedSequence + 1
  committed : X.ledger.lastCommittedSequence ≤ X.lastSentSequence
  acknowledged : ∀ command, X.ledger.pending = some command →
    CommandConsumer.franka ∈ X.ledger.acknowledged → command.sequence ≤ X.lastSentSequence
  target : ∀ target, X.pendingTarget = some target → target.sequence = X.lastSentSequence
  ack : ∀ b p, (X.threads .pump).point.ack = some (b, p) → X.pendingTarget.isSome = true
  waiting : ∀ target, X.pendingTarget = some target → X.betweenAckSections = false →
    ∃ command, X.ledger.pending = some command ∧ command.sequence = target.sequence ∧
      CommandConsumer.franka ∉ X.ledger.acknowledged

theorem inFlight_init (maximumTargetCount : ℕ) (maximumCommitLatencyS : D)
    (initial : FiniteVec 13 S) :
    InFlight (Session.init maximumTargetCount (.fresh maximumCommitLatencyS initial)) where
  staged := fun _ h => by cases h
  committed := le_rfl
  acknowledged := fun _ h => by cases h
  target := fun _ h => by cases h
  ack := fun _ _ h => by cases h
  waiting := fun _ h => by cases h

theorem InFlight.of_same {X Y : Session D S} (h : InFlight X) (same : SameFlight X Y) :
    InFlight Y := by
  have hbetween : Y.betweenAckSections = X.betweenAckSections := by
    rw [Session.betweenAckSections, same.ack]
    rfl
  constructor
  · rw [same.ledger]
    exact h.staged
  · rw [same.ledger, same.lastSentSequence]
    exact h.committed
  · rw [same.ledger, same.lastSentSequence]
    exact h.acknowledged
  · rw [same.pendingTarget, same.lastSentSequence]
    exact h.target
  · rw [same.ack, same.pendingTarget]
    exact h.ack
  · rw [hbetween, same.ledger, same.pendingTarget]
    exact h.waiting

/-! ## Calls on the ledger -/

omit [FloatCast D S] in
theorem franka_mem_insert_iff {L : ExecutedActionLedger D S} {call : LedgerCall D S}
    {c : CommandConsumer} {command : ClosedLoopCommand D S} (hack : L.Acknowledges call c command)
    (hcall : isForeign call = true) :
    CommandConsumer.franka ∈ insert c L.acknowledged ↔
      CommandConsumer.franka ∈ L.acknowledged := by
  obtain ⟨consumer, sequence, now, -, rfl, hname, -⟩ := hack.call_eq
  have hc : CommandConsumer.franka ≠ c := by
    rintro rfl
    rw [isForeign, decide_eq_true_iff] at hcall
    exact hcall hname
  rw [Finset.mem_insert]
  exact or_iff_right hc

theorem InFlight.foreignCall {X : Session D S} (h : InFlight X) (call : LedgerCall D S)
    (hcall : isForeign call = true) :
    InFlight { X with ledger := (X.ledger.perform call).1 } := by
  obtain ⟨hsame, -⟩ | ⟨r, hfault, -⟩ | ⟨command, -, hpending, hsequence, hstage, -⟩ |
    ⟨c, command, hack, hmissing, hrecord, -⟩ | ⟨c, command, hack, hall, hcommit, -⟩ :=
    X.ledger.step_cases call
  · rw [hsame]
    exact h
  · rw [hfault]
    exact ⟨h.staged, h.committed, h.acknowledged, h.target, h.ack, h.waiting⟩
  · rw [hstage]
    refine ⟨?_, h.committed, ?_, h.target, h.ack, ?_⟩
    · rintro command' hcommand'
      rw [← Option.some.inj hcommand']
      exact hsequence
    · rintro command' - hmem
      exact absurd hmem (Finset.notMem_empty _)
    · intro target htarget hbetween
      obtain ⟨command', hcommand', -⟩ := h.waiting target htarget hbetween
      rw [hpending] at hcommand'
      cases hcommand'
  · have hfranka := franka_mem_insert_iff hack hcall
    rw [hrecord]
    refine ⟨h.staged, h.committed, ?_, h.target, h.ack, ?_⟩
    · rintro command' hpending hmem
      exact h.acknowledged command' hpending (hfranka.mp hmem)
    · intro target htarget hbetween
      obtain ⟨command', hpending, hsequence, hno⟩ := h.waiting target htarget hbetween
      exact ⟨command', hpending, hsequence, fun hmem => hno (hfranka.mp hmem)⟩
  · -- the call commits only what the arm acknowledged before
    have hmem : CommandConsumer.franka ∈ X.ledger.acknowledged := by
      apply (franka_mem_insert_iff hack hcall).mp
      rw [hall]
      exact Finset.mem_univ _
    rw [hcommit]
    refine ⟨fun _ hnone => ?_, h.acknowledged command hack.pending hmem, fun _ hnone => ?_,
      h.target, h.ack, ?_⟩
    · cases hnone
    · cases hnone
    · intro target htarget hbetween
      obtain ⟨command', -, -, hno⟩ := h.waiting target htarget hbetween
      exact absurd hmem hno

/-! ## Steps -/

def SessionStep.changesFlight : SessionStep D S → Bool
  | .handle | .recordAck _ | .clearAck | .publish _ | .followup _ | .ledger _ => true
  | _ => false

/-- **The other sections leave the target in flight alone.** -/
theorem sameFlight_step (X : Session D S) (i : SessionStep D S) (hi : i.changesFlight = false) :
    SameFlight X (X.step i) := by
  have same := SameFlight.refl X
  cases i with
  | start =>
    rw [Session.step]
    split_ifs
    · exact same
    · exact ⟨rfl, rfl, rfl, rfl⟩
  | loopTop =>
    rw [Session.step]
    split
    · exact ⟨rfl, rfl, rfl, rfl⟩
    · exact same
  | pumpArm =>
    rw [Session.step]
    split_ifs with h
    · simp only [Bool.and_eq_true] at h
      exact same.setThread (by rw [X.threads_of_loopFree h.1.1.1]; rfl) rfl
    · exact same
  | pumpHeartbeat =>
    rw [Session.step]
    split_ifs with h
    · simp only [Bool.and_eq_true] at h
      exact same.setThread (by rw [X.threads_of_loopFree h.1.1]; rfl) rfl
    · exact same
  | pumpStop =>
    rw [Session.step]
    split_ifs with h
    · rw [Bool.and_eq_true] at h
      exact same.setThread (by rw [X.threads_of_loopFree h.1]; rfl) rfl
    · exact same
  | receive header packet =>
    rw [Session.step]
    split
    · next hidle =>
        have hold : (X.threads .pump).point.ack = none := by rw [hidle]; rfl
        split_ifs
        · generalize X.codec.decode header packet = decoded
          obtain ⟨codec, e | event⟩ := decoded
          · obtain ⟨failure, todo, h⟩ := Session.pumpRaised_eq { X with codec := codec } e
            dsimp only
            rw [h]
            refine SameFlight.setThread ?_ hold ?_
            · exact ⟨rfl, rfl, rfl, rfl⟩
            · rfl
          · refine SameFlight.setThread ?_ hold ?_
            · exact ⟨rfl, rfl, rfl, rfl⟩
            · rfl
        · exact same
    · exact same
  | pumpException e =>
    rw [Session.step]
    split_ifs with h
    · refine SameFlight.setThread ?_ (by rw [X.threads_of_loopFree h]; rfl) ?_
      · exact ⟨rfl, rfl, rfl, rfl⟩
      · rfl
    · exact same
  | finish =>
    rw [Session.step]
    split
    · split_ifs
      · exact ⟨rfl, rfl, rfl, rfl⟩
      · exact same
    · exact same
  | requestCleanStop j =>
    rw [Session.step]
    split
    · next hidle =>
        refine SameFlight.setThread ?_ (by rw [hidle]; rfl) ?_
        · exact ⟨rfl, rfl, rfl, rfl⟩
        · rfl
    · exact same
  | acquire j writable now =>
    rw [Session.step, Session.acquire]
    split
    · next operation todo hfree hpoint =>
        have hold : (X.threads j).point.ack = none := by rw [hpoint]; rfl
        cases X.beforeEncode operation writable now with
        | error e =>
          obtain ⟨failure, todo, heq⟩ := X.sendRaised_eq j operation e
          dsimp only
          rw [heq]
          refine SameFlight.setThread ?_ hold ?_
          · exact ⟨rfl, rfl, rfl, rfl⟩
          · rfl
        | ok _ =>
          refine SameFlight.setThread ?_ hold ?_
          · exact ⟨rfl, rfl, rfl, rfl⟩
          · rfl
    · exact same
  | encode j armChecked payloadNs headerNs =>
    rw [Session.step, Session.encode]
    split
    · next operation todo hpoint =>
        have hold : (X.threads j).point.ack = none := by rw [hpoint]; rfl
        generalize X.encodeOperation operation armChecked payloadNs headerNs = result
        obtain ⟨codec, e | packet⟩ := result
        · obtain ⟨failure, todo, heq⟩ :=
            Session.sendRaised_eq { X with codec := codec, sendLock := none } j operation e
          dsimp only
          rw [heq]
          refine SameFlight.setThread ?_ hold ?_
          · exact ⟨rfl, rfl, rfl, rfl⟩
          · rfl
        · refine SameFlight.setThread ?_ hold ?_
          · exact ⟨rfl, rfl, rfl, rfl⟩
          · rfl
    · exact same
  | transmit j now answer =>
    rw [Session.step, Session.transmit]
    split
    · next operation packet todo hpoint =>
        have hold : (X.threads j).point.ack = none := by rw [hpoint]; rfl
        generalize (X.afterEncode operation now >>= fun _ =>
          Session.sendPacketOnceLocked operation answer) = result
        cases result with
        | error e =>
          obtain ⟨failure, todo, heq⟩ :=
            Session.sendRaised_eq { X with sendLock := none } j operation e
          dsimp only
          rw [heq]
          refine SameFlight.setThread ?_ hold ?_
          · exact ⟨rfl, rfl, rfl, rfl⟩
          · rfl
        | ok _ =>
          refine SameFlight.setThread ?_ hold ?_
          · exact ⟨rfl, rfl, rfl, rfl⟩
          · rfl
    · exact same
  | _ => cases hi

theorem InFlight.perform {X : Session D S} (h : InFlight X) (i : Thread) (rest : List Followup)
    (f : Followup) (hidle : (X.threads i).point.ack = none) : InFlight (X.perform i rest f) := by
  have move : ∀ (Y : Session D S) (thread : ThreadState D S), SameFlight X Y →
      thread.point.ack = none → InFlight (Y.setThread i thread) :=
    fun Y thread same hnew => h.of_same (same.setThread hidle hnew)
  cases f with
  | recordFailure failure => exact move _ _ ⟨rfl, rfl, rfl, rfl⟩ rfl
  | readPending reason =>
    rw [Session.perform]
    cases X.ledger.pending with
    | none => exact move _ _ (.refl X) rfl
    | some command => exact move _ _ (.refl X) rfl
  | failLedger sequence reason =>
    have hfail := h.foreignCall (.fail "franka" sequence reason) rfl
    refine hfail.of_same (SameFlight.setThread (.refl _) ?_ rfl)
    exact hidle
  | setStop => exact move _ _ ⟨rfl, rfl, rfl, rfl⟩ rfl
  | cleanStop =>
    rw [Session.perform]
    split_ifs
    · exact move _ _ (.refl X) rfl
    · exact move _ _ (.refl X) rfl
  | stopOnce reason =>
    rw [Session.perform]
    split_ifs
    · exact move _ _ (.refl X) rfl
    · exact move _ _ ⟨rfl, rfl, rfl, rfl⟩ rfl
  | enterCleanup => exact move _ _ ⟨rfl, rfl, rfl, rfl⟩ rfl

theorem InFlight.handleEvent {X : Session D S} (h : InFlight X) (event : ChildEvent D)
    (hidle : (X.threads .pump).point.ack = none) : InFlight (X.handleEvent event) := by
  have move : ∀ (Y : Session D S) (thread : ThreadState D S), SameFlight X Y →
      thread.point.ack = none → InFlight (Y.setThread .pump thread) :=
    fun Y thread same hnew => h.of_same (same.setThread hidle hnew)
  cases hcheck : X.checkEvent event with
  | error e =>
    obtain ⟨failure, todo, heq⟩ := X.pumpRaised_eq e
    simp only [Session.handleEvent, hcheck, heq]
    exact move _ _ ⟨rfl, rfl, rfl, rfl⟩ rfl
  | ok _ =>
    simp only [Session.handleEvent, hcheck]
    cases event with
    | hello => exact move _ _ ⟨rfl, rfl, rfl, rfl⟩ rfl
    | ipcReady => exact move _ _ ⟨rfl, rfl, rfl, rfl⟩ rfl
    | actionReady p => exact move _ _ ⟨rfl, rfl, rfl, rfl⟩ rfl
    | ack p =>
      have hpending : X.pendingTarget.isSome = true := by
        cases htarget : X.pendingTarget with
        | some target => rfl
        | none =>
          simp only [Session.checkEvent, Session.checkAck, htarget] at hcheck
          split_ifs at hcheck
      have hbetween : X.betweenAckSections = false := by
        rw [Session.betweenAckSections, hidle]
      refine ⟨h.staged, h.committed, h.acknowledged, h.target, fun _ _ _ => hpending, ?_⟩
      intro target htarget _
      exact h.waiting target htarget hbetween
    | fault e => exact move _ _ (.refl X) rfl
    | stopProof event => exact move _ _ ⟨rfl, rfl, rfl, rfl⟩ rfl
    | state cycle => exact move _ _ ⟨rfl, rfl, rfl, rfl⟩ rfl

theorem InFlight.pumpRaised {X : Session D S} (h : InFlight X)
    (hbetween : X.betweenAckSections = false) (e : PyError) : InFlight (X.pumpRaised e) := by
  obtain ⟨failure, todo, heq⟩ := X.pumpRaised_eq e
  rw [heq]
  refine ⟨h.staged, h.committed, h.acknowledged, h.target, fun b p hp => ?_, ?_⟩
  · rw [Session.setThread_threads_self] at hp
    cases hp
  · intro target htarget _
    exact h.waiting target htarget hbetween

theorem InFlight.recordAck {X : Session D S} (h : InFlight X) (p : AckPayload D)
    (hpoint : (X.threads .pump).point.ack = some (false, p)) (now : D) :
    InFlight (X.recordAck p now) := by
  have hbetween : X.betweenAckSections = false := by
    rw [Session.betweenAckSections, hpoint]
  obtain ⟨target, htarget⟩ := Option.isSome_iff_exists.mp (h.ack false p hpoint)
  obtain ⟨command, hpending, hsequence, -⟩ := h.waiting target htarget hbetween
  have hsent : command.sequence = X.lastSentSequence := hsequence.trans (h.target target htarget)
  rw [Session.recordAck]
  obtain ⟨e, hack⟩ | ⟨r, hack⟩ | ⟨c, command', hacks, -, hack⟩ | ⟨c, command', hacks, -, hack⟩ :=
    X.ledger.acknowledge_cases "franka" p.targetSequence now
  · simp only [ExecutedActionLedger.perform, hack, Except.map]
    exact h.pumpRaised hbetween e
  · simp only [ExecutedActionLedger.perform, hack, ExecutedActionLedger.faultAndRaise, Except.map]
    have hfault : InFlight { X with ledger := X.ledger.faultLocked r } :=
      ⟨h.staged, h.committed, h.acknowledged, h.target, h.ack, h.waiting⟩
    exact hfault.pumpRaised hbetween _
  · simp only [ExecutedActionLedger.perform, hack, Except.map]
    refine ⟨h.staged, h.committed, ?_, h.target, ?_, ?_⟩
    · rintro command'' hpending'' -
      have heq := Option.some.inj (hpending.symm.trans hpending'')
      rw [← heq]
      exact hsent.le
    · rintro - - -
      exact h.ack false p hpoint
    · intro _ _ hout
      rw [Session.betweenAckSections, Session.setThread_threads_self] at hout
      cases hout
  · have heq := Option.some.inj (hpending.symm.trans hacks.pending)
    simp only [ExecutedActionLedger.perform, hack, Except.map]
    refine ⟨?_, ?_, ?_, h.target, ?_, ?_⟩
    · rintro _ hnone
      cases hnone
    · show command'.sequence ≤ X.lastSentSequence
      rw [← heq]
      exact hsent.le
    · rintro _ hnone
      cases hnone
    · rintro - - -
      exact h.ack false p hpoint
    · intro _ _ hout
      rw [Session.betweenAckSections, Session.setThread_threads_self] at hout
      cases hout

theorem publishChecks_eq_ok {X : Session D S} {target : FrankaJointTarget D S}
    (h : X.publishChecks target = .ok ()) :
    target.sequence = X.lastSentSequence + 1 ∧ X.pendingTarget = none ∧
      ∃ command, X.ledger.pending = some command ∧ command.sequence = target.sequence := by
  rw [Session.publishChecks] at h
  split_ifs at h with _ _ _ hstop hsequence hpending hstaged
  · cases hfailure : X.asyncFailure with
    | none => simp [hfailure] at h
    | some failure => simp [hfailure] at h
  · refine ⟨not_not.mp hsequence, by simpa using hpending, ?_⟩
    rw [not_not] at hstaged
    exact Option.map_eq_some_iff.mp hstaged

theorem publishChecks_eq_unacknowledged {X : Session D S} {target : FrankaJointTarget D S}
    (h : X.publishChecks target = .error Session.unacknowledgedTargetError) :
    target.sequence = X.lastSentSequence + 1 ∧ X.pendingTarget.isSome = true := by
  have htext : ∀ {s rest : String}, "native child still has an unacknowledged target" = s ++ rest →
      s.toList <+: "native child still has an unacknowledged target".toList := by
    intro s rest heq
    rw [heq, String.toList_append]
    exact List.prefix_append _ _
  rw [Session.publishChecks] at h
  split_ifs at h with _ _ _ hstop hsequence hpending hstaged
  · simp [Session.unacknowledgedTargetError, sessionError] at h
  · simp [Session.unacknowledgedTargetError, sessionError] at h
  · simp [Session.unacknowledgedTargetError, sessionError] at h
  · cases hfailure : X.asyncFailure with
    | none => simp [hfailure, Session.unacknowledgedTargetError, sessionError] at h
    | some failure =>
      simp only [hfailure, Session.unacknowledgedTargetError, sessionError, Except.error.injEq,
        PyError.runtimeError.injEq] at h
      exact absurd (htext h.symm) (by decide +kernel)
  · simp only [Session.unacknowledgedTargetError, sessionError, Except.error.injEq,
      PyError.runtimeError.injEq, String.append_assoc] at h
    exact absurd (htext h.symm) (by decide +kernel)
  · exact ⟨not_not.mp hsequence, hpending⟩
  · simp [Session.unacknowledgedTargetError, sessionError] at h

theorem InFlight.publish {X : Session D S} (h : InFlight X) (target : FrankaJointTarget D S)
    (hidle : (X.threads .publisher).point.ack = none) : InFlight (X.publish target) := by
  rw [Session.publish]
  cases hchecks : X.publishChecks target with
  | error e => exact h.of_same (SameFlight.setThread (.refl X) hidle rfl)
  | ok _ =>
    obtain ⟨hnext, hnone, command, hpending, hsequence⟩ := publishChecks_eq_ok hchecks
    have hpump : ∀ thread : ThreadState D S,
        (X.setThread .publisher thread).threads .pump = X.threads .pump :=
      fun thread => X.setThread_threads_of_ne (by decide) thread
    have hack : ∀ b p, (X.threads .pump).point.ack ≠ some (b, p) := by
      intro b p hp
      have hsome := h.ack b p hp
      rw [hnone] at hsome
      cases hsome
    refine ⟨h.staged, ?_, ?_, ?_, ?_, ?_⟩
    · show X.ledger.lastCommittedSequence ≤ target.sequence
      have := h.committed
      omega
    · intro command' hpending' hmem
      show command'.sequence ≤ target.sequence
      have := h.acknowledged command' hpending' hmem
      omega
    · intro target' htarget'
      rw [← Option.some.inj htarget']
      rfl
    · intro b p hp
      exact absurd hp (hack b p)
    · intro target' htarget' _
      have heq : target = target' := Option.some.inj htarget'
      refine ⟨command, hpending, heq ▸ hsequence, fun hmem => ?_⟩
      have := h.acknowledged command hpending hmem
      omega

theorem InFlight.step {X : Session D S} (h : InFlight X) (i : SessionStep D S) :
    InFlight (X.step i) := by
  cases hchange : i.changesFlight with
  | false => exact h.of_same (sameFlight_step X i hchange)
  | true =>
    cases i with
    | handle =>
      rw [Session.step]
      split
      · next event todo hpoint => exact h.handleEvent event (by rw [hpoint]; rfl)
      · exact h
    | recordAck now =>
      rw [Session.step]
      split
      · next p todo hpoint => exact h.recordAck p (by rw [hpoint]; rfl) now
      · exact h
    | clearAck =>
      rw [Session.step]
      split
      · next p todo hpoint =>
          refine ⟨h.staged, h.committed, h.acknowledged, ?_, ?_, ?_⟩
          · rintro _ hnone
            cases hnone
          · intro b p' hp
            rw [Session.clearAck, Session.setThread_threads_self] at hp
            cases hp
          · rintro _ hnone
            cases hnone
      · exact h
    | publish target =>
      rw [Session.step]
      split
      · next hpoint => exact h.publish target (by rw [hpoint]; rfl)
      · exact h
    | followup j =>
      rw [Session.step]
      split
      · next f rest hpoint => exact h.perform j rest f (by rw [hpoint]; rfl)
      · exact h
    | ledger call =>
      rw [Session.step]
      split_ifs with hcall
      · exact h.foreignCall call hcall
      · exact h
    | _ => cases hchange

/-! ## No spurious rejection -/

/-- **The condition on a step**: a target is not published while the pump is between its two
sections. -/
def PublishesOutsideAck (X : Session D S) : SessionStep D S → Prop
  | .publish _ => X.betweenAckSections = false
  | _ => True

instance (X : Session D S) : (i : SessionStep D S) → Decidable (PublishesOutsideAck X i)
  | .publish _ => inferInstanceAs (Decidable (X.betweenAckSections = false))
  | .start | .loopTop | .pumpArm | .pumpHeartbeat | .pumpStop | .receive .. | .handle
  | .recordAck _ | .clearAck | .pumpException _ | .finish | .requestCleanStop _ | .acquire ..
  | .encode .. | .transmit .. | .followup _ | .ledger _ => .isTrue trivial

def firstAck : AckPayload Binary64 :=
  ⟨1, 1, 1000000000, 0, 1, 101, 1000000000, 1, 0, fun _ => FloatArith.zero,
    fun _ => FloatArith.zero, fun _ => FloatArith.zero, 0, FloatArith.zero⟩

/-- Target 1 is published, written by the child, and acknowledged by the arm; the pump has not
cleared it yet. -/
def acknowledgedSteps : List (SessionStep Binary64 Binary32) :=
  handshakeSteps ++
    [.ledger (.stage (holdCommand 1 one_pos) FloatArith.one),
      .publish (holdTarget 1 one_pos)] ++
    sendSteps .publisher ++ receiveSteps 4 (.ack firstAck) ++ [.recordAck FloatArith.one]

def commitSteps : List (SessionStep Binary64 Binary32) :=
  [.ledger (.acknowledge "rh56" 1 FloatArith.one),
    .ledger (.stage (holdCommand 2 two_pos) FloatArith.one)]

end FrankaDeploy.NativeSession
