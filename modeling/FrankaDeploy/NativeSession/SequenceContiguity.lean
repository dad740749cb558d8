import FrankaDeploy.NativeSession.Session

/-! # The numbers on the critical socket

The child takes packet `n` of the critical socket only under the number `n`. The parent's numbers
are contiguous as long as every packet that was encoded is also sent; a packet that is encoded and
then dropped leaves a gap, and the child answers the next packet with a protocol fault. -/

namespace FrankaDeploy.NativeSession

open FrankaDeploy.Foundation FrankaDeploy.Servo FrankaDeploy.ClosedLoop
open scoped FloatArith

variable {D S : Type} [FloatArith D] [FloatArith S] [FloatCast D S]

/-! ## The child's side -/

/-- The sequence checks of `decode_packet` on the packets that `drain_critical` takes one after
the other: `false` is a `kSequence` error. -/
def sequencesAccepted (criticalInSequence : ℕ) : List ℕ → Bool
  | [] => true
  | sequence :: rest =>
    sequence = criticalInSequence && criticalInSequence ≠ 0 &&
      sequencesAccepted (criticalInSequence + 1) rest

theorem sequencesAccepted_iff (start : ℕ) (hstart : start ≠ 0) (l : List ℕ) :
    sequencesAccepted start l = true ↔ l = List.range' start l.length := by
  induction l generalizing start with
  | nil => simp [sequencesAccepted]
  | cons sequence rest ih =>
    simp only [sequencesAccepted, Bool.and_eq_true, decide_eq_true_eq, List.length_cons,
      List.range'_succ, List.cons.injEq, ih (start + 1) (Nat.succ_ne_zero start)]
    exact ⟨fun h => ⟨h.1.1, h.2⟩, fun h => ⟨⟨h.1, hstart⟩, h.2⟩⟩

/-! ## The send lock -/

def Point.grip : Point D S → Option (Option ℕ)
  | .locked _ => some none
  | .encoded _ packet => some (some packet.header.sequence)
  | _ => none

structure SameSending (X Y : Session D S) : Prop where
  wire : Y.wire = X.wire
  parentPacketSequence : Y.codec.parentPacketSequence = X.codec.parentPacketSequence
  sendLock : Y.sendLock = X.sendLock
  grip : ∀ i, (Y.threads i).point.grip = (X.threads i).point.grip

theorem SameSending.refl (X : Session D S) : SameSending X X := ⟨rfl, rfl, rfl, fun _ => rfl⟩

theorem SameSending.setThread {X Y : Session D S} (h : SameSending X Y) {i : Thread}
    {thread : ThreadState D S} (hold : (X.threads i).point.grip = none)
    (hnew : thread.point.grip = none) : SameSending X (Y.setThread i thread) := by
  refine ⟨h.wire, h.parentPacketSequence, h.sendLock, fun j => ?_⟩
  by_cases hj : j = i
  · subst hj
    rw [Session.setThread_threads_self, hnew, hold]
  · rw [Session.setThread_threads_of_ne _ hj]
    exact h.grip j

theorem decodePacket_parentPacketSequence (c : V94NativePODCodec) (header : PacketHeader)
    (telemetry isHello : Bool) :
    (c.decodePacket header telemetry isHello).1.parentPacketSequence =
      c.parentPacketSequence := by
  rw [V94NativePODCodec.decodePacket]
  cases c.requireSession header isHello with
  | error e => split_ifs <;> rfl
  | ok _ =>
    dsimp only
    split_ifs <;> rfl

theorem decodePayload_parentPacketSequence (c : V94NativePODCodec) (packet : ChildPacket D) :
    (c.decodePayload packet).1.parentPacketSequence = c.parentPacketSequence := by
  cases packet with
  | hello identity => cases identity <;> rfl
  | ipcReady proof =>
    cases proof <;> simp only [V94NativePODCodec.decodePayload] <;> split_ifs <;> rfl
  | actionReady p =>
    rw [V94NativePODCodec.decodePayload, V94NativePODCodec.decodeActionReady]
    split_ifs <;> rfl
  | ack p =>
    rw [V94NativePODCodec.decodePayload, V94NativePODCodec.decodeAck]
    split_ifs <;> rfl
  | fault e => rfl
  | stopProof p => rfl
  | state cycle snapshot => rfl

theorem decode_parentPacketSequence (c : V94NativePODCodec) (header : PacketHeader)
    (packet : ChildPacket D) :
    (c.decode header packet).1.parentPacketSequence = c.parentPacketSequence := by
  have hpacket := decodePacket_parentPacketSequence c header packet.isTelemetry packet.isHello
  rw [V94NativePODCodec.decode]
  revert hpacket
  generalize c.decodePacket header packet.isTelemetry packet.isHello = decoded
  intro hpacket
  obtain ⟨c', e | u⟩ := decoded
  · exact hpacket
  · exact (decodePayload_parentPacketSequence c' packet).trans hpacket

/-- **What an encoder does to the numbers**: it raises before one is consumed, or gives the packet
the next one. -/
def NumbersNext (c : V94NativePODCodec)
    (result : V94NativePODCodec × Except PyError (ParentPacket D)) : Prop :=
  (∃ e, result.2 = .error e ∧ result.1.parentPacketSequence = c.parentPacketSequence) ∨
    ∃ packet, result.2 = .ok packet ∧
      result.1.parentPacketSequence = c.parentPacketSequence + 1 ∧
      packet.header.sequence = c.parentPacketSequence + 1

section Encoders

variable (c : V94NativePODCodec) {headerNs : ℤ} (hpos : 0 < headerNs) (hfit : headerNs < 2 ^ 64)
  (hsequence : c.parentPacketSequence + 1 < 2 ^ 64)

include hpos hfit hsequence

omit [FloatArith D] in
theorem encode_numbersNext (payload : ParentPayload D) :
    NumbersNext c (c.encode payload headerNs) := by
  rw [V94NativePODCodec.encode]
  cases c.sessionNonce with
  | none => exact .inl ⟨_, rfl, rfl⟩
  | some nonce =>
    have htime := nativePositiveInteger_of_pos hpos "packet monotonic_ns"
    have hpack : packU64 ((c.parentPacketSequence : ℤ) + 1) =
        .ok (c.parentPacketSequence + 1) := by
      exact_mod_cast packU64_natCast hsequence
    have hpackTime : packU64 (headerNs.toNat : ℤ) = .ok headerNs.toNat :=
      packU64_natCast (by omega)
    refine .inr ⟨⟨⟨c.parentPacketSequence + 1, headerNs.toNat, nonce⟩, payload⟩, ?_, rfl, rfl⟩
    dsimp only
    rw [htime, except_ok_bind, hpack, except_ok_bind, hpackTime, except_ok_bind]
    rfl

omit [FloatArith D] in
theorem encodeArm_numbersNext (armChecked : Except PyError (ArmPayload D)) :
    NumbersNext c (c.encodeArm armChecked headerNs) := by
  cases armChecked with
  | error e =>
    simp only [V94NativePODCodec.encodeArm]
    split_ifs
    · exact .inl ⟨_, rfl, rfl⟩
    · exact .inl ⟨_, rfl, rfl⟩
  | ok payload =>
    simp only [V94NativePODCodec.encodeArm]
    split_ifs
    · exact .inl ⟨_, rfl, rfl⟩
    have hencode := encode_numbersNext c hpos hfit hsequence (.arm payload)
    revert hencode
    generalize c.encode (.arm payload) headerNs = result
    obtain ⟨c', e | packet⟩ := result
    · exact id
    · exact id

omit [FloatArith D] in
theorem encodeHeartbeat_numbersNext : NumbersNext (D := D) c (c.encodeHeartbeat headerNs) := by
  rw [V94NativePODCodec.encodeHeartbeat]
  split_ifs
  · exact .inl ⟨_, rfl, rfl⟩
  dsimp only
  generalize packU64 _ = packed
  cases packed with
  | error e => exact .inl ⟨_, rfl, rfl⟩
  | ok sequence =>
    exact encode_numbersNext { c with heartbeatSequence := c.heartbeatSequence + 1 } hpos hfit
      hsequence (.heartbeat ⟨sequence⟩)

theorem encodeTarget_numbersNext (target : FrankaJointTarget D S) :
    NumbersNext c (c.encodeTarget target headerNs) := by
  rw [V94NativePODCodec.encodeTarget]
  split_ifs
  · exact .inl ⟨_, rfl, rfl⟩
  · exact .inl ⟨_, rfl, rfl⟩
  · exact .inl ⟨_, rfl, rfl⟩
  · exact .inl ⟨_, rfl, rfl⟩
  · exact .inl ⟨_, rfl, rfl⟩
  cases target.closedLoopCommand with
  | none => exact .inl ⟨_, rfl, rfl⟩
  | some command =>
    dsimp only
    split_ifs
    · exact .inl ⟨_, rfl, rfl⟩
    cases V94NativePODCodec.targetPayload target command with
    | error e => exact .inl ⟨_, rfl, rfl⟩
    | ok payload =>
      have hencode := encode_numbersNext c hpos hfit hsequence (.target payload)
      revert hencode
      dsimp only
      generalize c.encode (.target payload) headerNs = result
      obtain ⟨c', e | packet⟩ := result
      · exact id
      · exact id

omit [FloatArith D] in
theorem encodeStop_numbersNext (reason : String) (payloadNs : ℤ) :
    NumbersNext (D := D) c (c.encodeStop reason payloadNs headerNs) := by
  rw [V94NativePODCodec.encodeStop]
  split_ifs
  · exact .inl ⟨_, rfl, rfl⟩
  · exact .inl ⟨_, rfl, rfl⟩
  cases nativePositiveInteger payloadNs "STOP time" >>= fun ns => packU64 ns with
  | error e => exact .inl ⟨_, rfl, rfl⟩
  | ok requested =>
    have hencode := encode_numbersNext (D := D) c hpos hfit hsequence (.stop ⟨1, 0, requested⟩)
    revert hencode
    dsimp only
    generalize c.encode (.stop ⟨1, 0, requested⟩) headerNs = result
    obtain ⟨c', e | packet⟩ := result
    · exact id
    · exact id

end Encoders

/-! ## Steps that do not send -/

theorem sameSending_perform (X : Session D S) (i : Thread) (rest : List Followup)
    (f : Followup) (hidle : (X.threads i).point.grip = none) :
    SameSending X (X.perform i rest f) := by
  have move : ∀ (Y : Session D S) (thread : ThreadState D S), SameSending X Y →
      thread.point.grip = none → SameSending X (Y.setThread i thread) :=
    fun Y thread h hnew => h.setThread hidle hnew
  cases f with
  | recordFailure failure => exact move _ _ ⟨rfl, rfl, rfl, fun _ => rfl⟩ rfl
  | readPending reason =>
    rw [Session.perform]
    cases X.ledger.pending with
    | none => exact move _ _ (.refl X) rfl
    | some command => exact move _ _ (.refl X) rfl
  | failLedger sequence reason => exact move _ _ ⟨rfl, rfl, rfl, fun _ => rfl⟩ rfl
  | setStop => exact move _ _ ⟨rfl, rfl, rfl, fun _ => rfl⟩ rfl
  | cleanStop =>
    rw [Session.perform]
    split_ifs
    · exact move _ _ (.refl X) rfl
    · exact move _ _ (.refl X) rfl
  | stopOnce reason =>
    rw [Session.perform]
    split_ifs
    · exact move _ _ (.refl X) rfl
    · exact move _ _ ⟨rfl, rfl, rfl, fun _ => rfl⟩ rfl
  | enterCleanup => exact move _ _ ⟨rfl, rfl, rfl, fun _ => rfl⟩ rfl

theorem sameSending_handleEvent (X : Session D S) (event : ChildEvent D)
    (hidle : (X.threads .pump).point.grip = none) : SameSending X (X.handleEvent event) := by
  have move : ∀ (Y : Session D S) (thread : ThreadState D S), SameSending X Y →
      thread.point.grip = none → SameSending X (Y.setThread .pump thread) :=
    fun Y thread h hnew => h.setThread hidle hnew
  cases hcheck : X.checkEvent event with
  | error e =>
    obtain ⟨failure, todo, h⟩ := X.pumpRaised_eq e
    simp only [Session.handleEvent, hcheck, h]
    exact move _ _ ⟨rfl, rfl, rfl, fun _ => rfl⟩ rfl
  | ok _ =>
    simp only [Session.handleEvent, hcheck]
    cases event with
    | hello => exact move _ _ ⟨rfl, rfl, rfl, fun _ => rfl⟩ rfl
    | ipcReady => exact move _ _ ⟨rfl, rfl, rfl, fun _ => rfl⟩ rfl
    | actionReady p => exact move _ _ ⟨rfl, rfl, rfl, fun _ => rfl⟩ rfl
    | ack p => exact move _ _ (.refl X) rfl
    | fault e => exact move _ _ (.refl X) rfl
    | stopProof event => exact move _ _ ⟨rfl, rfl, rfl, fun _ => rfl⟩ rfl
    | state cycle => exact move _ _ ⟨rfl, rfl, rfl, fun _ => rfl⟩ rfl

theorem grip_of_loopFree {X : Session D S} (h : X.loopFree = true) :
    (X.threads .pump).point.grip = none := by
  rw [X.threads_of_loopFree h]
  rfl

def SessionStep.isSend : SessionStep D S → Bool
  | .acquire .. | .encode .. | .transmit .. => true
  | _ => false

/-- **Outside the send lock nothing is numbered or sent.** -/
theorem sameSending_step (X : Session D S) (i : SessionStep D S) (hi : i.isSend = false) :
    SameSending X (X.step i) := by
  have same := SameSending.refl X
  cases i with
  | start =>
    rw [Session.step]
    split_ifs
    · exact same
    · exact ⟨rfl, rfl, rfl, fun _ => rfl⟩
  | loopTop =>
    rw [Session.step]
    split
    · exact ⟨rfl, rfl, rfl, fun _ => rfl⟩
    · exact same
  | pumpArm =>
    rw [Session.step]
    split_ifs with h
    · simp only [Bool.and_eq_true] at h
      exact same.setThread (grip_of_loopFree h.1.1.1) rfl
    · exact same
  | pumpHeartbeat =>
    rw [Session.step]
    split_ifs with h
    · simp only [Bool.and_eq_true] at h
      exact same.setThread (grip_of_loopFree h.1.1) rfl
    · exact same
  | pumpStop =>
    rw [Session.step]
    split_ifs with h
    · rw [Bool.and_eq_true] at h
      exact same.setThread (grip_of_loopFree h.1) rfl
    · exact same
  | receive header packet =>
    rw [Session.step]
    split
    · next hidle =>
        have hold : (X.threads .pump).point.grip = none := by rw [hidle]; rfl
        split_ifs
        · have hnumber := decode_parentPacketSequence X.codec header packet
          revert hnumber
          generalize X.codec.decode header packet = decoded
          intro hnumber
          obtain ⟨codec, e | event⟩ := decoded
          · obtain ⟨failure, todo, h⟩ := Session.pumpRaised_eq { X with codec := codec } e
            dsimp only
            rw [h]
            refine SameSending.setThread ?_ hold ?_
            · exact ⟨rfl, hnumber, rfl, fun _ => rfl⟩
            · rfl
          · refine SameSending.setThread ?_ hold ?_
            · exact ⟨rfl, hnumber, rfl, fun _ => rfl⟩
            · rfl
        · exact same
    · exact same
  | handle =>
    rw [Session.step]
    split
    · next event todo hhandling =>
        exact sameSending_handleEvent X event (by rw [hhandling]; rfl)
    · exact same
  | recordAck now =>
    rw [Session.step]
    split
    · next p todo hchecked =>
        have hold : (X.threads .pump).point.grip = none := by rw [hchecked]; rfl
        simp only [Session.recordAck]
        split
        · next e _ =>
            obtain ⟨failure, todo, h⟩ := Session.pumpRaised_eq { X with
              ledger := (X.ledger.perform (.acknowledge "franka" p.targetSequence now)).1 } e
            rw [h]
            refine SameSending.setThread ?_ hold ?_
            · exact ⟨rfl, rfl, rfl, fun _ => rfl⟩
            · rfl
        · refine SameSending.setThread ?_ hold ?_
          · exact ⟨rfl, rfl, rfl, fun _ => rfl⟩
          · rfl
    · exact same
  | clearAck =>
    rw [Session.step]
    split
    · next p todo hrecorded =>
        refine SameSending.setThread ?_ (by rw [hrecorded]; rfl) ?_
        · exact ⟨rfl, rfl, rfl, fun _ => rfl⟩
        · rfl
    · exact same
  | pumpException e =>
    rw [Session.step]
    split_ifs with h
    · refine SameSending.setThread ?_ (grip_of_loopFree h) ?_
      · exact ⟨rfl, rfl, rfl, fun _ => rfl⟩
      · rfl
    · exact same
  | finish =>
    rw [Session.step]
    split
    · split_ifs
      · exact ⟨rfl, rfl, rfl, fun _ => rfl⟩
      · exact same
    · exact same
  | publish target =>
    rw [Session.step]
    split
    · next hidle =>
        have hold : (X.threads .publisher).point.grip = none := by rw [hidle]; rfl
        rw [Session.publish]
        cases X.publishChecks target with
        | error e => exact same.setThread hold rfl
        | ok _ =>
          refine SameSending.setThread ?_ hold ?_
          · exact ⟨rfl, rfl, rfl, fun _ => rfl⟩
          · rfl
    · exact same
  | requestCleanStop j =>
    rw [Session.step]
    split
    · next hidle =>
        refine SameSending.setThread ?_ (by rw [hidle]; rfl) ?_
        · exact ⟨rfl, rfl, rfl, fun _ => rfl⟩
        · rfl
    · exact same
  | acquire j writable now => cases hi
  | encode j armChecked payloadNs headerNs => cases hi
  | transmit j now answer => cases hi
  | followup j =>
    rw [Session.step]
    split
    · next f rest hidle => exact sameSending_perform X j rest f (by rw [hidle]; rfl)
    · exact same
  | ledger call =>
    rw [Session.step]
    split_ifs
    · exact ⟨rfl, rfl, rfl, fun _ => rfl⟩
    · exact same

/-! ## Contiguity -/

/-- **The numbering of a session**: the packets sent are numbered from one, only the holder of the
send lock is inside it, and the last number consumed is that of the last packet sent or of the
packet that the holder has encoded. -/
structure Numbered (X : Session D S) : Prop where
  wire : X.wire.map (·.header.sequence) = List.range' 1 X.wire.length
  holder : ∀ i g, (X.threads i).point.grip = some g → X.sendLock = some i
  encoded : ∀ i n, (X.threads i).point.grip = some (some n) →
    n = X.wire.length + 1 ∧ X.codec.parentPacketSequence = X.wire.length + 1
  none_encoded : (∀ i n, (X.threads i).point.grip ≠ some (some n)) →
    X.codec.parentPacketSequence = X.wire.length

theorem numbered_init (maximumTargetCount : ℕ) (ledger : ExecutedActionLedger D S) :
    Numbered (Session.init maximumTargetCount ledger) where
  wire := rfl
  holder := fun _ _ h => by cases h
  encoded := fun _ _ h => by cases h
  none_encoded := fun _ => rfl

theorem Numbered.of_same {X Y : Session D S} (h : Numbered X) (same : SameSending X Y) :
    Numbered Y where
  wire := by
    rw [same.wire]
    exact h.wire
  holder i g hg := by
    rw [same.grip i] at hg
    rw [same.sendLock]
    exact h.holder i g hg
  encoded i n hn := by
    rw [same.grip i] at hn
    rw [same.wire, same.parentPacketSequence]
    exact h.encoded i n hn
  none_encoded hnone := by
    rw [same.wire, same.parentPacketSequence]
    refine h.none_encoded fun i n => ?_
    rw [← same.grip i]
    exact hnone i n

/-- **The condition on a step**: an encoder that runs gets a header time that fits, and a packet
that was encoded passes the checks after encoding and is taken by the socket. -/
def SendsWhatItEncodes (X : Session D S) : SessionStep D S → Prop
  | .encode _ _ _ headerNs =>
    0 < headerNs ∧ headerNs < 2 ^ 64 ∧ X.codec.parentPacketSequence + 1 < 2 ^ 64
  | .transmit i now answer =>
    match X.threads i with
    | ⟨.encoded operation _, _⟩ => X.afterEncode operation now = .ok () ∧ answer = .taken
    | _ => True
  | _ => True

instance (X : Session D S) (i : SessionStep D S) : Decidable (SendsWhatItEncodes X i) := by
  unfold SendsWhatItEncodes
  split
  · infer_instance
  · split <;> infer_instance
  · infer_instance

theorem Numbered.grip_eq_none {X : Session D S} (h : Numbered X) {i j : Thread}
    (hlock : X.sendLock = none ∨ X.sendLock = some i) (hj : j ≠ i ∨ X.sendLock = none) :
    (X.threads j).point.grip = none := by
  cases hgrip : (X.threads j).point.grip with
  | none => rfl
  | some g =>
    have hholder := h.holder j g hgrip
    rcases hlock with hlock | hlock
    · rw [hlock] at hholder
      cases hholder
    · rw [hlock] at hholder hj
      have heq := Option.some.inj hholder
      rcases hj with hj | hj
      · exact absurd heq.symm hj
      · cases hj

theorem numbered_of_idle {Y : Session D S} {i : Thread}
    (wire : Y.wire.map (·.header.sequence) = List.range' 1 Y.wire.length)
    (count : Y.codec.parentPacketSequence = Y.wire.length)
    (others : ∀ j, j ≠ i → (Y.threads j).point.grip = none)
    (self : (Y.threads i).point.grip = none ∨
      (Y.threads i).point.grip = some none ∧ Y.sendLock = some i) : Numbered Y where
  wire := wire
  holder j g hg := by
    by_cases hj : j = i
    · rw [hj] at hg ⊢
      rcases self with hself | ⟨-, hlock⟩
      · rw [hself] at hg
        cases hg
      · exact hlock
    · rw [others j hj] at hg
      cases hg
  encoded j n hn := by
    by_cases hj : j = i
    · rw [hj] at hn
      rcases self with hself | ⟨hself, -⟩
      · rw [hself] at hn
        cases hn
      · rw [hself] at hn
        cases hn
    · rw [others j hj] at hn
      cases hn
  none_encoded _ := count

theorem Numbered.acquire {X : Session D S} (h : Numbered X) (i : Thread)
    (writable : Except String Bool) (now : D) : Numbered (X.acquire i writable now) := by
  rw [Session.acquire]
  split
  · next operation todo hfree hpoint =>
      have hnone : ∀ j, (X.threads j).point.grip = none := fun j =>
        h.grip_eq_none (i := i) (.inl hfree) (.inr hfree)
      cases X.beforeEncode operation writable now with
      | error e =>
        obtain ⟨failure, todo, heq⟩ := X.sendRaised_eq i operation e
        dsimp only
        rw [heq]
        refine h.of_same (SameSending.setThread ?_ (hnone i) ?_)
        · exact ⟨rfl, rfl, rfl, fun _ => rfl⟩
        · rfl
      | ok _ =>
        refine numbered_of_idle (i := i) h.wire (h.none_encoded fun j n => ?_) (fun j hj => ?_) ?_
        · rw [hnone j]
          exact nofun
        · rw [Session.setThread_threads_of_ne _ hj]
          exact hnone j
        · rw [Session.setThread_threads_self]
          exact .inr ⟨rfl, rfl⟩
  · exact h

theorem encodeOperation_numbersNext (X : Session D S) (operation : SendOperation D S)
    (armChecked : Except PyError (ArmPayload D)) (payloadNs : ℤ) {headerNs : ℤ}
    (hpos : 0 < headerNs) (hfit : headerNs < 2 ^ 64)
    (hsequence : X.codec.parentPacketSequence + 1 < 2 ^ 64) :
    NumbersNext X.codec (X.encodeOperation operation armChecked payloadNs headerNs) := by
  cases operation with
  | arm => exact encodeArm_numbersNext X.codec hpos hfit hsequence armChecked
  | heartbeat =>
    rw [Session.encodeOperation]
    exact encodeHeartbeat_numbersNext X.codec hpos hfit hsequence
  | target target => exact encodeTarget_numbersNext X.codec hpos hfit hsequence target
  | stop reason => exact encodeStop_numbersNext X.codec hpos hfit hsequence reason payloadNs

theorem Numbered.encode {X : Session D S} (h : Numbered X) (i : Thread)
    (armChecked : Except PyError (ArmPayload D)) (payloadNs : ℤ) {headerNs : ℤ}
    (hpos : 0 < headerNs) (hfit : headerNs < 2 ^ 64)
    (hsequence : X.codec.parentPacketSequence + 1 < 2 ^ 64) :
    Numbered (X.encode i armChecked payloadNs headerNs) := by
  rw [Session.encode]
  split
  · next operation todo hpoint =>
      have hgrip : (X.threads i).point.grip = some none := by rw [hpoint]; rfl
      have hlock := h.holder i none hgrip
      have hnone : ∀ j, j ≠ i → (X.threads j).point.grip = none := fun j hj =>
        h.grip_eq_none (.inr hlock) (.inl hj)
      have hcount : X.codec.parentPacketSequence = X.wire.length := by
        refine h.none_encoded fun j n => ?_
        by_cases hj : j = i
        · rw [hj, hgrip]
          exact nofun
        · rw [hnone j hj]
          exact nofun
      have hnext := encodeOperation_numbersNext X operation armChecked payloadNs hpos hfit hsequence
      revert hnext
      generalize X.encodeOperation operation armChecked payloadNs headerNs = result
      intro hnext
      obtain ⟨codec, e | packet⟩ := result
      · -- the encoder raised before it consumed a number
        obtain ⟨_, -, hsame⟩ | ⟨packet, heq, -⟩ := hnext
        · obtain ⟨failure, todo, heq⟩ :=
            Session.sendRaised_eq { X with codec := codec, sendLock := none } i operation e
          dsimp only
          rw [heq]
          refine numbered_of_idle (i := i) h.wire (hsame.trans hcount) (fun j hj => ?_) ?_
          · rw [Session.setThread_threads_of_ne _ hj]
            exact hnone j hj
          · rw [Session.setThread_threads_self]
            exact .inl rfl
        · cases heq
      · obtain ⟨_, heq, -⟩ | ⟨packet', heq, hconsumed, hnumber⟩ := hnext
        · cases heq
        cases heq
        refine ⟨h.wire, fun j g hg => ?_, fun j n hn => ?_, fun hno => ?_⟩
        · by_cases hj : j = i
          · rw [hj]
            exact hlock
          · rw [Session.setThread_threads_of_ne _ hj] at hg
            rw [hnone j hj] at hg
            cases hg
        · by_cases hj : j = i
          · rw [hj, Session.setThread_threads_self] at hn
            have heq : packet.header.sequence = n := Option.some.inj (Option.some.inj hn)
            refine ⟨?_, ?_⟩
            · rw [← heq, hnumber, hcount]
              rfl
            · exact hconsumed.trans (congrArg (· + 1) hcount)
          · rw [Session.setThread_threads_of_ne _ hj] at hn
            rw [hnone j hj] at hn
            cases hn
        · refine absurd ?_ (hno i packet.header.sequence)
          rw [Session.setThread_threads_self]
          rfl
  · exact h

theorem Numbered.transmit {X : Session D S} (h : Numbered X) (i : Thread) (now : D)
    (answer : SocketAnswer) (hsent : SendsWhatItEncodes X (.transmit i now answer)) :
    Numbered (X.transmit i now answer) := by
  rw [Session.transmit]
  split
  · next operation packet todo hpoint =>
      simp only [SendsWhatItEncodes, hpoint] at hsent
      obtain ⟨hafter, rfl⟩ := hsent
      have hgrip : (X.threads i).point.grip = some (some packet.header.sequence) := by
        rw [hpoint]; rfl
      have hlock := h.holder i _ hgrip
      obtain ⟨hnumber, hconsumed⟩ := h.encoded i _ hgrip
      rw [hafter, except_ok_bind, Session.sendPacketOnceLocked]
      dsimp only
      refine numbered_of_idle (i := i) ?_ ?_ (fun j hj => ?_) ?_
      · show (X.wire ++ [packet]).map (·.header.sequence) =
          List.range' 1 (X.wire ++ [packet]).length
        rw [List.map_append, h.wire, List.length_append, List.length_singleton,
          List.range'_concat, List.map_singleton, hnumber, Nat.one_mul, Nat.add_comm 1]
      · show X.codec.parentPacketSequence = (X.wire ++ [packet]).length
        rw [hconsumed, List.length_append, List.length_singleton]
      · rw [Session.setThread_threads_of_ne _ hj]
        exact h.grip_eq_none (.inr hlock) (.inl hj)
      · rw [Session.setThread_threads_self]
        exact .inl rfl
  · exact h

/-- **Every step that meets the condition keeps the numbering.** -/
theorem Numbered.step {X : Session D S} (h : Numbered X) (i : SessionStep D S)
    (hi : SendsWhatItEncodes X i) : Numbered (X.step i) := by
  cases hsend : i.isSend with
  | false => exact h.of_same (sameSending_step X i hsend)
  | true =>
    cases i with
    | acquire j writable now => exact h.acquire j writable now
    | encode j armChecked payloadNs headerNs =>
      obtain ⟨hpos, hfit, hsequence⟩ := hi
      exact h.encode j armChecked payloadNs hpos hfit hsequence
    | transmit j now answer => exact h.transmit j now answer hi
    | _ => cases hsend

/-- **The critical socket carries contiguous numbers.** In every run in which each encoder gets a
header time that fits and each encoded packet is sent, the packets on the critical socket are
numbered `1, 2, …`, and the child's sequence checks accept them. -/
theorem critical_sequence_contiguous (maximumTargetCount : ℕ) (ledger : ExecutedActionLedger D S)
    (steps : List (SessionStep D S))
    (hsteps : (sessionMachine D S).Meets SendsWhatItEncodes (.init maximumTargetCount ledger)
      steps) :
    let X := (sessionMachine D S).run (.init maximumTargetCount ledger) steps
    X.wire.map (·.header.sequence) = List.range' 1 X.wire.length ∧
      sequencesAccepted (RuntimeState.default (D := D)).criticalInSequence
        (X.wire.map (·.header.sequence)) = true := by
  intro X
  have hnumbered : Numbered X :=
    (sessionMachine D S).run_induction_of_meets (numbered_init maximumTargetCount ledger)
      (fun Y i h hi => h.step i hi) steps hsteps
  refine ⟨hnumbered.wire, (sequencesAccepted_iff _ one_ne_zero _).mpr ?_⟩
  rw [List.length_map]
  exact hnumbered.wire

def heartbeatSteps : List (SessionStep Binary64 Binary32) :=
  handshakeSteps ++ [.pumpHeartbeat] ++ sendSteps .pump

theorem heartbeat_contiguous :
    let X := (sessionMachine Binary64 Binary32).run newSession heartbeatSteps
    X.wire.length = 2 ∧ X.wire.map (·.header.sequence) = List.range' 1 X.wire.length ∧
      sequencesAccepted (RuntimeState.default (D := Binary64)).criticalInSequence
        (X.wire.map (·.header.sequence)) = true :=
  ⟨by decide +kernel, critical_sequence_contiguous 720 _ heartbeatSteps (by decide +kernel)⟩

def dropSteps : List (SessionStep Binary64 Binary32) :=
  handshakeSteps ++
    [.ledger (.stage (holdCommand 1 Nat.one_pos) FloatArith.one),
      .publish (holdTarget 1 Nat.one_pos),
      .acquire .publisher (.ok true) FloatArith.one,
      .encode .publisher (.ok exampleArmPayload) 1000000000 1000000000,
      .requestCleanStop (.other 0), .transmit .publisher FloatArith.one .taken,
      .followup (.other 0), .followup (.other 0)] ++
    sendSteps (.other 0)

/-- **A dropped TARGET leaves a gap**: the child expects packet 2 and answers the STOP, which
carries the number 3, with a sequence error. -/
theorem dropped_target_leaves_gap :
    let X := (sessionMachine Binary64 Binary32).run newSession dropSteps
    X.wire.map (fun packet => (packet.payload.kind, packet.header.sequence)) =
        [(.arm, 1), (.stop, 3)] ∧
      sequencesAccepted (RuntimeState.default (D := Binary64)).criticalInSequence
        (X.wire.map (·.header.sequence)) = false := by
  decide +kernel

end FrankaDeploy.NativeSession
