import FrankaDeploy.NativeSession.SequenceContiguity
import FrankaDeploy.NativeSession.StopProofAgreement

/-! # A clean stop

`request_clean_stop` may run in any thread while the loop of `run` is at work. The loop looks at the
stop flag and encodes an ARM or a HEARTBEAT in separate sections; the STOP packet may be encoded
between the two, and then the codec refuses what the loop decided to send. A TARGET looks at the
flag again inside the send lock. -/

namespace FrankaDeploy.NativeSession

open FrankaDeploy.Foundation FrankaDeploy.Servo FrankaDeploy.ClosedLoop
open scoped FloatArith

variable {D S : Type} [FloatArith D] [FloatArith S] [FloatCast D S]

/-! ## Healthy surroundings -/

def timeFits (ns : ℤ) : Bool := decide (0 < ns ∧ ns < 2 ^ 64)

def Point.freshAt (now : D) : Point D S → Bool
  | .sending (.target target) =>
    (Session.requireTargetFreshAtBoundary target now "before native encode/send boundary"
      false).isOk
  | .encoded (.target target) _ =>
    (Session.requireTargetFreshAtBoundary target now "after native encode/before send boundary"
      true).isOk
  | _ => true

def Session.targetEncodes (X : Session D S) (headerNs : ℤ) : Point D S → Bool
  | .locked (.target target) =>
    ({ X.codec with stopEncoded := false }.encodeTarget target headerNs).2.isOk
  | _ => true

/-- **The surroundings of the session are healthy in a step**: the child's packets are accepted and
carry no fault, the socket is writable and takes every packet, the clocks and the counters fit their
fields, and the publisher publishes the staged target in time. -/
def SessionStep.healthy (X : Session D S) : SessionStep D S → Bool
  | .receive header packet =>
    match (X.codec.decode header packet).2 with
    | .ok (.stopProof event) => event.payload.terminalFaultCode = 0
    | .ok _ => true
    | .error _ => false
  | .handle =>
    match (X.threads .pump).point with
    | .handling event => (X.checkEvent event).isOk
    | _ => true
  | .recordAck now =>
    match (X.threads .pump).point with
    | .ackChecked p => (X.ledger.perform (.acknowledge "franka" p.targetSequence now)).2.isOk
    | _ => true
  | .pumpException _ => false
  | .publish target => ({ X with stopRequested := false }.publishChecks target).isOk
  | .acquire i writable now =>
    (match writable with
      | .ok true => true
      | _ => false) && (X.threads i).point.freshAt now
  | .encode i armChecked payloadNs headerNs =>
    armChecked.isOk && timeFits payloadNs && timeFits headerNs &&
      decide (X.codec.parentPacketSequence + 1 < 2 ^ 64) &&
      X.targetEncodes headerNs (X.threads i).point
  | .transmit i now answer => decide (answer = .taken) && (X.threads i).point.freshAt now
  | _ => true

/-- The run ends through the clean stop so far: no failure was recorded, the loop was left for a
stop proof only, and nothing follows STOP, neither on the socket nor in the encoder. -/
structure EndsCleanly (X : Session D S) : Prop where
  failure : X.failure = none
  asyncFailure : X.asyncFailure = none
  proven : X.pumpPhase = .cleanup ∨ X.pumpPhase = .finished → X.stopProofSeen = true
  last : ∀ before packet after, X.wire = before ++ packet :: after →
    packet.payload.kind = .stop → after = []
  encoded : X.codec.stopEncoded = true → ∀ i operation packet,
    (X.threads i).point = .encoded operation packet → packet.payload.kind = .stop

/-! ## The condition -/

def Session.pumpWaitsToSend (X : Session D S) : Bool :=
  match (X.threads .pump).point with
  | .sending .arm | .sending .heartbeat => true
  | _ => false

def Point.checksStop : Point D S → Bool
  | .sending (.target _) | .encoded (.target _) _ => true
  | _ => false

/-- **The condition on a step**: STOP is encoded after HELLO and while the loop does not wait for
the send lock with a packet that it decided on before, and no target is published or looks at the
stop flag once a stop is requested. -/
def StopsOutsideSends (X : Session D S) : SessionStep D S → Bool
  | .encode i _ _ _ =>
    match (X.threads i).point with
    | .locked (.stop _) => X.codec.sessionNonce.isSome && !X.pumpWaitsToSend
    | _ => true
  | .publish _ => !X.stopRequested
  | .acquire i _ _ | .transmit i _ _ => !((X.threads i).point.checksStop && X.stopRequested)
  | _ => true

/-! ## The encoders -/

theorem timeFits_iff {ns : ℤ} : timeFits ns = true ↔ 0 < ns ∧ ns < 2 ^ 64 := by
  rw [timeFits, decide_eq_true_iff]

section Encoders

variable {c : V94NativePODCodec} {headerNs : ℤ} (hnonce : c.sessionNonce.isSome = true)
  (htime : timeFits headerNs = true) (hsequence : c.parentPacketSequence + 1 < 2 ^ 64)

include hnonce htime hsequence

omit [FloatArith D] in
theorem encode_succeeds (payload : ParentPayload D) : ∃ header,
    c.encode payload headerNs =
      ({ c with parentPacketSequence := c.parentPacketSequence + 1 }, .ok ⟨header, payload⟩) := by
  obtain ⟨nonce, hnonce⟩ := Option.isSome_iff_exists.mp hnonce
  obtain ⟨hpos, hfit⟩ := timeFits_iff.mp htime
  have hpack : packU64 ((c.parentPacketSequence : ℤ) + 1) = .ok (c.parentPacketSequence + 1) := by
    exact_mod_cast packU64_natCast hsequence
  have hpackTime : packU64 (headerNs.toNat : ℤ) = .ok headerNs.toNat :=
    packU64_natCast (by omega)
  refine ⟨⟨c.parentPacketSequence + 1, headerNs.toNat, nonce⟩, ?_⟩
  rw [V94NativePODCodec.encode, hnonce]
  dsimp only
  rw [nativePositiveInteger_of_pos hpos, except_ok_bind, hpack, except_ok_bind, hpackTime,
    except_ok_bind]
  rfl

omit [FloatArith D] in
theorem encodeArm_succeeds {armChecked : Except PyError (ArmPayload D)}
    (hchecked : armChecked.isOk = true) (hhello : c.helloValidated = true)
    (harm : c.armEncoded = false) (hstop : c.stopEncoded = false) : ∃ packet,
    c.encodeArm armChecked headerNs =
        ({ c with parentPacketSequence := c.parentPacketSequence + 1, armEncoded := true },
          .ok packet) ∧
      packet.payload.kind = .arm := by
  cases armChecked with
  | error e => cases hchecked
  | ok payload =>
    obtain ⟨header, heq⟩ := encode_succeeds hnonce htime hsequence (.arm payload)
    refine ⟨⟨header, .arm payload⟩, ?_, rfl⟩
    have hguard : ¬ (!c.helloValidated || c.armEncoded || c.stopEncoded) = true := by
      rw [hhello, harm, hstop]
      decide
    rw [V94NativePODCodec.encodeArm, if_neg hguard]
    rw [heq]

omit [FloatArith D] in
theorem encodeHeartbeat_succeeds (harm : c.armEncoded = true) (hstop : c.stopEncoded = false)
    (hcount : c.heartbeatSequence ≤ c.parentPacketSequence) : ∃ packet : ParentPacket D,
    c.encodeHeartbeat headerNs =
        ({ c with
            parentPacketSequence := c.parentPacketSequence + 1
            heartbeatSequence := c.heartbeatSequence + 1 }, .ok packet) ∧
      packet.payload.kind = .heartbeat := by
  have hpack : packU64 ((c.heartbeatSequence + 1 : ℕ) : ℤ) = .ok (c.heartbeatSequence + 1) :=
    packU64_natCast (by omega)
  obtain ⟨header, heq⟩ := encode_succeeds (D := D)
    (c := { c with heartbeatSequence := c.heartbeatSequence + 1 }) hnonce htime hsequence
    (.heartbeat ⟨c.heartbeatSequence + 1⟩)
  have hguard : ¬ (!c.armEncoded || c.stopEncoded) = true := by
    rw [harm, hstop]
    decide
  refine ⟨⟨header, .heartbeat ⟨c.heartbeatSequence + 1⟩⟩, ?_, rfl⟩
  rw [V94NativePODCodec.encodeHeartbeat, if_neg hguard]
  dsimp only
  rw [hpack]
  exact heq

omit [FloatArith D] in
theorem encodeStop_succeeds {reason : String} {payloadNs : ℤ} (hreason : pyStrip reason ≠ "")
    (hpayload : timeFits payloadNs = true) (hstop : c.stopEncoded = false) :
    ∃ packet : ParentPacket D,
    c.encodeStop reason payloadNs headerNs =
        ({ c with parentPacketSequence := c.parentPacketSequence + 1, stopEncoded := true },
          .ok packet) ∧
      packet.payload.kind = .stop := by
  obtain ⟨hpos, hfit⟩ := timeFits_iff.mp hpayload
  obtain ⟨header, heq⟩ := encode_succeeds (D := D) hnonce htime hsequence
    (.stop ⟨1, 0, payloadNs.toNat⟩)
  have hpack : packU64 (payloadNs.toNat : ℤ) = .ok payloadNs.toNat := packU64_natCast (by omega)
  have hguard : ¬ (c.sessionNonce.isNone || c.stopEncoded) = true := by
    rw [← Option.not_isSome, hnonce, hstop]
    decide
  refine ⟨⟨header, .stop ⟨1, 0, payloadNs.toNat⟩⟩, ?_, rfl⟩
  rw [V94NativePODCodec.encodeStop, if_neg hreason, if_neg hguard,
    nativePositiveInteger_of_pos hpos, except_ok_bind, hpack]
  dsimp only
  rw [heq]

end Encoders

omit [FloatArith D] in
theorem encode_eq_ok {c c' : V94NativePODCodec} {payload : ParentPayload D} {headerNs : ℤ}
    {packet : ParentPacket D} (h : c.encode payload headerNs = (c', .ok packet)) :
    c' = { c with parentPacketSequence := c.parentPacketSequence + 1 } ∧
      packet.payload = payload := by
  rw [V94NativePODCodec.encode] at h
  split at h
  · cases h
  · simp only [Prod.mk.injEq, except_bind_eq_ok] at h
    obtain ⟨rfl, ns, -, sequence, -, time, -, hpacket⟩ := h
    rw [← Except.ok.inj hpacket]
    exact ⟨rfl, rfl⟩

/-- **A target that encodes without STOP encodes**, and changes neither flag. -/
theorem encodeTarget_succeeds {c : V94NativePODCodec} {target : FrankaJointTarget D S}
    {headerNs : ℤ} (hstop : c.stopEncoded = false)
    (h : ({ c with stopEncoded := false }.encodeTarget target headerNs).2.isOk = true) :
    ∃ c' packet, c.encodeTarget target headerNs = (c', .ok packet) ∧
      c' = { c with
        parentPacketSequence := c.parentPacketSequence + 1
        lastTargetSequence := target.sequence
        pendingTargetSequence := some target.sequence } ∧
      packet.payload.kind = .target := by
  have hsame : { c with stopEncoded := false } = c := by
    rw [← hstop]
  rw [hsame] at h
  rw [V94NativePODCodec.encodeTarget] at h ⊢
  split_ifs at h ⊢
  · cases h
  · cases h
  · cases h
  · cases h
  · cases h
  cases hcommand : target.closedLoopCommand with
  | none =>
    rw [hcommand] at h
    cases h
  | some command =>
    rw [hcommand] at h
    dsimp only at h ⊢
    split_ifs at h ⊢
    · cases h
    cases hpayload : V94NativePODCodec.targetPayload target command with
    | error e =>
      rw [hpayload] at h
      cases h
    | ok payload =>
      rw [hpayload] at h
      dsimp only at h ⊢
      cases hencode : c.encode (.target payload) headerNs with
      | mk c' result =>
        rw [hencode] at h
        cases result with
        | error e => cases h
        | ok packet =>
          obtain ⟨rfl, hpacket⟩ := encode_eq_ok hencode
          refine ⟨_, packet, rfl, rfl, ?_⟩
          rw [hpacket]
          rfl

/-! ## The invariant -/

def Point.claimsStop : Point D S → Bool
  | .sending (.stop _) | .locked (.stop _) => true
  | _ => false

def Session.Relies (X : Session D S) (i : Thread) : SendOperation D S → Prop
  | .arm => i = .pump ∧ X.codec.helloValidated = true ∧ X.codec.armEncoded = false ∧
      X.codec.stopEncoded = false
  | .heartbeat => i = .pump ∧ X.codec.armEncoded = true ∧ X.codec.stopEncoded = false
  | .target _ => True
  | .stop reason => pyStrip reason ≠ "" ∧ X.stopPacketSent = true ∧ X.codec.stopEncoded = false

def Session.ReliesEncoded (X : Session D S) (i : Thread) (packet : ParentPacket D) :
    SendOperation D S → Prop
  | .arm => i = .pump ∧ packet.payload.kind ≠ .stop ∧ X.codec.armEncoded = true ∧
      X.codec.stopEncoded = false
  | .heartbeat | .target _ => packet.payload.kind ≠ .stop ∧ X.codec.stopEncoded = false
  | .stop _ => packet.payload.kind = .stop ∧ X.codec.stopEncoded = true ∧
      ∀ sent ∈ X.wire, sent.payload.kind ≠ .stop

def Session.PointOk (X : Session D S) (i : Thread) : Point D S → Prop
  | .sending operation => X.endpoint = true ∧ X.Relies i operation
  | .locked operation =>
    X.sendLock = some i ∧ X.Relies i operation ∧ X.codec.stopEncoded = false
  | .encoded operation packet => X.sendLock = some i ∧ X.ReliesEncoded i packet operation
  | .handling .hello => X.codec.helloValidated = true
  | .handling (.stopProof event) => event.payload.terminalFaultCode = 0
  | _ => True

def Session.TodoOk (X : Session D S) : Followup → Prop
  | .cleanStop => X.stopRequested = true
  | .stopOnce reason => X.stopRequested = true ∧ pyStrip reason ≠ ""
  | .enterCleanup => X.stopProofSeen = true
  | _ => False

/-- **The flags of a session whose stop is clean.** -/
structure FlagsCalm (X : Session D S) : Prop where
  failure : X.failure = none
  asyncFailure : X.asyncFailure = none
  started : X.runStarted = true → X.endpoint = true
  loop : X.pumpPhase = .loop → X.runStarted = true
  hello : X.hello = true → X.codec.helloValidated = true
  nonce : X.codec.helloValidated = true → X.codec.sessionNonce.isSome = true
  armed : X.armed = true → X.codec.armEncoded = true
  armEncoded : X.codec.armEncoded = true → X.codec.sessionNonce.isSome = true
  counter : X.codec.heartbeatSequence ≤ X.codec.parentPacketSequence
  requested : X.stopPacketSent = true → X.stopRequested = true
  claimed : X.codec.stopEncoded = true → X.stopPacketSent = true
  proven : X.pumpPhase = .cleanup ∨ X.pumpPhase = .finished → X.stopProofSeen = true
  wire : X.codec.stopEncoded = false → ∀ packet ∈ X.wire, packet.payload.kind ≠ .stop
  last : ∀ before packet after, X.wire = before ++ packet :: after →
    packet.payload.kind = .stop → after = []

/-- No STOP is encoded before a stop is requested. -/
theorem FlagsCalm.stopEncoded_eq_false {X : Session D S} (h : FlagsCalm X)
    (hrequested : X.stopRequested = false) : X.codec.stopEncoded = false :=
  Bool.eq_false_of_not_eq_true fun hencoded => by
    rw [h.requested (h.claimed hencoded)] at hrequested
    cases hrequested

/-- **The threads of a session whose stop is clean.** -/
structure ThreadsCalm (X : Session D S) : Prop where
  point : ∀ i, X.PointOk i (X.threads i).point
  todo : ∀ i, ∀ f ∈ (X.threads i).todo, X.TodoOk f
  unique : ∀ i j, (X.threads i).point.claimsStop = true →
    (X.threads j).point.claimsStop = true → i = j
  armOnce : X.codec.armEncoded = true → X.armed = true ∨
    ∃ packet, (X.threads .pump).point = .encoded .arm packet

/-- **A session whose stop is clean.** -/
structure Calm (X : Session D S) : Prop where
  flags : FlagsCalm X
  threads : ThreadsCalm X

theorem calm_init (maximumTargetCount : ℕ) (ledger : ExecutedActionLedger D S) :
    Calm (Session.init maximumTargetCount ledger) where
  flags :=
    { failure := rfl
      asyncFailure := rfl
      started := nofun
      loop := nofun
      hello := nofun
      nonce := nofun
      armed := nofun
      armEncoded := nofun
      counter := le_rfl
      requested := nofun
      claimed := nofun
      proven := nofun
      wire := fun _ _ h => by cases h
      last := fun before packet after h => by simp [Session.init] at h }
  threads :=
    { point := fun _ => trivial
      todo := fun _ _ h => by cases h
      unique := fun _ _ h => by cases h
      armOnce := nofun }

theorem Calm.endsCleanly {X : Session D S} (h : Calm X) : EndsCleanly X where
  failure := h.flags.failure
  asyncFailure := h.flags.asyncFailure
  proven := h.flags.proven
  last := h.flags.last
  encoded hstop i operation packet hpoint := by
    have hok := h.threads.point i
    rw [hpoint] at hok
    cases operation with
    | arm => exact absurd hok.2.2.2.2 (by rw [hstop]; decide)
    | heartbeat => exact absurd hok.2.2 (by rw [hstop]; decide)
    | target target => exact absurd hok.2.2 (by rw [hstop]; decide)
    | stop reason => exact hok.2.1

/-! ## What one thread's step leaves to the others -/

/-- `Y` keeps what the threads of `X` rely on. -/
structure Upholds (X Y : Session D S) : Prop where
  endpoint : X.endpoint = true → Y.endpoint = true
  helloValidated : X.codec.helloValidated = true → Y.codec.helloValidated = true
  armEncoded : Y.codec.armEncoded = X.codec.armEncoded
  stopEncoded : Y.codec.stopEncoded = X.codec.stopEncoded
  stopPacketSent : X.stopPacketSent = true → Y.stopPacketSent = true
  stopRequested : X.stopRequested = true → Y.stopRequested = true
  stopProofSeen : X.stopProofSeen = true → Y.stopProofSeen = true
  armed : Y.armed = X.armed
  sendLock : Y.sendLock = X.sendLock
  wire : Y.wire = X.wire
  threads : Y.threads = X.threads

theorem Upholds.refl (X : Session D S) : Upholds X X :=
  ⟨id, id, rfl, rfl, id, id, id, rfl, rfl, rfl, rfl⟩

theorem Upholds.relies {X Y : Session D S} (h : Upholds X Y) {i : Thread}
    {operation : SendOperation D S} (hok : X.Relies i operation) : Y.Relies i operation := by
  cases operation with
  | arm =>
    obtain ⟨hi, hhello, harm, hstop⟩ := hok
    exact ⟨hi, h.helloValidated hhello, h.armEncoded ▸ harm, h.stopEncoded ▸ hstop⟩
  | heartbeat =>
    obtain ⟨hi, harm, hstop⟩ := hok
    exact ⟨hi, h.armEncoded ▸ harm, h.stopEncoded ▸ hstop⟩
  | target target => trivial
  | stop reason =>
    obtain ⟨hreason, hclaimed, hstop⟩ := hok
    exact ⟨hreason, h.stopPacketSent hclaimed, h.stopEncoded ▸ hstop⟩

theorem Upholds.pointOk {X Y : Session D S} (h : Upholds X Y) {i : Thread} {point : Point D S}
    (hok : X.PointOk i point) : Y.PointOk i point := by
  cases point with
  | sending operation => exact ⟨h.endpoint hok.1, h.relies hok.2⟩
  | locked operation =>
    exact ⟨h.sendLock ▸ hok.1, h.relies hok.2.1, h.stopEncoded ▸ hok.2.2⟩
  | encoded operation packet =>
    refine ⟨h.sendLock ▸ hok.1, ?_⟩
    cases operation with
    | arm =>
      obtain ⟨-, hi, hkind, harm, hstop⟩ := hok
      exact ⟨hi, hkind, h.armEncoded ▸ harm, h.stopEncoded ▸ hstop⟩
    | heartbeat => exact ⟨hok.2.1, h.stopEncoded ▸ hok.2.2⟩
    | target target => exact ⟨hok.2.1, h.stopEncoded ▸ hok.2.2⟩
    | stop reason => exact ⟨hok.2.1, h.stopEncoded ▸ hok.2.2.1, h.wire ▸ hok.2.2.2⟩
  | handling event =>
    cases event with
    | hello => exact h.helloValidated hok
    | stopProof event => exact hok
    | _ => trivial
  | _ => trivial

theorem Upholds.todoOk {X Y : Session D S} (h : Upholds X Y) {f : Followup} (hok : X.TodoOk f) :
    Y.TodoOk f := by
  cases f with
  | cleanStop => exact h.stopRequested hok
  | stopOnce reason => exact ⟨h.stopRequested hok.1, hok.2⟩
  | enterCleanup => exact h.stopProofSeen hok
  | _ => exact hok.elim

theorem ThreadsCalm.of_upholds {X Y : Session D S} (h : ThreadsCalm X) (hup : Upholds X Y) :
    ThreadsCalm Y where
  point i := by
    rw [hup.threads]
    exact hup.pointOk (h.point i)
  todo i f hf := by
    rw [hup.threads] at hf
    exact hup.todoOk (h.todo i f hf)
  unique i j := by
    rw [hup.threads]
    exact h.unique i j
  armOnce harm := by
    rw [hup.armEncoded] at harm
    rw [hup.armed, hup.threads]
    exact h.armOnce harm

/-- **One thread moves** outside the send lock, to a point that relies on what is there. -/
theorem ThreadsCalm.setThread {X : Session D S} (h : ThreadsCalm X) {i : Thread}
    {thread : ThreadState D S} (hold : (X.threads i).point.grip = none)
    (hpoint : X.PointOk i thread.point) (htodo : ∀ f ∈ thread.todo, X.TodoOk f)
    (hclaim : thread.point.claimsStop = true → ∀ j, (X.threads j).point.claimsStop = false) :
    ThreadsCalm (X.setThread i thread) where
  point j := by
    by_cases hj : j = i
    · subst hj
      rw [Session.setThread_threads_self]
      exact hpoint
    · rw [Session.setThread_threads_of_ne _ hj]
      exact h.point j
  todo j f hf := by
    by_cases hj : j = i
    · subst hj
      rw [Session.setThread_threads_self] at hf
      exact htodo f hf
    · rw [Session.setThread_threads_of_ne _ hj] at hf
      exact h.todo j f hf
  unique j k hjclaim hkclaim := by
    by_cases hj : j = i
    · by_cases hk : k = i
      · rw [hj, hk]
      · subst hj
        rw [Session.setThread_threads_self] at hjclaim
        rw [Session.setThread_threads_of_ne _ hk, hclaim hjclaim k] at hkclaim
        cases hkclaim
    · by_cases hk : k = i
      · subst hk
        rw [Session.setThread_threads_self] at hkclaim
        rw [Session.setThread_threads_of_ne _ hj, hclaim hkclaim j] at hjclaim
        cases hjclaim
      · rw [Session.setThread_threads_of_ne _ hj] at hjclaim
        rw [Session.setThread_threads_of_ne _ hk] at hkclaim
        exact h.unique j k hjclaim hkclaim
  armOnce harm := by
    refine (h.armOnce harm).imp_right ?_
    rintro ⟨packet, hpacket⟩
    refine ⟨packet, ?_⟩
    by_cases hi : Thread.pump = i
    · subst hi
      rw [hpacket] at hold
      cases hold
    · rw [Session.setThread_threads_of_ne _ hi]
      exact hpacket

theorem FlagsCalm.setThread {X : Session D S} (h : FlagsCalm X) (i : Thread)
    (thread : ThreadState D S) : FlagsCalm (X.setThread i thread) :=
  { h with }

/-! ## Packets of the child -/

structure DecodeKeeps (c c' : V94NativePODCodec) : Prop where
  stopEncoded : c'.stopEncoded = c.stopEncoded
  armEncoded : c'.armEncoded = c.armEncoded
  heartbeatSequence : c'.heartbeatSequence = c.heartbeatSequence
  parentPacketSequence : c'.parentPacketSequence = c.parentPacketSequence
  helloValidated : c.helloValidated = true → c'.helloValidated = true
  sessionNonce : c.sessionNonce.isSome = true → c'.sessionNonce.isSome = true
  validated : c'.helloValidated = true → c.helloValidated = true ∨ c'.sessionNonce.isSome = true

theorem DecodeKeeps.refl (c : V94NativePODCodec) : DecodeKeeps c c :=
  ⟨rfl, rfl, rfl, rfl, id, id, .inl⟩

theorem decodePacket_keeps (c : V94NativePODCodec) (header : PacketHeader)
    (telemetry isHello : Bool) :
    DecodeKeeps c (c.decodePacket header telemetry isHello).1 ∧
      (telemetry = false → (c.decodePacket header telemetry isHello).2 = .ok () →
        (c.decodePacket header telemetry isHello).1.sessionNonce.isSome = true) := by
  rw [V94NativePODCodec.decodePacket]
  by_cases hzero : header.monotonicNs = 0
  · rw [if_pos hzero]
    exact ⟨.refl c, fun _ hok => by cases hok⟩
  rw [if_neg hzero]
  cases telemetry with
  | true =>
    refine ⟨?_, fun hparent => by cases hparent⟩
    rw [if_pos rfl]
    split_ifs
    · exact .refl c
    · exact .refl c
    · exact .refl c
    · exact ⟨rfl, rfl, rfl, rfl, id, id, .inl⟩
  | false =>
    rw [if_neg Bool.false_ne_true]
    cases c.requireSession header isHello with
    | error e => exact ⟨.refl c, fun _ hok => by cases hok⟩
    | ok _ =>
      dsimp only
      split_ifs
      · exact ⟨.refl c, fun _ hok => by cases hok⟩
      · exact ⟨.refl c, fun _ hok => by cases hok⟩
      · exact ⟨⟨rfl, rfl, rfl, rfl, id, fun _ => rfl, .inl⟩, fun _ _ => rfl⟩

theorem decodePayload_keeps (c : V94NativePODCodec) (packet : ChildPacket D)
    (hnonce : packet.isTelemetry = false → c.sessionNonce.isSome = true) :
    DecodeKeeps c (c.decodePayload packet).1 ∧
      ((c.decodePayload packet).2 = .ok .hello →
        (c.decodePayload packet).1.helloValidated = true) := by
  cases packet with
  | hello identity =>
    cases identity with
    | error e => exact ⟨.refl c, fun h => by cases h⟩
    | ok _ =>
      exact ⟨⟨rfl, rfl, rfl, rfl, fun _ => rfl, id, fun _ => .inr (hnonce rfl)⟩, fun _ => rfl⟩
  | ipcReady proof =>
    cases proof <;> simp only [V94NativePODCodec.decodePayload] <;> split_ifs
    all_goals exact ⟨⟨rfl, rfl, rfl, rfl, id, id, .inl⟩, fun h => by cases h⟩
  | actionReady p =>
    rw [V94NativePODCodec.decodePayload, V94NativePODCodec.decodeActionReady]
    split_ifs
    all_goals exact ⟨⟨rfl, rfl, rfl, rfl, id, id, .inl⟩, fun h => by cases h⟩
  | ack p =>
    rw [V94NativePODCodec.decodePayload, V94NativePODCodec.decodeAck]
    split_ifs
    all_goals exact ⟨⟨rfl, rfl, rfl, rfl, id, id, .inl⟩, fun h => by cases h⟩
  | fault e => exact ⟨.refl c, fun h => by cases h⟩
  | stopProof p =>
    refine ⟨.refl c, fun h => ?_⟩
    rw [V94NativePODCodec.decodePayload] at h
    cases hproof : decodeStopProof p with
    | error e =>
      rw [hproof] at h
      cases h
    | ok event =>
      rw [hproof] at h
      cases h
  | state cycle snapshot => exact ⟨.refl c, fun h => by cases snapshot <;> cases h⟩

/-- **Decoding keeps the flags of the codec**, and a HELLO that it returns is validated. -/
theorem decode_keeps (c : V94NativePODCodec) (header : PacketHeader) (packet : ChildPacket D) :
    DecodeKeeps c (c.decode header packet).1 ∧
      ((c.decode header packet).2 = .ok .hello →
        (c.decode header packet).1.helloValidated = true) := by
  have hpacket := decodePacket_keeps c header packet.isTelemetry packet.isHello
  rw [V94NativePODCodec.decode]
  revert hpacket
  generalize c.decodePacket header packet.isTelemetry packet.isHello = decoded
  intro hpacket
  obtain ⟨c', e | u⟩ := decoded
  · exact ⟨hpacket.1, fun h => by cases h⟩
  · obtain ⟨keeps, hnonce⟩ := hpacket
    obtain ⟨keeps', hhello⟩ := decodePayload_keeps c' packet fun h => hnonce h rfl
    refine ⟨⟨keeps'.stopEncoded.trans keeps.stopEncoded, keeps'.armEncoded.trans keeps.armEncoded,
      keeps'.heartbeatSequence.trans keeps.heartbeatSequence,
      keeps'.parentPacketSequence.trans keeps.parentPacketSequence,
      fun h => keeps'.helloValidated (keeps.helloValidated h),
      fun h => keeps'.sessionNonce (keeps.sessionNonce h), fun h => ?_⟩, hhello⟩
    obtain h | h := keeps'.validated h
    · exact (keeps.validated h).imp_right keeps'.sessionNonce
    · exact .inr h

/-! ## Steps outside the send lock -/

theorem Calm.move {X Y : Session D S} {i : Thread} {thread : ThreadState D S} (h : Calm X)
    (hup : Upholds X Y) (hflags : FlagsCalm Y) (hold : (X.threads i).point.grip = none)
    (hpoint : Y.PointOk i thread.point) (htodo : ∀ f ∈ thread.todo, Y.TodoOk f)
    (hclaim : thread.point.claimsStop = true → ∀ j, (X.threads j).point.claimsStop = false) :
    Calm (Y.setThread i thread) := by
  refine ⟨hflags.setThread i thread, (h.threads.of_upholds hup).setThread ?_ hpoint htodo ?_⟩
  · rw [hup.threads]
    exact hold
  · rw [hup.threads]
    exact hclaim

theorem Session.phase_of_loopFree (X : Session D S) (h : X.loopFree = true) :
    X.pumpPhase = .loop := by
  rw [Session.loopFree, Bool.and_eq_true, decide_eq_true_iff] at h
  exact h.1

/-- The thread has nothing left to do and does not claim STOP. -/
theorem Calm.moveOn {X Y : Session D S} {i : Thread} {point : Point D S} (h : Calm X)
    (hup : Upholds X Y) (hflags : FlagsCalm Y) (hold : (X.threads i).point.grip = none)
    (hpoint : Y.PointOk i point) (hclaim : point.claimsStop = false) :
    Calm (Y.setThread i ⟨point, []⟩) := by
  refine h.move hup hflags hold hpoint (fun f hf => by cases hf) fun hclaimed => ?_
  rw [hclaim] at hclaimed
  cases hclaimed

theorem Calm.idle {X Y : Session D S} {i : Thread} {todo : List Followup} (h : Calm X)
    (hup : Upholds X Y) (hflags : FlagsCalm Y) (hold : (X.threads i).point.grip = none)
    (htodo : ∀ f ∈ todo, Y.TodoOk f) : Calm (Y.setThread i ⟨.idle, todo⟩) :=
  h.move hup hflags hold trivial htodo nofun

theorem parentReason_ne : pyStrip "parent clean stop requested" ≠ "" := by decide +kernel

theorem cleanupReason_ne : pyStrip "native session terminal cleanup" ≠ "" := by decide +kernel

/-- **A followup keeps the session calm**: none reports a failure. -/
theorem Calm.perform {X : Session D S} (h : Calm X) {i : Thread} {rest : List Followup}
    {f : Followup} (hthread : X.threads i = ⟨.idle, f :: rest⟩) : Calm (X.perform i rest f) := by
  have hold : (X.threads i).point.grip = none := by rw [hthread]; rfl
  have hall := h.threads.todo i
  rw [hthread] at hall
  have hok : X.TodoOk f := hall f List.mem_cons_self
  have hrest : ∀ g ∈ rest, X.TodoOk g := fun g hg => hall g (List.mem_cons_of_mem f hg)
  cases f with
  | cleanStop =>
    rw [Session.perform]
    split_ifs
    · refine h.idle (.refl X) h.flags hold fun g hg => ?_
      obtain rfl | hg := List.mem_cons.mp hg
      · exact ⟨hok, parentReason_ne⟩
      · exact hrest g hg
    · exact h.idle (.refl X) h.flags hold hrest
  | stopOnce reason =>
    obtain ⟨hrequested, hreason⟩ := hok
    rw [Session.perform]
    split_ifs with hclaimed
    · exact h.idle (.refl X) h.flags hold hrest
    · -- the thread claims STOP: nobody has claimed it before
      simp only [Bool.or_eq_true, Bool.not_eq_true', not_or, Bool.not_eq_true,
        Bool.not_eq_false] at hclaimed
      obtain ⟨hunclaimed, hendpoint⟩ := hclaimed
      have hopen : X.codec.stopEncoded = false := by
        cases hstop : X.codec.stopEncoded with
        | false => rfl
        | true =>
          have := h.flags.claimed hstop
          rw [hunclaimed] at this
          cases this
      refine h.move ⟨id, id, rfl, rfl, fun _ => rfl, id, id, rfl, rfl, rfl, rfl⟩
        { h.flags with requested := fun _ => hrequested, claimed := fun _ => rfl } hold
        ⟨hendpoint, hreason, rfl, hopen⟩ hrest fun _ j => ?_
      have hpoint := h.threads.point j
      cases hj : (X.threads j).point with
      | sending operation =>
        cases operation with
        | stop other =>
          rw [hj] at hpoint
          exact absurd hpoint.2.2.1 (by rw [hunclaimed]; decide)
        | _ => rfl
      | locked operation =>
        cases operation with
        | stop other =>
          rw [hj] at hpoint
          exact absurd hpoint.2.1.2.1 (by rw [hunclaimed]; decide)
        | _ => rfl
      | _ => rfl
  | enterCleanup =>
    rw [Session.perform]
    refine h.idle ⟨id, id, rfl, rfl, id, fun _ => rfl, id, rfl, rfl, rfl, rfl⟩
      { h.flags with
        requested := fun _ => rfl
        loop := fun hphase => by cases hphase
        proven := fun _ => hok } hold fun g hg => ?_
    obtain rfl | hg := List.mem_cons.mp hg
    · exact ⟨rfl, cleanupReason_ne⟩
    · exact (Upholds.mk id id rfl rfl id (fun _ => rfl) id rfl rfl rfl rfl :
        Upholds X { X with stopRequested := true, pumpPhase := .cleanup }).todoOk (hrest g hg)
  | _ => exact hok.elim

theorem Calm.handleEvent {X : Session D S} (h : Calm X) {event : ChildEvent D}
    {todo : List Followup} (hthread : X.threads .pump = ⟨.handling event, todo⟩)
    (hcheck : (X.checkEvent event).isOk = true) : Calm (X.handleEvent event) := by
  have hold : (X.threads .pump).point.grip = none := by rw [hthread]; rfl
  have hpoint := h.threads.point .pump
  rw [hthread] at hpoint
  cases hresult : X.checkEvent event with
  | error e =>
    rw [hresult] at hcheck
    cases hcheck
  | ok _ =>
    unfold Session.handleEvent
    rw [hresult]
    cases event with
    | hello =>
      exact h.moveOn ⟨id, id, rfl, rfl, id, id, id, rfl, rfl, rfl, rfl⟩
        { h.flags with hello := fun _ => hpoint } hold trivial rfl
    | ipcReady =>
      exact h.moveOn ⟨id, id, rfl, rfl, id, id, id, rfl, rfl, rfl, rfl⟩ { h.flags with } hold
        trivial rfl
    | actionReady p =>
      exact h.moveOn ⟨id, id, rfl, rfl, id, id, id, rfl, rfl, rfl, rfl⟩ { h.flags with } hold
        trivial rfl
    | ack p => exact h.moveOn (.refl X) h.flags hold trivial rfl
    | fault e =>
      rw [Session.checkEvent] at hresult
      split_ifs at hresult
    | stopProof event =>
      refine h.idle ⟨id, id, rfl, rfl, id, id, fun _ => rfl, rfl, rfl, rfl, rfl⟩
        { h.flags with proven := fun _ => rfl } hold fun f hf => ?_
      -- a proof without a fault leaves the loop and latches nothing
      have hfault : event.payload.terminalFaultCode = 0 := hpoint
      rw [if_pos hfault, List.nil_append] at hf
      split_ifs at hf
      · rw [List.mem_singleton.mp hf]
        exact rfl
      · cases hf
    | state cycle =>
      exact h.moveOn ⟨id, id, rfl, rfl, id, id, id, rfl, rfl, rfl, rfl⟩ { h.flags with } hold
        trivial rfl

/-! ## Steps inside the send lock -/

theorem ThreadsCalm.grip_eq_none {X : Session D S} (h : ThreadsCalm X) {j : Thread}
    (hlock : X.sendLock ≠ some j) : (X.threads j).point.grip = none := by
  have hpoint := h.point j
  cases hj : (X.threads j).point with
  | locked operation =>
    rw [hj] at hpoint
    exact absurd hpoint.1 hlock
  | encoded operation packet =>
    rw [hj] at hpoint
    exact absurd hpoint.1 hlock
  | _ => rfl

/-- **The holder of the send lock moves**: the others are outside, and rely on little. -/
theorem ThreadsCalm.lockStep {X Y : Session D S} {i : Thread} {thread : ThreadState D S}
    (h : ThreadsCalm X) (hothers : ∀ j, j ≠ i → (X.threads j).point.grip = none)
    (hthreads : Y.threads = X.threads) (hendpoint : Y.endpoint = X.endpoint)
    (hhello : Y.codec.helloValidated = X.codec.helloValidated)
    (hrequested : Y.stopRequested = X.stopRequested) (hseen : Y.stopProofSeen = X.stopProofSeen)
    (hrelies : ∀ j operation, j ≠ i → (X.threads j).point = .sending operation →
      X.Relies j operation → Y.Relies j operation)
    (hpoint : Y.PointOk i thread.point) (htodo : thread.todo = (X.threads i).todo)
    (hclaim : thread.point.claimsStop = true → (X.threads i).point.claimsStop = true)
    (harm : Y.codec.armEncoded = true → Y.armed = true ∨
      ∃ packet, ((Y.setThread i thread).threads .pump).point = .encoded .arm packet) :
    ThreadsCalm (Y.setThread i thread) where
  point j := by
    by_cases hj : j = i
    · subst hj
      rw [Session.setThread_threads_self]
      exact hpoint
    · rw [Session.setThread_threads_of_ne _ hj, hthreads]
      have hok := h.point j
      have hout := hothers j hj
      cases hcase : (X.threads j).point with
      | sending operation =>
        rw [hcase] at hok
        exact ⟨hendpoint.trans hok.1, hrelies j operation hj hcase hok.2⟩
      | locked operation =>
        rw [hcase] at hout
        cases hout
      | encoded operation packet =>
        rw [hcase] at hout
        cases hout
      | handling event =>
        rw [hcase] at hok
        cases event with
        | hello => exact hhello.trans hok
        | stopProof event => exact hok
        | _ => trivial
      | _ => trivial
  todo j f hf := by
    have hf' : f ∈ (X.threads j).todo := by
      by_cases hj : j = i
      · subst hj
        rwa [Session.setThread_threads_self, htodo] at hf
      · rwa [Session.setThread_threads_of_ne _ hj, hthreads] at hf
    have hok := h.todo j f hf'
    cases f with
    | cleanStop => exact hrequested.trans hok
    | stopOnce reason => exact ⟨hrequested.trans hok.1, hok.2⟩
    | enterCleanup => exact hseen.trans hok
    | _ => exact hok.elim
  unique j k hj hk := by
    have claims : ∀ l, ((Y.setThread i thread).threads l).point.claimsStop = true →
        (X.threads l).point.claimsStop = true := by
      intro l hl
      by_cases hli : l = i
      · subst hli
        rw [Session.setThread_threads_self] at hl
        exact hclaim hl
      · rwa [Session.setThread_threads_of_ne _ hli, hthreads] at hl
    exact h.unique j k (claims j hj) (claims k hk)
  armOnce := harm

theorem beforeEncode_eq_ok {X : Session D S} {i : Thread} {operation : SendOperation D S}
    {todo : List Followup} {writable : Except String Bool} {now : D}
    (hthread : X.threads i = ⟨.sending operation, todo⟩) (hendpoint : X.endpoint = true)
    (hhealthy : (SessionStep.acquire i writable now : SessionStep D S).healthy X = true)
    (hcondition : StopsOutsideSends X (.acquire i writable now) = true) :
    X.beforeEncode operation writable now = .ok () := by
  simp only [SessionStep.healthy, hthread, Bool.and_eq_true] at hhealthy
  obtain ⟨hwritable, hfresh⟩ := hhealthy
  unfold Session.beforeEncode
  rw [hendpoint]
  split at hwritable
  · cases operation with
    | target target =>
      simp only [StopsOutsideSends, hthread, Point.checksStop, Bool.true_and,
        Bool.not_eq_true'] at hcondition
      simp only [Point.freshAt] at hfresh
      simp only [Bool.not_true, Bool.false_eq_true, if_false, hcondition]
      revert hfresh
      generalize Session.requireTargetFreshAtBoundary target now _ false = fresh
      cases fresh with
      | error e => exact nofun
      | ok _ => exact fun _ => rfl
    | _ => rfl
  · cases hwritable

theorem Calm.acquire {X : Session D S} (h : Calm X) {i : Thread}
    {writable : Except String Bool} {now : D}
    (hhealthy : (SessionStep.acquire i writable now : SessionStep D S).healthy X = true)
    (hcondition : StopsOutsideSends X (.acquire i writable now) = true) :
    Calm (X.acquire i writable now) := by
  rw [Session.acquire]
  split
  · next operation todo hfree hthread =>
      have hpoint := h.threads.point i
      rw [hthread] at hpoint
      obtain ⟨hendpoint, hrelies⟩ := hpoint
      rw [beforeEncode_eq_ok hthread hendpoint hhealthy hcondition]
      have hothers : ∀ j, j ≠ i → (X.threads j).point.grip = none := fun j _ =>
        h.threads.grip_eq_none (by rw [hfree]; exact (Option.some_ne_none _).symm)
      have hstop : X.codec.stopEncoded = false := by
        cases operation with
        | arm => exact hrelies.2.2.2
        | heartbeat => exact hrelies.2.2
        | stop reason => exact hrelies.2.2
        | target target =>
          -- the stop flag was not set when the target looked at it
          simp only [StopsOutsideSends, hthread, Point.checksStop, Bool.true_and,
            Bool.not_eq_true'] at hcondition
          exact h.flags.stopEncoded_eq_false hcondition
      have hflags : FlagsCalm { X with sendLock := some i } := { h.flags with }
      refine ⟨hflags.setThread i _, h.threads.lockStep hothers rfl rfl rfl rfl rfl
        (fun _ _ _ _ hok => hok) ⟨rfl, hrelies, hstop⟩ ?_ ?_ ?_⟩
      · rw [hthread]
      · intro hclaim
        rw [hthread]
        cases operation with
        | stop reason => rfl
        | _ => cases hclaim
      · intro harm
        obtain harmed | ⟨packet, hpacket⟩ := h.threads.armOnce harm
        · exact .inl harmed
        · exfalso
          by_cases hi : Thread.pump = i
          · rw [hi, hthread] at hpacket
            cases hpacket
          · have := hothers _ hi
            rw [hpacket] at this
            cases this
  · exact h

theorem Calm.encoded {X : Session D S} {i : Thread} {operation : SendOperation D S}
    {todo : List Followup} {codec : V94NativePODCodec} {packet : ParentPacket D} (h : Calm X)
    (hthread : X.threads i = ⟨.locked operation, todo⟩)
    (hhello : codec.helloValidated = X.codec.helloValidated)
    (hflags : FlagsCalm { X with codec := codec })
    (hrelies : ∀ j other, j ≠ i → (X.threads j).point = .sending other →
      X.Relies j other → { X with codec := codec }.Relies j other)
    (hpacket : { X with codec := codec }.ReliesEncoded i packet operation)
    (harm : codec.armEncoded = X.codec.armEncoded ∨ i = .pump ∧ operation = .arm) :
    Calm ({ X with codec := codec }.setThread i ⟨.encoded operation packet, todo⟩) := by
  have hpoint := h.threads.point i
  rw [hthread] at hpoint
  have hlock : X.sendLock = some i := hpoint.1
  have hothers : ∀ j, j ≠ i → (X.threads j).point.grip = none := by
    intro j hj
    refine h.threads.grip_eq_none ?_
    rw [hlock]
    exact fun heq => hj (Option.some.inj heq).symm
  refine ⟨hflags.setThread i _, h.threads.lockStep hothers rfl rfl hhello rfl rfl hrelies
    ⟨hlock, hpacket⟩ ?_ nofun fun hencoded => ?_⟩
  · rw [hthread]
  · obtain hsame | ⟨rfl, rfl⟩ := harm
    · obtain harmed | ⟨other, hother⟩ := h.threads.armOnce (hsame.symm.trans hencoded)
      · exact .inl harmed
      · exfalso
        by_cases hi : Thread.pump = i
        · rw [hi, hthread] at hother
          cases hother
        · have := hothers _ hi
          rw [hother] at this
          cases this
    · right
      refine ⟨packet, ?_⟩
      rw [Session.setThread_threads_self]

/-- **Encoding keeps the session calm**: no encoder refuses. -/
theorem Calm.encode {X : Session D S} (h : Calm X) {i : Thread}
    {armChecked : Except PyError (ArmPayload D)} {payloadNs headerNs : ℤ}
    (hhealthy : (SessionStep.encode i armChecked payloadNs headerNs :
      SessionStep D S).healthy X = true)
    (hcondition : StopsOutsideSends X (.encode i armChecked payloadNs headerNs) = true) :
    Calm (X.encode i armChecked payloadNs headerNs) := by
  rw [Session.encode]
  split
  · next operation todo hthread =>
      simp only [SessionStep.healthy, hthread, Bool.and_eq_true, decide_eq_true_eq] at hhealthy
      obtain ⟨⟨⟨⟨hchecked, hpayload⟩, htime⟩, hsequence⟩, htarget⟩ := hhealthy
      have hpoint := h.threads.point i
      rw [hthread] at hpoint
      obtain ⟨-, hrelies, hstop⟩ := hpoint
      cases operation with
      | arm =>
        obtain ⟨rfl, hhello, harm, -⟩ := hrelies
        obtain ⟨packet, heq, hkind⟩ := encodeArm_succeeds (h.flags.nonce hhello) htime hsequence
          hchecked hhello harm hstop
        rw [Session.encodeOperation, heq]
        refine h.encoded hthread rfl
          { h.flags with
            armed := fun _ => rfl
            armEncoded := fun _ => h.flags.nonce hhello
            counter := Nat.le_succ_of_le h.flags.counter } ?_
          ⟨rfl, by rw [hkind]; decide, rfl, hstop⟩ (.inr ⟨rfl, rfl⟩)
        -- only the pump sends ARM and heartbeats
        intro j other hj _ hok
        cases other with
        | arm => exact absurd hok.1 hj
        | heartbeat => exact absurd hok.1 hj
        | target target => trivial
        | stop reason => exact hok
      | heartbeat =>
        obtain ⟨rfl, harm, -⟩ := hrelies
        obtain ⟨packet, heq, hkind⟩ := encodeHeartbeat_succeeds (D := D)
          (h.flags.armEncoded harm) htime hsequence harm hstop h.flags.counter
        rw [Session.encodeOperation, heq]
        exact h.encoded hthread rfl
          { h.flags with counter := Nat.succ_le_succ h.flags.counter }
          (fun j other _ _ hok => by cases other <;> exact hok)
          ⟨by rw [hkind]; decide, hstop⟩ (.inl rfl)
      | target target =>
        simp only [Session.targetEncodes] at htarget
        obtain ⟨codec, packet, heq, rfl, hkind⟩ := encodeTarget_succeeds hstop htarget
        rw [Session.encodeOperation, heq]
        exact h.encoded hthread rfl
          { h.flags with counter := Nat.le_succ_of_le h.flags.counter }
          (fun j other _ _ hok => by cases other <;> exact hok)
          ⟨by rw [hkind]; decide, hstop⟩ (.inl rfl)
      | stop reason =>
        obtain ⟨hreason, hclaimed, -⟩ := hrelies
        simp only [StopsOutsideSends, hthread, Bool.and_eq_true, Bool.not_eq_true'] at hcondition
        obtain ⟨hnonce, hwaits⟩ := hcondition
        obtain ⟨packet, heq, hkind⟩ := encodeStop_succeeds (D := D) hnonce htime hsequence hreason
          hpayload hstop
        rw [Session.encodeOperation, heq]
        refine h.encoded hthread rfl
          { h.flags with
            claimed := fun _ => hclaimed
            counter := Nat.le_succ_of_le h.flags.counter
            wire := fun hunencoded => by cases hunencoded } ?_ ⟨hkind, rfl, h.flags.wire hstop⟩ (.inl rfl)
        intro j other hj hsending hok
        cases other with
        | arm =>
          obtain ⟨rfl, -⟩ := hok
          rw [Session.pumpWaitsToSend, hsending] at hwaits
          cases hwaits
        | heartbeat =>
          obtain ⟨rfl, -⟩ := hok
          rw [Session.pumpWaitsToSend, hsending] at hwaits
          cases hwaits
        | target target => trivial
        | stop other =>
          -- one thread claims STOP, and it is this one
          have hone := h.threads.unique j i (by rw [hsending]; rfl) (by rw [hthread]; rfl)
          exact absurd hone hj
  · exact h

theorem afterEncode_eq_ok {X : Session D S} {i : Thread} {operation : SendOperation D S}
    {packet : ParentPacket D} {todo : List Followup} {now : D} {answer : SocketAnswer}
    (hthread : X.threads i = ⟨.encoded operation packet, todo⟩)
    (hhealthy : (SessionStep.transmit i now answer : SessionStep D S).healthy X = true)
    (hcondition : StopsOutsideSends X (.transmit i now answer) = true) :
    (X.afterEncode operation now >>= fun _ => Session.sendPacketOnceLocked operation answer) =
      .ok () := by
  simp only [SessionStep.healthy, hthread, Bool.and_eq_true, decide_eq_true_eq] at hhealthy
  obtain ⟨rfl, hfresh⟩ := hhealthy
  cases operation with
  | target target =>
    simp only [StopsOutsideSends, hthread, Point.checksStop, Bool.true_and,
      Bool.not_eq_true'] at hcondition
    simp only [Point.freshAt] at hfresh
    simp only [Session.afterEncode, hcondition, Bool.false_eq_true, if_false]
    revert hfresh
    generalize Session.requireTargetFreshAtBoundary target now _ true = fresh
    cases fresh with
    | error e => exact nofun
    | ok _ => exact fun _ => rfl
  | _ => rfl

theorem Calm.transmit {X : Session D S} (h : Calm X) {i : Thread} {now : D}
    {answer : SocketAnswer}
    (hhealthy : (SessionStep.transmit i now answer : SessionStep D S).healthy X = true)
    (hcondition : StopsOutsideSends X (.transmit i now answer) = true) :
    Calm (X.transmit i now answer) := by
  rw [Session.transmit]
  split
  · next operation packet todo hthread =>
      rw [afterEncode_eq_ok hthread hhealthy hcondition]
      have hpoint := h.threads.point i
      rw [hthread] at hpoint
      obtain ⟨hlock, hrelies⟩ := hpoint
      have hothers : ∀ j, j ≠ i → (X.threads j).point.grip = none := by
        intro j hj
        refine h.threads.grip_eq_none ?_
        rw [hlock]
        exact fun heq => hj (Option.some.inj heq).symm
      have hnostop : ∀ sent ∈ X.wire, sent.payload.kind ≠ .stop := by
        cases operation with
        | arm => exact h.flags.wire hrelies.2.2.2
        | heartbeat => exact h.flags.wire hrelies.2
        | target target => exact h.flags.wire hrelies.2
        | stop reason => exact hrelies.2.2
      have hkind : X.codec.stopEncoded = false → packet.payload.kind ≠ .stop := by
        intro hopen
        cases operation with
        | arm => exact hrelies.2.1
        | heartbeat => exact hrelies.1
        | target target => exact hrelies.1
        | stop reason => exact absurd hrelies.2.1 (by rw [hopen]; decide)
      have hlast : ∀ before sent after, X.wire ++ [packet] = before ++ sent :: after →
          sent.payload.kind = .stop → after = [] := by
        intro before sent after hsplit hstop
        -- a STOP that is not the new packet would be on the socket already
        induction after using List.reverseRecOn with
        | nil => rfl
        | append_singleton after _ _ =>
          rw [← List.cons_append, ← List.append_assoc] at hsplit
          obtain ⟨hwire, -⟩ := List.append_inj' hsplit rfl
          refine absurd hstop (hnostop sent ?_)
          rw [hwire]
          exact List.mem_append_right _ List.mem_cons_self
      have hflags : ∀ armed : Bool, (armed = true → X.codec.armEncoded = true) →
          FlagsCalm { X with sendLock := none, wire := X.wire ++ [packet], armed := armed } := by
        intro armed harmed
        refine { h.flags with armed := harmed, wire := fun hopen sent hsent => ?_, last := hlast }
        obtain hsent | hsent := List.mem_append.mp hsent
        · exact hnostop sent hsent
        · rw [List.mem_singleton.mp hsent]
          exact hkind hopen
      refine ⟨(hflags _ ?_).setThread i _, h.threads.lockStep hothers rfl rfl rfl rfl rfl
        (fun j other _ _ hok => by cases other <;> exact hok) trivial ?_ nofun fun harm => ?_⟩
      · cases operation with
        | arm => exact fun _ => hrelies.2.2.1
        | _ => exact h.flags.armed
      · rw [hthread]
      · left
        obtain harmed | ⟨other, hother⟩ := h.threads.armOnce harm
        · cases operation with
          | arm => rfl
          | _ => exact harmed
        · by_cases hi : Thread.pump = i
          · rw [hi, hthread] at hother
            cases hother
            rfl
          · have := hothers _ hi
            rw [hother] at this
            cases this
  · exact h

/-! ## Whole runs -/

theorem publishChecks_eq_ok_of_healthy {X : Session D S} {target : FrankaJointTarget D S}
    (hhealthy : (SessionStep.publish target).healthy X = true)
    (hcondition : StopsOutsideSends X (.publish target) = true) :
    X.publishChecks target = .ok () := by
  have hsame : { X with stopRequested := false } = X := by
    have hstop : X.stopRequested = false := by
      simpa only [StopsOutsideSends, Bool.not_eq_true'] using hcondition
    rw [← hstop]
  simp only [SessionStep.healthy, hsame] at hhealthy
  cases hchecks : X.publishChecks target with
  | error e =>
    rw [hchecks] at hhealthy
    cases hhealthy
  | ok _ => rfl

theorem runStarted_of_publishChecks {X : Session D S} {target : FrankaJointTarget D S}
    (h : X.publishChecks target = .ok ()) : X.runStarted = true := by
  cases hstarted : X.runStarted with
  | true => rfl
  | false =>
    have hrunning : (!X.runStarted || X.runFinished) = true := by rw [hstarted]; rfl
    rw [Session.publishChecks] at h
    by_cases hsource : target.source ≠ .supervisedV94
    · rw [if_pos hsource] at h
      cases h
    · rw [if_neg hsource, if_pos hrunning] at h
      cases h

/-- **Every step in healthy surroundings that meets the condition keeps the session calm.** -/
theorem Calm.step {X : Session D S} (h : Calm X) (i : SessionStep D S)
    (hhealthy : i.healthy X = true) (hcondition : StopsOutsideSends X i = true) :
    Calm (X.step i) := by
  cases i with
  | start =>
    rw [Session.step]
    split_ifs
    · exact h
    · exact ⟨{ h.flags with
          started := fun _ => rfl
          loop := fun _ => rfl
          proven := fun hphase => by rcases hphase with hphase | hphase <;> cases hphase },
        h.threads.of_upholds ⟨fun _ => rfl, id, rfl, rfl, id, id, id, rfl, rfl, rfl, rfl⟩⟩
  | loopTop =>
    rw [Session.step]
    split
    · next failure _ hasync =>
        rw [h.flags.asyncFailure] at hasync
        cases hasync
    · exact h
  | pumpArm =>
    rw [Session.step]
    split_ifs with hfree
    · simp only [Bool.and_eq_true, Bool.not_eq_true'] at hfree
      obtain ⟨⟨⟨hloop, hhello⟩, harmed⟩, hrequested⟩ := hfree
      have hidle := X.threads_of_loopFree hloop
      have hphase := X.phase_of_loopFree hloop
      have harm : X.codec.armEncoded = false := by
        cases hencoded : X.codec.armEncoded with
        | false => rfl
        | true =>
          obtain hsent | ⟨packet, hpacket⟩ := h.threads.armOnce hencoded
          · rw [harmed] at hsent
            cases hsent
          · rw [hidle] at hpacket
            cases hpacket
      exact h.moveOn (.refl X) h.flags (grip_of_loopFree hloop)
        ⟨h.flags.started (h.flags.loop hphase), rfl, h.flags.hello hhello, harm,
          h.flags.stopEncoded_eq_false hrequested⟩ rfl
    · exact h
  | pumpHeartbeat =>
    rw [Session.step]
    split_ifs with hfree
    · simp only [Bool.and_eq_true, Bool.not_eq_true'] at hfree
      obtain ⟨⟨hloop, harmed⟩, hrequested⟩ := hfree
      have hphase := X.phase_of_loopFree hloop
      exact h.moveOn (.refl X) h.flags (grip_of_loopFree hloop)
        ⟨h.flags.started (h.flags.loop hphase), rfl, h.flags.armed harmed,
          h.flags.stopEncoded_eq_false hrequested⟩ rfl
    · exact h
  | pumpStop =>
    rw [Session.step]
    split_ifs with hfree
    · rw [Bool.and_eq_true] at hfree
      refine h.idle (.refl X) h.flags (grip_of_loopFree hfree.1) fun f hf => ?_
      rw [List.mem_singleton.mp hf]
      exact ⟨hfree.2, cleanupReason_ne⟩
    · exact h
  | receive header packet =>
    rw [Session.step]
    split
    · next hidle =>
        have hold : (X.threads .pump).point.grip = none := by rw [hidle]; rfl
        split_ifs
        · have hkeeps := decode_keeps X.codec header packet
          simp only [SessionStep.healthy] at hhealthy
          revert hkeeps hhealthy
          generalize X.codec.decode header packet = decoded
          obtain ⟨codec, e | event⟩ := decoded
          · intro hhealthy
            cases hhealthy
          · intro hhealthy hkeeps
            obtain ⟨keeps, hhello⟩ := hkeeps
            refine h.moveOn (Y := { X with codec := codec })
              ⟨id, keeps.helloValidated, keeps.armEncoded, keeps.stopEncoded, id, id, id, rfl,
                rfl, rfl, rfl⟩ ?_ hold ?_ rfl
            · exact
                { h.flags with
                  hello := fun hh => keeps.helloValidated (h.flags.hello hh)
                  nonce := fun hh => (keeps.validated hh).elim
                    (fun hh => keeps.sessionNonce (h.flags.nonce hh)) id
                  armed := fun hh => keeps.armEncoded.trans (h.flags.armed hh)
                  armEncoded := fun hh =>
                    keeps.sessionNonce (h.flags.armEncoded (keeps.armEncoded.symm.trans hh))
                  counter := by
                    show codec.heartbeatSequence ≤ codec.parentPacketSequence
                    rw [keeps.heartbeatSequence, keeps.parentPacketSequence]
                    exact h.flags.counter
                  claimed := fun hh => h.flags.claimed (keeps.stopEncoded.symm.trans hh)
                  wire := fun hh => h.flags.wire (keeps.stopEncoded.symm.trans hh) }
            · cases event with
              | hello => exact hhello rfl
              | stopProof event =>
                rw [decide_eq_true_iff] at hhealthy
                exact hhealthy
              | _ => trivial
        · exact h
    · exact h
  | handle =>
    rw [Session.step]
    split
    · next event todo hthread =>
        simp only [SessionStep.healthy, hthread] at hhealthy
        exact h.handleEvent hthread hhealthy
    · exact h
  | recordAck now =>
    rw [Session.step]
    split
    · next p todo hthread =>
        simp only [SessionStep.healthy, hthread] at hhealthy
        rw [Session.recordAck]
        revert hhealthy
        split
        · next e heq =>
            rw [heq]
            intro hhealthy
            cases hhealthy
        · exact fun _ => h.moveOn
            ⟨id, id, rfl, rfl, id, id, id, rfl, rfl, rfl, rfl⟩ { h.flags with }
            (by rw [hthread]; rfl) trivial rfl
    · exact h
  | clearAck =>
    rw [Session.step]
    split
    · next p todo hthread =>
        exact h.moveOn ⟨id, id, rfl, rfl, id, id, id, rfl, rfl, rfl, rfl⟩ { h.flags with }
          (by rw [hthread]; rfl) trivial rfl
    · exact h
  | pumpException e => cases hhealthy
  | finish =>
    rw [Session.step]
    split
    · split_ifs with hphase
      · exact ⟨{ h.flags with
            loop := fun hphase => by cases hphase
            proven := fun _ => h.flags.proven (.inl hphase) },
          h.threads.of_upholds ⟨id, id, rfl, rfl, id, id, id, rfl, rfl, rfl, rfl⟩⟩
      · exact h
    · exact h
  | publish target =>
    rw [Session.step]
    split
    · next hthread =>
        have hchecks := publishChecks_eq_ok_of_healthy hhealthy hcondition
        rw [Session.publish, hchecks]
        exact h.moveOn ⟨id, id, rfl, rfl, id, id, id, rfl, rfl, rfl, rfl⟩ { h.flags with }
          (by rw [hthread]; rfl)
          ⟨h.flags.started (runStarted_of_publishChecks hchecks), trivial⟩ rfl
    · exact h
  | requestCleanStop j =>
    rw [Session.step]
    split
    · next hthread =>
        refine h.idle ⟨id, id, rfl, rfl, id, fun _ => rfl, id, rfl, rfl, rfl, rfl⟩
          { h.flags with requested := fun _ => rfl } (by rw [hthread]; rfl) fun f hf => ?_
        rw [List.mem_singleton.mp hf]
        exact rfl
    · exact h
  | acquire j writable now => exact h.acquire hhealthy hcondition
  | encode j armChecked payloadNs headerNs => exact h.encode hhealthy hcondition
  | transmit j now answer => exact h.transmit hhealthy hcondition
  | followup j =>
    rw [Session.step]
    split
    · next f rest hthread => exact h.perform hthread
    · exact h
  | ledger call =>
    rw [Session.step]
    split_ifs
    · exact ⟨{ h.flags with },
        h.threads.of_upholds ⟨id, id, rfl, rfl, id, id, id, rfl, rfl, rfl, rfl⟩⟩
    · exact h

def resting : StopEnvironment Binary64 where
  backendPresent := true
  activePresent := true
  finishWriteSucceeds := true
  stopSucceeds := true
  reads k := some (restingSample (11 + k))

def restingProof : StopProofPayload Binary64 :=
  emittedStopProof resting stoppedAtTen .requested .none false [] true

/-- The proof of a robot at rest counts three idle samples in a row. -/
example : restingProof.stopConsecutiveIdleSamples = 3 := by decide +kernel

/-- A heartbeat is sent, another thread requests a clean stop and sends STOP, and the child proves
that the robot stopped. -/
def cleanStopSteps : List (SessionStep Binary64 Binary32) :=
  handshakeSteps ++ [.pumpHeartbeat] ++ sendSteps .pump ++
    [.requestCleanStop (.other 0), .followup (.other 0), .followup (.other 0)] ++
    sendSteps (.other 0) ++ [.pumpStop, .followup .pump] ++
    receiveSteps 4 (.stopProof restingProof) ++ [.followup .pump, .followup .pump, .finish]

/-- The loop decides on a heartbeat, another thread requests a clean stop and sends STOP, and the
loop goes on with its heartbeat. -/
def heartbeatRaceSteps : List (SessionStep Binary64 Binary32) :=
  handshakeSteps ++
    [.pumpHeartbeat, .requestCleanStop (.other 0), .followup (.other 0), .followup (.other 0)] ++
    sendSteps (.other 0) ++
    [.acquire .pump (.ok true) FloatArith.one,
      .encode .pump (.ok exampleArmPayload) 1000000000 1000000000]

end FrankaDeploy.NativeSession
