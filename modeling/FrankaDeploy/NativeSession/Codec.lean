import FrankaDeploy.ClosedLoop.Ledger
import FrankaDeploy.NativeSession.StopProofDecode

/-! # The parent's packet codec

`V94NativePODCodec` of `native_session.py` between the fields of a payload and the packet: which
packet the protocol state allows, the sequence numbers it consumes, and what is admitted from the
child. A method returns the state it leaves together with its result, because it may raise after
it changed the state. -/

namespace FrankaDeploy.NativeSession

open FrankaDeploy.Foundation FrankaDeploy.Servo FrankaDeploy.ClosedLoop
open scoped FloatArith

variable {D S : Type} [FloatArith D] [FloatArith S] [FloatCast D S]

/-! ## Targets -/

inductive FrankaTargetSource where
  | c1Deterministic
  | c2V94Policy
  | supervisedV94
deriving DecidableEq, Repr

variable (D S) in
/-- **`FrankaJointTarget`**, with what `__post_init__` checks. -/
structure FrankaJointTarget where
  sequence : ℕ
  producedMonotonicS : D
  targetQRad : Vec 7 D
  source : FrankaTargetSource
  closedLoopCommand : Option (ClosedLoopCommand D S)
  sequence_pos : 0 < sequence
  produced_finite : FloatArith.isFinite producedMonotonicS = true
  target_finite : targetQRad.allFinite = true
  policy : match closedLoopCommand with
    | none => source = .c1Deterministic
    | some command => source ≠ .c1Deterministic ∧ command.sequence = sequence ∧
        FloatArith.eqv command.producedMonotonicS producedMonotonicS = true ∧
        Vec.arrayEqual (fun i => FloatCast.widen (command.frankaTargetQRad.1 i)) targetQRad = true

/-! ## Packets -/

structure PacketHeader where
  sequence : ℕ
  monotonicNs : ℕ
  nonce : Text
deriving DecidableEq, Repr

inductive ParentPayload (D : Type) where
  | arm (payload : ArmPayload D)
  | heartbeat (payload : HeartbeatPayload)
  | target (payload : TargetPayload D)
  | stop (payload : StopPayload)

def ParentPayload.kind : ParentPayload D → MessageKind
  | .arm _ => .arm
  | .heartbeat _ => .heartbeat
  | .target _ => .target
  | .stop _ => .stop

structure ParentPacket (D : Type) where
  header : PacketHeader
  payload : ParentPayload D

/-- **What the child sends.** The outcome of comparisons with the admitted producer, with the
scheduler and of the telemetry checks is an input. -/
inductive ChildPacket (D : Type) where
  | hello (identity : Except PyError Unit)
  | ipcReady (proof : Except PyError Unit)
  | actionReady (payload : ActionReadyPayload D)
  | ack (payload : AckPayload D)
  | fault (error : PyError)
  | stopProof (payload : StopProofPayload D)
  /-- STATE: the control cycle, and whether the snapshot is accepted. -/
  | state (cycle : ℕ) (snapshot : Except PyError Unit)

def ChildPacket.isTelemetry : ChildPacket D → Bool
  | .state .. => true
  | _ => false

def ChildPacket.isHello : ChildPacket D → Bool
  | .hello _ => true
  | _ => false

/-- **What the codec makes of a child's packet.** -/
inductive ChildEvent (D : Type) where
  | hello
  | ipcReady
  | actionReady (payload : ActionReadyPayload D)
  | ack (payload : AckPayload D)
  | fault (error : PyError)
  | stopProof (event : NativeStopProofEvent D)
  | state (cycle : ℕ)

/-! ## The state of the codec -/

/-- **The state of `V94NativePODCodec`.** -/
structure V94NativePODCodec where
  maximumTargetCount : ℕ
  sessionNonce : Option Text
  parentPacketSequence : ℕ
  childCriticalSequence : ℕ
  childStateSequence : ℕ
  lastChildCriticalMonotonicNs : ℕ
  lastChildStateMonotonicNs : ℕ
  heartbeatSequence : ℕ
  helloValidated : Bool
  armEncoded : Bool
  ipcReadyDecoded : Bool
  actionReadyDecoded : Bool
  stopEncoded : Bool
  lastTargetSequence : ℕ
  pendingTargetSequence : Option ℕ

def V94NativePODCodec.init (maximumTargetCount : ℕ) : V94NativePODCodec :=
  ⟨maximumTargetCount, none, 0, 0, 0, 0, 0, 0, false, false, false, false, false, 0, none⟩

/-! ## Encoding -/

/-- `_positive_integer` of `native_session.py` on an integer. -/
def nativePositiveInteger (value : ℤ) (name : String) : Except PyError ℕ :=
  if value < 0 then .error (.valueError s!"{name} must be a nonnegative integer")
  else if value ≤ 0 then .error (.valueError s!"{name} must be a positive integer")
  else .ok value.toNat

/-- An integer packed as a `Q` field: it must be nonnegative and below `2^64`. -/
def packU64 (value : ℤ) : Except PyError ℕ :=
  if 0 ≤ value ∧ value < 18446744073709551616 then .ok value.toNat
  else .error (.structError "int too large to convert")

theorem nativePositiveInteger_of_pos {value : ℤ} (h : 0 < value) (name : String) :
    nativePositiveInteger value name = .ok value.toNat := by
  rw [nativePositiveInteger, if_neg (by omega), if_neg (by omega)]

theorem packU64_natCast {n : ℕ} (h : n < 2 ^ 64) : packU64 (n : ℤ) = .ok n := by
  rw [packU64, if_pos (by omega)]
  exact congrArg Except.ok (by omega)

/-- `int(round(seconds * 1_000_000_000))`. -/
def roundNs (seconds : D) : Except PyError ℤ :=
  match FloatArith.toRat? (seconds * FloatArith.ofRat 1000000000) with
  | some ns => .ok (rint ns)
  | none => .error (.overflowError "cannot convert float infinity to integer")

namespace V94NativePODCodec

variable (c : V94NativePODCodec)

/-- **`_encode`**: the sequence number is consumed before the header time is read. -/
def encode (payload : ParentPayload D) (monotonicNs : ℤ) :
    V94NativePODCodec × Except PyError (ParentPacket D) :=
  match c.sessionNonce with
  | none =>
    (c, .error (sessionError s!"cannot encode {payload.kind.name} before validated HELLO"))
  | some nonce =>
    ({ c with parentPacketSequence := c.parentPacketSequence + 1 }, do
      let monotonicNs ← nativePositiveInteger monotonicNs "packet monotonic_ns"
      let sequence ← packU64 (c.parentPacketSequence + 1)
      let monotonicNs ← packU64 monotonicNs
      return ⟨⟨sequence, monotonicNs, nonce⟩, payload⟩)

/-- `encode_arm`, after the checks of its arguments and the packing of the payload. -/
def encodeArm (checked : Except PyError (ArmPayload D)) (monotonicNs : ℤ) :
    V94NativePODCodec × Except PyError (ParentPacket D) :=
  if !c.helloValidated || c.armEncoded || c.stopEncoded then
    (c, .error (sessionError "ARM is allowed exactly once after validated HELLO"))
  else
    match checked with
    | .error e => (c, .error e)
    | .ok payload =>
      match c.encode (.arm payload) monotonicNs with
      | (c, .error e) => (c, .error e)
      | (c, .ok packet) => ({ c with armEncoded := true }, .ok packet)

def encodeHeartbeat (monotonicNs : ℤ) : V94NativePODCodec × Except PyError (ParentPacket D) :=
  if !c.armEncoded || c.stopEncoded then
    (c, .error (sessionError "HEARTBEAT requires active ARM and no STOP"))
  else
    let heartbeatSequence := c.heartbeatSequence + 1
    let c := { c with heartbeatSequence := heartbeatSequence }
    match packU64 heartbeatSequence with
    | .error e => (c, .error e)
    | .ok sequence => c.encode (.heartbeat ⟨sequence⟩) monotonicNs

/-- The error of `encode_target` while the previous target is not acknowledged. -/
def pendingTargetError : PyError :=
  sessionError "TARGET is forbidden while a prior target awaits write ACK"

/-- The payload of a target: its three integers go through `struct.pack`. -/
def targetPayload (target : FrankaJointTarget D S) (command : ClosedLoopCommand D S) :
    Except PyError (TargetPayload D) := do
  let produced ← roundNs target.producedMonotonicS
  let sequence ← packU64 target.sequence
  let observation ← packU64 command.sequence
  let produced ← packU64 produced
  return ⟨sequence, observation, produced, target.targetQRad⟩

/-- **`encode_target`.** -/
def encodeTarget (target : FrankaJointTarget D S) (monotonicNs : ℤ) :
    V94NativePODCodec × Except PyError (ParentPacket D) :=
  if target.source ≠ .supervisedV94 then
    (c, .error (sessionError "native TARGET must be supervised V94"))
  else if !c.actionReadyDecoded || c.stopEncoded then
    (c, .error (sessionError "TARGET is forbidden before ACTION_READY or after STOP"))
  else if c.pendingTargetSequence.isSome then
    (c, .error pendingTargetError)
  else if target.sequence ≠ c.lastTargetSequence + 1 then
    (c, .error (sessionError "TARGET sequence does not increase exactly"))
  else if c.maximumTargetCount < target.sequence then
    (c, .error (sessionError "TARGET sequence exceeds ARM maximum_target_count"))
  else
    match target.closedLoopCommand with
    | none => (c, .error (sessionError "TARGET lacks its exact observation sequence"))
    | some command =>
      if command.sequence ≠ target.sequence then
        (c, .error (sessionError "TARGET lacks its exact observation sequence"))
      else
        match targetPayload target command with
        | .error e => (c, .error e)
        | .ok payload =>
          match c.encode (.target payload) monotonicNs with
          | (c, .error e) => (c, .error e)
          | (c, .ok packet) =>
            ({ c with
                lastTargetSequence := target.sequence
                pendingTargetSequence := some target.sequence }, .ok packet)

/-- `encode_stop`: it reads the clock once for the payload and once for the header. -/
def encodeStop (reason : String) (payloadNs headerNs : ℤ) :
    V94NativePODCodec × Except PyError (ParentPacket D) :=
  if pyStrip reason = "" then (c, .error (.valueError "STOP reason must be non-empty"))
  else if c.sessionNonce.isNone || c.stopEncoded then
    (c, .error (sessionError "STOP requires HELLO and is single-use"))
  else
    match nativePositiveInteger payloadNs "STOP time" >>= fun ns => packU64 ns with
    | .error e => (c, .error e)
    | .ok requested =>
      match c.encode (.stop ⟨1, 0, requested⟩) headerNs with
      | (c, .error e) => (c, .error e)
      | (c, .ok packet) => ({ c with stopEncoded := true }, .ok packet)

/-! ## Decoding -/

def requireSession (header : PacketHeader) (isHello : Bool) : Except PyError Unit :=
  match c.sessionNonce with
  | none =>
    if !isHello || header.sequence ≠ 1 then
      .error (sessionError "HELLO must be child critical packet sequence one")
    else if header.nonce.all (· = 0) then
      .error (sessionError "HELLO session nonce must not be all zero")
    else .ok ()
  | some nonce =>
    if nonce ≠ header.nonce then
      .error (sessionError "native critical packet session nonce changed")
    else .ok ()

/-- `_decode_packet`, on a packet whose bytes are well formed: the session, the sequence and the
clock of its channel. -/
def decodePacket (header : PacketHeader) (telemetry : Bool) (isHello : Bool) :
    V94NativePODCodec × Except PyError Unit :=
  if header.monotonicNs = 0 then
    (c, .error (sessionError "native packet monotonic_ns must be positive"))
  else if telemetry then
    if c.sessionNonce ≠ some header.nonce then
      (c, .error (sessionError "native STATE session nonce changed"))
    else if header.sequence ≠ c.childStateSequence + 1 then
      (c, .error (sessionError (s!"native telemetry packet sequence changed: " ++
        s!"expected={c.childStateSequence + 1}, actual={header.sequence}")))
    else if header.monotonicNs < c.lastChildStateMonotonicNs then
      (c, .error (sessionError "native telemetry packet monotonic clock regressed"))
    else
      ({ c with
          childStateSequence := header.sequence
          lastChildStateMonotonicNs := header.monotonicNs }, .ok ())
  else
    match c.requireSession header isHello with
    | .error e => (c, .error e)
    | .ok () =>
      if header.sequence ≠ c.childCriticalSequence + 1 then
        (c, .error (sessionError (s!"native critical packet sequence changed: " ++
          s!"expected={c.childCriticalSequence + 1}, actual={header.sequence}")))
      else if header.monotonicNs < c.lastChildCriticalMonotonicNs then
        (c, .error (sessionError "native critical packet monotonic clock regressed"))
      else
        ({ c with
            childCriticalSequence := header.sequence
            lastChildCriticalMonotonicNs := header.monotonicNs
            sessionNonce := some (c.sessionNonce.getD header.nonce) }, .ok ())

def nativeMaxIsolatedControlPeriodMs : ℕ := 21

/-- What `_decode_action_ready` requires of the payload. -/
def actionReadyProves (p : ActionReadyPayload D) : Bool :=
  !(decide (p.consecutiveHealthyCycles < 100) ||
    decide (nativeMaxIsolatedControlPeriodMs < p.maximumControlPeriodMs) ||
    decide (800000 < p.maximumReadToWriteNs) ||
    !FloatArith.isFinite p.minimumControlCommandSuccessRate ||
    decide (p.minimumControlCommandSuccessRate < FloatArith.ofRat (99 / 100)) ||
    !FloatArith.isFinite p.latestControlCommandSuccessRate ||
    decide (p.latestControlCommandSuccessRate < FloatArith.ofRat (99 / 100)) ||
    !p.measuredQRad.allFinite || !p.measuredDqRadS.allFinite ||
    decide (p.activeReadCount < 100) || decide (p.activeWriteCount < 100) ||
    decide (p.activeReadCount < p.activeWriteCount) || decide (p.statusFlags ≠ 0))

/-- **`_decode_action_ready`.** -/
def decodeActionReady (p : ActionReadyPayload D) :
    V94NativePODCodec × Except PyError (ChildEvent D) :=
  if !c.ipcReadyDecoded || c.actionReadyDecoded then
    (c, .error (sessionError "ACTION_READY requires exactly one prior IPC_READY"))
  else if !actionReadyProves p then
    (c, .error (sessionError "ACTION_READY did not prove the frozen 100-cycle health gate"))
  else ({ c with actionReadyDecoded := true }, .ok (.actionReady p))

/-- What `_decode_ack` requires of the payload's evidence. -/
def ackEvidenceHolds (p : AckPayload D) : Bool :=
  !(!p.targetQRad.allFinite || !p.commandedQRad.allFinite || !p.measuredQRad.allFinite ||
    decide (nativeMaxIsolatedControlPeriodMs < p.controlPeriodMs) ||
    decide (800000 < p.readToWriteNs) || !FloatArith.isFinite p.maximumTrackingErrorRad ||
    decide (p.maximumTrackingErrorRad < FloatArith.zero) ||
    decide (FloatArith.ofRat (1 / 100) < p.maximumTrackingErrorRad))

/-- **`_decode_ack`.** -/
def decodeAck (p : AckPayload D) : V94NativePODCodec × Except PyError (ChildEvent D) :=
  if p.reserved ≠ 0 then (c, .error (sessionError "ACK reserved field is nonzero"))
  else if !ackEvidenceHolds p then
    (c, .error (sessionError "ACK violates frozen write evidence bounds"))
  else if p.targetSequence = 0 then
    (c, .error (.valueError "ACK sequence must be a positive integer"))
  else if c.pendingTargetSequence ≠ some p.targetSequence then
    (c, .error (sessionError "ACK does not match the codec's pending TARGET"))
  else ({ c with pendingTargetSequence := none }, .ok (.ack p))

def decodePayload : ChildPacket D → V94NativePODCodec × Except PyError (ChildEvent D)
  | .hello (.error e) => (c, .error e)
  | .hello (.ok ()) => ({ c with helloValidated := true }, .ok .hello)
  | .ipcReady proof =>
    if !c.armEncoded || c.ipcReadyDecoded then
      (c, .error (sessionError "IPC_READY requires exactly one prior ARM"))
    else
      match proof with
      | .error e => (c, .error e)
      | .ok () => ({ c with ipcReadyDecoded := true }, .ok .ipcReady)
  | .actionReady p => c.decodeActionReady p
  | .ack p => c.decodeAck p
  | .fault e => (c, .ok (.fault e))
  | .stopProof p => (c, (decodeStopProof p).map .stopProof)
  | .state cycle snapshot => (c, snapshot.map fun _ => .state cycle)

/-- `decode_critical_packet` and `decode_state_packet`. -/
def decode (header : PacketHeader) (packet : ChildPacket D) :
    V94NativePODCodec × Except PyError (ChildEvent D) :=
  match c.decodePacket header packet.isTelemetry packet.isHello with
  | (c, .error e) => (c, .error e)
  | (c, .ok ()) => c.decodePayload packet

end V94NativePODCodec

end FrankaDeploy.NativeSession
