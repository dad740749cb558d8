import FrankaDeploy.ClosedLoop.LedgerContract
import FrankaDeploy.NativeSession.Codec
import Mathlib.Logic.Function.Basic

/-! # The threads of the parent session

`FrankaNativeSupervisedSessionProxy` of `native_session.py`: the publisher's thread, the event pump
`run`, and any number of threads that request a clean stop. A section under a lock is one step, and
so is every other read or write of shared state; a thread is the point it has reached and what an
exception or a stop request still makes it do. The clock readings, the socket's answers and the
child's packets are inputs. -/

namespace FrankaDeploy.NativeSession

open FrankaDeploy.Foundation FrankaDeploy.Servo FrankaDeploy.ClosedLoop
open scoped FloatArith

variable {D S : Type} [FloatArith D] [FloatArith S] [FloatCast D S]

/-! ## Threads -/

inductive Thread where
  | publisher
  | pump
  | other (index : ℕ)
deriving DecidableEq, Repr

variable (D S) in
/-- What `_send_encoded` is called for. -/
inductive SendOperation where
  | arm
  | heartbeat
  | target (target : FrankaJointTarget D S)
  | stop (reason : String)

/-- The `operation` argument of `_send_encoded`. -/
def SendOperation.name : SendOperation D S → String
  | .arm => "ARM"
  | .heartbeat => "HEARTBEAT"
  | .target _ => "TARGET"
  | .stop _ => "STOP"

variable (D S) in
/-- **The point a thread has reached.** -/
inductive Point where
  /-- Outside the session's methods, or at the top of the loop. -/
  | idle
  | sending (operation : SendOperation D S)
  | locked (operation : SendOperation D S)
  | encoded (operation : SendOperation D S) (packet : ParentPacket D)
  | handling (event : ChildEvent D)
  /-- Between the checks of an ACK and the ledger's acknowledgement. -/
  | ackChecked (event : AckPayload D)
  /-- Between the ledger's acknowledgement and the section that clears the pending target. -/
  | ackRecorded (event : AckPayload D)

/-- **What a thread still has to do** before it goes on: the sections of `_latch_async_failure`,
`_fail_pending_ledger`, `request_clean_stop` and of the `finally` clause of `run`. -/
inductive Followup where
  | recordFailure (failure : PyError)
  | readPending (reason : String)
  | failLedger (sequence : ℕ) (reason : String)
  | setStop
  /-- The section in which `request_clean_stop` looks at the endpoint. -/
  | cleanStop
  /-- The section in which `_send_stop_once` claims the STOP packet. -/
  | stopOnce (reason : String)
  | enterCleanup

variable (D S) in
structure ThreadState where
  point : Point D S
  todo : List Followup

inductive PumpPhase where
  | notStarted
  | loop
  | cleanup
  | finished
deriving DecidableEq, Repr

/-! ## The state -/

variable (D S) in
/-- **The state of a session**, its threads and its critical socket. -/
structure Session where
  codec : V94NativePODCodec
  ledger : ExecutedActionLedger D S
  stopRequested : Bool
  endpoint : Bool
  runStarted : Bool
  runFinished : Bool
  hello : Bool
  ipcReady : Bool
  actionReady : Bool
  bootstrapReady : Bool
  stopPacketSent : Bool
  pendingTarget : Option (FrankaJointTarget D S)
  lastSentSequence : ℕ
  lastAckSequence : ℕ
  lastAckControlCycle : ℕ
  latestChildControlCycle : ℕ
  asyncFailure : Option PyError
  stopProofSeen : Bool
  failure : Option PyError
  armed : Bool
  pumpPhase : PumpPhase
  sendLock : Option Thread
  threads : Thread → ThreadState D S
  wire : List (ParentPacket D)

/-- The session that `__init__` leaves. -/
def Session.init (maximumTargetCount : ℕ) (ledger : ExecutedActionLedger D S) : Session D S where
  codec := .init maximumTargetCount
  ledger := ledger
  stopRequested := false
  endpoint := false
  runStarted := false
  runFinished := false
  hello := false
  ipcReady := false
  actionReady := false
  bootstrapReady := false
  stopPacketSent := false
  pendingTarget := none
  lastSentSequence := 0
  lastAckSequence := 0
  lastAckControlCycle := 0
  latestChildControlCycle := 0
  asyncFailure := none
  stopProofSeen := false
  failure := none
  armed := false
  pumpPhase := .notStarted
  sendLock := none
  threads _ := ⟨.idle, []⟩
  wire := []

inductive SocketAnswer where
  | taken
  | wouldBlock
  | interrupted
  | failed (errno : ℤ)
deriving DecidableEq, Repr

namespace Session

variable (X : Session D S)

def setThread (i : Thread) (thread : ThreadState D S) : Session D S :=
  { X with threads := Function.update X.threads i thread }

/-! ## Failures -/

def latchAsyncFailure (failure : PyError) : List Followup :=
  [.recordFailure failure, .readPending failure.message, .setStop]

/-- An exception in the loop of `run`: its handler latches the first failure, and `finally`
follows. -/
def loopRaised (i : Thread) (before : List Followup) (e : PyError) : Session D S :=
  let failure := X.failure.getD e
  { X with failure := some failure }.setThread i
    ⟨.idle, before ++ (latchAsyncFailure failure ++ [Followup.enterCleanup])⟩

/-- An exception while `run` handles a packet, in the loop or in `_drain_until_stop_proof`. -/
def pumpRaised (e : PyError) : Session D S :=
  if X.pumpPhase = .loop then X.loopRaised .pump [] e
  else
    { X with failure := some (X.failure.getD e) }.setThread .pump
      ⟨.idle, [.readPending e.message]⟩

/-- An exception that leaves `_send_encoded`. -/
def sendRaised (i : Thread) (operation : SendOperation D S) (e : PyError) : Session D S :=
  match operation with
  | .target _ => X.setThread i ⟨.idle, latchAsyncFailure e⟩
  | .stop _ =>
    if i = .pump then
      if X.pumpPhase = .loop then X.loopRaised i (latchAsyncFailure e) e
      else { X with failure := some (X.failure.getD e) }.setThread i ⟨.idle, latchAsyncFailure e⟩
    else X.setThread i ⟨.idle, latchAsyncFailure e⟩
  | .arm | .heartbeat => X.loopRaised i [] e

def perform (i : Thread) (rest : List Followup) : Followup → Session D S
  | .recordFailure failure =>
    { X with asyncFailure := some (X.asyncFailure.getD failure) }.setThread i ⟨.idle, rest⟩
  | .readPending reason =>
    match X.ledger.pending with
    | none => X.setThread i ⟨.idle, rest⟩
    | some command => X.setThread i ⟨.idle, .failLedger command.sequence reason :: rest⟩
  | .failLedger sequence reason =>
    { X with ledger := (X.ledger.perform (.fail "franka" sequence reason)).1 }.setThread i
      ⟨.idle, rest⟩
  | .setStop => { X with stopRequested := true }.setThread i ⟨.idle, rest⟩
  | .cleanStop =>
    if X.endpoint && !X.runFinished then
      X.setThread i ⟨.idle, .stopOnce "parent clean stop requested" :: rest⟩
    else X.setThread i ⟨.idle, rest⟩
  | .stopOnce reason =>
    if X.stopPacketSent || !X.endpoint then X.setThread i ⟨.idle, rest⟩
    else { X with stopPacketSent := true }.setThread i ⟨.sending (.stop reason), rest⟩
  | .enterCleanup =>
    { X with stopRequested := true, pumpPhase := .cleanup }.setThread i
      ⟨.idle, .stopOnce "native session terminal cleanup" :: rest⟩

/-! ## Sending -/

def parentTargetMaxAgeS : D := FloatArith.ofRat (1 / 20)

def parentTargetMaxFutureSkewS : D := FloatArith.ofRat (1 / 100)

def requireTargetFreshAtBoundary (target : FrankaJointTarget D S) (now : D) (boundary : String)
    (encoded : Bool) : Except PyError Unit :=
  let age := now - target.producedMonotonicS
  let disposition :=
    if encoded then "packet was encoded but not sent" else "packet was not encoded or sent"
  if parentTargetMaxAgeS < age then
    .error (sessionError (s!"TARGET expired {boundary}: age_s={FloatArith.fixedText 9 age} " ++
      s!"limit_s={FloatArith.fixedText 9 (parentTargetMaxAgeS : D)}; {disposition}"))
  else if age < -parentTargetMaxFutureSkewS then
    .error (sessionError (s!"TARGET produced timestamp is too far in the future {boundary}: " ++
      s!"future_s={FloatArith.fixedText 9 (-age)} " ++
      s!"limit_s={FloatArith.fixedText 9 (parentTargetMaxFutureSkewS : D)}; {disposition}"))
  else .ok ()

/-- The checks of `_send_encoded` before the encoder runs. `writable` is what the zero-wait
`select` reports, or the text of its exception. -/
def beforeEncode (operation : SendOperation D S) (writable : Except String Bool) (now : D) :
    Except PyError Unit :=
  if !X.endpoint then
    .error (sessionError s!"cannot send {operation.name} before child start")
  else
    match writable with
    | .error exception =>
      .error (sessionError
        s!"{operation.name} critical seqpacket writable check failed: {exception}")
    | .ok false =>
      .error (sessionError (s!"{operation.name} critical seqpacket is not immediately " ++
        "writable; packet was not encoded or retried"))
    | .ok true =>
      match operation with
      | .target target =>
        if X.stopRequested then
          .error (sessionError ("TARGET send was cancelled because stop is requested; " ++
            "packet was not encoded or sent"))
        else
          requireTargetFreshAtBoundary target now "before native encode/send boundary" false
      | _ => .ok ()

def encodeOperation (operation : SendOperation D S) (armChecked : Except PyError (ArmPayload D))
    (payloadNs headerNs : ℤ) : V94NativePODCodec × Except PyError (ParentPacket D) :=
  match operation with
  | .arm => X.codec.encodeArm armChecked headerNs
  | .heartbeat => X.codec.encodeHeartbeat headerNs
  | .target target => X.codec.encodeTarget target headerNs
  | .stop reason => X.codec.encodeStop reason payloadNs headerNs

/-- The checks of `_send_encoded` between the encoder and the socket. -/
def afterEncode (operation : SendOperation D S) (now : D) : Except PyError Unit :=
  match operation with
  | .target target =>
    if X.stopRequested then
      .error (sessionError ("TARGET send was cancelled after encode because stop is " ++
        "requested; packet was not sent"))
    else requireTargetFreshAtBoundary target now "after native encode/before send boundary" true
  | _ => .ok ()

/-- The outcome of `_send_packet_once_locked`. -/
def sendPacketOnceLocked (operation : SendOperation D S) : SocketAnswer → Except PyError Unit
  | .taken => .ok ()
  | .wouldBlock =>
    .error (sessionError (s!"{operation.name} critical seqpacket send would block (EAGAIN); " ++
      "packet was not retried and native terminate was requested"))
  | .interrupted =>
    .error (sessionError (s!"{operation.name} critical seqpacket send was interrupted; " ++
      "packet was not retried and native terminate was requested"))
  | .failed errno =>
    .error (sessionError (s!"{operation.name} critical seqpacket send failed: " ++
      s!"errno={errno}; packet was not retried and native terminate was requested"))

def acquire (i : Thread) (writable : Except String Bool) (now : D) : Session D S :=
  match X.sendLock, X.threads i with
  | none, ⟨.sending operation, todo⟩ =>
    match X.beforeEncode operation writable now with
    | .error e => X.sendRaised i operation e
    | .ok () => { X with sendLock := some i }.setThread i ⟨.locked operation, todo⟩
  | _, _ => X

def encode (i : Thread) (armChecked : Except PyError (ArmPayload D)) (payloadNs headerNs : ℤ) :
    Session D S :=
  match X.threads i with
  | ⟨.locked operation, todo⟩ =>
    match X.encodeOperation operation armChecked payloadNs headerNs with
    | (codec, .error e) =>
      { X with codec := codec, sendLock := none }.sendRaised i operation e
    | (codec, .ok packet) =>
      { X with codec := codec }.setThread i ⟨.encoded operation packet, todo⟩
  | _ => X

def transmit (i : Thread) (now : D) (answer : SocketAnswer) : Session D S :=
  match X.threads i with
  | ⟨.encoded operation packet, todo⟩ =>
    match X.afterEncode operation now >>= fun _ => sendPacketOnceLocked operation answer with
    | .error e => { X with sendLock := none }.sendRaised i operation e
    | .ok () =>
      let armed := match operation with
        | .arm => true
        | _ => X.armed
      { X with sendLock := none, wire := X.wire ++ [packet], armed := armed }.setThread i
        ⟨.idle, todo⟩
  | _ => X

/-! ## Publishing -/

def unacknowledgedTargetError : PyError :=
  sessionError "native child still has an unacknowledged target"

/-- The checks of `_publish_target`: the source, and the section under the state lock. -/
def publishChecks (target : FrankaJointTarget D S) : Except PyError Unit :=
  if target.source ≠ .supervisedV94 then
    .error (sessionError "native supervised proxy rejects non-supervised targets")
  else if !X.runStarted || X.runFinished then
    .error (sessionError "native child is not running")
  else if !X.actionReady || !X.bootstrapReady then
    .error (sessionError "native child has not completed measured-hold bootstrap")
  else if X.stopRequested then
    match X.asyncFailure with
    | some failure =>
      .error (sessionError s!"native child already stopped after prior fault: {failure.message}")
    | none => .error (sessionError "native child stop is already requested")
  else if target.sequence ≠ X.lastSentSequence + 1 then
    .error (sessionError (s!"native target sequence gap: expected={X.lastSentSequence + 1}, " ++
      s!"actual={target.sequence}"))
  else if X.pendingTarget.isSome then .error unacknowledgedTargetError
  else if (X.ledger.pending.map fun command => command.sequence) ≠ some target.sequence then
    .error (sessionError "parent ledger was not staged for the published target")
  else .ok ()

def publish (target : FrankaJointTarget D S) : Session D S :=
  match X.publishChecks target with
  | .error e => X.setThread .publisher ⟨.idle, latchAsyncFailure e⟩
  | .ok () =>
    { X with pendingTarget := some target, lastSentSequence := target.sequence }.setThread
      .publisher ⟨.sending (.target target), []⟩

/-! ## The child's events -/

def checkAck (p : AckPayload D) : Except PyError Unit :=
  match X.pendingTarget with
  | none => .error (sessionError "child ACK arrived without a pending target")
  | some target =>
    if p.targetSequence ≠ X.lastAckSequence + 1 ∨ p.targetSequence ≠ target.sequence then
      .error (sessionError (s!"child ACK sequence mismatch: expected={X.lastAckSequence + 1}, " ++
        s!"actual={p.targetSequence}"))
    else
      match roundNs target.producedMonotonicS with
      | .error e => .error e
      | .ok expectedProducedNs =>
        if (target.closedLoopCommand.map fun command => command.sequence) ≠
              some p.observationSequence ∨
            (p.targetProducedMonotonicNs : ℤ) ≠ expectedProducedNs ∨
            p.targetQRad.arrayEqual target.targetQRad = false then
          .error (sessionError "child ACK does not echo the exact published target")
        else if p.controlCycle ≤ X.lastAckControlCycle ∨
            p.appliedMonotonicNs < p.targetProducedMonotonicNs ∨
            (p.targetAgeAtWriteNs : ℤ) ≠
              p.appliedMonotonicNs - p.targetProducedMonotonicNs ∨
            50000000 < p.targetAgeAtWriteNs then
          .error (sessionError "child ACK write time/cycle evidence is invalid")
        else .ok ()

def checkEvent : ChildEvent D → Except PyError Unit
  | .hello => if X.hello then .error (sessionError "duplicate child HELLO") else .ok ()
  | event =>
    if !X.hello then .error (sessionError "child event arrived before HELLO")
    else
      match event with
      | .hello => .ok ()
      | .ipcReady =>
        if X.ipcReady then .error (sessionError "duplicate child IPC_READY") else .ok ()
      | .actionReady p =>
        if !X.ipcReady then
          .error (sessionError "ACTION_READY arrived before IPC_READY")
        else if X.actionReady then .error (sessionError "duplicate child ACTION_READY")
        else if p.consecutiveHealthyCycles < 100 then
          .error (sessionError "ACTION_READY proved fewer than 100 healthy cycles")
        else .ok ()
      | .ack p => X.checkAck p
      | .fault e => .error e
      | .stopProof _ =>
        if X.stopProofSeen then .error (sessionError "duplicate child STOP_PROOF") else .ok ()
      | .state cycle =>
        if !X.ipcReady then .error (sessionError "STATE arrived before IPC_READY")
        else if cycle ≤ X.latestChildControlCycle then
          .error (sessionError "STATE control cycle did not increase")
        else .ok ()

/-- **`_handle_event`**, for an ACK up to the ledger's acknowledgement. -/
def handleEvent (event : ChildEvent D) : Session D S :=
  match X.checkEvent event with
  | .error e => X.pumpRaised e
  | .ok () =>
    match event with
    | .hello => { X with hello := true }.setThread .pump ⟨.idle, []⟩
    | .ipcReady => { X with ipcReady := true }.setThread .pump ⟨.idle, []⟩
    | .actionReady _ =>
      { X with actionReady := true, bootstrapReady := true }.setThread .pump ⟨.idle, []⟩
    | .ack p => X.setThread .pump ⟨.ackChecked p, []⟩
    | .fault _ => X.setThread .pump ⟨.idle, []⟩
    | .stopProof event =>
      let latched :=
        if event.payload.terminalFaultCode = 0 then []
        else latchAsyncFailure (sessionError ("native STOP_PROOF records terminal fault " ++
          s!"{event.payload.terminalFaultCode}: {event.faultReason.getD event.detail}"))
      let left := if X.pumpPhase = .loop then [.enterCleanup] else []
      { X with stopProofSeen := true }.setThread .pump ⟨.idle, latched ++ left⟩
    | .state cycle =>
      { X with latestChildControlCycle := cycle }.setThread .pump ⟨.idle, []⟩

def recordAck (p : AckPayload D) (now : D) : Session D S :=
  let call : LedgerCall D S := .acknowledge "franka" p.targetSequence now
  match (X.ledger.perform call).2 with
  | .error e => { X with ledger := (X.ledger.perform call).1 }.pumpRaised e
  | .ok _ => { X with ledger := (X.ledger.perform call).1 }.setThread .pump ⟨.ackRecorded p, []⟩

def clearAck (p : AckPayload D) : Session D S :=
  { X with
    pendingTarget := none
    lastAckSequence := p.targetSequence
    lastAckControlCycle := p.controlCycle }.setThread .pump ⟨.idle, []⟩

end Session

/-! ## Steps -/

/-- The call is one that others make on the ledger: only this session acknowledges for the arm. -/
def isForeign : LedgerCall D S → Bool
  | .acknowledge consumer _ _ => consumerOfName consumer ≠ .ok .franka
  | _ => true

variable (D S) in
/-- **A step of one thread**, with what the environment answers. -/
inductive SessionStep where
  | start
  /-- The top of the loop: a failure of another thread is picked up. -/
  | loopTop
  | pumpArm
  | pumpHeartbeat
  | pumpStop
  | receive (header : PacketHeader) (packet : ChildPacket D)
  | handle
  | recordAck (now : D)
  | clearAck
  /-- Another exception in the loop: a timeout, a closed socket, a child that is gone. -/
  | pumpException (e : PyError)
  | finish
  | publish (target : FrankaJointTarget D S)
  | requestCleanStop (thread : Thread)
  /-- A thread takes the send lock and makes the checks before encoding. -/
  | acquire (thread : Thread) (writable : Except String Bool) (now : D)
  | encode (thread : Thread) (armChecked : Except PyError (ArmPayload D))
      (payloadNs headerNs : ℤ)
  | transmit (thread : Thread) (now : D) (answer : SocketAnswer)
  | followup (thread : Thread)
  /-- A call of the command's producer or of the hand's owner on the ledger. -/
  | ledger (call : LedgerCall D S)

namespace Session

variable (X : Session D S)

/-- The loop of `run` is at a point where it may take any of its branches. -/
def loopFree : Bool :=
  X.pumpPhase = .loop && match X.threads .pump with
    | ⟨.idle, []⟩ => true
    | _ => false

/-- **One step.** A step whose thread is not at the right point leaves the session alone. -/
def step : SessionStep D S → Session D S
  | .start =>
    if X.runStarted then X
    else { X with runStarted := true, endpoint := true, pumpPhase := .loop }
  | .loopTop =>
    match X.loopFree, X.failure, X.asyncFailure with
    | true, none, some failure => { X with failure := some failure, stopRequested := true }
    | _, _, _ => X
  | .pumpArm =>
    if X.loopFree && X.hello && !X.armed && !X.stopRequested then
      X.setThread .pump ⟨.sending .arm, []⟩
    else X
  | .pumpHeartbeat =>
    if X.loopFree && X.armed && !X.stopRequested then
      X.setThread .pump ⟨.sending .heartbeat, []⟩
    else X
  | .pumpStop =>
    if X.loopFree && X.stopRequested then
      X.setThread .pump ⟨.idle, [.stopOnce "native session terminal cleanup"]⟩
    else X
  | .receive header packet =>
    match X.threads .pump with
    | ⟨.idle, []⟩ =>
      if X.pumpPhase = .loop ∨ X.pumpPhase = .cleanup then
        match X.codec.decode header packet with
        | (codec, .error e) => { X with codec := codec }.pumpRaised e
        | (codec, .ok event) =>
          { X with codec := codec }.setThread .pump ⟨.handling event, []⟩
      else X
    | _ => X
  | .handle =>
    match X.threads .pump with
    | ⟨.handling event, _⟩ => X.handleEvent event
    | _ => X
  | .recordAck now =>
    match X.threads .pump with
    | ⟨.ackChecked p, _⟩ => X.recordAck p now
    | _ => X
  | .clearAck =>
    match X.threads .pump with
    | ⟨.ackRecorded p, _⟩ => X.clearAck p
    | _ => X
  | .pumpException e => if X.loopFree then X.loopRaised .pump [] e else X
  | .finish =>
    match X.threads .pump with
    | ⟨.idle, []⟩ =>
      if X.pumpPhase = .cleanup then { X with runFinished := true, pumpPhase := .finished }
      else X
    | _ => X
  | .publish target =>
    match X.threads .publisher with
    | ⟨.idle, []⟩ => X.publish target
    | _ => X
  | .requestCleanStop i =>
    match X.threads i with
    | ⟨.idle, []⟩ => { X with stopRequested := true }.setThread i ⟨.idle, [.cleanStop]⟩
    | _ => X
  | .acquire i writable now => X.acquire i writable now
  | .encode i armChecked payloadNs headerNs => X.encode i armChecked payloadNs headerNs
  | .transmit i now answer => X.transmit i now answer
  | .followup i =>
    match X.threads i with
    | ⟨.idle, f :: rest⟩ => X.perform i rest f
    | _ => X
  | .ledger call =>
    if isForeign call then { X with ledger := (X.ledger.perform call).1 } else X

end Session

def sessionMachine (D S : Type) [FloatArith D] [FloatArith S] [FloatCast D S] :
    Machine (Session D S) (SessionStep D S) Empty where
  step X i := (X.step i, [])

@[simp] theorem sessionMachine_step (X : Session D S) (i : SessionStep D S) :
    ((sessionMachine D S).step X i).1 = X.step i := rfl

/-! ## Threads, one at a time -/

namespace Session

variable (X : Session D S)

@[simp] theorem setThread_threads_self (i : Thread) (thread : ThreadState D S) :
    (X.setThread i thread).threads i = thread := by
  simp [setThread]

theorem setThread_threads_of_ne {i j : Thread} (h : j ≠ i) (thread : ThreadState D S) :
    (X.setThread i thread).threads j = X.threads j := by
  simp [setThread, h]

theorem sendRaised_eq (i : Thread) (operation : SendOperation D S)
    (e : PyError) : ∃ failure todo,
      X.sendRaised i operation e = { X with failure := failure }.setThread i ⟨.idle, todo⟩ := by
  cases operation with
  | arm => exact ⟨_, _, rfl⟩
  | heartbeat => exact ⟨_, _, rfl⟩
  | target target => exact ⟨X.failure, _, rfl⟩
  | stop reason =>
    rw [Session.sendRaised]
    split_ifs
    · exact ⟨_, _, rfl⟩
    · exact ⟨_, _, rfl⟩
    · exact ⟨X.failure, _, rfl⟩

theorem pumpRaised_eq (e : PyError) : ∃ failure todo,
    X.pumpRaised e = { X with failure := failure }.setThread .pump ⟨.idle, todo⟩ := by
  rw [Session.pumpRaised]
  split_ifs
  · exact ⟨_, _, rfl⟩
  · exact ⟨_, _, rfl⟩

theorem threads_of_loopFree (h : X.loopFree = true) : X.threads .pump = ⟨.idle, []⟩ := by
  rw [loopFree, Bool.and_eq_true] at h
  obtain ⟨-, hpoint⟩ := h
  split at hpoint
  · next hidle => exact hidle
  · cases hpoint

end Session

/-! ## A session at work

The runs that show a defect start with an uninterrupted handshake of doubles. -/

def zeroAction {n : ℕ} : FiniteVec n Binary32 :=
  ⟨fun _ => FloatArith.zero, allFinite_zero n⟩

def holdCommand (sequence : ℕ) (h : 0 < sequence) : ClosedLoopCommand Binary64 Binary32 where
  sequence := sequence
  producedMonotonicS := FloatArith.one
  observationRealtimeS := FloatArith.one
  previousExecutedAction13Used := zeroAction
  rawPolicyAction13 := zeroAction
  executedPolicyAction13 := zeroAction
  frankaTargetQRad := zeroAction
  rh56AngleSetRegisterOrder := fun _ => 0
  holdArmTarget := true
  previousPolicyAction13Used := zeroAction
  sequence_pos := h
  produced_finite := isFinite_one
  observation_finite := isFinite_one
  executed_within := by decide +kernel

theorem zeroTarget_finite :
    Vec.allFinite (fun _ : Fin 7 => (FloatArith.zero : Binary64)) = true :=
  (Vec.allFinite_iff _).mpr fun _ => isFinite_zero

def holdTarget (sequence : ℕ) (h : 0 < sequence) : FrankaJointTarget Binary64 Binary32 where
  sequence := sequence
  producedMonotonicS := FloatArith.one
  targetQRad := fun _ => FloatArith.zero
  source := .supervisedV94
  closedLoopCommand := some (holdCommand sequence h)
  sequence_pos := h
  produced_finite := isFinite_one
  target_finite := zeroTarget_finite
  policy := by
    refine ⟨by decide, rfl, ?_, ?_⟩
    · show FloatArith.eqv (FloatArith.one : Binary64) FloatArith.one = true
      decide +kernel
    · show Vec.arrayEqual (fun _ : Fin 7 => (FloatCast.widen (FloatArith.zero : Binary32) : Binary64))
        (fun _ => FloatArith.zero) = true
      decide +kernel

def exampleArmPayload : ArmPayload Binary64 :=
  ⟨fun _ => 0, fun _ => 0, fun _ => 0, fun _ => 0, fun _ => 0, 0, 0, 100000000, 5000000000,
    500000000, 15000000000, fun _ => FloatArith.zero, fun _ => FloatArith.zero,
    fun _ => FloatArith.zero, fun _ => FloatArith.zero, FloatArith.zero, fun _ => FloatArith.zero,
    fun _ => FloatArith.zero, FloatArith.zero, 720, 0⟩

def healthyGate : ActionReadyPayload Binary64 where
  consecutiveHealthyCycles := 100
  maximumControlPeriodMs := 1
  healthyHoldRobotTimeMs := 1
  maximumReadToWriteNs := 0
  minimumControlCommandSuccessRate := FloatArith.one
  latestControlCommandSuccessRate := FloatArith.one
  measuredQRad _ := FloatArith.zero
  measuredDqRadS _ := FloatArith.zero
  robotTimeMs := 101
  activeReadCount := 101
  activeWriteCount := 101
  statusFlags := 0
  cumulativeMissedRobotStates := 0

def exampleNonce : Text := List.replicate 16 1

/-- `_send_encoded` of one thread without any interruption, at one second. -/
def sendSteps (i : Thread) : List (SessionStep Binary64 Binary32) :=
  [.acquire i (.ok true) FloatArith.one, .encode i (.ok exampleArmPayload) 1000000000 1000000000,
    .transmit i FloatArith.one .taken]

def receiveSteps (sequence : ℕ) (packet : ChildPacket Binary64) :
    List (SessionStep Binary64 Binary32) :=
  [.receive ⟨sequence, 1000000000, exampleNonce⟩ packet, .handle]

def handshakeSteps : List (SessionStep Binary64 Binary32) :=
  [.start] ++ receiveSteps 1 (.hello (.ok ())) ++ [.pumpArm] ++ sendSteps .pump ++
    receiveSteps 2 (.ipcReady (.ok ())) ++ receiveSteps 3 (.actionReady healthyGate)

def newSession : Session Binary64 Binary32 :=
  .init 720 (.fresh (FloatArith.ofRat (1 / 20)) zeroAction)

end FrankaDeploy.NativeSession
