import FrankaDeploy.Servo.Loop
import FrankaDeploy.Servo.PacketRoundTrip

/-! # The critical socket in the active loop

`drain_critical` of `servo_core.cpp`: up to four packets a cycle, each either a heartbeat, a stop or
a target with its whole validation. -/

namespace FrankaDeploy.Servo

open FrankaDeploy.Foundation
open scoped FloatArith

variable {D S : Type} [FloatArith D] [FloatArith S] [FloatCast D S]

/-! ## Payloads as values -/

/-- The members of a `HeartbeatPayload`. -/
def HeartbeatPayload.ofRecord (record : PayloadRecord .heartbeat) : HeartbeatPayload :=
  match record.values with
  | [.unsigned heartbeatSequence] => ⟨heartbeatSequence⟩
  | _ => ⟨0⟩

def StopPayload.ofRecord (record : PayloadRecord .stop) : StopPayload :=
  match record.values with
  | [.unsigned reasonCode, .unsigned reserved, .unsigned requestedMonotonicNs] =>
    ⟨reasonCode, reserved, requestedMonotonicNs⟩
  | _ => ⟨0, 0, 0⟩

def TargetPayload.ofRecord [FloatBits D] (record : PayloadRecord .target) : TargetPayload D :=
  match record.values with
  | .unsigned targetSequence :: .unsigned observationSequence ::
      .unsigned producedMonotonicNs :: joints =>
      ⟨targetSequence, observationSequence, producedMonotonicNs, fun i =>
        match joints.getD i (.float 0) with
        | .float bits => FloatBits.ofBits bits
        | _ => FloatArith.zero⟩
  | _ => ⟨0, 0, 0, zeros⟩

def payloadOf (kind : MessageKind) (packet : DecodedPacket) : Option (PayloadRecord kind) :=
  match copyPayload kind packet with
  | .ok record => some record
  | .error _ => none

/-! ## Timestamps -/

def timeIsFuture (now time : ℕ) : Bool :=
  decide (u64Add now HardSafetyLimits.maximumFutureTargetSkewNs < time)

def timeIsStale (now time : ℕ) : Bool :=
  decide (HardSafetyLimits.maximumTargetAgeNs < now - min now time)

/-- A target may be 10 ms ahead of the clock and 50 ms behind it. -/
example : timeIsFuture 0 10000000 = false ∧ timeIsFuture 0 10000001 = true ∧
    timeIsStale 50000000 0 = false ∧ timeIsStale 50000001 0 = true := by
  decide +kernel

/-! ## Messages -/

def RuntimeState.countPacket (r : RuntimeState D) : RuntimeState D :=
  { r with criticalInSequence := r.criticalInSequence + 1 }

def RuntimeState.countHeartbeat (r : RuntimeState D) (sequence now : ℕ) : RuntimeState D :=
  { r with heartbeatSequence := sequence, lastHeartbeatNs := now }

def acceptHeartbeat (now : ℕ) (packet : DecodedPacket) : ServoM D Unit := do
  let s ← Program.read
  match payloadOf .heartbeat packet with
  | none => Program.fail (.fault (.of .protocol "heartbeat sequence is not exact"))
  | some record => do
    let heartbeat := HeartbeatPayload.ofRecord record
    faultIf (heartbeat.heartbeatSequence ≠ s.runtime.heartbeatSequence + 1) .protocol
      "heartbeat sequence is not exact"
    modifyRuntime fun r => r.countHeartbeat heartbeat.heartbeatSequence now

def acceptStop (packet : DecodedPacket) : ServoM D Unit :=
  match payloadOf .stop packet with
  | none => Program.fail (.fault (.of .protocol "STOP payload is invalid"))
  | some record =>
    let stop := StopPayload.ofRecord record
    faultIf (stop.reserved ≠ 0 ∨ stop.reasonCode ≠ StopReason.requested.code) .protocol
      "STOP payload is invalid"

def requireTargetPosition (mode : ControllerMode) (targetQ previousTarget startQ : Vec 7 D) :
    Except ServoFault Unit :=
  if !targetQ.allFinite then .error (.of .targetValidation "TARGET q is non-finite")
  else if !previousTargetDeltaAllowed mode targetQ previousTarget then
    .error (.of .targetValidation "TARGET delta exceeds legacy V94 tick envelope")
  else if !episodeDeltaAllowed mode targetQ startQ then
    .error (.of .targetValidation "legacy TARGET exceeds home-centered episode envelope")
  else if outsideSafeInterval targetQ then
    .error (.of .targetValidation "TARGET q is outside safe joint interval")
  else .ok ()

def requireTargetOrder (r : RuntimeState D) (now : ℕ) (target : TargetPayload D) :
    Except ServoFault Unit :=
  if target.targetSequence ≠ r.lastTargetSequence + 1 ∨
      target.observationSequence ≠ r.lastObservationSequence + 1 then
    .error (.of .targetValidation "TARGET/observation sequence is not exact")
  else if timeIsFuture now target.producedMonotonicNs ||
      timeIsStale now target.producedMonotonicNs then
    .error (.of .targetValidation "TARGET timestamp is stale or future")
  else .ok ()

def RuntimeState.acceptTarget (r : RuntimeState D) (now : ℕ) (target : TargetPayload D) :
    RuntimeState D :=
  { r with
    pendingTarget := target
    heldTarget := target.targetQRad
    lastTargetSequence := target.targetSequence
    lastObservationSequence := target.observationSequence
    lastTargetReceivedNs := now
    targetPendingAck := true }

/-- **A target.** -/
def acceptTarget [FloatBits D] (session : ServoSession D) (now : ℕ) (packet : DecodedPacket) :
    ServoM D Unit := do
  let s ← Program.read
  faultIf (s.runtime.actionReady = false) .protocol "TARGET arrived before ACTION_READY"
  faultIf (session.arm.maximumTargetCount ≤ s.runtime.lastTargetSequence) .targetValidation
    "TARGET count exceeds armed maximum_target_count"
  faultIf (s.runtime.targetPendingAck = true) .protocol
    "new TARGET arrived before prior write ACK"
  match payloadOf .target packet with
  | none =>
    Program.fail (.fault (.of .targetValidation "TARGET/observation sequence is not exact"))
  | some record => do
    let target : TargetPayload D := TargetPayload.ofRecord record
    orFault (requireTargetOrder s.runtime now target)
    let previousTarget :=
      if s.runtime.lastTargetSequence = 0 then s.runtime.startQ else s.runtime.heldTarget
    orFault (requireTargetPosition session.controllerMode target.targetQRad previousTarget
      s.runtime.startQ)
    modifyRuntime fun r => r.acceptTarget now target
    Program.emit (.targetAccepted target)

/-- **The body of the loop for one packet**; the result says whether it requested a stop. -/
def handlePacket [FloatBits D] (session : ServoSession D) (now : ℕ) (bytes : Bytes) : ServoM D Bool := do
  let s ← Program.read
  match decodePacket bytes (.ofNat s.runtime.criticalInSequence) session.sessionNonce with
  | .error e =>
    Program.fail (.fault (.of .protocol ("critical packet rejected: " ++ codecErrorName e)))
  | .ok packet => do
    modifyRuntime RuntimeState.countPacket
    let kind := packet.header.kind
    let time := packet.header.monotonicNs.toNat
    -- a stop is exempt, and a heartbeat may be old but not from the future
    faultIf ((kind = MessageKind.heartbeat.wire ∧ timeIsFuture now time = true) ∨
      (kind = MessageKind.target.wire ∧
        (timeIsFuture now time = true ∨ timeIsStale now time = true))) .protocol
      "critical packet timestamp is stale or future"
    if kind = MessageKind.heartbeat.wire then do
      acceptHeartbeat now packet
      return false
    else if kind = MessageKind.stop.wire then do
      acceptStop packet
      return true
    else if kind = MessageKind.target.wire then do
      acceptTarget session now packet
      return false
    else Program.fail (.fault (.of .protocol "message kind is invalid in active servo"))

/-! ## The loop -/

/-- The turns of the loop that are left, from turn `count` on; `stop` is the request seen so far. -/
def drainPackets [FloatBits D] (session : ServoSession D) (drainStartNs : ℕ) (polls : ℕ → Poll) :
    ℕ → ℕ → Bool → ServoM D Bool
  | 0, _, stop => pure stop
  | remaining + 1, count, stop => do
    faultIf (HardSafetyLimits.maximumIpcDrainNs < u64Sub (polls count).checkNs drainStartNs)
      .readToWriteDeadline "critical IPC drain exceeded 100 us"
    match (polls count).received with
    | .wouldBlock => pure stop
    | .peerClosed =>
      Program.fail (.fault (.of .peerDisconnected "critical peer disconnected"))
    | .failed systemErrno =>
      Program.fail (.fault ⟨.protocol, "critical recvmsg failed or truncated", systemErrno⟩)
    | .packet bytes => do
      let requested ← handlePacket session (polls count).nowNs bytes
      drainPackets session drainStartNs polls remaining (count + 1) (stop || requested)

/-- **`drain_critical`**: whether a stop was requested. -/
def drainCritical [FloatBits D] (session : ServoSession D) (env : CycleEnv D) : ServoM D Bool := do
  let stop ← drainPackets session env.drainStartNs env.polls
    HardSafetyLimits.maximumCriticalPacketsPerCycle 0 false
  faultIf (session.arm.authorizationExpiresMonotonicNs ≤ env.drainEndNs) .authorization
    "authorization expired in active loop"
  return stop

/-! ## The rule of the drain -/

/-- **A target that is accepted passed all checks** in the state it arrived in. -/
structure TargetAdmitted (session : ServoSession D) (r : RuntimeState D) (now : ℕ)
    (target : TargetPayload D) : Prop where
  ready : r.actionReady = true
  below : r.lastTargetSequence < session.arm.maximumTargetCount
  idle : r.targetPendingAck = false
  order : requireTargetOrder r now target = .ok ()
  position : requireTargetPosition session.controllerMode target.targetQRad
    (if r.lastTargetSequence = 0 then r.startQ else r.heldTarget) r.startQ = .ok ()

theorem TargetAdmitted.next {session : ServoSession D} {r : RuntimeState D} {now : ℕ}
    {target : TargetPayload D} (h : TargetAdmitted session r now target) :
    target.targetSequence = r.lastTargetSequence + 1 := by
  have horder := h.order
  unfold requireTargetOrder at horder
  rw [ite_error_eq_ok, not_or, not_not] at horder
  exact horder.1.1

section DrainRule

open FrankaDeploy.Foundation.Program

variable {session : ServoSession D} {I : ServoLoop D → List (ServoEvent D) → Prop}
  {s : ServoLoop D} {t : List (ServoEvent D)}

/-- **What serving the socket can do** to a relation between the variables and the trace: it counts
packets, it takes heartbeats, and it accepts targets that pass all checks. -/
structure DrainKeeps (session : ServoSession D) (I : ServoLoop D → List (ServoEvent D) → Prop) :
    Prop where
  packet : ∀ s t, I s t → I { s with runtime := s.runtime.countPacket } t
  heartbeat : ∀ s t sequence now, I s t →
    I { s with runtime := s.runtime.countHeartbeat sequence now } t
  target : ∀ s t now target, I s t → TargetAdmitted session s.runtime now target →
    I { s with runtime := s.runtime.acceptTarget now target } (t ++ [.targetAccepted target])

theorem DrainKeeps.acceptHeartbeat (h : DrainKeeps session I) (now : ℕ) (packet : DecodedPacket)
    (hI : I s t) : wp (acceptHeartbeat now packet) (fun _ => I) (fun _ => I) s t := by
  unfold Servo.acceptHeartbeat
  simp only [wp_bind, wp_read]
  cases payloadOf .heartbeat packet with
  | none => rwa [wp_fail]
  | some record =>
    simp only [wp_bind, wp_faultIf, wp_modifyRuntime]
    exact ⟨fun _ => hI, fun _ => h.heartbeat s t _ now hI⟩

theorem DrainKeeps.acceptStop (packet : DecodedPacket) (hI : I s t) :
    wp (acceptStop packet) (fun _ => I) (fun _ => I) s t := by
  unfold Servo.acceptStop
  cases payloadOf .stop packet with
  | none => rwa [wp_fail]
  | some record =>
    simp only [wp_faultIf]
    exact ⟨fun _ => hI, fun _ => hI⟩

variable [FloatBits D]

theorem DrainKeeps.acceptTarget (h : DrainKeeps session I) (now : ℕ) (packet : DecodedPacket)
    (hI : I s t) : wp (acceptTarget session now packet) (fun _ => I) (fun _ => I) s t := by
  unfold Servo.acceptTarget
  simp only [wp_bind, wp_read, wp_faultIf]
  refine ⟨fun _ => hI, fun hready => ⟨fun _ => hI, fun hbelow => ⟨fun _ => hI, fun hidle => ?_⟩⟩⟩
  cases payloadOf .target packet with
  | none => rwa [wp_fail]
  | some record =>
    simp only [wp_bind, wp_orFault, wp_modifyRuntime, wp_emit]
    refine ⟨fun _ horder => ⟨fun _ hposition => ?_, fun _ _ => hI⟩, fun _ _ => hI⟩
    refine h.target s t now _ hI ⟨?_, ?_, ?_, horder, hposition⟩
    · simpa using hready
    · omega
    · simpa using hidle

theorem DrainKeeps.handlePacket (h : DrainKeeps session I) (now : ℕ) (bytes : Bytes)
    (hI : I s t) : wp (handlePacket session now bytes) (fun _ => I) (fun _ => I) s t := by
  unfold Servo.handlePacket
  simp only [wp_bind, wp_read]
  cases decodePacket bytes (.ofNat s.runtime.criticalInSequence) session.sessionNonce with
  | error e => rwa [wp_fail]
  | ok packet =>
    have hcounted := h.packet s t hI
    simp only [wp_bind, wp_modifyRuntime, wp_faultIf]
    refine ⟨fun _ => hcounted, fun _ => ?_⟩
    simp only [wp_ite]
    refine ⟨fun _ => ?_, fun _ => ⟨fun _ => ?_, fun _ => ⟨fun _ => ?_, fun _ => ?_⟩⟩⟩
    · simp only [wp_bind, wp_pure]
      exact h.acceptHeartbeat now packet hcounted
    · simp only [wp_bind, wp_pure]
      exact DrainKeeps.acceptStop packet hcounted
    · simp only [wp_bind, wp_pure]
      exact h.acceptTarget now packet hcounted
    · rwa [wp_fail]

/-- **Every turn of the drain keeps the relation**, by induction on the turns left. -/
theorem DrainKeeps.drainPackets (h : DrainKeeps session I) (drainStartNs : ℕ) (polls : ℕ → Poll)
    (remaining count : ℕ) (stop : Bool) (hI : I s t) :
    wp (drainPackets session drainStartNs polls remaining count stop) (fun _ => I) (fun _ => I)
      s t := by
  induction remaining generalizing count stop s t with
  | zero => rwa [Servo.drainPackets, wp_pure]
  | succ remaining ih =>
    unfold Servo.drainPackets
    simp only [wp_bind, wp_faultIf]
    refine ⟨fun _ => hI, fun _ => ?_⟩
    cases (polls count).received with
    | wouldBlock => rwa [wp_pure]
    | peerClosed => rwa [wp_fail]
    | failed systemErrno => rwa [wp_fail]
    | packet bytes =>
      simp only [wp_bind]
      refine wp_mono (h.handlePacket _ bytes hI) ?_ fun _ _ _ => id
      intro requested s' t' hI'
      exact ih (count + 1) _ hI'

/-- **Serving the socket keeps the relation**, whether it returns or throws. -/
theorem DrainKeeps.drainCritical (h : DrainKeeps session I) (env : CycleEnv D) (hI : I s t) :
    wp (drainCritical session env) (fun _ => I) (fun _ => I) s t := by
  unfold Servo.drainCritical
  rw [wp_bind]
  refine wp_mono (h.drainPackets _ _ _ _ _ hI) ?_ fun _ _ _ => id
  intro stop s' t' hI'
  simp only [wp_bind, wp_faultIf, wp_pure]
  exact ⟨fun _ => hI', fun _ => hI'⟩

end DrainRule

end FrankaDeploy.Servo
