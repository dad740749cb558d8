import FrankaDeploy.ClosedLoop.LedgerContract
import FrankaDeploy.PersistentSession.RobotState

/-! # The reference Franka session

`FrankaPersistentSession.run` of `robot_control/franka/session.py`. The backend, the clocks and the
other threads are the environment: each call of the backend returns a value or any exception, and
before each access to the gate, the ledger, the target hold or the stop flag the other threads may
have used them in any way. The extremes that the telemetry records are left out. -/

namespace FrankaDeploy.PersistentSession

open FrankaDeploy.Foundation FrankaDeploy.ClosedLoop FrankaDeploy.Runtime
open FrankaDeploy.Foundation.Program
open scoped FloatArith

/-! ## The environment -/

/-- **What other threads do** with the objects they share with the session. -/
inductive OtherCall (D S T : Type) [FloatArith D] [FloatArith S] where
  | gate (caller : T) (call : GateCall D)
  | ledger (call : LedgerCall D S)
  | publish (target : FrankaJointTarget D)
  | requestCleanStop

/-- **The environment**: the backend, its control handle, the clocks and the other threads. -/
structure SessionWorld (D S T W : Type) [FloatArith D] [FloatArith S] where
  preempt : W → List (OtherCall D S T) × W
  monotonic : W → Except PyException (Option D) × W
  realtime : W → Except PyException (Option D) × W
  backendFactory : W → Except PyException Bool × W
  startJointPositionSession : W → Except PyException Bool × W
  readOnce : W → Except PyException (RobotState D × Option D) × W
  writeOnce : Vec 7 D → ℕ → W → Except PyException Unit × W
  hasBootstrapWriter : W → Except PyException Bool × W
  writeBootstrapHold : Vec 7 D → W → Except PyException Unit × W
  finish : Vec 7 D → W → Except PyException Unit × W
  requestStop : W → Except PyException Unit × W
  readPostStopState : W → Except PyException (RobotState D) × W
  close : W → Except PyException Unit × W

/-! ## The session -/

structure SupervisedGuards (D : Type) where
  referenceQRad : Vec 7 D
  maximumStartErrorRad : D
  maximumTickTargetDeltaRad : D
  maximumEpisodeDeltaRad : Option D

/-- **`FrankaPersistentSession`**: what its constructor stores, with the constructor's checks. -/
structure FrankaPersistentSession (D T : Type) where
  runId : String
  mode : FrankaSessionMode
  envelope : FrankaEnvelope D
  backendInjected : Bool
  actionContract : FrankaActionContract
  enableBootstrap : Bool
  guards : Option (SupervisedGuards D)
  owner : T
  np : Numpy D
  bootstrap_mode : enableBootstrap = true → isTransactionalPolicyMode mode = true
  guards_mode : guards.isSome = true ↔ mode = .supervisedV94
  contract_mode : mode ≠ .supervisedV94 → actionContract = .legacy
  episode_limit : ∀ g ∈ guards, g.maximumEpisodeDeltaRad.isSome = true ↔ actionContract = .legacy

/-- **The counters of `FrankaPersistentTelemetry`.** -/
structure FrankaTelemetry where
  backendOpened : Bool
  staticProvenanceVerified : Bool
  activeReadCount : ℕ
  activeWriteCount : ℕ
  posePublishCount : ℕ
  distinctTargetCount : ℕ
  firstTargetSequence : Option ℕ
  lastTargetSequence : Option ℕ
  frankaAckCount : ℕ
  stopRequested : Bool
  stopFinishSent : Bool
  stopVerified : Bool
  stopVerificationSamples : ℕ
  faultReason : Option String
  bootstrapHoldWriteCount : ℕ

def FrankaTelemetry.init : FrankaTelemetry :=
  ⟨false, false, 0, 0, 0, 0, none, none, 0, false, false, false, 0, none, 0⟩

/-- **The local variables of `run`** that outlive a statement. -/
structure RunLocals (D : Type) [FloatArith D] where
  backend : Bool
  control : Bool
  shaper : Option (JerkLimitedCommandState D)
  previous : PreviousCycle D
  currentTarget : Option (FrankaJointTarget D)
  bootstrapHoldQ : Option (Vec 7 D)
  supervisedStartQ : Option (Vec 7 D)
  lastFrankaAckedSequence : ℕ
  initialZeroAvailable : Bool

def RunLocals.init {D : Type} [FloatArith D] (allowOneInitialZeroPeriod : Bool) : RunLocals D :=
  ⟨false, false, none, ⟨none, none, none⟩, none, none, none, 0, allowOneInitialZeroPeriod⟩

/-- **The state of a session** with the objects it shares with other threads. -/
structure SessionState (D S T W : Type) [FloatArith D] [FloatArith S] where
  world : W
  safetyGate : ClosedLoopSafetyGate D T
  actionLedger : ExecutedActionLedger D S
  targetHold : FrankaTargetSampleHold D
  cleanStop : Bool
  state : FrankaSessionState
  bootstrapReady : Bool
  poseRing : List (FrankaPoseSample D)
  telemetry : FrankaTelemetry
  lastTelemetry : Option (FrankaTelemetry × FrankaSessionState)
  locals : RunLocals D

/-- **What can be observed of a session.** -/
inductive SessionEvent (D : Type) where
  | opened
  | read
  /-- A write is issued: of a target's sequence, or a measured hold. -/
  | write (sequence : Option ℕ)
  /-- The write returned: the time since the state was read and its limit. -/
  | completed (sequence : Option ℕ) (elapsed limit : D)
  | ack (sequence : ℕ)
  | failed
  | finish
  | requestStop
  /-- A sample after the stop request: it is healthy and idle. -/
  | postStop (healthy : Bool)
  | close
deriving DecidableEq

variable {D S T W : Type} [FloatArith D] [FloatArith S] [DecidableEq T]

variable (D S T W) in
abbrev SessionM := Program (SessionState D S T W) (SessionEvent D) PyException

/-! ## Statements -/

def SessionState.receive (s : SessionState D S T W) : OtherCall D S T → SessionState D S T W
  | .gate caller call => { s with safetyGate := (s.safetyGate.perform caller call).1 }
  | .ledger call => { s with actionLedger := (s.actionLedger.perform call).1 }
  | .publish target => { s with targetHold := s.targetHold.publish target }
  | .requestCleanStop => { s with cleanStop := true }

def preempt (env : SessionWorld D S T W) : SessionM D S T W Unit := update fun s =>
  match env.preempt s.world with
  | (calls, w) => calls.foldl SessionState.receive { s with world := w }

def environment {α : Type} (f : W → Except PyException α × W) : SessionM D S T W α :=
  ofStep fun s => ((f s.world).1, { s with world := (f s.world).2 })

def gateCall (session : FrankaPersistentSession D T) (env : SessionWorld D S T W)
    (call : GateCall D) : SessionM D S T W Unit := do
  preempt env
  ofStep fun s =>
    ((s.safetyGate.perform session.owner call).2.mapError (PyError.raised "ClosedLoopProtocolError"),
      { s with safetyGate := (s.safetyGate.perform session.owner call).1 })

def ledgerCall (env : SessionWorld D S T W) (call : LedgerCall D S) : SessionM D S T W Unit := do
  preempt env
  ofStep fun s =>
    (((s.actionLedger.perform call).2.mapError
        (PyError.raised "ClosedLoopProtocolError")).map fun _ => (),
      { s with actionLedger := (s.actionLedger.perform call).1 })

def look (env : SessionWorld D S T W) : SessionM D S T W (SessionState D S T W) := do
  preempt env
  read

def monotonicNow (env : SessionWorld D S T W) : SessionM D S T W D := do
  let value ← environment env.monotonic
  ofExcept (finiteScalar value "monotonic clock")

def setLocals (f : RunLocals D → RunLocals D) : SessionM D S T W Unit :=
  update fun s => { s with locals := f s.locals }

def setTelemetry (f : FrankaTelemetry → FrankaTelemetry) : SessionM D S T W Unit :=
  update fun s => { s with telemetry := f s.telemetry }

def assertionError : PyException := ⟨.ordinary, "AssertionError", ""⟩

def assertSome {α : Type} : Option α → SessionM D S T W α
  | some a => ret a
  | none => fail assertionError

/-! ## The boundary -/

variable (session : FrankaPersistentSession D T) (env : SessionWorld D S T W)

def maximumError (v w : Vec 7 D) : D := npMax fun i : Fin 7 => FloatArith.abs (v i - w i)

def requireActiveTokenInHotPath (token : FrankaPreflightToken D) (now : D) :
    Except PyException Unit :=
  if session.mode ≠ .supervisedV94 then
    token.requireActive session.runId session.mode session.envelope now
  else do
    refuse (token.supervised = false)
      (sessionError "supervised session token type changed in the active loop")
    refuse (token.stage ≠ .supervisedV94) (sessionError "supervised token stage changed")
    refuse (token.runId ≠ session.runId) (sessionError "supervised token run ID mismatch")
    refuse (token.profileSha256 ≠ session.envelope.profileSha256)
      (sessionError "supervised profile hash changed")
    refuse (token.envelopeSha256 ≠ session.envelope.bindingSha256)
      (sessionError "supervised envelope binding changed")
    refuse (¬(token.issuedMonotonicS ≤ now ∧ now < token.expiresMonotonicS))
      (sessionError "supervised token is not active")

def requirePreflightTokenType (token : FrankaPreflightToken D) : Except PyException Unit :=
  if session.mode = .supervisedV94 then
    refuse (token.supervised = false)
      (typeError "supervised session requires SupervisedFrankaPreflightToken")
  else refuse (token.supervised = true)
    (typeError "C1/C2 session requires VerifiedFrankaPreflightToken")

def requireAuthorized (authorization : MotionAuthorization D) (token : FrankaPreflightToken D)
    (now : D) : SessionM D S T W Unit := do
  ofExcept (requirePreflightTokenType session token)
  check (authorization.runId ≠ session.runId)
    (sessionError "motion authorization run ID mismatch")
  check (authorization.scope ≠ authorizationScope)
    (sessionError "motion authorization scope mismatch")
  check (¬(authorization.issuedMonotonicS ≤ now ∧ now < authorization.expiresMonotonicS))
    (sessionError "motion authorization is not active")
  ofExcept (token.requireActive session.runId session.mode session.envelope now)
  let s ← look env
  check (s.safetyGate.state ≠ .armed) (sessionError "closed-loop safety gate is not armed")
  let s ← look env
  check (s.safetyGate.authorizationId ≠ some authorization.authorizationId)
    (sessionError "safety-gate authorization identity mismatch")
  gateCall session env (.requireMotion session.runId now)

def validateAuthorizedBoundary (authorization : MotionAuthorization D)
    (token : FrankaPreflightToken D) (now : D) : SessionM D S T W Unit := do
  requireAuthorized session env authorization token now
  let s ← look env
  let target ← ofExcept (s.targetHold.sample now session.envelope.policyCommandMaxAgeS)
  check (target.source ≠ targetSourceForMode session.mode)
    (sessionError "target source does not match session mode")
  runIf (isTransactionalPolicyMode session.mode = true) do
    let s ← look env
    check (s.actionLedger.pending.map (·.sequence) ≠ some target.sequence)
      (sessionError "policy target is not the exact pending dual-device transaction")
    let s ← look env
    check ((s.actionLedger.lastCommittedSequence : ℤ) ≠ target.sequence - 1)
      (sessionError "policy action ledger sequence is inconsistent before control")

def validateBootstrapAuthorizedBoundary (authorization : MotionAuthorization D)
    (token : FrankaPreflightToken D) (now : D) : SessionM D S T W Unit := do
  check (isTransactionalPolicyMode session.mode = false)
    (sessionError "bootstrap boundary requires policy mode")
  requireAuthorized session env authorization token now
  let s ← look env
  check (s.actionLedger.lastCommittedSequence ≠ 0)
    (sessionError "C2 bootstrap requires a fresh action ledger")
  let s ← look env
  check (s.actionLedger.pending.isSome = true)
    (sessionError "C2 bootstrap cannot start with a staged policy action")
  let s ← look env
  check (s.targetHold.isSome = true)
    (sessionError "C2 bootstrap requires an initially empty policy target hold")

/-! ## A control cycle -/

structure Observation (D : Type) where
  readComplete : D
  shapingDt : D
  q : Vec 7 D
  dq : Vec 7 D
  measuredAcceleration : Option (Vec 7 D)

def enterCycle (token : FrankaPreflightToken D) (sessionStart : D) : SessionM D S T W D := do
  let cycleNow ← monotonicNow env
  gateCall session env (.requireMotion session.runId cycleNow)
  ofExcept (requireActiveTokenInHotPath session token cycleNow)
  check (session.envelope.maximumSessionDurationS < cycleNow - sessionStart)
    (sessionError "persistent session exceeded commissioned duration")
  ret cycleNow

def readActiveHandle : SessionM D S T W (RobotState D × Option D) := do
  let reading ← environment env.readOnce
  emit .read
  setTelemetry fun t => { t with activeReadCount := t.activeReadCount + 1 }
  ret reading

def shapingPeriod (dt : D) : SessionM D S T W D := do
  let s ← read
  setLocals fun l => { l with initialZeroAvailable := false }
  if FloatArith.eqv dt FloatArith.zero = true ∧ s.locals.initialZeroAvailable = true then
    ret session.envelope.controlPeriodMinS
  else do
    check (¬(session.envelope.controlPeriodMinS ≤ dt ∧ dt ≤ session.envelope.controlPeriodMaxS))
      (sessionError s!"Franka control period {FloatArith.fixedText 9 dt}s is outside commissioned bounds")
    ret dt

def checkProvenance (state : RobotState D) : SessionM D S T W Unit := do
  let s ← read
  runIf (s.telemetry.activeReadCount = 1) do
    runIf (session.mode ≠ .supervisedV94)
      (ofExcept (validateStaticProvenance session.np session.envelope state))
    setTelemetry fun t => { t with staticProvenanceVerified := true }

def checkSupervisedStart (guards : SupervisedGuards D) (q : Vec 7 D) : SessionM D S T W Unit := do
  let s ← read
  runIf (s.locals.supervisedStartQ = none) do
    let startError := maximumError q guards.referenceQRad
    check (guards.maximumStartErrorRad < startError) (sessionError
      ("supervised Franka start differs from V94 q_home: " ++
        s!"Linf={FloatArith.fixedText 9 startError}rad, limit=" ++
        s!"{FloatArith.fixedText 9 guards.maximumStartErrorRad}rad"))
    setLocals fun l => { l with supervisedStartQ := some q }

def checkEpisode (guards : SupervisedGuards D) (q : Vec 7 D) (message : String) :
    SessionM D S T W Unit :=
  runIf (session.actionContract = .legacy) do
    let limit ← assertSome guards.maximumEpisodeDeltaRad
    let s ← read
    let startQ ← assertSome s.locals.supervisedStartQ
    check (limit < maximumError q startQ) (sessionError message)

def checkSupervised (q : Vec 7 D) : SessionM D S T W Unit :=
  match session.guards with
  | none => ret ()
  | some guards => do
    checkSupervisedStart guards q
    checkEpisode session guards q "supervised measured-q episode envelope exceeded"

def publishPoseSample (state : RobotState D) (readComplete realtime : D) (q dq : Vec 7 D) :
    SessionM D S T W Unit := do
  let pose ← ofExcept (statePose state.oTEE "O_T_EE")
  let s ← read
  let ring ← ofExcept (publishPose session.envelope.poseRingCapacity s.poseRing
    ⟨s.telemetry.activeReadCount, realtime, readComplete, q, dq, pose⟩)
  update fun s => { s with poseRing := ring }
  setTelemetry fun t => { t with posePublishCount := t.posePublishCount + 1 }

/-- **The state of a cycle is checked and published.** -/
def observe (sessionStart cycleNow : D) (reading : RobotState D × Option D) :
    SessionM D S T W (Observation D) := do
  let (state, rawDt) := reading
  let readComplete ← monotonicNow env
  let value ← environment env.realtime
  let realtime ← ofExcept (finiteScalar value "realtime clock")
  let dt ← ofExcept (finiteScalar rawDt "Franka control period")
  let shapingDt ← shapingPeriod session dt
  checkProvenance session state
  let s ← read
  let allowLowSuccessRate := decide (session.mode = .supervisedV94) &&
    FloatArith.le (cycleNow - sessionStart) (FloatArith.ofRat (1 / 10))
  let (q, dq, measuredAcceleration) ← ofExcept (validateDynamicState session.envelope state
    s.locals.previous shapingDt allowLowSuccessRate)
  checkSupervised session q
  publishPoseSample session state readComplete realtime q dq
  ret ⟨readComplete, shapingDt, q, dq, measuredAcceleration⟩

/-- **The target of a cycle**; `none` is the measured hold of the bootstrap. -/
def selectTarget (readComplete : D) : SessionM D S T W (Option (FrankaJointTarget D)) := do
  let s ← look env
  match s.targetHold with
  | none => do
    check (session.enableBootstrap = false) (sessionError "no Franka target is available")
    check (s.locals.currentTarget.isSome = true)
      (sessionError "published C2 target disappeared during control")
    ret none
  | some _ => do
    let s ← look env
    let target ← ofExcept
      (s.targetHold.sample readComplete session.envelope.policyCommandMaxAgeS)
    check (target.source ≠ targetSourceForMode session.mode)
      (sessionError "target source changed during persistent session")
    ret (some target)

def requirePendingTransaction (target : FrankaJointTarget D) : SessionM D S T W Unit :=
  runIf (isTransactionalPolicyMode session.mode = true) do
    let s ← look env
    check (s.actionLedger.pending.map (·.sequence) ≠ some target.sequence)
      (sessionError "new C2 target is not the exact pending dual-device transaction")
    let s ← look env
    check ((s.actionLedger.lastCommittedSequence : ℤ) ≠ target.sequence - 1)
      (sessionError "new C2 target does not follow the committed ledger")

def requireTargetGuards (current : Option (FrankaJointTarget D)) (target : FrankaJointTarget D) :
    SessionM D S T W Unit :=
  match session.guards with
  | none => ret ()
  | some guards => do
    runIf (session.actionContract = .legacy) do
      let s ← read
      let startQ ← assertSome s.locals.supervisedStartQ
      let prior := (current.map (·.targetQRad)).getD startQ
      let tickDelta := maximumError target.targetQRad prior
      check (guards.maximumTickTargetDeltaRad < tickDelta) (sessionError
        ("supervised policy target tick delta exceeded: " ++
          s!"Linf={FloatArith.fixedText 9 tickDelta}rad"))
    checkEpisode session guards target.targetQRad
      "supervised policy target episode envelope exceeded"

def requireInitialTarget (target : FrankaJointTarget D) (q : Vec 7 D) : SessionM D S T W Unit := do
  runIf (session.actionContract = .legacy) (ofExcept (refuseAxis (fun i =>
      decide (session.envelope.initialTargetToleranceRad i +
        FloatArith.ofRat (1 / 10000000000) < FloatArith.abs (target.targetQRad i - q i)))
    fun axis => s!"initial target is not a stationary hold at axis {axis}"))
  setLocals fun l => { l with shaper := some (l.shaper.getD (.init q)) }

def requireTargetRate (current target : FrankaJointTarget D) : Except PyException Unit := do
  let targetDt := target.producedMonotonicS - current.producedMonotonicS
  refuse (targetDt ≤ FloatArith.zero) (sessionError "target timestamps did not increase")
  if session.actionContract = .legacy then
    refuseAxis (fun i => decide (session.envelope.maximumTargetRateRadS i +
        FloatArith.ofRat (1 / 10000000000) <
          FloatArith.abs (target.targetQRad i - current.targetQRad i) / targetDt))
      fun axis => s!"policy target rate exceeds commissioned limit at axis {axis}"

def requireContinuation (current : Option (FrankaJointTarget D)) (target : FrankaJointTarget D)
    (q : Vec 7 D) : SessionM D S T W Unit :=
  match current with
  | none => requireInitialTarget session target q
  | some previous => ofExcept (requireTargetRate session previous target)

/-- **A new target is admitted.** -/
def admitTarget (target : FrankaJointTarget D) (q : Vec 7 D) : SessionM D S T W Unit := do
  let s ← read
  let current := s.locals.currentTarget
  runIf (current.map (·.sequence) ≠ some target.sequence) do
    let expected := (current.map (·.sequence)).getD 0 + 1
    check (target.sequence ≠ expected) (sessionError
      s!"sampled target sequence skipped: expected={expected}, actual={target.sequence}")
    requirePendingTransaction session env target
    requireTargetGuards session current target
    ofExcept (refuseAxis (fun i =>
        decide (target.targetQRad i < session.envelope.safeJointLowerRad i) ||
        decide (session.envelope.safeJointUpperRad i < target.targetQRad i))
      fun axis => s!"target joint {axis} is outside commissioned safe limits")
    requireContinuation session current target q
    setLocals fun l => { l with currentTarget := some target }
    setTelemetry fun t =>
      { t with
        distinctTargetCount := t.distinctTargetCount + 1
        lastTargetSequence := some target.sequence
        firstTargetSequence := some (t.firstTargetSequence.getD target.sequence) }

def admitSelected (target : Option (FrankaJointTarget D)) (q : Vec 7 D) :
    SessionM D S T W Unit :=
  match target with
  | none => ret ()
  | some target => admitTarget session env target q

def bootstrapHold (q : Vec 7 D) : SessionM D S T W (Vec 7 D) := do
  let s ← read
  match s.locals.bootstrapHoldQ with
  | some hold => ret hold
  | none => do
    setLocals fun l => { l with bootstrapHoldQ := some q, shaper := some (.init q) }
    ret q

def activeTargetQ (target : Option (FrankaJointTarget D)) (q : Vec 7 D) :
    SessionM D S T W (Vec 7 D) :=
  match target with
  | none => bootstrapHold q
  | some _ => do
    let s ← read
    let current ← assertSome s.locals.currentTarget
    ret current.targetQRad

def checkCommandEpisode (commandQ : Vec 7 D) : SessionM D S T W Unit :=
  match session.guards with
  | none => ret ()
  | some guards =>
    checkEpisode session guards commandQ "supervised Franka command episode envelope exceeded"

/-- **The command of a cycle.** -/
def shapeCommand (targetQ : Vec 7 D) (dt : D) : SessionM D S T W (Vec 7 D) := do
  let s ← read
  let shaper ← assertSome s.locals.shaper
  let (commandQ, next) ← ofExcept (shaper.step session.np session.envelope targetQ dt)
  setLocals fun l => { l with shaper := some next }
  checkCommandEpisode session commandQ
  runIf (session.mode ≠ .supervisedV94 ∨ session.actionContract = .legacy)
    (ofExcept (refuseAxis (fun i => decide (session.envelope.targetReachedToleranceRad i +
        FloatArith.ofRat (1 / 10000000000) < FloatArith.abs (targetQ i - commandQ i)))
      fun axis => "jerk-limited command cannot follow the policy target " ++
        s!"within the commissioned bound at axis {axis}"))
  ret commandQ

/-- `read_to_write_deadline_s` of a cycle. -/
def readToWriteDeadline : SessionM D S T W D := do
  let s ← read
  ret (if session.mode = .supervisedV94 ∧ s.telemetry.activeReadCount = 1 then
    FloatArith.ofRat (15 / 10000) else session.envelope.readToWriteDeadlineS)

def requireCommandAge (target : Option (FrankaJointTarget D)) (beforeWrite : D) :
    SessionM D S T W Unit :=
  runIf (target.isSome = true) do
    let s ← read
    let current ← assertSome s.locals.currentTarget
    let age := beforeWrite - current.producedMonotonicS
    check (age < FloatArith.zero ∨ session.envelope.policyCommandMaxAgeS < age)
      (sessionError "Franka target crossed its age watchdog before write")

/-- **The final checks before a write**: the deadline of the cycle. -/
def beforeWrite (token : FrankaPreflightToken D) (target : Option (FrankaJointTarget D))
    (readComplete : D) : SessionM D S T W D := do
  let beforeWrite ← monotonicNow env
  gateCall session env (.requireMotion session.runId beforeWrite)
  ofExcept (requireActiveTokenInHotPath session token beforeWrite)
  requireCommandAge session target beforeWrite
  let readToWrite := beforeWrite - readComplete
  check (readToWrite < FloatArith.zero) (sessionError "control timing clock regressed")
  let deadline ← readToWriteDeadline session
  check (deadline < readToWrite) (sessionError
    (s!"Franka read-to-write deadline expired: actual={FloatArith.fixedText 9 readToWrite}s " ++
      s!"limit={FloatArith.fixedText 9 deadline}s"))
  ret deadline

/-- **The write of a cycle**: of the current target's sequence, or a measured hold. -/
def writeCommand (target : Option (FrankaJointTarget D)) (commandQ : Vec 7 D) :
    SessionM D S T W (Option ℕ) :=
  match target with
  | none => do
    let callable ← environment env.hasBootstrapWriter
    check (callable = false)
      (sessionError "active backend has no measured-hold bootstrap method")
    emit (.write none)
    environment (env.writeBootstrapHold commandQ)
    setTelemetry fun t => { t with bootstrapHoldWriteCount := t.bootstrapHoldWriteCount + 1 }
    ret none
  | some _ => do
    let s ← read
    let current ← assertSome s.locals.currentTarget
    emit (.write (some current.sequence))
    environment (env.writeOnce commandQ current.sequence)
    ret (some current.sequence)

def completeWrite (sequence : Option ℕ) (readComplete deadline : D) : SessionM D S T W D := do
  setTelemetry fun t => { t with activeWriteCount := t.activeWriteCount + 1 }
  let afterWrite ← monotonicNow env
  let total := afterWrite - readComplete
  emit (.completed sequence total deadline)
  check (deadline < total) (sessionError
    ("Franka write completion exceeded read-to-write deadline: " ++
      s!"actual={FloatArith.fixedText 9 total}s limit={FloatArith.fixedText 9 deadline}s"))
  ret afterWrite

def acknowledgeWrite (sequence : Option ℕ) (afterWrite : D) : SessionM D S T W Unit :=
  match sequence with
  | none => update fun s => { s with bootstrapReady := true }
  | some sequence => do
    let s ← read
    runIf (isTransactionalPolicyMode session.mode = true ∧
        s.locals.lastFrankaAckedSequence < sequence) do
      emit (.ack sequence)
      ledgerCall env (.acknowledge "franka" sequence afterWrite)
      setLocals fun l => { l with lastFrankaAckedSequence := sequence }
      setTelemetry fun t => { t with frankaAckCount := t.frankaAckCount + 1 }

def prepareWrite (token : FrankaPreflightToken D) (o : Observation D) :
    SessionM D S T W (Option (FrankaJointTarget D) × Vec 7 D × D) := do
  let target ← selectTarget session env o.readComplete
  admitSelected session env target o.q
  let targetQ ← activeTargetQ target o.q
  let commandQ ← shapeCommand session targetQ o.shapingDt
  let deadline ← beforeWrite session env token target o.readComplete
  ret (target, commandQ, deadline)

/-- **A control cycle**: one read, the checks, one write. -/
def cycle (token : FrankaPreflightToken D) (sessionStart : D) : SessionM D S T W Unit := do
  let cycleNow ← enterCycle session env token sessionStart
  let reading ← readActiveHandle env
  let o ← observe session env sessionStart cycleNow reading
  let (target, commandQ, deadline) ← prepareWrite session env token o
  let sequence ← writeCommand env target commandQ
  let afterWrite ← completeWrite env sequence o.readComplete deadline
  acknowledgeWrite session env sequence afterWrite
  setLocals fun l =>
    { l with previous := ⟨some commandQ, some o.dq, o.measuredAcceleration⟩ }

/-- **The control loop**, for at most the given number of cycles: it has ended when a clean stop was
requested or the maximal number of writes was reached. -/
def controlLoop (token : FrankaPreflightToken D) (sessionStart : D) (maximumCycles : Option ℕ) :
    ℕ → SessionM D S T W Bool
  | 0 => ret false
  | fuel + 1 => do
    let s ← look env
    if s.cleanStop = true then ret true
    else do
      cycle session env token sessionStart
      let s ← read
      if maximumCycles.any (· ≤ s.telemetry.activeWriteCount) = true then ret true
      else controlLoop token sessionStart maximumCycles fuel

def openBackend : SessionM D S T W Unit := do
  let backend ← environment env.backendFactory
  check (backend = false) (sessionError "backend factory returned None")
  emit .opened
  setLocals fun l => { l with backend := true }
  setTelemetry fun t => { t with backendOpened := true }
  let control ← environment env.startJointPositionSession
  check (control = false) (sessionError "backend returned no control handle")
  setLocals fun l => { l with control := true }

/-! ## The end of a session -/

def failedSequence : SessionM D S T W ℕ := do
  let s ← look env
  match s.locals.currentTarget with
  | some target => ret target.sequence
  | none =>
    match s.actionLedger.pending with
    | some command => ret command.sequence
    | none => do
      let s ← look env
      ret (s.actionLedger.lastCommittedSequence + 1)

def latchFault (reason : String) : SessionM D S T W Unit := do
  runIf (isTransactionalPolicyMode session.mode = true) do
    let sequence ← failedSequence env
    ledgerCall env (.fail "franka" sequence reason)
  gateCall session env (.latchFault reason)

def faultText (e : PyException) : String :=
  let name := e.className
  let message := e.message
  s!"{name}: {message}"

def handleFailure (e : PyException) : SessionM D S T W Unit := do
  setTelemetry fun t => { t with faultReason := some (faultText e) }
  latchFault session env (faultText e)

/-- **`_verify_stop`** for the remaining samples. -/
def verifyStop : ℕ → ℕ → SessionM D S T W Bool
  | 0, _ => ret false
  | remaining + 1, consecutive => do
    let state ← environment env.readPostStopState
    setTelemetry fun t => { t with stopVerificationSamples := t.stopVerificationSamples + 1 }
    let healthy ← ofExcept (stopSampleHealthy session.envelope state)
    emit (.postStop healthy)
    if healthy = true then
      if session.envelope.stopConsecutiveSamples ≤ consecutive + 1 then ret true
      else verifyStop remaining (consecutive + 1)
    else verifyStop remaining 0

def cleanupStep (m : SessionM D S T W Unit) (stopFailure : Option PyException) :
    SessionM D S T W (Option PyException) := do
  let r ← attempt m
  match r with
  | .ok () => ret stopFailure
  | .error e => do
    emit .failed
    ret (some (stopFailure.getD e))

/-- `control.finish` after a clean loop. -/
def finishMotion (failure : Option PyException) : SessionM D S T W (Option PyException) := do
  let s ← read
  match failure, s.locals.control, s.locals.previous.commandQ with
  | none, true, some commandQ => cleanupStep (do
      emit .finish
      environment (env.finish commandQ)
      setTelemetry fun t => { t with stopFinishSent := true }) none
  | _, _, _ => ret none

def requestBackendStop (stopFailure : Option PyException) :
    SessionM D S T W (Option PyException) :=
  cleanupStep (do
    emit .requestStop
    environment env.requestStop
    setTelemetry fun t => { t with stopRequested := true }) stopFailure

def verifyBackendStop (stopFailure : Option PyException) : SessionM D S T W (Option PyException) :=
  cleanupStep (do
    let verified ← verifyStop session env session.envelope.stopMaximumSamples 0
    setTelemetry fun t => { t with stopVerified := verified }
    check (verified = false) (sessionError "Franka stop was not verified")) stopFailure

def closeBackend (stopFailure : Option PyException) : SessionM D S T W (Option PyException) :=
  cleanupStep (do
    emit .close
    environment env.close) stopFailure

def stopBackend (stopFailure : Option PyException) : SessionM D S T W (Option PyException) := do
  let s ← read
  if s.locals.backend = true then do
    let stopFailure ← requestBackendStop env stopFailure
    let stopFailure ← verifyBackendStop session env stopFailure
    closeBackend env stopFailure
  else ret stopFailure

def handleStopFailure (e : PyException) : SessionM D S T W Unit := do
  setTelemetry fun t =>
    { t with
      faultReason := some (match t.faultReason with
        | none => faultText e
        | some reason => reason ++ s!"; stop={faultText e}") }
  let s ← read
  latchFault session env (s.telemetry.faultReason.getD "")

def handleStop (stopFailure : Option PyException) : SessionM D S T W Unit :=
  match stopFailure with
  | none => ret ()
  | some e => handleStopFailure session env e

/-- **The `finally` clause**: the failure of the session, after the cleanup. -/
def conclude (failure : Option PyException) : SessionM D S T W (Option PyException) := do
  let finishFailure ← finishMotion env failure
  let stopFailure ← stopBackend session env finishFailure
  handleStop session env stopFailure
  let failure := failure.or stopFailure
  let terminal : FrankaSessionState := if failure = none then .stopped else .faultLatched
  update fun s => { s with state := terminal, lastTelemetry := some (s.telemetry, terminal) }
  ret failure

/-- What `run` raises or returns at its end. -/
def outcome (failure : Option PyException) : SessionM D S T W Unit :=
  match failure with
  | none => ret ()
  | some e =>
    if e.kind = .keyboardInterrupt ∨ e.kind = .systemExit then fail e
    else
      let message := e.message
      fail (sessionError s!"persistent Franka session failed: {message}")

/-- The session after it was set running: whether it has ended within the given number of cycles. -/
def runActive (token : FrankaPreflightToken D) (sessionStart : D) (maximumCycles : Option ℕ)
    (fuel : ℕ) : SessionM D S T W Bool := do
  let r ← attempt (do
    openBackend env
    controlLoop session env token sessionStart maximumCycles fuel)
  match r with
  | .ok false => ret false
  | .ok true => do
    let failure ← conclude session env none
    outcome failure
    ret true
  | .error e => do
    emit .failed
    -- the `finally` clause also runs when the handler raises
    let handled ← attempt (handleFailure session env e)
    let failure ← conclude session env (some e)
    ofExcept handled
    outcome failure
    ret true

def setRunningOnce : SessionM D S T W Unit := do
  let s ← read
  check (s.state ≠ .disabled) (sessionError "persistent session is single-use")
  update fun s =>
    { s with
      state := .running
      telemetry := .init
      locals := .init session.envelope.allowOneInitialZeroPeriod }

def maximumCyclesOf (D : Type) [FloatArith D] : Option ℤ → Except PyException (Option ℕ)
  | none => .ok none
  | some cycles =>
    match ClosedLoop.positiveInteger D cycles "maximum_cycles" with
    | .ok n => .ok (some n.1)
    | .error e => .error (e.raised "FrankaPersistentSessionError")

def validateBoundary (authorization : MotionAuthorization D) (token : FrankaPreflightToken D)
    (now : D) : SessionM D S T W Unit :=
  if session.enableBootstrap = true then
    validateBootstrapAuthorizedBoundary session env authorization token now
  else validateAuthorizedBoundary session env authorization token now

def admitRun (authorization : MotionAuthorization D) (token : FrankaPreflightToken D) :
    SessionM D S T W D := do
  let now ← monotonicNow env
  validateBoundary session env authorization token now
  check (session.backendInjected = false)
    (sessionError "no backend factory was injected; device access remains disabled")
  ret now

/-- **`run`**, for at most the given number of control cycles: whether the session has ended. -/
def run (authorization : MotionAuthorization D) (token : FrankaPreflightToken D)
    (maximumCycles : Option ℤ) (fuel : ℕ) : SessionM D S T W Bool := do
  let maximum ← ofExcept (maximumCyclesOf D maximumCycles)
  let now ← admitRun session env authorization token
  setRunningOnce session
  runActive session env token now maximum fuel

end FrankaDeploy.PersistentSession
