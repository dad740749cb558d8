import FrankaDeploy.ClosedLoop.AuthorizationContract
import FrankaDeploy.Foundation.Program

/-! # The bounded run's orchestrator

`BoundedC2Orchestrator.run` of `sim2real/runtime/bounded_c2_orchestrator.py` with everything that it
calls: the admission check, the injected runtime and the safety gate. The runtime, the clock and the
file system are the environment: each of their calls replies with a value or any exception, and
meanwhile the gate may receive any calls from any threads. -/

namespace FrankaDeploy.Runtime

open FrankaDeploy.Foundation FrankaDeploy.ClosedLoop
open FrankaDeploy.Foundation.Program
open scoped FloatArith

variable (D T : Type) [FloatArith D] [DecidableEq T]

/-! ## The admission -/

inductive FrankaSessionMode where
  | c1Commissioning
  | c2V94Policy
  | supervisedV94
deriving DecidableEq, Repr

/-- The hashes of `CommissionedFrankaEnvelope` that bind it to a preflight. -/
structure CommissionedFrankaEnvelope where
  profileSha256 : String
  bindingSha256 : String

/-- **`VerifiedFrankaPreflightToken`**, what `require_active` reads of it. -/
structure VerifiedFrankaPreflightToken where
  runId : String
  stage : FrankaSessionMode
  profileSha256 : String
  envelopeSha256 : String
  issuedMonotonicS : D
  expiresMonotonicS : D

structure ArtifactBinding where
  pathName : String
  rawPath : String
  expected : String

/-- **`BoundedC2Admission`**, what the orchestrator reads of it. The gate it holds is part of the
orchestrator's state. -/
structure BoundedC2Admission where
  runId : String
  requestedPolicySteps : ℕ
  hardDeadlineMonotonicS : D
  authorization : MotionAuthorization D
  frankaPreflightToken : VerifiedFrankaPreflightToken D
  frankaEnvelope : CommissionedFrankaEnvelope
  artifactBindings : List ArtifactBinding

/-! ## The environment -/

/-- **One call of the environment**: how it ends, and what reaches the gate meanwhile. -/
structure Reply (α : Type) where
  outcome : Except PyException α
  gateCalls : List (T × GateCall D)

structure BoundedC2StopProof where
  frankaStopVerified : Bool
  rh56DisabledVerified : Bool

/-- The mapping that `runtime.run` returns; `none` where `completed_policy_steps` is not a number. -/
structure RunMapping where
  completedPolicySteps : Option D

/-- **An object that the runtime factory returned**, by the replies of its calls. -/
structure RuntimeObject where
  isRuntime : Reply D T Bool
  isTrue : String → Reply D T Bool
  run : Reply D T (Option (RunMapping D))
  requestStop : String → Reply D T Unit
  stopAndVerify : Reply D T (Option BoundedC2StopProof)

/-- **The environment of one run.** -/
structure OrchestratorEnv where
  admissionClock : Reply D T D
  admissionHash : String → Reply D T String
  runtimeFactory : Reply D T (Option (RuntimeObject D T))
  runtimeClock : Reply D T D
  runtimeHash : String → Reply D T String
  onMainThread : Bool

/-! ## The state -/

inductive BoundedC2State where
  | disarmed
  | running
  | stoppedVerified
  | faultLatched
deriving DecidableEq, Repr

/-- A handler of SIGINT, as `signal.getsignal` gives it to the code that puts it back. -/
inductive SigintHandler where
  | previous
  | onSigint
deriving DecidableEq, Repr

/-- **The orchestrator's state** and the local variables that its `finally` clause reads. -/
structure OrchestratorState where
  safetyGate : ClosedLoopSafetyGate D T
  state : BoundedC2State
  used : Bool
  stopRequested : Bool
  runtimePublished : Bool
  sigint : SigintHandler
  runtime : Option (RuntimeObject D T)
  oldSigint : Option SigintHandler

variable {D T}

inductive OrchestratorEvent where
  | admitted
  | runtimeCreated
  | runCalled
  | stopRequested (reason : String)
  | stopAndVerifyCalled
  | stopProof (proof : BoundedC2StopProof)

variable (D T) in
abbrev OrchestratorM (α : Type) :=
  Program (OrchestratorState D T) OrchestratorEvent PyException α

/-! ## Statements -/

def admissionError (message : String) : PyException :=
  ⟨.ordinary, "BoundedC2AdmissionError", message⟩

def runError (message : String) : PyException := ⟨.ordinary, "BoundedC2RunError", message⟩

def persistentSessionError (message : String) : PyException :=
  ⟨.ordinary, "FrankaPersistentSessionError", message⟩

def call {α : Type} (reply : Reply D T α) : OrchestratorM D T α := do
  Program.update fun s =>
    { s with safetyGate := (gateMachine D T).run s.safetyGate reply.gateCalls }
  Program.ofExcept reply.outcome

def gate (caller : T) (request : GateCall D) : OrchestratorM D T Unit := fun s =>
  match s.safetyGate.perform caller request with
  | (G, result) =>
    (result.mapError (PyError.raised "ClosedLoopProtocolError"), { s with safetyGate := G }, [])

def finiteReading (value : D) (name : String) : OrchestratorM D T D :=
  Program.ofExcept ((finiteScalar value name).mapError (PyError.raised "RuntimeError"))

/-- `_nonnegative_integer` of the module. -/
def nonnegativeInteger (value : Option D) (name : String) : Except PyException ℕ :=
  let refusal : PyException := ⟨.ordinary, "ValueError", s!"{name} must be a non-negative integer"⟩
  match value.bind FloatArith.toRat? with
  | none => .error refusal
  | some numeric => if isInteger numeric ∧ 0 ≤ numeric then .ok numeric.num.toNat else .error refusal

/-! ## Checks -/

/-- `VerifiedFrankaPreflightToken.require_active`. -/
def VerifiedFrankaPreflightToken.requireActive (K : VerifiedFrankaPreflightToken D)
    (runId : String) (stage : FrankaSessionMode) (envelope : CommissionedFrankaEnvelope) (now : D) :
    OrchestratorM D T Unit := do
  let now ← finiteReading now "now_monotonic_s"
  check (pyStrip runId ≠ K.runId) (persistentSessionError "preflight token run ID mismatch")
  check (stage = .c2V94Policy ∧ K.stage ≠ stage)
    (persistentSessionError "C2 session requires a C2 preflight token")
  check (envelope.profileSha256 ≠ K.profileSha256)
    (persistentSessionError "commissioning profile hash changed")
  check (envelope.bindingSha256 ≠ K.envelopeSha256)
    (persistentSessionError "runtime Franka envelope changed")
  check (¬(K.issuedMonotonicS ≤ now ∧ now < K.expiresMonotonicS))
    (persistentSessionError "preflight token is not active")

variable (caller : T) (A : BoundedC2Admission D)

def requireArtifacts (sha256 : String → Reply D T String) :
    List ArtifactBinding → OrchestratorM D T Unit
  | [] => Program.ret ()
  | binding :: bindings => do
    let actual ← call (sha256 binding.rawPath)
    if actual ≠ binding.expected then do
      let pathName := binding.pathName
      gate caller (.latchFault s!"preflight-bound artifact changed before runtime: {pathName}")
      Program.fail
        (admissionError s!"preflight-bound artifact changed before runtime: {pathName}")
    else requireArtifacts sha256 bindings

/-- `BoundedC2Admission.require_active`. -/
def requireActive (now : D) (sha256 : String → Reply D T String) : OrchestratorM D T Unit := do
  let now ← finiteReading now "now_monotonic_s"
  check (¬(A.authorization.issuedMonotonicS ≤ now ∧ now < A.authorization.expiresMonotonicS))
    (admissionError "run-scoped motion authorization expired")
  check (A.hardDeadlineMonotonicS ≤ now) (admissionError "bounded C2 admission deadline expired")
  A.frankaPreflightToken.requireActive A.runId .c2V94Policy A.frankaEnvelope now
  let s ← Program.read
  check (s.safetyGate.state ≠ .armed) (admissionError "closed-loop safety gate is not armed")
  let s ← Program.read
  check (s.safetyGate.authorizationId ≠ some A.authorization.authorizationId)
    (admissionError "safety-gate authorization changed")
  gate caller (.requireMotion A.runId now)
  requireArtifacts caller sha256 A.artifactBindings

/-- The attributes that `_require_runtime_safety_contract` reads. -/
def runtimeSafetyAttributes : List String :=
  ["physical_interlocks_configured", "independent_command_watchdogs_configured",
    "verified_dual_device_stop_supported"]

def requireRuntimeSafetyContract (runtime : RuntimeObject D T) :
    List String → OrchestratorM D T Unit
  | [] => Program.ret ()
  | name :: names => do
    let active ← call (runtime.isTrue name)
    check (active = false) (runError s!"runtime safety contract is not active: {name}")
    requireRuntimeSafetyContract runtime names

/-! ## The run -/

variable (env : OrchestratorEnv D T)

/-- What `isinstance` and the missing object raise. -/
def notRuntimeError : PyException := runError "runtime factory did not return BoundedC2Runtime"

def installOnSigint : OrchestratorM D T Unit :=
  if env.onMainThread then
    Program.update fun s => { s with oldSigint := some s.sigint, sigint := .onSigint }
  else Program.ret ()

/-- The body of the `try` after the factory returned an object: check it and let it run. -/
def runtimeChecked (runtime : RuntimeObject D T) : OrchestratorM D T (RunMapping D) := do
  Program.emit .runtimeCreated
  let isRuntime ← call runtime.isRuntime
  check (isRuntime = false) notRuntimeError
  Program.update fun s => { s with runtimePublished := true }
  requireRuntimeSafetyContract runtime runtimeSafetyAttributes
  let reading ← call env.runtimeClock
  let now ← finiteReading reading "monotonic clock"
  requireActive caller A now env.runtimeHash
  installOnSigint env
  Program.update fun s => { s with state := .running }
  Program.emit .runCalled
  let value ← call runtime.run
  match value with
  | none => Program.fail (runError "runtime result must be a mapping")
  | some mapping => do
    let completed ← Program.ofExcept
      (nonnegativeInteger mapping.completedPolicySteps "completed_policy_steps")
    check (A.requestedPolicySteps < completed)
      (runError "runtime exceeded the admitted policy-step bound")
    return mapping

/-- The body of the `try`. The local variable holds the object as soon as it exists. -/
def runtimePhase : OrchestratorM D T (RunMapping D) := do
  let created ← call env.runtimeFactory
  Program.update fun s => { s with runtime := created }
  match created with
  | none => Program.fail notRuntimeError
  | some runtime => runtimeChecked caller A env runtime

/-- A failure in the `try` latches the gate. -/
def handleFailure (outcome : Except PyException (RunMapping D)) :
    OrchestratorM D T (Option PyException) :=
  match outcome with
  | .ok _ => Program.ret none
  | .error exc => do
    let className := exc.className
    let message := exc.message
    gate caller (.latchFault s!"bounded C2 runtime failed: {className}: {message}")
    return some exc

/-- The stop request of the `finally` clause. Its failure counts when it is the first one. -/
def requestRuntimeStop (runtime : RuntimeObject D T) (failure : Option PyException) :
    OrchestratorM D T (Option PyException) := do
  let reason := if failure.isNone then "normal k-step completion" else "terminal runtime failure"
  Program.emit (.stopRequested reason)
  let asked ← attempt (call (runtime.requestStop reason))
  match asked, failure with
  | .error exc, none => do
    let message := exc.message
    gate caller (.latchFault s!"runtime stop request failed: {message}")
    return some exc
  | _, _ => return failure

/-- `stop_and_verify` with the checks of its result. -/
def verifiedStop (runtime : RuntimeObject D T) : OrchestratorM D T BoundedC2StopProof := do
  Program.emit .stopAndVerifyCalled
  let stopped ← call runtime.stopAndVerify
  match stopped with
  | none => Program.fail (runError "runtime returned no typed dual-device stop proof")
  | some proof => do
    Program.emit (.stopProof proof)
    check (¬(proof.frankaStopVerified ∧ proof.rh56DisabledVerified))
      (runError "dual-device stop was not verified")
    return proof

/-- The stop verification of the `finally` clause. Any failure latches the gate, the first one is
kept. -/
def verifyRuntimeStop (runtime : RuntimeObject D T) (failure : Option PyException) :
    OrchestratorM D T (Option PyException × Option BoundedC2StopProof) := do
  let stopped ← attempt (verifiedStop runtime)
  match stopped with
  | .ok proof => return (failure, some proof)
  | .error exc => do
    let message := exc.message
    gate caller (.latchFault s!"bounded C2 stop verification failed: {message}")
    return (some (failure.getD exc), none)

def stopPhase (failure : Option PyException) :
    OrchestratorM D T (Option PyException × Option BoundedC2StopProof) := do
  Program.update fun s => { s with sigint := s.oldSigint.getD s.sigint }
  Program.update fun s => { s with stopRequested := true }
  let s ← Program.read
  match s.runtime with
  | none => return (failure, none)
  | some runtime => do
    let failure ← requestRuntimeStop caller runtime failure
    verifyRuntimeStop caller runtime failure

def disarmPhase (failure : Option PyException) (proof : Option BoundedC2StopProof) :
    OrchestratorM D T (Option PyException) :=
  match failure, proof with
  | some exc, _ => Program.ret (some exc)
  | none, none => Program.fail ⟨.ordinary, "AssertionError", ""⟩
  | none, some proof => do
    let disarmed ← attempt (gate caller (.disarmAfterVerifiedStop A.runId
      (some proof.frankaStopVerified) (some proof.rh56DisabledVerified)))
    match disarmed with
    | .ok () => return none
    | .error exc => do
      let message := exc.message
      gate caller (.latchFault s!"post-stop disarm failed: {message}")
      return some exc

/-- The end of `run`: the terminal state and the result or the failure. -/
def conclude (outcome : Except PyException (RunMapping D)) (failure : Option PyException) :
    OrchestratorM D T (RunMapping D) :=
  match failure with
  | some exc => do
    Program.update fun s => { s with state := .faultLatched }
    let message := exc.message
    if exc.kind = .keyboardInterrupt ∨ exc.kind = .systemExit then Program.fail exc
    else Program.fail (runError s!"bounded C2 run failed: {message}")
  | none => do
    Program.update fun s => { s with state := .stoppedVerified }
    match outcome with
    | .ok result => return result
    | .error _ => Program.fail ⟨.ordinary, "AssertionError", ""⟩

/-- Everything after the body of the `try`: its handler, its `finally` clause, the disarm and the
end. -/
def afterTry (outcome : Except PyException (RunMapping D)) : OrchestratorM D T (RunMapping D) := do
  let failure ← handleFailure caller outcome
  let stopped ← stopPhase caller failure
  let failure ← disarmPhase caller A stopped.1 stopped.2
  conclude outcome failure

/-- **`BoundedC2Orchestrator.run`.** -/
def run : OrchestratorM D T (RunMapping D) := do
  let s ← Program.read
  check (s.used = true) (runError "bounded C2 orchestrator is single-use")
  Program.update fun s => { s with used := true }
  let reading ← call env.admissionClock
  let now ← finiteReading reading "monotonic clock"
  requireActive caller A now env.admissionHash
  Program.emit .admitted
  Program.update fun s => { s with runtime := none, oldSigint := none }
  let outcome ← attempt (runtimePhase caller A env)
  afterTry caller A outcome

end FrankaDeploy.Runtime
