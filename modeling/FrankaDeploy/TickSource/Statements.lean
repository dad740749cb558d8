import FrankaDeploy.TickSource.Source

/-! # Statements of the tick source

The private helpers of `TransactionalBoundedV94PolicyTickSource`: clocks, latched faults, holds, the
history candidate, ages, camera reuse and the arrival gate. -/

namespace FrankaDeploy.TickSource

open FrankaDeploy.Foundation FrankaDeploy.ClosedLoop FrankaDeploy.Contracts
open FrankaDeploy.Foundation.Program
open scoped FloatArith

variable {D S : Type} [FloatArith D] [FloatArith S] [FloatCast D S] {W : Type}

variable (D S W) in
abbrev TickM := Program (PolicyTickSource D S W) (TickEvent D S) (TickException D S)

def environment {α : Type} (f : W → Except (TickException D S) α × W) : TickM D S W α :=
  ofStep fun s => ((f s.world).1, { s with world := (f s.world).2 })

variable (config : TickSourceConfig D S) (env : TickWorld D S W)

/-! ## Clocks and faults -/

def nowMonotonic : TickM D S W D := do
  let value ← environment env.monotonic
  ofExcept (ofSource (finiteScalar value "source monotonic clock"))

def nowRealtime : TickM D S W D := do
  let value ← environment env.realtime
  ofExcept (ofSource (finiteScalar value "source realtime clock"))

def requireHealthyLocked : TickM D S W Unit := do
  let s ← read
  match s.faultReason with
  | some reason => fail (sourceError s!"policy tick source fault is latched: {reason}")
  | none => ret ()

def PolicyTickSource.latched (s : PolicyTickSource D S W) (reason : String) : PolicyTickSource D S W :=
  { s with
    faultReason := some (s.faultReason.getD (strippedOr reason "unspecified policy tick fault")) }

def latchLocked (reason : String) : TickM D S W Unit := update fun s => s.latched reason

def latchAndRaise {α : Type} (reason : String) : TickM D S W α := do
  latchLocked reason
  let s ← read
  fail (sourceError (s.faultReason.getD ""))

/-- `except BaseException`: the exception is latched and goes on. -/
def latching {α : Type} (m : TickM D S W α) : TickM D S W α := do
  let r ← attempt m
  match r with
  | .ok a => ret a
  | .error e => do
    latchLocked e.text
    fail e

/-! ## Holds and discards -/

def holdLocked (sequence frameId : ℕ) (reason : String) (observed : D)
    (retryInterval : Option D) : TickM D S W (BoundedPolicyTickHold D) := do
  update fun s => { s with holdCount := s.holdCount + 1 }
  let retry ← ofExcept (ofSource (match retryInterval with
    | none => .ok config.holdRetryIntervalS
    | some interval => positiveFloat interval "hold retry interval"))
  ofExcept (ofSource
    (BoundedPolicyTickHold.postInit sequence observed (observed + retry) frameId reason))

def discardPolicyProposal (sequence : ℕ) : TickM D S W Unit :=
  match env.discardReplayProposal with
  | none => ret ()
  | some discard => environment (discard sequence)

/-- `_record_policy_io_locked`: an ordinary exception of the recorder is dropped. -/
def recordPolicyIoLocked (record : PolicyIoRecord D S) : TickM D S W Unit :=
  match env.recordTick with
  | none => ret ()
  | some recordTick => do
    let r ← attempt (environment (recordTick record))
    match r with
    | .ok () => ret ()
    | .error (.hold _) => ret ()
    | .error (.raised e) => if e.kind = .ordinary then ret () else fail (.raised e)

/-! ## Observations -/

/-- `_candidate_history_locked`: the stored frames without the oldest one, and the new frame; the
first frame is repeated. -/
def candidateHistoryLocked (history : Option (HistoryCandidate S))
    (observation : V94PolicyObservation D S) (previous : FiniteVec 13 S) :
    Except (TickException D S) (HistoryCandidate S) := do
  let proprio ← currentProprio config.proprioDim observation previous
  if observation.pointcloudXyzrgbPalm.dim ≠ config.pointFeatureDim then
    .error (sourceError ("observation/policy point feature mismatch: " ++
      s!"observation={observation.pointcloudXyzrgbPalm.dim}D policy={config.pointFeatureDim}D"))
  else
    let rows : HistoryCandidate S := match history with
      | none =>
        ⟨List.replicate config.historyLength observation.pointcloudXyzrgbPalm,
          List.replicate config.historyLength observation.pointcloudValid,
          List.replicate config.historyLength proprio⟩
      | some h =>
        ⟨h.points.drop 1 ++ [observation.pointcloudXyzrgbPalm],
          h.valid.drop 1 ++ [observation.pointcloudValid], h.proprio.drop 1 ++ [proprio]⟩
    let points ← ofSource
      (readonlyPointHistory config.historyLength config.pointFeatureDim rows.points)
    let valid ← ofSource (readonlyValidHistory config.historyLength rows.valid)
    let proprio ← ofSource
      (readonlyProprioHistory config.historyLength config.proprioDim rows.proprio)
    return ⟨points, valid, proprio⟩

/-- `_pointcloud_age`: the age of a cloud that stands in for an invisible object is not checked. -/
def pointcloudAge (observation : V94PolicyObservation D S) : TickM D S W D := do
  let nowRealtime ← nowRealtime env
  check (config.maximumPointcloudFutureSkewS < observation.observationRealtimeS - nowRealtime)
    (sourceError "observation realtime timestamp exceeds the future-skew limit")
  check (nowRealtime - observation.pointcloudCapturedRealtimeS <
      -config.maximumPointcloudFutureSkewS)
    (sourceError "object point-cloud timestamp exceeds the future-skew limit")
  ret (if observation.pointcloudStatus = "stale_palm" then FloatArith.zero
    else nowRealtime - observation.pointcloudCapturedRealtimeS)

def frankaStateAge (observation : V94PolicyObservation D S) (nowMonotonicS : D) :
    TickM D S W D := do
  let now ← ofExcept (ofSource (finiteScalar nowMonotonicS "Franka age observation time"))
  check (now - observation.frankaStateCapturedMonotonicS < -config.maximumPointcloudFutureSkewS)
    (sourceError "Franka state timestamp exceeds the future-skew limit")
  ret (now - observation.frankaStateCapturedMonotonicS)

/-- `observation_provider.snapshot` with the check of its type. -/
def snapshot (sequence : ℕ) (now deadline : D) : TickM D S W (V94PolicyObservation D S) := do
  let value ← environment (env.snapshot sequence now deadline)
  match value with
  | none => fail (typeError "observation provider returned no V94PolicyObservation")
  | some observation => do
    emit (.observed observation)
    ret observation

def PolicyTickSource.usesOf (s : PolicyTickSource D S W) (sourceFrameId : ℕ) : ℕ :=
  if some sourceFrameId = s.lastAcceptedPointcloudSourceFrameId then s.acceptedUsesForLastFrame
  else 0

def PolicyTickSource.useSource (s : PolicyTickSource D S W) (sourceFrameId : ℕ) : PolicyTickSource D S W :=
  if some sourceFrameId = s.lastAcceptedPointcloudSourceFrameId then
    { s with acceptedUsesForLastFrame := s.acceptedUsesForLastFrame + 1 }
  else
    { s with
      lastAcceptedPointcloudSourceFrameId := some sourceFrameId
      acceptedUsesForLastFrame := 1 }

def PolicyTickSource.Regressed (s : PolicyTickSource D S W) (frameId : ℕ) : Prop :=
  ∃ last ∈ s.lastCommittedFrameId, frameId < last

instance (s : PolicyTickSource D S W) (frameId : ℕ) : Decidable (s.Regressed frameId) :=
  decidable_of_iff (s.lastCommittedFrameId.any fun last => frameId < last) (by
    unfold PolicyTickSource.Regressed
    cases s.lastCommittedFrameId <;> simp)

/-! ## The arrival gate -/

def jointError (target measured : FiniteVec 7 S) : Vec 7 D := fun i =>
  FloatCast.widen (target.1 i) - FloatCast.widen (measured.1 i)

/-- `np.argmax`: the first largest component, or the first NaN. -/
def npArgmax {n : ℕ} (v : Vec (n + 1) D) : Fin (n + 1) :=
  (List.finRange n).foldl (fun best i =>
    if isNan (v best) then best
    else if isNan (v i.succ) || decide (v best < v i.succ) then i.succ else best)
    ⟨0, n.succ_pos⟩

def reachedAxes (reached : Vec 7 Bool) (target start measured : FiniteVec 7 S) : Vec 7 Bool :=
  fun i =>
    let error : D := jointError target measured i
    reached i || decide (FloatArith.abs error ≤ config.frankaArrivalGateToleranceRad) ||
      decide ((jointError target start i : D) * error ≤ FloatArith.zero)

def arrivalTimeout (reached : Vec 7 Bool) (errorByAxis : Vec 7 D) (elapsed error : D) : String :=
  let unreached : Vec 7 D := fun i =>
    if reached i then FloatArith.ofRat (-1) else errorByAxis i
  s!"Franka arrival gate timed out: wait={FloatArith.fixedText 6 elapsed}s " ++
    s!"limit={FloatArith.fixedText 6 config.frankaArrivalGateTimeoutS}s " ++
    s!"Linf={FloatArith.fixedText 9 error}rad axis={(npArgmax unreached).1 + 1} " ++
    s!"tolerance={FloatArith.fixedText 9 config.frankaArrivalGateToleranceRad}rad " ++
    s!"reached_axes={((List.finRange 7).filter fun i => reached i).length}/7"

def ArrivalGate.measured (g : ArrivalGate D S) (reached : Vec 7 Bool) (error elapsed : D) :
    ArrivalGate D S :=
  { g with
    reachedAxes := some reached
    lastErrorRad := some error
    lastWaitS := some elapsed }

def ArrivalGate.arrived (g : ArrivalGate D S) (elapsed : D) : ArrivalGate D S :=
  { g with
    arrivedTargetCount := g.arrivedTargetCount + 1
    totalWaitS := g.totalWaitS + elapsed
    maxWaitS := if g.maxWaitS < elapsed then elapsed else g.maxWaitS
    targetQRad := none
    startQRad := none
    reachedAxes := none
    startedMonotonicS := none }

def setGate (f : ArrivalGate D S → ArrivalGate D S) : TickM D S W Unit :=
  update fun s => { s with arrivalGate := f s.arrivalGate }

def judgeArrival (target start measured : FiniteVec 7 S) (reached : Vec 7 Bool)
    (elapsed : D) : TickM D S W Bool := do
  let errorByAxis : Vec 7 D := fun i => FloatArith.abs (jointError target measured i)
  let reached := reachedAxes config reached target start measured
  let error := npMax errorByAxis
  setGate fun g => g.measured reached error elapsed
  if (List.finRange 7).all reached then do
    setGate fun g => g.arrived elapsed
    ret true
  else if config.frankaArrivalGateTimeoutS ≤ elapsed then do
    let reason := arrivalTimeout config reached errorByAxis elapsed error
    latchLocked reason
    fail (sourceError reason)
  else ret false

/-- `_check_franka_arrival_gate_locked`: whether the last committed arm target was reached. -/
def checkFrankaArrivalGateLocked (measuredQRad : Vec 7 S) (nowMonotonicS : D) :
    TickM D S W Bool := do
  let s ← read
  if config.frankaArrivalGateEnabled = false then ret true
  else
    match s.arrivalGate.targetQRad, s.arrivalGate.startedMonotonicS with
    | none, _ => ret true
    | some _, none => fail (sourceError "Franka arrival gate target has no commit timestamp")
    | some target, some started => do
      let measured ← ofExcept (ofSource
        (readonlyFloatArray measuredQRad "arrival-gate measured_franka_q_rad"))
      let now ← ofExcept (ofSource (finiteScalar nowMonotonicS "arrival-gate monotonic time"))
      check (now < started) (sourceError "arrival-gate clock regressed")
      match s.arrivalGate.startQRad, s.arrivalGate.reachedAxes with
      | some start, some reached =>
        judgeArrival config target start measured reached (now - started)
      | _, _ => fail (sourceError "Franka arrival gate target has no per-axis start state")

def countGateHold : TickM D S W Unit := setGate fun g => { g with holdCount := g.holdCount + 1 }

def armArrivalGate (target start : FiniteVec 7 S) (reached : Vec 7 Bool) : TickM D S W Unit :=
  runIf (config.frankaArrivalGateEnabled = true) do
    setGate fun g =>
      { g with targetQRad := some target, startQRad := some start, reachedAxes := some reached }
    let started ← nowMonotonic env
    setGate fun g => { g with startedMonotonicS := some started }

def startAxes (target start : FiniteVec 7 S) : Vec 7 Bool := fun i =>
  decide (FloatArith.abs (jointError target start i : D) ≤ config.frankaArrivalGateToleranceRad)

end FrankaDeploy.TickSource
