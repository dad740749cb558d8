import FrankaDeploy.Foundation.Program
import FrankaDeploy.TickSource.Observation

/-! # The policy tick source

`TransactionalBoundedV94PolicyTickSource` of `runtime/v94_policy_tick_source.py`. The observation
provider, the policy, the recorder and the clocks are the environment: each call of them returns a
value or any exception. Commands are identified by the object that `prepare` returned, modelled as
a number that no other command of the source has.

What a call can see of its environment and what it returns are events: the observation that the
provider returned, the recoverable hold that was caught, and the result of the call. -/

namespace FrankaDeploy.TickSource

open FrankaDeploy.Foundation FrankaDeploy.ClosedLoop FrankaDeploy.Contracts
open FrankaDeploy.Foundation.Program
open scoped FloatArith

/-! ## The source -/

/-- **What the constructor stores**, with its checks. -/
structure TickSourceConfig (D S : Type) [FloatArith S] where
  pointFeatureDim : ℕ
  historyLength : ℕ
  proprioDim : ℕ
  actionControllerContractId : String
  initialPreviousAction13 : FiniteVec 13 S
  requiresShaperQD : Bool
  maximumObjectPointcloudAgeS : D
  maximumPointcloudFutureSkewS : D
  maximumFrankaActionAgeS : D
  maximumFrankaHardAgeS : D
  maximumActionsPerCameraFrame : ℕ
  startupNonActuatedPolicySteps : ℕ
  holdRetryIntervalS : D
  frankaArrivalGateEnabled : Bool
  frankaArrivalGateToleranceRad : D
  frankaArrivalGateTimeoutS : D
  frankaArrivalGateRetryIntervalS : D
  isReplaySource : Bool
  history_contract : (historyLength, proprioDim) ∈ [(4, 67), (8, 67), (8, 96), (16, 96)]
  reuse_contract : 2 ≤ maximumActionsPerCameraFrame ∧ maximumActionsPerCameraFrame ≤ 6

variable (D S : Type) [FloatArith D] [FloatArith S]

/-- **`_PendingTick`**: a command that is not committed yet. -/
structure PendingTick where
  ident : ℕ
  command : ClosedLoopCommand D S
  mapperProposal : TransactionalV94ActionProposal S
  rh56HardwareProposal : Option RH56HardwareCommandProposal
  history : Option (HistoryCandidate S)
  cameraFrameId : ℕ
  pointcloudSourceFrameId : ℕ
  measuredFrankaQRad : FiniteVec 7 S
  observation : Option (V94PolicyObservation D S)
  ledgerPreviousAction13 : FiniteVec 13 S
  occludedClosureHandOnly : Bool
  occludedClosureClearanceLift : Bool
  frozenPostClosureWithoutPointcloud : Bool

/-- **`NonActuatedPolicyTick`**: an accepted policy tick that stages no hardware target. -/
structure NonActuatedPolicyTick where
  logicalIndex : ℕ
  producedMonotonicS : D
  cameraFrameId : ℕ
  previousPolicyAction13Used : FiniteVec 13 S
  acceptedPolicyAction13 : FiniteVec 13 S

structure PolicyIoRecord where
  logicalPolicyStep : ℕ
  hardwareSequence : ℤ
  startupNonActuated : Bool
  history : HistoryCandidate S
  observation : V94PolicyObservation D S
  policyPreviousAction13 : FiniteVec 13 S
  ledgerPreviousAction13 : FiniteVec 13 S
  rawModelAction13 : FiniteVec 13 S
  sentAction13 : FiniteVec 13 S
  producedMonotonicS : D
  frankaTargetQRad : Option (FiniteVec 7 S)
  rh56TargetRegisterOrder : Option RegisterVector
  hardwareCommandValid : Bool

/-- **The environment**: the provider, the policy, the recorder and the clocks. An optional method
is `none` if it is not callable. -/
structure TickWorld (W : Type) where
  monotonic : W → Except (TickException D S) D × W
  realtime : W → Except (TickException D S) D × W
  snapshot : ℕ → D → D → W → Except (TickException D S) (Option (V94PolicyObservation D S)) × W
  act : HistoryCandidate S → W → Except (TickException D S) (PolicyOutput D S) × W
  actionForSequence :
    Option (ℕ → HistoryCandidate S → W → Except (TickException D S) (PolicyOutput D S) × W)
  actionForOccludedClosure :
    Option (ℕ → String → W → Except (TickException D S) (Option (PolicyOutput D S)) × W)
  actionForFrozenPostClosure :
    Option (ℕ → String → W → Except (TickException D S) (Option (PolicyOutput D S)) × W)
  commitReplayProposal : Option (ℕ → W → Except (TickException D S) Unit × W)
  discardReplayProposal : Option (ℕ → W → Except (TickException D S) Unit × W)
  Feedback : Type
  commitRh56FeedbackAfterDualAck :
    Option (ℕ → Feedback → W → Except (TickException D S) Unit × W)
  recordTick : Option (PolicyIoRecord D S → W → Except (TickException D S) Unit × W)
  sleep : D → W → Except (TickException D S) Unit × W

/-- **The arrival gate** of the last committed arm target. -/
structure ArrivalGate where
  targetQRad : Option (FiniteVec 7 S)
  startQRad : Option (FiniteVec 7 S)
  reachedAxes : Option (Vec 7 Bool)
  startedMonotonicS : Option D
  holdCount : ℕ
  arrivedTargetCount : ℕ
  totalWaitS : D
  maxWaitS : D
  lastErrorRad : Option D
  lastWaitS : Option D

/-- **The warmup** before the first action. -/
structure StartupWarmup where
  complete : Bool
  inferenceS : Option D
  frameId : Option ℕ
  retries : ℕ

/-- **The state of the tick source** with the mapper and the shaper that it owns. -/
structure PolicyTickSource (W : Type) where
  world : W
  mapper : TransactionalV94ActionMapper D S
  rh56HardwareCommandShaper : Option RH56Shaper
  history : Option (HistoryCandidate S)
  policyPreviousAction13 : FiniteVec 13 S
  startupNonActuatedCompletedSteps : ℕ
  startupNonActuatedRecords : List (NonActuatedPolicyTick D S)
  pending : Option (PendingTick D S)
  lastCommittedSequence : ℕ
  lastCommittedFrameId : Option ℕ
  lastAcceptedPointcloudSourceFrameId : Option ℕ
  acceptedUsesForLastFrame : ℕ
  holdCount : ℕ
  faultReason : Option String
  arrivalGate : ArrivalGate D S
  warmup : StartupWarmup D
  nextIdent : ℕ

/-- **What can be observed of the source.** -/
inductive TickEvent where
  | observed (observation : V94PolicyObservation D S)
  | recoverable (hold : V94RecoverableObservationHold D S)
  | primed (record : NonActuatedPolicyTick D S)
  | prepared (tick : PendingTick D S)
  | held (hold : BoundedPolicyTickHold D)
  | committed (ident : ℕ)
  | raised

variable {D S}

def ArrivalGate.init : ArrivalGate D S :=
  ⟨none, none, none, none, 0, 0, FloatArith.zero, FloatArith.zero, none, none⟩

variable {W : Type}

/-- **The source that `__init__` leaves.** -/
def PolicyTickSource.fresh (config : TickSourceConfig D S) (world : W)
    (mapper : TransactionalV94ActionMapper D S) (shaper : Option RH56Shaper) : PolicyTickSource D S W where
  world
  mapper
  rh56HardwareCommandShaper := shaper
  history := none
  policyPreviousAction13 := config.initialPreviousAction13
  startupNonActuatedCompletedSteps := 0
  startupNonActuatedRecords := []
  pending := none
  lastCommittedSequence := 0
  lastCommittedFrameId := none
  lastAcceptedPointcloudSourceFrameId := none
  acceptedUsesForLastFrame := 0
  holdCount := 0
  faultReason := none
  arrivalGate := .init
  warmup := ⟨false, none, none, 0⟩
  nextIdent := 0

end FrankaDeploy.TickSource
