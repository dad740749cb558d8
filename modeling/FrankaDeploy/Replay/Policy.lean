import FrankaDeploy.Foundation.Program
import FrankaDeploy.Foundation.Python

/-! # The transactional replay policy

`TransactionalReplayActionPolicy` of `sim2real/replay/policy.py`: a proposal for a sequence stages
the replay index and the transitions of the tabletop intercept, a commit applies them, a discard
drops them. The reductions of numpy are parameters; `np.linalg.lstsq` may raise, after the sample
was staged. -/

namespace FrankaDeploy.Replay

open FrankaDeploy.Foundation FrankaDeploy.Foundation.Program
open scoped FloatArith

variable {D S : Type} [FloatArith D] [FloatArith S] [FloatCast D S]

/-! ## Configuration -/

/-- `TabletopInterceptReplayConfig`, as `_tabletop_intercept_config` decodes it. -/
structure TabletopInterceptReplayConfig (D : Type) where
  prepositionEndIndex : ℕ
  controlDtS : D
  fitSampleCount : ℕ
  motionAxisPalm : Vec 3 D
  interceptCenterPalmM : Vec 3 D
  speedMinMS : D
  speedMaxMS : D
  headingCosMin : D
  maxFitResidualM : D
  maxLateralMissM : D
  triggerTtcMaxS : D
  maxWaitTicks : ℕ
  collisionReplan : Bool
  collisionMinVelocityChangeMS : D

/-- The arrays of `ReplayActionSequence`. -/
structure ReplayActionSequence (D S : Type) where
  actions13 : ℕ → Vec 13 S
  actionCount : ℕ
  recordedFrankaTargetQRad : Option (ℕ → Vec 7 S)
  recordedRh56AngleSet : Option (ℕ → Vec 6 ℤ)
  tabletopIntercept : Option (TabletopInterceptReplayConfig D)

/-- **The reductions of numpy** that the policy uses. -/
structure Numpy (D : Type) where
  mean : List D → D
  meanRows : List (Vec 3 D) → Vec 3 D
  lstsq : List (D × D) → List (Vec 3 D) → Except PyException (Vec 3 D × Vec 3 D)
  matmul : List (D × D) → Vec 3 D × Vec 3 D → List (Vec 3 D)
  rootMeanSquare : List (Vec 3 D) → D
  dot : Vec 3 D → Vec 3 D → D
  norm : Vec 3 D → D

/-- **What the policy is built from**, with the checks of its constructor. -/
structure ReplayConfig (D S : Type) [FloatArith D] where
  sequence : ReplayActionSequence D S
  pointFeatureDim : ℕ
  selectedSteps : ℕ
  arrivalGated : Bool
  arrivalToleranceRad : D
  qHomeRad : Vec 7 S
  np : Numpy D
  selected : 1 ≤ selectedSteps ∧ selectedSteps ≤ sequence.actionCount
  tolerance : FloatArith.ofRat (5 / 1000) ≤ arrivalToleranceRad ∧
    arrivalToleranceRad ≤ FloatArith.ofRat (30 / 1000)
  targets : arrivalGated = true → sequence.recordedFrankaTargetQRad.isSome = true ∧
    sequence.recordedRh56AngleSet.isSome = true
  intercept : ∀ c ∈ sequence.tabletopIntercept, arrivalGated = true ∧
    selectedSteps = sequence.actionCount ∧ c.prepositionEndIndex + 1 < selectedSteps

/-! ## State -/

abbrev InterceptSample (D : Type) := ℤ × Vec 3 D

inductive InterceptFit (D : Type) where
  | collecting (fitSamples requiredFitSamples : ℕ)
  | fitted (center velocity : Vec 3 D) (speed headingCos residual : D) (ttc : Option D)
      (lateralMiss : D) (stableMotion triggerGeometry : Bool)

structure InterceptDiagnostics (D : Type) where
  state : String
  fit : Option (InterceptFit D)

/-- **The state of the policy.** -/
structure ReplayPolicy (D : Type) where
  committedReplayIndex : ℤ
  pendingSequence : Option ℤ
  pendingReplayIndex : Option ℤ
  pendingFinalArrived : Bool
  pendingArrivalErrorRad : Option D
  replayComplete : Bool
  repeatedTargetCommands : ℕ
  interceptArmed : Bool
  interceptTriggered : Bool
  interceptWaitTicks : ℕ
  interceptSamples : List (InterceptSample D)
  interceptPreimpactVelocity : Option (Vec 3 D)
  interceptCollisionSeen : Bool
  interceptPostCollisionSamples : List (InterceptSample D)
  interceptLastDiagnostics : InterceptDiagnostics D
  pendingInterceptSample : Option (InterceptSample D)
  pendingInterceptArmed : Bool
  pendingInterceptTriggered : Bool
  pendingInterceptPreimpactVelocity : Option (Vec 3 D)
  pendingInterceptCollisionSeen : Bool
  pendingInterceptResetPostSamples : Bool
  pendingInterceptDiagnostics : Option (InterceptDiagnostics D)

def ReplayPolicy.init (config : ReplayConfig D S) : ReplayPolicy D where
  committedReplayIndex := -1
  pendingSequence := none
  pendingReplayIndex := none
  pendingFinalArrived := false
  pendingArrivalErrorRad := none
  replayComplete := false
  repeatedTargetCommands := 0
  interceptArmed := false
  interceptTriggered := false
  interceptWaitTicks := 0
  interceptSamples := []
  interceptPreimpactVelocity := none
  interceptCollisionSeen := false
  interceptPostCollisionSamples := []
  interceptLastDiagnostics :=
    ⟨if config.sequence.tabletopIntercept.isNone then "disabled" else "prepositioning", none⟩
  pendingInterceptSample := none
  pendingInterceptArmed := false
  pendingInterceptTriggered := false
  pendingInterceptPreimpactVelocity := none
  pendingInterceptCollisionSeen := false
  pendingInterceptResetPostSamples := false
  pendingInterceptDiagnostics := none

def ReplayPolicy.clearPendingIntercept (s : ReplayPolicy D) : ReplayPolicy D :=
  { s with
    pendingInterceptSample := none
    pendingInterceptArmed := false
    pendingInterceptTriggered := false
    pendingInterceptPreimpactVelocity := none
    pendingInterceptCollisionSeen := false
    pendingInterceptResetPostSamples := false
    pendingInterceptDiagnostics := none }

def ReplayPolicy.clearPending (s : ReplayPolicy D) : ReplayPolicy D :=
  { s with
    pendingSequence := none
    pendingReplayIndex := none
    pendingFinalArrived := false
    pendingArrivalErrorRad := none }

structure Tensor (S : Type) where
  shape : List ℕ
  entry : List ℕ → S

structure PolicyInput (S : Type) where
  pointcloud : Tensor S
  valid : Tensor S
  proprio : Tensor S

structure ReplayPolicyOutput (D S : Type) where
  action13 : Vec 13 S
  exactFrankaTargetQRad : Option (Vec 7 S)
  exactRh56AngleSet : Option (Vec 6 ℤ)
  bypassRh56HostSlew : Bool
  replayFrameIndex : ℤ
  replayFinalTargetArrived : Bool
  replayArrivalErrorRad : Option D

/-- **What can be observed of the policy.** -/
inductive ReplayEvent (D S : Type) where
  | proposed (sequence : ℤ) (input : PolicyInput S) (output : ReplayPolicyOutput D S)
  /-- A proposal was committed: the committed index, `replay_complete` and whether the intercept is
  triggered then. -/
  | committed (sequence index : ℤ) (complete triggered : Bool)
  | discarded (sequence : ℤ)

abbrev ReplayM (D S : Type) := Program (ReplayPolicy D) (ReplayEvent D S) PyException

def valueError (message : String) : PyException := ⟨.ordinary, "ValueError", message⟩

def runtimeError (message : String) : PyException := ⟨.ordinary, "RuntimeError", message⟩

def assertionError : PyException := ⟨.ordinary, "AssertionError", ""⟩

/-! ## The intercept -/

def objectCenter (np : Numpy D) (input : PolicyInput S) : Except PyException (Vec 3 D) :=
  let rows := (List.range 128).filter fun point =>
    FloatArith.le (FloatArith.ofRat (1 / 2) : D)
      (FloatCast.widen (input.valid.entry [3, point]))
  let selected : List (Vec 3 D) := rows.map fun point i =>
    FloatCast.widen (input.pointcloud.entry [3, point, i])
  if selected.length < 16 ∨ (selected.all Vec.allFinite) = false then
    .error (valueError "tabletop intercept requires at least 16 finite object points")
  else
    let center := np.meanRows selected
    if center.allFinite = false then
      .error (valueError "tabletop intercept object center is invalid")
    else .ok center

def pyInf : D := FloatArith.ofRat 1 / FloatArith.ofRat 0

def fitIntercept (np : Numpy D) (config : TabletopInterceptReplayConfig D)
    (samples : List (InterceptSample D)) : Except PyException (InterceptFit D) :=
  let count := config.fitSampleCount
  if samples.length < count then .ok (.collecting samples.length count)
  else do
    let selected := samples.drop (samples.length - count)
    let times := selected.map fun item => FloatArith.ofRat item.1 * config.controlDtS
    let centers := selected.map Prod.snd
    let meanTime := np.mean times
    let design : List (D × D) := times.map fun time => (time - meanTime, FloatArith.ofRat 1)
    let coefficients ← np.lstsq design centers
    let velocity := coefficients.1
    let predicted := np.matmul design coefficients
    let residual := np.rootMeanSquare
      (List.zipWith (fun center predicted i => center i - predicted i) centers predicted)
    let speed := np.norm velocity
    let heading : D :=
      if FloatArith.ofRat (1 / 1000000000) < speed then np.dot velocity config.motionAxisPalm / speed
      else FloatArith.ofRat (-1)
    let current := centers.getLast?.getD fun _ => FloatArith.ofRat 0
    let target := config.interceptCenterPalmM
    let velocitySq := np.dot velocity velocity
    let ttc : D :=
      if FloatArith.ofRat (1 / 1000000000000) < velocitySq then
        np.dot (fun i => target i - current i) velocity / velocitySq
      else pyInf
    let ahead : D := if FloatArith.ofRat 0 < ttc then ttc else FloatArith.ofRat 0
    let closest : Vec 3 D := fun i => current i + velocity i * ahead
    let lateral := np.norm fun i => closest i - target i
    let stable := FloatArith.le config.speedMinMS speed && FloatArith.le speed config.speedMaxMS &&
      FloatArith.le config.headingCosMin heading && FloatArith.le residual config.maxFitResidualM
    let triggerGeometry := stable && FloatArith.le (FloatArith.ofRat 0) ttc &&
      FloatArith.le ttc config.triggerTtcMaxS && FloatArith.le lateral config.maxLateralMissM
    pure (.fitted current velocity speed heading residual
      (if FloatArith.isFinite ttc = true then some ttc else none) lateral stable triggerGeometry)

def InterceptFit.velocity? : InterceptFit D → Option (Vec 3 D)
  | .collecting _ _ => none
  | .fitted _ velocity _ _ _ _ _ _ _ => some velocity

def InterceptFit.stableMotion : InterceptFit D → Bool
  | .collecting _ _ => false
  | .fitted _ _ _ _ _ _ _ stable _ => stable

def InterceptFit.triggerGeometry : InterceptFit D → Bool
  | .collecting _ _ => false
  | .fitted _ _ _ _ _ _ _ _ trigger => trigger

/-- The state that `_fit_intercept` reports. -/
def InterceptFit.state : InterceptFit D → String
  | .collecting _ _ => "collecting_motion_samples"
  | .fitted _ _ _ _ _ _ _ _ _ => "waiting_for_intercept"

/-- **What a wait stages** after its fit: whether it triggers, the velocity before the impact, the
collision, and the state of the diagnostics. -/
structure StagedWait (D : Type) where
  trigger : Bool
  preimpactVelocity : Option (Vec 3 D)
  collisionSeen : Bool
  state : String

def stagedWait (np : Numpy D) (config : TabletopInterceptReplayConfig D) (s : ReplayPolicy D)
    (fit : InterceptFit D) : StagedWait D :=
  let decided : StagedWait D :=
    if config.collisionReplan = true then
      match s.interceptPreimpactVelocity with
      | none => ⟨false, if fit.stableMotion = true then fit.velocity? else none, false,
          "waiting_for_collision"⟩
      | some preimpact =>
        if s.interceptCollisionSeen = false then
          match fit.velocity? with
          | some velocity =>
            if config.collisionMinVelocityChangeMS ≤ np.norm fun i => velocity i - preimpact i
            then ⟨false, none, true, "collision_detected_refitting"⟩
            else ⟨false, none, false, "waiting_for_collision"⟩
          | none => ⟨false, none, false, "waiting_for_collision"⟩
        else ⟨fit.triggerGeometry, none, false, if fit.triggerGeometry = true then
          "post_collision_trigger_ready" else "refitting_after_collision"⟩
    else ⟨fit.triggerGeometry, none, false, fit.state⟩
  if decided.trigger = true then { decided with state := "trigger_ready" } else decided

/-- **`_stage_intercept_wait`**: whether the intercept triggers. -/
def stageInterceptWait (np : Numpy D) (config : TabletopInterceptReplayConfig D) (sequence : ℤ)
    (input : PolicyInput S) : ReplayM D S Bool := do
  let s ← read
  check (config.maxWaitTicks ≤ s.interceptWaitTicks)
    (runtimeError "tabletop intercept wait expired without a safe trajectory")
  let center ← ofExcept (objectCenter np input)
  let sample : InterceptSample D := (sequence, center)
  update fun s =>
    { s with pendingInterceptSample := some sample, pendingInterceptArmed := !s.interceptArmed }
  let fitSamples :=
    if config.collisionReplan = true ∧ s.interceptCollisionSeen = true then
      s.interceptPostCollisionSamples ++ [sample]
    else s.interceptSamples ++ [sample]
  -- an exception of the fit leaves the sample staged
  let fit ← ofExcept (fitIntercept np config fitSamples)
  let staged := stagedWait np config s fit
  update fun s =>
    { s with
      pendingInterceptPreimpactVelocity :=
        match staged.preimpactVelocity with
        | some velocity => some velocity
        | none => s.pendingInterceptPreimpactVelocity
      pendingInterceptCollisionSeen := s.pendingInterceptCollisionSeen || staged.collisionSeen
      pendingInterceptResetPostSamples :=
        s.pendingInterceptResetPostSamples || staged.collisionSeen
      pendingInterceptTriggered := s.pendingInterceptTriggered || staged.trigger
      pendingInterceptDiagnostics := some ⟨staged.state, some fit⟩ }
  ret staged.trigger

/-! ## Proposals -/

/-- **The measured arm error** at a waypoint. -/
def arrivalError (config : ReplayConfig D S) (target : ℕ → Vec 7 S) (index : ℤ)
    (input : PolicyInput S) : D :=
  npMax fun i : Fin 7 => FloatArith.abs
    (FloatCast.widen (input.proprio.entry [3, i] + config.qHomeRad i) -
      FloatCast.widen (target index.toNat i))

structure StagedReplay (D : Type) where
  index : ℤ
  finalArrived : Bool
  arrivalError : Option D

/-- **A new proposal.** -/
def stageReplay (config : ReplayConfig D S) (sequence : ℤ) (input : PolicyInput S) :
    ReplayM D S (StagedReplay D) := do
  let s ← read
  let current := s.committedReplayIndex
  if current < 0 then ret ⟨0, false, none⟩
  else
    match config.sequence.recordedFrankaTargetQRad with
    | none => fail assertionError
    | some target =>
      let error := arrivalError config target current input
      let arrived := FloatArith.le error config.arrivalToleranceRad
      match config.sequence.tabletopIntercept with
      | some intercept =>
        if current < intercept.prepositionEndIndex then ret ⟨current + 1, false, some error⟩
        else if current = intercept.prepositionEndIndex ∧ s.interceptTriggered = false then
          if arrived = true then do
            let trigger ← stageInterceptWait config.np intercept sequence input
            ret ⟨if trigger = true then current + 1 else current, false, some error⟩
          else ret ⟨current, false, some error⟩
        else if current + 1 < config.selectedSteps then ret ⟨current + 1, false, some error⟩
        else ret ⟨current,
          arrived && decide (current = config.selectedSteps - 1), some error⟩
      | none =>
        if arrived = true ∧ current + 1 < config.selectedSteps then
          ret ⟨current + 1, false, some error⟩
        else ret ⟨current,
          arrived && decide (current = config.selectedSteps - 1), some error⟩

def replayOutput (config : ReplayConfig D S) (staged : StagedReplay D) :
    ReplayPolicyOutput D S where
  action13 := config.sequence.actions13 staged.index.toNat
  exactFrankaTargetQRad := config.sequence.recordedFrankaTargetQRad.map (· staged.index.toNat)
  exactRh56AngleSet := config.sequence.recordedRh56AngleSet.map (· staged.index.toNat)
  bypassRh56HostSlew := config.sequence.recordedFrankaTargetQRad.isSome &&
    config.sequence.recordedRh56AngleSet.isSome
  replayFrameIndex := staged.index
  replayFinalTargetArrived := staged.finalArrived
  replayArrivalErrorRad := staged.arrivalError

def checkInput (config : ReplayConfig D S) (sequence : ℤ) (input : PolicyInput S) :
    ReplayM D S Unit := do
  check (config.arrivalGated = false ∧ ¬(0 ≤ sequence - 1 ∧ sequence - 1 < config.selectedSteps))
    (valueError s!"replay sequence {sequence} is outside 1..{config.selectedSteps}")
  check (input.pointcloud.shape ≠ [4, 128, config.pointFeatureDim])
    (valueError "replay received a malformed point-cloud history")
  check (input.valid.shape ≠ [4, 128] ∨ input.proprio.shape ≠ [4, 67])
    (valueError "replay received malformed valid/proprio history")

def pendingReplay (config : ReplayConfig D S) (sequence : ℤ) (input : PolicyInput S) :
    ReplayM D S (StagedReplay D) := do
  let s ← read
  match s.pendingSequence with
  | some pending => do
    check (pending ≠ sequence)
      (runtimeError "replay already has a different pending proposal")
    match s.pendingReplayIndex with
    | none => fail assertionError
    | some index => ret ⟨index, s.pendingFinalArrived, s.pendingArrivalErrorRad⟩
  | none => stageReplay config sequence input

def keepPending (sequence : ℤ) (staged : StagedReplay D) : ReplayM D S Unit := update fun s =>
  if s.pendingSequence = none then
    { s with
      pendingSequence := some sequence
      pendingReplayIndex := some staged.index
      pendingFinalArrived := staged.finalArrived
      pendingArrivalErrorRad := staged.arrivalError }
  else s

def proposeGated (config : ReplayConfig D S) (sequence : ℤ) (input : PolicyInput S) :
    ReplayM D S (ReplayPolicyOutput D S) := do
  let staged ← pendingReplay config sequence input
  check (¬(0 ≤ staged.index ∧ staged.index < config.selectedSteps))
    (valueError s!"replay frame {staged.index} is outside 0..{config.selectedSteps - 1}")
  keepPending sequence staged
  emit (.proposed sequence input (replayOutput config staged))
  ret (replayOutput config staged)

def proposeFixedRate (config : ReplayConfig D S) (sequence : ℤ) (input : PolicyInput S) :
    ReplayM D S (ReplayPolicyOutput D S) := do
  let output := replayOutput config ⟨sequence - 1, false, none⟩
  emit (.proposed sequence input output)
  ret output

/-- **`action_for_sequence`.** -/
def actionForSequence (config : ReplayConfig D S) (sequence : ℤ) (input : PolicyInput S) :
    ReplayM D S (ReplayPolicyOutput D S) := do
  checkInput config sequence input
  if config.arrivalGated = false then proposeFixedRate config sequence input
  else proposeGated config sequence input

/-! ## Commits and discards -/

def lastItems {α : Type} (count : ℕ) (l : List α) : List α := l.drop (l.length - count)

def ReplayPolicy.commitSample (s : ReplayPolicy D) : ReplayPolicy D :=
  match s.pendingInterceptSample with
  | none => s
  | some sample =>
    { s with
      interceptWaitTicks := s.interceptWaitTicks + 1
      interceptSamples := lastItems 24 (s.interceptSamples ++ [sample])
      interceptPostCollisionSamples :=
        if s.interceptCollisionSeen = true then
          lastItems 24 (s.interceptPostCollisionSamples ++ [sample])
        else s.interceptPostCollisionSamples }

def ReplayPolicy.commitIntercept (s : ReplayPolicy D) : ReplayPolicy D :=
  { s with
    interceptArmed := s.interceptArmed || s.pendingInterceptArmed
    interceptPreimpactVelocity :=
      match s.pendingInterceptPreimpactVelocity with
      | some velocity => some velocity
      | none => s.interceptPreimpactVelocity
    interceptCollisionSeen := s.interceptCollisionSeen || s.pendingInterceptCollisionSeen
    interceptPostCollisionSamples :=
      if s.pendingInterceptCollisionSeen = true ∧ s.pendingInterceptResetPostSamples = true then
        s.pendingInterceptSample.toList
      else s.interceptPostCollisionSamples
    interceptTriggered := s.interceptTriggered || s.pendingInterceptTriggered
    interceptLastDiagnostics :=
      s.pendingInterceptDiagnostics.getD s.interceptLastDiagnostics }

def ReplayPolicy.commitIndex (s : ReplayPolicy D) (index : ℤ) : ReplayPolicy D :=
  { s with
    repeatedTargetCommands := s.repeatedTargetCommands +
      (if index = s.committedReplayIndex then 1 else 0)
    committedReplayIndex := index
    replayComplete := s.pendingFinalArrived }

def commitGated (sequence : ℤ) : ReplayM D S Unit := do
  let s ← read
  match s.pendingReplayIndex with
  | none => fail (runtimeError "replay commit differs from the pending proposal")
  | some index => do
    check (s.pendingSequence ≠ some sequence)
      (runtimeError "replay commit differs from the pending proposal")
    let s' := ((s.commitIndex index).clearPending.commitSample.commitIntercept).clearPendingIntercept
    update fun _ => s'
    emit (.committed sequence index s'.replayComplete s'.interceptTriggered)

def commitFixedRate (config : ReplayConfig D S) (sequence : ℤ) : ReplayM D S Unit := do
  check (¬(0 ≤ sequence - 1 ∧ sequence - 1 < config.selectedSteps))
    (runtimeError "fixed-rate replay commit is outside the sequence")
  update fun s => { s with committedReplayIndex := sequence - 1 }
  let s ← read
  emit (.committed sequence (sequence - 1) s.replayComplete s.interceptTriggered)

/-- **`commit_replay_proposal`.** -/
def commitReplayProposal (config : ReplayConfig D S) (sequence : ℤ) : ReplayM D S Unit :=
  if config.arrivalGated = false then commitFixedRate config sequence else commitGated sequence

/-- **`discard_replay_proposal`.** -/
def discardReplayProposal (config : ReplayConfig D S) (sequence : ℤ) : ReplayM D S Unit := do
  if config.arrivalGated = false then ret ()
  else do
    let s ← read
    check (s.pendingSequence ≠ some sequence)
      (runtimeError "replay discard differs from the pending proposal")
    update fun s => s.clearPending.clearPendingIntercept
    emit (.discarded sequence)

end FrankaDeploy.Replay
