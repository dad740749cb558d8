import FrankaDeploy.ClosedLoop.Validation

/-! # States and plans of a staged grasp

The states of `anydex_pipeline/control_sequence.py`, the transitions it allows, and its plans. The
plans are the validated ones: what their constructors check of the stages that the sequence
dispatches is part of their types. -/

namespace FrankaDeploy.GraspSequence

open FrankaDeploy.Foundation FrankaDeploy.ClosedLoop
open scoped FloatArith

/-! ## States -/

/-- **`SequenceState`.** -/
inductive SequenceState where
  | disarmed
  | openingHand
  | openVerified
  | movingFrankaDefault
  | defaultVerified
  | movingPregrasp
  | pregraspVerified
  | movingGrasp
  | eefSettling
  | thumbPreshape
  | closingBends
  | holding
  | movingLift
  | liftSettling
  | liftedHolding
  | loweringLoad
  | setdownSettling
  | setdownHolding
  | setdownComplete
  | reopeningHand
  | returnedOpen
  | stopping
  | stopped
  | faultLatched
deriving DecidableEq, Repr

namespace SequenceState

/-- **`_ALLOWED_TRANSITIONS`.** -/
def allowedTransitions : SequenceState → List SequenceState
  | disarmed => [openingHand, stopping]
  | openingHand => [openVerified, stopping]
  | openVerified => [movingFrankaDefault, stopping]
  | movingFrankaDefault => [defaultVerified, stopping]
  | defaultVerified => [movingPregrasp, stopping]
  | movingPregrasp => [pregraspVerified, stopping]
  | pregraspVerified => [movingGrasp, stopping]
  | movingGrasp => [eefSettling, stopping]
  | eefSettling => [thumbPreshape, closingBends, stopping]
  | thumbPreshape => [closingBends, stopping]
  | closingBends => [holding, stopping]
  | holding => [movingLift, reopeningHand, stopping]
  | movingLift => [liftSettling, stopping]
  | liftSettling => [liftedHolding, stopping]
  | liftedHolding => [loweringLoad, stopping]
  | loweringLoad => [setdownSettling, stopping]
  | setdownSettling => [setdownHolding, stopping]
  | setdownHolding => [setdownComplete, stopping]
  | setdownComplete => [stopping]
  | reopeningHand => [returnedOpen, stopping]
  | returnedOpen => [stopping]
  | stopping => [stopped, faultLatched]
  | stopped => []
  | faultLatched => []

def value : SequenceState → String
  | disarmed => "disarmed"
  | openingHand => "opening_hand"
  | openVerified => "open_verified"
  | movingFrankaDefault => "moving_franka_default"
  | defaultVerified => "default_verified"
  | movingPregrasp => "moving_pregrasp"
  | pregraspVerified => "pregrasp_verified"
  | movingGrasp => "moving_grasp"
  | eefSettling => "eef_settling"
  | thumbPreshape => "thumb_preshape"
  | closingBends => "closing_bends"
  | holding => "holding"
  | movingLift => "moving_lift"
  | liftSettling => "lift_settling"
  | liftedHolding => "lifted_holding"
  | loweringLoad => "lowering_load"
  | setdownSettling => "setdown_settling"
  | setdownHolding => "setdown_holding"
  | setdownComplete => "setdown_complete"
  | reopeningHand => "reopening_hand"
  | returnedOpen => "returned_open"
  | stopping => "stopping"
  | stopped => "stopped"
  | faultLatched => "fault_latched"

def isTerminal : SequenceState → Bool
  | stopping | stopped | faultLatched => true
  | _ => false

theorem stopping_mem_allowedTransitions {s : SequenceState} (h : s.isTerminal = false) :
    stopping ∈ s.allowedTransitions := by
  cases s <;> first | exact absurd h (by decide) | decide

end SequenceState

/-! ## Plans -/

abbrev Pose (D : Type) := Fin 4 → Fin 4 → D

variable (D : Type) [FloatArith D]

/-- **`SettleTolerances`**, which the arm's driver interprets. -/
structure SettleTolerances where
  positionM : D
  orientationRad : D
  linearSpeedMS : D
  angularSpeedRadS : D
  stableSeconds : D

structure Waypoint where
  name : String
  q : FiniteVec 7 D

/-- **`_NormalizedDefaultPlan`.** -/
structure NormalizedDefaultPlan where
  executionEligible : Bool
  defaultQ : FiniteVec 7 D
  ineligibilityReason : String

/-- **`_NormalizedPlan`.** -/
structure NormalizedPlan where
  executionEligible : Bool
  defaultQ : FiniteVec 7 D
  pregraspPose : Pose D
  graspPose : Pose D
  handTarget6 : RegisterVector
  settleTolerances : SettleTolerances D
  thumbPreshapeTarget : Option (Fin 1001)
  ineligibilityReason : String
  thumb_ok : ∀ q6 ∈ thumbPreshapeTarget, q6 = handTarget6 5

def transitNames (start : String) (n : ℕ) : List String :=
  (List.range n).map fun i => start ++ toString i

/-- **`AuditedJointSequencePlan`**: a named joint polyline. -/
structure AuditedJointSequencePlan where
  executionEligible : Bool
  contactAndLiftForbidden : Bool
  jointWaypoints : List (Waypoint D)
  pregraspPose : Pose D
  graspPose : Pose D
  handTarget6 : RegisterVector
  maxQTrackingErrorRad : D
  settleTolerances : SettleTolerances D
  thumbPreshapeTarget : Option (Fin 1001)
  ineligibilityReason : String
  names_ok : ∃ m n, jointWaypoints.map (·.name) =
    "current" :: transitNames "default_transit_" m ++
      ("default" :: transitNames "approach_transit_" n ++ ["pregrasp", "grasp"])
  thumb_ok : ∀ q6 ∈ thumbPreshapeTarget, q6 = handTarget6 5

/-- **`LoadedLiftPayload`**: the external load that the arm is told of. -/
structure LoadedLiftPayload where
  massKg : D
  fxCloadM : FiniteVec 3 D
  iLoadKgM2 : FiniteVec 9 D
  bindingSha256 : String
  mass_finite : FloatArith.isFinite massKg = true
  mass_pos : FloatArith.zero < massKg

structure LoadedTimeLaw where
  maxJointVelocityRadS : D
  maxJointAccelerationRadS2 : D
  maxDynamicSegmentRad : D
  minSegmentDurationS : D

/-- **`AuditedLoadedLiftSequencePlan`**: a lift on top of a loaded grasp. -/
structure AuditedLoadedLiftSequencePlan where
  executionEligible : Bool
  loadedLiftArtifactSha256 : String
  graspPlan : AuditedJointSequencePlan D
  liftWaypoints : List (Waypoint D)
  liftPose : Pose D
  payload : LoadedLiftPayload D
  minimumContactAxes : ℕ
  maxQTrackingErrorRad : D
  timeLaw : LoadedTimeLaw D
  settleTolerances : SettleTolerances D
  ineligibilityReason : String
  grasp_loaded : graspPlan.contactAndLiftForbidden = false
  names_ok : ∃ n, liftWaypoints.map (·.name) = "grasp" :: transitNames "lift_transit_" n ++ ["lift"]
  contacts_ok : 1 ≤ minimumContactAxes ∧ minimumContactAxes ≤ 5

/-- **`AuditedPregraspSequencePlan`**: the prefix of a grasp that ends at the pregrasp pose. -/
structure AuditedPregraspSequencePlan where
  executionEligible : Bool
  jointWaypoints : List (Waypoint D)
  pregraspPose : Pose D
  maxQTrackingErrorRad : D
  settleTolerances : SettleTolerances D
  ineligibilityReason : String
  names_ok : ∃ m n, jointWaypoints.map (·.name) =
    "current" :: transitNames "default_transit_" m ++
      ("default" :: transitNames "approach_transit_" n ++ ["pregrasp"])

variable {D}

/-- The index of the waypoint `default`. -/
def defaultIndex (waypoints : List (Waypoint D)) : Option ℕ :=
  waypoints.findIdx? fun w => w.name = "default"

theorem AuditedLoadedLiftSequencePlan.tail_ne_nil (plan : AuditedLoadedLiftSequencePlan D) :
    plan.liftWaypoints.drop 1 ≠ [] := by
  obtain ⟨n, hnames⟩ := plan.names_ok
  intro hnil
  have hlength := congrArg List.length hnames
  have hshort := congrArg List.length hnil
  simp only [List.length_map, List.length_append, List.length_cons, List.length_drop,
    List.length_nil] at hlength hshort
  omega

end FrankaDeploy.GraspSequence
