import FrankaDeploy.Foundation.Python

/-! # The canonical no-contact hand path

`rh56_hand_path.py`: the waypoints that close the RH56 hand from all-open to a target, `q6` first and
then the five bend axes one after the other, and reopen it in the reverse order. The loops that
generate the registers are the source's own; a waypoint is checked where it is constructed. -/

namespace FrankaDeploy.HandPath

open FrankaDeploy.Foundation

def minDirectionReversalBootstrapUnits : ℤ := 50

/-- Six actuator registers: pinky, ring, middle, index, thumb bend and thumb rotation (`q6`). -/
abbrev Registers : Type := Vec 6 ℤ

abbrev Bends : Type := Vec 5 ℤ

def Bends.withQ6 (bends : Bends) (q6 : ℤ) : Registers := fun axis =>
  if h : axis.val < 5 then bends ⟨axis.val, h⟩ else q6

def openBends : Bends := fun _ => 1000

def allOpen : Registers := fun _ => 1000

/-- Five disabled registers and a target of `q6`. -/
def q6Command (q6 : ℤ) : Registers := Bends.withQ6 (fun _ => -1) q6

/-! ## Waypoints -/

def six (value : List ℤ) (name : String) (allowDisabled : Bool) : Except PyError Registers :=
  let minimum : ℤ := if allowDisabled then -1 else 0
  if h : value.length = 6 ∧ ∀ item ∈ value, minimum ≤ item ∧ item ≤ 1000 then
    .ok fun axis => value.get (axis.cast h.1.symm)
  else
    .error (.valueError (name ++ " must be six integer registers in [" ++ toString minimum
      ++ ",1000]"))

/-- **A waypoint**, with what its constructor checks. -/
@[ext] structure RH56HandWaypoint where
  phase : String
  commandTargets : Registers
  actuatorConfiguration : Registers
  phase_ne : phase ≠ ""
  command_mem : ∀ axis, -1 ≤ commandTargets axis ∧ commandTargets axis ≤ 1000
  configuration_mem : ∀ axis, 0 ≤ actuatorConfiguration axis ∧ actuatorConfiguration axis ≤ 1000

abbrev WaypointArguments : Type := String × Registers × Registers

/-- `RH56HandWaypoint(phase, command_targets, actuator_configuration)`. -/
def handWaypoint (arguments : WaypointArguments) : Except PyError RH56HandWaypoint :=
  let (phase, command, configuration) := arguments
  if hphase : phase = "" then .error (.valueError "hand waypoint phase must be non-empty")
  else if hcommand : ∀ axis, -1 ≤ command axis ∧ command axis ≤ 1000 then
    if hconfiguration : ∀ axis, 0 ≤ configuration axis ∧ configuration axis ≤ 1000 then
      .ok ⟨phase, command, configuration, hphase, hcommand, hconfiguration⟩
    else
      .error (.valueError "actuator_configuration must be six integer registers in [0,1000]")
  else .error (.valueError "command_targets must be six integer registers in [-1,1000]")

structure StepUnits where
  units : ℤ
  ten_le : 10 ≤ units
  le_fifty : units ≤ 50

structure RH56HandExecutionPath where
  target : Registers
  stepUnits : StepUnits
  waypoints : List RH56HandWaypoint

/-! ## The generating loops -/

section Loops

variable (step : StepUnits)

def rangeDown (start stop : ℤ) : List ℤ :=
  if stop < start then start :: rangeDown (start - step.units) stop else []
termination_by (start - stop).toNat
decreasing_by
  have := step.ten_le
  omega

/-- The values of `q6` on the way to its target. -/
def q6Forward (target : ℤ) : List ℤ :=
  let values := rangeDown step (1000 - step.units) target
  if values = [] ∨ values.getLast? ≠ some target then values ++ [target] else values

/-- `while current[axis] != wanted`: the registers left and the configurations emitted. -/
def closeAxis (wanted : ℤ) (axis : Fin 5) (current : Bends) (emitted : List Bends) :
    Bends × List Bends :=
  if current axis = wanted then (current, emitted)
  else
    let next := Function.update current axis (max wanted (current axis - step.units))
    closeAxis wanted axis next (emitted ++ [next])
termination_by (current axis - wanted).natAbs
decreasing_by
  have := step.ten_le
  rw [Function.update_self]
  omega

/-- `bend_forward`, before `q6` is appended. -/
def bendForward (targets : Registers) : List Bends :=
  ((List.finRange 5).foldl (fun state axis =>
    closeAxis step (targets axis.castSucc) axis state.1 state.2) (openBends, [])).2

def reopenAxis (axis : Fin 5) (current : Bends) (emitted : List Bends) : Bends × List Bends :=
  if current axis = 1000 then (current, emitted)
  else
    let next := Function.update current axis (min 1000 (current axis + step.units))
    reopenAxis axis next (emitted ++ [next])
termination_by (current axis - 1000).natAbs
decreasing_by
  have := step.ten_le
  rw [Function.update_self]
  omega

def bootstrap : ℤ := max minDirectionReversalBootstrapUnits step.units

/-- `reverse_bends`, before `q6` is appended. -/
def reverseBends (targets : Registers) : List Bends :=
  ((List.finRange 5).reverse.foldl (fun state axis =>
    if state.1 axis = 1000 then state
    else
      let next := Function.update state.1 axis (min 1000 (state.1 axis + bootstrap step))
      reopenAxis step axis next (state.2 ++ [next]))
    ((fun axis => targets axis.castSucc : Bends), [])).2

/-- `while q6_reverse_values[-1] != 1000`, from the last value so far. -/
def q6ReverseFrom (last : ℤ) : List ℤ :=
  if last = 1000 then []
  else
    let next := min 1000 (last + step.units)
    next :: q6ReverseFrom next
termination_by (last - 1000).natAbs
decreasing_by
  have := step.ten_le
  omega

def q6Reverse (target : ℤ) : List ℤ :=
  let first := min 1000 (target + bootstrap step)
  first :: q6ReverseFrom step first

end Loops

/-! ## The builder -/

def numbered {α : Type} (phase : String) (command configuration : α → Registers)
    (values : List α) : List WaypointArguments :=
  values.mapIdx fun index value =>
    (phase ++ FloatArith.paddedDigits 4 index, command value, configuration value)

def waypointArguments (targets : Registers) (step : StepUnits) : List WaypointArguments :=
  let withTarget (bends : Bends) := bends.withQ6 (targets 5)
  [("start_open", fun _ => -1, allOpen)]
    ++ numbered "q6_forward_" q6Command openBends.withQ6 (q6Forward step (targets 5))
    ++ numbered "bend_forward_" withTarget withTarget (bendForward step targets)
    ++ numbered "bend_reverse_" withTarget withTarget (reverseBends step targets)
    ++ numbered "q6_reverse_" q6Command openBends.withQ6 (q6Reverse step (targets 5))

def buildRh56NoContactExecutionPath (target : List ℤ) (stepUnits : ℤ) :
    Except PyError RH56HandExecutionPath := do
  let targets ← six target "target" false
  if h : 10 ≤ stepUnits ∧ stepUnits ≤ 50 then
    let step : StepUnits := ⟨stepUnits, h.1, h.2⟩
    let waypoints ← (waypointArguments targets step).mapM handWaypoint
    return ⟨targets, step, waypoints⟩
  else throw (.valueError "step_units must be an integer in 10..50")

/-! ## The dense joint paths -/

section Dense

def changedAxes (start finish : Registers) : List (Fin 6) :=
  (List.finRange 6).filter fun axis => start axis ≠ finish axis

/-- The registers of one interval: one after the other, every integer of the register that
changes. -/
def intervalRegisters (start finish : Registers) : List (Fin 6) → List Registers
  | [] => [start]
  | axis :: _ =>
    let direction : ℤ := if finish axis > start axis then 1 else -1
    (List.range ((finish axis - start axis).natAbs + 1)).map fun k : ℕ =>
      Function.update start axis (start axis + direction * (k : ℤ))

variable {F : Type} [FloatArith F]

def npStack (rows : List (List F)) : Except PyError (List (List F)) :=
  if ∀ row ∈ rows, row.length = (rows.headD []).length then .ok rows
  else .error (.valueError "all input arrays must have the same shape")

/-- One interval of `dense_rh56_hand_interval_joint_paths`. The converter returns rows of numbers. -/
def denseInterval (converter : Registers → Except PyError (List F)) (index : ℕ)
    (first second : RH56HandWaypoint) : Except PyError (List (List F)) := do
  let start := first.actuatorConfiguration
  let finish := second.actuatorConfiguration
  let changed := changedAxes start finish
  if changed.length > 1 then
    throw (.valueError ("hand path interval " ++ toString index ++ " changes more than one axis"))
  let rows ← (intervalRegisters start finish changed).mapM converter
  let q12 ← npStack rows
  if ¬∀ row ∈ q12, row.length = 12 ∧ row.all FloatArith.isFinite then
    throw (.runtimeError "official hand interval mapping produced invalid q12")
  return q12

/-- `dense_rh56_hand_interval_joint_paths`, for a mapper that has a converter. -/
def denseRh56HandIntervalJointPaths (path : RH56HandExecutionPath)
    (converter : Registers → Except PyError (List F)) : Except PyError (List (List (List F))) :=
  ((path.waypoints.dropLast.zip path.waypoints.tail).zipIdx).mapM fun ((first, second), index) =>
    denseInterval converter index first second

end Dense

end FrankaDeploy.HandPath
