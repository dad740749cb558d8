import FrankaDeploy.Foundation.PythonText
import FrankaDeploy.Foundation.Ieee754

/-! # The task launcher

`sim2real.tasks.launcher` starts a runner for a task: it scans the forwarded arguments for the
settings that the task owns and puts its own before them. The YAML files are a parameter. -/

namespace FrankaDeploy.Deployment

open FrankaDeploy.Foundation

/-! ## Task profiles -/

inductive Yaml where
  | null
  | bool (b : Bool)
  | int (n : ℤ)
  | float (x : Binary64)
  | str (s : String)
  | seq (values : List Yaml)
  | map (entries : List (String × Yaml))
  | other

abbrev TaskMapping := List (String × Yaml)

def TaskMapping.get (task : TaskMapping) (key : String) : Option Yaml :=
  (task.find? (·.1 = key)).map (·.2)

def isTrue : Option Yaml → Bool
  | some (.bool true) => true
  | _ => false

def equalsInt (n : ℤ) : Option Yaml → Bool
  | some (.bool b) => n = if b then 1 else 0
  | some (.int k) => k = n
  | some (.float x) => x.toRat? = some (n : ℚ)
  | _ => false

structure TaskFiles where
  text : Yaml → String
  materializeTaskConfig : String → Except PyException (String × TaskMapping)
  executable : String

def TaskFiles.strippedText (files : TaskFiles) (task : TaskMapping) (key : String) : String :=
  pyStrip (match task.get key with
    | none => ""
    | some (.str s) => s
    | some value => files.text value)

def thrownTaskNames : List String := ["thrown_object", "thrown_object_v60", "thrown_object_v61"]

def isThrownTask (taskName : String) : Bool := taskName ∈ thrownTaskNames

/-- The execution limits of a task that is not fully accepted: its cap, repeated by its limits. -/
def limitsAllow (task : TaskMapping) (key : String) (cap : ℤ) : Bool :=
  equalsInt cap (task.get "maximum_supervised_execute_steps") &&
    match task.get key with
    | some (.map limits) =>
      equalsInt cap (TaskMapping.get limits "maximum_commanded_policy_ticks") &&
        isTrue (TaskMapping.get limits "require_current_policy_points_inside_processing_depth") &&
        isTrue (TaskMapping.get limits "robot_hardware_writes")
    | _ => false

/-- `_task_allows_robot_execution`: the execution latch of a task. -/
def TaskFiles.taskAllowsRobotExecution (files : TaskFiles) (taskName : String)
    (task : TaskMapping) : Bool :=
  if !isTrue (task.get "robot_execution_enabled") then false
  else
    let status := files.strippedText task "commissioning_status"
    if status = "accepted" then true
    else
      let v60FirstMotion := taskName = "thrown_object_v60" && status = "first_motion_accepted" &&
        limitsAllow task "first_motion_execution_limits" 1
      let v61FortyTick := taskName = "thrown_object_v61" &&
        status = "supervised_40_tick_authorized" &&
        limitsAllow task "supervised_execution_limits" 40
      v60FirstMotion || v61FortyTick

/-! ## Scanning arguments -/

def taskLauncherError (message : String) : PyException := ⟨.ordinary, "TaskLauncherError", message⟩

def protectedOptions : List String :=
  ["--pcd-config", "--policy-rgbd-resolution", "--object-mask-mode"]

def targetOptions : List String := ["--object-text", "--select-object-roi", "--object-roi"]

def optionPresent (arguments : List String) (option : String) : Bool :=
  arguments.any fun value => value = option || pyStartsWith value (option ++ "=")

/-- The values that `_single_option_value` collects. -/
def optionValues (option : String) : List String → Except PyException (List String)
  | [] => .ok []
  | value :: rest =>
    if value = option then
      match rest with
      | [] => .error (taskLauncherError (option ++ " requires a value"))
      | next :: rest => (next :: ·) <$> optionValues option rest
    else if pyStartsWith value (option ++ "=") then
      match partitionAt '=' value with
      | some (_, after) => (after :: ·) <$> optionValues option rest
      | none => optionValues option rest
    else optionValues option rest

def singleOptionValue (arguments : List String) (option : String) :
    Except PyException (Option String) := do
  match ← optionValues option arguments with
  | [] => .ok none
  | [value] => .ok (some value)
  | _ => .error (taskLauncherError (option ++ " may be supplied only once"))

/-! ## The command -/

/-- `int(value)` of a number: towards zero. -/
def truncated (q : ℚ) : ℤ := if q < 0 then -(-q).floor else q.floor

def supervisedStepCap (taskName : String) (metadata : TaskMapping) : Except PyException ℤ := do
  let invalid := taskLauncherError (taskName ++ " has no valid supervised step cap")
  let maximumSteps ← match metadata.get "maximum_supervised_execute_steps" with
    | some (.bool _) =>
      .error (taskLauncherError (taskName ++ " maximum_supervised_execute_steps is invalid"))
    | some (.int n) => .ok n
    | some (.str s) => (match pyInt s with
        | some n => .ok n
        | none => .error invalid)
    | some (.float x) => (match x.toRat? with
        | some q => .ok (truncated q)
        | none =>
          -- an infinity raises an error that is not caught
          if x.isNaN then .error invalid
          else .error ⟨.ordinary, "OverflowError", "cannot convert float infinity to integer"⟩)
    | _ => .error invalid
  if maximumSteps < 1 then
    .error (taskLauncherError (taskName ++ " supervised step cap must be positive"))
  else .ok maximumSteps

def checkSteps (taskName : String) (metadata : TaskMapping) (arguments : List String) :
    Except PyException Unit := do
  let maximumSteps ← supervisedStepCap taskName metadata
  match ← singleOptionValue arguments "--steps" with
  | none =>
    .error (taskLauncherError (taskName ++ " --execute requires an explicit --steps value"))
  | some requested =>
    match pyInt requested with
    | none => .error (taskLauncherError "--steps must be an integer")
    | some steps =>
      if 1 ≤ steps ∧ steps ≤ maximumSteps then .ok ()
      else .error (taskLauncherError
        s!"{taskName} commissioning permits only 1..{maximumSteps} supervised steps")

/-- `str(int(float(metadata["simulation_task_contract_control_hz"])))`. -/
def policyRateText (metadata : TaskMapping) : Except PyException String :=
  match metadata.get "simulation_task_contract_control_hz" with
  | some (.float x) => (match x.toRat? with
      | some q => .ok (toString (truncated q))
      | none => .error ⟨.ordinary, "OverflowError", "cannot convert float infinity to integer"⟩)
  | none => .error ⟨.ordinary, "KeyError", "'simulation_task_contract_control_hz'"⟩
  -- a thrown task's metadata holds the number of its contract
  | some _ => .error ⟨.ordinary, "TypeError", "float() argument must be a number"⟩

def compatibilityLabel (taskName : String) : String :=
  if taskName = "thrown_object" then "V57-compatible"
  else if taskName = "thrown_object_v60" then "V60-compatible"
  else "V61-compatible"

def startsPolicy (taskName mode : String) : Bool :=
  isThrownTask taskName && (mode = "shadow" || mode = "deploy")

def TaskFiles.withTarget (files : TaskFiles) (mode : String) (metadata : TaskMapping)
    (arguments : List String) : Except PyException (List String) :=
  if (mode = "perception" || mode = "shadow") && !targetOptions.any (optionPresent arguments) then
    let defaultText := files.strippedText metadata "default_object_text"
    if defaultText = "" then
      .error (taskLauncherError
        "perception requires --object-text, --select-object-roi, or --object-roi")
    else .ok ("--object-text" :: defaultText :: arguments)
  else .ok arguments

def withPolicyRate (taskName mode : String) (metadata : TaskMapping) (arguments : List String) :
    Except PyException (List String) :=
  if isThrownTask taskName ∧ mode = "deploy" then do
    let rate ← policyRateText metadata
    .ok ("--policy-rate-hz" :: rate :: arguments)
  else .ok arguments

def moduleOf (mode : String) : String :=
  if mode = "perception" then "sim2real.perception"
  else if mode = "shadow" then "sim2real.tasks.thrown_shadow"
  else "sim2real.deploy"

def runnerArguments (configPath : String) (arguments : List String) : List String :=
  "--pcd-config" :: configPath :: "--policy-rgbd-resolution" :: "424x240" ::
    "--object-mask-mode" :: "guarded_v2" :: arguments

def checkForwarded (taskName mode : String) (arguments : List String) : Except PyException Unit := do
  if mode ∉ ["config", "perception", "shadow", "deploy"] then
    throw (taskLauncherError s!"mode must be one of config, perception, shadow, deploy, got '{mode}'")
  if mode = "shadow" ∧ isThrownTask taskName = false then
    throw (taskLauncherError "shadow mode is defined only for thrown tasks")
  match protectedOptions.find? (optionPresent arguments) with
  | some option => throw (taskLauncherError (option ++ " is task-owned and cannot be overridden"))
  | none => pure ()
  if isThrownTask taskName ∧ optionPresent arguments "--policy-rate-hz" then
    throw (taskLauncherError "--policy-rate-hz is owned by the thrown task contract")

def TaskFiles.checkExecution (files : TaskFiles) (taskName mode : String) (metadata : TaskMapping)
    (arguments : List String) : Except PyException Unit := do
  if mode = "deploy" ∧ optionPresent arguments "--execute" ∧
      files.taskAllowsRobotExecution taskName metadata = false then
    throw (taskLauncherError (taskName ++ " robot execution is disabled"))
  if isThrownTask taskName ∧ mode = "deploy" ∧ optionPresent arguments "--execute" then
    checkSteps taskName metadata arguments
  if startsPolicy taskName mode ∧ optionPresent arguments "--checkpoint" = false then
    throw (taskLauncherError (s!"{taskName} {mode} requires an explicit " ++
      s!"{compatibilityLabel taskName} --checkpoint; " ++
      "the shared bundle checkpoint is not a task model"))
  if startsPolicy taskName mode ∧ optionPresent arguments "--profile" = false then
    throw (taskLauncherError (s!"{taskName} {mode} requires an explicit task-specific " ++
      "--profile binding camera 342222071785 and the task reset; it will " ++
      "be commissioned only after the physical point-cloud gates pass"))

/-- `build_task_command`: the command, the path of the task configuration and the metadata. -/
def TaskFiles.buildTaskCommand (files : TaskFiles) (taskName mode : String)
    (forwarded : List String) : Except PyException (List String × String × TaskMapping) := do
  checkForwarded taskName mode forwarded
  let (configPath, metadata) ← files.materializeTaskConfig taskName
  if mode = "config" then return ([], configPath, metadata)
  files.checkExecution taskName mode metadata forwarded
  let arguments ← files.withTarget mode metadata forwarded
  let arguments ← withPolicyRate taskName mode metadata arguments
  return (files.executable :: "-m" :: moduleOf mode :: runnerArguments configPath arguments,
    configPath, metadata)

end FrankaDeploy.Deployment
