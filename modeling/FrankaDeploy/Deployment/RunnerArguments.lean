import FrankaDeploy.Foundation.CommandLine

/-! # The runner's arguments

`build_parser` of `sim2real.deployment.runner`, and the namespace that it gives. The default paths
and rates are parameters. -/

namespace FrankaDeploy.Deployment

open FrankaDeploy.Foundation

/-! ## The options -/

inductive Dest where
  | steps | runId | policyRateHz | bundle | checkpoint | profile | pcdConfig | execute
  | verboseConsole | arrivalGated | arrivalToleranceRad | arrivalTimeoutS | objectRoi
  | objectMaskMode | policyRgbdResolution | selectObjectRoi | objectText | liveVisualization
  | liveVisualizationRateHz | recordVideo | recordPolicyIo | yesIAmSupervising
  deriving DecidableEq, Repr

def valueOption (name : String) (dest : Dest) : OptionAction Dest :=
  ⟨name, dest, 1, fun _ => true, none⟩

def flagOption (name : String) (dest : Dest) : OptionAction Dest :=
  ⟨name, dest, 0, fun _ => true, none⟩

def choiceOption (name : String) (dest : Dest) (choices : List String) : OptionAction Dest :=
  ⟨name, dest, 1, fun args => args.all (· ∈ choices), none⟩

def targetOption (name : String) (dest : Dest) (nargs : ℕ) (accepts : List String → Bool) :
    OptionAction Dest :=
  ⟨name, dest, nargs, accepts, some 0⟩

/-- **`build_parser`.** -/
def runnerOptions : List (OptionAction Dest) :=
  [valueOption "--steps" .steps,
    valueOption "--run-id" .runId,
    valueOption "--policy-rate-hz" .policyRateHz,
    valueOption "--bundle" .bundle,
    valueOption "--checkpoint" .checkpoint,
    valueOption "--profile" .profile,
    valueOption "--pcd-config" .pcdConfig,
    flagOption "--execute" .execute,
    flagOption "--verbose-console" .verboseConsole,
    flagOption "--arrival-gated" .arrivalGated,
    valueOption "--arrival-tolerance-rad" .arrivalToleranceRad,
    valueOption "--arrival-timeout-s" .arrivalTimeoutS,
    targetOption "--object-roi" .objectRoi 4 (fun args => args.all fun arg => (pyInt arg).isSome),
    choiceOption "--object-mask-mode" .objectMaskMode
      ["guarded", "guarded_v2", "guarded_v1", "legacy"],
    choiceOption "--policy-rgbd-resolution" .policyRgbdResolution ["848x480", "424x240"],
    targetOption "--select-object-roi" .selectObjectRoi 0 (fun _ => true),
    targetOption "--object-text" .objectText 1 (fun _ => true),
    flagOption "--live-visualization" .liveVisualization,
    valueOption "--live-visualization-rate-hz" .liveVisualizationRateHz,
    valueOption "--record-video" .recordVideo,
    flagOption "--record-policy-io" .recordPolicyIo,
    flagOption "--yes-i-am-supervising" .yesIAmSupervising]

/-! ## The namespace -/

structure Namespace where
  steps : String
  runId : Option String
  policyRateHz : String
  bundle : PosixPath
  checkpoint : Option PosixPath
  profile : PosixPath
  pcdConfig : PosixPath
  execute : Bool
  verboseConsole : Bool
  arrivalGated : Bool
  arrivalToleranceRad : String
  arrivalTimeoutS : String
  objectRoi : Option (List ℤ)
  objectMaskMode : String
  policyRgbdResolution : String
  selectObjectRoi : Bool
  objectText : Option String
  liveVisualization : Bool
  liveVisualizationRateHz : String
  recordVideo : Option PosixPath
  recordPolicyIo : Bool
  yesIAmSupervising : Bool
  deriving DecidableEq, Repr

structure RunnerDefaults where
  policyRateHz : String
  bundle : PosixPath
  profile : PosixPath
  pcdConfig : PosixPath
  arrivalToleranceRad : String
  arrivalTimeoutS : String
  liveVisualizationRateHz : String

def oneOf (args : Option (List String)) : Option String := args.bind (·.head?)

def namespaceOf (defaults : RunnerDefaults) (given : Given Dest) : Namespace where
  steps := (oneOf (given .steps)).getD "1"
  runId := oneOf (given .runId)
  policyRateHz := (oneOf (given .policyRateHz)).getD defaults.policyRateHz
  bundle := ((oneOf (given .bundle)).map pyPath).getD defaults.bundle
  checkpoint := (oneOf (given .checkpoint)).map pyPath
  profile := ((oneOf (given .profile)).map pyPath).getD defaults.profile
  pcdConfig := ((oneOf (given .pcdConfig)).map pyPath).getD defaults.pcdConfig
  execute := (given .execute).isSome
  verboseConsole := (given .verboseConsole).isSome
  arrivalGated := (given .arrivalGated).isSome
  arrivalToleranceRad := (oneOf (given .arrivalToleranceRad)).getD defaults.arrivalToleranceRad
  arrivalTimeoutS := (oneOf (given .arrivalTimeoutS)).getD defaults.arrivalTimeoutS
  objectRoi := (given .objectRoi).map fun args => args.filterMap pyInt
  objectMaskMode := (oneOf (given .objectMaskMode)).getD "guarded"
  policyRgbdResolution := (oneOf (given .policyRgbdResolution)).getD "848x480"
  selectObjectRoi := (given .selectObjectRoi).isSome
  objectText := oneOf (given .objectText)
  liveVisualization := (given .liveVisualization).isSome
  liveVisualizationRateHz :=
    (oneOf (given .liveVisualizationRateHz)).getD defaults.liveVisualizationRateHz
  recordVideo := (oneOf (given .recordVideo)).map pyPath
  recordPolicyIo := (given .recordPolicyIo).isSome
  yesIAmSupervising := (given .yesIAmSupervising).isSome

/-- `build_parser().parse_args(argv)`: the namespace, or `none` where the parser exits. -/
def parseArgs (defaults : RunnerDefaults) (argv : List String) : Option Namespace :=
  (CommandLine.parse runnerOptions 0 argv fun _ => none).map (namespaceOf defaults)

/-- A unique prefix names an option; a prefix of several ones exits, as does an option that would be
the argument of another one. -/
example : ((CommandLine.parse runnerOptions 0 ["--object-m", "legacy", "--exec"] fun _ => none).map
      (fun given => (given .objectMaskMode, given .execute)),
    (CommandLine.parse runnerOptions 0 ["--object", "legacy"] fun _ => none).isNone,
    (CommandLine.parse runnerOptions 0 ["--run-id", "--execute"] fun _ => none).isNone) =
      (some (some ["legacy"], some []), true, true) := by
  decide +kernel

end FrankaDeploy.Deployment
