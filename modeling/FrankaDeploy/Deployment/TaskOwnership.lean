import FrankaDeploy.Deployment.TaskLauncher
import FrankaDeploy.Deployment.RunnerArguments

/-! # Task-owned settings

The launcher looks for the exact names of the settings that a task owns; the runner's parser also
takes abbreviations of them, and takes the last one. The settings stay the task's exactly where the
forwarded abbreviations leave them so. -/

namespace FrankaDeploy.Deployment

open FrankaDeploy.Foundation FrankaDeploy.Foundation.CommandLine

/-! ## Exact names -/

def Dest.ownedName : Dest → Option String
  | .pcdConfig => some "--pcd-config"
  | .policyRgbdResolution => some "--policy-rgbd-resolution"
  | .objectMaskMode => some "--object-mask-mode"
  | .policyRateHz => some "--policy-rate-hz"
  | .execute => some "--execute"
  | .steps => some "--steps"
  | _ => none

theorem ownedName_of_mem {option : OptionAction Dest} {name : String}
    (hmem : option ∈ runnerOptions) (hname : option.dest.ownedName = some name) :
    option.name = name ∧ option.nargs = if option.dest = .execute then 0 else 1 := by
  have hall : runnerOptions.all fun option =>
      option.dest.ownedName.all fun name =>
        option.name = name && option.nargs = if option.dest = .execute then 0 else 1 := by
    decide +kernel
  have := List.all_eq_true.mp hall option hmem
  rw [hname] at this
  simpa using this

theorem eq_notMem_ownedName {dest : Dest} {name : String} (hname : dest.ownedName = some name) :
    '=' ∉ name.toList := by
  cases dest <;> cases hname <;> decide

/-- **What the launcher's scan does not find** has no exact occurrence. -/
theorem not_exact_of_not_present {dest : Dest} {name : String} {forwarded : List String}
    (hname : dest.ownedName = some name) (habsent : optionPresent forwarded name = false) :
    ∀ o ∈ occurrences runnerOptions dest forwarded, o.exact = false := by
  intro o ho
  obtain ⟨arg, harg, action, explicit, htoken, rfl⟩ := of_mem_occurrences ho
  obtain ⟨hmem, hspells⟩ := token_eq_option htoken
  cases hexact : o.exact with
  | false => rfl
  | true =>
    have hspells := hspells hexact
    rw [(ownedName_of_mem hmem hname).1] at hspells
    have hpresent : optionPresent forwarded name = true := by
      refine List.any_eq_true.mpr ⟨arg, harg, ?_⟩
      cases explicit with
      | none => rw [show arg = name from hspells, decide_eq_true rfl, Bool.true_or]
      | some value =>
        have : pyStartsWith arg (name ++ "=") = true :=
          (pyStartsWith_append_iff (eq_notMem_ownedName hname)).mpr ⟨value, hspells⟩
        rw [this, Bool.or_true]
    rw [habsent] at hpresent
    cases hpresent

/-! ## The scan of the steps -/

theorem eq_notMem_steps : '=' ∉ "--steps".toList := by decide

theorem token_steps {arg : String} {explicit : Option String}
    (h : Spells arg "--steps" explicit) :
    token runnerOptions arg = .option (valueOption "--steps" .steps) true explicit := by
  have hnames : ∀ option ∈ runnerOptions, '=' ∉ option.name.toList := by
    have hall : runnerOptions.all fun option => '=' ∉ option.name.toList := by decide +kernel
    intro option hmem
    simpa using List.all_eq_true.mp hall option hmem
  have hname : "--steps".toList = '-' :: "-steps".toList := by decide
  exact token_of_spells hnames hname (by decide) (by decide) rfl h

/-- **The scan of a string** that does not spell the option goes on after it. -/
theorem optionValues_cons_of_not_spells {arg : String} {rest : List String}
    (h : ¬ ∃ explicit, Spells arg "--steps" explicit) :
    optionValues "--steps" (arg :: rest) = optionValues "--steps" rest := by
  have hname : arg ≠ "--steps" := fun hname => h ⟨none, hname⟩
  have hstart : ¬ pyStartsWith arg ("--steps" ++ "=") = true := by
    intro hstart
    obtain ⟨value, hsplit⟩ :=
      (pyStartsWith_append_iff eq_notMem_steps).mp hstart
    exact h ⟨some value, hsplit⟩
  rw [optionValues.eq_def]
  simp only [if_neg hname, if_neg hstart]

theorem optionValues_cons_argument {arg : String} {rest : List String}
    (harg : isArgument runnerOptions arg = true) :
    optionValues "--steps" (arg :: rest) = optionValues "--steps" rest := by
  apply optionValues_cons_of_not_spells
  rintro ⟨explicit, hspells⟩
  rw [isArgument, token_steps hspells] at harg
  cases harg

def exactValues (dest : Dest) (l : List String) : List String :=
  ((occurrences runnerOptions dest l).filter (·.exact)).flatMap (·.args)

/-- **The scan finds the exact occurrences** of the option, in a list that the parser accepts. -/
theorem optionValues_eq {l : List String} {skip : ℕ} {given given' : Given Dest}
    (hskip : ∀ arg ∈ l.take skip, isArgument runnerOptions arg = true)
    (hparse : parse runnerOptions skip l given = some given') :
    optionValues "--steps" l = .ok (exactValues .steps l) := by
  induction l generalizing skip given with
  | nil => rfl
  | cons arg rest ih =>
    cases skip with
    | succ skip =>
      have harg : isArgument runnerOptions arg = true := hskip arg (by simp)
      rw [parse] at hparse
      rw [optionValues_cons_argument harg, exactValues, occurrences_cons_argument _ harg]
      exact ih (fun arg harg => hskip arg (by simp [harg])) hparse
    | zero =>
      obtain ⟨action, exact, explicit, args, taken, htoken, hargs, -, hrest⟩ :=
        parse_cons hparse
      obtain ⟨hread, hlength, htaken, hskip⟩ := argumentsOf_eq_some hargs
      have ih := ih hskip hrest
      by_cases hspells : ∃ explicit, Spells arg "--steps" explicit
      · obtain ⟨explicit', hspells⟩ := hspells
        have hsteps := token_steps hspells
        rw [htoken] at hsteps
        obtain ⟨rfl, rfl, rfl⟩ := Token.option.inj hsteps
        have hoccurs : exactValues .steps (arg :: rest) = args ++ exactValues .steps rest := by
          rw [exactValues, occurrences, htoken]
          simp only [valueOption, if_true, List.filter_cons_of_pos, List.flatMap_cons]
          rw [hread]
          rfl
        rw [hoccurs]
        cases explicit with
        | none =>
          -- the option reads the next string, which the scan skips with it
          obtain rfl : arg = "--steps" := hspells
          cases rest with
          | nil => cases hread ▸ hlength
          | cons next rest =>
            obtain rfl : args = [next] := hread
            obtain rfl : taken = 1 := htaken rfl
            rw [optionValues_cons_argument (hskip next (by simp))] at ih
            rw [optionValues.eq_def]
            simp only [if_true, ih]
            rfl
        | some value =>
          have hsplit : partitionAt '=' arg = some ("--steps", value) := hspells
          obtain rfl : args = [value] := hread
          have hname : arg ≠ "--steps" := by
            rintro rfl
            cases hsplit
          have hstart : pyStartsWith arg ("--steps" ++ "=") = true :=
            (pyStartsWith_append_iff eq_notMem_steps).mpr ⟨value, hsplit⟩
          rw [optionValues.eq_def]
          simp only [if_neg hname, if_pos hstart, hsplit, ih]
          rfl
      · rw [optionValues_cons_of_not_spells hspells, ih, exactValues, exactValues, occurrences,
          htoken]
        by_cases hdest : action.dest = .steps
        · -- an option for the steps that does not spell them abbreviates them
          obtain ⟨hmem, hexact⟩ := token_eq_option htoken
          have howned : action.dest.ownedName = some "--steps" := by
            rw [hdest]
            rfl
          have hname := (ownedName_of_mem hmem howned).1
          cases exact with
          | true => exact absurd ⟨explicit, hname ▸ hexact rfl⟩ hspells
          | false =>
            simp only [if_pos hdest]
            rfl
        · simp only [if_neg hdest]

/-! ## What the launcher guarantees -/

/-- **An accepted deployment**: what the launcher has checked of the forwarded arguments, and what
it puts before them. -/
structure Accepted (files : TaskFiles) (task : String) (forwarded : List String)
    (command : List String) (configPath : String) (metadata : TaskMapping) : Prop where
  protectedAbsent : ∀ option ∈ protectedOptions, optionPresent forwarded option = false
  rateAbsent : isThrownTask task = true → optionPresent forwarded "--policy-rate-hz" = false
  latched : optionPresent forwarded "--execute" = true →
    files.taskAllowsRobotExecution task metadata = true
  stepsChecked : isThrownTask task = true → optionPresent forwarded "--execute" = true →
    checkSteps task metadata forwarded = .ok ()
  arguments : ∃ arguments, command.drop 3 = runnerArguments configPath arguments ∧
    ((isThrownTask task = true ∧ ∃ rate, policyRateText metadata = .ok rate ∧
        arguments = "--policy-rate-hz" :: rate :: forwarded) ∨
      (isThrownTask task = false ∧ arguments = forwarded))

theorem of_checkForwarded {task mode : String} {forwarded : List String}
    (h : checkForwarded task mode forwarded = .ok ()) :
    (∀ option ∈ protectedOptions, optionPresent forwarded option = false) ∧
      (isThrownTask task = true → optionPresent forwarded "--policy-rate-hz" = false) := by
  unfold checkForwarded at h
  obtain ⟨-, h⟩ := ok_of_guard h
  obtain ⟨-, h⟩ := ok_of_guard h
  cases hfind : protectedOptions.find? (optionPresent forwarded) with
  | some option =>
    rw [hfind] at h
    cases h
  | none =>
    rw [hfind] at h
    dsimp only at h
    constructor
    · intro option hmem
      exact Bool.eq_false_iff.mpr (List.find?_eq_none.mp hfind option hmem)
    · intro hthrown
      by_contra hrate
      rw [if_pos ⟨hthrown, Bool.not_eq_false _ ▸ hrate⟩] at h
      cases h

theorem of_checkExecution {files : TaskFiles} {task : String} {metadata : TaskMapping}
    {forwarded : List String}
    (h : files.checkExecution task "deploy" metadata forwarded = .ok ()) :
    optionPresent forwarded "--execute" = true →
      files.taskAllowsRobotExecution task metadata = true ∧
        (isThrownTask task = true → checkSteps task metadata forwarded = .ok ()) := by
  intro hexecute
  obtain ⟨hlatch, h⟩ := ok_of_guard h
  constructor
  · by_contra hlocked
    exact hlatch ⟨rfl, hexecute, Bool.not_eq_true _ ▸ hlocked⟩
  · intro hthrown
    rw [if_pos ⟨hthrown, rfl, hexecute⟩] at h
    obtain ⟨⟨⟩, hsteps, -⟩ := except_bind_eq_ok.mp h
    exact hsteps

/-- **What the launcher guarantees** of what it accepts. -/
theorem accepted_of_buildTaskCommand {files : TaskFiles} {task : String}
    {forwarded command : List String} {configPath : String} {metadata : TaskMapping}
    (h : files.buildTaskCommand task "deploy" forwarded = .ok (command, configPath, metadata)) :
    Accepted files task forwarded command configPath metadata := by
  obtain ⟨⟨⟩, hforwarded, h⟩ := except_bind_eq_ok.mp h
  obtain ⟨⟨configPath', metadata'⟩, -, h⟩ := except_bind_eq_ok.mp h
  simp only [show ¬ ("deploy" = "config") by decide, if_false] at h
  obtain ⟨⟨⟩, hexecution, h⟩ := except_bind_eq_ok.mp h
  obtain ⟨arguments, htarget, h⟩ := except_bind_eq_ok.mp h
  obtain ⟨arguments', hrate, h⟩ := except_bind_eq_ok.mp h
  obtain ⟨rfl, rfl, rfl⟩ := Except.ok.inj h
  obtain rfl : forwarded = arguments := Except.ok.inj htarget
  obtain ⟨hprotected, hrateAbsent⟩ := of_checkForwarded hforwarded
  have hexecute := of_checkExecution hexecution
  refine ⟨hprotected, hrateAbsent, fun hx => (hexecute hx).1, fun ht hx => (hexecute hx).2 ht,
    arguments', rfl, ?_⟩
  unfold withPolicyRate at hrate
  by_cases hthrown : isThrownTask task = true
  · rw [if_pos ⟨hthrown, rfl⟩] at hrate
    obtain ⟨rate, htext, hrate⟩ := except_bind_eq_ok.mp hrate
    exact .inl ⟨hthrown, rate, htext, (Except.ok.inj hrate).symm⟩
  · rw [if_neg fun h => hthrown h.1] at hrate
    exact .inr ⟨Bool.not_eq_true _ ▸ hthrown, (Except.ok.inj hrate).symm⟩

/-! ## What the forwarded arguments give -/

def lastAbbreviated (forwarded : List String) (dest : Dest) : Option String :=
  match (occurrences runnerOptions dest forwarded).getLast? with
  | some ⟨false, args⟩ => args.head?
  | _ => none

def abbreviates (forwarded : List String) (dest : Dest) : Bool :=
  (occurrences runnerOptions dest forwarded).any fun o => !o.exact

def occurs (forwarded : List String) (dest : Dest) : Bool :=
  !(occurrences runnerOptions dest forwarded).isEmpty

def lastValue (forwarded : List String) (dest : Dest) (default : String) : String :=
  (oneOf ((occurrences runnerOptions dest forwarded).getLast?.map (·.args))).getD default

def pinned (configPath : String) : Given Dest :=
  Given.set (Given.set (Given.set (fun _ => none) .pcdConfig [configPath]) .policyRgbdResolution
    ["424x240"]) .objectMaskMode ["guarded_v2"]

theorem parse_value {name value : String} {rest : List String} {action : OptionAction Dest}
    {exact : Bool} {given given' : Given Dest}
    (htoken : token runnerOptions name = .option action exact none) (hone : action.nargs = 1)
    (h : parse runnerOptions 0 (name :: value :: rest) given = some given') :
    parse runnerOptions 0 rest (Given.set given action.dest [value]) = some given' := by
  obtain ⟨action', exact', explicit, args, taken, htoken', hargs, -, hrest⟩ := parse_cons h
  rw [htoken] at htoken'
  obtain ⟨rfl, rfl, rfl⟩ := Token.option.inj htoken'
  obtain ⟨hread, -, htaken, -⟩ := argumentsOf_eq_some hargs
  obtain rfl : taken = 1 := (htaken rfl).trans hone
  obtain rfl : args = [value] := by
    rw [hread, reads, hone]
    rfl
  exact hrest

/-- **The launcher's own settings** are read before the forwarded arguments. -/
theorem parse_runnerArguments {configPath : String} {arguments : List String}
    {given' : Given Dest}
    (h : parse runnerOptions 0 (runnerArguments configPath arguments) (fun _ => none) =
      some given') :
    parse runnerOptions 0 arguments (pinned configPath) = some given' := by
  have hpcd : token runnerOptions "--pcd-config" =
      .option (valueOption "--pcd-config" .pcdConfig) true none := rfl
  have hresolution : token runnerOptions "--policy-rgbd-resolution" =
      .option (choiceOption "--policy-rgbd-resolution" .policyRgbdResolution
        ["848x480", "424x240"]) true none := rfl
  have hmode : token runnerOptions "--object-mask-mode" =
      .option (choiceOption "--object-mask-mode" .objectMaskMode
        ["guarded", "guarded_v2", "guarded_v1", "legacy"]) true none := rfl
  have h := parse_value hpcd rfl h
  have h := parse_value hresolution rfl h
  exact parse_value hmode rfl h

theorem args_of_parse {dest : Dest} {name : String} {l : List String} {given given' : Given Dest}
    (hname : dest.ownedName = some name) (hvalue : dest ≠ .execute)
    (h : parse runnerOptions 0 l given = some given') :
    ∀ o ∈ occurrences runnerOptions dest l, ∃ value, o.args = [value] := by
  intro o ho
  obtain ⟨action, hmem, rfl, hlength⟩ :=
    length_args_of_parse dest (fun _ harg => absurd harg List.not_mem_nil) h o ho
  rw [(ownedName_of_mem hmem hname).2, if_neg hvalue] at hlength
  exact List.length_eq_one_iff.mp hlength

/-- **An owned setting** has the value of its last abbreviation, or the launcher's own. -/
theorem oneOf_owned {dest : Dest} {name own : String} {forwarded : List String}
    {given given' : Given Dest} (hname : dest.ownedName = some name) (hvalue : dest ≠ .execute)
    (habsent : optionPresent forwarded name = false) (hown : given dest = some [own])
    (h : parse runnerOptions 0 forwarded given = some given') :
    oneOf (given' dest) = some ((lastAbbreviated forwarded dest).getD own) := by
  have hlast := parse_eq_some dest (fun _ harg => absurd harg List.not_mem_nil) h
  rw [hown] at hlast
  rw [hlast, lastAbbreviated]
  cases ho : (occurrences runnerOptions dest forwarded).getLast? with
  | none => rfl
  | some o =>
    have hmem := List.mem_of_getLast? ho
    obtain ⟨value, hvalue⟩ := args_of_parse hname hvalue h o hmem
    have hexact := not_exact_of_not_present hname habsent o hmem
    obtain ⟨exact, args⟩ := o
    obtain rfl : exact = false := hexact
    obtain rfl : args = [value] := hvalue
    rfl

/-! ## The law -/

def StepsWithinCap (task : String) (metadata : TaskMapping) (steps : String) : Prop :=
  ∃ cap n, supervisedStepCap task metadata = .ok cap ∧ pyInt steps = some n ∧ 1 ≤ n ∧ n ≤ cap

/-- **The task-owned settings of a namespace**: those that the launcher put in the command, the
latch of an execution and the step cap of a thrown task. -/
structure TaskOwned (files : TaskFiles) (task configPath : String) (metadata : TaskMapping)
    (ns : Namespace) : Prop where
  pcdConfig : ns.pcdConfig = pyPath configPath
  policyRgbdResolution : ns.policyRgbdResolution = "424x240"
  objectMaskMode : ns.objectMaskMode = "guarded_v2"
  policyRateHz : isThrownTask task = true → policyRateText metadata = .ok ns.policyRateHz
  execute : ns.execute = true → files.taskAllowsRobotExecution task metadata = true
  steps : isThrownTask task = true → ns.execute = true → StepsWithinCap task metadata ns.steps

/-- **The forwarded abbreviations are harmless**: those of a task-owned option repeat its value, one
of the execution is allowed, and steps that the launcher has not checked lie within the cap. -/
structure AbbreviationsHarmless (files : TaskFiles) (task configPath : String)
    (metadata : TaskMapping) (forwarded : List String) : Prop where
  pcdConfig : ∀ v, lastAbbreviated forwarded .pcdConfig = some v → pyPath v = pyPath configPath
  policyRgbdResolution : ∀ v, lastAbbreviated forwarded .policyRgbdResolution = some v →
    v = "424x240"
  objectMaskMode : ∀ v, lastAbbreviated forwarded .objectMaskMode = some v → v = "guarded_v2"
  policyRateHz : isThrownTask task = true → ∀ v, lastAbbreviated forwarded .policyRateHz = some v →
    policyRateText metadata = .ok v
  execute : abbreviates forwarded .execute = true →
    files.taskAllowsRobotExecution task metadata = true
  steps : isThrownTask task = true → occurs forwarded .execute = true →
    (optionPresent forwarded "--execute" = false ∨
      (lastAbbreviated forwarded .steps).isSome = true) →
    StepsWithinCap task metadata (lastValue forwarded .steps "1")

theorem getD_iff {α : Type} {P : α → Prop} {x : Option α} {own : α} (hown : P own) :
    P (x.getD own) ↔ ∀ v, x = some v → P v := by
  cases x with
  | none => simp [hown]
  | some v => simp

/-- **Steps that the launcher has checked** are the last ones, where those are not abbreviated. -/
theorem stepsWithinCap_of_checkSteps {task : String} {metadata : TaskMapping}
    {forwarded : List String} {given given' : Given Dest}
    (hchecked : checkSteps task metadata forwarded = .ok ())
    (hparse : parse runnerOptions 0 forwarded given = some given')
    (hexact : (lastAbbreviated forwarded .steps).isSome = false) :
    StepsWithinCap task metadata (lastValue forwarded .steps "1") := by
  obtain ⟨cap, hcap, hchecked⟩ := except_bind_eq_ok.mp hchecked
  obtain ⟨requested, hsingle, hchecked⟩ := except_bind_eq_ok.mp hchecked
  rw [singleOptionValue, optionValues_eq (fun _ harg => absurd harg List.not_mem_nil) hparse,
    except_ok_bind] at hsingle
  cases requested with
  | none => cases hchecked
  | some requested =>
    have hvalues : exactValues .steps forwarded = [requested] := by
      split at hsingle
      · cases hsingle
      next value hvalues =>
        rw [hvalues, Option.some.inj (Except.ok.inj hsingle)]
      · cases hsingle
    have hlast : lastValue forwarded .steps "1" = requested := by
      unfold lastValue
      cases ho : (occurrences runnerOptions .steps forwarded).getLast? with
      | none =>
        rw [exactValues, List.getLast?_eq_none_iff.mp ho] at hvalues
        cases hvalues
      | some o =>
        have hmem := List.mem_of_getLast? ho
        have hsteps : Dest.steps.ownedName = some "--steps" := rfl
        obtain ⟨value, hvalue⟩ := args_of_parse hsteps (by decide) hparse o hmem
        obtain ⟨exact, args⟩ := o
        obtain rfl : args = [value] := hvalue
        cases exact with
        | false =>
          rw [lastAbbreviated, ho] at hexact
          cases hexact
        | true =>
          have hin : value ∈ exactValues .steps forwarded :=
            List.mem_flatMap.mpr ⟨_, List.mem_filter.mpr ⟨hmem, rfl⟩, List.mem_singleton_self _⟩
          rw [hvalues, List.mem_singleton] at hin
          exact hin
    rw [hlast]
    dsimp only at hchecked
    cases hsteps : pyInt requested with
    | none =>
      rw [hsteps] at hchecked
      cases hchecked
    | some n =>
      rw [hsteps] at hchecked
      dsimp only at hchecked
      split at hchecked
      next hwithin => exact ⟨cap, n, hcap, hsteps, hwithin⟩
      · cases hchecked

/-- **A parsed command**: the forwarded arguments are parsed from the launcher's own settings. -/
structure ParsedFrom (defaults : RunnerDefaults) (task configPath : String)
    (metadata : TaskMapping) (forwarded : List String) (ns : Namespace) (own given : Given Dest) :
    Prop where
  parsed : parse runnerOptions 0 forwarded own = some given
  isNamespace : ns = namespaceOf defaults given
  pcdConfig : own .pcdConfig = some [configPath]
  policyRgbdResolution : own .policyRgbdResolution = some ["424x240"]
  objectMaskMode : own .objectMaskMode = some ["guarded_v2"]
  execute : own .execute = none
  steps : own .steps = none
  policyRateHz : isThrownTask task = true →
    ∃ rate, policyRateText metadata = .ok rate ∧ own .policyRateHz = some [rate]

theorem parsedFrom_of_accepted {files : TaskFiles} {defaults : RunnerDefaults} {task : String}
    {forwarded command : List String} {configPath : String} {metadata : TaskMapping}
    {ns : Namespace} (haccepted : Accepted files task forwarded command configPath metadata)
    (hparsed : parseArgs defaults (command.drop 3) = some ns) :
    ∃ own given, ParsedFrom defaults task configPath metadata forwarded ns own given := by
  obtain ⟨arguments, hcommand, harguments⟩ := haccepted.arguments
  rw [hcommand, parseArgs] at hparsed
  obtain ⟨given, hgiven, hns⟩ := Option.map_eq_some_iff.mp hparsed
  have hparse := parse_runnerArguments hgiven
  rcases harguments with ⟨-, rate, hrate, rfl⟩ | ⟨hthrown, rfl⟩
  · have htoken : token runnerOptions "--policy-rate-hz" =
        .option (valueOption "--policy-rate-hz" .policyRateHz) true none := rfl
    exact ⟨_, given, parse_value htoken rfl hparse, hns.symm, rfl, rfl, rfl, rfl, rfl,
      fun _ => ⟨rate, hrate, rfl⟩⟩
  · refine ⟨_, given, hparse, hns.symm, rfl, rfl, rfl, rfl, rfl, fun h => ?_⟩
    rw [hthrown] at h
    cases h

/-- **The execution of a namespace** is that of the forwarded arguments. -/
theorem ParsedFrom.execute_eq {defaults : RunnerDefaults} {task configPath : String}
    {metadata : TaskMapping} {forwarded : List String} {ns : Namespace} {own given : Given Dest}
    (h : ParsedFrom defaults task configPath metadata forwarded ns own given) :
    ns.execute = occurs forwarded .execute := by
  rw [h.isNamespace, namespaceOf, occurs,
    parse_eq_some .execute (fun _ harg => absurd harg List.not_mem_nil) h.parsed, h.execute]
  cases occurrences runnerOptions .execute forwarded with
  | nil => rfl
  | cons o rest => simp [List.getLast?_cons]

theorem ParsedFrom.steps_eq {defaults : RunnerDefaults} {task configPath : String}
    {metadata : TaskMapping} {forwarded : List String} {ns : Namespace} {own given : Given Dest}
    (h : ParsedFrom defaults task configPath metadata forwarded ns own given) :
    ns.steps = lastValue forwarded .steps "1" := by
  rw [h.isNamespace, namespaceOf, lastValue,
    parse_eq_some .steps (fun _ harg => absurd harg List.not_mem_nil) h.parsed, h.steps,
    Option.or_none]

/-- **The settings stay the task's exactly where the forwarded abbreviations are harmless.** For
every task, every forwarded list that the launcher accepts for a deployment and every namespace that
the runner's parser makes of the command. -/
theorem task_settings_owned_iff (files : TaskFiles) (defaults : RunnerDefaults) (task : String)
    (forwarded command : List String) (configPath : String) (metadata : TaskMapping) (ns : Namespace)
    (haccepted :
      files.buildTaskCommand task "deploy" forwarded = .ok (command, configPath, metadata))
    (hparsed : parseArgs defaults (command.drop 3) = some ns) :
    TaskOwned files task configPath metadata ns ↔
      AbbreviationsHarmless files task configPath metadata forwarded := by
  have hlauncher := accepted_of_buildTaskCommand haccepted
  obtain ⟨own, given, h⟩ := parsedFrom_of_accepted hlauncher hparsed
  have hpcd : ns.pcdConfig = pyPath ((lastAbbreviated forwarded .pcdConfig).getD configPath) := by
    have hname : Dest.pcdConfig.ownedName = some "--pcd-config" := rfl
    have hone := oneOf_owned hname (by decide)
      (hlauncher.protectedAbsent _ (by decide)) h.pcdConfig h.parsed
    rw [h.isNamespace, namespaceOf, hone]
    rfl
  have hresolution : ns.policyRgbdResolution =
      (lastAbbreviated forwarded .policyRgbdResolution).getD "424x240" := by
    have hname : Dest.policyRgbdResolution.ownedName = some "--policy-rgbd-resolution" := rfl
    have hone := oneOf_owned hname (by decide)
      (hlauncher.protectedAbsent _ (by decide)) h.policyRgbdResolution h.parsed
    rw [h.isNamespace, namespaceOf, hone]
    rfl
  have hmode : ns.objectMaskMode =
      (lastAbbreviated forwarded .objectMaskMode).getD "guarded_v2" := by
    have hname : Dest.objectMaskMode.ownedName = some "--object-mask-mode" := rfl
    have hone := oneOf_owned hname (by decide)
      (hlauncher.protectedAbsent _ (by decide)) h.objectMaskMode h.parsed
    rw [h.isNamespace, namespaceOf, hone]
    rfl
  have hrate : isThrownTask task = true → (policyRateText metadata = .ok ns.policyRateHz ↔
      ∀ v, lastAbbreviated forwarded .policyRateHz = some v → policyRateText metadata = .ok v) := by
    intro hthrown
    obtain ⟨rate, htext, hown⟩ := h.policyRateHz hthrown
    have hname : Dest.policyRateHz.ownedName = some "--policy-rate-hz" := rfl
    have hone := oneOf_owned hname (by decide)
      (hlauncher.rateAbsent hthrown) hown h.parsed
    rw [h.isNamespace, namespaceOf, hone]
    exact getD_iff (P := fun v => policyRateText metadata = .ok v) htext
  constructor
  · intro howned
    refine ⟨?_, ?_, ?_, ?_, ?_, ?_⟩
    · exact (getD_iff (P := fun v => pyPath v = pyPath configPath) rfl).mp
        (hpcd ▸ howned.pcdConfig)
    · exact (getD_iff (P := (· = "424x240")) rfl).mp (hresolution ▸ howned.policyRgbdResolution)
    · exact (getD_iff (P := (· = "guarded_v2")) rfl).mp (hmode ▸ howned.objectMaskMode)
    · exact fun hthrown => (hrate hthrown).mp (howned.policyRateHz hthrown)
    · intro habbreviates
      refine howned.execute ?_
      obtain ⟨o, ho, -⟩ := List.any_eq_true.mp habbreviates
      rw [h.execute_eq, occurs, List.isEmpty_eq_false_iff.mpr (List.ne_nil_of_mem ho)]
      rfl
    · intro hthrown hoccurs _
      rw [← h.steps_eq]
      exact howned.steps hthrown (h.execute_eq.trans hoccurs)
  · intro hharmless
    refine ⟨?_, ?_, ?_, ?_, ?_, ?_⟩
    · rw [hpcd]
      exact (getD_iff (P := fun v => pyPath v = pyPath configPath) rfl).mpr hharmless.pcdConfig
    · rw [hresolution]
      exact (getD_iff (P := (· = "424x240")) rfl).mpr hharmless.policyRgbdResolution
    · rw [hmode]
      exact (getD_iff (P := (· = "guarded_v2")) rfl).mpr hharmless.objectMaskMode
    · exact fun hthrown => (hrate hthrown).mpr (hharmless.policyRateHz hthrown)
    · intro hexecute
      rw [h.execute_eq, occurs, Bool.not_eq_true', List.isEmpty_eq_false_iff] at hexecute
      by_cases hpresent : optionPresent forwarded "--execute" = true
      · exact hlauncher.latched hpresent
      · -- no exact occurrence, so the execution is abbreviated
        have hname : Dest.execute.ownedName = some "--execute" := rfl
        have hexact := not_exact_of_not_present hname (Bool.not_eq_true _ ▸ hpresent)
        obtain ⟨o, ho⟩ := List.exists_mem_of_ne_nil _ hexecute
        refine hharmless.execute (List.any_eq_true.mpr ⟨o, ho, ?_⟩)
        rw [hexact o ho]
        rfl
    · intro hthrown hexecute
      rw [h.steps_eq]
      rw [h.execute_eq] at hexecute
      cases hpresent : optionPresent forwarded "--execute" with
      | false => exact hharmless.steps hthrown hexecute (.inl hpresent)
      | true =>
        cases habbreviated : (lastAbbreviated forwarded .steps).isSome with
        | true => exact hharmless.steps hthrown hexecute (.inr habbreviated)
        | false =>
          exact stepsWithinCap_of_checkSteps (hlauncher.stepsChecked hthrown hpresent) h.parsed
            habbreviated

/-! ## A task on the bench -/

def benchMetadata : TaskMapping :=
  [("robot_execution_enabled", .bool true),
    ("commissioning_status", .str "supervised_40_tick_authorized"),
    ("maximum_supervised_execute_steps", .int 40),
    ("supervised_execution_limits", .map
      [("maximum_commanded_policy_ticks", .int 40),
        ("require_current_policy_points_inside_processing_depth", .bool true),
        ("robot_hardware_writes", .bool true)]),
    ("simulation_task_contract_control_hz", .float (FloatArith.ofRat 20))]

def benchFiles : TaskFiles where
  text _ := ""
  materializeTaskConfig _ := .ok ("/runs/task_configs/v61.yaml", benchMetadata)
  executable := "/usr/bin/python3"

def benchDefaults : RunnerDefaults where
  policyRateHz := "60"
  bundle := ⟨"/", ["bundle.zip"]⟩
  profile := ⟨"/", ["profile.json"]⟩
  pcdConfig := ⟨"/", ["d435_default.yaml"]⟩
  arrivalToleranceRad := "0.005"
  arrivalTimeoutS := "0.35"
  liveVisualizationRateHz := "10.0"

def runnerArgv (built : Except PyException (List String × String × TaskMapping)) :
    Option (List String) :=
  match built with
  | .ok (command, _, _) => some (command.drop 3)
  | .error _ => none

theorem ok_of_runnerArgv {built : Except PyException (List String × String × TaskMapping)}
    {argv : List String} (h : runnerArgv built = some argv) :
    ∃ command configPath metadata, built = .ok (command, configPath, metadata) ∧
      command.drop 3 = argv := by
  cases built with
  | error e => cases h
  | ok built => exact ⟨built.1, built.2.1, built.2.2, rfl, Option.some.inj h⟩

/-- The forwarded arguments of a run that abbreviates the mask mode, the execution and the steps. -/
def abbreviatedArguments : List String :=
  ["--checkpoint", "v61.pt", "--profile", "v61.json", "--object-m", "legacy", "--exec", "--step",
    "720"]

/-- **Abbreviations override the task.** The launcher accepts the arguments; its runner executes 720
steps of a task that is capped at 40, with the legacy mask mode. -/
theorem abbreviations_override_the_task :
    ∃ command configPath metadata ns,
      benchFiles.buildTaskCommand "thrown_object_v61" "deploy" abbreviatedArguments =
        .ok (command, configPath, metadata) ∧
      parseArgs benchDefaults (command.drop 3) = some ns ∧
      ns.execute = true ∧ ns.steps = "720" ∧
      ¬ TaskOwned benchFiles "thrown_object_v61" configPath metadata ns := by
  obtain ⟨command, configPath, metadata, hbuilt, hargv⟩ := ok_of_runnerArgv
    (show runnerArgv (benchFiles.buildTaskCommand "thrown_object_v61" "deploy"
        abbreviatedArguments) = some (runnerArguments "/runs/task_configs/v61.yaml"
          ("--policy-rate-hz" :: "20" :: abbreviatedArguments)) by decide +kernel)
  obtain ⟨ns, hns⟩ := Option.isSome_iff_exists.mp
    (show (parseArgs benchDefaults (runnerArguments "/runs/task_configs/v61.yaml"
      ("--policy-rate-hz" :: "20" :: abbreviatedArguments))).isSome = true by decide +kernel)
  have hfields : (parseArgs benchDefaults (runnerArguments "/runs/task_configs/v61.yaml"
      ("--policy-rate-hz" :: "20" :: abbreviatedArguments))).map
        (fun ns => (ns.execute, ns.steps, ns.objectMaskMode)) = some (true, "720", "legacy") := by
    decide +kernel
  rw [hns] at hfields
  obtain ⟨hexecute, hsteps, hmode⟩ : ns.execute = true ∧ ns.steps = "720" ∧
      ns.objectMaskMode = "legacy" := by
    simpa using hfields
  refine ⟨command, configPath, metadata, ns, hbuilt, by rw [hargv, hns], hexecute, hsteps, ?_⟩
  intro howned
  rw [howned.objectMaskMode] at hmode
  exact absurd hmode (by decide)

def supervisedArguments : List String :=
  ["--checkpoint", "v61.pt", "--profile", "v61.json", "--execute", "--steps", "40", "--run-id",
    "r1", "--yes"]

theorem supervised_settings_are_owned :
    ∃ command configPath metadata ns,
      benchFiles.buildTaskCommand "thrown_object_v61" "deploy" supervisedArguments =
        .ok (command, configPath, metadata) ∧
      parseArgs benchDefaults (command.drop 3) = some ns ∧
      TaskOwned benchFiles "thrown_object_v61" configPath metadata ns := by
  obtain ⟨command, configPath, metadata, hbuilt, hargv⟩ := ok_of_runnerArgv
    (show runnerArgv (benchFiles.buildTaskCommand "thrown_object_v61" "deploy"
        supervisedArguments) = some (runnerArguments "/runs/task_configs/v61.yaml"
          ("--policy-rate-hz" :: "20" :: supervisedArguments)) by decide +kernel)
  obtain ⟨ns, hns⟩ := Option.isSome_iff_exists.mp
    (show (parseArgs benchDefaults (runnerArguments "/runs/task_configs/v61.yaml"
      ("--policy-rate-hz" :: "20" :: supervisedArguments))).isSome = true by decide +kernel)
  have hparsed : parseArgs benchDefaults (command.drop 3) = some ns := by rw [hargv, hns]
  have hnone : ∀ dest ∈ [Dest.pcdConfig, .policyRgbdResolution, .objectMaskMode, .policyRateHz,
      .steps], lastAbbreviated supervisedArguments dest = none := by
    decide +kernel
  refine ⟨command, configPath, metadata, ns, hbuilt, hparsed,
    (task_settings_owned_iff benchFiles benchDefaults "thrown_object_v61" supervisedArguments command
      configPath metadata ns hbuilt hparsed).mpr ⟨?_, ?_, ?_, ?_, ?_, ?_⟩⟩
  · intro v hv
    rw [hnone _ (by decide)] at hv
    cases hv
  · intro v hv
    rw [hnone _ (by decide)] at hv
    cases hv
  · intro v hv
    rw [hnone _ (by decide)] at hv
    cases hv
  · intro _ v hv
    rw [hnone _ (by decide)] at hv
    cases hv
  · intro habbreviates
    have : abbreviates supervisedArguments .execute = false := by decide +kernel
    rw [this] at habbreviates
    cases habbreviates
  · intro _ _ hunchecked
    have hpresent : optionPresent supervisedArguments "--execute" = true := by decide +kernel
    rw [hpresent, hnone _ (by decide)] at hunchecked
    rcases hunchecked with h | h <;> cases h

end FrankaDeploy.Deployment
