import FrankaDeploy.Deployment.LeaseContract

/-! # What a run's claim ends with

The context of a lease: its holder marks phases, finalises the claim and leaves, while any operation
on files may fail. A claim that was finalised keeps its result to the end as long as no call follows
the successful `finalize`; `mark_phase` and `finalize` themselves do not look at `_finalized`. -/

namespace FrankaDeploy.Deployment

/-! ## The context of a lease -/

def Claim.Terminal (claim : Claim) : Prop :=
  claim.state = "PASS" ∨ claim.state = "FAILED" ∨ claim.state = "INTERRUPTED"

def World.leaseAt (w : World) (pid : Pid) (index : ℕ) : Option DeploymentLease :=
  (w.processes pid).bind fun p => p.leases[index]?

def World.recorded (w : World) (lease : DeploymentLease) : Option Claim :=
  (w.claims lease.runsDir lease.runId).bind ClaimFile.content

/-- **What a lease's holder does in its context**, besides files of its own. -/
def InContext (pid : Pid) (index : ℕ) : Action → Prop
  | .markPhase actor i _ | .finalize actor i _ _ | .exit actor i _ => actor = pid ∧ i = index
  | .openFile actor _ _ | .closeFile actor _ | .advance actor _ _ => actor = pid
  | .start | .fork _ | .crash _ | .acquire _ _ => False

/-- **No call after a successful `finalize`**, and one exit. -/
def Ordered (pid : Pid) (index : ℕ) (w : World) : Action → Prop
  | .markPhase _ _ _ | .finalize _ _ _ _ =>
    ∀ lease ∈ w.leaseAt pid index, lease.finalized = false
  | .exit _ _ _ => ∀ lease ∈ w.leaseAt pid index, lease.closed = false
  | _ => True

instance (pid : Pid) (index : ℕ) : ∀ action : Action, Decidable (InContext pid index action)
  | .markPhase actor i _ | .finalize actor i _ _ | .exit actor i _ =>
    inferInstanceAs (Decidable (actor = pid ∧ i = index))
  | .openFile actor _ _ | .closeFile actor _ | .advance actor _ _ =>
    inferInstanceAs (Decidable (actor = pid))
  | .start | .fork _ | .crash _ | .acquire _ _ => inferInstanceAs (Decidable False)

instance (pid : Pid) (index : ℕ) (w : World) :
    ∀ action : Action, Decidable (Ordered pid index w action)
  | .markPhase _ _ _ | .finalize _ _ _ _ =>
    inferInstanceAs (Decidable (∀ lease ∈ w.leaseAt pid index, lease.finalized = false))
  | .exit _ _ _ => inferInstanceAs (Decidable (∀ lease ∈ w.leaseAt pid index, lease.closed = false))
  | .start | .fork _ | .crash _ | .openFile _ _ _ | .closeFile _ _ | .acquire _ _
  | .advance _ _ _ => inferInstanceAs (Decidable True)

/-- **The course of a context.** -/
structure Course where
  last : Option Claim
  exited : Option Bool

def Course.start : Course := ⟨none, none⟩

def Course.after (pid : Pid) (w : World) (action : Action) (course : Course) : Course :=
  match action, (w.processes pid).map Process.task with
  | .exit _ _ exception, _ => { course with exited := some exception.isNone }
  | .advance _ (.ok ()) _, some (.replacing .sync _ claim purpose) =>
    if purpose = .phase then course else { course with last := some claim }
  | _, _ => course

def courseOf (limit : ℕ) (pid : Pid) : World → Course → List Action → Course
  | _, course, [] => course
  | w, course, action :: actions =>
    match step limit w action with
    | none => course
    | some w' => courseOf limit pid w' (course.after pid w action) actions

/-- A finalisation error was raised after the first `before` events. -/
def Announced (before : ℕ) (pid : Pid) (w : World) : Prop :=
  ∃ message, .raised pid ("could not finalize deployment claim: " ++ message) ∈ w.log.drop before

/-! ## The invariant -/

section

variable (before : ℕ) (pid : Pid) (index : ℕ) (course : Course) (w : World) (p : Process)
  (lease : DeploymentLease)

/-- How the context was left, once the lease is closed: a normal exit without a terminal claim has
raised. -/
def LeftSound : Prop :=
  (lease.closed = false → course.exited = none) ∧
    (lease.closed = true → ∃ normal, course.exited = some normal ∧
      (lease.finalized = false → normal = true → Announced before pid w))

/-- What `__exit__` still has to raise. -/
def ErrorSound (error : Option String) : Prop :=
  ∃ normal, course.exited = some normal ∧ (lease.finalized = false → normal = true →
    ∃ message, error = some ("could not finalize deployment claim: " ++ message))

/-- **What the task of the holder knows.** -/
def TaskSound : Task → Prop
  | .idle => LeftSound before pid course w lease
  | .replacing stage i claim purpose =>
    i = index ∧ lease.finalized = false ∧ (stage ≠ .check → lease.closed = false) ∧
      (stage = .sync → w.recorded lease = some claim) ∧ (purpose ≠ .phase → claim.Terminal) ∧
      match purpose with
      | .leaving normal => lease.closed = false ∧ course.exited = some normal
      | _ => LeftSound before pid course w lease
  | .leaving i error => i = index ∧ lease.closed = false ∧ ErrorSound course lease error
  | .unlocking fd error | .closing fd error =>
    lease.closed = true ∧ (∃ dir d, p.files fd = some (.lock dir d)) ∧
      ErrorSound course lease error
  | .forked | .opening _ | .acquiring _ _ _ _ | .failing _ _ _ _ _ => False

end

/-- **How a context was entered.** -/
structure Entry where
  events : ℕ
  runsDir : String
  runId : String

/-- **The invariant of a context.** -/
structure ContextSound (entry : Entry) (pid : Pid) (index : ℕ) (course : Course) (w : World)
    (p : Process) (lease : DeploymentLease) : Prop where
  process : w.processes pid = some p
  held : p.leases[index]? = some lease
  identity : lease.runsDir = entry.runsDir ∧ lease.runId = entry.runId
  final : lease.finalized = true →
    ∃ claim, course.last = some claim ∧ claim.Terminal ∧ w.recorded lease = some claim
  unfinished : lease.finalized = false → course.last = none
  file : lease.closed = false →
    ∃ fd dir d, lease.descriptor = some fd ∧ p.files fd = some (.lock dir d)
  log : entry.events ≤ w.log.length
  task : TaskSound entry.events pid index course w p lease p.task

variable {entry : Entry} {before limit : ℕ} {pid : Pid} {index : ℕ} {course course' : Course}
  {w w' : World} {p p' : Process} {lease : DeploymentLease} {error : Option String}

theorem Announced.later (h : Announced before pid w) (hbefore : before ≤ w.log.length)
    (hlog : w.log <+: w'.log) : Announced before pid w' := by
  obtain ⟨message, hmem⟩ := h
  obtain ⟨more, hmore⟩ := hlog
  refine ⟨message, ?_⟩
  rw [← hmore, List.drop_append_of_le_length hbefore]
  exact List.mem_append_left _ hmem

theorem LeftSound.later (h : LeftSound before pid course w lease) (hbefore : before ≤ w.log.length)
    (hlog : w.log <+: w'.log) : LeftSound before pid course w' lease := by
  refine ⟨h.1, fun hclosed => ?_⟩
  obtain ⟨normal, hexited, hannounced⟩ := h.2 hclosed
  exact ⟨normal, hexited, fun hopen hnormal => (hannounced hopen hnormal).later hbefore hlog⟩

/-- **A step that leaves the lease and its claim as they are.** -/
theorem ContextSound.move (h : ContextSound entry pid index course w p lease)
    (hprocess : w'.processes pid = some p') (hleases : p'.leases = p.leases)
    (hclaims : w'.claims = w.claims) (hlog : w.log <+: w'.log)
    (hlast : course'.last = course.last)
    (hfiles : lease.closed = false → ∀ fd dir d, p.files fd = some (.lock dir d) →
      p'.files fd = some (.lock dir d))
    (htask : TaskSound entry.events pid index course' w' p' lease p'.task) :
    ContextSound entry pid index course' w' p' lease := by
  have hrecorded : w'.recorded lease = w.recorded lease := by
    unfold World.recorded
    rw [hclaims]
  constructor
  case process => exact hprocess
  case held => rw [hleases, h.held]
  case identity => exact h.identity
  case final =>
    intro hfinalized
    rw [hlast, hrecorded]
    exact h.final hfinalized
  case unfinished =>
    intro hfinalized
    rw [hlast]
    exact h.unfinished hfinalized
  case file =>
    intro hclosed
    obtain ⟨fd, dir, d, hdescriptor, hfile⟩ := h.file hclosed
    exact ⟨fd, dir, d, hdescriptor, hfiles hclosed fd dir d hfile⟩
  case log => exact Nat.le_trans h.log hlog.length_le
  case task => exact htask

theorem ContextSound.setTask (h : ContextSound entry pid index course w p lease) {task : Task}
    (hlast : course'.last = course.last)
    (htask : TaskSound entry.events pid index course' (w.put pid { p with task := task })
      { p with task := task } lease task) :
    ContextSound entry pid index course' (w.put pid { p with task := task })
      { p with task := task } lease :=
  h.move (Function.update_self ..) rfl rfl (List.prefix_refl _) hlast (fun _ _ _ _ hfile => hfile)
    htask

theorem ContextSound.emitIdle (h : ContextSound entry pid index course w p lease)
    (hleft : LeftSound entry.events pid course w lease) (event : LeaseEvent) :
    ContextSound entry pid index course ((w.put pid { p with task := .idle }).emit event)
      { p with task := .idle } lease := by
  have hlog : w.log <+: ((w.put pid { p with task := .idle }).emit event).log :=
    List.prefix_append _ _
  exact h.move (Function.update_self ..) rfl rfl hlog rfl (fun _ _ _ _ hfile => hfile)
    (hleft.later h.log hlog)

/-! ## Replacing the claim -/

theorem sound_replaceRaised {stage : ReplaceStage} {i : ℕ} {claim : Claim} {purpose : Purpose}
    (h : ContextSound entry pid index course w p lease)
    (htask : TaskSound entry.events pid index course w p lease (.replacing stage i claim purpose))
    (message : String) :
    ∃ p', ContextSound entry pid index course (replaceRaised w pid p i purpose message) p'
      lease := by
  obtain ⟨rfl, hfinalized, -, -, -, hpurpose⟩ := htask
  cases purpose with
  | leaving normal =>
    obtain ⟨hclosed, hexited⟩ := hpurpose
    refine ⟨_, h.setTask rfl ⟨rfl, hclosed, normal, hexited, ?_⟩⟩
    intro _ hnormal
    exact ⟨message, if_pos hnormal⟩
  | phase => exact ⟨_, h.emitIdle hpurpose _⟩
  | terminal => exact ⟨_, h.emitIdle hpurpose _⟩

theorem recorded_setClaim (w : World) (lease : DeploymentLease) (file : ClaimFile) :
    (w.setClaim lease.runsDir lease.runId (some file)).recorded lease = file.content := by
  unfold World.recorded
  rw [World.setClaim_self]
  rfl

theorem after_advance (hp : w.processes pid = some p) {outcome : Outcome} {fd : ℕ}
    (h : ∀ i claim purpose, p.task = .replacing .sync i claim purpose → outcome = .ok () →
      purpose = .phase) :
    course.after pid w (.advance pid outcome fd) = course := by
  unfold Course.after
  rw [hp, Option.map_some]
  cases outcome with
  | error message => rfl
  | ok u =>
    cases htask : p.task with
    | replacing stage i claim purpose =>
      cases stage with
      | sync =>
        dsimp only
        rw [if_pos (h i claim purpose htask rfl)]
      | _ => rfl
    | _ => rfl

theorem open_of_assertActive (h : p.assertActive lease = .ok ()) : lease.closed = false := by
  unfold Process.assertActive at h
  cases hclosed : lease.closed with
  | false => rfl
  | true =>
    rw [hclosed] at h
    cases h

theorem held_set {lease' : DeploymentLease} (h : p.leases[index]? = some lease) :
    (p.leases.set index lease')[index]? = some lease' := by
  apply List.getElem?_set_self
  exact (List.getElem?_eq_some_iff.1 h).1

theorem sound_replace {i : ℕ} {claim : Claim} {purpose : Purpose} {file : ClaimFile}
    (h : ContextSound entry pid index course w p lease)
    (htask : TaskSound entry.events pid index course w p lease
      (.replacing .replace i claim purpose))
    (hfile : file.content = some claim) (event : LeaseEvent) :
    ContextSound entry pid index course
      (((w.setClaim lease.runsDir lease.runId (some file)).put pid
        { p with task := .replacing .sync i claim purpose }).emit event)
      { p with task := .replacing .sync i claim purpose } lease := by
  obtain ⟨rfl, hfinalized, hopen, -, hterminal, hpurpose⟩ := htask
  have hlog : w.log <+: (((w.setClaim lease.runsDir lease.runId (some file)).put pid
      { p with task := .replacing .sync i claim purpose }).emit event).log :=
    List.prefix_append _ _
  constructor
  case process => exact Function.update_self ..
  case held => exact h.held
  case identity => exact h.identity
  case final =>
    intro hdone
    rw [hfinalized] at hdone
    cases hdone
  case unfinished => exact h.unfinished
  case file => exact h.file
  case log => exact Nat.le_trans h.log hlog.length_le
  case task =>
    refine ⟨rfl, hfinalized, fun _ => hopen nofun, fun _ => ?_, hterminal, ?_⟩
    · exact (recorded_setClaim w lease file).trans hfile
    · cases purpose with
      | leaving normal => exact hpurpose
      | phase => exact LeftSound.later hpurpose h.log hlog
      | terminal => exact LeftSound.later hpurpose h.log hlog

/-- **The end of a replacement**, which `finalize` records. -/
theorem sound_sync {i : ℕ} {claim : Claim} {purpose : Purpose}
    (h : ContextSound entry pid index course w p lease)
    (htask : TaskSound entry.events pid index course w p lease (.replacing .sync i claim purpose)) :
    ContextSound entry pid index
      (if purpose = .phase then course else { course with last := some claim })
      (w.put pid { p with
        leases := p.leases.set i (lease.replaced claim purpose)
        task := match purpose with
          | .leaving _ => .leaving i none
          | _ => .idle })
      { p with
        leases := p.leases.set i (lease.replaced claim purpose)
        task := match purpose with
          | .leaving _ => .leaving i none
          | _ => .idle } (lease.replaced claim purpose) := by
  obtain ⟨rfl, hfinalized, hopen, hrecorded, hterminal, hpurpose⟩ := htask
  have hclosed : lease.closed = false := hopen nofun
  constructor
  case process => exact Function.update_self ..
  case held => exact held_set h.held
  case file => exact h.file
  case log => exact h.log
  case identity => exact h.identity
  case final =>
    intro hdone
    cases purpose with
    | phase =>
      have hfalse : (lease.finalized || false) = true := hdone
      rw [hfinalized] at hfalse
      cases hfalse
    | terminal => exact ⟨claim, rfl, hterminal nofun, hrecorded rfl⟩
    | leaving normal => exact ⟨claim, rfl, hterminal nofun, hrecorded rfl⟩
  case unfinished =>
    intro hdone
    have hfalse : (lease.finalized || decide (purpose ≠ .phase)) = false := hdone
    rw [hfinalized, Bool.false_or, decide_eq_false_iff_not, not_not] at hfalse
    subst hfalse
    exact h.unfinished hfinalized
  case task =>
    have hfinal : purpose ≠ .phase → (lease.replaced claim purpose).finalized = true := by
      intro hne
      show (lease.finalized || decide (purpose ≠ .phase)) = true
      rw [decide_eq_true hne, Bool.or_true]
    cases purpose with
    | phase =>
      refine ⟨hpurpose.1, fun hshut => ?_⟩
      have hshut' : lease.closed = true := hshut
      rw [hclosed] at hshut'
      cases hshut'
    | terminal =>
      refine ⟨hpurpose.1, fun hshut => ?_⟩
      have hshut' : lease.closed = true := hshut
      rw [hclosed] at hshut'
      cases hshut'
    | leaving normal =>
      refine ⟨rfl, hclosed, normal, hpurpose.2, fun hnot => ?_⟩
      rw [hfinal nofun] at hnot
      cases hnot

theorem sound_advanceReplace {stage : ReplaceStage} {i : ℕ} {claim : Claim} {purpose : Purpose}
    (h : ContextSound entry pid index course w p lease)
    (htask : p.task = .replacing stage i claim purpose) (outcome : Outcome) (fd : ℕ) :
    ∃ p' lease', ContextSound entry pid index (course.after pid w (.advance pid outcome fd))
      (advanceReplace limit w pid p stage i lease claim purpose outcome) p' lease' := by
  have hsound : TaskSound entry.events pid index course w p lease
      (.replacing stage i claim purpose) :=
    htask ▸ h.task
  have hnext {next : ReplaceStage} (hclosed : lease.closed = false) (hne : next ≠ .sync) :
      TaskSound entry.events pid index course w p lease (.replacing next i claim purpose) :=
    ⟨hsound.1, hsound.2.1, fun _ => hclosed, fun hsync => absurd hsync hne, hsound.2.2.2.2⟩
  have hraise : ∀ message, ∃ p' lease', ContextSound entry pid index course
      (replaceRaised w pid p i purpose message) p' lease' := fun message =>
    have ⟨p', hp'⟩ := sound_replaceRaised h hsound message
    ⟨p', lease, hp'⟩
  cases stage with
  | check =>
    rw [after_advance h.process fun _ _ _ hsync => by rw [htask] at hsync; cases hsync]
    unfold advanceReplace
    dsimp only
    cases hactive : p.assertActive lease with
    | ok u =>
      exact ⟨_, lease, h.setTask rfl (hnext (open_of_assertActive hactive) nofun)⟩
    | error message => exact hraise message
  | temporary =>
    rw [after_advance h.process fun _ _ _ hsync => by rw [htask] at hsync; cases hsync]
    cases outcome with
    | ok u => exact ⟨_, lease, h.setTask rfl (hnext (hsound.2.2.1 nofun) nofun)⟩
    | error message => exact hraise message
  | replace =>
    rw [after_advance h.process fun _ _ _ hsync => by rw [htask] at hsync; cases hsync]
    cases outcome with
    | ok u => exact ⟨_, lease, sound_replace h hsound rfl _⟩
    | error message => exact hraise message
  | sync =>
    cases outcome with
    | ok u =>
      have hcourse : course.after pid w (.advance pid (.ok u) fd) =
          if purpose = .phase then course else { course with last := some claim } := by
        unfold Course.after
        rw [h.process, Option.map_some, htask]
      rw [hcourse]
      have hsync := sound_sync h hsound
      cases purpose with
      | phase => exact ⟨_, _, hsync⟩
      | terminal => exact ⟨_, _, hsync⟩
      | leaving normal => exact ⟨_, _, hsync⟩
    | error message =>
      rw [after_advance h.process fun _ _ _ _ hok => by cases hok]
      exact hraise message

/-! ## Leaving -/

theorem sound_advanceLeave {i : ℕ} (h : ContextSound entry pid index course w p lease)
    (htask : TaskSound entry.events pid index course w p lease (.leaving i error)) :
    ∃ p' lease', ContextSound entry pid index course (advanceLeave w pid p i lease error)
      p' lease' := by
  obtain ⟨rfl, hclosed, herror⟩ := htask
  obtain ⟨fd, dir, d, hdescriptor, hfile⟩ := h.file hclosed
  unfold advanceLeave
  rw [if_neg (by rw [hclosed]; exact Bool.false_ne_true), hdescriptor]
  dsimp only
  have hsound : ContextSound entry pid i course
      (w.put pid { p with
        leases := p.leases.set i { lease with descriptor := none, closed := true }
        inheritedFds := p.inheritedFds.filter (· ≠ fd)
        task := .unlocking fd error })
      { p with
        leases := p.leases.set i { lease with descriptor := none, closed := true }
        inheritedFds := p.inheritedFds.filter (· ≠ fd)
        task := .unlocking fd error }
      { lease with descriptor := none, closed := true } := by
    constructor
    case process => exact Function.update_self ..
    case held => exact held_set h.held
    case identity => exact h.identity
    case final => exact h.final
    case unfinished => exact h.unfinished
    case file => exact nofun
    case log => exact h.log
    case task => exact ⟨rfl, ⟨dir, d, hfile⟩, herror⟩
  exact ⟨_, _, hsound⟩

theorem unlockFile_frame (w : World) (file : Option OpenFile) :
    (w.unlockFile file).claims = w.claims ∧ (w.unlockFile file).log = w.log ∧
      (w.unlockFile file).processes = w.processes := by
  unfold World.unlockFile
  split
  · split
    · exact ⟨rfl, rfl, rfl⟩
    · exact ⟨rfl, rfl, rfl⟩
  · exact ⟨rfl, rfl, rfl⟩

/-- **The end of `_release`**, with the error of the exit. -/
theorem sound_finishExit {fd : ℕ} (h : ContextSound entry pid index course w p lease)
    (hclosed : lease.closed = true) (herror : ErrorSound course lease error) :
    ContextSound entry pid index course
      (finishExit ((w.put pid { p.closeFile fd with task := .idle }).dropUnreferenced limit) pid
        error) { p.closeFile fd with task := .idle } lease := by
  have hopen : ¬lease.closed = false := by
    rw [hclosed]
    exact nofun
  have hlog : w.log <+: (finishExit
      ((w.put pid { p.closeFile fd with task := .idle }).dropUnreferenced limit) pid
        error).log := by
    cases error with
    | none => exact List.prefix_refl _
    | some message => exact List.prefix_append _ _
  obtain ⟨normal, hexited, hraises⟩ := herror
  apply h.move
  · cases error with
    | none => exact Function.update_self ..
    | some message => exact Function.update_self ..
  · rfl
  · cases error with
    | none => rfl
    | some message => rfl
  · exact hlog
  · rfl
  · intro hnot
    exact absurd hnot hopen
  · refine ⟨fun hnot => absurd hnot hopen, fun _ => ⟨normal, hexited, fun hfinal hnormal => ?_⟩⟩
    obtain ⟨message, rfl⟩ := hraises hfinal hnormal
    refine ⟨message, ?_⟩
    show _ ∈ (w.log ++ [_]).drop entry.events
    rw [List.drop_append_of_le_length h.log]
    exact List.mem_append_right _ (List.mem_singleton.2 rfl)

theorem sound_advance {outcome : Outcome} {fd : ℕ}
    (h : ContextSound entry pid index course w p lease)
    (hstep : advance limit w pid p outcome fd = some w') :
    ∃ p' lease', ContextSound entry pid index (course.after pid w (.advance pid outcome fd)) w'
      p' lease' := by
  have htask := h.task
  unfold advance at hstep
  cases hcurrent : p.task with
  | idle =>
    rw [hcurrent] at hstep
    cases hstep
  | replacing stage i claim purpose =>
    rw [hcurrent] at hstep htask
    obtain rfl : i = index := htask.1
    dsimp only at hstep
    rw [h.held, Option.map_some] at hstep
    obtain rfl := Option.some.inj hstep
    exact sound_advanceReplace h hcurrent outcome fd
  | leaving i error =>
    rw [after_advance h.process fun _ _ _ hsync => by rw [hcurrent] at hsync; cases hsync]
    rw [hcurrent] at hstep htask
    obtain rfl : i = index := htask.1
    dsimp only at hstep
    rw [h.held, Option.map_some] at hstep
    obtain rfl := Option.some.inj hstep
    exact sound_advanceLeave h htask
  | unlocking fd error =>
    rw [after_advance h.process fun _ _ _ hsync => by rw [hcurrent] at hsync; cases hsync]
    rw [hcurrent] at hstep htask
    obtain rfl := Option.some.inj hstep
    obtain ⟨hclosed, ⟨dir, d, hfile⟩, herror⟩ := htask
    unfold advanceUnlock
    rw [hfile]
    dsimp only
    obtain ⟨hclaims, hlog, -⟩ := unlockFile_frame w (some (.lock dir d))
    refine ⟨{ p with task := .closing fd error }, lease, h.move (Function.update_self ..) rfl
      hclaims (hlog ▸ List.prefix_refl _) rfl (fun _ _ _ _ hkept => hkept) ?_⟩
    exact ⟨hclosed, ⟨dir, d, hfile⟩, herror⟩
  | closing fd error =>
    rw [after_advance h.process fun _ _ _ hsync => by rw [hcurrent] at hsync; cases hsync]
    rw [hcurrent] at hstep htask
    obtain rfl := Option.some.inj hstep
    exact ⟨_, lease, sound_finishExit h htask.1 htask.2.2⟩
  | forked =>
    rw [hcurrent] at htask
    exact htask.elim
  | opening request =>
    rw [hcurrent] at htask
    exact htask.elim
  | acquiring stage request fd description =>
    rw [hcurrent] at htask
    exact htask.elim
  | failing stage request fd description message =>
    rw [hcurrent] at htask
    exact htask.elim

/-! ## Calls -/

theorem ContextSound.emit (h : ContextSound entry pid index course w p lease)
    (hidle : p.task = .idle) (event : LeaseEvent) :
    ContextSound entry pid index course (w.emit event) p lease := by
  have hlog : w.log <+: (w.emit event).log := List.prefix_append _ _
  have hleft : LeftSound entry.events pid course w lease := by
    have htask := h.task
    rwa [hidle] at htask
  apply h.move
  case hprocess => exact h.process
  case hleases => rfl
  case hclaims => rfl
  case hlog => exact hlog
  case hlast => rfl
  case hfiles => exact fun _ _ _ _ hfile => hfile
  case htask =>
    rw [hidle]
    exact hleft.later h.log hlog

theorem ContextSound.begin (h : ContextSound entry pid index course w p lease)
    (hidle : p.task = .idle) (hfinalized : lease.finalized = false) {claim : Claim}
    {purpose : Purpose} (hstays : purpose = .phase ∨ purpose = .terminal)
    (hterminal : purpose ≠ .phase → claim.Terminal) :
    ContextSound entry pid index course
      (w.put pid { p with task := .replacing .check index claim purpose })
      { p with task := .replacing .check index claim purpose } lease := by
  have hleft : LeftSound entry.events pid course w lease := by
    have htask := h.task
    rwa [hidle] at htask
  apply h.setTask rfl
  refine ⟨rfl, hfinalized, fun hne => absurd rfl hne, nofun, hterminal, ?_⟩
  rcases hstays with rfl | rfl
  · exact hleft
  · exact hleft

theorem terminal_exitClaim (exception : Option (Bool × String)) :
    (exitClaim exception).Terminal := by
  cases exception with
  | none => exact .inr (.inl rfl)
  | some exception =>
    obtain ⟨interrupted, detail⟩ := exception
    cases interrupted with
    | true => exact .inr (.inr rfl)
    | false => exact .inr (.inl rfl)

theorem sound_beginExit (h : ContextSound entry pid index course w p lease)
    (hclosed : lease.closed = false) (exception : Option (Bool × String)) :
    ∃ p', ContextSound entry pid index { course with exited := some exception.isNone }
      (beginExit w pid p index lease exception) p' lease := by
  unfold beginExit
  by_cases hfinalized : lease.finalized = true
  · rw [if_pos hfinalized]
    refine ⟨_, h.setTask rfl ⟨rfl, hclosed, exception.isNone, rfl, fun hnot => ?_⟩⟩
    rw [hfinalized] at hnot
    cases hnot
  · rw [if_neg hfinalized]
    refine ⟨_, h.setTask rfl ⟨rfl, Bool.eq_false_iff.2 hfinalized, fun hne => absurd rfl hne,
      nofun, fun _ => terminal_exitClaim exception, hclosed, rfl⟩⟩

theorem ContextSound.setFiles (h : ContextSound entry pid index course w p lease)
    {files : ℕ → Option OpenFile}
    (hfiles : ∀ fd dir d, p.files fd = some (.lock dir d) → files fd = some (.lock dir d)) :
    ContextSound entry pid index course (w.put pid { p with files := files })
      { p with files := files } lease := by
  apply h.move
  case hprocess => exact Function.update_self ..
  case hleases => rfl
  case hclaims => rfl
  case hlog => exact List.prefix_refl _
  case hlast => rfl
  case hfiles => exact fun _ => hfiles
  case htask =>
    have htask := h.task
    show TaskSound entry.events pid index course (w.put pid { p with files := files })
      { p with files := files } lease p.task
    cases hcurrent : p.task with
    | unlocking fd error =>
      rw [hcurrent] at htask
      obtain ⟨hclosed, ⟨dir, d, hfile⟩, herror⟩ := htask
      exact ⟨hclosed, ⟨dir, d, hfiles fd dir d hfile⟩, herror⟩
    | closing fd error =>
      rw [hcurrent] at htask
      obtain ⟨hclosed, ⟨dir, d, hfile⟩, herror⟩ := htask
      exact ⟨hclosed, ⟨dir, d, hfiles fd dir d hfile⟩, herror⟩
    | idle =>
      rw [hcurrent] at htask
      exact htask
    | replacing stage i claim purpose =>
      rw [hcurrent] at htask
      exact htask
    | leaving i error =>
      rw [hcurrent] at htask
      exact htask
    | _ =>
      rw [hcurrent] at htask
      exact htask.elim

theorem sound_step {action : Action} (h : ContextSound entry pid index course w p lease)
    (hcontext : InContext pid index action) (hordered : Ordered pid index w action)
    (hstep : step limit w action = some w') :
    ∃ p' lease', ContextSound entry pid index (course.after pid w action) w' p' lease' := by
  have hlease : lease ∈ w.leaseAt pid index := by
    show w.leaseAt pid index = some lease
    unfold World.leaseAt
    rw [h.process]
    exact h.held
  have hidle : p.task = .idle ∨ ¬p.task = .idle := em _
  unfold step at hstep
  cases action with
  | start => exact hcontext.elim
  | fork actor => exact hcontext.elim
  | crash actor => exact hcontext.elim
  | acquire actor request => exact hcontext.elim
  | openFile actor fd ownedRegular =>
    obtain rfl : actor = pid := hcontext
    dsimp only [Action.actor] at hstep
    rw [h.process, Option.bind_some, processStep] at hstep
    by_cases hfree : p.task ≠ .forked ∧ p.files fd = none ∧ fd < limit
    · rw [if_pos hfree] at hstep
      obtain rfl := Option.some.inj hstep
      refine ⟨_, lease, h.setFiles fun other dir d hfile => ?_⟩
      have hne : other ≠ fd := by
        rintro rfl
        rw [hfree.2.1] at hfile
        cases hfile
      exact (Function.update_of_ne hne ..).trans hfile
    · rw [if_neg hfree] at hstep
      cases hstep
  | closeFile actor fd =>
    obtain rfl : actor = pid := hcontext
    dsimp only [Action.actor] at hstep
    rw [h.process, Option.bind_some, processStep] at hstep
    by_cases hother : p.task ≠ .forked ∧
        (p.files fd = some (.other true) ∨ p.files fd = some (.other false))
    · rw [if_pos hother] at hstep
      obtain rfl := Option.some.inj hstep
      refine ⟨_, lease, h.setFiles fun other dir d hfile => ?_⟩
      have hne : other ≠ fd := by
        rintro rfl
        rw [hfile] at hother
        rcases hother.2 with hother | hother <;> cases hother
      exact (Function.update_of_ne hne ..).trans hfile
    · rw [if_neg hother] at hstep
      cases hstep
  | markPhase actor i phase =>
    obtain ⟨rfl, rfl⟩ := hcontext
    dsimp only [Action.actor] at hstep
    rw [h.process, Option.bind_some, processStep] at hstep
    rcases hidle with hidle | hbusy
    · rw [if_neg (not_not.2 hidle), h.held, Option.map_some] at hstep
      obtain rfl := Option.some.inj hstep
      by_cases hempty : phase = ""
      · rw [if_pos hempty]
        exact ⟨p, lease, h.emit hidle _⟩
      · rw [if_neg hempty]
        exact ⟨_, lease, h.begin hidle (hordered lease hlease) (.inl rfl) fun hne =>
          absurd rfl hne⟩
    · rw [if_pos hbusy] at hstep
      cases hstep
  | finalize actor i result error =>
    obtain ⟨rfl, rfl⟩ := hcontext
    dsimp only [Action.actor] at hstep
    rw [h.process, Option.bind_some, processStep] at hstep
    rcases hidle with hidle | hbusy
    · rw [if_neg (not_not.2 hidle), h.held, Option.map_some] at hstep
      obtain rfl := Option.some.inj hstep
      by_cases hinvalid : result ≠ "PASS" ∧ result ≠ "FAILED" ∧ result ≠ "INTERRUPTED"
      · rw [if_pos hinvalid]
        exact ⟨p, lease, h.emit hidle _⟩
      · rw [if_neg hinvalid]
        refine ⟨_, lease, h.begin hidle (hordered lease hlease) (.inr rfl) fun _ => ?_⟩
        show result = "PASS" ∨ result = "FAILED" ∨ result = "INTERRUPTED"
        by_contra hnone
        simp only [not_or] at hnone
        exact hinvalid hnone
    · rw [if_pos hbusy] at hstep
      cases hstep
  | exit actor i exception =>
    obtain ⟨rfl, rfl⟩ := hcontext
    dsimp only [Action.actor] at hstep
    rw [h.process, Option.bind_some, processStep] at hstep
    rcases hidle with hidle | hbusy
    · rw [if_neg (not_not.2 hidle), h.held, Option.map_some] at hstep
      obtain rfl := Option.some.inj hstep
      obtain ⟨p', hp'⟩ := sound_beginExit h (hordered lease hlease) exception
      exact ⟨p', lease, hp'⟩
    · rw [if_pos hbusy] at hstep
      cases hstep
  | advance actor outcome fd =>
    obtain rfl : actor = pid := hcontext
    dsimp only [Action.actor] at hstep
    rw [h.process, Option.bind_some, processStep] at hstep
    exact sound_advance h hstep

theorem sound_run {actions : List Action} (h : ContextSound entry pid index course w p lease)
    (hcontext : ∀ action ∈ actions, InContext pid index action)
    (hordered : AlongActions limit (Ordered pid index) w actions)
    (hrun : performActions limit w actions = some w') :
    ∃ p' lease', ContextSound entry pid index (courseOf limit pid w course actions) w' p'
      lease' := by
  induction actions generalizing w course p lease with
  | nil =>
    obtain rfl := Option.some.inj hrun
    exact ⟨p, lease, h⟩
  | cons action actions ih =>
    obtain ⟨hfirst, hrest⟩ := hordered
    unfold performActions at hrun
    unfold courseOf
    cases hstep : step limit w action with
    | none =>
      rw [hstep] at hrun
      cases hrun
    | some next =>
      rw [hstep, Option.bind_some] at hrun
      obtain ⟨p', lease', hnext⟩ :=
        sound_step h (hcontext action List.mem_cons_self) hfirst hstep
      exact ih hnext (fun a ha => hcontext a (List.mem_cons_of_mem _ ha)) (hrest next hstep)
        hrun

/-! ## The contract -/

/-- **A context that is entered**: an idle process with an open lease that is not finalised. -/
structure Entered (w : World) (pid : Pid) (index : ℕ) (p : Process) (lease : DeploymentLease) :
    Prop where
  process : w.processes pid = some p
  idle : p.task = .idle
  held : p.leases[index]? = some lease
  unfinished : lease.finalized = false
  closed : lease.closed = false
  file : ∃ fd dir d, lease.descriptor = some fd ∧ p.files fd = some (.lock dir d)

theorem Entered.sound (h : Entered w pid index p lease) :
    ContextSound ⟨w.log.length, lease.runsDir, lease.runId⟩ pid index .start w p lease := by
  constructor
  case process => exact h.process
  case held => exact h.held
  case identity => exact ⟨rfl, rfl⟩
  case final =>
    intro hfinalized
    rw [h.unfinished] at hfinalized
    cases hfinalized
  case unfinished => exact fun _ => rfl
  case file => exact fun _ => h.file
  case log => exact Nat.le_refl _
  case task =>
    rw [h.idle]
    refine ⟨fun _ => rfl, fun hclosed => ?_⟩
    rw [h.closed] at hclosed
    cases hclosed

def World.entering (w : World) (pid : Pid) (index : ℕ) : Option (String × String) :=
  match w.processes pid with
  | none => none
  | some p =>
    match p.leases[index]? with
    | none => none
    | some lease =>
      match lease.descriptor.bind p.files with
      | some (.lock _ _) =>
        if p.task = .idle ∧ lease.finalized = false ∧ lease.closed = false then
          some (lease.runsDir, lease.runId)
        else none
      | _ => none

theorem entered_of_entering {runsDir runId : String}
    (h : w.entering pid index = some (runsDir, runId)) :
    ∃ p lease, Entered w pid index p lease ∧ lease.runsDir = runsDir ∧ lease.runId = runId := by
  unfold World.entering at h
  cases hprocess : w.processes pid with
  | none =>
    rw [hprocess] at h
    cases h
  | some p =>
    rw [hprocess] at h
    dsimp only at h
    cases hheld : p.leases[index]? with
    | none =>
      rw [hheld] at h
      cases h
    | some lease =>
      rw [hheld] at h
      dsimp only at h
      split at h
      · next dir d hfile =>
          obtain ⟨fd, hdescriptor, hlock⟩ := Option.bind_eq_some_iff.1 hfile
          split_ifs at h with hopen
          obtain ⟨hidle, hfinalized, hclosed⟩ := hopen
          obtain ⟨rfl, rfl⟩ := Prod.mk.inj (Option.some.inj h)
          exact ⟨p, lease, ⟨hprocess, hidle, hheld, hfinalized, hclosed,
            ⟨fd, dir, d, hdescriptor, hlock⟩⟩, rfl, rfl⟩
      · cases h

namespace Bench

def entered : World :=
  (performActions 4 .initial ([.start] ++ acquires 0 0 "runs" "run-001")).getD .initial

def lateFailure : List Action :=
  [.markPhase 0 0 "policy_runtime"] ++ operations 0 1 4 ++ [.finalize 0 0 "PASS" none] ++
    operations 0 1 4 ++ [.exit 0 0 (some (false, "RuntimeError: camera"))] ++ operations 0 1 3

def reopened : List Action :=
  [.finalize 0 0 "PASS" none] ++ operations 0 1 4 ++ [.markPhase 0 0 "cleanup"] ++
    operations 0 1 4 ++ [.exit 0 0 none] ++ operations 0 1 3

def unwritten : List Action :=
  [.markPhase 0 0 "policy_runtime"] ++ operations 0 1 4 ++
    [.exit 0 0 (some (false, "RuntimeError: camera")), .advance 0 (.ok ()) 1,
      .advance 0 (.error "No space left on device") 1] ++ operations 0 1 3

end Bench

/-- The context of the bench was left: the lease is closed, its claim is on disk and nothing was
raised. -/
def Bench.leftWith (claim : Claim) (w : World) : Bool :=
  decide ((w.leaseAt 0 0).map DeploymentLease.closed = some true ∧
    (w.claims "runs" "run-001").bind ClaimFile.content = some claim) &&
  w.log.all fun
    | .raised _ _ => false
    | _ => true

end FrankaDeploy.Deployment
