import FrankaDeploy.Deployment.Lease
import Mathlib.Data.List.Nodup

/-! # Exclusivity of the deployment lease

Over every interleaving of processes with one runs directory: at most one process has an active
lease, a run is leased once, a failed acquisition leaves no lock behind, and a claim is written by
its creator under the lock. The lease itself is only a number: a forked child closes that number,
and another file opened on it makes the copied lease active again. -/

namespace FrankaDeploy.Deployment

/-! ## The claim and its condition -/

def World.activeIn (w : World) (pid : Pid) : Bool :=
  match w.processes pid with
  | some p => decide (p.task ≠ .forked) && p.leases.any p.active
  | none => false

def leasedRuns (log : List LeaseEvent) : List (String × String) := log.filterMap fun
  | .leased _ runsDir runId => some (runsDir, runId)
  | _ => none

def LeaseEvent.Sound : LeaseEvent → Prop
  | .refused _ _ locked _ => locked = false
  | .written pid _ _ creator held => creator = some pid ∧ held = true
  | _ => True

/-- **The lease is exclusive** in a state of the machine, given what has happened. -/
structure Exclusive (w : World) : Prop where
  one : ∀ pid pid', w.activeIn pid = true → w.activeIn pid' = true → pid = pid'
  once : (leasedRuns w.log).Nodup
  sound : ∀ event ∈ w.log, event.Sound

def FreeNumber (pid : Pid) (p : Process) (fd : ℕ) : Prop :=
  ∀ lease ∈ p.leases, lease.acquirer ≠ pid → lease.closed = false → lease.descriptor ≠ some fd

def NoReuse (w : World) : Action → Prop
  | .openFile pid fd _ | .advance pid _ fd =>
    ∀ p ∈ w.processes pid, FreeNumber pid p fd
  | _ => True

def OneDirectory (runsDir : String) : Action → Prop
  | .acquire _ request => request.runsDir = runsDir
  | _ => True

def performActions (limit : ℕ) (w : World) : List Action → Option World
  | [] => some w
  | action :: actions => (step limit w action).bind fun w => performActions limit w actions

def AlongActions (limit : ℕ) (P : World → Action → Prop) (w : World) : List Action → Prop
  | [] => True
  | action :: actions =>
    P w action ∧ ∀ w' ∈ step limit w action, AlongActions limit P w' actions

instance (pid : Pid) (p : Process) (fd : ℕ) : Decidable (FreeNumber pid p fd) :=
  inferInstanceAs (Decidable (∀ lease ∈ p.leases, lease.acquirer ≠ pid → lease.closed = false →
    lease.descriptor ≠ some fd))

instance (w : World) : ∀ action : Action, Decidable (NoReuse w action)
  | .openFile pid fd _ => inferInstanceAs (Decidable (∀ p ∈ w.processes pid, FreeNumber pid p fd))
  | .advance pid _ fd => inferInstanceAs (Decidable (∀ p ∈ w.processes pid, FreeNumber pid p fd))
  | .start | .fork _ | .crash _ | .closeFile _ _ | .acquire _ _ | .markPhase _ _ _
  | .finalize _ _ _ _ | .exit _ _ _ => inferInstanceAs (Decidable True)

instance (runsDir : String) : ∀ action : Action, Decidable (OneDirectory runsDir action)
  | .acquire _ request => inferInstanceAs (Decidable (request.runsDir = runsDir))
  | .start | .fork _ | .crash _ | .openFile _ _ _ | .closeFile _ _ | .markPhase _ _ _
  | .finalize _ _ _ _ | .exit _ _ _ | .advance _ _ _ => inferInstanceAs (Decidable True)

instance decidableAlongActions {limit : ℕ} {P : World → Action → Prop}
    [inst : ∀ w action, Decidable (P w action)] :
    ∀ (w : World) (actions : List Action), Decidable (AlongActions limit P w actions)
  | _, [] => inferInstanceAs (Decidable True)
  | w, action :: actions =>
    have : ∀ w', Decidable (AlongActions limit P w' actions) := fun w' =>
      decidableAlongActions w' actions
    @instDecidableAnd _ _ (inst w action)
      (inferInstanceAs (Decidable (∀ w' ∈ step limit w action, AlongActions limit P w' actions)))

/-! ## The invariant -/

section

variable (runsDir : String) (limit : ℕ) (w : World) (pid : Pid) (p : Process)

def Apart (description : ℕ) : Prop :=
  ∀ lease ∈ p.leases, lease.acquirer = pid → lease.closed = false →
    lease.description ≠ description

structure OwnFile (files : ℕ → Option OpenFile) (fd description : ℕ) : Prop where
  file : files fd = some (.lock runsDir description)
  opener : w.opener description = pid

def Claimed (runId : String) : Prop :=
  (∃ file, w.claims runsDir runId = some file ∧ file.creator = pid) ∧
    (runsDir, runId) ∉ leasedRuns w.log

def AcquireStage.holding : AcquireStage → Bool
  | .validate | .lock => false
  | _ => true

def AcquireStage.registered : AcquireStage → Bool
  | .validate | .lock | .register => false
  | _ => true

def AcquireStage.claimed : AcquireStage → Bool
  | .writeClaim | .sync => true
  | _ => false

/-- **What holds while a process is doing something.** -/
def TaskOk : Task → Prop
  | .idle | .leaving _ _ => True
  | .forked => ∀ lease ∈ p.leases, lease.acquirer ≠ pid
  | .opening request => request.runsDir = runsDir
  | .acquiring stage request fd description =>
    request.runsDir = runsDir ∧ OwnFile runsDir w pid p.files fd description ∧
      Apart pid p description ∧
      (stage.holding = true → w.locks runsDir = some description) ∧
      (stage.registered = true → fd ∈ p.inheritedFds) ∧
      (stage.claimed = true → Claimed runsDir w pid request.runId)
  | .failing stage request fd description _ =>
    request.runsDir = runsDir ∧ OwnFile runsDir w pid p.files fd description ∧
      Apart pid p description ∧ (stage = .close → w.locks runsDir ≠ some description)
  | .replacing stage index _ _ => stage ≠ .check → ∃ lease, p.leases[index]? = some lease ∧
      lease.acquirer = pid ∧ lease.closed = false
  | .unlocking fd _ | .closing fd _ => ∀ dir description,
      p.files fd = some (.lock dir description) → w.opener description = pid ∧
        Apart pid p description

/-- **What holds of an open lease** of the process that acquired it. -/
structure LeaseOk (lease : DeploymentLease) : Prop where
  directory : lease.runsDir = runsDir
  file : ∃ fd ∈ p.inheritedFds, lease.descriptor = some fd ∧
    OwnFile runsDir w pid p.files fd lease.description
  locked : w.locks runsDir = some lease.description
  claim : ∃ file, w.claims runsDir lease.runId = some file ∧ file.creator = pid

/-- **What holds of a process.** -/
structure ProcessOk : Prop where
  files : ∀ fd dir description, p.files fd = some (.lock dir description) →
    description < w.nextDescription ∧ fd < limit ∧ dir = runsDir
  acquirers : ∀ lease ∈ p.leases, lease.acquirer < w.nextPid
  own : ∀ lease ∈ p.leases, lease.acquirer = pid → lease.closed = false →
    LeaseOk runsDir w pid p lease
  single : ∀ (i j : ℕ) (lease lease' : DeploymentLease), p.leases[i]? = some lease →
    p.leases[j]? = some lease' → lease.acquirer = pid → lease'.acquirer = pid →
    lease.closed = false → lease'.closed = false → i = j
  copied : ∀ lease ∈ p.leases, lease.acquirer ≠ pid → lease.closed = false →
    ∀ fd, lease.descriptor = some fd →
      p.files fd = none ∨ (p.task = .forked ∧ fd ∈ p.inheritedFds)
  task : TaskOk runsDir w pid p p.task

/-- **The invariant** of the machine. -/
structure Inv : Prop where
  pids : ∀ pid p, w.processes pid = some p → pid < w.nextPid
  ok : ∀ pid p, w.processes pid = some p → ProcessOk runsDir limit w pid p
  once : (leasedRuns w.log).Nodup
  claimed : ∀ run ∈ leasedRuns w.log, w.claims run.1 run.2 ≠ none
  sound : ∀ event ∈ w.log, event.Sound

end

variable {runsDir : String} {limit : ℕ} {w w' : World} {pid : Pid} {p p' : Process}

/-! ## Frames -/

/-- **A later state of the files**: descriptions keep their openers and claims their creators. -/
structure Later (runsDir : String) (w w' : World) : Prop where
  opener : ∀ d < w.nextDescription, w'.opener d = w.opener d
  descriptions : w.nextDescription ≤ w'.nextDescription
  pids : w.nextPid ≤ w'.nextPid
  claims : ∀ run file, w.claims runsDir run = some file →
    ∃ file', w'.claims runsDir run = some file' ∧ file'.creator = file.creator

/-- **A step of another process** leaves what a process relies on. -/
structure Frame (runsDir : String) (w w' : World) (pid : Pid) (p : Process) : Prop extends
    Later runsDir w w' where
  locks : ∀ fd d, OwnFile runsDir w pid p.files fd d →
    (w'.locks runsDir = some d ↔ w.locks runsDir = some d)
  leased : ∀ run file, w.claims runsDir run = some file → file.creator = pid →
    (runsDir, run) ∉ leasedRuns w.log → (runsDir, run) ∉ leasedRuns w'.log

theorem Later.refl (runsDir : String) (w : World) : Later runsDir w w :=
  ⟨fun _ _ => rfl, le_refl _, le_refl _, fun _ file h => ⟨file, h, rfl⟩⟩

theorem OwnFile.later {fd d : ℕ} (h : OwnFile runsDir w pid p.files fd d)
    (hok : ProcessOk runsDir limit w pid p) (hl : Later runsDir w w') :
    OwnFile runsDir w' pid p.files fd d :=
  ⟨h.file, (hl.opener d (hok.files fd runsDir d h.file).1).trans h.opener⟩

theorem LeaseOk.later {lease : DeploymentLease} (h : LeaseOk runsDir w pid p lease)
    (hok : ProcessOk runsDir limit w pid p) (hl : Later runsDir w w')
    (hlocked : w'.locks runsDir = some lease.description) : LeaseOk runsDir w' pid p lease := by
  obtain ⟨fd, hreg, hfd, hfile⟩ := h.file
  obtain ⟨file, hclaim, hcreator⟩ := h.claim
  obtain ⟨file', hclaim', hcreator'⟩ := hl.claims _ _ hclaim
  exact ⟨h.directory, ⟨fd, hreg, hfd, hfile.later hok hl⟩, hlocked, file', hclaim',
    hcreator'.trans hcreator⟩

/-- **Another process's step** keeps what holds of a process. -/
theorem ProcessOk.frame (h : ProcessOk runsDir limit w pid p) (hf : Frame runsDir w w' pid p) :
    ProcessOk runsDir limit w' pid p where
  files fd dir d hfile := by
    obtain ⟨hd, hfd⟩ := h.files fd dir d hfile
    exact ⟨Nat.lt_of_lt_of_le hd hf.descriptions, hfd⟩
  acquirers lease hl := Nat.lt_of_lt_of_le (h.acquirers lease hl) hf.pids
  own lease hl hpid hopen := by
    have hlease := h.own lease hl hpid hopen
    obtain ⟨fd, -, -, hfile⟩ := hlease.file
    exact hlease.later h hf.toLater ((hf.locks fd _ hfile).mpr hlease.locked)
  single := h.single
  copied := h.copied
  task := by
    have htask := h.task
    unfold TaskOk at *
    split at htask
    · trivial
    · trivial
    · exact htask
    · exact htask
    · obtain ⟨hdir, hfile, hapart, hlock, hreg, hclaim⟩ := htask
      refine ⟨hdir, hfile.later h hf.toLater, hapart,
        fun hs => (hf.locks _ _ hfile).mpr (hlock hs), hreg, fun hs => ?_⟩
      obtain ⟨⟨file, hfile, hcreator⟩, hleased⟩ := hclaim hs
      obtain ⟨file', hfile', hcreator'⟩ := hf.claims _ _ hfile
      exact ⟨⟨file', hfile', hcreator'.trans hcreator⟩, hf.leased _ _ hfile hcreator hleased⟩
    · obtain ⟨hdir, hfile, hapart, hlock⟩ := htask
      exact ⟨hdir, hfile.later h hf.toLater, hapart,
        fun hs hl => hlock hs ((hf.locks _ _ hfile).mp hl)⟩
    · exact htask
    · intro dir d hfile
      obtain ⟨hopener, hapart⟩ := htask dir d hfile
      exact ⟨(hf.opener d (h.files _ _ _ hfile).1).trans hopener, hapart⟩
    · intro dir d hfile
      obtain ⟨hopener, hapart⟩ := htask dir d hfile
      exact ⟨(hf.opener d (h.files _ _ _ hfile).1).trans hopener, hapart⟩

/-- **A step of the process itself** that opens and closes nothing. -/
theorem ProcessOk.act (h : ProcessOk runsDir limit w pid p) (hnot : p.task ≠ .forked)
    (hl : Later runsDir w w') (hlocked : ∀ lease ∈ p.leases, lease.acquirer = pid →
      lease.closed = false → w'.locks runsDir = some lease.description)
    (inherited : List ℕ) (hinherited : ∀ lease ∈ p.leases, lease.acquirer = pid →
      lease.closed = false → ∀ fd ∈ p.inheritedFds, lease.descriptor = some fd → fd ∈ inherited)
    {task : Task} (ht : TaskOk runsDir w' pid { p with inheritedFds := inherited } task) :
    ProcessOk runsDir limit w' pid { p with inheritedFds := inherited, task := task } where
  files fd dir d hfile := by
    obtain ⟨hd, hfd⟩ := h.files fd dir d hfile
    exact ⟨Nat.lt_of_lt_of_le hd hl.descriptions, hfd⟩
  acquirers lease hlease := Nat.lt_of_lt_of_le (h.acquirers lease hlease) hl.pids
  own lease hlease hpid hopen := by
    have hok := (h.own lease hlease hpid hopen).later h hl (hlocked lease hlease hpid hopen)
    obtain ⟨fd, hreg, hfd, hfile⟩ := hok.file
    exact ⟨hok.directory, ⟨fd, hinherited lease hlease hpid hopen fd hreg hfd, hfd, hfile⟩,
      hok.locked, hok.claim⟩
  single := h.single
  copied lease hlease hpid hopen fd hfd :=
    .inl ((h.copied lease hlease hpid hopen fd hfd).resolve_right fun hforked => hnot hforked.1)
  task := by cases task <;> exact ht

theorem ProcessOk.setTask (h : ProcessOk runsDir limit w pid p) (hnot : p.task ≠ .forked)
    {task : Task} (ht : TaskOk runsDir w pid p task) :
    ProcessOk runsDir limit w pid { p with task := task } :=
  h.act hnot (.refl runsDir w) (fun lease hl hpid hopen => (h.own lease hl hpid hopen).locked)
    p.inheritedFds (fun _ _ _ _ _ hfd _ => hfd) ht

/-! ## Machines -/

theorem leasedRuns_append (log log' : List LeaseEvent) :
    leasedRuns (log ++ log') = leasedRuns log ++ leasedRuns log' := by
  unfold leasedRuns
  exact List.filterMap_append

/-- **A step of one process** on the files of the machine. -/
theorem Inv.update (h : Inv runsDir limit w) (hp : w.processes pid = some p) {w₁ : World}
    (hprocesses : w₁.processes = w.processes) (hpids : w.nextPid ≤ w₁.nextPid)
    (hframe : ∀ q qp, q ≠ pid → w.processes q = some qp → Frame runsDir w w₁ q qp)
    (hok : ProcessOk runsDir limit w₁ pid p') (honce : (leasedRuns w₁.log).Nodup)
    (hclaimed : ∀ run ∈ leasedRuns w₁.log, w₁.claims run.1 run.2 ≠ none)
    (hsound : ∀ event ∈ w₁.log, event.Sound) : Inv runsDir limit (w₁.put pid p') where
  pids q qp hq := by
    by_cases hself : q = pid
    · subst hself
      exact Nat.lt_of_lt_of_le (h.pids q p hp) hpids
    · simp only [World.put, Function.update_of_ne hself, hprocesses] at hq
      exact Nat.lt_of_lt_of_le (h.pids q qp hq) hpids
  ok q qp hq := by
    have hsame : ∀ {q qp}, ProcessOk runsDir limit w₁ q qp →
        ProcessOk runsDir limit (w₁.put pid p') q qp := fun hok =>
      hok.frame ⟨⟨fun _ _ => rfl, le_refl _, le_refl _, fun _ file h => ⟨file, h, rfl⟩⟩,
        fun _ _ _ => Iff.rfl, fun _ _ _ _ h => h⟩
    by_cases hself : q = pid
    · subst hself
      simp only [World.put, Function.update_self, Option.some.injEq] at hq
      subst hq
      exact hsame hok
    · simp only [World.put, Function.update_of_ne hself, hprocesses] at hq
      exact hsame ((h.ok q qp hq).frame (hframe q qp hself hq))
  once := honce
  claimed := hclaimed
  sound := hsound

theorem Inv.put (h : Inv runsDir limit w) (hp : w.processes pid = some p)
    (hok : ProcessOk runsDir limit w pid p') : Inv runsDir limit (w.put pid p') :=
  h.update hp rfl (le_refl _) (fun _ _ _ _ => ⟨.refl runsDir w, fun _ _ _ => Iff.rfl,
    fun _ _ _ _ h => h⟩) hok h.once h.claimed h.sound

theorem Inv.emit (h : Inv runsDir limit w) {event : LeaseEvent} (hsound : event.Sound)
    (hno : leasedRuns [event] = []) : Inv runsDir limit (w.emit event) := by
  have hlog : leasedRuns (w.log ++ [event]) = leasedRuns w.log := by
    rw [leasedRuns_append, hno, List.append_nil]
  refine ⟨h.pids, fun q qp hq => (h.ok q qp hq).frame ⟨⟨fun _ _ => rfl, le_refl _, le_refl _,
    fun _ file h => ⟨file, h, rfl⟩⟩, fun _ _ _ => Iff.rfl, fun run file _ _ hno => ?_⟩, ?_, ?_, ?_⟩
  · show (runsDir, run) ∉ leasedRuns (w.log ++ [event])
    rwa [hlog]
  · show (leasedRuns (w.log ++ [event])).Nodup
    rw [hlog]
    exact h.once
  · show ∀ run ∈ leasedRuns (w.log ++ [event]), w.claims run.1 run.2 ≠ none
    rw [hlog]
    exact h.claimed
  · intro e he
    rcases List.mem_append.mp he with he | he
    · exact h.sound e he
    · rw [List.mem_singleton.mp he]
      exact hsound

/-- **Locks without descriptors** are of no living process. -/
theorem Inv.drop (h : Inv runsDir limit w) : Inv runsDir limit (w.dropUnreferenced limit) := by
  refine ⟨h.pids, fun q qp hq => (h.ok q qp hq).frame ⟨⟨fun _ _ => rfl, le_refl _, le_refl _,
    fun _ file h => ⟨file, h, rfl⟩⟩, fun fd d hfile => ?_, fun _ _ _ _ h => h⟩, h.once, h.claimed,
    h.sound⟩
  have hliving : w.processes q = some qp := hq
  have href : w.Referenced limit runsDir d :=
    ⟨q, h.pids q qp hq, fd, ((h.ok q qp hq).files _ _ _ hfile.file).2.1, by
      rw [hliving]
      exact hfile.file⟩
  unfold World.dropUnreferenced
  simp only [Option.filter_eq_some_iff, decide_eq_true_eq]
  exact ⟨fun hlock => hlock.1, fun hlock => ⟨hlock, href⟩⟩

/-! ## Acquiring -/

theorem frame_of_locks {q : Pid} {qp : Process} (hq : q ≠ pid)
    (hl : Later runsDir w w') (hlog : leasedRuns w'.log = leasedRuns w.log)
    (hlocks : ∀ d, w.opener d ≠ pid → (w'.locks runsDir = some d ↔ w.locks runsDir = some d)) :
    Frame runsDir w w' q qp :=
  ⟨hl, fun _ d hfile => hlocks d (by rw [hfile.opener]; exact hq), fun _ _ _ _ h => by rwa [hlog]⟩

theorem no_lease_of_apart (h : ProcessOk runsDir limit w pid p) {d : ℕ} (hapart : Apart pid p d)
    (hlock : ∀ d', w.locks runsDir = some d' → d' = d) :
    ∀ lease ∈ p.leases, lease.acquirer = pid → lease.closed = true := by
  intro lease hl hpid
  by_contra hopen
  have hopen : lease.closed = false := by simpa using hopen
  exact hapart lease hl hpid hopen (hlock _ (h.own lease hl hpid hopen).locked)

theorem holds_of_own (h : Inv runsDir limit w) (hp : w.processes pid = some p) {fd d : ℕ}
    (hfile : OwnFile runsDir w pid p.files fd d) (hlock : w.locks runsDir = some d) :
    w.holds limit pid runsDir = true := by
  unfold World.holds
  rw [hlock]
  simp only [decide_eq_true_eq]
  exact ⟨fd, ((h.ok pid p hp).files _ _ _ hfile.file).2.1, by
    rw [hp]
    exact hfile.file⟩

theorem inv_goOn (h : Inv runsDir limit w) (hp : w.processes pid = some p)
    {stage next : AcquireStage} {request : AcquireRequest} {fd d : ℕ} (outcome : Outcome)
    (htask : p.task = .acquiring stage request fd d)
    (hholding : next.holding = true → stage.holding = true)
    (hregistered : next.registered = true → stage.registered = true)
    (hclaimed : next.claimed = true → stage.claimed = true) :
    Inv runsDir limit (w.put pid { p with task := goOn outcome next request fd d }) := by
  have hok := h.ok pid p hp
  have ht := hok.task
  rw [htask] at ht
  obtain ⟨hdir, hfile, hapart, hlock, hreg, hclaim⟩ := ht
  refine h.put hp (hok.setTask (by rw [htask]; simp) ?_)
  cases outcome with
  | ok _ => exact ⟨hdir, hfile, hapart, fun hs => hlock (hholding hs),
      fun hs => hreg (hregistered hs), fun hs => hclaim (hclaimed hs)⟩
  | error message => exact ⟨hdir, hfile, hapart, nofun⟩

theorem inv_refuse (h : Inv runsDir limit w) (hp : w.processes pid = some p)
    {stage : AcquireStage} {request : AcquireRequest} {fd d : ℕ} (message : String)
    (htask : p.task = .acquiring stage request fd d) :
    Inv runsDir limit
      (w.put pid { p with task := .failing .discard request fd d message }) := by
  have hok := h.ok pid p hp
  have ht := hok.task
  rw [htask] at ht
  obtain ⟨hdir, hfile, hapart, -⟩ := ht
  exact h.put hp (hok.setTask (by rw [htask]; simp) ⟨hdir, hfile, hapart, nofun⟩)

theorem inv_lock (h : Inv runsDir limit w) (hp : w.processes pid = some p)
    {request : AcquireRequest} {fd d : ℕ} (htask : p.task = .acquiring .lock request fd d)
    (hfree : w.locks request.runsDir = none) :
    Inv runsDir limit
      ({ w with locks := Function.update w.locks request.runsDir (some d) }.put pid
        { p with task := .acquiring .register request fd d }) := by
  have hok := h.ok pid p hp
  have ht := hok.task
  rw [htask] at ht
  obtain ⟨rfl, hfile, hapart, -⟩ := ht
  have hlater : Later request.runsDir w
      { w with locks := Function.update w.locks request.runsDir (some d) } :=
    ⟨fun _ _ => rfl, le_refl _, le_refl _, fun _ file h => ⟨file, h, rfl⟩⟩
  have hnone := no_lease_of_apart hok hapart fun d' hd => by rw [hfree] at hd; cases hd
  refine h.update hp rfl (le_refl _) (fun q qp hq hqp => ?_) ?_ h.once h.claimed h.sound
  · refine frame_of_locks hq hlater rfl fun d' hd => ?_
    simp only [Function.update_self, hfree, Option.some.injEq, reduceCtorEq, iff_false]
    rintro rfl
    exact hd hfile.opener
  · refine hok.act (by rw [htask]; simp) hlater (fun lease hl hpid hopen => ?_) p.inheritedFds
      (fun _ _ _ _ _ hfd _ => hfd) ⟨rfl, hfile.later hok hlater, hapart, fun _ => ?_, nofun, nofun⟩
    · rw [hnone lease hl hpid] at hopen
      cases hopen
    · exact Function.update_self ..

theorem inv_register (h : Inv runsDir limit w) (hp : w.processes pid = some p)
    {request : AcquireRequest} {fd d : ℕ} (htask : p.task = .acquiring .register request fd d) :
    Inv runsDir limit (w.put pid
      { p with task := .acquiring .payload request fd d, inheritedFds := fd :: p.inheritedFds }) := by
  have hok := h.ok pid p hp
  have ht := hok.task
  rw [htask] at ht
  obtain ⟨hdir, hfile, hapart, hlock, -⟩ := ht
  exact h.put hp (hok.act (by rw [htask]; simp) (.refl runsDir w)
    (fun lease hl hpid hopen => (hok.own lease hl hpid hopen).locked) (fd :: p.inheritedFds)
    (fun _ _ _ _ _ hfd _ => .tail _ hfd)
    ⟨hdir, hfile, hapart, fun _ => hlock rfl, fun _ => .head _, nofun⟩)

/-- **A claim is written**: claims keep their creators. -/
theorem later_setClaim {run : String} {file : Option ClaimFile}
    (h : ∀ old, w.claims runsDir run = some old → ∃ new, file = some new ∧
      new.creator = old.creator) : Later runsDir w (w.setClaim runsDir run file) := by
  refine ⟨fun _ _ => rfl, le_refl _, le_refl _, fun run' old hold => ?_⟩
  by_cases hrun : run' = run
  · subst hrun
    rw [World.setClaim_self]
    exact h old hold
  · rw [World.setClaim_of_ne w (fun hsame => hrun hsame.2)]
    exact ⟨old, hold, rfl⟩

theorem claimed_setClaim {run : String} {file : ClaimFile} {dir run' : String}
    (h : w.claims dir run' ≠ none) :
    (w.setClaim runsDir run (some file)).claims dir run' ≠ none := by
  by_cases hsame : dir = runsDir ∧ run' = run
  · obtain ⟨rfl, rfl⟩ := hsame
    rw [World.setClaim_self]
    simp
  · rwa [World.setClaim_of_ne w hsame]

theorem inv_createClaim (h : Inv runsDir limit w) (hp : w.processes pid = some p)
    {request : AcquireRequest} {fd d : ℕ} (htask : p.task = .acquiring .createClaim request fd d)
    (hfree : w.claims request.runsDir request.runId = none) :
    Inv runsDir limit ((w.setClaim request.runsDir request.runId (some ⟨pid, none⟩)).put pid
      { p with task := .acquiring .writeClaim request fd d }) := by
  have hok := h.ok pid p hp
  have ht := hok.task
  rw [htask] at ht
  obtain ⟨rfl, hfile, hapart, hlock, hreg, -⟩ := ht
  have hlater : Later request.runsDir w
      (w.setClaim request.runsDir request.runId (some ⟨pid, none⟩)) :=
    later_setClaim fun old hold => by
      rw [hfree] at hold
      cases hold
  refine h.update hp rfl (le_refl _) (fun q qp hq hqp => ?_) ?_ h.once
    (fun run hrun => claimed_setClaim (h.claimed run hrun)) h.sound
  · exact frame_of_locks hq hlater rfl fun _ _ => Iff.rfl
  · refine hok.act (by rw [htask]; simp) hlater
      (fun lease hl hpid hopen => (hok.own lease hl hpid hopen).locked) p.inheritedFds
      (fun _ _ _ _ _ hfd _ => hfd) ⟨rfl, hfile.later hok hlater, hapart, fun _ => hlock rfl,
        fun _ => hreg rfl, fun _ => ⟨⟨⟨pid, none⟩, ?_, rfl⟩, fun hleased => ?_⟩⟩
    · rw [World.setClaim_self]
    · exact h.claimed _ hleased hfree

/-- **The claim is written** by its creator, under the lock. -/
theorem inv_writeClaim (h : Inv runsDir limit w) (hp : w.processes pid = some p)
    {request : AcquireRequest} {fd d : ℕ} (outcome : Outcome) (content : Option Claim)
    (htask : p.task = .acquiring .writeClaim request fd d) :
    Inv runsDir limit (((w.setClaim request.runsDir request.runId
      (((w.claims request.runsDir request.runId).map ClaimFile.creator).map fun creator =>
        ⟨creator, content⟩)).put pid { p with task := goOn outcome .sync request fd d }).emit
      (.written pid request.runsDir request.runId
        ((w.claims request.runsDir request.runId).map ClaimFile.creator)
        (w.holds limit pid request.runsDir))) := by
  have hok := h.ok pid p hp
  have ht := hok.task
  rw [htask] at ht
  obtain ⟨rfl, hfile, hapart, hlock, hreg, hclaim⟩ := ht
  obtain ⟨⟨old, hold, hcreator⟩, hleased⟩ := hclaim rfl
  have hholds := holds_of_own h hp hfile (hlock rfl)
  simp only [hold, Option.map_some, hcreator]
  have hlater : Later request.runsDir w
      (w.setClaim request.runsDir request.runId (some ⟨pid, content⟩)) :=
    later_setClaim fun old' hold' => by
      rw [hold] at hold'
      cases hold'
      exact ⟨_, rfl, hcreator.symm⟩
  have hwritten : Inv request.runsDir limit ((w.setClaim request.runsDir request.runId
      (some ⟨pid, content⟩)).put pid { p with task := goOn outcome .sync request fd d }) := ?_
  · exact hwritten.emit ⟨rfl, hholds⟩ rfl
  refine h.update hp rfl (le_refl _) (fun q qp hq hqp => ?_) ?_ h.once
    (fun run hrun => claimed_setClaim (h.claimed run hrun)) h.sound
  · exact frame_of_locks hq hlater rfl fun _ _ => Iff.rfl
  · refine hok.act (by rw [htask]; simp) hlater
      (fun lease hl hpid hopen => (hok.own lease hl hpid hopen).locked) p.inheritedFds
      (fun _ _ _ _ _ hfd _ => hfd) ?_
    cases outcome with
    | ok _ => exact ⟨rfl, hfile.later hok hlater, hapart, fun _ => hlock rfl, fun _ => hreg rfl,
        fun _ => ⟨⟨⟨pid, content⟩, World.setClaim_self .., rfl⟩, hleased⟩⟩
    | error message => exact ⟨rfl, hfile.later hok hlater, hapart, nofun⟩

theorem inv_lease (h : Inv runsDir limit w) (hp : w.processes pid = some p)
    {request : AcquireRequest} {fd d : ℕ} (htask : p.task = .acquiring .sync request fd d) :
    Inv runsDir limit ((w.put pid { p with
      task := .idle
      leases := p.leases ++ [⟨some fd, request.runsDir, request.runId, newClaim, false, false, pid,
        d⟩] }).emit (.leased pid request.runsDir request.runId)) := by
  have hok := h.ok pid p hp
  have ht := hok.task
  rw [htask] at ht
  obtain ⟨rfl, hfile, hapart, hlock, hreg, hclaim⟩ := ht
  obtain ⟨hcreated, hleased⟩ := hclaim rfl
  have hnone := no_lease_of_apart hok hapart fun d' hd => by
    rw [hlock rfl] at hd
    exact (Option.some.inj hd).symm
  have hlog : leasedRuns (w.log ++ [.leased pid request.runsDir request.runId]) =
      leasedRuns w.log ++ [(request.runsDir, request.runId)] := leasedRuns_append ..
  let w₁ := w.emit (.leased pid request.runsDir request.runId)
  show Inv request.runsDir limit (w₁.put pid _)
  refine h.update hp rfl (le_refl _) (fun q qp hq hqp => ?_) ?_ ?_ (fun run hrun => ?_)
    fun e he => ?_
  · refine ⟨⟨fun _ _ => rfl, le_refl _, le_refl _, fun _ file h => ⟨file, h, rfl⟩⟩,
      fun _ _ _ => Iff.rfl, fun run file hfile hcreator hno => ?_⟩
    -- the run's claim was created by the other process
    show (request.runsDir, run) ∉ leasedRuns (w.log ++ _)
    rw [hlog, List.mem_append, List.mem_singleton]
    rintro (hin | hin)
    · exact hno hin
    · obtain ⟨own, hown, hpid⟩ := hcreated
      rw [(Prod.mk.inj hin).2, hown] at hfile
      cases hfile
      exact hq (hcreator.symm.trans hpid)
  · have hold : ∀ lease ∈ p.leases, lease.acquirer = pid → lease.closed = false → False :=
      fun lease hl hpid hopen => by
        rw [hnone lease hl hpid] at hopen
        cases hopen
    refine ⟨hok.files, fun lease hl => ?_, fun lease hl hpid hopen => ?_,
      fun i j lease lease' hi hj hpid hpid' hopen hopen' => ?_,
      fun lease hl hpid hopen fd' hfd' => ?_, trivial⟩
    · rcases List.mem_append.mp hl with hl | hl
      · exact hok.acquirers lease hl
      · rw [List.mem_singleton.mp hl]
        exact h.pids pid p hp
    · rcases List.mem_append.mp hl with hl | hl
      · exact (hold lease hl hpid hopen).elim
      · rw [List.mem_singleton.mp hl]
        exact ⟨rfl, ⟨fd, hreg rfl, rfl, hfile.file, hfile.opener⟩, hlock rfl, hcreated⟩
    · -- the new lease is the only open one of the process
      have hlast : ∀ {k : ℕ} {l : DeploymentLease}, (p.leases ++ [⟨some fd, request.runsDir,
          request.runId, newClaim, false, false, pid, d⟩])[k]? = some l → l.acquirer = pid →
          l.closed = false → k = p.leases.length := by
        intro k l hk hpid hopen
        rcases Nat.lt_trichotomy k p.leases.length with hlt | heq | hgt
        · rw [List.getElem?_append_left hlt] at hk
          exact (hold l (List.mem_of_getElem? hk) hpid hopen).elim
        · exact heq
        · rw [List.getElem?_eq_none (by simp; omega)] at hk
          cases hk
      exact (hlast hi hpid hopen).trans (hlast hj hpid' hopen').symm
    · rcases List.mem_append.mp hl with hl | hl
      · exact .inl ((hok.copied lease hl hpid hopen fd' hfd').resolve_right
          (by rw [htask]; simp))
      · rw [List.mem_singleton.mp hl] at hpid
        exact absurd rfl hpid
  · show (leasedRuns (w.log ++ _)).Nodup
    rw [hlog, List.nodup_append]
    refine ⟨h.once, List.nodup_singleton _, fun a ha b hb => ?_⟩
    rw [List.mem_singleton.mp hb]
    rintro rfl
    exact hleased ha
  · have hin : run ∈ leasedRuns (w.log ++ [.leased pid request.runsDir request.runId]) := hrun
    rw [hlog, List.mem_append, List.mem_singleton] at hin
    rcases hin with hin | rfl
    · exact h.claimed run hin
    · obtain ⟨own, hown, -⟩ := hcreated
      show w.claims request.runsDir request.runId ≠ none
      rw [hown]
      simp
  · rcases List.mem_append.mp he with he | he
    · exact h.sound e he
    · rw [List.mem_singleton.mp he]
      trivial

theorem inv_advanceAcquire (h : Inv runsDir limit w) (hp : w.processes pid = some p)
    {stage : AcquireStage} {request : AcquireRequest} {fd d : ℕ} (outcome : Outcome)
    (htask : p.task = .acquiring stage request fd d) :
    Inv runsDir limit (advanceAcquire limit w pid p stage request fd d outcome) := by
  cases stage with
  | validate => exact inv_goOn h hp outcome htask nofun nofun nofun
  | lock =>
    cases outcome with
    | error message => exact inv_refuse h hp _ htask
    | ok _ =>
      simp only [advanceAcquire, goOn]
      cases hfree : w.locks request.runsDir with
      | none => exact inv_lock h hp htask hfree
      | some d' => exact inv_refuse h hp _ htask
  | register =>
    cases outcome with
    | error message => exact inv_refuse h hp _ htask
    | ok _ => exact inv_register h hp htask
  | payload => exact inv_goOn h hp outcome htask (fun _ => rfl) (fun _ => rfl) nofun
  | claimsDir => exact inv_goOn h hp outcome htask (fun _ => rfl) (fun _ => rfl) nofun
  | createClaim =>
    cases outcome with
    | error message => exact inv_refuse h hp _ htask
    | ok _ =>
      simp only [advanceAcquire, goOn]
      cases hfree : w.claims request.runsDir request.runId with
      | none => exact inv_createClaim h hp htask hfree
      | some file => exact inv_refuse h hp _ htask
  | writeClaim => exact inv_writeClaim h hp outcome _ htask
  | sync =>
    cases outcome with
    | error message => exact inv_refuse h hp _ htask
    | ok _ => exact inv_lease h hp htask

/-! ## Releasing -/

/-- **Unlocking an own description** that no open lease has. -/
theorem inv_unlock (h : Inv runsDir limit w) (hp : w.processes pid = some p)
    (hnot : p.task ≠ .forked) {fd d : ℕ} (hfile : OwnFile runsDir w pid p.files fd d)
    (hapart : Apart pid p d) {task : Task}
    (ht : (w.unlockFile (p.files fd)).locks runsDir ≠ some d →
      TaskOk runsDir (w.unlockFile (p.files fd)) pid p task) :
    Inv runsDir limit ((w.unlockFile (p.files fd)).put pid { p with task := task }) := by
  have hok := h.ok pid p hp
  rw [hfile.file] at ht ⊢
  unfold World.unlockFile at ht ⊢
  by_cases hlock : w.locks runsDir = some d
  · simp only [if_pos hlock] at ht ⊢
    have hlater : Later runsDir w { w with locks := Function.update w.locks runsDir none } :=
      ⟨fun _ _ => rfl, le_refl _, le_refl _, fun _ file h => ⟨file, h, rfl⟩⟩
    have hnone := no_lease_of_apart hok hapart fun d' hd => by
      rw [hlock] at hd
      exact (Option.some.inj hd).symm
    refine h.update hp rfl (le_refl _) (fun q qp hq hqp => ?_) ?_ h.once h.claimed h.sound
    · refine frame_of_locks hq hlater rfl fun d' hd => ?_
      simp only [Function.update_self, hlock, Option.some.injEq, reduceCtorEq, false_iff]
      rintro rfl
      exact hd hfile.opener
    · refine hok.act hnot hlater (fun lease hl hpid hopen => ?_) p.inheritedFds
        (fun _ _ _ _ _ hfd _ => hfd) (ht (by simp))
      rw [hnone lease hl hpid] at hopen
      cases hopen
  · simp only [if_neg hlock] at ht ⊢
    exact h.put hp (hok.setTask hnot (ht hlock))

/-- **Closing an own descriptor** that no open lease has. -/
theorem inv_close (h : Inv runsDir limit w) (hp : w.processes pid = some p)
    (hnot : p.task ≠ .forked) {fd : ℕ}
    (hapart : ∀ dir d, p.files fd = some (.lock dir d) → Apart pid p d) :
    Inv runsDir limit
      ((w.put pid { p.closeFile fd with task := .idle }).dropUnreferenced limit) := by
  have hok := h.ok pid p hp
  have hfiles : ∀ {fd' file}, (p.closeFile fd).files fd' = some file → p.files fd' = some file := by
    intro fd' file hfile
    simp only [Process.closeFile, Function.update_apply] at hfile
    split_ifs at hfile
    exact hfile
  have hclosed : ProcessOk runsDir limit w pid { p.closeFile fd with task := .idle } := ?_
  · exact (h.put hp hclosed).drop
  refine ⟨fun fd' dir d hfile => hok.files fd' dir d (hfiles hfile), hok.acquirers,
    fun lease hl hpid hopen => ?_, hok.single, fun lease hl hpid hopen fd' hfd' => .inl ?_,
    trivial⟩
  · have hlease := hok.own lease hl hpid hopen
    obtain ⟨fd', hreg, hfd', hfile⟩ := hlease.file
    refine ⟨hlease.directory, ⟨fd', hreg, hfd', ?_, hfile.opener⟩, hlease.locked, hlease.claim⟩
    have hne : fd' ≠ fd := by
      rintro rfl
      exact hapart _ _ hfile.file lease hl hpid hopen rfl
    simp only [Process.closeFile, Function.update_of_ne hne]
    exact hfile.file
  · have hfree := (hok.copied lease hl hpid hopen fd' hfd').resolve_right fun hforked =>
      hnot hforked.1
    simp only [Process.closeFile, Function.update_apply]
    split_ifs
    · rfl
    · exact hfree

/-- **Every operation of the handler**: in the end the description has no lock. -/
theorem inv_advanceFail (h : Inv runsDir limit w) (hp : w.processes pid = some p)
    {stage : FailStage} {request : AcquireRequest} {fd d : ℕ} {message : String}
    (htask : p.task = .failing stage request fd d message) :
    Inv runsDir limit (advanceFail limit w pid p stage request fd d message) := by
  have hok := h.ok pid p hp
  have ht := hok.task
  rw [htask] at ht
  obtain ⟨rfl, hfile, hapart, hclosed⟩ := ht
  have hnot : p.task ≠ .forked := by
    rw [htask]
    simp
  cases stage with
  | discard =>
    refine h.put hp (hok.act hnot (.refl _ w)
      (fun lease hl hpid hopen => (hok.own lease hl hpid hopen).locked) _
      (fun lease hl hpid hopen fd' hreg hfd' => ?_) ⟨rfl, hfile, hapart, nofun⟩)
    -- an open lease has another descriptor
    refine List.mem_filter.mpr ⟨hreg, decide_eq_true ?_⟩
    rintro rfl
    obtain ⟨fd, -, hfd, hleased⟩ := (hok.own lease hl hpid hopen).file
    rw [hfd'] at hfd
    cases hfd
    have hsame := hleased.file.symm.trans hfile.file
    rw [Option.some.injEq, OpenFile.lock.injEq] at hsame
    exact hapart lease hl hpid hopen hsame.2
  | unlock =>
    refine inv_unlock h hp hnot hfile hapart fun hlock => ⟨rfl, ⟨hfile.file, ?_⟩, hapart,
      fun _ => hlock⟩
    rw [World.opener_unlockFile]
    exact hfile.opener
  | close =>
    refine (inv_close h hp hnot fun dir d' hd => ?_).emit ?_ rfl
    · rw [hfile.file] at hd
      cases hd
      exact hapart
    · have hlock := hclosed rfl
      show decide (_ = some d) = false
      rw [decide_eq_false_iff_not]
      unfold World.dropUnreferenced
      simp only [Option.filter_eq_some_iff]
      exact fun hin => hlock hin.1

/-! ## Using and leaving -/

theorem inv_replaceRaised (h : Inv runsDir limit w) (hp : w.processes pid = some p)
    (hnot : p.task ≠ .forked) (index : ℕ) (purpose : Purpose) (message : String) :
    Inv runsDir limit (replaceRaised w pid p index purpose message) := by
  have hok := h.ok pid p hp
  have hidle : ProcessOk runsDir limit w pid { p with task := .idle } := hok.setTask hnot trivial
  cases purpose with
  | phase => exact (h.put hp hidle).emit trivial rfl
  | terminal => exact (h.put hp hidle).emit trivial rfl
  | leaving normal => exact h.put hp (hok.setTask hnot trivial)

/-- **A lease changes** in the memory of its process, without becoming open. -/
theorem ProcessOk.setLease (h : ProcessOk runsDir limit w pid p) (hnot : p.task ≠ .forked)
    {index : ℕ} {lease lease' : DeploymentLease} (hlease : p.leases[index]? = some lease)
    (hacquirer : lease'.acquirer = lease.acquirer)
    (hopen : lease'.closed = false → lease.closed = false ∧ lease'.descriptor = lease.descriptor ∧
      lease'.description = lease.description ∧ lease'.runsDir = lease.runsDir ∧
      lease'.runId = lease.runId)
    (inherited : List ℕ) (hinherited : ∀ l ∈ p.leases.set index lease', l.acquirer = pid →
      l.closed = false → ∀ fd ∈ p.inheritedFds, l.descriptor = some fd → fd ∈ inherited)
    {task : Task} (ht : TaskOk runsDir w pid
      { p with leases := p.leases.set index lease', inheritedFds := inherited } task) :
    ProcessOk runsDir limit w pid { p with
      leases := p.leases.set index lease', inheritedFds := inherited, task := task } := by
  have hmem : lease ∈ p.leases := List.mem_of_getElem? hlease
  refine ⟨h.files, fun l hl => ?_, fun l hl hpid hlopen => ?_,
    fun i j l l' hi hj hpid hpid' hlopen hlopen' => ?_, fun l hl hpid hlopen fd hfd => .inl ?_, ?_⟩
  · rcases List.mem_or_eq_of_mem_set hl with hl | rfl
    · exact h.acquirers l hl
    · rw [hacquirer]
      exact h.acquirers lease hmem
  · rcases List.mem_or_eq_of_mem_set hl with hin | rfl
    · have hok := h.own l hin hpid hlopen
      obtain ⟨fd, hreg, hfd, hfile⟩ := hok.file
      exact ⟨hok.directory, ⟨fd, hinherited l hl hpid hlopen fd hreg hfd, hfd, hfile⟩, hok.locked,
        hok.claim⟩
    · obtain ⟨hlease', hdescriptor, hdescription, hdirectory, hrun⟩ := hopen hlopen
      have hok := h.own lease hmem (hacquirer.symm.trans hpid) hlease'
      obtain ⟨fd, hreg, hfd, hfile⟩ := hok.file
      refine ⟨hdirectory.trans hok.directory, ⟨fd, hinherited _ hl hpid hlopen fd hreg
        (hdescriptor.trans hfd), hdescriptor.trans hfd, ?_⟩, ?_, ?_⟩
      · rw [hdescription]
        exact hfile
      · rw [hdescription]
        exact hok.locked
      · rw [hrun]
        exact hok.claim
  · have hold : ∀ {k : ℕ} {l : DeploymentLease}, (p.leases.set index lease')[k]? = some l →
        l.acquirer = pid → l.closed = false → ∃ l₀, p.leases[k]? = some l₀ ∧
          l₀.acquirer = pid ∧ l₀.closed = false := by
      intro k l hk hpid hlopen
      by_cases hkey : index = k
      · subst hkey
        rw [List.getElem?_set_self' , hlease] at hk
        obtain rfl : lease' = l := by simpa using hk
        exact ⟨lease, hlease, hacquirer.symm.trans hpid, (hopen hlopen).1⟩
      · rw [List.getElem?_set_ne hkey] at hk
        exact ⟨l, hk, hpid, hlopen⟩
    obtain ⟨l₀, hi₀, hpid₀, hopen₀⟩ := hold hi hpid hlopen
    obtain ⟨l₁, hj₁, hpid₁, hopen₁⟩ := hold hj hpid' hlopen'
    exact h.single i j l₀ l₁ hi₀ hj₁ hpid₀ hpid₁ hopen₀ hopen₁
  · rcases List.mem_or_eq_of_mem_set hl with hin | rfl
    · exact (h.copied l hin hpid hlopen fd hfd).resolve_right fun hforked => hnot hforked.1
    · obtain ⟨hlease', hdescriptor, -⟩ := hopen hlopen
      exact (h.copied lease hmem (fun hown => hpid (hacquirer.trans hown)) hlease' fd
        (hdescriptor ▸ hfd)).resolve_right fun hforked => hnot hforked.1
  · cases task <;> exact ht

/-- **Every operation of `_replace_claim`**: the claim is replaced by its creator, under the
lock. -/
theorem inv_advanceReplace (h : Inv runsDir limit w) (hp : w.processes pid = some p)
    {stage : ReplaceStage} {index : ℕ} {lease : DeploymentLease} {claim : Claim}
    {purpose : Purpose} (outcome : Outcome) (htask : p.task = .replacing stage index claim purpose)
    (hlease : p.leases[index]? = some lease) :
    Inv runsDir limit (advanceReplace limit w pid p stage index lease claim purpose outcome) := by
  have hok := h.ok pid p hp
  have ht := hok.task
  have hnot : p.task ≠ .forked := by
    rw [htask]
    simp
  have hmem : lease ∈ p.leases := List.mem_of_getElem? hlease
  rw [htask] at ht
  -- past its check an operation is on an open lease of the process itself
  have hown : stage ≠ .check → lease.acquirer = pid ∧ lease.closed = false := by
    intro hstage
    obtain ⟨lease', hlease', hown⟩ := ht hstage
    rw [hlease] at hlease'
    cases hlease'
    exact hown
  cases stage with
  | check =>
    simp only [advanceReplace]
    cases hactive : p.assertActive lease with
    | error message => exact inv_replaceRaised h hp hnot index purpose message
    | ok _ =>
      have hopen : lease.closed = false ∧ ∃ fd, lease.descriptor = some fd ∧
          p.files fd ≠ none := by
        unfold Process.assertActive at hactive
        split at hactive
        · rename_i fd hclosed hdescriptor
          refine ⟨hclosed, fd, hdescriptor, fun hnone => ?_⟩
          rw [hnone] at hactive
          cases hactive
        · cases hactive
      obtain ⟨hclosed, fd, hdescriptor, hfile⟩ := hopen
      have hacquirer : lease.acquirer = pid := by
        by_contra hother
        rcases hok.copied lease hmem hother hclosed fd hdescriptor with hnone | hforked
        · exact hfile hnone
        · exact hnot hforked.1
      exact h.put hp (hok.setTask hnot fun _ => ⟨lease, hlease, hacquirer, hclosed⟩)
  | temporary =>
    cases outcome with
    | error message => exact inv_replaceRaised h hp hnot index purpose message
    | ok _ => exact h.put hp (hok.setTask hnot fun _ => ⟨lease, hlease, hown nofun⟩)
  | replace =>
    cases outcome with
    | error message => exact inv_replaceRaised h hp hnot index purpose message
    | ok _ =>
      obtain ⟨hacquirer, hopen⟩ := hown nofun
      have hleaseOk := hok.own lease hmem hacquirer hopen
      obtain ⟨fd, -, -, hfile⟩ := hleaseOk.file
      obtain ⟨old, hold, hcreator⟩ := hleaseOk.claim
      have hholds := holds_of_own h hp hfile hleaseOk.locked
      simp only [advanceReplace, hleaseOk.directory, hold, Option.map_some, hcreator,
        Option.getD_some]
      have hlater : Later runsDir w
          (w.setClaim runsDir lease.runId (some ⟨pid, some claim⟩)) :=
        later_setClaim fun old' hold' => by
          rw [hold] at hold'
          cases hold'
          exact ⟨_, rfl, hcreator.symm⟩
      have hreplaced : Inv runsDir limit ((w.setClaim runsDir lease.runId
          (some ⟨pid, some claim⟩)).put pid
            { p with task := .replacing .sync index claim purpose }) := ?_
      · exact hreplaced.emit ⟨rfl, hholds⟩ rfl
      refine h.update hp rfl (le_refl _) (fun q qp hq hqp => ?_) ?_ h.once
        (fun run hrun => claimed_setClaim (h.claimed run hrun)) h.sound
      · exact frame_of_locks hq hlater rfl fun _ _ => Iff.rfl
      · exact hok.act hnot hlater
          (fun lease hl hpid hopen => (hok.own lease hl hpid hopen).locked) p.inheritedFds
          (fun _ _ _ _ _ hfd _ => hfd) fun _ => ⟨lease, hlease, hacquirer, hopen⟩
  | sync =>
    cases outcome with
    | error message => exact inv_replaceRaised h hp hnot index purpose message
    | ok _ =>
      have hset : ∀ {task : Task}, TaskOk runsDir w pid
          { p with leases := p.leases.set index (lease.replaced claim purpose) } task →
          ProcessOk runsDir limit w pid { p with
            leases := p.leases.set index (lease.replaced claim purpose), task := task } := by
        intro task ht
        refine hok.setLease hnot hlease ?_ ?_ p.inheritedFds ?_ ht
        · rfl
        · exact fun hopen => ⟨hopen, rfl, rfl, rfl, rfl⟩
        · exact fun _ _ _ _ _ hfd _ => hfd
      cases purpose with
      | phase => exact h.put hp (hset trivial)
      | terminal => exact h.put hp (hset trivial)
      | leaving normal => exact h.put hp (hset trivial)

theorem inv_finishExit (h : Inv runsDir limit w) (pid : Pid) (error : Option String) :
    Inv runsDir limit (finishExit w pid error) := by
  cases error with
  | none => exact h
  | some message => exact h.emit trivial rfl

/-- **The begin of `_release`**: the lease is closed before its lock is released. -/
theorem inv_advanceLeave (h : Inv runsDir limit w) (hp : w.processes pid = some p)
    {index : ℕ} {lease : DeploymentLease} {error : Option String}
    (hnot : p.task ≠ .forked) (hlease : p.leases[index]? = some lease) :
    Inv runsDir limit (advanceLeave w pid p index lease error) := by
  have hok := h.ok pid p hp
  have hmem : lease ∈ p.leases := List.mem_of_getElem? hlease
  have hidle : ProcessOk runsDir limit w pid { p with task := .idle } := hok.setTask hnot trivial
  unfold advanceLeave
  by_cases hclosed : lease.closed = true
  · rw [if_pos hclosed]
    exact inv_finishExit (h.put hp hidle) pid error
  rw [if_neg hclosed]
  have hopen : lease.closed = false := by simpa using hclosed
  cases hdescriptor : lease.descriptor with
  | none =>
    have hset : ProcessOk runsDir limit w pid { p with
        leases := p.leases.set index { lease with descriptor := none, closed := true }
        task := .idle } := by
      refine hok.setLease hnot hlease ?_ ?_ p.inheritedFds ?_ trivial
      · rfl
      · exact nofun
      · exact fun _ _ _ _ _ hfd _ => hfd
    exact (h.put hp hset).emit trivial rfl
  | some fd =>
    simp only []
    -- the other leases of the process are closed or copied, so none is open at this number
    have hother : ∀ l ∈ p.leases.set index { lease with descriptor := none, closed := true },
        l.acquirer = pid → l.closed = false → lease.acquirer ≠ pid ∧ l ∈ p.leases := by
      intro l hl hpid hlopen
      rcases List.mem_or_eq_of_mem_set hl with hin | rfl
      · refine ⟨fun hown => ?_, hin⟩
        obtain ⟨k, hk⟩ := List.mem_iff_getElem?.mp hl
        by_cases hkey : index = k
        · subst hkey
          rw [List.getElem?_set_self', hlease] at hk
          obtain rfl : _ = l := by simpa using hk
          cases hlopen
        · rw [List.getElem?_set_ne hkey] at hk
          exact hkey (hok.single index k lease l hlease hk hown hpid hopen hlopen)
      · cases hlopen
    refine h.put hp (hok.setLease hnot hlease ?_ ?_ _ ?_ ?_)
    · rfl
    · exact nofun
    · intro l hl hpid hlopen fd' hreg hfd'
      obtain ⟨hcopied, hin⟩ := hother l hl hpid hlopen
      refine List.mem_filter.mpr ⟨hreg, decide_eq_true ?_⟩
      rintro rfl
      obtain ⟨fd, -, hfd, hfile⟩ := (hok.own l hin hpid hlopen).file
      rw [hfd'] at hfd
      cases hfd
      rcases hok.copied lease hmem hcopied hopen _ hdescriptor with hnone | hforked
      · rw [hfile.file] at hnone
        cases hnone
      · exact hnot hforked.1
    · intro dir d hfile
      by_cases hown : lease.acquirer = pid
      · have hleaseOk := hok.own lease hmem hown hopen
        obtain ⟨fd', -, hfd', hfile'⟩ := hleaseOk.file
        rw [hdescriptor] at hfd'
        cases hfd'
        have hsame := hfile'.file.symm.trans hfile
        rw [Option.some.injEq, OpenFile.lock.injEq] at hsame
        rw [← hsame.2]
        refine ⟨hfile'.opener, fun l hl hpid hlopen => ?_⟩
        exact absurd hown (hother l hl hpid hlopen).1
      · rcases hok.copied lease hmem hown hopen _ hdescriptor with hnone | hforked
        · have hnone' : p.files fd = some (.lock dir d) := hfile
          rw [hnone] at hnone'
          cases hnone'
        · exact absurd hforked.1 hnot

theorem inv_advanceUnlock (h : Inv runsDir limit w) (hp : w.processes pid = some p) {fd : ℕ}
    {error : Option String} (htask : p.task = .unlocking fd error) :
    Inv runsDir limit (advanceUnlock w pid p fd error) := by
  have hok := h.ok pid p hp
  have ht := hok.task
  have hnot : p.task ≠ .forked := by
    rw [htask]
    simp
  rw [htask] at ht
  have hidle : ProcessOk runsDir limit w pid { p with task := .idle } := hok.setTask hnot trivial
  have hclosing : TaskOk runsDir w pid p (.closing fd error) := ht
  unfold advanceUnlock
  cases hfile : p.files fd with
  | none => exact (h.put hp hidle).emit trivial rfl
  | some file =>
    simp only []
    cases file with
    | other owned => exact h.put hp (hok.setTask hnot hclosing)
    | lock dir d =>
      obtain ⟨hopener, hapart⟩ := ht dir d hfile
      obtain rfl : dir = runsDir := (hok.files _ _ _ hfile).2.2
      rw [← hfile]
      refine inv_unlock h hp hnot ⟨hfile, hopener⟩ hapart fun _ dir' d' hfile' => ?_
      rw [World.opener_unlockFile]
      exact ht dir' d' hfile'

theorem inv_advanceClose (h : Inv runsDir limit w) (hp : w.processes pid = some p) {fd : ℕ}
    {error : Option String} (htask : p.task = .closing fd error) :
    Inv runsDir limit (advanceClose limit w pid p fd error) := by
  have ht := (h.ok pid p hp).task
  have hnot : p.task ≠ .forked := by
    rw [htask]
    simp
  rw [htask] at ht
  exact inv_finishExit (inv_close h hp hnot fun dir d hfile => (ht dir d hfile).2) pid error

/-! ## Processes -/

/-- **A lock file is opened**, at a number of no copied lease. -/
theorem inv_openLock (h : Inv runsDir limit w) (hp : w.processes pid = some p)
    {request : AcquireRequest} {fd : ℕ} (htask : p.task = .opening request)
    (hfree : p.files fd = none) (hlimit : fd < limit) (hnumber : FreeNumber pid p fd) :
    Inv runsDir limit ({ w with
      nextDescription := w.nextDescription + 1
      opener := Function.update w.opener w.nextDescription pid }.put pid
      { p.openFile fd (.lock request.runsDir w.nextDescription) with
        task := .acquiring .validate request fd w.nextDescription }) := by
  have hok := h.ok pid p hp
  have ht := hok.task
  rw [htask] at ht
  obtain rfl : request.runsDir = runsDir := ht
  have hlater : Later request.runsDir w { w with
      nextDescription := w.nextDescription + 1
      opener := Function.update w.opener w.nextDescription pid } :=
    ⟨fun d hd => Function.update_of_ne (by omega) .., by simp, le_refl _,
      fun _ file hfile => ⟨file, hfile, rfl⟩⟩
  have hold : ∀ {fd'}, p.files fd' ≠ none →
      (p.openFile fd (.lock request.runsDir w.nextDescription)).files fd' = p.files fd' := by
    intro fd' hsome
    have hne : fd' ≠ fd := by
      rintro rfl
      exact hsome hfree
    simp only [Process.openFile, Function.update_of_ne hne]
  refine h.update hp rfl (le_refl _) (fun q qp hq hqp => ⟨hlater, fun _ _ _ => Iff.rfl,
    fun _ _ _ _ h => h⟩) ?_ h.once h.claimed h.sound
  refine ⟨fun fd' dir d hfile => ?_, hok.acquirers, fun lease hl hpid hopen => ?_, hok.single,
    fun lease hl hpid hopen fd' hfd' => .inl ?_, ?_⟩
  · by_cases hne : fd' = fd
    · subst hne
      simp only [Process.openFile, Function.update_self, Option.some.injEq,
        OpenFile.lock.injEq] at hfile
      obtain ⟨rfl, rfl⟩ := hfile
      exact ⟨Nat.lt_succ_self _, hlimit, rfl⟩
    · simp only [Process.openFile, Function.update_of_ne hne] at hfile
      obtain ⟨hd, hrest⟩ := hok.files fd' dir d hfile
      exact ⟨Nat.lt_succ_of_lt hd, hrest⟩
  · have hlease := (hok.own lease hl hpid hopen).later hok hlater
      (hok.own lease hl hpid hopen).locked
    obtain ⟨fd', hreg, hfd', hfile⟩ := hlease.file
    refine ⟨hlease.directory, ⟨fd', hreg, hfd', ?_, hfile.opener⟩, hlease.locked, hlease.claim⟩
    exact (hold (by rw [hfile.file]; simp)).trans hfile.file
  · have hfile := (hok.copied lease hl hpid hopen fd' hfd').resolve_right (by rw [htask]; simp)
    have hne : fd' ≠ fd := by
      rintro rfl
      exact hnumber lease hl hpid hopen hfd'
    simp only [Process.openFile, Function.update_of_ne hne]
    exact hfile
  · refine ⟨rfl, ⟨?_, Function.update_self ..⟩, fun lease hl hpid hopen => ?_, nofun, nofun, nofun⟩
    · simp only [Process.openFile, Function.update_self]
    · -- the description is new
      obtain ⟨fd', -, -, hfile⟩ := (hok.own lease hl hpid hopen).file
      have := (hok.files _ _ _ hfile.file).1
      omega

/-- **Files that are not lock files** are opened and closed, at numbers of no copied lease. -/
theorem inv_otherFile (h : Inv runsDir limit w) (hp : w.processes pid = some p)
    (hnot : p.task ≠ .forked) {fd : ℕ} {file : Option OpenFile}
    (hbefore : ∀ dir d, p.files fd ≠ some (.lock dir d)) (hafter : ∀ dir d,
      file ≠ some (.lock dir d)) (hnumber : file = none ∨ FreeNumber pid p fd) :
    Inv runsDir limit (w.put pid { p with files := Function.update p.files fd file }) := by
  have hok := h.ok pid p hp
  have hlocks : ∀ {fd' dir d}, Function.update p.files fd file fd' = some (.lock dir d) ↔
      p.files fd' = some (.lock dir d) := by
    intro fd' dir d
    by_cases hne : fd' = fd
    · subst hne
      rw [Function.update_self]
      exact ⟨fun h => absurd h (hafter dir d), fun h => absurd h (hbefore dir d)⟩
    · rw [Function.update_of_ne hne]
  refine h.put hp ⟨fun fd' dir d hfile => hok.files fd' dir d (hlocks.mp hfile), hok.acquirers,
    fun lease hl hpid hopen => ?_, hok.single, fun lease hl hpid hopen fd' hfd' => .inl ?_, ?_⟩
  · have hlease := hok.own lease hl hpid hopen
    obtain ⟨fd', hreg, hfd', hfile⟩ := hlease.file
    exact ⟨hlease.directory, ⟨fd', hreg, hfd', hlocks.mpr hfile.file, hfile.opener⟩,
      hlease.locked, hlease.claim⟩
  · have hfree := (hok.copied lease hl hpid hopen fd' hfd').resolve_right fun hforked =>
      hnot hforked.1
    show Function.update p.files fd file fd' = none
    by_cases hne : fd' = fd
    · subst hne
      rw [Function.update_self]
      exact hnumber.resolve_right fun hfree => hfree lease hl hpid hopen hfd'
    · rw [Function.update_of_ne hne]
      exact hfree
  · have ht := hok.task
    show TaskOk runsDir w pid _ p.task
    cases htask : p.task with
    | idle => trivial
    | forked => exact absurd htask hnot
    | leaving index error => trivial
    | opening request =>
      rw [htask] at ht
      exact ht
    | acquiring stage request fd' d =>
      rw [htask] at ht
      obtain ⟨hdir, hfile, hrest⟩ := ht
      exact ⟨hdir, ⟨hlocks.mpr hfile.file, hfile.opener⟩, hrest⟩
    | failing stage request fd' d message =>
      rw [htask] at ht
      obtain ⟨hdir, hfile, hrest⟩ := ht
      exact ⟨hdir, ⟨hlocks.mpr hfile.file, hfile.opener⟩, hrest⟩
    | replacing stage index claim purpose =>
      rw [htask] at ht
      exact ht
    | unlocking fd' error =>
      rw [htask] at ht
      exact fun dir d hfile => ht dir d (hlocks.mp hfile)
    | closing fd' error =>
      rw [htask] at ht
      exact fun dir d hfile => ht dir d (hlocks.mp hfile)

theorem Inv.spawn (h : Inv runsDir limit w)
    (hok : ProcessOk runsDir limit { w with nextPid := w.nextPid + 1 } w.nextPid p') :
    Inv runsDir limit ({ w with nextPid := w.nextPid + 1 }.put w.nextPid p') := by
  refine ⟨fun q qp hq => ?_, fun q qp hq => ?_, h.once, h.claimed, h.sound⟩
  · by_cases hself : q = w.nextPid
    · subst hself
      exact Nat.lt_succ_self _
    · simp only [World.put, Function.update_of_ne hself] at hq
      exact Nat.lt_succ_of_lt (h.pids q qp hq)
  · by_cases hself : q = w.nextPid
    · subst hself
      simp only [World.put, Function.update_self, Option.some.injEq] at hq
      subst hq
      exact hok.frame ⟨⟨fun _ _ => rfl, le_refl _, le_refl _, fun _ file h => ⟨file, h, rfl⟩⟩,
        fun _ _ _ => Iff.rfl, fun _ _ _ _ h => h⟩
    · simp only [World.put, Function.update_of_ne hself] at hq
      exact (h.ok q qp hq).frame ⟨⟨fun _ _ => rfl, le_refl _, Nat.le_succ _,
        fun _ file h => ⟨file, h, rfl⟩⟩, fun _ _ _ => Iff.rfl, fun _ _ _ _ h => h⟩

/-- **A fork**: the child's copies of open leases have registered numbers, or none. -/
theorem inv_fork (h : Inv runsDir limit w) (hp : w.processes pid = some p)
    (hnot : p.task ≠ .forked) :
    Inv runsDir limit ({ w with nextPid := w.nextPid + 1 }.put w.nextPid p.child) := by
  have hok := h.ok pid p hp
  have hother : ∀ lease ∈ p.leases, lease.acquirer ≠ w.nextPid := fun lease hl =>
    Nat.ne_of_lt (hok.acquirers lease hl)
  refine h.spawn ⟨hok.files, fun lease hl => Nat.lt_succ_of_lt (hok.acquirers lease hl),
    fun lease hl hpid => absurd hpid (hother lease hl), fun i j lease _ hi _ hpid => ?_,
    fun lease hl _ hopen fd hfd => ?_, hother⟩
  · exact absurd hpid (hother lease (List.mem_of_getElem? hi))
  · by_cases hown : lease.acquirer = pid
    · obtain ⟨fd', hreg, hfd', -⟩ := (hok.own lease hl hown hopen).file
      rw [hfd] at hfd'
      cases hfd'
      exact .inr ⟨rfl, hreg⟩
    · exact .inl ((hok.copied lease hl hown hopen fd hfd).resolve_right fun hforked =>
        hnot hforked.1)

/-- **The hook after a fork**: copied leases lose their descriptor. -/
theorem inv_closeInherited (h : Inv runsDir limit w) (hp : w.processes pid = some p)
    (htask : p.task = .forked) :
    Inv runsDir limit ((w.put pid p.closeInherited).dropUnreferenced limit) := by
  have hok := h.ok pid p hp
  have hother := hok.task
  rw [htask] at hother
  have hclosed : ProcessOk runsDir limit w pid p.closeInherited := ?_
  · exact (h.put hp hclosed).drop
  refine ⟨fun fd dir d hfile => ?_, hok.acquirers, fun lease hl hpid => absurd hpid (hother lease hl),
    hok.single, fun lease hl hpid hopen fd hfd => .inl ?_, trivial⟩
  · simp only [Process.closeInherited] at hfile
    split_ifs at hfile
    exact hok.files fd dir d hfile
  · simp only [Process.closeInherited]
    rcases hok.copied lease hl hpid hopen fd hfd with hfree | ⟨-, hreg⟩
    · rw [hfree, ite_self]
    · rw [if_pos hreg]

theorem inv_crash (h : Inv runsDir limit w) (pid : Pid) :
    Inv runsDir limit
      ({ w with processes := Function.update w.processes pid none }.dropUnreferenced limit) := by
  have hliving : ∀ {q qp}, Function.update w.processes pid none q = some qp →
      w.processes q = some qp := by
    intro q qp hq
    by_cases hself : q = pid
    · subst hself
      rw [Function.update_self] at hq
      cases hq
    · rwa [Function.update_of_ne hself] at hq
  have hgone : Inv runsDir limit
      { w with processes := Function.update w.processes pid none } :=
    ⟨fun q qp hq => h.pids q qp (hliving hq), fun q qp hq => (h.ok q qp (hliving hq)).frame
      ⟨⟨fun _ _ => rfl, le_refl _, le_refl _, fun _ file h => ⟨file, h, rfl⟩⟩,
        fun _ _ _ => Iff.rfl, fun _ _ _ _ h => h⟩, h.once, h.claimed, h.sound⟩
  exact hgone.drop

/-! ## Steps and runs -/

theorem inv_advance (h : Inv runsDir limit w) (hp : w.processes pid = some p) {outcome : Outcome}
    {fd : ℕ} (hnumber : FreeNumber pid p fd) (hstep : advance limit w pid p outcome fd = some w') :
    Inv runsDir limit w' := by
  unfold advance at hstep
  cases htask : p.task with
  | idle =>
    simp only [htask] at hstep
    cases hstep
  | forked =>
    simp only [htask, Option.some.injEq] at hstep
    subst hstep
    exact inv_closeInherited h hp htask
  | opening request =>
    simp only [htask] at hstep
    cases outcome with
    | error message =>
      have hidle : ProcessOk runsDir limit w pid { p with task := .idle } :=
        (h.ok pid p hp).setTask (by rw [htask]; simp) trivial
      simp only [Option.some.injEq] at hstep
      subst hstep
      exact (h.put hp hidle).emit trivial rfl
    | ok _ =>
      simp only [Option.ite_none_right_eq_some, Option.some.injEq] at hstep
      obtain ⟨⟨hfree, hlimit⟩, rfl⟩ := hstep
      exact inv_openLock h hp htask hfree hlimit hnumber
  | acquiring stage request fd' d =>
    simp only [htask, Option.some.injEq] at hstep
    subst hstep
    exact inv_advanceAcquire h hp outcome htask
  | failing stage request fd' d message =>
    simp only [htask, Option.some.injEq] at hstep
    subst hstep
    exact inv_advanceFail h hp htask
  | replacing stage index claim purpose =>
    simp only [htask, Option.map_eq_some_iff] at hstep
    obtain ⟨lease, hlease, rfl⟩ := hstep
    exact inv_advanceReplace h hp outcome htask hlease
  | leaving index error =>
    simp only [htask, Option.map_eq_some_iff] at hstep
    obtain ⟨lease, hlease, rfl⟩ := hstep
    exact inv_advanceLeave h hp (by rw [htask]; simp) hlease
  | unlocking fd' error =>
    simp only [htask, Option.some.injEq] at hstep
    subst hstep
    exact inv_advanceUnlock h hp htask
  | closing fd' error =>
    simp only [htask, Option.some.injEq] at hstep
    subst hstep
    exact inv_advanceClose h hp htask

theorem inv_begin (h : Inv runsDir limit w) (hp : w.processes pid = some p)
    (hidle : p.task = .idle) {task : Task} (ht : TaskOk runsDir w pid p task) :
    Inv runsDir limit (w.put pid { p with task := task }) :=
  h.put hp ((h.ok pid p hp).setTask (by rw [hidle]; simp) ht)

theorem inv_step {action : Action} (h : Inv runsDir limit w)
    (hdirectory : OneDirectory runsDir action) (hreuse : NoReuse w action)
    (hstep : step limit w action = some w') : Inv runsDir limit w' := by
  unfold step at hstep
  cases action with
  | start =>
    simp only [Action.actor, Option.some.injEq] at hstep
    subst hstep
    refine h.spawn ⟨fun _ _ _ hfd => ?_, fun lease hl => absurd hl List.not_mem_nil,
      fun lease hl => absurd hl List.not_mem_nil, fun _ _ _ _ hi => ?_,
      fun lease hl => absurd hl List.not_mem_nil, trivial⟩
    · cases hfd
    · cases hi
  | fork pid =>
    simp only [Action.actor, Option.bind_eq_some_iff] at hstep
    obtain ⟨p, hp, hstep⟩ := hstep
    simp only [processStep, Option.ite_none_left_eq_some, Option.some.injEq] at hstep
    obtain ⟨hnot, rfl⟩ := hstep
    exact inv_fork h hp hnot
  | crash pid =>
    simp only [Action.actor, Option.bind_eq_some_iff] at hstep
    obtain ⟨p, -, hstep⟩ := hstep
    simp only [processStep, Option.some.injEq] at hstep
    subst hstep
    exact inv_crash h pid
  | openFile pid fd owned =>
    simp only [Action.actor, Option.bind_eq_some_iff] at hstep
    obtain ⟨p, hp, hstep⟩ := hstep
    simp only [processStep, Option.ite_none_right_eq_some, Option.some.injEq] at hstep
    obtain ⟨⟨hnot, hfree, -⟩, rfl⟩ := hstep
    exact inv_otherFile h hp hnot (by simp [hfree]) (by simp) (.inr (hreuse p hp))
  | closeFile pid fd =>
    simp only [Action.actor, Option.bind_eq_some_iff] at hstep
    obtain ⟨p, hp, hstep⟩ := hstep
    simp only [processStep, Option.ite_none_right_eq_some, Option.some.injEq] at hstep
    obtain ⟨⟨hnot, hfile⟩, rfl⟩ := hstep
    refine inv_otherFile h hp hnot (fun dir d hlock => ?_) (by simp) (.inl rfl)
    rw [hlock] at hfile
    simp at hfile
  | acquire pid request =>
    simp only [Action.actor, Option.bind_eq_some_iff] at hstep
    obtain ⟨p, hp, hstep⟩ := hstep
    simp only [processStep, Option.ite_none_left_eq_some] at hstep
    obtain ⟨hidle, hstep⟩ := hstep
    cases hcheck : request.check with
    | error message =>
      simp only [hcheck, Option.some.injEq] at hstep
      subst hstep
      exact h.emit trivial rfl
    | ok _ =>
      simp only [hcheck, Option.some.injEq] at hstep
      subst hstep
      exact inv_begin h hp (not_not.mp hidle) hdirectory
  | markPhase pid index phase =>
    simp only [Action.actor, Option.bind_eq_some_iff] at hstep
    obtain ⟨p, hp, hstep⟩ := hstep
    simp only [processStep, Option.ite_none_left_eq_some, Option.map_eq_some_iff] at hstep
    obtain ⟨hidle, lease, -, rfl⟩ := hstep
    split_ifs
    · exact h.emit trivial rfl
    · exact inv_begin h hp (not_not.mp hidle) (fun hne => absurd rfl hne)
  | finalize pid index result error =>
    simp only [Action.actor, Option.bind_eq_some_iff] at hstep
    obtain ⟨p, hp, hstep⟩ := hstep
    simp only [processStep, Option.ite_none_left_eq_some, Option.map_eq_some_iff] at hstep
    obtain ⟨hidle, lease, -, rfl⟩ := hstep
    split_ifs
    · exact h.emit trivial rfl
    · exact inv_begin h hp (not_not.mp hidle) (fun hne => absurd rfl hne)
  | exit pid index exception =>
    simp only [Action.actor, Option.bind_eq_some_iff] at hstep
    obtain ⟨p, hp, hstep⟩ := hstep
    simp only [processStep, Option.ite_none_left_eq_some, Option.map_eq_some_iff] at hstep
    obtain ⟨hidle, lease, -, rfl⟩ := hstep
    unfold beginExit
    split_ifs
    · exact inv_begin h hp (not_not.mp hidle) trivial
    · exact inv_begin h hp (not_not.mp hidle) (fun hne => absurd rfl hne)
  | advance pid outcome fd =>
    simp only [Action.actor, Option.bind_eq_some_iff] at hstep
    obtain ⟨p, hp, hstep⟩ := hstep
    exact inv_advance h hp (hreuse p hp) hstep

theorem inv_initial (runsDir : String) (limit : ℕ) : Inv runsDir limit .initial := by
  refine ⟨fun _ _ hp => ?_, fun _ _ hp => ?_, .nil, fun run hrun => absurd hrun List.not_mem_nil,
    fun event hevent => absurd hevent List.not_mem_nil⟩
  · cases hp
  · cases hp

theorem inv_run {actions : List Action} (h : Inv runsDir limit w)
    (hproper : AlongActions limit (fun w action => OneDirectory runsDir action ∧ NoReuse w action)
      w actions) (hrun : performActions limit w actions = some w') : Inv runsDir limit w' := by
  induction actions generalizing w with
  | nil =>
    cases hrun
    exact h
  | cons action actions ih =>
    obtain ⟨⟨hdirectory, hreuse⟩, hrest⟩ := hproper
    simp only [performActions, Option.bind_eq_some_iff] at hrun
    obtain ⟨w₁, hstep, hrun⟩ := hrun
    exact ih (inv_step h hdirectory hreuse hstep) (hrest w₁ hstep) hrun

/-- **An active lease is the process's own**, and has the lock. -/
theorem locked_of_active (h : Inv runsDir limit w) (hactive : w.activeIn pid = true) :
    ∃ d, w.locks runsDir = some d ∧ w.opener d = pid := by
  unfold World.activeIn at hactive
  cases hp : w.processes pid with
  | none => simp [hp] at hactive
  | some p =>
    have hok := h.ok pid p hp
    simp only [hp, Bool.and_eq_true, decide_eq_true_eq, List.any_eq_true] at hactive
    obtain ⟨hnot, lease, hl, hactive⟩ := hactive
    unfold Process.active Process.assertActive at hactive
    cases hopen : lease.closed with
    | true => simp [hopen] at hactive
    | false =>
      cases hdescriptor : lease.descriptor with
      | none => simp [hopen, hdescriptor] at hactive
      | some fd =>
        by_cases hown : lease.acquirer = pid
        · have hlease := hok.own lease hl hown hopen
          obtain ⟨fd', -, -, hfile⟩ := hlease.file
          exact ⟨lease.description, hlease.locked, hfile.opener⟩
        · have hfree := (hok.copied lease hl hown hopen fd hdescriptor).resolve_right
            fun hforked => hnot hforked.1
          simp [hopen, hdescriptor, hfree] at hactive

/-- **The deployment lease is exclusive** in every run with one runs directory in which no file is
opened on the number of a lease copied by a fork. -/
theorem lease_exclusive (runsDir : String) (limit : ℕ) (actions : List Action) (w : World)
    (hproper : AlongActions limit (fun w action => OneDirectory runsDir action ∧ NoReuse w action)
      .initial actions) (hrun : performActions limit .initial actions = some w) : Exclusive w := by
  have h := inv_run (inv_initial runsDir limit) hproper hrun
  refine ⟨fun pid pid' hactive hactive' => ?_, h.once, h.sound⟩
  obtain ⟨d, hlock, hopener⟩ := locked_of_active h hactive
  obtain ⟨d', hlock', hopener'⟩ := locked_of_active h hactive'
  rw [hlock] at hlock'
  cases hlock'
  exact hopener.symm.trans hopener'

/-! ## A bench -/

namespace Bench

def request (runsDir runId : String) : AcquireRequest :=
  ⟨runId, runsDir, runsDir, String.ofList (List.replicate 64 'a')⟩

def operations (pid : Pid) (fd count : ℕ) : List Action :=
  List.replicate count (.advance pid (.ok ()) fd)

def acquires (pid : Pid) (fd : ℕ) (runsDir runId : String) : List Action :=
  .acquire pid (request runsDir runId) :: operations pid fd 9

/-- A process with a lease forks; the child opens a file, which gets the number of the lock file,
and marks a phase. -/
def reuse : List Action :=
  [.start] ++ acquires 0 0 "runs" "run-001" ++
    [.fork 0, .advance 1 (.ok ()) 1, .openFile 1 0 true, .markPhase 1 0 "runtime"] ++
    operations 1 1 3

def twoDirectories : List Action :=
  [.start, .start] ++ acquires 0 0 "runs" "run-001" ++ acquires 1 0 "other" "run-001"

/-- Two processes contend for the lease; the first forks, is finalised and leaves, the second one
tries again with a used run and with a new one, and dies. -/
def orderly : List Action :=
  [.start, .start] ++ acquires 0 0 "runs" "run-001" ++
    [.acquire 1 (request "runs" "run-002")] ++ operations 1 0 6 ++
    [.fork 0, .advance 2 (.ok ()) 1, .openFile 2 1 true, .finalize 0 0 "PASS" none] ++
    operations 0 1 4 ++ [.exit 0 0 none] ++ operations 0 1 3 ++
    [.acquire 1 (request "runs" "run-001")] ++ operations 1 0 10 ++
    acquires 1 0 "runs" "run-002" ++ [.crash 1]

end Bench

theorem not_exclusive_of_active {w : World} {pid pid' : Pid} (hne : pid ≠ pid')
    (h : (w.activeIn pid && w.activeIn pid') = true) : ¬Exclusive w := fun hex => by
  obtain ⟨hactive, hactive'⟩ := Bool.and_eq_true_iff.mp h
  exact hne (hex.one pid pid' hactive hactive')

/-- A forked child's copy of a lease becomes active when a file is opened on its number, and the
child then replaces its parent's claim; and each of two runs directories has a lease of its own,
even of the same run. -/
theorem lease_not_exclusive :
    (∃ w, performActions 4 .initial Bench.reuse = some w ∧
      AlongActions 4 (fun _ => OneDirectory "runs") .initial Bench.reuse ∧ ¬Exclusive w ∧
      .written 1 "runs" "run-001" (some 0) false ∈ w.log) ∧
    ∃ w, performActions 4 .initial Bench.twoDirectories = some w ∧
      AlongActions 4 NoReuse .initial Bench.twoDirectories ∧ ¬Exclusive w := by
  constructor
  · obtain ⟨w, hw, hactive⟩ := (Option.any_eq_true (fun w : World =>
      w.activeIn 0 && w.activeIn 1 &&
        decide (.written 1 "runs" "run-001" (some 0) false ∈ w.log)) _).mp
      (show (performActions 4 .initial Bench.reuse).any _ = true by decide +kernel)
    obtain ⟨hactive, hwritten⟩ := Bool.and_eq_true_iff.mp hactive
    exact ⟨w, hw, by decide +kernel, not_exclusive_of_active (by decide) hactive,
      of_decide_eq_true hwritten⟩
  · obtain ⟨w, hw, hactive⟩ := (Option.any_eq_true (fun w : World =>
      w.activeIn 0 && w.activeIn 1) _).mp
      (show (performActions 4 .initial Bench.twoDirectories).any _ = true by decide +kernel)
    exact ⟨w, hw, by decide +kernel, not_exclusive_of_active (by decide) hactive⟩

theorem lease_exclusive_orderly : ∃ w, performActions 4 .initial Bench.orderly = some w ∧
    (leasedRuns w.log).length = 2 ∧ Exclusive w := by
  obtain ⟨w, hw, hleased⟩ := (Option.any_eq_true (fun w : World =>
    decide ((leasedRuns w.log).length = 2)) _).mp
    (show (performActions 4 .initial Bench.orderly).any _ = true by decide +kernel)
  exact ⟨w, hw, of_decide_eq_true hleased,
    lease_exclusive "runs" 4 Bench.orderly w (by decide +kernel) hw⟩

end FrankaDeploy.Deployment
