import Mathlib.Data.Nat.Basic
import Mathlib.Logic.Function.Basic
import Mathlib.Tactic.Common

/-! # The deployment lease

Processes that acquire, use, finalise and leave the lease of a real-robot run:
`acquire_v94_deployment_lease` and the methods of `DeploymentLease` as sequences of file operations,
between which any other process may move and after each of which the process may die. The kernel
keeps a lock of `flock` for an open file description, until it is unlocked or the last descriptor
of the description is closed, and lets `O_CREAT | O_EXCL` create a name once.

A process has one operation under way at a time. It may fork at any time; the child has copies of
its descriptors and of its memory, and closes the descriptors of leases before it does anything
else. Descriptors that a single step opens and closes again are left out. -/

namespace FrankaDeploy.Deployment

/-! ## Data -/

abbrev Pid := ℕ

inductive OpenFile where
  /-- The lock file of a runs directory, by the open file description. -/
  | lock (runsDir : String) (description : ℕ)
  /-- Any other file; whether it is a single-link regular file owned by this user. -/
  | other (ownedRegular : Bool)
deriving DecidableEq, Repr

def OpenFile.ownedRegular : OpenFile → Bool
  | .lock _ _ => true
  | .other ownedRegular => ownedRegular

structure Claim where
  state : String
  phase : String
  error : Option String
deriving DecidableEq, Repr

structure ClaimFile where
  creator : Pid
  content : Option Claim
deriving DecidableEq, Repr

/-- **`DeploymentLease`** in the memory of a process. -/
structure DeploymentLease where
  descriptor : Option ℕ
  runsDir : String
  runId : String
  claim : Claim
  closed : Bool
  finalized : Bool
  acquirer : Pid
  description : ℕ
deriving DecidableEq, Repr

/-- The arguments of `acquire_v94_deployment_lease`. -/
structure AcquireRequest where
  runId : String
  runsDir : String
  auditDir : String
  requestFingerprint : String
deriving DecidableEq, Repr

inductive AcquireStage where
  | validate
  | lock
  | register
  | payload
  | claimsDir
  | createClaim
  | writeClaim
  | sync
deriving DecidableEq, Repr

inductive FailStage where
  | discard
  | unlock
  | close
deriving DecidableEq, Repr

/-- The operations of `_replace_claim`. -/
inductive ReplaceStage where
  | check
  | temporary
  | replace
  | sync
deriving DecidableEq, Repr

inductive Purpose where
  | phase
  | terminal
  /-- `finalize` from `__exit__`; whether there is no exception. -/
  | leaving (normal : Bool)
deriving DecidableEq, Repr

/-- **What a process is doing.** -/
inductive Task where
  | idle
  /-- It is a fork's child and has not closed the descriptors of leases. -/
  | forked
  | opening (request : AcquireRequest)
  | acquiring (stage : AcquireStage) (request : AcquireRequest) (fd description : ℕ)
  | failing (stage : FailStage) (request : AcquireRequest) (fd description : ℕ) (message : String)
  | replacing (stage : ReplaceStage) (lease : ℕ) (claim : Claim) (purpose : Purpose)
  /-- It is about to run `_release`; the error that `__exit__` raises after it, if any. -/
  | leaving (lease : ℕ) (error : Option String)
  | unlocking (fd : ℕ) (error : Option String)
  | closing (fd : ℕ) (error : Option String)
deriving DecidableEq, Repr

/-- **A process.** -/
structure Process where
  files : ℕ → Option OpenFile
  inheritedFds : List ℕ
  leases : List DeploymentLease
  task : Task

/-- **What happens to leases.** -/
inductive LeaseEvent where
  | leased (pid : Pid) (runsDir runId : String)
  /-- An acquisition that had opened the lock file raises; whether its description is still
  locked. -/
  | refused (pid : Pid) (runsDir : String) (locked : Bool) (message : String)
  /-- A claim file is written or replaced; who created it, and whether the process holds the lock. -/
  | written (pid : Pid) (runsDir runId : String) (creator : Option Pid) (held : Bool)
  | raised (pid : Pid) (message : String)
deriving DecidableEq, Repr

/-- **The machine**: its processes and its files. -/
structure World where
  processes : Pid → Option Process
  nextPid : Pid
  nextDescription : ℕ
  locks : String → Option ℕ
  claims : String → String → Option ClaimFile
  opener : ℕ → Pid
  log : List LeaseEvent

def World.initial : World :=
  ⟨fun _ => none, 0, 0, fun _ => none, fun _ _ => none, fun _ => 0, []⟩

/-! ## Checks -/

def runIdSafe (runId : String) : Bool :=
  match runId.toList with
  | [] => false
  | first :: rest => first.isAlphanum && decide (2 ≤ rest.length) && decide (rest.length ≤ 80) &&
      rest.all fun c => c.isAlphanum || c == '_' || c == '.' || c == '-'

/-- `_SHA256_PATTERN.fullmatch` of the lower-case fingerprint. -/
def isFingerprint (fingerprint : String) : Bool :=
  let digits := fingerprint.toList.map Char.toLower
  decide (digits.length = 64) && digits.all fun c => c.isDigit || ('a' ≤ c && c ≤ 'f')

def AcquireRequest.check (request : AcquireRequest) : Except String Unit :=
  if runIdSafe request.runId = false then .error "run-id is not safe for a deployment claim"
  else if isFingerprint request.requestFingerprint = false then
    .error "request fingerprint must be a SHA-256"
  else if request.auditDir ≠ request.runsDir then
    .error "audit path is outside the deployment runs directory"
  else .ok ()

/-- **`assert_active`** with the lease's own run. -/
def Process.assertActive (p : Process) (lease : DeploymentLease) : Except String Unit :=
  match lease.closed, lease.descriptor with
  | false, some fd =>
    match p.files fd with
    | none => .error "deployment hardware lease descriptor is no longer valid"
    | some file =>
      if file.ownedRegular = true then .ok ()
      else .error
        "deployment hardware lock must be a single-link regular file owned by this user"
  | _, _ => .error "deployment hardware lease is not active"

/-- The lease is active: `assert_active` passes. -/
def Process.active (p : Process) (lease : DeploymentLease) : Bool :=
  match p.assertActive lease with
  | .ok () => true
  | .error _ => false

/-! ## The kernel -/

namespace World

variable (limit : ℕ) (w : World) (pid : Pid) (p : Process)

def put : World := { w with processes := Function.update w.processes pid (some p) }

def setClaim (runsDir runId : String) (file : Option ClaimFile) : World :=
  { w with
    claims := fun dir run => if dir = runsDir ∧ run = runId then file else w.claims dir run }

@[simp] theorem setClaim_self (runsDir runId : String) (file : Option ClaimFile) :
    (w.setClaim runsDir runId file).claims runsDir runId = file := by
  simp [setClaim]

theorem setClaim_of_ne {runsDir runId dir run : String} (h : ¬(dir = runsDir ∧ run = runId))
    (file : Option ClaimFile) :
    (w.setClaim runsDir runId file).claims dir run = w.claims dir run := by
  simp only [setClaim, if_neg h]

def emit (event : LeaseEvent) : World := { w with log := w.log ++ [event] }

def Referenced (runsDir : String) (description : ℕ) : Prop :=
  ∃ pid < w.nextPid, ∃ fd < limit,
    (w.processes pid).bind (fun p => p.files fd) = some (.lock runsDir description)

instance (runsDir : String) (description : ℕ) :
    Decidable (w.Referenced limit runsDir description) :=
  inferInstanceAs (Decidable (∃ pid < w.nextPid, ∃ fd < limit, _ = _))

def dropUnreferenced : World :=
  { w with
    locks := fun runsDir => (w.locks runsDir).filter fun description =>
      w.Referenced limit runsDir description }

def unlockFile : Option OpenFile → World
  | some (.lock runsDir description) =>
    if w.locks runsDir = some description then
      { w with locks := Function.update w.locks runsDir none }
    else w
  | _ => w

@[simp] theorem opener_unlockFile (file : Option OpenFile) :
    (w.unlockFile file).opener = w.opener := by
  unfold unlockFile
  split
  · split <;> rfl
  · rfl

def holds (runsDir : String) : Bool :=
  match w.locks runsDir with
  | none => false
  | some description => decide (∃ fd < limit,
      (w.processes pid).bind (fun p => p.files fd) = some (.lock runsDir description))

end World

def Process.openFile (p : Process) (fd : ℕ) (file : OpenFile) : Process :=
  { p with files := Function.update p.files fd (some file) }

def Process.closeFile (p : Process) (fd : ℕ) : Process :=
  { p with files := Function.update p.files fd none }

/-! ## Acquiring -/

def newClaim : Claim := ⟨"CLAIMED", "admission", none⟩

abbrev Outcome := Except String Unit

section

variable (limit : ℕ) (w : World) (pid : Pid) (p : Process)

def goOn (outcome : Outcome) (next : AcquireStage) (request : AcquireRequest)
    (fd description : ℕ) : Task :=
  match outcome with
  | .ok () => .acquiring next request fd description
  | .error message => .failing .discard request fd description message

/-- **An operation of an acquisition.** -/
def advanceAcquire (stage : AcquireStage) (request : AcquireRequest) (fd description : ℕ)
    (outcome : Outcome) : World :=
  let go := fun (next : AcquireStage) => goOn outcome next request fd description
  let refuse := fun (message : String) => Task.failing .discard request fd description message
  match stage with
  | .validate => w.put pid { p with task := go .lock }
  | .lock =>
    match outcome, w.locks request.runsDir with
    | .ok (), none =>
      { w with locks := Function.update w.locks request.runsDir (some description) }.put pid
        { p with task := go .register }
    | .ok (), some _ => w.put pid
        { p with
          task := refuse "another V94 deployment process currently owns Franka/RH56" }
    | .error message, _ => w.put pid { p with task := refuse message }
  | .register =>
    match outcome with
    | .ok () => w.put pid { p with task := go .payload, inheritedFds := fd :: p.inheritedFds }
    | .error message => w.put pid { p with task := refuse message }
  | .payload => w.put pid { p with task := go .claimsDir }
  | .claimsDir => w.put pid { p with task := go .createClaim }
  | .createClaim =>
    match outcome, w.claims request.runsDir request.runId with
    | .ok (), none =>
      (w.setClaim request.runsDir request.runId (some ⟨pid, none⟩)).put pid
        { p with task := go .writeClaim }
    | .ok (), some _ => w.put pid
        { p with task := refuse ("run-id has already been claimed: " ++ request.runId) }
    | .error message, _ => w.put pid { p with task := refuse message }
  | .writeClaim =>
    -- a write that fails may have written a part
    let content := match outcome with
      | .ok () => some newClaim
      | .error _ => none
    let creator := (w.claims request.runsDir request.runId).map ClaimFile.creator
    ((w.setClaim request.runsDir request.runId
      (creator.map fun creator => ⟨creator, content⟩)).put pid { p with task := go .sync }).emit
        (.written pid request.runsDir request.runId creator (w.holds limit pid request.runsDir))
  | .sync =>
    match outcome with
    | .ok () =>
      (w.put pid { p with
        task := .idle
        leases := p.leases ++ [⟨some fd, request.runsDir, request.runId, newClaim, false,
          false, pid, description⟩] }).emit (.leased pid request.runsDir request.runId)
    | .error message => w.put pid { p with task := refuse message }

/-- **An operation of the handler** of a failed acquisition. -/
def advanceFail (stage : FailStage) (request : AcquireRequest) (fd description : ℕ)
    (message : String) : World :=
  match stage with
  | .discard => w.put pid { p with
      inheritedFds := p.inheritedFds.filter (· ≠ fd)
      task := .failing .unlock request fd description message }
  | .unlock => (w.unlockFile (p.files fd)).put pid
      { p with task := .failing .close request fd description message }
  | .close =>
    let w' := (w.put pid { p.closeFile fd with task := .idle }).dropUnreferenced limit
    w'.emit (.refused pid request.runsDir
      (decide (w'.locks request.runsDir = some description)) message)

/-! ## Using and leaving -/

/-- The task after `_replace_claim` raised. -/
def replaceRaised (lease : ℕ) (purpose : Purpose) (message : String) : World :=
  match purpose with
  | .leaving normal =>
    -- `__exit__` releases first and raises only if there is no other exception
    w.put pid { p with
      task := .leaving lease (if normal = true then
        some ("could not finalize deployment claim: " ++ message) else none) }
  | _ => (w.put pid { p with task := .idle }).emit (.raised pid message)

def DeploymentLease.replaced (lease : DeploymentLease) (claim : Claim) (purpose : Purpose) :
    DeploymentLease :=
  { lease with claim := claim, finalized := lease.finalized || decide (purpose ≠ .phase) }

/-- **An operation of `_replace_claim`.** -/
def advanceReplace (stage : ReplaceStage) (index : ℕ) (lease : DeploymentLease) (claim : Claim)
    (purpose : Purpose) (outcome : Outcome) : World :=
  match stage with
  | .check =>
    match p.assertActive lease with
    | .ok () => w.put pid { p with task := .replacing .temporary index claim purpose }
    | .error message => replaceRaised w pid p index purpose message
  | .temporary =>
    match outcome with
    | .ok () => w.put pid { p with task := .replacing .replace index claim purpose }
    | .error message => replaceRaised w pid p index purpose message
  | .replace =>
    match outcome with
    | .ok () =>
      let creator := (w.claims lease.runsDir lease.runId).map ClaimFile.creator
      ((w.setClaim lease.runsDir lease.runId (some ⟨creator.getD pid, some claim⟩)).put pid
        { p with task := .replacing .sync index claim purpose }).emit
          (.written pid lease.runsDir lease.runId creator (w.holds limit pid lease.runsDir))
    | .error message => replaceRaised w pid p index purpose message
  | .sync =>
    match outcome with
    | .ok () =>
      let leases := p.leases.set index (lease.replaced claim purpose)
      match purpose with
      | .leaving _ => w.put pid { p with leases := leases, task := .leaving index none }
      | _ => w.put pid { p with leases := leases, task := .idle }
    | .error message => replaceRaised w pid p index purpose message

/-- What `__exit__` raises after `_release`. -/
def finishExit (error : Option String) : World :=
  match error with
  | some message => w.emit (.raised pid message)
  | none => w

/-- **The begin of `_release`.** -/
def advanceLeave (index : ℕ) (lease : DeploymentLease) (error : Option String) : World :=
  if lease.closed = true then finishExit (w.put pid { p with task := .idle }) pid error
  else
    let leases := p.leases.set index { lease with descriptor := none, closed := true }
    match lease.descriptor with
    | some fd => w.put pid { p with
        leases := leases
        inheritedFds := p.inheritedFds.filter (· ≠ fd)
        task := .unlocking fd error }
    -- the descriptor is `-1`: `flock` raises
    | none => (w.put pid { p with leases := leases, task := .idle }).emit
        (.raised pid "Bad file descriptor")

def advanceUnlock (fd : ℕ) (error : Option String) : World :=
  match p.files fd with
  | none => (w.put pid { p with task := .idle }).emit (.raised pid "Bad file descriptor")
  | some file => (w.unlockFile (some file)).put pid { p with task := .closing fd error }

def advanceClose (fd : ℕ) (error : Option String) : World :=
  finishExit ((w.put pid { p.closeFile fd with task := .idle }).dropUnreferenced limit) pid error

end

/-! ## Steps -/

/-- **What may happen** on the machine. -/
inductive Action where
  | start
  | fork (pid : Pid)
  | crash (pid : Pid)
  | openFile (pid : Pid) (fd : ℕ) (ownedRegular : Bool)
  | closeFile (pid : Pid) (fd : ℕ)
  | acquire (pid : Pid) (request : AcquireRequest)
  | markPhase (pid : Pid) (index : ℕ) (phase : String)
  | finalize (pid : Pid) (index : ℕ) (result : String) (error : Option String)
  /-- `__exit__`: an exception's text, and whether it is a `KeyboardInterrupt`. -/
  | exit (pid : Pid) (index : ℕ) (exception : Option (Bool × String))
  /-- The next operation of what a process is doing; a lock file is opened at the number. -/
  | advance (pid : Pid) (outcome : Outcome) (fd : ℕ)

/-- What `__exit__` finalises a lease with. -/
def exitClaim : Option (Bool × String) → Claim
  | none => ⟨"FAILED", "terminal", some "lease exited without an explicit PASS result"⟩
  | some (interrupted, detail) =>
    ⟨if interrupted = true then "INTERRUPTED" else "FAILED", "terminal", some detail⟩

def beginExit (w : World) (pid : Pid) (p : Process) (index : ℕ) (lease : DeploymentLease)
    (exception : Option (Bool × String)) : World :=
  if lease.finalized = true then w.put pid { p with task := .leaving index none }
  else w.put pid { p with
    task := .replacing .check index (exitClaim exception) (.leaving exception.isNone) }

def Process.child (p : Process) : Process := { p with task := .forked }

def Process.closeInherited (p : Process) : Process :=
  { p with
    files := fun fd => if fd ∈ p.inheritedFds then none else p.files fd
    inheritedFds := []
    task := .idle }

/-- **The next operation** of a process. -/
def advance (limit : ℕ) (w : World) (pid : Pid) (p : Process) (outcome : Outcome) (fd : ℕ) :
    Option World :=
  match p.task with
  | .idle => none
  | .forked => some ((w.put pid p.closeInherited).dropUnreferenced limit)
  | .opening request =>
    match outcome with
    | .error message => some ((w.put pid { p with task := .idle }).emit (.raised pid message))
    | .ok () =>
      if p.files fd = none ∧ fd < limit then
        some ({ w with
          nextDescription := w.nextDescription + 1
          opener := Function.update w.opener w.nextDescription pid }.put pid
            { p.openFile fd (.lock request.runsDir w.nextDescription) with
              task := .acquiring .validate request fd w.nextDescription })
      else none
  | .acquiring stage request fd description =>
    some (advanceAcquire limit w pid p stage request fd description outcome)
  | .failing stage request fd description message =>
    some (advanceFail limit w pid p stage request fd description message)
  | .replacing stage index claim purpose =>
    (p.leases[index]?).map fun lease =>
      advanceReplace limit w pid p stage index lease claim purpose outcome
  | .leaving index error =>
    (p.leases[index]?).map fun lease => advanceLeave w pid p index lease error
  | .unlocking fd error => some (advanceUnlock w pid p fd error)
  | .closing fd error => some (advanceClose limit w pid p fd error)

/-- **The step of an action** of a process. -/
def processStep (limit : ℕ) (w : World) (pid : Pid) (p : Process) : Action → Option World
  | .start => none
  | .fork _ =>
    if p.task = .forked then none
    else some ({ w with nextPid := w.nextPid + 1 }.put w.nextPid p.child)
  | .crash _ => some
      ({ w with processes := Function.update w.processes pid none }.dropUnreferenced limit)
  | .openFile _ fd ownedRegular =>
    if p.task ≠ .forked ∧ p.files fd = none ∧ fd < limit then
      some (w.put pid (p.openFile fd (.other ownedRegular)))
    else none
  | .closeFile _ fd =>
    if p.task ≠ .forked ∧ (p.files fd = some (.other true) ∨ p.files fd = some (.other false))
    then some (w.put pid (p.closeFile fd))
    else none
  | .acquire _ request =>
    if p.task ≠ .idle then none
    else
      match request.check with
      | .error message => some (w.emit (.raised pid message))
      | .ok () => some (w.put pid { p with task := .opening request })
  | .markPhase _ index phase =>
    if p.task ≠ .idle then none
    else (p.leases[index]?).map fun lease =>
      if phase = "" then w.emit (.raised pid "deployment phase cannot be empty")
      else w.put pid { p with
        task := .replacing .check index
          { lease.claim with state := "ACTIVE", phase := phase } .phase }
  | .finalize _ index result error =>
    if p.task ≠ .idle then none
    else (p.leases[index]?).map fun _ =>
      if result ≠ "PASS" ∧ result ≠ "FAILED" ∧ result ≠ "INTERRUPTED" then
        w.emit (.raised pid "invalid deployment lease terminal result")
      else w.put pid { p with
        task := .replacing .check index ⟨result, "terminal", error⟩ .terminal }
  | .exit _ index exception =>
    if p.task ≠ .idle then none
    else (p.leases[index]?).map fun lease => beginExit w pid p index lease exception
  | .advance _ outcome fd => advance limit w pid p outcome fd

def Action.actor : Action → Option Pid
  | .start => none
  | .fork pid | .crash pid | .openFile pid _ _ | .closeFile pid _ | .acquire pid _
  | .markPhase pid _ _ | .finalize pid _ _ _ | .exit pid _ _ | .advance pid _ _ => some pid

def Process.fresh : Process := ⟨fun _ => none, [], [], .idle⟩

/-- **A step of the machine**; `none` is an action that cannot happen. -/
def step (limit : ℕ) (w : World) (action : Action) : Option World :=
  match action.actor with
  | none => some ({ w with nextPid := w.nextPid + 1 }.put w.nextPid .fresh)
  | some pid => (w.processes pid).bind fun p => processStep limit w pid p action

end FrankaDeploy.Deployment
