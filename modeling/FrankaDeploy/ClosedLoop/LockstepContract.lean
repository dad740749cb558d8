import FrankaDeploy.ClosedLoop.Lockstep

/-! # What an interleaved run guarantees

The guarantees of the mapper, the ledger and the hardware shaper over every interleaving of their
methods, and the two ways in which the mapper's targets differ from the ledger's history: between
the two commits of one command, and after a fault of the ledger. -/

namespace FrankaDeploy.ClosedLoop

open FrankaDeploy.Foundation FrankaDeploy.Contracts
open scoped FloatArith

variable {D S : Type} [FloatArith D] [FloatArith S] [FloatCast D S]

/-! ## The shaper's committed state -/

def shaperCommitted (H : RH56Shaper) : RegisterVector × ℕ := (H.target, H.lastCommittedSequence)

@[simp] theorem shaperCommitted_faultLocked (H : RH56Shaper) (r : String) :
    shaperCommitted (H.faultLocked r) = shaperCommitted H := rfl

theorem shaperCommitted_propose (H : RH56Shaper) (sequence : ℤ) (desired : Vec 6 D) :
    shaperCommitted (H.propose sequence desired).1 = shaperCommitted H := by
  unfold RH56Shaper.propose
  split
  · rfl
  · by_cases hpending : H.pending.isSome = true
    · rw [if_pos hpending]
      rfl
    rw [if_neg hpending]
    by_cases hsequence : sequence = H.lastCommittedSequence + 1
    · rw [if_neg (not_not.mpr hsequence)]
      split
      · rfl
      · dsimp only
        split <;> rfl
    · rw [if_pos hsequence]
      rfl

theorem shaperCommitted_discardUnstaged (H : RH56Shaper) (proposal : ℕ) :
    shaperCommitted (H.discardUnstaged proposal).1 = shaperCommitted H := by
  unfold RH56Shaper.discardUnstaged
  split
  · rfl
  · split_ifs <;> rfl

theorem shaperCommitted_abort (H : RH56Shaper) (proposal : ℕ) (reason : String) :
    shaperCommitted (H.abort proposal reason).1 = shaperCommitted H := by
  unfold RH56Shaper.abort
  dsimp only
  split_ifs <;> rfl

theorem shaperCommitted_commit_of_error {H : RH56Shaper} {proposal : ℕ} {e : PyError}
    (h : (H.commit proposal).2 = .error e) :
    shaperCommitted (H.commit proposal).1 = shaperCommitted H := by
  unfold RH56Shaper.commit at h ⊢
  split
  · rfl
  · rfl
  · next healthy hpending =>
      simp only [healthy, hpending] at h
      split_ifs at h ⊢ <;> rfl

section Faulted

variable {H : RH56Shaper} {r : String} (h : H.faultReason = some r)
include h

theorem shaper_requireHealthyLocked_of_faulted : ∃ e, H.requireHealthyLocked = .error e := by
  unfold RH56Shaper.requireHealthyLocked
  rw [h]
  exact ⟨_, rfl⟩

theorem shaper_propose_of_faulted (sequence : ℤ) (desired : Vec 6 D) :
    (H.propose sequence desired).1 = H := by
  obtain ⟨e, he⟩ := shaper_requireHealthyLocked_of_faulted h
  unfold RH56Shaper.propose
  rw [he]

theorem shaper_discardUnstaged_of_faulted (proposal : ℕ) :
    (H.discardUnstaged proposal).1 = H := by
  obtain ⟨e, he⟩ := shaper_requireHealthyLocked_of_faulted h
  unfold RH56Shaper.discardUnstaged
  rw [he]

theorem shaper_commit_of_faulted (proposal : ℕ) : (H.commit proposal).1 = H := by
  obtain ⟨e, he⟩ := shaper_requireHealthyLocked_of_faulted h
  unfold RH56Shaper.commit
  rw [he]

theorem shaper_abort_of_faulted (proposal : ℕ) (reason : String) :
    (H.abort proposal reason).1.faultReason = some r := by
  unfold RH56Shaper.abort
  dsimp only
  split_ifs <;> simp [RH56Shaper.faultAndRaise, RH56Shaper.faultLocked, h]

end Faulted

/-! ## Facts about single calls -/

theorem Lockstep.step_ledger_eq (X : Lockstep D S) {call : LockstepCall D S}
    (h : ¬ call.IsLedger) : (X.step call).1.ledger = X.ledger := by
  cases call with
  | ledger call => exact absurd trivial h
  | commitLocked index =>
    rw [Lockstep.step]
    split <;> rfl
  | _ => rfl

theorem Lockstep.step_shaper_eq (X : Lockstep D S) {call : LockstepCall D S}
    (h : ¬ call.IsShaper) : (X.step call).1.shaper = X.shaper := by
  cases call with
  | shaperPropose sequence desired => exact absurd trivial h
  | shaperDiscard proposal => exact absurd trivial h
  | shaperCommit proposal => exact absurd trivial h
  | shaperAbort proposal reason => exact absurd trivial h
  | commitLocked index =>
    rw [Lockstep.step]
    split <;> rfl
  | _ => rfl

theorem Lockstep.step_shaperCommitted (X : Lockstep D S) (call : LockstepCall D S)
    (h : ∀ proposal, call = .shaperCommit proposal → (X.shaper.commit proposal).2 ≠ .ok ()) :
    shaperCommitted (X.step call).1.shaper = shaperCommitted X.shaper := by
  cases call with
  | shaperPropose sequence desired => exact shaperCommitted_propose _ _ _
  | shaperDiscard proposal => exact shaperCommitted_discardUnstaged _ _
  | shaperCommit proposal =>
    have hne := h proposal rfl
    cases hresult : (X.shaper.commit proposal).2 with
    | ok u => exact absurd hresult hne
    | error e => exact shaperCommitted_commit_of_error hresult
  | shaperAbort proposal reason => exact shaperCommitted_abort _ _ _
  | _ => rw [X.step_shaper_eq (by simp [LockstepCall.IsShaper])]

/-- **What one call does to the mapper**: a proposing or discarding method, a locked section of
`commit` on a snapshot under way, or nothing. -/
theorem Lockstep.step_mapper (X : Lockstep D S) (call : LockstepCall D S) :
    (X.mapper.Proposes (X.step call).1.mapper ∧ mapperCommits (X.step call).2 = []) ∨
    ∃ index proposal snapshot, call = .commitLocked index ∧
      (proposal, snapshot) ∈ X.reading ∧
      (X.step call).1.mapper = (X.mapper.commitLocked proposal snapshot).1 ∧
      mapperCommits (X.step call).2 = X.mapper.committedBy proposal snapshot := by
  cases call with
  | propose sequence arguments => exact .inl ⟨X.mapper.propose_proposes _ _, rfl⟩
  | proposeExactTargets sequence arguments =>
    exact .inl ⟨X.mapper.proposeExactTargets_proposes _ _, rfl⟩
  | discardUnstaged proposal => exact .inl ⟨X.mapper.discardUnstaged_proposes _, rfl⟩
  | commitLocked index =>
    rw [Lockstep.step]
    split
    · exact .inl ⟨.unchanged, rfl⟩
    · next proposal snapshot hr =>
        exact .inr ⟨index, proposal, snapshot, rfl, List.mem_of_getElem? hr, rfl,
          mapperCommits_map_mapper _⟩
  | ledger call => exact .inl ⟨.unchanged, mapperCommits_map_ledger _⟩
  | _ => exact .inl ⟨.unchanged, rfl⟩

theorem Lockstep.step_targets_of_no_commit (X : Lockstep D S) {call : LockstepCall D S}
    (h : mapperCommits (X.step call).2 = []) :
    (X.step call).1.mapper.targets = X.mapper.targets ∧
      (X.step call).1.mapper.lastCommittedSequence = X.mapper.lastCommittedSequence := by
  obtain ⟨hstep, -⟩ | ⟨index, proposal, snapshot, -, -, hmapper, hcommits⟩ := X.step_mapper call
  · exact hstep.targets_eq
  · rw [hcommits] at h
    rw [hmapper]
    obtain ⟨hsame, -⟩ | ⟨r, -, hfault, -⟩ | ⟨p, -, -, -, -, -, -, -, hone⟩ :=
      X.mapper.commitLocked_cases proposal snapshot
    · rw [hsame]
      exact ⟨rfl, rfl⟩
    · rw [hfault]
      exact ⟨rfl, rfl⟩
    · simp [hone] at h

theorem Lockstep.step_mapper_of_faulted (X : Lockstep D S) {r : String}
    (h : X.mapper.faultReason = some r) (call : LockstepCall D S) :
    (X.step call).1.mapper = X.mapper := by
  obtain ⟨hstep, -⟩ | ⟨index, proposal, snapshot, -, -, hmapper, -⟩ := X.step_mapper call
  · exact hstep.eq_of_faulted h
  · rw [hmapper]
    obtain ⟨hsame, -⟩ | ⟨r', healthy, -⟩ | ⟨p, -, healthy, -⟩ :=
      X.mapper.commitLocked_cases proposal snapshot
    · exact hsame
    · simp [h] at healthy
    · simp [h] at healthy

theorem Lockstep.step_ledger_of_faulted (X : Lockstep D S) {r : String}
    (h : X.ledger.faultReason = some r) (call : LockstepCall D S) :
    (X.step call).1.ledger = X.ledger := by
  by_cases hledger : call.IsLedger
  · cases call with
    | ledger call => exact (X.ledger.step_of_faulted h call).1
    | _ => exact absurd hledger id
  · exact X.step_ledger_eq hledger

theorem Lockstep.step_shaper_of_faulted (X : Lockstep D S) {r : String}
    (h : X.shaper.faultReason = some r) (call : LockstepCall D S) :
    (X.step call).1.shaper.faultReason = some r ∧
      shaperCommitted (X.step call).1.shaper = shaperCommitted X.shaper := by
  cases call with
  | shaperPropose sequence desired =>
    rw [Lockstep.step, shaper_propose_of_faulted h]
    exact ⟨h, rfl⟩
  | shaperDiscard proposal =>
    rw [Lockstep.step, shaper_discardUnstaged_of_faulted h]
    exact ⟨h, rfl⟩
  | shaperCommit proposal =>
    rw [Lockstep.step, shaper_commit_of_faulted h]
    exact ⟨h, rfl⟩
  | shaperAbort proposal reason =>
    exact ⟨shaper_abort_of_faulted h proposal reason, shaperCommitted_abort _ _ _⟩
  | _ =>
    rw [X.step_shaper_eq (by simp [LockstepCall.IsShaper])]
    exact ⟨h, rfl⟩

/-! ## Facts about runs -/

theorem lockstepInvariant_run (config : MapperConfig D S) (arm : FiniteVec 7 S)
    (hand : FiniteVec 6 S) (maximum : D) (action : FiniteVec 13 S) (shaper : RH56Shaper)
    (calls : List (LockstepCall D S)) :
    let X₀ : Lockstep D S := ⟨.fresh config arm hand, .fresh maximum action, shaper, []⟩
    LockstepInvariant config (arm, hand) action ((lockstepMachine D S).run X₀ calls)
      ((lockstepMachine D S).trace X₀ calls) := by
  intro X₀
  refine (lockstepMachine D S).monitor_induction ?_ (fun X trace call h => h.step call) calls
  refine ⟨⟨rfl, rfl, fun command h => ?_⟩, ⟨rfl, rfl, rfl, fun p h => ?_, fun pre p post h => ?_⟩,
    fun r hr => ?_, fun i p h => ?_⟩
  · simp [X₀, ExecutedActionLedger.fresh] at h
  · simp [X₀, TransactionalV94ActionMapper.fresh] at h
  · simp at h
  · simp [X₀] at hr
  · simp at h

theorem reading_origin (X₀ : Lockstep D S) (hempty : X₀.reading = [])
    (calls : List (LockstepCall D S)) :
    ∀ r ∈ ((lockstepMachine D S).run X₀ calls).reading, ∃ pre mid,
      calls = pre ++ .commitSnapshot r.1 :: mid ∧
        ((lockstepMachine D S).run X₀ pre).ledger.committedSnapshot = r.2 := by
  refine (lockstepMachine D S).history_induction (s := X₀)
    (P := fun is X => ∀ r ∈ X.reading, ∃ pre mid, is = pre ++ .commitSnapshot r.1 :: mid ∧
      ((lockstepMachine D S).run X₀ pre).ledger.committedSnapshot = r.2) ?_ ?_ calls
  · intro r hr
    simp [hempty] at hr
  · intro is call ih r hr
    rw [lockstepMachine_step] at hr
    -- every call keeps or shortens the list, except the one that reads a snapshot
    have hold : r ∈ ((lockstepMachine D S).run X₀ is).reading ∨
        (call = .commitSnapshot r.1 ∧
          ((lockstepMachine D S).run X₀ is).ledger.committedSnapshot = r.2) := by
      cases call with
      | commitSnapshot proposal =>
        rcases List.mem_append.mp hr with hr | hr
        · exact .inl hr
        · obtain rfl := List.mem_singleton.mp hr
          exact .inr ⟨rfl, rfl⟩
      | commitLocked index =>
        rw [Lockstep.step] at hr
        split at hr
        · exact .inl hr
        · exact .inl (List.mem_of_mem_eraseIdx hr)
      | _ => exact .inl hr
    rcases hold with hr | ⟨rfl, hsnapshot⟩
    · obtain ⟨pre, mid, rfl, hsnapshot⟩ := ih r hr
      exact ⟨pre, mid ++ [call], by simp, hsnapshot⟩
    · exact ⟨is, [], rfl, hsnapshot⟩

theorem run_ledger_eq (X : Lockstep D S) (calls : List (LockstepCall D S))
    (h : ∀ call ∈ calls, ¬ call.IsLedger) :
    ((lockstepMachine D S).run X calls).ledger = X.ledger := by
  induction calls generalizing X with
  | nil => rfl
  | cons call calls ih =>
    rw [Machine.run_cons, ih _ fun c hc => h c (List.mem_cons_of_mem _ hc)]
    exact X.step_ledger_eq (h call List.mem_cons_self)

/-! ## The contract -/

/-- **What every interleaving from `X₀` guarantees.** -/
structure LockstepContract (X₀ : Lockstep D S) : Prop where
  /-- The mapper commits sequence `n` only in a `commit` call that read sequence `n` with the same
  executed action as the ledger's current commit; when no ledger call came in between, it is the
  current commit still. -/
  commits : ∀ calls call p,
    p ∈ mapperCommits (((lockstepMachine D S).run X₀ calls).step call).2 →
      ∃ pre mid, calls = pre ++ .commitSnapshot p.ident :: mid ∧
        ((lockstepMachine D S).run X₀ pre).ledger.lastCommittedSequence = p.sequence ∧
        ((lockstepMachine D S).run X₀ pre).ledger.previous.1.arrayEqual
          p.mapped.executedPolicyAction13.1 = true ∧
        ((∀ c ∈ mid, ¬ c.IsLedger) → ((lockstepMachine D S).run X₀ calls).ledger =
          ((lockstepMachine D S).run X₀ pre).ledger)
  /-- The mapper's targets are the fold of the proposals it committed, whose sequences are
  `1, 2, …`; each was computed from the targets committed just before it. -/
  fold : ∀ calls,
    let X := (lockstepMachine D S).run X₀ calls
    let committed := mapperCommits ((lockstepMachine D S).trace X₀ calls)
    X.mapper.targets = committed.foldl applyProposal X₀.mapper.targets ∧
      committed.map (·.sequence) = List.range' 1 X.mapper.lastCommittedSequence ∧
      ∀ pre p post, committed = pre ++ p :: post →
        ComputedFrom X₀.mapper.config (pre.foldl applyProposal X₀.mapper.targets) p
  /-- Those proposals are the ledger's commits, with the same executed actions, up to the point
  the mapper has reached. -/
  follows : ∀ calls,
    let X := (lockstepMachine D S).run X₀ calls
    let trace := (lockstepMachine D S).trace X₀ calls
    X.mapper.lastCommittedSequence ≤ X.ledger.lastCommittedSequence ∧
      (ledgerCommits trace).map (·.sequence) = List.range' 1 X.ledger.lastCommittedSequence ∧
      ∀ (i : ℕ) (p : TransactionalV94ActionProposal S), (mapperCommits trace)[i]? = some p →
        ∃ command : ClosedLoopCommand D S, (ledgerCommits trace)[i]? = some command ∧
          command.executedPolicyAction13.1.arrayEqual p.mapped.executedPolicyAction13.1 = true
  /-- Every other call, raising or not, leaves the mapper's targets and counter and the shaper's
  target and counter as they were; those of the shaper change only in a commit of its own. -/
  rollback : ∀ calls call,
    let X := (lockstepMachine D S).run X₀ calls
    (mapperCommits (X.step call).2 = [] →
      (X.step call).1.mapper.targets = X.mapper.targets ∧
        (X.step call).1.mapper.lastCommittedSequence = X.mapper.lastCommittedSequence) ∧
    (¬ call.IsShaper → (X.step call).1.shaper = X.shaper) ∧
    ((∀ proposal, call = .shaperCommit proposal → (X.shaper.commit proposal).2 ≠ .ok ()) →
      shaperCommitted (X.step call).1.shaper = shaperCommitted X.shaper)
  mapper_fault : ∀ calls later reason,
    ((lockstepMachine D S).run X₀ calls).mapper.faultReason = some reason →
      ((lockstepMachine D S).run X₀ (calls ++ later)).mapper =
        ((lockstepMachine D S).run X₀ calls).mapper
  shaper_fault : ∀ calls later reason,
    ((lockstepMachine D S).run X₀ calls).shaper.faultReason = some reason →
      shaperCommitted ((lockstepMachine D S).run X₀ (calls ++ later)).shaper =
        shaperCommitted ((lockstepMachine D S).run X₀ calls).shaper
  /-- After a fault of the ledger the mapper can still only commit what the ledger had committed
  before the fault. -/
  ledger_fault : ∀ calls later reason,
    ((lockstepMachine D S).run X₀ calls).ledger.faultReason = some reason →
      ((lockstepMachine D S).run X₀ (calls ++ later)).mapper.lastCommittedSequence ≤
        ((lockstepMachine D S).run X₀ calls).ledger.lastCommittedSequence

/-- **Mapper and ledger in lockstep**, under every interleaving of the methods of fresh objects. -/
theorem mapper_ledger_lockstep (config : MapperConfig D S) (arm : FiniteVec 7 S)
    (hand : FiniteVec 6 S) (maximum : D) (action : FiniteVec 13 S) (shaper : RH56Shaper) :
    LockstepContract (⟨.fresh config arm hand, .fresh maximum action, shaper, []⟩ :
      Lockstep D S) where
  commits := by
    intro calls call p hp
    obtain ⟨-, hnone⟩ | ⟨index, proposal, snapshot, rfl, hr, -, hcommits⟩ :=
      ((lockstepMachine D S).run _ calls).step_mapper call
    · rw [hnone] at hp
      cases hp
    · rw [hcommits] at hp
      obtain ⟨-, hnone⟩ | ⟨r, -, -, hnone⟩ |
        ⟨p', -, -, hident, -, hsnapshot, haction, -, hone⟩ :=
        ((lockstepMachine D S).run _ calls).mapper.commitLocked_cases proposal snapshot
      · rw [hnone] at hp
        cases hp
      · rw [hnone] at hp
        cases hp
      · rw [hone, List.mem_singleton] at hp
        obtain ⟨pre, mid, hsplit, heq⟩ := reading_origin _ rfl calls _ hr
        refine ⟨pre, mid, ?_, ?_, ?_, fun hmid => ?_⟩
        · rw [hp, hident, hsplit]
        · rw [hp, ← hsnapshot]
          exact congrArg ExecutedActionCommit.sequence heq
        · rw [hp]
          exact (congrArg (fun c : ExecutedActionCommit S => c.executedPolicyAction13.1.arrayEqual
            p'.mapped.executedPolicyAction13.1) heq).trans haction
        · rw [hsplit, Machine.run_append, Machine.run_cons, run_ledger_eq _ mid hmid]
          rfl
  fold calls := by
    have h := lockstepInvariant_run config arm hand maximum action shaper calls
    exact ⟨h.mapper.fold, h.mapper.sequences, h.mapper.computed⟩
  follows calls := by
    have h := lockstepInvariant_run config arm hand maximum action shaper calls
    exact ⟨h.mapper_le_ledger, h.ledger.sequences, h.agree⟩
  rollback calls call :=
    ⟨Lockstep.step_targets_of_no_commit _, Lockstep.step_shaper_eq _,
      Lockstep.step_shaperCommitted _ call⟩
  mapper_fault := by
    intro calls later reason h
    rw [Machine.run_append]
    exact ((lockstepMachine D S).run_induction
      (P := fun X => X.mapper = ((lockstepMachine D S).run _ calls).mapper) rfl
      (fun X call hX => by
        rw [lockstepMachine_step, X.step_mapper_of_faulted (hX ▸ h) call]
        exact hX) later)
  shaper_fault := by
    intro calls later reason h
    rw [Machine.run_append]
    exact ((lockstepMachine D S).run_induction
      (P := fun X => X.shaper.faultReason = some reason ∧ shaperCommitted X.shaper =
        shaperCommitted ((lockstepMachine D S).run _ calls).shaper) ⟨h, rfl⟩
      (fun X call hX => by
        obtain ⟨hreason, hsame⟩ := X.step_shaper_of_faulted hX.1 call
        exact ⟨hreason, hsame.trans hX.2⟩) later).2
  ledger_fault := by
    intro calls later reason h
    have hle := (lockstepInvariant_run config arm hand maximum action shaper
      (calls ++ later)).mapper_le_ledger
    rw [Machine.run_append] at hle ⊢
    have hfrozen := (lockstepMachine D S).run_induction
      (P := fun X => X.ledger = ((lockstepMachine D S).run _ calls).ledger) rfl
      (fun X call hX => by
        rw [lockstepMachine_step, X.step_ledger_of_faulted (hX ▸ h) call]
        exact hX) later
    rwa [hfrozen] at hle

/-! ## Where the targets and the ledger's history differ -/

def wideLimits {F : Type} [FloatArith F] : JointLimits F :=
  ⟨fun _ => FloatArith.ofRat (-2), fun _ => FloatArith.ofRat 2⟩

def oneVec (n : ℕ) : FiniteVec n Binary32 :=
  ⟨fun _ => FloatArith.one, (Vec.allFinite_iff _).mpr fun _ => by decide +kernel⟩

def plainConfig : MapperConfig Binary64 Binary32 where
  controlDtS := FloatArith.ofRat (1 / 20)
  frankaActionContractId := .legacy
  jointLimitsF64 := wideLimits
  jointLimits := wideLimits
  roundedJointLimits := wideLimits
  qHandClose := oneVec 6
  maximumArmRate := none
  maximumHandRate := none
  mapperParameters :=
    ⟨FloatArith.ofRat (5 / 100), FloatArith.ofRat (15 / 1000), FloatArith.ofRat (2 / 10),
      FloatArith.ofRat (2 / 10), FloatArith.ofRat (15 / 1000), FloatArith.ofRat (5 / 100)⟩

def plainShaper : RH56Shaper where
  config :=
    { policyTicksPerHardwareUpdate := 1
      maximumRegisterDeltaPerUpdate := fun _ => 100
      minimumAngleSetRegisterOrder := fun _ => 0
      maximumAngleSetRegisterOrder := fun _ => 1000
      divider_pos := by decide
      delta_pos := by decide
      bounds_lt := by decide }
  target := fun _ => 0
  lastCommittedSequence := 0
  pending := none
  faultReason := none
  nextIdent := 0

def freshLockstep : Lockstep Binary64 Binary32 :=
  ⟨.fresh plainConfig (zeroVec 7) (zeroVec 6), .fresh (FloatArith.ofRat (1 / 2)) (zeroVec 13),
    plainShaper, []⟩

def halfRadian : ExactArguments Binary64 Binary32 :=
  ⟨fun _ => FloatArith.zero, fun _ => FloatArith.ofRat (1 / 2), fun _ => FloatArith.ofRat 1000,
    fun _ => FloatArith.zero, false⟩

def ledgerCommitted1 : Lockstep Binary64 Binary32 :=
  (lockstepMachine Binary64 Binary32).run freshLockstep
    [.proposeExactTargets 1 halfRadian, .ledger (.stage firstCommand FloatArith.zero),
      .ledger (.acknowledge "franka" 1 FloatArith.zero),
      .ledger (.acknowledge "rh56" 1 FloatArith.zero)]

def ledgerFaulted1 : Lockstep Binary64 Binary32 :=
  (ledgerCommitted1.step (.ledger (.fail "franka" 1 "stopped"))).1

/-- **The mapper's targets are not always the fold of the ledger's commits, and they do change
after a fault of the ledger.** Once the ledger has committed the first command, the mapper still
holds its initial arm target, not the proposal's half radian; and when the ledger then faults, the
mapper's commit nevertheless moves the target. -/
theorem mapper_lags_and_moves_after_ledger_fault :
    (ledgerCommitted1.ledger.lastCommittedSequence = 1 ∧
      ledgerCommitted1.mapper.pending.map
          (fun p => (p.sequence, p.mapped.frankaTargetQRad.1 0)) =
        some (1, FloatArith.ofRat (1 / 2)) ∧
      ledgerCommitted1.mapper.armTarget.1 0 = FloatArith.zero) ∧
    ledgerFaulted1.ledger.faultReason ≠ none ∧
      ledgerFaulted1.mapper.armTarget.1 0 = FloatArith.zero ∧
      ((lockstepMachine Binary64 Binary32).run ledgerFaulted1
        [.commitSnapshot 0, .commitLocked 0]).mapper.armTarget.1 0 =
          FloatArith.ofRat (1 / 2) := by
  decide +kernel

end FrankaDeploy.ClosedLoop
