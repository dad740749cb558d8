import FrankaDeploy.ClosedLoop.LedgerContract
import FrankaDeploy.ClosedLoop.Mapper
import FrankaDeploy.Contracts.Rh56Shaper

/-! # Mapper, ledger and hardware shaper together

One action mapper, one ledger and one hardware shaper under arbitrary interleavings of their
methods. Every method is one locked section, except the mapper's `commit`, which reads the
ledger's snapshot before it takes its own lock: it is two steps here, and any other call may come
between them. -/

namespace FrankaDeploy.ClosedLoop

open FrankaDeploy.Foundation FrankaDeploy.Contracts
open scoped FloatArith

variable {D S : Type} [FloatArith D] [FloatArith S] [FloatCast D S]

/-- The three objects and the `commit` calls that have read their snapshot. -/
structure Lockstep (D S : Type) [FloatArith D] [FloatArith S] where
  mapper : TransactionalV94ActionMapper D S
  ledger : ExecutedActionLedger D S
  shaper : RH56Shaper
  reading : List (ℕ × ExecutedActionCommit S)

/-- **A call on one of the objects**, or one half of the mapper's `commit`. -/
inductive LockstepCall (D S : Type) [FloatArith D] [FloatArith S] where
  | propose (sequence : ℤ) (arguments : ProposeArguments S)
  | proposeExactTargets (sequence : ℤ) (arguments : ExactArguments D S)
  | discardUnstaged (proposal : ℕ)
  /-- `mapper.commit` up to the reading of the ledger's snapshot. -/
  | commitSnapshot (proposal : ℕ)
  | commitLocked (index : ℕ)
  | ledger (call : LedgerCall D S)
  | shaperPropose (sequence : ℤ) (desired : Vec 6 D)
  | shaperDiscard (proposal : ℕ)
  | shaperCommit (proposal : ℕ)
  | shaperAbort (proposal : ℕ) (reason : String)

def LockstepCall.IsLedger : LockstepCall D S → Prop
  | .ledger _ => True
  | _ => False

def LockstepCall.IsShaper : LockstepCall D S → Prop
  | .shaperPropose .. | .shaperDiscard _ | .shaperCommit _ | .shaperAbort .. => True
  | _ => False

inductive LockstepEvent (D S : Type) [FloatArith D] [FloatArith S] where
  | ledgerCommitted (command : ClosedLoopCommand D S)
  | mapperCommitted (proposal : TransactionalV94ActionProposal S)

namespace TransactionalV94ActionMapper

/-- The proposal a locked section of `commit` commits, if it succeeds. -/
def committedBy (M : TransactionalV94ActionMapper D S) (proposal : ℕ)
    (committed : ExecutedActionCommit S) : List (TransactionalV94ActionProposal S) :=
  match (M.commitLocked proposal committed).2 with
  | .ok () => M.pending.toList
  | .error _ => []

end TransactionalV94ActionMapper

namespace Lockstep

variable (X : Lockstep D S)

def step : LockstepCall D S → Lockstep D S × List (LockstepEvent D S)
  | .propose sequence arguments =>
    ({ X with mapper := (X.mapper.propose sequence arguments).1 }, [])
  | .proposeExactTargets sequence arguments =>
    ({ X with mapper := (X.mapper.proposeExactTargets sequence arguments).1 }, [])
  | .discardUnstaged proposal =>
    ({ X with mapper := (X.mapper.discardUnstaged proposal).1 }, [])
  | .commitSnapshot proposal =>
    ({ X with reading := X.reading ++ [(proposal, X.ledger.committedSnapshot)] }, [])
  | .commitLocked index =>
    match X.reading[index]? with
    | none => (X, [])
    | some (proposal, committed) =>
      ({ X with
          mapper := (X.mapper.commitLocked proposal committed).1
          reading := X.reading.eraseIdx index },
        (X.mapper.committedBy proposal committed).map .mapperCommitted)
  | .ledger call =>
    ({ X with ledger := (X.ledger.perform call).1 },
      (X.ledger.committedBy call).map .ledgerCommitted)
  | .shaperPropose sequence desired =>
    ({ X with shaper := (X.shaper.propose sequence desired).1 }, [])
  | .shaperDiscard proposal => ({ X with shaper := (X.shaper.discardUnstaged proposal).1 }, [])
  | .shaperCommit proposal => ({ X with shaper := (X.shaper.commit proposal).1 }, [])
  | .shaperAbort proposal reason =>
    ({ X with shaper := (X.shaper.abort proposal reason).1 }, [])

end Lockstep

def lockstepMachine (D S : Type) [FloatArith D] [FloatArith S] [FloatCast D S] :
    Machine (Lockstep D S) (LockstepCall D S) (LockstepEvent D S) where
  step := Lockstep.step

@[simp] theorem lockstepMachine_step (X : Lockstep D S) (call : LockstepCall D S) :
    (lockstepMachine D S).step X call = X.step call := rfl

def ledgerCommits (trace : List (LockstepEvent D S)) : List (ClosedLoopCommand D S) :=
  trace.filterMap fun
    | .ledgerCommitted command => some command
    | .mapperCommitted _ => none

def mapperCommits (trace : List (LockstepEvent D S)) :
    List (TransactionalV94ActionProposal S) :=
  trace.filterMap fun
    | .ledgerCommitted _ => none
    | .mapperCommitted proposal => some proposal

section Commits

omit [FloatCast D S]

@[simp] theorem ledgerCommits_append (t u : List (LockstepEvent D S)) :
    ledgerCommits (t ++ u) = ledgerCommits t ++ ledgerCommits u :=
  List.filterMap_append

@[simp] theorem mapperCommits_append (t u : List (LockstepEvent D S)) :
    mapperCommits (t ++ u) = mapperCommits t ++ mapperCommits u :=
  List.filterMap_append

@[simp] theorem ledgerCommits_nil : ledgerCommits ([] : List (LockstepEvent D S)) = [] := rfl

@[simp] theorem mapperCommits_nil : mapperCommits ([] : List (LockstepEvent D S)) = [] := rfl

@[simp] theorem ledgerCommits_map_ledger (l : List (ClosedLoopCommand D S)) :
    ledgerCommits (l.map .ledgerCommitted) = l := by
  induction l with
  | nil => rfl
  | cons command l ih => exact congrArg (command :: ·) ih

@[simp] theorem mapperCommits_map_ledger (l : List (ClosedLoopCommand D S)) :
    mapperCommits (l.map .ledgerCommitted) = [] := by
  induction l with
  | nil => rfl
  | cons command l ih => exact ih

@[simp] theorem mapperCommits_map_mapper (l : List (TransactionalV94ActionProposal S)) :
    mapperCommits (l.map (.mapperCommitted : _ → LockstepEvent D S)) = l := by
  induction l with
  | nil => rfl
  | cons proposal l ih => exact congrArg (proposal :: ·) ih

@[simp] theorem ledgerCommits_map_mapper (l : List (TransactionalV94ActionProposal S)) :
    ledgerCommits (l.map (.mapperCommitted : _ → LockstepEvent D S)) = [] := by
  induction l with
  | nil => rfl
  | cons proposal l ih => exact ih

end Commits

/-! ## What the mapper's methods can do -/

namespace TransactionalV94ActionMapper

variable (M : TransactionalV94ActionMapper D S)

/-- `p` was computed by one of the two proposal methods from the targets of `M`. -/
def Computed (p : TransactionalV94ActionProposal S) : Prop :=
  (∃ sequence arguments, M.buildProposal sequence arguments = .ok p) ∨
    ∃ sequence arguments, M.buildExactProposal sequence arguments = .ok p

omit [FloatArith D] [FloatCast D S] in
@[simp] theorem requireHealthyLocked_eq_ok {u : Unit} :
    M.requireHealthyLocked = .ok u ↔ M.faultReason = none := by
  unfold requireHealthyLocked
  cases M.faultReason <;> simp

omit [FloatArith D] in
theorem proposalOf_sequence {sequence : ℕ} {mapped : V94MappedAction S} {armRate : Vec 7 D}
    {handRate : Vec 6 D} {p : TransactionalV94ActionProposal S}
    (h : M.proposalOf sequence mapped armRate handRate = .ok p) : p.sequence = sequence := by
  unfold proposalOf at h
  obtain ⟨_, -, h⟩ := except_bind_eq_ok.mp h
  obtain ⟨_, -, h⟩ := except_bind_eq_ok.mp h
  obtain ⟨_, -, h⟩ := except_bind_eq_ok.mp h
  exact Except.ok.inj h ▸ rfl

theorem buildProposal_sequence {sequence : ℕ} {arguments : ProposeArguments S}
    {p : TransactionalV94ActionProposal S} (h : M.buildProposal sequence arguments = .ok p) :
    p.sequence = sequence := by
  unfold buildProposal at h
  split at h
  · cases h
  · split at h
    · cases h
    · dsimp only at h
      split at h
      · cases h
      · split at h
        · cases h
        · next hproposal => exact Except.ok.inj h ▸ M.proposalOf_sequence hproposal

theorem buildExactProposal_sequence {sequence : ℕ} {arguments : CheckedExactArguments S}
    {p : TransactionalV94ActionProposal S} (h : M.buildExactProposal sequence arguments = .ok p) :
    p.sequence = sequence := by
  unfold buildExactProposal at h
  generalize (if arguments.holdArmTarget then (M.armTarget.1, false)
    else M.canonicalArm arguments.requestedArm.1) = arm at h
  dsimp only at h
  split at h
  · cases h
  · split at h
    · cases h
    · next hproposal => exact Except.ok.inj h ▸ M.proposalOf_sequence hproposal

omit [FloatArith D] [FloatCast D S] in
theorem proposeLocked_cases (sequence : ℕ)
    (build : Except ProposalFailure (TransactionalV94ActionProposal S)) :
    (M.proposeLocked sequence build).1 = M ∨
    (∃ r, M.faultReason = none ∧ (M.proposeLocked sequence build).1 = M.faultLocked r) ∨
    ∃ p, build = .ok p ∧ M.faultReason = none ∧ sequence = M.lastCommittedSequence + 1 ∧
      (M.proposeLocked sequence build).1 =
        { M with pending := some p, nextIdent := M.nextIdent + 1 } := by
  unfold proposeLocked
  split
  · exact .inl rfl
  · next healthy =>
      rw [requireHealthyLocked_eq_ok] at healthy
      by_cases hpending : M.pending.isSome = true
      · rw [if_pos hpending]
        exact .inr (.inl ⟨_, healthy, rfl⟩)
      rw [if_neg hpending]
      by_cases hsequence : sequence = M.lastCommittedSequence + 1
      · rw [if_neg (not_not.mpr hsequence)]
        split
        · exact .inl rfl
        · exact .inr (.inl ⟨_, healthy, rfl⟩)
        · exact .inr (.inr ⟨_, rfl, healthy, hsequence, rfl⟩)
      · rw [if_pos hsequence]
        exact .inr (.inl ⟨_, healthy, rfl⟩)

/-- **What a call of a method other than `commit` can do to the mapper.** -/
inductive Proposes (M : TransactionalV94ActionMapper D S) :
    TransactionalV94ActionMapper D S → Prop
  | unchanged : Proposes M M
  | faulted (r : String) (healthy : M.faultReason = none) : Proposes M (M.faultLocked r)
  | proposed (p : TransactionalV94ActionProposal S) (healthy : M.faultReason = none)
      (sequence : p.sequence = M.lastCommittedSequence + 1) (computed : M.Computed p) :
      Proposes M { M with pending := some p, nextIdent := M.nextIdent + 1 }
  | discarded (healthy : M.faultReason = none) : Proposes M { M with pending := none }

theorem propose_proposes (sequence : ℤ) (arguments : ProposeArguments S) :
    M.Proposes (M.propose sequence arguments).1 := by
  unfold propose
  split
  · exact .unchanged
  · next proposalSequence _ =>
      obtain h | ⟨r, healthy, h⟩ | ⟨p, hbuild, healthy, hsequence, h⟩ := M.proposeLocked_cases
        proposalSequence.1 (M.buildProposal proposalSequence.1 arguments)
      · exact h.symm ▸ .unchanged
      · exact h.symm ▸ .faulted r healthy
      · refine h.symm ▸ .proposed p healthy ?_ (.inl ⟨_, _, hbuild⟩)
        rw [M.buildProposal_sequence hbuild, hsequence]

theorem proposeExactTargets_proposes (sequence : ℤ) (arguments : ExactArguments D S) :
    M.Proposes (M.proposeExactTargets sequence arguments).1 := by
  unfold proposeExactTargets
  split
  · exact .unchanged
  · exact .unchanged
  · next proposalSequence checked _ _ =>
      obtain h | ⟨r, healthy, h⟩ | ⟨p, hbuild, healthy, hsequence, h⟩ := M.proposeLocked_cases
        proposalSequence.1 (M.buildExactProposal proposalSequence.1 checked)
      · exact h.symm ▸ .unchanged
      · exact h.symm ▸ .faulted r healthy
      · refine h.symm ▸ .proposed p healthy ?_ (.inr ⟨_, _, hbuild⟩)
        rw [M.buildExactProposal_sequence hbuild, hsequence]

theorem discardUnstaged_proposes (proposal : ℕ) :
    M.Proposes (M.discardUnstaged proposal).1 := by
  unfold discardUnstaged
  split
  · exact .unchanged
  · next healthy =>
      rw [requireHealthyLocked_eq_ok] at healthy
      split_ifs
      · exact .faulted _ healthy
      · exact .discarded healthy

/-- The targets and the counter that a successful `commit` of `p` leaves. -/
def committed (p : TransactionalV94ActionProposal S) : TransactionalV94ActionMapper D S :=
  { M with
    armTarget := p.mapped.frankaTargetQRad
    handTarget := p.mapped.rh56TargetQPolicyOrderRad
    lastCommittedSequence := p.sequence
    pending := none }

omit [FloatArith D] [FloatCast D S] in
/-- **The locked section of `commit`** raises and leaves the mapper alone, latches a fault, or
commits the pending proposal, whose sequence and action the snapshot shows. -/
theorem commitLocked_cases (proposal : ℕ) (snapshot : ExecutedActionCommit S) :
    ((M.commitLocked proposal snapshot).1 = M ∧ M.committedBy proposal snapshot = []) ∨
    (∃ r, M.faultReason = none ∧ (M.commitLocked proposal snapshot).1 = M.faultLocked r ∧
      M.committedBy proposal snapshot = []) ∨
    ∃ p, M.pending = some p ∧ M.faultReason = none ∧ p.ident = proposal ∧
      p.sequence = M.lastCommittedSequence + 1 ∧ snapshot.sequence = p.sequence ∧
      snapshot.executedPolicyAction13.1.arrayEqual p.mapped.executedPolicyAction13.1 = true ∧
      (M.commitLocked proposal snapshot).1 = M.committed p ∧
      M.committedBy proposal snapshot = [p] := by
  unfold committedBy
  unfold commitLocked
  split
  · exact .inl ⟨rfl, rfl⟩
  · next healthy _ =>
      exact .inr (.inl ⟨_, M.requireHealthyLocked_eq_ok.mp healthy, rfl, rfl⟩)
  · next p healthy hpending =>
      rw [requireHealthyLocked_eq_ok] at healthy
      by_cases hident : p.ident = proposal
      swap
      · rw [if_pos hident]
        exact .inr (.inl ⟨_, healthy, rfl, rfl⟩)
      rw [if_neg (not_not.mpr hident)]
      by_cases hsequence : p.sequence = M.lastCommittedSequence + 1
      swap
      · rw [if_pos hsequence]
        exact .inr (.inl ⟨_, healthy, rfl, rfl⟩)
      rw [if_neg (not_not.mpr hsequence)]
      by_cases hsnapshot : snapshot.sequence = p.sequence
      swap
      · rw [if_pos hsnapshot]
        exact .inl ⟨rfl, rfl⟩
      rw [if_neg (not_not.mpr hsnapshot)]
      simp only [readonlyFloatVector_val]
      split_ifs with haction hprior
      · exact .inr (.inl ⟨_, healthy, rfl, rfl⟩)
      · exact .inr (.inl ⟨_, healthy, rfl, rfl⟩)
      · refine .inr (.inr ⟨p, hpending, healthy, hident, hsequence, hsnapshot, ?_, rfl, ?_⟩)
        · simpa using haction
        · rw [hpending]
          rfl

def targets : FiniteVec 7 S × FiniteVec 6 S := (M.armTarget, M.handTarget)

theorem Proposes.eq_of_faulted {M M' : TransactionalV94ActionMapper D S} (h : M.Proposes M')
    {r : String} (hfault : M.faultReason = some r) : M' = M := by
  cases h with
  | unchanged => rfl
  | faulted r' healthy => simp [hfault] at healthy
  | proposed p healthy => simp [hfault] at healthy
  | discarded healthy => simp [hfault] at healthy

theorem Proposes.targets_eq {M M' : TransactionalV94ActionMapper D S} (h : M.Proposes M') :
    M'.targets = M.targets ∧ M'.lastCommittedSequence = M.lastCommittedSequence := by
  cases h <;> exact ⟨rfl, rfl⟩

end TransactionalV94ActionMapper

def applyProposal (_targets : FiniteVec 7 S × FiniteVec 6 S)
    (p : TransactionalV94ActionProposal S) : FiniteVec 7 S × FiniteVec 6 S :=
  (p.mapped.frankaTargetQRad, p.mapped.rh56TargetQPolicyOrderRad)

/-- `p` was computed by a mapper with this configuration whose committed targets were `targets`. -/
def ComputedFrom (config : MapperConfig D S) (targets : FiniteVec 7 S × FiniteVec 6 S)
    (p : TransactionalV94ActionProposal S) : Prop :=
  ∃ M : TransactionalV94ActionMapper D S, M.config = config ∧ M.targets = targets ∧ M.Computed p

/-- **The mapper's commit history explains its targets.** -/
structure MapperInvariant (config : MapperConfig D S)
    (initial : FiniteVec 7 S × FiniteVec 6 S) (M : TransactionalV94ActionMapper D S)
    (history : List (TransactionalV94ActionProposal S)) : Prop where
  config_eq : M.config = config
  sequences : history.map (·.sequence) = List.range' 1 M.lastCommittedSequence
  fold : M.targets = history.foldl applyProposal initial
  pending : ∀ p, M.pending = some p → ComputedFrom config M.targets p
  computed : ∀ pre p post, history = pre ++ p :: post →
    ComputedFrom config (pre.foldl applyProposal initial) p

namespace MapperInvariant

variable {config : MapperConfig D S} {initial : FiniteVec 7 S × FiniteVec 6 S}
  {M M' : TransactionalV94ActionMapper D S} {history : List (TransactionalV94ActionProposal S)}

theorem faultLocked (h : MapperInvariant config initial M history) (r : String) :
    MapperInvariant config initial (M.faultLocked r) history :=
  ⟨h.config_eq, h.sequences, h.fold, h.pending, h.computed⟩

theorem proposes (h : MapperInvariant config initial M history) (hstep : M.Proposes M') :
    MapperInvariant config initial M' history := by
  cases hstep with
  | unchanged => exact h
  | faulted r => exact h.faultLocked r
  | proposed p _ _ hcomputed =>
    refine ⟨h.config_eq, h.sequences, h.fold, fun p' heq => ?_, h.computed⟩
    exact Option.some.inj heq ▸ ⟨M, h.config_eq, rfl, hcomputed⟩
  | discarded =>
    exact ⟨h.config_eq, h.sequences, h.fold, fun p heq => by simp at heq, h.computed⟩

theorem committed (h : MapperInvariant config initial M history)
    {p : TransactionalV94ActionProposal S} (hpending : M.pending = some p)
    (hsequence : p.sequence = M.lastCommittedSequence + 1) :
    MapperInvariant config initial (M.committed p) (history ++ [p]) := by
  refine ⟨h.config_eq, ?_, ?_, fun p' heq => ?_, fun pre p' post heq => ?_⟩
  · simp only [List.map_append, h.sequences, List.map_cons, List.map_nil,
      TransactionalV94ActionMapper.committed, hsequence]
    rw [List.range'_concat, Nat.one_mul, Nat.add_comm 1]
  · rw [List.foldl_append, List.foldl_cons, List.foldl_nil]
    rfl
  · simp [TransactionalV94ActionMapper.committed] at heq
  · rcases List.eq_nil_or_concat post with rfl | ⟨post', last, rfl⟩
    · -- the proposal just committed
      obtain ⟨rfl, heq'⟩ := List.append_inj' heq rfl
      obtain rfl : p = p' := by simpa using heq'
      exact h.fold ▸ h.pending p hpending
    · rw [List.concat_eq_append, ← List.cons_append, ← List.append_assoc] at heq
      exact h.computed pre p' post' (List.append_inj' heq rfl).1

end MapperInvariant

/-! ## What holds between the three objects -/

/-- **The mapper follows the ledger.** -/
structure LockstepInvariant (config : MapperConfig D S)
    (initial : FiniteVec 7 S × FiniteVec 6 S) (action : FiniteVec 13 S) (X : Lockstep D S)
    (trace : List (LockstepEvent D S)) : Prop where
  ledger : HistoryInvariant action X.ledger (ledgerCommits trace)
  mapper : MapperInvariant config initial X.mapper (mapperCommits trace)
  reading : ∀ r ∈ X.reading, 0 < r.2.sequence →
    ∃ command : ClosedLoopCommand D S, (ledgerCommits trace)[r.2.sequence - 1]? = some command ∧
      command.executedPolicyAction13 = r.2.executedPolicyAction13
  agree : ∀ (i : ℕ) (p : TransactionalV94ActionProposal S), (mapperCommits trace)[i]? = some p →
    ∃ command : ClosedLoopCommand D S, (ledgerCommits trace)[i]? = some command ∧
      command.executedPolicyAction13.1.arrayEqual p.mapped.executedPolicyAction13.1 = true

namespace LockstepInvariant

variable {config : MapperConfig D S} {initial : FiniteVec 7 S × FiniteVec 6 S}
  {action : FiniteVec 13 S} {X : Lockstep D S} {trace : List (LockstepEvent D S)}

theorem length_ledgerCommits (h : LockstepInvariant config initial action X trace) :
    (ledgerCommits trace).length = X.ledger.lastCommittedSequence := by
  simpa using congrArg List.length h.ledger.sequences

theorem length_mapperCommits (h : LockstepInvariant config initial action X trace) :
    (mapperCommits trace).length = X.mapper.lastCommittedSequence := by
  simpa using congrArg List.length h.mapper.sequences

theorem mapper_le_ledger (h : LockstepInvariant config initial action X trace) :
    X.mapper.lastCommittedSequence ≤ X.ledger.lastCommittedSequence := by
  rw [← h.length_mapperCommits, ← h.length_ledgerCommits]
  by_contra hlt
  have hlt : (ledgerCommits trace).length < (mapperCommits trace).length := not_le.mp hlt
  obtain ⟨command, hcommand, -⟩ := h.agree _ _ (List.getElem?_eq_getElem hlt)
  simp at hcommand

theorem committedSnapshot (h : LockstepInvariant config initial action X trace)
    (hpos : 0 < X.ledger.committedSnapshot.sequence) :
    ∃ command : ClosedLoopCommand D S, (ledgerCommits trace)[X.ledger.committedSnapshot.sequence - 1]? = some command ∧
      command.executedPolicyAction13 = X.ledger.committedSnapshot.executedPolicyAction13 := by
  have hlength := h.length_ledgerCommits
  have hprevious := h.ledger.previous
  rw [List.getLast?_eq_getElem?, hlength] at hprevious
  simp only [ExecutedActionLedger.committedSnapshot] at hpos ⊢
  have hlt : X.ledger.lastCommittedSequence - 1 < (ledgerCommits trace).length := by omega
  rw [List.getElem?_eq_getElem hlt] at hprevious ⊢
  exact ⟨_, rfl, hprevious.symm⟩

theorem withMapper (h : LockstepInvariant config initial action X trace)
    {M' : TransactionalV94ActionMapper D S} (hstep : X.mapper.Proposes M') :
    LockstepInvariant config initial action { X with mapper := M' } trace :=
  ⟨h.ledger, h.mapper.proposes hstep, h.reading, h.agree⟩

theorem withLedger (h : LockstepInvariant config initial action X trace)
    (call : LedgerCall D S) :
    LockstepInvariant config initial action { X with ledger := (X.ledger.perform call).1 }
      (trace ++ (X.ledger.committedBy call).map .ledgerCommitted) := by
  have hgrow : ∀ {i : ℕ} {command : ClosedLoopCommand D S},
      (ledgerCommits trace)[i]? = some command →
        (ledgerCommits trace ++ X.ledger.committedBy call)[i]? = some command := by
    intro i command hi
    rw [List.getElem?_append_left (List.getElem?_eq_some_iff.mp hi).1]
    exact hi
  refine ⟨?_, ?_, fun r hr hpos => ?_, fun i p hp => ?_⟩
  · simpa using h.ledger.step call
  · simpa using h.mapper
  · obtain ⟨command, hcommand, haction⟩ := h.reading r hr hpos
    exact ⟨command, by simpa using hgrow hcommand, haction⟩
  · obtain ⟨command, hcommand, haction⟩ := h.agree i p (by simpa using hp)
    exact ⟨command, by simpa using hgrow hcommand, haction⟩

theorem withCommit (h : LockstepInvariant config initial action X trace)
    {proposal : ℕ} {snapshot : ExecutedActionCommit S} (hr : (proposal, snapshot) ∈ X.reading)
    {reading : List (ℕ × ExecutedActionCommit S)} (hsub : ∀ r ∈ reading, r ∈ X.reading) :
    LockstepInvariant config initial action
      { X with mapper := (X.mapper.commitLocked proposal snapshot).1, reading := reading }
      (trace ++ (X.mapper.committedBy proposal snapshot).map .mapperCommitted) := by
  obtain ⟨hsame, hnone⟩ | ⟨r, -, hfault, hnone⟩ |
    ⟨p, hpending, -, -, hsequence, hsnapshot, haction, hcommit, hone⟩ :=
    X.mapper.commitLocked_cases proposal snapshot
  · rw [hsame, hnone, List.map_nil, List.append_nil]
    exact ⟨h.ledger, h.mapper, fun r hr => h.reading r (hsub r hr), h.agree⟩
  · rw [hfault, hnone, List.map_nil, List.append_nil]
    exact ⟨h.ledger, h.mapper.faultLocked r, fun r hr => h.reading r (hsub r hr), h.agree⟩
  · rw [hcommit, hone]
    have hledger : ledgerCommits (trace ++ [p].map .mapperCommitted) = ledgerCommits trace := by
      rw [ledgerCommits_append, ledgerCommits_map_mapper, List.append_nil]
    have hmapper : mapperCommits (trace ++ [p].map .mapperCommitted) =
        mapperCommits trace ++ [p] := by
      rw [mapperCommits_append, mapperCommits_map_mapper]
    refine ⟨?_, ?_, fun r hr hpos => ?_, fun i p' hp' => ?_⟩
    · exact hledger ▸ h.ledger
    · exact hmapper ▸ h.mapper.committed hpending hsequence
    · exact hledger ▸ h.reading r (hsub r hr) hpos
    · rw [hledger]
      rw [hmapper] at hp'
      rcases Nat.lt_or_ge i (mapperCommits trace).length with hlt | hge
      · exact h.agree i p' (by rwa [List.getElem?_append_left hlt] at hp')
      · -- the proposal just committed, which the snapshot shows
        rw [List.getElem?_append_right hge] at hp'
        obtain ⟨hi, rfl⟩ : i - (mapperCommits trace).length = 0 ∧ p = p' := by
          rw [List.getElem?_eq_some_iff] at hp'
          obtain ⟨hlt, heq⟩ := hp'
          have hzero : i - (mapperCommits trace).length = 0 := by simpa using hlt
          simp only [hzero, List.getElem_cons_zero] at heq
          exact ⟨hzero, heq⟩
        have hlength := h.length_mapperCommits
        obtain ⟨command, hcommand, hexecuted⟩ := h.reading _ hr (by simp only; omega)
        have hindex : snapshot.sequence - 1 = i := by omega
        exact ⟨command, by simpa only [hindex] using hcommand, hexecuted ▸ haction⟩

theorem step (h : LockstepInvariant config initial action X trace)
    (call : LockstepCall D S) :
    LockstepInvariant config initial action (X.step call).1 (trace ++ (X.step call).2) := by
  cases call with
  | propose sequence arguments =>
    rw [Lockstep.step, List.append_nil]
    exact h.withMapper (X.mapper.propose_proposes sequence arguments)
  | proposeExactTargets sequence arguments =>
    rw [Lockstep.step, List.append_nil]
    exact h.withMapper (X.mapper.proposeExactTargets_proposes sequence arguments)
  | discardUnstaged proposal =>
    rw [Lockstep.step, List.append_nil]
    exact h.withMapper (X.mapper.discardUnstaged_proposes proposal)
  | commitSnapshot proposal =>
    rw [Lockstep.step, List.append_nil]
    refine ⟨h.ledger, h.mapper, fun r hr hpos => ?_, h.agree⟩
    rcases List.mem_append.mp hr with hr | hr
    · exact h.reading r hr hpos
    · obtain rfl := List.mem_singleton.mp hr
      exact h.committedSnapshot hpos
  | commitLocked index =>
    rw [Lockstep.step]
    split
    · rw [List.append_nil]
      exact h
    · next proposal snapshot hr =>
        exact h.withCommit (List.mem_of_getElem? hr) fun r => List.mem_of_mem_eraseIdx
  | ledger call => exact h.withLedger call
  | shaperPropose sequence desired =>
    rw [Lockstep.step, List.append_nil]
    exact ⟨h.ledger, h.mapper, h.reading, h.agree⟩
  | shaperDiscard proposal =>
    rw [Lockstep.step, List.append_nil]
    exact ⟨h.ledger, h.mapper, h.reading, h.agree⟩
  | shaperCommit proposal =>
    rw [Lockstep.step, List.append_nil]
    exact ⟨h.ledger, h.mapper, h.reading, h.agree⟩
  | shaperAbort proposal reason =>
    rw [Lockstep.step, List.append_nil]
    exact ⟨h.ledger, h.mapper, h.reading, h.agree⟩

end LockstepInvariant

end FrankaDeploy.ClosedLoop
