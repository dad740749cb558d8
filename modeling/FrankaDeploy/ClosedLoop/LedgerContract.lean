import FrankaDeploy.ClosedLoop.Ledger
import FrankaDeploy.Foundation.Ieee754
import FrankaDeploy.Foundation.Machine

/-! # What a run of ledger calls guarantees

`ledgerMachine` drives one ledger with an arbitrary list of calls, in any order and with any clock
readings, and records the commands it commits. `step_cases` says once what a call can do; the
guarantees over whole runs follow from it. -/

namespace FrankaDeploy.ClosedLoop

open FrankaDeploy.Foundation
open scoped FloatArith

variable {D S : Type} [FloatArith D] [FloatArith S]

/-- **A call on the ledger** with its arguments. -/
inductive LedgerCall (D S : Type) [FloatArith D] [FloatArith S] where
  | stage (command : ClosedLoopCommand D S) (now : D)
  | acknowledge (consumer : String) (sequence : ℤ) (now : D)
  | requireCommitDeadline (now : D)
  | fail (consumer : String) (sequence : ℤ) (reason : String)
  | consumerAcknowledged (consumer : String) (sequence : ℤ)

namespace ExecutedActionLedger

variable (L : ExecutedActionLedger D S)

def perform : LedgerCall D S → ExecutedActionLedger D S × Except PyError (Option Bool)
  | .stage command now =>
    ((L.stage command now).1, (L.stage command now).2.map fun _ => none)
  | .acknowledge consumer sequence now =>
    ((L.acknowledge consumer sequence now).1, (L.acknowledge consumer sequence now).2.map some)
  | .requireCommitDeadline now =>
    ((L.requireCommitDeadline now).1, (L.requireCommitDeadline now).2.map fun _ => none)
  | .fail consumer sequence reason =>
    ((L.fail consumer sequence reason).1, (L.fail consumer sequence reason).2.map fun _ => none)
  | .consumerAcknowledged consumer sequence =>
    (L, (L.consumerAcknowledged consumer sequence).map some)

/-- The command a call commits: the pending one when an acknowledgement returns `True`. -/
def committedBy : LedgerCall D S → List (ClosedLoopCommand D S)
  | .acknowledge consumer sequence now =>
    match (L.acknowledge consumer sequence now).2 with
    | .ok true => L.pending.toList
    | _ => []
  | _ => []

/-- The commit itself, as `acknowledge` performs it. -/
def commit (command : ClosedLoopCommand D S) : ExecutedActionLedger D S :=
  { L with
    previous := command.executedPolicyAction13
    lastCommittedSequence := command.sequence
    pending := none
    acknowledged := ∅ }

/-- **`call` acknowledges `command` for consumer `c` within the allowed latency**: the ledger is
healthy, the command is pending and named by its sequence, and its age is neither negative nor
above the maximum. -/
structure Acknowledges (call : LedgerCall D S) (c : CommandConsumer)
    (command : ClosedLoopCommand D S) : Prop where
  pending : L.pending = some command
  healthy : L.faultReason = none
  call_eq : ∃ consumer sequence now hpos, call = .acknowledge consumer sequence now ∧
    consumerOfName consumer = .ok c ∧ FloatArith.isFinite now = true ∧
    positiveInteger D sequence "acknowledged sequence" = .ok ⟨command.sequence, hpos⟩ ∧
    ¬ now - command.producedMonotonicS < FloatArith.zero ∧
    ¬ L.maximumCommitLatencyS < now - command.producedMonotonicS

end ExecutedActionLedger

open ExecutedActionLedger

def ledgerMachine (D S : Type) [FloatArith D] [FloatArith S] :
    Machine (ExecutedActionLedger D S) (LedgerCall D S) (ClosedLoopCommand D S) where
  step L call := ((L.perform call).1, L.committedBy call)

@[simp] theorem ledgerMachine_step (L : ExecutedActionLedger D S) (call : LedgerCall D S) :
    (ledgerMachine D S).step L call = ((L.perform call).1, L.committedBy call) := rfl

namespace ExecutedActionLedger

variable (L : ExecutedActionLedger D S)

/-! ## Small facts about the helpers -/

@[simp] theorem requireHealthyLocked_eq_ok {u : Unit} :
    L.requireHealthyLocked = .ok u ↔ L.faultReason = none := by
  unfold requireHealthyLocked
  cases L.faultReason <;> simp

theorem faultLocked_of_some {r : String} (h : L.faultReason = some r) (reason : String) :
    L.faultLocked reason = L := by
  cases L
  simp_all [faultLocked]

@[simp] theorem faultLocked_lastCommittedSequence (reason : String) :
    (L.faultLocked reason).lastCommittedSequence = L.lastCommittedSequence := rfl

@[simp] theorem faultLocked_previous (reason : String) :
    (L.faultLocked reason).previous = L.previous := rfl

@[simp] theorem faultLocked_pending (reason : String) :
    (L.faultLocked reason).pending = L.pending := rfl

@[simp] theorem faultLocked_acknowledged (reason : String) :
    (L.faultLocked reason).acknowledged = L.acknowledged := rfl

/-! ## What each method can do -/

theorem stage_cases (command : ClosedLoopCommand D S) (now : D) :
    (L.stage command now).1 = L ∨
    (∃ r, (L.stage command now).1 = L.faultLocked r) ∨
    (L.faultReason = none ∧ L.pending = none ∧
      command.sequence = L.lastCommittedSequence + 1 ∧
      (L.stage command now).1 = { L with pending := some command, acknowledged := ∅ }) := by
  unfold stage
  split
  · exact .inl rfl
  · exact .inl rfl
  · next now' healthy =>
      rw [requireHealthyLocked_eq_ok] at healthy
      dsimp only
      by_cases hpending : L.pending.isSome = true
      · rw [if_pos hpending]
        exact .inr (.inl ⟨_, rfl⟩)
      rw [if_neg hpending]
      by_cases hsequence : command.sequence = L.lastCommittedSequence + 1
      · rw [if_neg (not_not.mpr hsequence)]
        split_ifs
        · exact .inr (.inl ⟨_, rfl⟩)
        · exact .inl rfl
        · exact .inr (.inl ⟨_, rfl⟩)
        · exact .inr (.inr ⟨healthy, by simpa using hpending, hsequence, rfl⟩)
      · rw [if_pos hsequence]
        exact .inr (.inl ⟨_, rfl⟩)

theorem acknowledge_cases (consumer : String) (sequence : ℤ) (now : D) :
    (∃ e, L.acknowledge consumer sequence now = (L, .error e)) ∨
    (∃ r, L.acknowledge consumer sequence now = L.faultAndRaise r) ∨
    (∃ c command, L.Acknowledges (.acknowledge consumer sequence now) c command ∧
      insert c L.acknowledged ≠ Finset.univ ∧
      L.acknowledge consumer sequence now =
        ({ L with acknowledged := insert c L.acknowledged }, .ok false)) ∨
    (∃ c command, L.Acknowledges (.acknowledge consumer sequence now) c command ∧
      insert c L.acknowledged = Finset.univ ∧
      L.acknowledge consumer sequence now = (L.commit command, .ok true)) := by
  unfold acknowledge
  split
  · exact .inl ⟨_, rfl⟩
  · exact .inl ⟨_, rfl⟩
  · exact .inl ⟨_, rfl⟩
  · exact .inl ⟨_, rfl⟩
  · next name now' command hname hnow healthy hpending =>
      rw [requireHealthyLocked_eq_ok] at healthy
      rw [finiteScalar_eq_ok] at hnow
      obtain ⟨hfinite, rfl⟩ := hnow
      split
      · exact .inl ⟨_, rfl⟩
      · next acknowledgedSequence hsequence =>
          simp only [readonlyFloatVector_val]
          by_cases hmatch : acknowledgedSequence.1 = command.sequence
          · rw [if_neg (not_not.mpr hmatch)]
            by_cases hfuture : now - command.producedMonotonicS < FloatArith.zero
            · rw [if_pos hfuture]
              exact .inr (.inl ⟨_, rfl⟩)
            rw [if_neg hfuture]
            by_cases hlate : L.maximumCommitLatencyS < now - command.producedMonotonicS
            · rw [if_pos hlate]
              exact .inr (.inl ⟨_, rfl⟩)
            rw [if_neg hlate]
            have hsequence' : positiveInteger D sequence "acknowledged sequence" =
                .ok ⟨command.sequence, command.sequence_pos⟩ :=
              hsequence.trans (congrArg Except.ok (Subtype.ext hmatch))
            have hack : L.Acknowledges (.acknowledge consumer sequence now) name command :=
              ⟨hpending, healthy, consumer, sequence, now, command.sequence_pos, rfl, hname,
                hfinite, hsequence', hfuture, hlate⟩
            by_cases hmissing : insert name L.acknowledged = Finset.univ
            · rw [if_neg (not_not.mpr hmissing)]
              exact .inr (.inr (.inr ⟨name, command, hack, hmissing, rfl⟩))
            · rw [if_pos hmissing]
              exact .inr (.inr (.inl ⟨name, command, hack, hmissing, rfl⟩))
          · rw [if_pos hmatch]
            exact .inr (.inl ⟨_, rfl⟩)

theorem requireCommitDeadline_cases (now : D) :
    (L.requireCommitDeadline now).1 = L ∨
    ∃ r, (L.requireCommitDeadline now).1 = L.faultLocked r := by
  unfold requireCommitDeadline
  split
  · exact .inl rfl
  · exact .inl rfl
  · exact .inl rfl
  · dsimp only
    split_ifs
    · exact .inr ⟨_, rfl⟩
    · exact .inr ⟨_, rfl⟩
    · exact .inl rfl

theorem fail_cases (consumer : String) (sequence : ℤ) (reason : String) :
    (L.fail consumer sequence reason).1 = L ∨
    ∃ r, (L.fail consumer sequence reason).1 = L.faultLocked r := by
  unfold fail
  split
  · exact .inl rfl
  · exact .inr ⟨_, rfl⟩

/-- **What one call can do**: nothing, latch a fault, stage the successor of the last committed
command, record an acknowledgement, or commit. -/
theorem step_cases (call : LedgerCall D S) :
    ((L.perform call).1 = L ∧ L.committedBy call = []) ∨
    (∃ r, (L.perform call).1 = L.faultLocked r ∧ L.committedBy call = []) ∨
    (∃ command, L.faultReason = none ∧ L.pending = none ∧
      command.sequence = L.lastCommittedSequence + 1 ∧
      (L.perform call).1 = { L with pending := some command, acknowledged := ∅ } ∧
      L.committedBy call = []) ∨
    (∃ c command, L.Acknowledges call c command ∧ insert c L.acknowledged ≠ Finset.univ ∧
      L.perform call = ({ L with acknowledged := insert c L.acknowledged }, .ok (some false)) ∧
      L.committedBy call = []) ∨
    (∃ c command, L.Acknowledges call c command ∧ insert c L.acknowledged = Finset.univ ∧
      L.perform call = (L.commit command, .ok (some true)) ∧
      L.committedBy call = [command]) := by
  cases call with
  | stage command now =>
    obtain h | ⟨r, h⟩ | ⟨healthy, hpending, hsequence, h⟩ := L.stage_cases command now
    · exact .inl ⟨h, rfl⟩
    · exact .inr (.inl ⟨r, h, rfl⟩)
    · exact .inr (.inr (.inl ⟨command, healthy, hpending, hsequence, h, rfl⟩))
  | acknowledge consumer sequence now =>
    obtain ⟨e, h⟩ | ⟨r, h⟩ | ⟨c, command, hack, hmissing, h⟩ | ⟨c, command, hack, hall, h⟩ :=
      L.acknowledge_cases consumer sequence now
    · exact .inl ⟨by simp only [perform, h], by simp only [committedBy, h]⟩
    · exact .inr (.inl ⟨r, by simp only [perform, h, faultAndRaise],
        by simp only [committedBy, h, faultAndRaise]⟩)
    · exact .inr (.inr (.inr (.inl ⟨c, command, hack, hmissing,
        by simp only [perform, h, Except.map], by simp only [committedBy, h]⟩)))
    · refine .inr (.inr (.inr (.inr ⟨c, command, hack, hall, ?_, ?_⟩)))
      · simp only [perform, h, Except.map]
      · simp only [committedBy, h, hack.pending, Option.toList]
  | requireCommitDeadline now =>
    obtain h | ⟨r, h⟩ := L.requireCommitDeadline_cases now
    · exact .inl ⟨by simp only [perform, h], rfl⟩
    · exact .inr (.inl ⟨r, by simp only [perform, h], rfl⟩)
  | fail consumer sequence reason =>
    obtain h | ⟨r, h⟩ := L.fail_cases consumer sequence reason
    · exact .inl ⟨by simp only [perform, h], rfl⟩
    · exact .inr (.inl ⟨r, by simp only [perform, h], rfl⟩)
  | consumerAcknowledged consumer sequence => exact .inl ⟨rfl, rfl⟩

/-! ## A latched fault freezes the ledger -/

theorem step_of_faulted {r : String} (h : L.faultReason = some r) (call : LedgerCall D S) :
    (L.perform call).1 = L ∧ L.committedBy call = [] := by
  have hno : L.faultReason ≠ none := by simp [h]
  obtain hsame | ⟨r', hstate, hnone⟩ | ⟨command, healthy, -⟩ | ⟨c, command, hack, -⟩ |
    ⟨c, command, hack, -⟩ := L.step_cases call
  · exact hsame
  · exact ⟨hstate.trans (L.faultLocked_of_some h r'), hnone⟩
  · exact absurd healthy hno
  · exact absurd hack.healthy hno
  · exact absurd hack.healthy hno

end ExecutedActionLedger

theorem run_of_faulted {L : ExecutedActionLedger D S} {r : String} (h : L.faultReason = some r)
    (calls : List (LedgerCall D S)) :
    (ledgerMachine D S).run L calls = L ∧ (ledgerMachine D S).trace L calls = [] := by
  induction calls with
  | nil => exact ⟨rfl, rfl⟩
  | cons call calls ih =>
    obtain ⟨hstate, hnone⟩ := L.step_of_faulted h call
    rw [Machine.run_cons, Machine.trace_cons, ledgerMachine_step]
    dsimp only
    rw [hstate, hnone]
    exact ih

/-! ## Invariants of a run -/

/-- **The commit history explains the ledger**: the committed sequences are `1, 2, …` up to the
last one, the previous action is the executed action of the last committed command, and a pending
command carries the next sequence. -/
structure HistoryInvariant (initial : FiniteVec 13 S) (L : ExecutedActionLedger D S)
    (history : List (ClosedLoopCommand D S)) : Prop where
  sequences : history.map (·.sequence) = List.range' 1 L.lastCommittedSequence
  previous : L.previous = (history.getLast?.map (·.executedPolicyAction13)).getD initial
  pending : ∀ command, L.pending = some command → command.sequence = L.lastCommittedSequence + 1

theorem HistoryInvariant.step {initial : FiniteVec 13 S} {L : ExecutedActionLedger D S}
    {history : List (ClosedLoopCommand D S)} (h : HistoryInvariant initial L history)
    (call : LedgerCall D S) :
    HistoryInvariant initial (L.perform call).1 (history ++ L.committedBy call) := by
  obtain ⟨hstate, hnone⟩ | ⟨r, hstate, hnone⟩ | ⟨command, -, -, hsequence, hstate, hnone⟩ |
    ⟨c, command, hack, -, hstate, hnone⟩ | ⟨c, command, hack, -, hstate, hcommit⟩ :=
    L.step_cases call
  · rw [hstate, hnone, List.append_nil]
    exact h
  · rw [hstate, hnone, List.append_nil]
    exact ⟨h.sequences, h.previous, h.pending⟩
  · rw [hstate, hnone, List.append_nil]
    refine ⟨h.sequences, h.previous, fun command' heq => ?_⟩
    exact Option.some.inj heq ▸ hsequence
  · rw [hstate, hnone, List.append_nil]
    exact ⟨h.sequences, h.previous, h.pending⟩
  · rw [hstate, hcommit]
    have hsequence := h.pending command hack.pending
    refine ⟨?_, ?_, fun command' heq => by simp [commit] at heq⟩
    · simp only [List.map_append, h.sequences, List.map_cons, List.map_nil, commit, hsequence]
      rw [List.range'_concat, Nat.one_mul, Nat.add_comm 1]
    · simp [commit]

theorem historyInvariant_run (maximum : D) (initial : FiniteVec 13 S)
    (calls : List (LedgerCall D S)) :
    HistoryInvariant initial ((ledgerMachine D S).run (fresh maximum initial) calls)
      ((ledgerMachine D S).trace (fresh maximum initial) calls) := by
  refine (ledgerMachine D S).monitor_induction ?_ (fun L history call h => h.step call) calls
  exact ⟨rfl, rfl, fun command h => by simp [fresh] at h⟩

/-- **Consumer `c` acknowledged `command` in time during the run** that starts in `L₀`. -/
def AcknowledgedDuring (L₀ : ExecutedActionLedger D S) (calls : List (LedgerCall D S))
    (c : CommandConsumer) (command : ClosedLoopCommand D S) : Prop :=
  ∃ pre call post, calls = pre ++ call :: post ∧
    ((ledgerMachine D S).run L₀ pre).Acknowledges call c command

theorem AcknowledgedDuring.concat {L₀ : ExecutedActionLedger D S}
    {calls : List (LedgerCall D S)} {c : CommandConsumer} {command : ClosedLoopCommand D S}
    (h : AcknowledgedDuring L₀ calls c command) (call : LedgerCall D S) :
    AcknowledgedDuring L₀ (calls ++ [call]) c command := by
  obtain ⟨pre, ack, post, rfl, hack⟩ := h
  exact ⟨pre, ack, post ++ [call], by simp, hack⟩

/-- **The acknowledged set tells what happened**: each consumer in it acknowledged the pending
command in time. -/
theorem acknowledgedDuring_of_mem (maximum : D) (initial : FiniteVec 13 S)
    (calls : List (LedgerCall D S)) (c : CommandConsumer)
    (hmem : c ∈ ((ledgerMachine D S).run (fresh maximum initial) calls).acknowledged) :
    ∃ command, ((ledgerMachine D S).run (fresh maximum initial) calls).pending = some command ∧
      AcknowledgedDuring (fresh maximum initial) calls c command := by
  revert hmem
  refine (ledgerMachine D S).history_induction (s := fresh maximum initial)
    (P := fun is L => c ∈ L.acknowledged → ∃ command, L.pending = some command ∧
      AcknowledgedDuring (fresh maximum initial) is c command) ?_ ?_ calls
  · intro hmem
    simp [fresh] at hmem
  · intro is call ih
    rw [ledgerMachine_step]
    obtain ⟨hstate, -⟩ | ⟨r, hstate, -⟩ | ⟨command, -, -, -, hstate, -⟩ |
      ⟨c', command, hack, -, hstate, -⟩ | ⟨c', command, -, -, hstate, -⟩ :=
      ((ledgerMachine D S).run (fresh maximum initial) is).step_cases call
    · rw [hstate]
      intro hmem
      obtain ⟨command, hpending, hdone⟩ := ih hmem
      exact ⟨command, hpending, hdone.concat call⟩
    · rw [hstate]
      intro hmem
      obtain ⟨command, hpending, hdone⟩ := ih hmem
      exact ⟨command, hpending, hdone.concat call⟩
    · rw [hstate]
      intro hmem
      simp at hmem
    · rw [hstate]
      intro hmem
      refine ⟨command, hack.pending, ?_⟩
      rcases Finset.mem_insert.mp hmem with rfl | hmem
      · exact ⟨is, call, [], rfl, hack⟩
      · obtain ⟨command', hpending, hdone⟩ := ih hmem
        have heq : command' = command := Option.some.inj (hpending.symm.trans hack.pending)
        exact heq ▸ hdone.concat call
    · rw [hstate]
      intro hmem
      simp [commit] at hmem

theorem acknowledged_ne_univ (maximum : D) (initial : FiniteVec 13 S)
    (calls : List (LedgerCall D S)) :
    ((ledgerMachine D S).run (fresh maximum initial) calls).acknowledged ≠ Finset.univ := by
  have hempty : (∅ : Finset CommandConsumer) ≠ Finset.univ := by decide
  refine (ledgerMachine D S).run_induction (P := fun L => L.acknowledged ≠ Finset.univ)
    hempty ?_ calls
  intro L call h
  rw [ledgerMachine_step]
  obtain ⟨hstate, -⟩ | ⟨r, hstate, -⟩ | ⟨command, -, -, -, hstate, -⟩ |
    ⟨c, command, -, hmissing, hstate, -⟩ | ⟨c, command, -, -, hstate, -⟩ := L.step_cases call
  · rwa [hstate]
  · rwa [hstate]
  · rw [hstate]
    exact hempty
  · rw [hstate]
    exact hmissing
  · rw [hstate]
    exact hempty

theorem perform_of_acknowledges {L : ExecutedActionLedger D S} {call : LedgerCall D S}
    {c : CommandConsumer} {command : ClosedLoopCommand D S} (hack : L.Acknowledges call c command) :
    L.perform call =
      if insert c L.acknowledged = Finset.univ then (L.commit command, .ok (some true))
      else ({ L with acknowledged := insert c L.acknowledged }, .ok (some false)) := by
  obtain ⟨consumer, sequence, now, hpos, rfl, hname, hnow, hsequence, hfuture, hlate⟩ :=
    hack.call_eq
  have hfinite : finiteScalar now "now_monotonic_s" = .ok now :=
    finiteScalar_eq_ok.mpr ⟨hnow, rfl⟩
  have hhealthy : L.requireHealthyLocked = .ok () := L.requireHealthyLocked_eq_ok.mpr hack.healthy
  simp only [perform, acknowledge, hname, hfinite, hhealthy, hack.pending, hsequence, ne_eq,
    not_true_eq_false, if_false, hfuture, hlate, readonlyFloatVector_val]
  by_cases hall : insert c L.acknowledged = Finset.univ
  · simp only [hall, not_true_eq_false, if_false, if_true, commit, Except.map]
  · simp only [hall, not_false_eq_true, if_true, if_false, Except.map]

/-- After an acknowledgement the command is committed, or it is still pending with the
acknowledgement on record. The sequence numbers only grow, so a committed command never returns. -/
theorem acknowledged_or_committed (maximum : D) (initial : FiniteVec 13 S)
    {calls : List (LedgerCall D S)} {c : CommandConsumer} {command : ClosedLoopCommand D S}
    (hdone : AcknowledgedDuring (fresh maximum initial) calls c command) :
    (((ledgerMachine D S).run (fresh maximum initial) calls).pending = some command ∧
      c ∈ ((ledgerMachine D S).run (fresh maximum initial) calls).acknowledged) ∨
    command.sequence ≤
      ((ledgerMachine D S).run (fresh maximum initial) calls).lastCommittedSequence := by
  obtain ⟨pre, ack, post, rfl, hack⟩ := hdone
  have hpre := (historyInvariant_run maximum initial pre).pending
  rw [Machine.run_append, Machine.run_cons, ledgerMachine_step]
  generalize (ledgerMachine D S).run (fresh maximum initial) pre = L at hack hpre
  refine ((ledgerMachine D S).run_induction
    (P := fun L' => ((L'.pending = some command ∧ c ∈ L'.acknowledged) ∨
        command.sequence ≤ L'.lastCommittedSequence) ∧
      ∀ command', L'.pending = some command' →
        command'.sequence = L'.lastCommittedSequence + 1) ?_ ?_ post).1
  · -- the acknowledgement itself: recorded, or the one that commits
    rw [perform_of_acknowledges hack]
    split_ifs
    · exact ⟨.inr le_rfl, fun command' h => by simp [commit] at h⟩
    · exact ⟨.inl ⟨hack.pending, Finset.mem_insert_self _ _⟩, hpre⟩
  · rintro L' call ⟨hL', hpending⟩
    rw [ledgerMachine_step]
    obtain ⟨hstate, -⟩ | ⟨r, hstate, -⟩ | ⟨command', -, hnone, hsequence, hstate, -⟩ |
      ⟨c', command', hack', -, hstate, -⟩ | ⟨c', command', hack', -, hstate, -⟩ :=
      L'.step_cases call
    · rw [hstate]
      exact ⟨hL', hpending⟩
    · rw [hstate]
      exact ⟨hL', hpending⟩
    · rw [hstate]
      refine ⟨.inr ?_, fun command'' h => Option.some.inj h ▸ hsequence⟩
      exact hL'.resolve_left fun h => by simp [hnone] at h
    · rw [hstate]
      exact ⟨hL'.imp_left fun h => ⟨h.1, Finset.mem_insert_of_mem h.2⟩, hpending⟩
    · rw [hstate]
      refine ⟨.inr ?_, fun command'' h => by simp [commit] at h⟩
      rcases hL' with ⟨hsame, -⟩ | hle
      · have heq : command' = command := Option.some.inj (hack'.pending.symm.trans hsame)
        exact heq ▸ le_rfl
      · exact hle.trans ((Nat.le_succ _).trans (hpending command' hack'.pending).ge)

/-! ## The contract of the ledger -/

/-- **What every run from `L₀` guarantees.** -/
structure LedgerContract (L₀ : ExecutedActionLedger D S) : Prop where
  /-- The last committed sequence and the previous action change only when the pending command
  was acknowledged in time by every consumer, and then to that command's own. -/
  changes : ∀ calls call,
    let L := (ledgerMachine D S).run L₀ calls
    let L' := (ledgerMachine D S).run L₀ (calls ++ [call])
    L'.lastCommittedSequence ≠ L.lastCommittedSequence ∨ L'.previous ≠ L.previous →
      ∃ command, L.pending = some command ∧ L'.lastCommittedSequence = command.sequence ∧
        L'.previous = command.executedPolicyAction13 ∧
        ∀ c, AcknowledgedDuring L₀ (calls ++ [call]) c command
  contiguous : ∀ calls,
    ((ledgerMachine D S).trace L₀ calls).map (·.sequence) =
      List.range' 1 ((ledgerMachine D S).run L₀ calls).lastCommittedSequence
  previous : ∀ calls,
    ((ledgerMachine D S).run L₀ calls).previous =
      (((ledgerMachine D S).trace L₀ calls).getLast?.map (·.executedPolicyAction13)).getD
        L₀.previous
  duplicate : ∀ calls call c command, AcknowledgedDuring L₀ calls c command →
    ((ledgerMachine D S).run L₀ calls).Acknowledges call c command →
      ((ledgerMachine D S).run L₀ calls).perform call =
        ((ledgerMachine D S).run L₀ calls, .ok (some false))
  nothing_pending : ∀ calls consumer sequence now,
    ((ledgerMachine D S).run L₀ calls).pending = none →
      (((ledgerMachine D S).run L₀ calls).acknowledge consumer sequence now).1 =
          (ledgerMachine D S).run L₀ calls ∧
        ∃ e, (((ledgerMachine D S).run L₀ calls).acknowledge consumer sequence now).2 = .error e
  first_fault : ∀ calls later reason,
    ((ledgerMachine D S).run L₀ calls).faultReason = some reason →
      (ledgerMachine D S).run L₀ (calls ++ later) = (ledgerMachine D S).run L₀ calls ∧
        (ledgerMachine D S).trace L₀ (calls ++ later) = (ledgerMachine D S).trace L₀ calls

theorem acknowledge_of_pending_none {L : ExecutedActionLedger D S} (h : L.pending = none)
    (consumer : String) (sequence : ℤ) (now : D) :
    (L.acknowledge consumer sequence now).1 = L ∧
      ∃ e, (L.acknowledge consumer sequence now).2 = .error e := by
  unfold acknowledge
  split
  · exact ⟨rfl, _, rfl⟩
  · exact ⟨rfl, _, rfl⟩
  · exact ⟨rfl, _, rfl⟩
  · exact ⟨rfl, _, rfl⟩
  · next hpending => simp [h] at hpending

theorem acknowledgedDuring_of_commit (maximum : D) (initial : FiniteVec 13 S)
    {calls : List (LedgerCall D S)} {call : LedgerCall D S} {c : CommandConsumer}
    {command : ClosedLoopCommand D S}
    (hack : ((ledgerMachine D S).run (fresh maximum initial) calls).Acknowledges call c command)
    (hall : insert c ((ledgerMachine D S).run (fresh maximum initial) calls).acknowledged =
      Finset.univ) (c' : CommandConsumer) :
    AcknowledgedDuring (fresh maximum initial) (calls ++ [call]) c' command := by
  rcases Finset.mem_insert.mp (hall ▸ Finset.mem_univ c') with rfl | hmem
  · exact ⟨calls, call, [], rfl, hack⟩
  · obtain ⟨command', hpending, hdone⟩ := acknowledgedDuring_of_mem maximum initial calls c' hmem
    have heq : command' = command := Option.some.inj (hpending.symm.trans hack.pending)
    exact heq ▸ hdone.concat call

theorem isFinite_zero32 : FloatArith.isFinite (FloatArith.zero : Binary32) = true := by
  decide +kernel

theorem allFinite_zero (n : ℕ) :
    Vec.allFinite (fun _ : Fin n => (FloatArith.zero : Binary32)) = true :=
  (Vec.allFinite_iff _).mpr fun _ => isFinite_zero32

def zeroVec (n : ℕ) : FiniteVec n Binary32 := ⟨fun _ => FloatArith.zero, allFinite_zero n⟩

def firstCommand : ClosedLoopCommand Binary64 Binary32 where
  sequence := 1
  producedMonotonicS := FloatArith.zero
  observationRealtimeS := FloatArith.zero
  previousExecutedAction13Used := zeroVec 13
  rawPolicyAction13 := zeroVec 13
  executedPolicyAction13 := zeroVec 13
  frankaTargetQRad := zeroVec 7
  rh56AngleSetRegisterOrder := fun _ => 0
  holdArmTarget := false
  previousPolicyAction13Used := zeroVec 13
  sequence_pos := Nat.one_pos
  produced_finite := isFinite_zero
  observation_finite := isFinite_zero
  executed_within := by decide +kernel

def franka1Acknowledged : ExecutedActionLedger Binary64 Binary32 :=
  (ledgerMachine Binary64 Binary32).run (fresh (FloatArith.ofRat (1 / 2)) (zeroVec 13))
    [.stage firstCommand FloatArith.zero, .acknowledge "franka" 1 FloatArith.zero]

end FrankaDeploy.ClosedLoop
