import FrankaDeploy.ClosedLoop.Commands
import Mathlib.Data.Fintype.Defs
import Mathlib.Data.Finset.Insert

/-! # The dual-consumer commit ledger

`ExecutedActionLedger` of `closed_loop/ledger.py` as a state and its methods. A method returns the
state it leaves behind together with its result, because several of them latch a fault before
they raise. -/

namespace FrankaDeploy.ClosedLoop

open FrankaDeploy.Foundation
open scoped FloatArith

/-- `COMMAND_CONSUMERS`: the two actuator owners that acknowledge a command. -/
inductive CommandConsumer where
  | franka
  | rh56
deriving DecidableEq, Repr

instance : Fintype CommandConsumer := ⟨{.franka, .rh56}, fun c => by cases c <;> simp⟩

def CommandConsumer.name : CommandConsumer → String
  | .franka => "franka"
  | .rh56 => "rh56"

def commandConsumers : List CommandConsumer := [.franka, .rh56]

/-- `str(consumer).strip().lower()`, looked up among the consumers. -/
def consumerOfName (consumer : String) : Except PyError CommandConsumer :=
  match commandConsumers.find? (fun c => c.name = pyLower (pyStrip consumer)) with
  | some c => .ok c
  | none => .error (.valueError "consumer must be one of ('franka', 'rh56')")

/-- **The state of `ExecutedActionLedger`.** -/
structure ExecutedActionLedger (D S : Type) [FloatArith D] [FloatArith S] where
  maximumCommitLatencyS : D
  previous : FiniteVec 13 S
  lastCommittedSequence : ℕ
  pending : Option (ClosedLoopCommand D S)
  acknowledged : Finset CommandConsumer
  faultReason : Option String

namespace ExecutedActionLedger

variable {D S : Type} [FloatArith D] [FloatArith S]

def fresh (maximumCommitLatencyS : D) (initial : FiniteVec 13 S) : ExecutedActionLedger D S :=
  ⟨maximumCommitLatencyS, initial, 0, none, ∅, none⟩

variable (L : ExecutedActionLedger D S)

/-! ## Internal helpers -/

/-- `_fault_locked`: the first reason is kept. -/
def faultLocked (reason : String) : ExecutedActionLedger D S :=
  { L with
    faultReason := some (L.faultReason.getD (strippedOr reason "unspecified commit fault")) }

def requireHealthyLocked : Except PyError Unit :=
  match L.faultReason with
  | some reason => .error (.runtimeError s!"action commit ledger fault is latched: {reason}")
  | none => .ok ()

def faultAndRaise {α : Type} (reason : String) : ExecutedActionLedger D S × Except PyError α :=
  (L.faultLocked reason, .error (.runtimeError ((L.faultLocked reason).faultReason.getD "")))

def committedSnapshot : ExecutedActionCommit S := ⟨L.lastCommittedSequence, L.previous⟩

/-! ## The methods -/

def stage (command : ClosedLoopCommand D S) (nowMonotonicS : D) :
    ExecutedActionLedger D S × Except PyError Unit :=
  match finiteScalar nowMonotonicS "now_monotonic_s", L.requireHealthyLocked with
  | .error e, _ => (L, .error e)
  | .ok _, .error e => (L, .error e)
  | .ok now, .ok () =>
    if L.pending.isSome then
      L.faultAndRaise "cannot stage a new command while another is uncommitted"
    else if command.sequence ≠ L.lastCommittedSequence + 1 then
      L.faultAndRaise "command sequence does not follow the last committed command"
    else if !command.previousExecutedAction13Used.1.arrayEqual L.previous.1 then
      L.faultAndRaise "policy observation used an uncommitted previous action"
    else
      let age := now - command.producedMonotonicS
      if age < FloatArith.zero then
        -- this one raises without latching a fault
        (L, .error (.runtimeError "staged command timestamp is in the future"))
      else if L.maximumCommitLatencyS < age then
        L.faultAndRaise "command was already too old when staged"
      else ({ L with pending := some command, acknowledged := ∅ }, .ok ())

/-- `acknowledge`: `true` when this acknowledgement completed the commit. -/
def acknowledge (consumer : String) (sequence : ℤ) (nowMonotonicS : D) :
    ExecutedActionLedger D S × Except PyError Bool :=
  match consumerOfName consumer, finiteScalar nowMonotonicS "now_monotonic_s",
      L.requireHealthyLocked, L.pending with
  | .error e, _, _, _ => (L, .error e)
  | .ok _, .error e, _, _ => (L, .error e)
  | .ok _, .ok _, .error e, _ => (L, .error e)
  | .ok _, .ok _, .ok (), none =>
    (L, .error (.runtimeError "there is no command awaiting commit"))
  | .ok name, .ok now, .ok (), some command =>
    match positiveInteger D sequence "acknowledged sequence" with
    | .error e => (L, .error e)
    | .ok acknowledgedSequence =>
      if acknowledgedSequence.1 ≠ command.sequence then
        L.faultAndRaise (s!"{name.name} acknowledged sequence {acknowledgedSequence.1}, " ++
          s!"expected {command.sequence}")
      else
        let latency := now - command.producedMonotonicS
        if latency < FloatArith.zero then
          L.faultAndRaise s!"{name.name} acknowledgement timestamp is in the future"
        else if L.maximumCommitLatencyS < latency then
          L.faultAndRaise (s!"{name.name} acknowledgement exceeded commit latency: " ++
            s!"actual={FloatArith.fixedText 6 latency}s, " ++
            s!"limit={FloatArith.fixedText 6 L.maximumCommitLatencyS}s")
        else
          let acknowledged := insert name L.acknowledged
          if acknowledged ≠ Finset.univ then
            ({ L with acknowledged := acknowledged }, .ok false)
          else
            match readonlyFloatVector command.executedPolicyAction13.1
                "committed executed_policy_action13" with
            | .error e => ({ L with acknowledged := acknowledged }, .error e)
            | .ok previous =>
              ({ L with
                  previous := previous
                  lastCommittedSequence := command.sequence
                  pending := none
                  acknowledged := ∅ }, .ok true)

def requireCommitDeadline (nowMonotonicS : D) : ExecutedActionLedger D S × Except PyError Unit :=
  match finiteScalar nowMonotonicS "now_monotonic_s", L.requireHealthyLocked, L.pending with
  | .error e, _, _ => (L, .error e)
  | .ok _, .error e, _ => (L, .error e)
  | .ok _, .ok (), none => (L, .ok ())
  | .ok now, .ok (), some command =>
    let latency := now - command.producedMonotonicS
    if latency < FloatArith.zero then L.faultAndRaise "commit deadline clock regressed"
    else if L.maximumCommitLatencyS < latency then
      let missing := commandConsumers.filter (· ∉ L.acknowledged)
      L.faultAndRaise ("command commit deadline expired; missing acknowledgements=" ++
        String.intercalate "," (missing.map (·.name)))
    else (L, .ok ())

/-- `fail`: an actuator owner reports that it could not carry the command out. -/
def fail (consumer : String) (sequence : ℤ) (reason : String) :
    ExecutedActionLedger D S × Except PyError Unit :=
  match consumerOfName consumer with
  | .error e => (L, .error e)
  | .ok name =>
    let detail := strippedOr reason "unspecified actuator failure"
    let expected := match L.pending with
      | none => "None"
      | some command => toString command.sequence
    (L.faultLocked (s!"{name.name} failed sequence {sequence} (pending={expected}): " ++ detail),
      .ok ())

/-- `consumer_acknowledged`, a query that leaves the ledger alone. -/
def consumerAcknowledged (consumer : String) (sequence : ℤ) : Except PyError Bool := do
  let name ← consumerOfName consumer
  let acknowledgedSequence ← positiveInteger D sequence "acknowledged sequence"
  L.requireHealthyLocked
  if acknowledgedSequence.1 = L.lastCommittedSequence then return true
  let query := "acknowledgement query sequence is neither pending nor the last committed " ++
    s!"sequence: query={acknowledgedSequence.1}, "
  match L.pending with
  | none => throw (.runtimeError (query ++ s!"pending=None, committed={L.lastCommittedSequence}"))
  | some command =>
    if command.sequence ≠ acknowledgedSequence.1 then
      throw (.runtimeError
        (query ++ s!"pending={command.sequence}, committed={L.lastCommittedSequence}"))
    return decide (name ∈ L.acknowledged)

end ExecutedActionLedger

end FrankaDeploy.ClosedLoop
