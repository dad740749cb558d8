import FrankaDeploy.ClosedLoop.LedgerContract
import FrankaDeploy.Foundation.Monitor
import FrankaDeploy.Rh56.StopContract
import FrankaDeploy.Rh56.TargetTransaction

/-! # Supervised sample-and-hold

What the actuator believes about the device in a supervised session. The device may apply a write
whose call raises, or any part of it; what it reads back is true, and nobody else writes. -/

namespace FrankaDeploy.Rh56

open FrankaDeploy.Foundation FrankaDeploy.Foundation.Program FrankaDeploy.Foundation.Monitor
open FrankaDeploy.ClosedLoop
open scoped FloatArith

variable {D S τ : Type} [FloatArith D] [FloatArith S]

/-! ## The device -/

/-- **A truthful device.** A write that returns is applied, one that raises may leave anything; a
readback shows the registers; nothing else changes them. -/
structure Truthful (W : HandWorld D τ) : Prop where
  monotonic : ∀ w, W.angleSet (W.monotonic w).2 = W.angleSet w
  sleep : ∀ d w, W.angleSet (W.sleep d w).2 = W.angleSet w
  readAngleSet : ∀ d w, W.angleSet (W.readAngleSet d w).2 = W.angleSet w
  readSafetyFeedback : ∀ d w, W.angleSet (W.readSafetyFeedback d w).2 = W.angleSet w
  requireMotion : ∀ r d w, W.angleSet (W.requireMotion r d w).2 = W.angleSet w
  ledgerPending : ∀ w, W.angleSet (W.ledgerPending w).2 = W.angleSet w
  ledgerAcknowledge : ∀ n d w, W.angleSet (W.ledgerAcknowledge n d w).2 = W.angleSet w
  ledgerFail : ∀ n r w, W.angleSet (W.ledgerFail n r w).2 = W.angleSet w
  readback : ∀ d w raw, (W.readAngleSet d w).1 = .ok raw → raw = rawOf (W.angleSet w)
  written : ∀ v d w, (W.writeAngleSet v d w).1 = .ok () → W.angleSet (W.writeAngleSet v d w).2 = v

/-! ## Accounts -/

structure IssuedTarget (D : Type) where
  sequence : ℕ
  producedMonotonicS : D
  targets : SixIntegers

/-- **The account of a trace**: the command under execution, and the writes of each sequence. -/
structure Account (D : Type) where
  current : Option (IssuedTarget D)
  writes : ℕ → ℕ

def Account.note (a : Account D) : HandEvent D → Account D
  | .execute sequence produced targets => { a with current := some ⟨sequence, produced, targets⟩ }
  | .stopBegins => { a with current := none }
  | .write _ =>
    match a.current with
    | some issued =>
      { a with
        writes := Function.update a.writes issued.sequence (a.writes issued.sequence + 1) }
    | none => a
  | _ => a

def account (t : List (HandEvent D)) : Account D := t.foldl Account.note ⟨none, fun _ => 0⟩

@[simp] theorem account_snoc (t : List (HandEvent D)) (event : HandEvent D) :
    account (t ++ [event]) = (account t).note event := by
  simp [account, List.foldl_append]

/-- **An acknowledgement is true and in time**: the device holds the targets of the command under
execution, and its deadline is not over. -/
def AckTrue (A : ActuatorConfig D) (pre : List (HandEvent D)) (event : HandEvent D) : Prop :=
  ∀ sequence now registers, event = .acknowledge sequence now registers →
    ∃ issued, (account pre).current = some issued ∧ issued.sequence = sequence ∧
      registers = issued.targets ∧ ¬ issued.producedMonotonicS + A.commandWatchdogTimeoutS < now

/-! ## Runs -/

/-- **An operation of the actuator.** -/
inductive HandOperation (D S : Type) [FloatArith D] [FloatArith S] where
  | executeTargetAndAck (command : ClosedLoopCommand D S)
  | execute (command : ClosedLoopCommand D S)
  | refreshSupervisedSampleHoldHeartbeat
  | pollSafety (deferCleanup : Bool)
  | enforcePolicyWatchdog (nowMonotonicS : Option D)
  | faultAndDisable (reason : String)
  | disableAndVerify

/-- Carry out an operation; `false` is a stop that has not ended in the given rounds. -/
def HandOperation.perform (W : HandWorld D τ) (A : ActuatorConfig D) (rounds : ℕ) :
    HandOperation D S → HandM D τ Bool
  | .executeTargetAndAck command => do
    let _ ← W.executeTargetAndAck A command
    ret true
  | .execute command => do
    let receipt ← W.execute A command rounds
    ret receipt.isSome
  | .refreshSupervisedSampleHoldHeartbeat => do
    let _ ← W.refreshSupervisedSampleHoldHeartbeat A
    ret true
  | .pollSafety deferCleanup => do
    let feedback ← W.pollSafety A deferCleanup rounds
    ret feedback.isSome
  | .enforcePolicyWatchdog nowMonotonicS => do
    match ← W.enforcePolicyWatchdog A nowMonotonicS rounds with
    | .unended => ret false
    | _ => ret true
  | .faultAndDisable reason => do
    let report ← W.faultAndDisable A reason rounds
    ret report.isSome
  | .disableAndVerify => do
    let report ← W.disableAndVerify A rounds
    ret report.isSome

/-- **A run of a supervised session**: the actuator is armed, operations that are `admissible` where
they are called end or raise, and in between other threads change the world but not the device. -/
inductive SupervisedRun (W : HandWorld D τ) (A : ActuatorConfig D)
    (admissible : Hand D τ → HandOperation D S → Prop) : Hand D τ → List (HandEvent D) → Prop
    where
  | armed (actuator : RH56TransactionalActuator D) (runId : String) (now : D)
      (stop : StopLocals D) (world : τ) :
      SupervisedRun W A admissible ⟨actuator.armedSupervised runId now, stop, world⟩ []
  | world {h : Hand D τ} {t : List (HandEvent D)} (w : τ) :
      SupervisedRun W A admissible h t → W.angleSet w = W.angleSet h.world →
      SupervisedRun W A admissible { h with world := w } t
  | operation {h : Hand D τ} {t : List (HandEvent D)} (op : HandOperation D S) (rounds : ℕ) :
      SupervisedRun W A admissible h t → admissible h op →
      (op.perform W A rounds h).1 ≠ .ok false →
      SupervisedRun W A admissible (op.perform W A rounds h).2.1
        (t ++ (op.perform W A rounds h).2.2)

/-- **Sample-and-hold.** While the actuator is armed, its mirror holds the device's registers from
the first acknowledged sequence on; each acknowledgement is true and in time; each sequence has at
most one numeric write. -/
structure SampleAndHold (W : HandWorld D τ) (A : ActuatorConfig D) (h : Hand D τ)
    (t : List (HandEvent D)) : Prop where
  mirror : h.actuator.state = .armed → h.actuator.lastSupervisedTarget =
    if h.actuator.lastAcknowledgedSequence = 0 then none else some (W.angleSet h.world)
  acknowledgements : Everywhere (AckTrue A) t
  writes : ∀ sequence, (account t).writes sequence ≤ 1

/-- A formal `execute` in the session only repeats the target that the mirror holds. -/
def RepeatsHeldTarget (h : Hand D τ) (op : HandOperation D S) : Prop :=
  ∀ command, op = .execute command →
    h.actuator.lastSupervisedTarget = some (commandRegisters command)

/-! ## Invariants

What a part of an operation leaves is a statement about the actuator, the device's registers and the
trace; reading operations keep every such statement. -/

def Fair (A : ActuatorConfig D) (t : List (HandEvent D)) : Prop :=
  Everywhere (AckTrue A) t ∧ ∀ sequence, (account t).writes sequence ≤ 1

theorem ackTrue_of_ne {A : ActuatorConfig D} {t : List (HandEvent D)} {event : HandEvent D}
    (h : ∀ n now registers, event ≠ .acknowledge n now registers) : AckTrue A t event :=
  fun n now registers heq => absurd heq (h n now registers)

theorem note_of_isReading {a : Account D} {event : HandEvent D} (h : event.isReading = true) :
    a.note event = a := by
  cases event <;> first | rfl | exact Bool.noConfusion h

structure Steady (W : HandWorld D τ) (I : Hand D τ → List (HandEvent D) → Prop) : Prop where
  world : ∀ w h t, W.angleSet w = W.angleSet h.world → I h t → I { h with world := w } t
  locals : ∀ L h t, I h t → I { h with stop := L } t
  reading : ∀ event : HandEvent D, event.isReading = true → ∀ h t, I h t → I h (t ++ [event])

section Keeps

variable {W : HandWorld D τ} {A : ActuatorConfig D} {I : Hand D τ → List (HandEvent D) → Prop}

theorem Steady.tolerates (hI : Steady W I) (hW : Truthful W) : Tolerates W I where
  now h t := hI.world _ h t (hW.monotonic h.world)
  sleep d h t := hI.world _ h t (hW.sleep d h.world)
  readAngleSet d h t := hI.world _ h t (hW.readAngleSet d h.world)
  readSafetyFeedback d h t := hI.world _ h t (hW.readSafetyFeedback d h.world)
  reading := hI.reading
  stop L h t _ := hI.locals L h t

theorem Steady.keeps_requireArmed (hI : Steady W I) (hW : Truthful W) (now : D) :
    Keeps I (W.requireArmed now) := by
  refine keeps_read.bind fun h => ?_
  dsimp only
  cases h.actuator.state with
  | faultLatched => exact keeps_fail _
  | disarmed => exact keeps_fail _
  | armed =>
    cases h.actuator.runId with
    | none => exact keeps_fail _
    | some runId =>
      cases h.actuator.safetyGate with
      | false => exact keeps_fail _
      | true => exact keeps_callWorld fun h t => hI.world _ h t (hW.requireMotion _ now h.world)

theorem Steady.keeps_pendingSequence (hI : Steady W I) (hW : Truthful W) :
    Keeps I W.pendingSequence :=
  keeps_callWorld fun h t => hI.world _ h t (hW.ledgerPending h.world)

theorem Steady.keeps_ledgerFail (hI : Steady W I) (hW : Truthful W) (sequence : ℕ)
    (reason : String) : Keeps I (callWorld (W.ledgerFail sequence reason)) :=
  keeps_callWorld fun h t => hI.world _ h t (hW.ledgerFail sequence reason h.world)

theorem wp_requireArmed (hI : Steady W I) (hW : Truthful W) (now : D) {h : Hand D τ}
    {t : List (HandEvent D)} (h₀ : I h t) :
    wp (W.requireArmed now) (fun _ h' t' => I h' t' ∧ h'.actuator.state = .armed)
      (fun _ => I) h t := by
  have harmed : wp (W.requireArmed now) (fun _ h' _ => h'.actuator.state = .armed)
      (fun _ _ _ => True) h t := by
    simp only [HandWorld.requireArmed, wp_bind, wp_read]
    cases hstate : h.actuator.state with
    | faultLatched =>
      rw [wp_fail]
      trivial
    | disarmed =>
      rw [wp_fail]
      trivial
    | armed =>
      cases h.actuator.runId with
      | none =>
        rw [wp_fail]
        trivial
      | some runId =>
        cases h.actuator.safetyGate with
        | false =>
          rw [wp_fail]
          trivial
        | true => exact wp_callWorld (fun _ _ _ => hstate) fun _ _ _ => trivial
  exact wp_mono (wp_and (hI.keeps_requireArmed hW now _ _ h₀) harmed) (fun _ _ _ h => h)
    fun _ _ _ h => h.1

theorem wp_transportWrite_applied (hW : Truthful W) (targets : SixIntegers) (deadline : D)
    (operation : String) (h : Hand D τ) :
    wp (W.transportWrite targets deadline operation)
      (fun _ h' w => (Framed h h' ∧ ∃ now, w = dueEvents targets deadline now) ∧
        W.angleSet h'.world = targets)
      (fun _ h' w => Framed h h' ∧ ∃ now, w = dueEvents targets deadline now) h [] := by
  have happlied : wp (W.transportWrite targets deadline operation)
      (fun _ h' _ => W.angleSet h'.world = targets) (fun _ _ _ => True) h [] := by
    simp only [HandWorld.transportWrite, wp_bind, HandWorld.beforeDeadline]
    refine wp_now W ?_
    rw [wp_emit, wp_check]
    refine ⟨fun _ => trivial, fun _ => ?_⟩
    rw [wp_emit, wp_attempt]
    refine wp_callWorld (fun _ w hcall => ?_) fun e w _ => ?_
    · have hset := hW.written targets deadline _ (congrArg Prod.fst hcall)
      rw [hcall] at hset
      simp only [wp_bind]
      refine wp_now W ?_
      rw [wp_check]
      refine ⟨fun _ => trivial, fun _ => ?_⟩
      exact (hW.monotonic w).trans hset
    · rw [wp_fail]
      trivial
  exact wp_mono (wp_and (wp_transportWrite W targets deadline operation h) happlied)
    (fun _ _ _ h => h) fun _ _ _ h => h.1

theorem wp_transportReadTargets_true (hI : Steady W I) (hW : Truthful W) (deadline : D)
    (operation : String) {h : Hand D τ} {t : List (HandEvent D)} (h₀ : I h t) :
    wp (W.transportReadTargets deadline operation)
      (fun r h' t' => I h' t' ∧ W.angleSet h'.world = r) (fun _ => I) h t := by
  have htrue : wp (W.transportReadTargets deadline operation)
      (fun r h' _ => W.angleSet h'.world = r) (fun _ _ _ => True) h t := by
    simp only [HandWorld.transportReadTargets, wp_bind, HandWorld.beforeDeadline]
    refine wp_now W ?_
    rw [wp_check]
    refine ⟨fun _ => trivial, fun _ => ?_⟩
    rw [wp_attempt]
    refine wp_callWorld (fun raw w hcall => ?_) fun e w _ => ?_
    · have hraw := hW.readback deadline _ raw (congrArg Prod.fst hcall)
      have hsame := hW.readAngleSet deadline (W.monotonic h.world).2
      rw [hcall] at hsame
      simp only [wp_bind, wp_ofExcept, wp_emit]
      refine ⟨fun r hr => wp_now W ?_, fun _ _ => trivial⟩
      simp only [wp_check, wp_ret]
      refine ⟨fun _ => trivial, fun _ => ?_⟩
      rw [hraw] at hr
      exact ((hW.monotonic w).trans hsame).trans (eq_of_sixIntegers_rawOf hr).symm
    · rw [wp_fail]
      trivial
  exact wp_mono (wp_and ((hI.tolerates hW).keeps_transportReadTargets deadline operation _ _ h₀)
    htrue) (fun _ _ _ h => h) fun _ _ _ h => h.1

end Keeps

/-! ## A command under execution -/

/-- **The trace while a command is executed**: the sequences below `bound` may have been written. -/
structure Issued (A : ActuatorConfig D) (issued : IssuedTarget D) (bound : ℕ)
    (t : List (HandEvent D)) : Prop where
  acknowledgements : Everywhere (AckTrue A) t
  current : (account t).current = some issued
  once : ∀ n, (account t).writes n ≤ 1
  written : ∀ n, 0 < (account t).writes n → n < bound

section Issued

variable {A : ActuatorConfig D} {issued : IssuedTarget D} {bound : ℕ} {t : List (HandEvent D)}

theorem Issued.fair (h : Issued A issued bound t) : Fair A t := ⟨h.acknowledgements, h.once⟩

theorem Issued.reading (h : Issued A issued bound t) {event : HandEvent D}
    (hevent : event.isReading = true) : Issued A issued bound (t ++ [event]) := by
  have haccount : account (t ++ [event]) = account t := by
    rw [account_snoc, note_of_isReading hevent]
  refine ⟨h.acknowledgements.snoc (ackTrue_of_ne ?_), ?_, ?_, ?_⟩
  · rintro n now registers rfl
    cases hevent
  · rw [haccount]
    exact h.current
  · rw [haccount]
    exact h.once
  · rw [haccount]
    exact h.written

theorem Issued.due (h : Issued A issued issued.sequence t) (targets : SixIntegers)
    (deadline now : D) :
    Issued A issued (issued.sequence + 1) (t ++ dueEvents targets deadline now) := by
  have hunwritten : (account t).writes issued.sequence = 0 := by
    by_contra hwritten
    exact lt_irrefl _ (h.written _ (Nat.pos_of_ne_zero hwritten))
  have hdue : account (t ++ [.writeDue deadline now]) = account t := account_snoc _ _
  have hquiet : Everywhere (AckTrue A) (t ++ [.writeDue deadline now]) :=
    h.acknowledgements.snoc (ackTrue_of_ne fun _ _ _ h => by cases h)
  unfold dueEvents
  by_cases hlate : deadline < now
  · rw [if_pos hlate]
    exact ⟨hquiet, hdue ▸ h.current, hdue ▸ h.once, fun n hn => (h.written n (hdue ▸ hn)).trans
      (Nat.lt_succ_self _)⟩
  rw [if_neg hlate, show ([.writeDue deadline now, .write targets] : List (HandEvent D)) =
    [.writeDue deadline now] ++ [.write targets] from rfl, ← List.append_assoc]
  have hwrite : account (t ++ [.writeDue deadline now] ++ [.write targets]) =
      { account t with
        writes := Function.update (account t).writes issued.sequence
          ((account t).writes issued.sequence + 1) } := by
    rw [account_snoc, hdue]
    unfold Account.note
    simp only [h.current]
  refine ⟨hquiet.snoc (ackTrue_of_ne fun _ _ _ h => by cases h), ?_, ?_, ?_⟩
  · rw [hwrite]
    exact h.current
  · intro n
    rw [hwrite]
    by_cases hn : n = issued.sequence
    · subst hn
      simp [hunwritten]
    · simp only [Function.update_of_ne hn]
      exact h.once n
  · intro n hn
    rw [hwrite] at hn
    by_cases hsame : n = issued.sequence
    · rw [hsame]
      exact Nat.lt_succ_self _
    · simp only [Function.update_of_ne hsame] at hn
      exact (h.written n hn).trans (Nat.lt_succ_self _)

theorem Issued.mono (h : Issued A issued bound t) {bound' : ℕ} (hle : bound ≤ bound') :
    Issued A issued bound' t :=
  ⟨h.acknowledgements, h.current, h.once, fun n hn => (h.written n hn).trans_le hle⟩

end Issued

/-! ## The parts of a transaction -/

def Executing (W : HandWorld D τ) (A : ActuatorConfig D) (actuator : RH56TransactionalActuator D)
    (registers : SixIntegers) (issued : IssuedTarget D) (bound : ℕ) (h : Hand D τ)
    (t : List (HandEvent D)) : Prop :=
  h.actuator = actuator ∧ W.angleSet h.world = registers ∧ Issued A issued bound t

def FairTrace (A : ActuatorConfig D) (_ : Hand D τ) (t : List (HandEvent D)) : Prop := Fair A t

section Transaction

variable {W : HandWorld D τ} {A : ActuatorConfig D} {actuator : RH56TransactionalActuator D}
  {registers : SixIntegers} {issued : IssuedTarget D} {bound : ℕ} {h : Hand D τ}
  {t : List (HandEvent D)}

theorem steady_executing : Steady W (Executing W A actuator registers issued bound) where
  world w h t hw h₀ := ⟨h₀.1, hw.trans h₀.2.1, h₀.2.2⟩
  locals _ _ _ h₀ := h₀
  reading event hevent _ _ h₀ := ⟨h₀.1, h₀.2.1, h₀.2.2.reading hevent⟩

theorem Executing.fair (h₀ : Executing W A actuator registers issued bound h t) :
    FairTrace A h t := h₀.2.2.fair

theorem wp_inPhase {α : Type} {sequence : ℕ} {targets : SixIntegers}
    {point : HandWorld.TransactionPhase} {statements : HandM D τ α}
    {Q : α → Hand D τ → List (HandEvent D) → Prop} {R : Hand D τ → List (HandEvent D) → Prop}
    (hs : wp statements Q (fun _ => R) h t) :
    wp (HandWorld.inPhase sequence targets point statements) Q (fun _ => R) h t := by
  rw [HandWorld.inPhase, wp_bind, wp_attempt]
  refine wp_mono hs (fun _ _ _ h => ?_) fun _ _ _ h => ?_
  · rw [wp_ret]
    exact h
  · rw [wp_fail]
    exact h

/-- **An admitted sequence** follows the last acknowledged one; it becomes the pending one. -/
theorem wp_admitSequence (hW : Truthful W) (sequence : ℕ) (now timeout : D) (expired : String)
    (h₀ : Executing W A actuator registers issued bound h t) :
    wp (W.admitSequence sequence now timeout expired)
      (fun _ h' t' => sequence = actuator.lastAcknowledgedSequence + 1 ∧
        Executing W A { actuator with pendingSequence := some sequence } registers issued bound h' t')
      (fun _ => FairTrace A) h t := by
  have hheartbeat : Keeps (Executing W A actuator registers issued bound)
      (HandWorld.requireHeartbeat sequence now timeout expired : HandM D τ Unit) := by
    refine keeps_read.bind fun h => ?_
    dsimp only
    cases h.actuator.lastCommandMonotonicS with
    | none => exact keeps_check _ _
    | some heartbeat => exact keeps_check _ _
  refine hheartbeat.wp_bind h₀ (fun _ h t h₀ => ?_) fun _ _ _ h => h.fair
  simp only [wp_bind, wp_read]
  rw [wp_check]
  refine ⟨fun _ => h₀.fair, fun _ => ?_⟩
  rw [wp_check]
  refine ⟨fun _ => h₀.fair, fun hnext => ?_⟩
  have hpending := steady_executing.keeps_pendingSequence (I := Executing W A actuator registers
    issued bound) hW
  refine wp_mono (hpending h t h₀) (fun pending h₁ t₁ h₁₀ => ?_) fun _ _ _ h => h.fair
  rw [wp_ite]
  refine ⟨fun _ => ?_, fun _ => ?_⟩
  · refine hpending.wp_bind h₁₀ (fun pending h₂ t₂ h₂₀ => ?_) fun _ _ _ h => h.fair
    rw [wp_fail]
    exact h₂₀.fair
  · rw [wp_modifyActuator]
    refine ⟨by rw [← h₀.1]; exact not_not.mp hnext, ?_, h₁₀.2⟩
    show { h₁.actuator with pendingSequence := some sequence } = _
    rw [h₁₀.1]

/-- **The numeric write** leaves the device at the targets, or raises. -/
theorem wp_applyTarget (hW : Truthful W) (sequence : ℕ) (targets : SixIntegers) (deadline : D)
    (h₀ : Executing W A actuator registers issued issued.sequence h t) :
    wp (W.applyTarget sequence targets deadline)
      (fun _ h' t' => Executing W A actuator targets issued (issued.sequence + 1) h' t')
      (fun _ => FairTrace A) h t := by
  have hI : ∀ {r : SixIntegers} {bound : ℕ}, Steady W (Executing W A actuator r issued bound) :=
    steady_executing
  rw [HandWorld.applyTarget, wp_bind]
  refine wp_inPhase ?_
  refine ((hI.tolerates hW).keeps_now).wp_bind h₀ (fun opened h₁ t₁ h₁₀ => ?_)
    fun _ _ _ h => h.fair
  refine ((hI.tolerates hW).keeps_now).wp_bind h₁₀ (fun before h₂ t₂ h₂₀ => ?_)
    fun _ _ _ h => h.fair
  refine (keeps_beforeDeadline _ _ _).wp_bind h₂₀ (fun _ h₃ t₃ h₃₀ => ?_) fun _ _ _ h => h.fair
  rw [wp_attempt, wp_shift]
  generalize HandWorld.pyMin deadline (opened + HandWorld.supervisedWriteResponseGraceS) = limit
  refine wp_mono (wp_transportWrite_applied hW targets limit _ h₃) ?_ ?_
  · rintro _ h₄ w ⟨⟨hframed, now, rfl⟩, hset⟩
    rw [wp_ret]
    exact ⟨hframed.1.trans h₃₀.1, hset, h₃₀.2.2.due targets limit now⟩
  · rintro e h₄ w ⟨hframed, now, rfl⟩
    have h₄₀ : Executing W A actuator (W.angleSet h₄.world) issued (issued.sequence + 1) h₄
        (t₃ ++ dueEvents targets limit now) :=
      ⟨hframed.1.trans h₃₀.1, rfl, h₃₀.2.2.due targets limit now⟩
    rw [wp_bind]
    refine wp_inPhase ?_
    simp only [HandWorld.verifyMissingResponse, wp_bind, wp_attempt]
    refine wp_mono (wp_transportReadTargets_true hI hW deadline _ h₄₀) ?_ ?_
    · rintro readback h₅ t₅ ⟨h₅₀, hset⟩
      simp only [wp_bind, wp_check, wp_ret]
      refine ⟨fun _ => h₅₀.fair, fun hsame => ?_⟩
      exact ⟨h₅₀.1, hset.trans (not_not.mp hsame), h₅₀.2.2⟩
    · intro e h₅ t₅ h₅₀
      rw [wp_fail]
      exact h₅₀.fair

variable (issued) in
/-- **An acknowledgement** of the command under execution is true. -/
theorem wp_acknowledgeSequence (hW : Truthful W) (operation : String)
    (h₀ : Executing W A actuator issued.targets issued bound h t) :
    wp (W.acknowledgeSequence issued.sequence
        (issued.producedMonotonicS + A.commandWatchdogTimeoutS) operation)
      (fun _ h' t' => Executing W A actuator issued.targets issued bound h' t')
      (fun _ => FairTrace A) h t := by
  have hI : Steady W (Executing W A actuator issued.targets issued bound) := steady_executing
  refine ((hI.tolerates hW).keeps_now).wp_bind h₀ (fun acknowledgedAt h₁ t₁ h₁₀ => ?_)
    fun _ _ _ h => h.fair
  simp only [wp_bind, HandWorld.beforeDeadline]
  rw [wp_check]
  refine ⟨fun _ => h₁₀.fair, fun htime => ?_⟩
  refine wp_mono (hI.keeps_requireArmed hW acknowledgedAt h₁ t₁ h₁₀) (fun _ h₂ t₂ h₂₀ => ?_)
    fun _ _ _ h => h.fair
  refine wp_mono (hI.keeps_pendingSequence hW h₂ t₂ h₂₀) (fun _ h₃ t₃ h₃₀ => ?_)
    fun _ _ _ h => h.fair
  simp only [wp_check, wp_read, wp_emit]
  refine ⟨fun _ => h₃₀.fair, fun _ => ?_⟩
  have hacknowledged : Issued A issued bound
      (t₃ ++ [.acknowledge issued.sequence acknowledgedAt (W.angleSet h₃.world)]) := by
    have haccount := account_snoc t₃
      (.acknowledge issued.sequence acknowledgedAt (W.angleSet h₃.world))
    refine ⟨h₃₀.2.2.acknowledgements.snoc ?_, haccount ▸ h₃₀.2.2.current, haccount ▸ h₃₀.2.2.once,
      haccount ▸ h₃₀.2.2.written⟩
    intro n now registers heq
    obtain ⟨rfl, rfl, rfl⟩ := HandEvent.acknowledge.inj heq
    exact ⟨issued, h₃₀.2.2.current, rfl, h₃₀.2.1, htime⟩
  have hcall : Keeps (Executing W A actuator issued.targets issued bound)
      (callWorld (W.ledgerAcknowledge issued.sequence acknowledgedAt)) :=
    keeps_callWorld fun h t => hI.world _ h t (hW.ledgerAcknowledge _ _ h.world)
  refine wp_mono (hcall h₃ _ ⟨h₃₀.1, h₃₀.2.1, hacknowledged⟩) (fun _ h₄ t₄ h₄₀ => ?_)
    fun _ _ _ h => h.fair
  rw [wp_ret]
  exact h₄₀

/-! ## The transactions -/

/-- **Between operations**: the trace is fair, and an armed actuator mirrors the device. -/
def Settled (W : HandWorld D τ) (A : ActuatorConfig D) (h : Hand D τ) (t : List (HandEvent D)) :
    Prop :=
  Fair A t ∧ (h.actuator.state = .armed →
    (∀ n, 0 < (account t).writes n → n < h.actuator.lastAcknowledgedSequence + 1) ∧
    h.actuator.lastSupervisedTarget =
      if h.actuator.lastAcknowledgedSequence = 0 then none else some (W.angleSet h.world))

def issuedOf (command : ClosedLoopCommand D S) : IssuedTarget D :=
  ⟨command.sequence, command.producedMonotonicS, commandRegisters command⟩

theorem executing_of_settled {command : ClosedLoopCommand D S} (h₀ : Settled W A h t)
    (harmed : h.actuator.state = .armed) :
    Executing W A h.actuator (W.angleSet h.world) (issuedOf command)
      (h.actuator.lastAcknowledgedSequence + 1) h
      (t ++ [.execute command.sequence command.producedMonotonicS (commandRegisters command)]) := by
  have haccount : account (t ++
      [.execute command.sequence command.producedMonotonicS (commandRegisters command)]) =
        { account t with current := some (issuedOf command) } := account_snoc _ _
  refine ⟨rfl, rfl, h₀.1.1.snoc (ackTrue_of_ne fun _ _ _ h => by cases h), ?_, ?_, ?_⟩
  · rw [haccount]
  · rw [haccount]
    exact h₀.1.2
  · rw [haccount]
    exact (h₀.2 harmed).1

/-- **The target transaction** settles, or leaves a fair trace. -/
theorem wp_targetTransaction (hW : Truthful W) (command : ClosedLoopCommand D S) (now : D)
    (h₀ : Settled W A h t) (harmed : h.actuator.state = .armed) :
    wp (W.targetTransaction A command (commandRegisters command) now)
      (fun _ h' t' => Settled W A h' t') (fun _ => FairTrace A) h t := by
  have hmirror := (h₀.2 harmed).2
  simp only [HandWorld.targetTransaction, wp_bind, wp_emit]
  refine wp_inPhase ?_
  rw [wp_bind]
  refine wp_mono (wp_admitSequence hW _ _ _ _ (executing_of_settled h₀ harmed)) ?_ fun _ _ _ h => h
  rintro _ h₁ t₁ ⟨hnext, h₁₀⟩
  rw [HandWorld.beforeDeadline, wp_check]
  refine ⟨fun _ => h₁₀.fair, fun _ => ?_⟩
  rw [wp_read]
  rw [← hnext] at h₁₀
  refine wp_mono (E := fun _ => FairTrace A)
    (Q := fun _ => Executing W A { h.actuator with pendingSequence := some command.sequence }
      (commandRegisters command) (issuedOf command) (command.sequence + 1)) ?_ ?_ fun _ _ _ h => h
  · rw [wp_ite]
    refine ⟨fun _ => wp_applyTarget hW _ _ _ h₁₀, fun hsame => ?_⟩
    -- the mirror holds the targets, and so does the device
    have hheld : h.actuator.lastSupervisedTarget = some (commandRegisters command) := by
      have := not_not.mp hsame
      rwa [h₁₀.1] at this
    have hregisters : W.angleSet h.world = commandRegisters command := by
      rw [hheld] at hmirror
      by_cases hfirst : h.actuator.lastAcknowledgedSequence = 0
      · rw [if_pos hfirst] at hmirror
        cases hmirror
      · rw [if_neg hfirst] at hmirror
        exact (Option.some.inj hmirror).symm
    rw [wp_ret]
    exact ⟨h₁₀.1, h₁₀.2.1.trans hregisters, h₁₀.2.2.mono (Nat.le_succ _)⟩
  · rintro ⟨readback, responded⟩ h₂ t₂ h₂₀
    refine wp_inPhase ?_
    rw [wp_bind]
    have hacknowledge := wp_acknowledgeSequence (issuedOf command) hW "supervised target acknowledgement" h₂₀
    refine wp_mono hacknowledge ?_ fun _ _ _ h => h
    rintro ⟨acknowledgedAt, committed⟩ h₃ t₃ h₃₀
    simp only [wp_bind, wp_modifyActuator, wp_ret]
    refine ⟨h₃₀.fair, fun _ => ⟨h₃₀.2.2.written, ?_⟩⟩
    show some (commandRegisters command) =
      if command.sequence = 0 then none else some (W.angleSet h₃.world)
    rw [if_neg (by omega), h₃₀.2.1]
    rfl

/-- **The formal transaction** of the held target settles, or leaves a fair trace. -/
theorem wp_transaction (hW : Truthful W) (command : ClosedLoopCommand D S) (now : D)
    (h₀ : Settled W A h t) (harmed : h.actuator.state = .armed)
    (hheld : h.actuator.lastSupervisedTarget = some (commandRegisters command)) :
    wp (W.transaction A command now)
      (fun _ h' t' => Settled W A h' t') (fun _ => FairTrace A) h t := by
  simp only [HandWorld.transaction, wp_bind, wp_emit]
  refine wp_mono (wp_admitSequence hW _ _ _ _ (executing_of_settled h₀ harmed)) ?_
    fun _ _ _ h => h
  rintro _ h₁ t₁ ⟨hnext, h₁₀⟩
  rw [HandWorld.beforeDeadline, wp_check]
  refine ⟨fun _ => h₁₀.fair, fun _ => ?_⟩
  rw [← hnext] at h₁₀
  rw [wp_ofExcept]
  refine ⟨fun targets htargets => ?_, fun _ _ => h₁₀.fair⟩
  obtain rfl := eq_of_sixIntegers_rawOf htargets
  rw [wp_shift]
  refine wp_mono (wp_transportWrite_applied hW _ _ _ h₁) ?_ ?_
  · rintro _ h₂ w ⟨⟨hframed, now, rfl⟩, hset⟩
    have hI : Steady W (Executing W A { h.actuator with pendingSequence := some command.sequence }
      (commandRegisters command) (issuedOf command) (command.sequence + 1)) := steady_executing
    have h₂₀ : Executing W A { h.actuator with pendingSequence := some command.sequence }
        (commandRegisters command) (issuedOf command) (command.sequence + 1) h₂ _ :=
      ⟨hframed.1.trans h₁₀.1, hset, h₁₀.2.2.due (commandRegisters command) (HandWorld.commandDeadline A command)
        now⟩
    refine wp_mono ((hI.tolerates hW).keeps_transportReadTargets _ _ _ _ h₂₀)
      (fun readback h₃ t₃ h₃₀ => ?_) fun _ _ _ h => h.fair
    rw [wp_check]
    refine ⟨fun _ => h₃₀.fair, fun _ => ?_⟩
    refine wp_mono ((hI.tolerates hW).keeps_transportReadFeedback _ _ _ _ h₃₀)
      (fun feedback h₄ t₄ h₄₀ => ?_) fun _ _ _ h => h.fair
    rw [wp_ofExcept]
    refine ⟨fun _ _ => ?_, fun _ _ => h₄₀.fair⟩
    refine wp_mono (wp_acknowledgeSequence (issuedOf command) hW "command acknowledgement" h₄₀) ?_ fun _ _ _ h => h
    rintro ⟨acknowledgedAt, committed⟩ h₅ t₅ h₅₀
    simp only [wp_bind, wp_modifyActuator, wp_ret]
    refine ⟨h₅₀.fair, fun _ => ⟨h₅₀.2.2.written, ?_⟩⟩
    show h₅.actuator.lastSupervisedTarget =
      if command.sequence = 0 then none else some (W.angleSet h₅.world)
    rw [if_neg (by omega), h₅₀.1, h₅₀.2.1]
    exact hheld
  · rintro e h₂ w ⟨hframed, now, rfl⟩
    exact (h₁₀.2.2.due _ _ now).fair

/-! ## Stops -/

def Stopping (A : ActuatorConfig D) (actuator : RH56TransactionalActuator D) (h : Hand D τ)
    (t : List (HandEvent D)) : Prop :=
  h.actuator = actuator ∧ Fair A t ∧ (account t).current = none

theorem Stopping.event (h₀ : Stopping A actuator h t) {event : HandEvent D}
    (hack : ∀ n now registers, event ≠ .acknowledge n now registers)
    (hnote : (account t).note event = account t) : Stopping A actuator h (t ++ [event]) := by
  have haccount : account (t ++ [event]) = account t := by
    rw [account_snoc, hnote]
  refine ⟨h₀.1, ⟨h₀.2.1.1.snoc (ackTrue_of_ne hack), ?_⟩, ?_⟩
  · rw [haccount]
    exact h₀.2.1.2
  · rw [haccount]
    exact h₀.2.2

theorem stopping_tolerates : ToleratesStop W (Stopping A actuator) where
  now _ _ h₀ := h₀
  sleep _ _ _ h₀ := h₀
  readAngleSet _ _ _ h₀ := h₀
  readSafetyFeedback _ _ _ h₀ := h₀
  stop _ _ _ _ h₀ := h₀
  writeAngleSet _ _ _ _ h₀ := h₀
  locals _ _ _ h₀ := h₀
  reading event hevent h t h₀ := by
    refine h₀.event ?_ (note_of_isReading hevent)
    rintro n now registers rfl
    cases hevent
  writing event hevent h t h₀ := by
    have hcurrent := h₀.2.2
    cases event with
    | write v =>
      refine h₀.event (fun _ _ _ h => by cases h) ?_
      unfold Account.note
      simp only [hcurrent]
    | writeDue d n => exact h₀.event (fun _ _ _ h => by cases h) rfl
    | _ => exact Bool.noConfusion hevent

/-- **A stop** leaves a fair trace, and an actuator that is not armed unless it goes on. -/
theorem wp_stop {preserveFault : Bool} {rounds : ℕ} (hfair : Fair A t)
    (hstate : preserveFault = true → h.actuator.state ≠ .armed) :
    wp (W.disableAndVerifyLocked A preserveFault rounds)
      (fun report h' t' => Fair A t' ∧ (report.isSome = true → h'.actuator.state ≠ .armed))
      (fun _ h' t' => Fair A t' ∧ h'.actuator.state ≠ .armed) h t := by
  have hbegins : Stopping A h.actuator h (t ++ [.stopBegins]) := by
    have haccount : account (t ++ [.stopBegins]) = { account t with current := none } :=
      account_snoc _ _
    refine ⟨rfl, ⟨hfair.1.snoc (ackTrue_of_ne fun _ _ _ h => by cases h), ?_⟩, ?_⟩
    · rw [haccount]
      exact hfair.2
    · rw [haccount]
  refine stopping_tolerates.wp_disableAndVerifyLocked hbegins ?_ ?_
  · intro h₁ t₁ h₁₀
    simp only [HandWorld.stopVerdict, wp_bind, wp_read]
    rw [wp_ite]
    refine ⟨fun _ => ?_, fun _ => ?_⟩
    · simp only [wp_bind, HandWorld.latchFault, wp_modifyActuator, wp_fail]
      exact ⟨h₁₀.2.1, fun h => by cases h⟩
    · rw [wp_bind]
      refine wp_now W ?_
      simp only [wp_bind, wp_modifyActuator, wp_emit, wp_ret]
      have hverified : Stopping A h.actuator h₁ (t₁ ++ [.stopVerified]) :=
        h₁₀.event (fun _ _ _ h => by cases h) rfl
      refine ⟨hverified.2.1, fun _ => ?_⟩
      unfold HandWorld.confirmed
      cases hpreserve : preserveFault with
      | true =>
        rw [if_pos rfl, h₁₀.1]
        exact hstate hpreserve
      | false =>
        rw [if_neg Bool.false_ne_true]
        exact fun h => by cases h
  · exact fun _ _ h₀ => ⟨h₀.2.1, fun h => by cases h⟩

theorem wp_latchFault (reason : String) (hfair : Fair A t) {E : PyException → Hand D τ →
    List (HandEvent D) → Prop} :
    wp (HandWorld.latchFault reason : HandM D τ Unit)
      (fun _ h' t' => Fair A t' ∧ h'.actuator.state ≠ .armed) E h t := by
  rw [HandWorld.latchFault, wp_modifyActuator]
  exact ⟨hfair, fun h => by cases h⟩

theorem settled_of_not_armed (hfair : Fair A t) (hstate : h.actuator.state ≠ .armed) :
    Settled W A h t := ⟨hfair, fun harmed => absurd harmed hstate⟩

theorem wp_settling_stop {preserveFault : Bool} {rounds : ℕ} (hfair : Fair A t)
    (hstate : preserveFault = true → h.actuator.state ≠ .armed) :
    wp (W.disableAndVerifyLocked A preserveFault rounds)
      (fun report h' t' => report.isSome = true → Settled W A h' t')
      (fun _ h' t' => Settled W A h' t') h t :=
  wp_mono (wp_stop hfair hstate) (fun _ _ _ h hsome => settled_of_not_armed h.1 (h.2 hsome))
    fun _ _ _ h => settled_of_not_armed h.1 h.2

theorem wp_afterStop {α : Type} {rounds : ℕ} (detail : String) (hfair : Fair A t)
    (hstate : h.actuator.state ≠ .armed) :
    wp (do
        let stop ← attempt (W.disableAndVerifyLocked A true rounds)
        HandWorld.afterStop (α := α) detail stop)
      (fun r h' t' => r.isSome = true → Settled W A h' t') (fun _ => Settled W A) h t := by
  rw [wp_bind, wp_attempt]
  refine wp_mono (wp_settling_stop hfair fun _ => hstate) ?_ ?_
  · intro report h₁ t₁ h₁₀
    cases report with
    | none =>
      rw [HandWorld.afterStop, wp_ret]
      exact fun h => by cases h
    | some report =>
      rw [HandWorld.afterStop, wp_fail]
      exact h₁₀ rfl
  · intro e h₁ t₁ h₁₀
    rw [HandWorld.afterStop, wp_fail]
    exact h₁₀

/-! ## The operations -/

def SettledAt (W : HandWorld D τ) (A : ActuatorConfig D) (actuator : RH56TransactionalActuator D)
    (h : Hand D τ) (t : List (HandEvent D)) : Prop :=
  Settled W A h t ∧ h.actuator = actuator

theorem Fair.reading (h : Fair A t) {event : HandEvent D} (hevent : event.isReading = true) :
    Fair A (t ++ [event]) := by
  refine ⟨h.1.snoc (ackTrue_of_ne ?_), ?_⟩
  · rintro n now registers rfl
    cases hevent
  · rw [account_snoc, note_of_isReading hevent]
    exact h.2

theorem steady_fairTrace : Steady W (FairTrace A : Hand D τ → List (HandEvent D) → Prop) where
  world _ _ _ _ h₀ := h₀
  locals _ _ _ h₀ := h₀
  reading _ hevent _ _ h₀ := Fair.reading h₀ hevent

theorem steady_settledAt : Steady W (SettledAt W A actuator) where
  world w h t hw h₀ := by
    refine ⟨⟨h₀.1.1, fun harmed => ⟨(h₀.1.2 harmed).1, ?_⟩⟩, h₀.2⟩
    rw [show W.angleSet w = W.angleSet h.world from hw]
    exact (h₀.1.2 harmed).2
  locals _ _ _ h₀ := h₀
  reading event hevent h t h₀ := by
    refine ⟨⟨h₀.1.1.reading hevent, fun harmed => ⟨?_, (h₀.1.2 harmed).2⟩⟩, h₀.2⟩
    rw [account_snoc, note_of_isReading hevent]
    exact (h₀.1.2 harmed).1

theorem wp_latched_failure (hW : Truthful W) {α : Type} {sequence : ℕ} {reason : String}
    {rest : HandM D τ α} {Q : α → Hand D τ → List (HandEvent D) → Prop}
    {E : PyException → Hand D τ → List (HandEvent D) → Prop} (hfair : FairTrace A h t)
    (hrest : ∀ h' t', Fair A t' → h'.actuator.state ≠ .armed → wp rest Q E h' t') :
    wp (do
      let _ ← attempt (callWorld (W.ledgerFail sequence reason))
      HandWorld.latchFault reason
      rest) Q E h t := by
  have hfail := (steady_fairTrace (A := A)).keeps_ledgerFail hW sequence reason
  refine hfail.attempt.wp_bind_total (total_attempt _) hfair fun _ h₁ t₁ h₁₀ => ?_
  rw [wp_bind]
  exact wp_mono (wp_latchFault reason h₁₀) (fun _ h₂ t₂ h => hrest h₂ t₂ h.1 h.2) fun _ _ _ h => h

theorem wp_executeTargetAndAck (hW : Truthful W) (command : ClosedLoopCommand D S)
    (h₀ : Settled W A h t) :
    wp (W.executeTargetAndAck A command) (fun _ => Settled W A) (fun _ => Settled W A) h t := by
  have hI : Steady W (SettledAt W A h.actuator) := steady_settledAt
  refine ((hI.tolerates hW).keeps_now).wp_bind ⟨h₀, rfl⟩ (fun now h₁ t₁ h₁₀ => ?_)
    fun _ _ _ h => h.1
  rw [wp_bind]
  refine wp_mono (wp_requireArmed hI hW now h₁₀) ?_ fun _ _ _ h => h.1
  rintro _ h₂ t₂ ⟨⟨h₂₀, -⟩, harmed⟩
  simp only [wp_bind, wp_ofExcept, wp_read]
  refine ⟨fun targets htargets => ?_, fun _ _ => h₂₀⟩
  obtain rfl := eq_of_sixIntegers_rawOf htargets
  rw [wp_check]
  refine ⟨fun _ => h₂₀, fun _ => ?_⟩
  rw [wp_attempt]
  refine wp_mono (wp_targetTransaction hW command now h₂₀ harmed) ?_ ?_
  · intro receipt h₃ t₃ h₃₀
    rw [wp_ret]
    exact h₃₀
  · intro e h₃ t₃ h₃₀
    refine wp_latched_failure hW h₃₀ fun h₄ t₄ hfair hstate => ?_
    rw [wp_fail]
    exact settled_of_not_armed hfair hstate

theorem wp_execute (hW : Truthful W) (command : ClosedLoopCommand D S) (rounds : ℕ)
    (h₀ : Settled W A h t)
    (hheld : h.actuator.lastSupervisedTarget = some (commandRegisters command)) :
    wp (W.execute A command rounds) (fun r h' t' => r.isSome = true → Settled W A h' t')
      (fun _ => Settled W A) h t := by
  have hI : Steady W (SettledAt W A h.actuator) := steady_settledAt
  refine ((hI.tolerates hW).keeps_now).wp_bind ⟨h₀, rfl⟩ (fun now h₁ t₁ h₁₀ => ?_)
    fun _ _ _ h => h.1
  rw [wp_bind]
  refine wp_mono (wp_requireArmed hI hW now h₁₀) ?_ fun _ _ _ h => h.1
  rintro _ h₂ t₂ ⟨⟨h₂₀, hactuator⟩, harmed⟩
  rw [wp_bind, wp_attempt]
  refine wp_mono (wp_transaction hW command now h₂₀ harmed (hactuator ▸ hheld)) ?_ ?_
  · intro receipt h₃ t₃ h₃₀
    rw [wp_ret]
    exact fun _ => h₃₀
  · intro e h₃ t₃ h₃₀
    exact wp_latched_failure hW h₃₀ fun h₄ t₄ hfair hstate => wp_afterStop _ hfair hstate

theorem Settled.withActuator (h₀ : Settled W A h t) {a : RH56TransactionalActuator D}
    (hstate : a.state = h.actuator.state)
    (hsequence : a.lastAcknowledgedSequence = h.actuator.lastAcknowledgedSequence)
    (hmirror : a.lastSupervisedTarget = h.actuator.lastSupervisedTarget) :
    Settled W A { h with actuator := a } t := by
  refine ⟨h₀.1, fun harmed => ?_⟩
  have hlive := h₀.2 (hstate.symm.trans harmed)
  show (∀ n, 0 < (account t).writes n → n < a.lastAcknowledgedSequence + 1) ∧
    a.lastSupervisedTarget =
      if a.lastAcknowledgedSequence = 0 then none else some (W.angleSet h.world)
  rwa [hsequence, hmirror]

theorem wp_refreshSupervisedSampleHoldHeartbeat (hW : Truthful W) (h₀ : Settled W A h t) :
    wp (W.refreshSupervisedSampleHoldHeartbeat A) (fun _ => Settled W A) (fun _ => Settled W A)
      h t := by
  have hI : Steady W (SettledAt W A h.actuator) := steady_settledAt
  refine ((hI.tolerates hW).keeps_now).wp_bind ⟨h₀, rfl⟩ (fun now h₁ t₁ h₁₀ => ?_)
    fun _ _ _ h => h.1
  rw [wp_bind]
  refine wp_mono (wp_requireArmed hI hW now h₁₀) ?_ fun _ _ _ h => h.1
  rintro _ h₂ t₂ ⟨⟨h₂₀, -⟩, -⟩
  simp only [wp_bind, wp_read]
  rw [wp_check]
  refine ⟨fun _ => h₂₀, fun _ => ?_⟩
  cases h₂.actuator.lastCommandMonotonicS with
  | none =>
    rw [wp_fail]
    exact h₂₀
  | some heartbeat =>
    simp only [wp_bind, wp_check, wp_modifyActuator, wp_ret]
    exact ⟨fun _ => h₂₀, fun _ => ⟨fun _ => h₂₀, fun _ => ⟨fun _ => h₂₀, fun _ =>
      ⟨fun _ => h₂₀, fun _ => h₂₀.withActuator rfl rfl rfl⟩⟩⟩⟩

theorem wp_recordedFeedback (hW : Truthful W) (deadline : D) (operation : String)
    (h₀ : Settled W A h t) :
    wp (W.recordedFeedback A deadline operation) (fun _ => Settled W A) (fun _ => Settled W A)
      h t := by
  have hI : Steady W (SettledAt W A h.actuator) := steady_settledAt
  refine ((hI.tolerates hW).keeps_transportReadFeedback _ _).wp_bind ⟨h₀, rfl⟩
    (fun feedback h₁ t₁ h₁₀ => ?_) fun _ _ _ h => h.1
  simp only [wp_bind, wp_ofExcept, wp_modifyActuator, wp_ret]
  exact ⟨fun _ _ => h₁₀.1.withActuator rfl rfl rfl, fun _ _ => h₁₀.1⟩

theorem wp_pollSafety (hW : Truthful W) (deferCleanup : Bool) (rounds : ℕ)
    (h₀ : Settled W A h t) :
    wp (W.pollSafety A deferCleanup rounds) (fun r h' t' => r.isSome = true → Settled W A h' t')
      (fun _ => Settled W A) h t := by
  have hI : Steady W (SettledAt W A h.actuator) := steady_settledAt
  refine ((hI.tolerates hW).keeps_now).wp_bind ⟨h₀, rfl⟩ (fun now h₁ t₁ h₁₀ => ?_)
    fun _ _ _ h => h.1
  rw [wp_bind]
  refine wp_mono (wp_requireArmed hI hW now h₁₀) ?_ fun _ _ _ h => h.1
  rintro _ h₂ t₂ ⟨⟨h₂₀, -⟩, -⟩
  simp only [wp_bind, wp_read]
  -- a failure is latched; then the stop is deferred or carried out
  have cleanup : ∀ (h : Hand D τ) t (detail : String), Fair A t → h.actuator.state ≠ .armed →
      wp (if deferCleanup then fail (transactionalError detail)
          else do
            let stop ← attempt (W.disableAndVerifyLocked A true rounds)
            HandWorld.afterStop (α := RH56SafetyFeedback D) detail stop)
        (fun r h' t' => r.isSome = true → Settled W A h' t') (fun _ => Settled W A) h t := by
    intro h t detail hfair hstate
    rw [wp_ite]
    refine ⟨fun _ => ?_, fun _ => wp_afterStop detail hfair hstate⟩
    rw [wp_fail]
    exact settled_of_not_armed hfair hstate
  rw [wp_ite]
  refine ⟨fun _ => ?_, fun _ => ?_⟩
  · simp only [wp_bind, wp_attempt]
    refine wp_mono (wp_recordedFeedback hW _ _ h₂₀) (fun feedback h₃ t₃ h₃₀ => ?_)
      fun e h₃ t₃ h₃₀ => ?_
    · rw [wp_ret]
      exact fun _ => h₃₀
    · refine wp_mono (wp_latchFault e.message h₃₀.1) (fun _ h₄ t₄ h₄₀ => ?_) fun _ _ _ h => h
      rw [wp_ite]
      refine ⟨fun _ => ?_, fun _ => ?_⟩
      · rw [wp_fail]
        exact settled_of_not_armed h₄₀.1 h₄₀.2
      rw [wp_bind, wp_attempt]
      refine wp_mono (wp_settling_stop h₄₀.1 fun _ => h₄₀.2) ?_ ?_
      · intro report h₅ t₅ h₅₀
        cases report with
        | none =>
          rw [wp_ret]
          exact fun h => by cases h
        | some report =>
          rw [wp_fail]
          exact h₅₀ rfl
      · intro e h₅ t₅ h₅₀
        rw [wp_fail]
        exact h₅₀
  rw [wp_ite]
  refine ⟨fun _ => ?_, fun _ => ?_⟩
  · rw [wp_bind]
    refine wp_mono (wp_latchFault _ h₂₀.1) (fun _ h₄ t₄ h₄₀ => ?_) fun _ _ _ h => h
    exact cleanup h₄ t₄ _ h₄₀.1 h₄₀.2
  · simp only [wp_bind, wp_attempt]
    refine wp_mono (wp_recordedFeedback hW _ _ h₂₀) (fun feedback h₃ t₃ h₃₀ => ?_)
      fun e h₃ t₃ h₃₀ => ?_
    · rw [wp_ret]
      exact fun _ => h₃₀
    · refine wp_mono (wp_latchFault e.message h₃₀.1) (fun _ h₄ t₄ h₄₀ => ?_) fun _ _ _ h => h
      exact cleanup h₄ t₄ _ h₄₀.1 h₄₀.2

theorem wp_enforcePolicyWatchdog (hW : Truthful W) (nowMonotonicS : Option D) (rounds : ℕ)
    (h₀ : Settled W A h t) :
    wp (W.enforcePolicyWatchdog A nowMonotonicS rounds)
      (fun r h' t' => r ≠ .unended → Settled W A h' t') (fun _ => Settled W A) h t := by
  have hI : Steady W (SettledAt W A h.actuator) := steady_settledAt
  unfold HandWorld.enforcePolicyWatchdog
  refine Keeps.wp_bind (I := SettledAt W A h.actuator) ?_ ⟨h₀, rfl⟩ (fun now h₁ t₁ h₁₀ => ?_)
    fun _ _ _ h => h.1
  · cases nowMonotonicS with
    | none => exact (hI.tolerates hW).keeps_now
    | some now => exact keeps_ret _
  simp only [wp_bind, wp_read]
  rw [wp_check]
  refine ⟨fun _ => h₁₀.1, fun _ => ?_⟩
  cases hstate : h₁.actuator.state with
  | faultLatched =>
    rw [wp_fail]
    exact h₁₀.1
  | disarmed =>
    rw [wp_fail]
    exact h₁₀.1
  | armed =>
    cases h₁.actuator.lastCommandMonotonicS with
    | none =>
      rw [wp_fail]
      exact h₁₀.1
    | some heartbeat =>
      dsimp only
      rw [wp_ite]
      refine ⟨fun _ => ?_, fun _ => ?_⟩
      · rw [wp_ret]
        exact fun _ => h₁₀.1
      rw [wp_bind]
      refine wp_mono (wp_latchFault _ h₁₀.1.1) (fun _ h₂ t₂ h₂₀ => ?_) fun _ _ _ h => h
      rw [wp_bind]
      refine wp_mono (wp_settling_stop h₂₀.1 fun _ => h₂₀.2) (fun report h₃ t₃ h₃₀ => ?_)
        fun _ _ _ h => h
      cases report with
      | none =>
        rw [wp_ret]
        exact fun h => absurd rfl h
      | some report =>
        rw [wp_ret]
        exact fun _ => h₃₀ rfl

/-- **Every operation** that ends or raises leaves a settled actuator. -/
theorem wp_perform (hW : Truthful W) (op : HandOperation D S) (rounds : ℕ)
    (h₀ : Settled W A h t) (hop : RepeatsHeldTarget h op) :
    wp (op.perform W A rounds) (fun ended h' t' => ended = true → Settled W A h' t')
      (fun _ => Settled W A) h t := by
  have ended : ∀ {α : Type} {m : HandM D τ (Option α)},
      wp m (fun r h' t' => r.isSome = true → Settled W A h' t') (fun _ => Settled W A) h t →
      wp (m >>= fun r => ret r.isSome) (fun ended h' t' => ended = true → Settled W A h' t')
        (fun _ => Settled W A) h t := by
    intro α m hm
    rw [wp_bind]
    refine wp_mono hm (fun r h' t' h => ?_) fun _ _ _ h => h
    rwa [wp_ret]
  have returns : ∀ {α : Type} {m : HandM D τ α},
      wp m (fun _ => Settled W A) (fun _ => Settled W A) h t →
      wp (m >>= fun _ => ret true) (fun ended h' t' => ended = true → Settled W A h' t')
        (fun _ => Settled W A) h t := by
    intro α m hm
    rw [wp_bind]
    refine wp_mono hm (fun r h' t' h => ?_) fun _ _ _ h => h
    rw [wp_ret]
    exact fun _ => h
  have hdisarmed : ∀ {m : HandM D τ (Option (RH56StopReport D))},
      wp m (fun r h' t' => r.isSome = true → Settled W A h' t') (fun _ => Settled W A) h t →
      wp (HandWorld.requireNotDisarmed >>= fun _ => m)
        (fun r h' t' => r.isSome = true → Settled W A h' t') (fun _ => Settled W A) h t := by
    intro m hm
    simp only [HandWorld.requireNotDisarmed, wp_bind, wp_read]
    rw [wp_check]
    exact ⟨fun _ => h₀, fun _ => hm⟩
  cases op with
  | executeTargetAndAck command => exact returns (wp_executeTargetAndAck hW command h₀)
  | execute command => exact ended (wp_execute hW command rounds h₀ (hop command rfl))
  | refreshSupervisedSampleHoldHeartbeat =>
    exact returns (wp_refreshSupervisedSampleHoldHeartbeat hW h₀)
  | pollSafety deferCleanup => exact ended (wp_pollSafety hW deferCleanup rounds h₀)
  | enforcePolicyWatchdog nowMonotonicS =>
    rw [HandOperation.perform, wp_bind]
    refine wp_mono (wp_enforcePolicyWatchdog hW nowMonotonicS rounds h₀) (fun r h' t' h => ?_)
      fun _ _ _ h => h
    cases r with
    | unended =>
      rw [wp_ret]
      exact fun h => by cases h
    | alive =>
      rw [wp_ret]
      exact fun _ => h fun h => by cases h
    | stopped report =>
      rw [wp_ret]
      exact fun _ => h fun h => by cases h
  | faultAndDisable reason =>
    refine ended (hdisarmed ?_)
    rw [wp_bind]
    exact wp_mono (wp_latchFault reason h₀.1) (fun _ h' t' h => wp_settling_stop h.1 fun _ => h.2)
      fun _ _ _ h => h
  | disableAndVerify =>
    refine ended ?_
    simp only [HandWorld.disableAndVerify, wp_bind, wp_read]
    rw [← wp_bind]
    refine hdisarmed (wp_settling_stop h₀.1 fun hlatched => ?_)
    rw [of_decide_eq_true hlatched]
    exact fun h => by cases h

end Transaction

/-! ## The contract -/

structure BenchSession where
  readings : ℕ
  registers : SixIntegers
  pending : Option ℕ
  lost : Bool

def benchSession : HandWorld Binary64 BenchSession where
  monotonic w := (benchClock 1000 w.readings, { w with readings := w.readings + 1 })
  sleep _ w := (.ok (), w)
  writeAngleSet targets _ w :=
    (if w.lost then .error (transportError "no response") else .ok (),
      { w with registers := targets })
  readAngleSet _ w := (.ok (rawOf w.registers), w)
  readSafetyFeedback _ w := (.ok (some (restingFeedback (benchClock 1000 (w.readings - 1)))), w)
  requireMotion _ _ w := (.ok (), w)
  ledgerPending w := (w.pending, w)
  ledgerAcknowledge _ _ w := (.ok true, w)
  ledgerFail _ _ w := (.ok (), w)
  angleSet w := w.registers

theorem truthful_benchSession : Truthful benchSession where
  monotonic _ := rfl
  sleep _ _ := rfl
  readAngleSet _ _ := rfl
  readSafetyFeedback _ _ := rfl
  requireMotion _ _ _ := rfl
  ledgerPending _ := rfl
  ledgerAcknowledge _ _ _ := rfl
  ledgerFail _ _ _ := rfl
  readback _ _ _ h := (Except.ok.inj h).symm
  written _ _ _ _ := rfl

def benchCommand (n : ℕ) (target : Fin 1001) : ClosedLoopCommand Binary64 Binary32 :=
  { firstCommand with
    sequence := n + 1
    rh56AngleSetRegisterOrder := fun _ => target
    sequence_pos := Nat.succ_pos n }

def benchArmedSession (lost : Bool) : Hand Binary64 BenchSession :=
  ⟨benchArmed.armedSupervised "run" FloatArith.zero, .init, ⟨0, fun _ => 400, some 1, lost⟩⟩

def hasEnded : Except PyException Bool → Bool
  | .ok ended => ended
  | .error _ => true

theorem ne_of_hasEnded {r : Except PyException Bool} (h : hasEnded r = true) : r ≠ .ok false := by
  rintro rfl
  cases h

def benchFirst (lost : Bool) : Except PyException Bool × Hand Binary64 BenchSession ×
    List (HandEvent Binary64) :=
  (HandOperation.executeTargetAndAck (benchCommand 0 500)).perform benchSession benchConfig 3
    (benchArmedSession lost)

/-- The second sequence is staged and executed by the formal `execute`. -/
def benchSecond : Except PyException Bool × Hand Binary64 BenchSession × List (HandEvent Binary64) :=
  (HandOperation.execute (benchCommand 1 700)).perform benchSession benchConfig 3
    { (benchFirst false).2.1 with
      world := { (benchFirst false).2.1.world with pending := some 2 } }

end FrankaDeploy.Rh56
