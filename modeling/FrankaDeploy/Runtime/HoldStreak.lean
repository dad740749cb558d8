import FrankaDeploy.Foundation.Monitor
import FrankaDeploy.Runtime.PolicyLoop

/-! # Streaks of holds

The first hold after a command or a startup tick fixes the deadline of its streak; nothing in the
streak moves it, and a command ends the streak before it is committed. -/

namespace FrankaDeploy.Runtime.PolicyLoop

open FrankaDeploy.Foundation FrankaDeploy.Foundation.Program FrankaDeploy.Foundation.Monitor
open FrankaDeploy.TickSource (BoundedPolicyTickHold)
open scoped FloatArith

variable {D τ : Type} [FloatArith D]

/-! ## What the trace says -/

def observe : Option D → LoopEvent D → Option D
  | none, .held observed => some observed
  | _, .closed => none
  | first, _ => first

/-- **The first observation** of the streak that is open after a trace. -/
def firstObservation (t : List (LoopEvent D)) : Option D := t.foldl observe none

omit [FloatArith D] in
@[simp] theorem firstObservation_snoc (t : List (LoopEvent D)) (event : LoopEvent D) :
    firstObservation (t ++ [event]) = observe (firstObservation t) event := by
  unfold firstObservation
  rw [List.foldl_append, List.foldl_cons, List.foldl_nil]

omit [FloatArith D] in
theorem firstObservation_append {t u : List (LoopEvent D)} {first : D}
    (h : firstObservation t = some first) (hopen : LoopEvent.closed ∉ u) :
    firstObservation (t ++ u) = some first := by
  induction u using List.reverseRecOn with
  | nil => rwa [List.append_nil]
  | append_singleton u event ih =>
    rw [← List.append_assoc, firstObservation_snoc, ih fun hmem => hopen (by simp [hmem])]
    cases event with
    | closed => exact absurd (by simp) hopen
    | _ => rfl

/-- **The law of the holds**: a check compares its time with the first observation of the streak and
the budget, and a commit is in no streak. -/
def HoldLaw (C : Constants D) (before : List (LoopEvent D)) : LoopEvent D → Prop
  | .checked now deadline fault =>
    deadline = (firstObservation before).map (· + C.maximumConsecutiveNoStageHoldS) ∧
      (fault = true ↔ ∃ d, deadline = some d ∧ ¬ now < d)
  | .committed _ => firstObservation before = none
  | _ => True

/-- **The runtime knows the first observation**, and the law holds so far. -/
def Anchored (C : Constants D) (s : LoopState D τ) (t : List (LoopEvent D)) : Prop :=
  s.runtime.streak.startedMonotonicS = firstObservation t ∧ Everywhere (HoldLaw C) t

/-! ## The operations keep the anchor -/

variable {C : Constants D}

@[simp] theorem updateNoStageHoldMaximaLocked_streak (R : BoundedV94C2Runtime D) :
    (updateNoStageHoldMaximaLocked R).streak = R.streak := by
  unfold updateNoStageHoldMaximaLocked
  split
  · rfl
  · rfl

@[simp] theorem recordLocked_started (hold : BoundedPolicyTickHold D) (R : BoundedV94C2Runtime D) :
    (recordLocked hold R).streak.startedMonotonicS =
      some (R.streak.startedMonotonicS.getD hold.observedMonotonicS) := by
  unfold recordLocked
  rw [updateNoStageHoldMaximaLocked_streak]
  dsimp only
  unfold HoldStreak.record
  cases h : R.streak.startedMonotonicS with
  | none => rfl
  | some started => rfl

@[simp] theorem checkedLocked_started (now : D) (R : BoundedV94C2Runtime D) :
    (checkedLocked now R).streak.startedMonotonicS = R.streak.startedMonotonicS := by
  unfold checkedLocked
  rw [updateNoStageHoldMaximaLocked_streak]

@[simp] theorem closeLocked_started (ended : D) (R : BoundedV94C2Runtime D) :
    (closeLocked ended R).streak.startedMonotonicS = none := by
  unfold closeLocked
  cases h : R.streak.startedMonotonicS with
  | none => exact h
  | some started => rfl

theorem wp_callWorld {α : Type} {Q : α → LoopState D τ → List (LoopEvent D) → Prop}
    {E : PyException → LoopState D τ → List (LoopEvent D) → Prop} {s : LoopState D τ}
    {t : List (LoopEvent D)} {f : τ → Except PyException α × τ}
    (hok : ∀ a, (f s.world).1 = .ok a → Q a { s with world := (f s.world).2 } t)
    (herror : ∀ e, (f s.world).1 = .error e → E e { s with world := (f s.world).2 } t) :
    wp (callWorld f) Q E s t := by
  rw [callWorld, wp_ofStep]
  exact ⟨hok, herror⟩

theorem wp_modify {Q : Unit → LoopState D τ → List (LoopEvent D) → Prop}
    {E : PyException → LoopState D τ → List (LoopEvent D) → Prop}
    (f : BoundedV94C2Runtime D → BoundedV94C2Runtime D) :
    wp (modify f : LoopM D τ Unit) Q E =
      fun s t => Q () { s with runtime := f s.runtime } t := by
  rw [modify, wp_update]

/-- **Recording a hold** opens a streak or goes on with one. -/
theorem keeps_record (hold : BoundedPolicyTickHold D) :
    Keeps (Anchored C) (recordNoStagePolicyHold hold : LoopM D τ Unit) := by
  rintro s t ⟨hstarted, hlaw⟩
  rw [recordNoStagePolicyHold, wp_bind, wp_modify, wp_emit]
  refine ⟨?_, hlaw.snoc trivial⟩
  rw [recordLocked_started, hstarted, firstObservation_snoc]
  cases firstObservation t with
  | none => rfl
  | some first => rfl

/-- **The liveness check.** What it has read is in its event. -/
theorem wp_require {now : D} {s : LoopState D τ} {t : List (LoopEvent D)} (h : Anchored C s t) :
    wp (requireNoStagePolicyHoldWithinBound C now)
      (fun _ s' t' => Anchored C s' t' ∧ s'.world = s.world ∧
        (t' = t ++ [.checked now ((firstObservation t).map
          (· + C.maximumConsecutiveNoStageHoldS)) false]) ∧
        ∀ first, firstObservation t = some first →
          now < first + C.maximumConsecutiveNoStageHoldS)
      (fun _ s' t' => Anchored C s' t' ∧ (t' = t ∨
        t' = t ++ [.checked now ((firstObservation t).map
          (· + C.maximumConsecutiveNoStageHoldS)) true])) s t := by
  obtain ⟨hstarted, hlaw⟩ := h
  have hdeadline : noStagePolicyHoldDeadlineMonotonicS C s.runtime =
      (firstObservation t).map (· + C.maximumConsecutiveNoStageHoldS) := by
    rw [noStagePolicyHoldDeadlineMonotonicS, hstarted]
  rw [requireNoStagePolicyHoldWithinBound, wp_bind, wp_ofExcept]
  refine ⟨fun _ _ => ?_, fun _ _ => ⟨⟨hstarted, hlaw⟩, .inl rfl⟩⟩
  rw [wp_bind, wp_read]
  dsimp only
  rw [hdeadline]
  cases hfirst : firstObservation t with
  | none =>
    show wp (emit (.checked now none false)) _ _ s t
    rw [wp_emit]
    refine ⟨⟨?_, hlaw.snoc ⟨?_, ?_⟩⟩, rfl, rfl, ?_⟩
    · rw [firstObservation_snoc, hstarted, hfirst]
      rfl
    · rw [hfirst]
      rfl
    · simp
    · intro first h
      cases h
  | some first =>
    have hkept : (checkedLocked now s.runtime).streak.startedMonotonicS = some first := by
      rw [checkedLocked_started, hstarted, hfirst]
    show wp (do
      modify (checkedLocked now)
      if now < first + C.maximumConsecutiveNoStageHoldS then
        emit (.checked now (some (first + C.maximumConsecutiveNoStageHoldS)) false)
      else do
        emit (.checked now (some (first + C.maximumConsecutiveNoStageHoldS)) true)
        fail (hardwareError (holdFaultText (checkedLocked now s.runtime)))) _ _ s t
    rw [wp_bind, wp_modify, wp_ite]
    refine ⟨fun hbefore => ?_, fun hpassed => ?_⟩
    · rw [wp_emit]
      refine ⟨⟨?_, hlaw.snoc ⟨?_, ?_⟩⟩, rfl, rfl, ?_⟩
      · rw [firstObservation_snoc, hfirst]
        exact hkept
      · rw [hfirst]
        rfl
      · simp [hbefore]
      · rintro first' ⟨⟩
        exact hbefore
    · rw [wp_bind, wp_emit, wp_fail]
      refine ⟨⟨?_, hlaw.snoc ⟨?_, ?_⟩⟩, .inr rfl⟩
      · rw [firstObservation_snoc, hfirst]
        exact hkept
      · rw [hfirst]
        rfl
      · simp [hpassed]

theorem keeps_require (now : D) :
    Keeps (Anchored C) (requireNoStagePolicyHoldWithinBound C now : LoopM D τ Unit) :=
  fun _ _ h => wp_mono (wp_require h) (fun _ _ _ h => h.1) fun _ _ _ h => h.1

theorem wp_close {ended : D} {s : LoopState D τ} {t : List (LoopEvent D)} (h : Anchored C s t) :
    wp (closeNoStagePolicyHoldStreak ended : LoopM D τ Unit)
      (fun _ s' t' => Anchored C s' t' ∧ s'.world = s.world ∧ t' = t ++ [.closed])
      (fun _ s' t' => Anchored C s' t' ∧ s' = s ∧ t' = t) s t := by
  rw [closeNoStagePolicyHoldStreak, wp_bind, wp_ofExcept]
  refine ⟨fun _ _ => ?_, fun _ _ => ⟨h, rfl, rfl⟩⟩
  rw [wp_bind, wp_modify, wp_emit]
  refine ⟨⟨?_, h.2.snoc trivial⟩, rfl, rfl⟩
  rw [closeLocked_started, firstObservation_snoc]
  cases firstObservation t with
  | none => rfl
  | some first => rfl

theorem keeps_close (ended : D) :
    Keeps (Anchored C) (closeNoStagePolicyHoldStreak ended : LoopM D τ Unit) :=
  fun _ _ h => wp_mono (wp_close h) (fun _ _ _ h => h.1) fun _ _ _ h => h.1

/-! ## What the loops keep

The loops are made of a few operations, and keep what these keep. -/

/-- **A steady relation** `I`: it depends on the streak and the trace only, the operations on the streak
keep it, and a liveness check that raises leaves `J`. -/
structure Steady (C : Constants D) (I J : LoopState D τ → List (LoopEvent D) → Prop) : Prop where
  leaves : ∀ s t, I s t → J s t
  world : ∀ s t w, I s t → I { s with world := w } t
  runtime : ∀ s t (f : BoundedV94C2Runtime D → BoundedV94C2Runtime D),
    (∀ R, (f R).streak = R.streak) → I s t → I { s with runtime := f s.runtime } t
  record : ∀ hold, Keeps I (recordNoStagePolicyHold hold)
  require : ∀ now, Leaves I J (requireNoStagePolicyHoldWithinBound C now)
  close : ∀ ended, Keeps I (closeNoStagePolicyHoldStreak ended)

namespace Steady

variable {I J : LoopState D τ → List (LoopEvent D) → Prop} {W : LoopWorld D τ}

theorem keeps_callWorld (h : Steady C I J) {α : Type} (f : τ → Except PyException α × τ) :
    Keeps I (callWorld f : LoopM D τ α) :=
  keeps_ofStep fun s t hs => h.world s t _ hs

theorem keeps_modify (h : Steady C I J) {f : BoundedV94C2Runtime D → BoundedV94C2Runtime D}
    (hf : ∀ R, (f R).streak = R.streak) : Keeps I (modify f : LoopM D τ Unit) :=
  keeps_update fun s t hs => h.runtime s t f hf hs

theorem keeps_advance (h : Steady C I J) (scheduled period completed : D) :
    Keeps I (advancePhaseLockedPolicyRelease scheduled period completed : LoopM D τ D) := by
  refine (keeps_ofExcept _).bind fun _ => (keeps_ofExcept _).bind fun _ => ?_
  refine (keeps_ofExcept _).bind fun _ => (keeps_ofExcept _).bind fun _ => ?_
  exact Keeps.bind (h.keeps_modify fun _ => rfl) fun _ => keeps_ret _

theorem callWorld (h : Steady C I J) {α : Type} (f : τ → Except PyException α × τ) :
    Leaves I J (PolicyLoop.callWorld f : LoopM D τ α) :=
  (h.keeps_callWorld f).leaves h.leaves

theorem readNow (h : Steady C I J) : Leaves I J W.readNow := h.callWorld _

theorem modify (h : Steady C I J) {f : BoundedV94C2Runtime D → BoundedV94C2Runtime D}
    (hf : ∀ R, (f R).streak = R.streak) : Leaves I J (PolicyLoop.modify f : LoopM D τ Unit) :=
  (h.keeps_modify hf).leaves h.leaves

theorem advance (h : Steady C I J) (scheduled period completed : D) :
    Leaves I J (advancePhaseLockedPolicyRelease scheduled period completed : LoopM D τ D) :=
  (h.keeps_advance scheduled period completed).leaves h.leaves

theorem ret {α : Type} (h : Steady C I J) (a : α) : Leaves I J (Program.ret a : LoopM D τ α) :=
  (keeps_ret a).leaves h.leaves

theorem check (h : Steady C I J) (c : Prop) [Decidable c] (e : PyException) :
    Leaves I J (Program.check c e : LoopM D τ Unit) :=
  (keeps_check c e).leaves h.leaves

theorem read (h : Steady C I J) : Leaves I J (Program.read : LoopM D τ (LoopState D τ)) :=
  keeps_read.leaves h.leaves

theorem waitForPolicyRelease (h : Steady C I J) (notBefore : D) (polls : ℕ) :
    Leaves I J (W.waitForPolicyRelease C notBefore polls) := by
  induction polls with
  | zero => exact h.ret _
  | succ polls ih =>
    rw [LoopWorld.waitForPolicyRelease]
    refine (h.callWorld _).bind fun running => Leaves.ite (h.ret _) ?_
    refine h.readNow.bind fun now => (h.require now).bind fun _ => ?_
    refine (h.check _ _).bind fun _ => Leaves.ite (h.ret _) ?_
    exact (h.callWorld _).bind fun _ => (h.callWorld _).bind fun _ => ih

theorem startupTick (h : Steady C I J) (scheduled : D) :
    Leaves I J (W.startupTick C scheduled) := by
  have hrelease : Leaves I J (do
      let completed ← W.readNow
      advancePhaseLockedPolicyRelease scheduled C.policyPeriodS completed) :=
    h.readNow.bind fun completed => h.advance _ _ _
  rw [LoopWorld.startupTick]
  refine h.readNow.bind fun now => (h.require now).bind fun _ => ?_
  refine (h.callWorld _).bind fun _ => h.read.bind fun s => ?_
  refine (h.callWorld _).bind fun primed => ?_
  cases primed with
  | hold hold =>
    refine ((h.record hold).leaves h.leaves).bind fun _ => h.readNow.bind fun now => ?_
    exact (h.require now).bind fun _ => hrelease
  | tick primedIndex produced =>
    refine (h.check _ _).bind fun _ => ((h.close produced).leaves h.leaves).bind fun _ => ?_
    exact Leaves.bind (h.modify fun _ => rfl) fun _ => hrelease

theorem startupLoop (h : Steady C I J) (rounds : ℕ) (next : D) :
    Leaves I J (W.startupLoop C rounds next) := by
  induction rounds generalizing next with
  | zero => exact h.ret _
  | succ rounds ih =>
    rw [LoopWorld.startupLoop]
    refine h.read.bind fun s => Leaves.ite (h.ret _) ?_
    refine (h.waitForPolicyRelease next _).bind fun released => ?_
    match released with
    | none => exact h.ret _
    | some false => exact h.ret _
    | some true => exact (h.startupTick next).bind fun next => ih next

theorem holdTick (h : Steady C I J) (scheduled : D) (sequence : ℕ)
    (hold : BoundedPolicyTickHold D) : Leaves I J (W.holdTick C scheduled sequence hold) := by
  rw [LoopWorld.holdTick]
  refine (h.check _ _).bind fun _ => (h.callWorld _).bind fun _ => ?_
  refine ((h.record hold).leaves h.leaves).bind fun _ => h.readNow.bind fun now => ?_
  refine (h.require now).bind fun _ => Leaves.ite (h.advance _ _ _) (h.read.bind fun s => ?_)
  cases noStagePolicyHoldDeadlineMonotonicS C s.runtime with
  | none => exact (keeps_fail _).leaves h.leaves
  | some deadline => exact h.ret _

def Commits (I : LoopState D τ → List (LoopEvent D) → Prop) : Prop :=
  ∀ s t time sequence, I s (t ++ [.closed]) →
    I s (t ++ [.closed] ++ [.handCommanded time] ++ [.committed sequence])

theorem commandTick (h : Steady C I J) (hcommits : Commits I) (scheduled now : D)
    (sequence preparedSequence : ℕ) (produced : D) :
    Leaves I J (W.commandTick C scheduled now sequence preparedSequence produced) := by
  have hrelease : ∀ executed : Executed D, Leaves I J (do
      let next ← (if C.phaseLocked20hz = true then do
          let completed ← W.readNow
          advancePhaseLockedPolicyRelease scheduled C.policyPeriodS completed
        else Program.ret (now + C.policyPeriodS))
      let _ ← W.readNow
      Program.ret (if executed.replayComplete = true then none else some next)) := by
    intro executed
    refine Leaves.bind ?_ fun next => h.readNow.bind fun _ => h.ret _
    exact Leaves.ite (h.readNow.bind fun completed => h.advance _ _ _) (h.ret _)
  rw [LoopWorld.commandTick]
  refine (h.check _ _).bind fun _ => ?_
  intro s t hs
  -- the close leaves its event, so that the commit follows a closed streak
  have hclose : wp (closeNoStagePolicyHoldStreak produced : LoopM D τ Unit)
      (fun _ s' t' => I s' t' ∧ t' = t ++ [.closed]) (fun _ s' t' => J s' t') s t := by
    have hkept := (h.close produced).leaves h.leaves s t hs
    rw [closeNoStagePolicyHoldStreak, wp_bind, wp_ofExcept] at hkept ⊢
    refine ⟨fun ended hended => ?_, hkept.2⟩
    have hkept := hkept.1 ended hended
    rw [wp_bind, wp_modify, wp_emit] at hkept ⊢
    exact ⟨hkept, rfl⟩
  rw [wp_bind]
  refine wp_mono hclose ?_ fun _ _ _ h => h
  rintro - s' _ ⟨hs', rfl⟩
  rw [wp_bind]
  refine wp_callWorld (fun executed _ => ?_) fun _ _ => h.leaves _ _ (h.world _ _ _ hs')
  rw [wp_bind, wp_emit, wp_bind, wp_modify, wp_bind, wp_emit]
  refine hrelease executed _ _ (hcommits _ _ _ _ ?_)
  exact h.runtime _ _ (fun R => { R with lastCommittedSequence := sequence }) (fun _ => rfl)
    (h.world _ _ _ hs')

theorem policyTick (h : Steady C I J) (hcommits : Commits I) (scheduled : D) :
    Leaves I J (W.policyTick C scheduled) := by
  rw [LoopWorld.policyTick]
  refine h.readNow.bind fun now => (h.require now).bind fun _ => ?_
  refine (h.callWorld _).bind fun _ => h.read.bind fun s => ?_
  refine (h.callWorld _).bind fun prepared => ?_
  cases prepared with
  | hold hold => exact (h.holdTick scheduled _ hold).bind fun next => h.ret _
  | command preparedSequence produced => exact h.commandTick hcommits _ _ _ _ _

theorem policyLoop (h : Steady C I J) (hcommits : Commits I) (rounds : ℕ) (next : D) :
    Leaves I J (W.policyLoop C rounds next) := by
  induction rounds generalizing next with
  | zero => exact h.ret _
  | succ rounds ih =>
    rw [LoopWorld.policyLoop]
    refine h.read.bind fun s => Leaves.ite (h.ret _) ?_
    refine (h.waitForPolicyRelease next _).bind fun released => ?_
    match released with
    | none => exact h.ret _
    | some false => exact h.ret _
    | some true =>
      refine (h.policyTick hcommits next).bind fun next => ?_
      cases next with
      | none => exact h.ret _
      | some next => exact ih next

theorem loops (h : Steady C I J) (hcommits : Commits I) (rounds : ℕ) :
    Leaves I J (W.loops C rounds) := by
  rw [LoopWorld.loops]
  refine h.readNow.bind fun next => (h.startupLoop rounds next).bind fun started => ?_
  match started with
  | none => exact h.ret _
  | some (next, startupComplete) =>
    refine Leaves.bind (Leaves.ite (h.policyLoop hcommits rounds next) (h.ret _)) fun ended => ?_
    refine Leaves.ite (h.ret _) (h.readNow.bind fun now => ?_)
    exact ((h.close now).leaves h.leaves).bind fun _ => h.ret _

end Steady

/-! ## Every run -/

variable {W : LoopWorld D τ}

theorem steady_anchored : Steady C (Anchored C : LoopState D τ → List (LoopEvent D) → Prop)
    (Anchored C) where
  leaves _ _ h := h
  world _ _ _ h := h
  runtime s t f hf h := by
    unfold Anchored
    rw [show (f s.runtime).streak = s.runtime.streak from hf _]
    exact h
  record := keeps_record
  require := keeps_require
  close := keeps_close

omit [FloatArith D] in
theorem firstObservation_closed (t : List (LoopEvent D)) :
    firstObservation (t ++ [.closed]) = none := by
  rw [firstObservation_snoc]
  cases firstObservation t with
  | none => rfl
  | some _ => rfl

/-- **A command ends the streak** before it is committed. -/
theorem commits_anchored :
    Steady.Commits (Anchored C : LoopState D τ → List (LoopEvent D) → Prop) := by
  rintro s t time sequence ⟨hstarted, hlaw⟩
  rw [firstObservation_closed] at hstarted
  have hnone : firstObservation (t ++ [.closed] ++ [.handCommanded time]) = none := by
    rw [firstObservation_snoc, firstObservation_closed]
    rfl
  have hcommanded : Everywhere (HoldLaw C) (t ++ [.closed] ++ [.handCommanded time]) :=
    hlaw.snoc trivial
  refine ⟨?_, hcommanded.snoc hnone⟩
  rw [firstObservation_snoc, hnone]
  exact hstarted

def NoFault (t : List (LoopEvent D)) : Prop := ∀ now deadline, .checked now deadline true ∉ t

/-- **A check that raised is the last event.** -/
def FaultLast (t : List (LoopEvent D)) : Prop :=
  ∀ before now deadline after, t = before ++ .checked now deadline true :: after → after = []

omit [FloatArith D] in
theorem NoFault.snoc {t : List (LoopEvent D)} {event : LoopEvent D} (h : NoFault t)
    (hevent : ∀ now deadline, .checked now deadline true ≠ event) : NoFault (t ++ [event]) := by
  intro now deadline hmem
  rcases List.mem_append.mp hmem with hold | hnew
  · exact h now deadline hold
  · exact hevent now deadline (List.mem_singleton.mp hnew)

omit [FloatArith D] in
theorem NoFault.faultLast {t : List (LoopEvent D)} (h : NoFault t) : FaultLast t := by
  intro before now deadline after hsplit
  refine absurd ?_ (h now deadline)
  rw [hsplit]
  simp

omit [FloatArith D] in
theorem NoFault.faultLast_snoc {t : List (LoopEvent D)} {event : LoopEvent D} (h : NoFault t) :
    FaultLast (t ++ [event]) := by
  intro before now deadline after hsplit
  rcases List.eq_nil_or_concat after with rfl | ⟨after, last, rfl⟩
  · rfl
  · refine absurd ?_ (h now deadline)
    rw [List.concat_eq_append, ← List.cons_append, ← List.append_assoc] at hsplit
    rw [(List.append_inj' hsplit rfl).1]
    simp

theorem steady_noFault : Steady C (fun (_ : LoopState D τ) t => NoFault t)
    (fun _ t => FaultLast t) where
  leaves _ _ h := h.faultLast
  world _ _ _ h := h
  runtime _ _ _ _ h := h
  record hold := by
    intro s t h
    rw [recordNoStagePolicyHold, wp_bind, wp_modify, wp_emit]
    exact h.snoc fun _ _ => by simp
  require now := by
    intro s t h
    have hpass : ∀ deadline, NoFault (t ++ [.checked now deadline false]) :=
      fun deadline => h.snoc fun _ _ => by simp
    rw [requireNoStagePolicyHoldWithinBound, wp_bind, wp_ofExcept]
    refine ⟨fun _ _ => ?_, fun _ _ => h.faultLast⟩
    rw [wp_bind, wp_read]
    dsimp only
    cases noStagePolicyHoldDeadlineMonotonicS C s.runtime with
    | none =>
      dsimp only
      rw [wp_emit]
      exact hpass none
    | some deadline =>
      dsimp only
      rw [wp_bind, wp_modify, wp_ite]
      refine ⟨fun _ => ?_, fun _ => ?_⟩
      · rw [wp_emit]
        exact hpass _
      · rw [wp_bind, wp_emit, wp_fail]
        exact h.faultLast_snoc
  close ended := by
    intro s t h
    rw [closeNoStagePolicyHoldStreak, wp_bind, wp_ofExcept]
    refine ⟨fun _ _ => ?_, fun _ _ => h⟩
    rw [wp_bind, wp_modify, wp_emit]
    exact h.snoc fun _ _ => by simp

theorem commits_noFault : Steady.Commits fun (_ : LoopState D τ) t => NoFault t := by
  intro s t time sequence h
  exact (h.snoc fun _ _ => by simp).snoc fun _ _ => by simp

/-- **A check that raised latches the fault**: nothing follows it but the end of the streak, where the
clock lets it end, and the latch. -/
def FaultLatched (t : List (LoopEvent D)) : Prop :=
  ∀ before now deadline after, t = before ++ .checked now deadline true :: after →
    after = [.faultLatched] ∨ after = [.closed, .faultLatched]

omit [FloatArith D] in
theorem FaultLast.append {t u before after : List (LoopEvent D)} {now : D} {deadline : Option D}
    (h : FaultLast t) (hu : NoFault u)
    (hsplit : t ++ u = before ++ .checked now deadline true :: after) : after = u := by
  rcases List.append_eq_append_iff.mp hsplit with ⟨x, -, hx⟩ | ⟨x, ht, hx⟩
  · refine absurd ?_ (hu now deadline)
    rw [hx]
    simp
  · cases x with
    | nil =>
      refine absurd ?_ (hu now deadline)
      rw [List.nil_append] at hx
      rw [← hx]
      simp
    | cons event x =>
      rw [List.cons_append] at hx
      obtain ⟨rfl, rfl⟩ := List.cons.inj hx
      rw [h before now deadline x ht, List.nil_append]

theorem wp_run (rounds : ℕ) {s : LoopState D τ} (h : s.runtime.streak.startedMonotonicS = none) :
    wp (W.run C rounds)
      (fun _ _ t => Everywhere (HoldLaw C) t ∧ FaultLatched t)
      (fun _ _ t => Everywhere (HoldLaw C) t ∧ FaultLatched t) s [] := by
  have hanchored : Anchored C s [] := ⟨h, everywhere_nil⟩
  have hnofault : NoFault ([] : List (LoopEvent D)) := fun _ _ => List.not_mem_nil
  rw [LoopWorld.run, wp_bind, wp_attempt]
  refine wp_mono (wp_and (steady_anchored.loops commits_anchored rounds s [] hanchored)
    (steady_noFault.loops commits_noFault rounds s [] hnofault)) ?_ ?_
  · rintro ended s' t ⟨hanchored, hnofault⟩
    rw [wp_ret]
    refine ⟨hanchored.2, fun before now deadline after hsplit => ?_⟩
    refine absurd ?_ (hnofault now deadline)
    rw [hsplit]
    simp
  · rintro e s' t ⟨hanchored, hlast⟩
    have hend : ∀ (s'' : LoopState D τ) (u : List (LoopEvent D)), NoFault u →
        u = [] ∨ u = [.closed] → Everywhere (HoldLaw C) (t ++ u) →
        wp (do
            emit .faultLatched
            fail e : LoopM D τ Bool)
          (fun _ _ t => Everywhere (HoldLaw C) t ∧ FaultLatched t)
          (fun _ _ t => Everywhere (HoldLaw C) t ∧ FaultLatched t) s'' (t ++ u) := by
      intro s'' u hu hcases hlaw
      rw [wp_bind, wp_emit, wp_fail]
      refine ⟨hlaw.snoc trivial, fun before now deadline after hsplit => ?_⟩
      rw [List.append_assoc] at hsplit
      have hafter := hlast.append (hu.snoc fun _ _ => by simp) hsplit
      rcases hcases with rfl | rfl
      · exact .inl hafter
      · exact .inr hafter
    have hopen : ∀ s'' : LoopState D τ, wp (do
          emit .faultLatched
          fail e : LoopM D τ Bool)
        (fun _ _ t => Everywhere (HoldLaw C) t ∧ FaultLatched t)
        (fun _ _ t => Everywhere (HoldLaw C) t ∧ FaultLatched t) s'' t := by
      intro s''
      have hhere := hend s'' [] hnofault (.inl rfl) (by
        rw [List.append_nil]
        exact hanchored.2)
      rwa [List.append_nil] at hhere
    dsimp only
    rw [wp_bind, wp_attempt, wp_bind, LoopWorld.readNow]
    refine wp_callWorld (fun now _ => ?_) fun _ _ => hopen _
    refine wp_mono (wp_close (s := { s' with world := _ }) hanchored) ?_ ?_
    · rintro - s'' _ ⟨hanchored', -, rfl⟩
      refine hend s'' [.closed] ?_ (.inr rfl) hanchored'.2
      intro now deadline hmem
      simp at hmem
    · rintro - s'' _ ⟨-, -, rfl⟩
      exact hopen s''

end FrankaDeploy.Runtime.PolicyLoop
