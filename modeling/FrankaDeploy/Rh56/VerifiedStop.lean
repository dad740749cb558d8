import FrankaDeploy.Rh56.StopSequence

/-! # A verified stop

What the report of `_disable_and_verify` says about the transport: which writes, readbacks and
samples came before it. Each write has a window of 20 ms in which it is still issued; when the
window is over before the call, the write is skipped and the readback decides alone. -/

namespace FrankaDeploy.Rh56

open FrankaDeploy.Foundation FrankaDeploy.Foundation.Program
open scoped FloatArith

variable {D τ : Type} [FloatArith D]

/-! ## Single operations -/

def Framed (h h' : Hand D τ) : Prop := h'.actuator = h.actuator ∧ h'.stop = h.stop

theorem Framed.refl (h : Hand D τ) : Framed h h := ⟨rfl, rfl⟩

theorem Framed.trans {h h' h'' : Hand D τ} (h₁ : Framed h h') (h₂ : Framed h' h'') :
    Framed h h'' := ⟨h₂.1.trans h₁.1, h₂.2.trans h₁.2⟩

def dueEvents (targets : SixIntegers) (deadline now : D) : List (HandEvent D) :=
  .writeDue deadline now :: if deadline < now then [] else [.write targets]

def HandEvent.isQuiet : HandEvent D → Bool
  | .write _ | .writeDue _ _ => false
  | _ => true

def HandEvent.isReading : HandEvent D → Bool
  | .readback _ | .feedback _ => true
  | _ => false

def HandEvent.isWriting : HandEvent D → Bool
  | .write _ | .writeDue _ _ => true
  | _ => false

theorem HandEvent.isQuiet_of_isReading {event : HandEvent D} (h : event.isReading = true) :
    event.isQuiet = true := by
  cases event <;> first | rfl | exact Bool.noConfusion h

def Quiet (t : List (HandEvent D)) : Prop := ∀ event ∈ t, event.isQuiet = true

theorem quiet_nil : Quiet ([] : List (HandEvent D)) := fun _ h => by cases h

theorem quiet_singleton {event : HandEvent D} (h : event.isQuiet = true) : Quiet [event] := by
  intro e he
  rw [List.mem_singleton.mp he]
  exact h

theorem Quiet.append {t t' : List (HandEvent D)} (h : Quiet t) (h' : Quiet t') :
    Quiet (t ++ t') := by
  intro e he
  exact (List.mem_append.mp he).elim (h e) (h' e)

section Operations

variable (W : HandWorld D τ) (A : ActuatorConfig D)

theorem wp_now {Q : D → Hand D τ → List (HandEvent D) → Prop}
    {E : PyException → Hand D τ → List (HandEvent D) → Prop} {h : Hand D τ}
    {t : List (HandEvent D)}
    (hQ : Q (W.monotonic h.world).1.1 { h with world := (W.monotonic h.world).2 } t) :
    wp W.now Q E h t := by
  refine wp_callWorld ?_ ?_
  · intro a w hcall
    obtain ⟨ha, hw⟩ := Prod.mk.inj hcall
    rw [← Except.ok.inj ha, ← hw]
    exact hQ
  · intro e w hcall
    cases (Prod.mk.inj hcall).1

theorem wp_attempt_callWorld {α : Type} {call : τ → Except PyException α × τ}
    {Q : Except PyException α → Hand D τ → List (HandEvent D) → Prop}
    {E : PyException → Hand D τ → List (HandEvent D) → Prop} {h : Hand D τ}
    {t : List (HandEvent D)} (hQ : ∀ r w, Q r { h with world := w } t) :
    wp (attempt (callWorld call) : HandM D τ _) Q E h t := by
  rw [wp_attempt]
  exact wp_callWorld (fun a w _ => hQ (.ok a) w) fun e w _ => hQ (.error e) w

/-- **A write** changes the world only, and is skipped when its deadline is over. -/
theorem wp_transportWrite (targets : SixIntegers) (deadline : D) (operation : String)
    (h : Hand D τ) :
    wp (W.transportWrite targets deadline operation)
      (fun _ h' w => Framed h h' ∧ ∃ now, w = dueEvents targets deadline now)
      (fun _ h' w => Framed h h' ∧ ∃ now, w = dueEvents targets deadline now) h [] := by
  simp only [HandWorld.transportWrite, wp_bind, HandWorld.beforeDeadline]
  refine wp_now W ?_
  rw [wp_emit, wp_check]
  refine ⟨fun hlate => ⟨⟨rfl, rfl⟩, _, by rw [dueEvents, if_pos hlate]; rfl⟩, fun hopen => ?_⟩
  rw [wp_emit]
  refine wp_attempt_callWorld fun r w => ?_
  have hevents : ([] ++ [HandEvent.writeDue deadline (W.monotonic h.world).1.1] ++
      [HandEvent.write targets] : List (HandEvent D)) =
        dueEvents targets deadline (W.monotonic h.world).1.1 := by
    rw [dueEvents, if_neg hopen]
    rfl
  rw [hevents]
  cases r with
  | error e =>
    rw [wp_fail]
    exact ⟨⟨rfl, rfl⟩, _, rfl⟩
  | ok _ =>
    simp only [wp_bind]
    refine wp_now W ?_
    rw [wp_check]
    exact ⟨fun _ => ⟨⟨rfl, rfl⟩, _, rfl⟩, fun _ => ⟨⟨rfl, rfl⟩, _, rfl⟩⟩

theorem wp_attempt_transportWrite {targets : SixIntegers} {deadline : D} {operation : String}
    {Q : Except PyException Unit → Hand D τ → List (HandEvent D) → Prop}
    {E : PyException → Hand D τ → List (HandEvent D) → Prop} {h : Hand D τ}
    (hQ : ∀ r h' now, Framed h h' → Q r h' (dueEvents targets deadline now)) :
    wp (attempt (W.transportWrite targets deadline operation)) Q E h [] := by
  rw [wp_attempt]
  refine wp_mono (wp_transportWrite W targets deadline operation h) ?_ ?_
  · rintro _ h' w ⟨hframed, now, rfl⟩
    exact hQ _ h' now hframed
  · rintro _ h' w ⟨hframed, now, rfl⟩
    exact hQ _ h' now hframed

theorem wp_transportReadTargets (deadline : D) (operation : String) (h : Hand D τ) :
    wp (W.transportReadTargets deadline operation)
      (fun r h' w => Framed h h' ∧ w = [.readback r])
      (fun _ h' w => Framed h h' ∧ Quiet w) h [] := by
  simp only [HandWorld.transportReadTargets, wp_bind, HandWorld.beforeDeadline]
  refine wp_now W ?_
  rw [wp_check]
  refine ⟨fun _ => ⟨⟨rfl, rfl⟩, quiet_nil⟩, fun _ => wp_attempt_callWorld fun r w => ?_⟩
  cases r with
  | error e =>
    rw [wp_fail]
    exact ⟨⟨rfl, rfl⟩, quiet_nil⟩
  | ok raw =>
    simp only [wp_bind, wp_ofExcept, wp_emit]
    refine ⟨fun result _ => wp_now W ?_, fun _ _ => ⟨⟨rfl, rfl⟩, quiet_nil⟩⟩
    simp only [wp_check, wp_ret]
    exact ⟨fun _ => ⟨⟨rfl, rfl⟩, quiet_singleton rfl⟩, fun _ => ⟨⟨rfl, rfl⟩, rfl⟩⟩

theorem wp_transportReadFeedback (deadline : D) (operation : String) (h : Hand D τ) :
    wp (W.transportReadFeedback A deadline operation)
      (fun f h' w => Framed h h' ∧ w = [.feedback f])
      (fun _ h' w => Framed h h' ∧ Quiet w) h [] := by
  simp only [HandWorld.transportReadFeedback, wp_bind, HandWorld.beforeDeadline]
  refine wp_now W ?_
  rw [wp_check]
  refine ⟨fun _ => ⟨⟨rfl, rfl⟩, quiet_nil⟩, fun _ => wp_attempt_callWorld fun r w => ?_⟩
  match r with
  | .error e =>
    rw [wp_fail]
    exact ⟨⟨rfl, rfl⟩, quiet_nil⟩
  | .ok none =>
    rw [wp_fail]
    exact ⟨⟨rfl, rfl⟩, quiet_nil⟩
  | .ok (some feedback) =>
    simp only [wp_bind, wp_emit]
    refine wp_now W ?_
    simp only [wp_check, wp_read, wp_ret]
    have quiet : Quiet ([] ++ [HandEvent.feedback feedback] : List (HandEvent D)) :=
      quiet_singleton rfl
    refine ⟨fun _ => ⟨⟨rfl, rfl⟩, quiet⟩, fun _ => ⟨fun _ => ⟨⟨rfl, rfl⟩, quiet⟩, fun _ =>
      ⟨fun _ => ⟨⟨rfl, rfl⟩, quiet⟩, fun _ => ⟨fun _ => ⟨⟨rfl, rfl⟩, quiet⟩, fun _ =>
        ⟨⟨rfl, rfl⟩, rfl⟩⟩⟩⟩⟩

/-- **A write that is verified** was due, and its target is read back. -/
theorem wp_transportWriteOnceThenVerify (targets : SixIntegers) (deadline : D)
    (operation : String) (h : Hand D τ) :
    wp (W.transportWriteOnceThenVerify targets deadline operation)
      (fun _ h' w => Framed h h' ∧ ∃ writeDeadline now,
        w = dueEvents targets writeDeadline now ++ [.readback targets])
      (fun _ h' _ => Framed h h') h [] := by
  simp only [HandWorld.transportWriteOnceThenVerify, wp_bind]
  refine wp_now W ?_
  refine wp_attempt_transportWrite W fun r h' now hframed => ?_
  rw [wp_attempt, wp_shift]
  refine wp_mono (wp_transportReadTargets W deadline _ h') ?_ ?_
  · rintro readback h'' w ⟨hframed', rfl⟩
    have hall : Framed h h'' := Framed.trans ⟨hframed.1, hframed.2⟩ hframed'
    simp only [wp_bind, wp_check, wp_ret]
    refine ⟨fun _ => hall, fun hsame => ?_⟩
    obtain rfl : readback = targets := not_not.mp hsame
    exact ⟨hall, _, now, rfl⟩
  · rintro e h'' w ⟨hframed', -⟩
    have hall : Framed h h'' := Framed.trans ⟨hframed.1, hframed.2⟩ hframed'
    cases r with
    | error writeFailure =>
      rw [wp_fail]
      exact hall
    | ok _ =>
      rw [wp_fail]
      exact hall

end Operations

/-! ## Invariants of reading

A relation between an actuator and its trace that survives reads, pauses and changes of the tails
survives the settling phase. -/

def HoldsVerdict (L L' : StopLocals D) : Prop :=
  L'.failures = L.failures ∧ L'.holdVerified = L.holdVerified ∧
    L'.verifiedPasses = L.verifiedPasses

theorem HoldsVerdict.refl (L : StopLocals D) : HoldsVerdict L L := ⟨rfl, rfl, rfl⟩

theorem HoldsVerdict.trans {L L' L'' : StopLocals D} (h : HoldsVerdict L L')
    (h' : HoldsVerdict L' L'') : HoldsVerdict L L'' :=
  ⟨h'.1.trans h.1, h'.2.1.trans h.2.1, h'.2.2.trans h.2.2⟩

/-- `I` survives what the reading operations of `W` do. -/
structure Tolerates (W : HandWorld D τ) (I : Hand D τ → List (HandEvent D) → Prop) : Prop where
  now : ∀ h t, I h t → I { h with world := (W.monotonic h.world).2 } t
  sleep : ∀ d h t, I h t → I { h with world := (W.sleep d h.world).2 } t
  readAngleSet : ∀ d h t, I h t → I { h with world := (W.readAngleSet d h.world).2 } t
  readSafetyFeedback : ∀ d h t, I h t → I { h with world := (W.readSafetyFeedback d h.world).2 } t
  reading : ∀ event : HandEvent D, event.isReading = true → ∀ h t, I h t → I h (t ++ [event])
  stop : ∀ L h t, HoldsVerdict h.stop L → I h t → I { h with stop := L } t

/-- `I` survives what the operations of a stop do, apart from its beginning and its verdict. -/
structure ToleratesStop (W : HandWorld D τ) (I : Hand D τ → List (HandEvent D) → Prop) : Prop
    extends Tolerates W I where
  writeAngleSet : ∀ v d h t, I h t → I { h with world := (W.writeAngleSet v d h.world).2 } t
  writing : ∀ event : HandEvent D, event.isWriting = true → ∀ h t, I h t → I h (t ++ [event])
  locals : ∀ L h t, I h t → I { h with stop := L } t

section Keeps

variable {W : HandWorld D τ} {A : ActuatorConfig D} {I : Hand D τ → List (HandEvent D) → Prop}

theorem keeps_callWorld {α : Type} {call : τ → Except PyException α × τ}
    (hcall : ∀ h t, I h t → I { h with world := (call h.world).2 } t) :
    Keeps I (callWorld call : HandM D τ α) := by
  intro h t hI
  refine wp_callWorld ?_ ?_
  · intro a w heq
    have := hcall h t hI
    rwa [heq] at this
  · intro e w heq
    have := hcall h t hI
    rwa [heq] at this

theorem keeps_modifyStop {f : StopLocals D → StopLocals D}
    (hf : ∀ h t, I h t → I { h with stop := f h.stop } t) :
    Keeps I (modifyStop f : HandM D τ Unit) :=
  keeps_update hf

theorem Tolerates.keeps_now (hI : Tolerates W I) : Keeps I W.now :=
  keeps_callWorld hI.now

theorem keeps_beforeDeadline (now deadline : D) (operation : String) :
    Keeps I (HandWorld.beforeDeadline now deadline operation : HandM D τ Unit) :=
  keeps_check _ _

theorem Tolerates.keeps_modifyStop (hI : Tolerates W I) {f : StopLocals D → StopLocals D}
    (hf : ∀ L, HoldsVerdict L (f L)) : Keeps I (modifyStop f : HandM D τ Unit) :=
  FrankaDeploy.Rh56.keeps_modifyStop fun h t => hI.stop _ h t (hf h.stop)

theorem Tolerates.keeps_transportReadTargets (hI : Tolerates W I) (deadline : D)
    (operation : String) : Keeps I (W.transportReadTargets deadline operation) := by
  refine hI.keeps_now.bind fun before => (keeps_beforeDeadline _ _ _).bind fun _ =>
    (keeps_callWorld (hI.readAngleSet deadline)).attempt.bind fun r => ?_
  cases r with
  | error e => exact keeps_fail _
  | ok raw =>
    refine (keeps_ofExcept _).bind fun result => (keeps_emit (hI.reading _ rfl)).bind fun _ =>
      hI.keeps_now.bind fun after => (keeps_beforeDeadline _ _ _).bind fun _ => ?_
    exact keeps_ret _

theorem Tolerates.keeps_transportReadFeedback (hI : Tolerates W I) (deadline : D)
    (operation : String) : Keeps I (W.transportReadFeedback A deadline operation) := by
  refine hI.keeps_now.bind fun before => (keeps_beforeDeadline _ _ _).bind fun _ =>
    (keeps_callWorld (hI.readSafetyFeedback deadline)).attempt.bind fun r => ?_
  match r with
  | .error e => exact keeps_fail _
  | .ok none => exact keeps_fail _
  | .ok (some feedback) =>
    refine (keeps_emit (hI.reading _ rfl)).bind fun _ => hI.keeps_now.bind fun finished =>
      (keeps_beforeDeadline _ _ _).bind fun _ => (keeps_check _ _).bind fun _ =>
        (keeps_check _ _).bind fun _ => keeps_read.bind fun h =>
          (keeps_check _ _).bind fun _ => ?_
    exact keeps_ret _

theorem Tolerates.keeps_pauseBefore (hI : Tolerates W I) (deadline : D) :
    Keeps I (W.pauseBefore A deadline) := by
  refine hI.keeps_now.bind fun now => ?_
  refine Keeps.ite (keeps_ret _) ?_
  exact (keeps_callWorld (hI.sleep _)).bind fun _ => keeps_ret _

theorem keeps_settleSample (change : ∀ f : StopLocals D → StopLocals D,
    (∀ L, HoldsVerdict L (f L)) → Keeps I (modifyStop f : HandM D τ Unit))
    (feedback : RH56SafetyFeedback D) : Keeps I (HandWorld.settleSample A feedback) := by
  refine Keeps.bind (change _ fun L => ⟨rfl, rfl, rfl⟩) fun _ => ?_
  refine keeps_read.bind fun h => ?_
  refine Keeps.bind ?_ fun settled => ?_
  · refine Keeps.ite ?_ ?_
    · exact Keeps.bind (change _ fun L => ⟨rfl, rfl, rfl⟩) fun _ => keeps_ret _
    · refine Keeps.bind (change _ fun L => ⟨rfl, rfl, rfl⟩) fun _ => ?_
      refine keeps_read.bind fun h' => ?_
      cases A.stopTailMotionError h'.stop.stableSamples with
      | none => exact Keeps.bind (change _ fun L => ⟨rfl, rfl, rfl⟩) fun _ => keeps_ret _
      | some motionError =>
        exact Keeps.bind (change _ fun L => ⟨rfl, rfl, rfl⟩) fun _ => keeps_ret _
  · refine Keeps.ite (keeps_ret _) ?_
    cases A.stopTailMotionError h.stop.holdMotionSamples with
    | none => exact Keeps.bind (change _ fun L => ⟨rfl, rfl, rfl⟩) fun _ => keeps_ret _
    | some _ => exact keeps_ret _

theorem Tolerates.keeps_settleSample (hI : Tolerates W I) (feedback : RH56SafetyFeedback D) :
    Keeps I (HandWorld.settleSample A feedback) :=
  FrankaDeploy.Rh56.keeps_settleSample (fun _ hf => hI.keeps_modifyStop hf) feedback

theorem Tolerates.keeps_whileBefore (hI : Tolerates W I) {round : HandM D τ Bool}
    (hround : Keeps I round) (deadline : D) (rounds : ℕ) :
    Keeps I (W.whileBefore A deadline round rounds) := by
  induction rounds with
  | zero => exact keeps_ret _
  | succ rounds ih =>
    refine hI.keeps_now.bind fun now => ?_
    refine Keeps.ite (keeps_ret _) ?_
    refine hround.bind fun ended => ?_
    refine Keeps.ite (keeps_ret _) ?_
    refine (hI.keeps_pauseBefore _).bind fun more => ?_
    exact Keeps.ite ih (keeps_ret _)

theorem Tolerates.keeps_settleRound (hI : Tolerates W I) (holdTarget : SixIntegers)
    (settleDeadline : D) : Keeps I (W.settleRound A holdTarget settleDeadline) := by
  refine keeps_read.bind fun h => ?_
  refine (hI.keeps_transportReadTargets _ _).bind fun readback => ?_
  refine (keeps_check _ _).bind fun _ => ?_
  refine (hI.keeps_transportReadFeedback _ _).bind fun feedback => ?_
  refine Keeps.bind ?_ fun _ => ?_
  · exact hI.keeps_modifyStop fun L => ⟨rfl, rfl, rfl⟩
  exact (keeps_ofExcept _).bind fun _ => hI.keeps_settleSample feedback

theorem ToleratesStop.keeps_transportWrite (hI : ToleratesStop W I) (targets : SixIntegers)
    (deadline : D) (operation : String) :
    Keeps I (W.transportWrite targets deadline operation) := by
  refine hI.keeps_now.bind fun before => (keeps_emit (hI.writing _ rfl)).bind fun _ => ?_
  refine (keeps_beforeDeadline _ _ _).bind fun _ => (keeps_emit (hI.writing _ rfl)).bind fun _ => ?_
  refine (keeps_callWorld (hI.writeAngleSet targets deadline)).attempt.bind fun outcome => ?_
  cases outcome with
  | error e => exact keeps_fail _
  | ok _ => exact hI.keeps_now.bind fun _ => keeps_beforeDeadline _ _ _

theorem ToleratesStop.keeps_transportWriteOnceThenVerify (hI : ToleratesStop W I)
    (targets : SixIntegers) (deadline : D) (operation : String) :
    Keeps I (W.transportWriteOnceThenVerify targets deadline operation) := by
  refine hI.keeps_now.bind fun opened => (hI.keeps_transportWrite _ _ _).attempt.bind fun written =>
    ?_
  refine (hI.keeps_transportReadTargets _ _).attempt.bind fun readback => ?_
  cases readback with
  | ok readback => exact (keeps_check _ _).bind fun _ => keeps_ret _
  | error e =>
    cases written with
    | error writeFailure => exact keeps_fail _
    | ok _ => exact keeps_fail _

theorem ToleratesStop.keeps_locals (hI : ToleratesStop W I) (f : StopLocals D → StopLocals D) :
    Keeps I (modifyStop f : HandM D τ Unit) :=
  FrankaDeploy.Rh56.keeps_modifyStop fun h t => hI.locals _ h t

theorem ToleratesStop.keeps_disablePass (hI : ToleratesStop W I) (deadline : D) (passIndex : ℕ) :
    Keeps I (W.disablePass deadline passIndex) := by
  refine (hI.keeps_transportWriteOnceThenVerify _ _ _).attempt.bind fun outcome => ?_
  cases outcome with
  | ok _ => exact hI.keeps_locals _
  | error e => exact hI.keeps_locals _

theorem ToleratesStop.keeps_holdPhase (hI : ToleratesStop W I) (deadline : D) (rounds : ℕ) :
    Keeps I (W.holdPhase A deadline rounds) := by
  refine (hI.keeps_transportReadFeedback _ _).bind fun seed => (keeps_ofExcept _).bind fun _ => ?_
  refine (keeps_ofExcept _).bind fun hold => ?_
  refine (hI.keeps_transportWriteOnceThenVerify _ _ _).bind fun _ => ?_
  refine (hI.keeps_locals _).bind fun _ => ?_
  exact hI.keeps_whileBefore (hI.keeps_settleRound _ _) _ _

theorem ToleratesStop.keeps_releasedRound (hI : ToleratesStop W I) (deadline : D) :
    Keeps I (W.releasedRound A deadline) := by
  refine keeps_read.bind fun h => (hI.keeps_transportReadTargets _ _).bind fun readback => ?_
  refine (keeps_check _ _).bind fun _ => (hI.keeps_transportReadFeedback _ _).bind fun f => ?_
  refine (hI.keeps_locals _).bind fun _ => (keeps_ofExcept _).bind fun _ => ?_
  refine Keeps.ite ((hI.keeps_locals _).bind fun _ => keeps_ret _) ?_
  refine Keeps.ite ((hI.keeps_locals _).bind fun _ => keeps_ret _) ?_
  refine (keeps_ofExcept _).bind fun _ => (hI.keeps_locals _).bind fun _ => ?_
  refine keeps_read.bind fun h' => ?_
  cases A.stopTailMotionError h'.stop.stableSamples with
  | none => exact (hI.keeps_locals _).bind fun _ => keeps_ret _
  | some motionError => exact (hI.keeps_locals _).bind fun _ => keeps_ret _

theorem ToleratesStop.keeps_tailTimeout (hI : ToleratesStop W I) :
    Keeps I (HandWorld.tailTimeout : HandM D τ Unit) :=
  keeps_read.bind fun _ => Keeps.ite (hI.keeps_locals _) (keeps_ret _)

theorem ToleratesStop.keeps_settleTimeout (hI : ToleratesStop W I) :
    Keeps I (HandWorld.settleTimeout : HandM D τ Unit) :=
  keeps_read.bind fun _ => Keeps.ite (hI.keeps_locals _) (keeps_ret _)

theorem ToleratesStop.keeps_releasedPhase (hI : ToleratesStop W I) (deadline : D) (rounds : ℕ) :
    Keeps I (W.releasedPhase A deadline rounds) := by
  refine (hI.keeps_locals _).bind fun _ => ?_
  refine (hI.keeps_whileBefore (hI.keeps_releasedRound deadline) deadline
    rounds).attempt.bind fun outcome => ?_
  match outcome with
  | .ok false => exact keeps_ret _
  | .ok true => exact hI.keeps_tailTimeout.bind fun _ => keeps_ret _
  | .error e => exact (hI.keeps_locals _).bind fun _ => hI.keeps_tailTimeout.bind fun _ => keeps_ret _

theorem total_disablePass (deadline : D) (passIndex : ℕ) : Total (W.disablePass deadline passIndex) := by
  refine (total_attempt _).bind fun outcome => ?_
  cases outcome with
  | ok _ => exact total_update _
  | error e => exact total_update _

theorem total_tailTimeout : Total (HandWorld.tailTimeout : HandM D τ Unit) :=
  total_read.bind fun _ => Total.ite (total_update _) (total_ret _)

theorem total_settleTimeout : Total (HandWorld.settleTimeout : HandM D τ Unit) :=
  total_read.bind fun _ => Total.ite (total_update _) (total_ret _)

theorem total_releasedPhase (deadline : D) (rounds : ℕ) :
    Total (W.releasedPhase A deadline rounds) := by
  refine Total.bind (total_update _) fun _ => (total_attempt _).bind fun outcome => ?_
  match outcome with
  | .ok false => exact total_ret _
  | .ok true => exact total_tailTimeout.bind fun _ => total_ret _
  | .error e => exact Total.bind (total_update _) fun _ => total_tailTimeout.bind fun _ => total_ret _

theorem ToleratesStop.wp_disableAndVerifyLocked (hI : ToleratesStop W I) {preserveFault : Bool}
    {rounds : ℕ} {Q : Option (RH56StopReport D) → Hand D τ → List (HandEvent D) → Prop}
    {E : PyException → Hand D τ → List (HandEvent D) → Prop} {h : Hand D τ}
    {t : List (HandEvent D)} (hbegins : I h (t ++ [.stopBegins]))
    (hverdict : ∀ h t, I h t → wp (W.stopVerdict A preserveFault) (fun r => Q (some r)) E h t)
    (hunended : ∀ h t, I h t → Q none h t) :
    wp (W.disableAndVerifyLocked A preserveFault rounds) Q E h t := by
  have verdict : ∀ h t, I h t →
      wp (W.stopVerdict A preserveFault >>= fun report => ret (some report)) Q E h t := by
    intro h t h₀
    rw [wp_bind]
    refine wp_mono (hverdict h t h₀) (fun _ _ _ h => ?_) fun _ _ _ h => h
    rwa [wp_ret]
  have release : ∀ deadline h t, I h t →
      wp (W.releaseAndVerify A preserveFault deadline rounds) Q E h t := by
    intro deadline h t h₀
    refine hI.keeps_settleTimeout.wp_bind_total total_settleTimeout h₀ fun _ h t h₁ => ?_
    refine (hI.keeps_disablePass _ _).wp_bind_total (total_disablePass _ _) h₁ fun _ h t h₂ => ?_
    refine (hI.keeps_disablePass _ _).wp_bind_total (total_disablePass _ _) h₂ fun _ h t h₃ => ?_
    refine keeps_read.wp_bind_total total_read h₃ fun _ h t h₄ => ?_
    refine Keeps.wp_bind_total (Keeps.ite (hI.keeps_releasedPhase _ _) (keeps_ret _))
      (Total.ite (total_releasedPhase _ _) (total_ret _)) h₄ fun ended h t h₅ => ?_
    cases ended with
    | true =>
      rw [if_pos rfl]
      exact verdict h t h₅
    | false =>
      rw [if_neg Bool.false_ne_true, wp_ret]
      exact hunended h t h₅
  simp only [HandWorld.disableAndVerifyLocked, wp_bind, wp_emit, wp_modifyStop]
  refine wp_now W ?_
  have hstart := hI.now _ _ (hI.locals .init h _ hbegins)
  refine wp_mono (wp_and ((hI.keeps_holdPhase (A := A) _ rounds).attempt _ _ hstart)
    (total_attempt _ _ _)) ?_ fun _ _ _ h => h.2.elim
  rintro held h t ⟨h₀, -⟩
  match held with
  | .ok false =>
    rw [wp_ret]
    exact hunended h t h₀
  | .ok true => exact release _ h t h₀
  | .error e =>
    rw [wp_bind, wp_modifyStop]
    exact release _ _ t (hI.locals _ h t h₀)

end Keeps

end FrankaDeploy.Rh56
