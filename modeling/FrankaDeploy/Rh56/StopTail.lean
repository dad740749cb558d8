import FrankaDeploy.Rh56.StopContract

/-! # The tail of a verified stop

Each sample of the final tail has to be of a hand whose targets are released. The checks of a sample
bound its age and compare it with the last recorded sample, which a stop does not record; so it is
the transport that keeps the tail fresh, by capturing each sample during the call that returns it. -/

namespace FrankaDeploy.Rh56

open FrankaDeploy.Foundation FrankaDeploy.Foundation.Program
open scoped FloatArith

/-! ## The parts of a stop -/

namespace HandWorld

variable {D τ : Type} [FloatArith D] (W : HandWorld D τ) (A : ActuatorConfig D)

/-- **A stop up to the end of the second disable pass**: the deadline, or `none` where the settling
loop has not ended. -/
def untilSecondReadback (rounds : ℕ) : HandM D τ (Option D) := do
  emit .stopBegins
  modifyStop fun _ => .init
  let start ← W.now
  let deadline := start + A.stopTimeoutS
  let settleDeadline := deadline - releaseReserveS A
  let passes : HandM D τ (Option D) := do
    settleTimeout
    W.disablePass deadline 1
    W.disablePass deadline 2
    ret (some deadline)
  match ← attempt (W.holdPhase A settleDeadline rounds) with
  | .ok false => ret none
  | .ok true => passes
  | .error e => do
    modifyStop (·.withFailure s!"in-place hold/settle: {e.message}")
    passes

/-- **A stop from the end of the second disable pass.** -/
def fromSecondReadback (preserveFault : Bool) (rounds : ℕ) :
    Option D → HandM D τ (Option (RH56StopReport D))
  | none => ret none
  | some deadline => do
    let passes := (← read).stop.verifiedPasses
    let ended ← (if passes = 2 then W.releasedPhase A deadline rounds else ret true)
    if ended then do
      let report ← W.stopVerdict A preserveFault
      ret (some report)
    else ret none

theorem wp_parts {preserveFault : Bool} {rounds : ℕ}
    {Q : Option (RH56StopReport D) → Hand D τ → List (HandEvent D) → Prop}
    {E : PyException → Hand D τ → List (HandEvent D) → Prop} :
    wp (W.disableAndVerifyLocked A preserveFault rounds) Q E =
      wp (W.untilSecondReadback A rounds)
        (fun deadline => wp (W.fromSecondReadback A preserveFault rounds deadline) Q E) E := by
  have hrelease : ∀ deadline, wp (W.releaseAndVerify A preserveFault deadline rounds) Q E =
      wp (do
        settleTimeout
        W.disablePass deadline 1
        W.disablePass deadline 2
        ret (some deadline))
        (fun deadline => wp (W.fromSecondReadback A preserveFault rounds deadline) Q E) E := by
    intro deadline
    simp only [releaseAndVerify, fromSecondReadback, wp_bind, wp_ret]
  unfold disableAndVerifyLocked untilSecondReadback
  simp only [wp_bind]
  congr 1
  funext _
  congr 1
  funext _
  congr 1
  funext start
  congr 1
  funext held
  match held with
  | .ok false => simp only [wp_ret, fromSecondReadback]
  | .ok true => exact hrelease _
  | .error e =>
    simp only [wp_bind]
    congr 1
    funext _
    simpa only [wp_bind] using hrelease (start + A.stopTimeoutS)

def shows (w : τ) : D := (W.monotonic w).1.1

end HandWorld

/-! ## Times -/

variable {τ : Type}

/-- **A monotonic clock**: none of the calls of a stop sets it back. -/
structure ClockNeverBack (W : HandWorld Binary64 τ) : Prop where
  monotonic : ∀ w, Ieee.le (W.shows w) (W.shows (W.monotonic w).2) = true
  sleep : ∀ d w, Ieee.le (W.shows w) (W.shows (W.sleep d w).2) = true
  writeAngleSet : ∀ v d w, Ieee.le (W.shows w) (W.shows (W.writeAngleSet v d w).2) = true
  readAngleSet : ∀ d w, Ieee.le (W.shows w) (W.shows (W.readAngleSet d w).2) = true
  readSafetyFeedback : ∀ d w, Ieee.le (W.shows w) (W.shows (W.readSafetyFeedback d w).2) = true

/-- **A capturing transport**: it captures each sample during the call that returns it. -/
def CapturesDuringRead (W : HandWorld Binary64 τ) : Prop :=
  ∀ deadline w feedback w', W.readSafetyFeedback deadline w = (.ok (some feedback), w') →
    Ieee.le (W.shows w) feedback.capturedMonotonicS = true ∧
      Ieee.le feedback.capturedMonotonicS (W.shows w') = true

/-- **A fresh tail**: each sample was captured since a time, and none before the one that it
follows. -/
structure TailFresh (since : Binary64) (samples : List (RH56SafetyFeedback Binary64)) : Prop where
  fresh : ∀ f ∈ samples, Ieee.le since f.capturedMonotonicS = true
  ordered : samples.Pairwise fun f g => Ieee.le f.capturedMonotonicS g.capturedMonotonicS = true

structure Past (since : Binary64) (samples : List (RH56SafetyFeedback Binary64)) (now : Binary64) :
    Prop where
  since : Ieee.le since now = true
  captured : ∀ f ∈ samples, Ieee.le f.capturedMonotonicS now = true

theorem Past.mono {since now later : Binary64} {samples : List (RH56SafetyFeedback Binary64)}
    (h : Past since samples now) (hle : Ieee.le now later = true) : Past since samples later :=
  ⟨Ieee.le_trans h.since hle, fun f hf => Ieee.le_trans (h.captured f hf) hle⟩

/-- **Another sample of the tail**, captured after what is past. -/
theorem TailFresh.append {since now : Binary64} {samples : List (RH56SafetyFeedback Binary64)}
    {f : RH56SafetyFeedback Binary64} (h : TailFresh since samples) (hpast : Past since samples now)
    (hf : Ieee.le now f.capturedMonotonicS = true) : TailFresh since (samples ++ [f]) := by
  constructor
  · intro g hg
    rcases List.mem_append.mp hg with hg | hg
    · exact h.fresh g hg
    · rw [List.mem_singleton.mp hg]
      exact Ieee.le_trans hpast.since hf
  · refine List.pairwise_append.mpr ⟨h.ordered, List.pairwise_singleton _ _, ?_⟩
    intro g hg k hk
    rw [List.mem_singleton.mp hk]
    exact Ieee.le_trans (hpast.captured g hg) hf

theorem TailFresh.sublist {since : Binary64} {samples some : List (RH56SafetyFeedback Binary64)}
    (h : TailFresh since samples) (hsub : some.Sublist samples) : TailFresh since some :=
  ⟨fun f hf => h.fresh f (hsub.subset hf), h.ordered.sublist hsub⟩

theorem dequeAppend_sublist {α : Type} (maxlen : ℕ) (l : List α) (a : α) :
    (dequeAppend maxlen l a).Sublist (l ++ [a]) :=
  List.drop_sublist _ _

/-! ## The released loop -/

section Loop

variable {W : HandWorld Binary64 τ} {A : ActuatorConfig Binary64} {since : Binary64}

/-- **The invariant of the released loop**: the tail is fresh, and past. -/
def FreshSince (W : HandWorld Binary64 τ) (since : Binary64) (h : Hand Binary64 τ)
    (_ : List (HandEvent Binary64)) : Prop :=
  TailFresh since h.stop.stableSamples ∧ Past since h.stop.stableSamples (W.shows h.world)

theorem past_tolerated (hclock : ClockNeverBack W) (samples : List (RH56SafetyFeedback Binary64)) :
    Tolerates W fun h _ => Past since samples (W.shows h.world) where
  now h _ hp := hp.mono (hclock.monotonic h.world)
  sleep d h _ hp := hp.mono (hclock.sleep d h.world)
  readAngleSet d h _ hp := hp.mono (hclock.readAngleSet d h.world)
  readSafetyFeedback d h _ hp := hp.mono (hclock.readSafetyFeedback d h.world)
  reading _ _ _ _ hp := hp
  stop _ _ _ _ hp := hp

theorem freshSince_now (hclock : ClockNeverBack W) : Keeps (FreshSince W since) W.now := by
  rintro h t ⟨hfresh, hpast⟩
  refine wp_now W ?_
  exact ⟨hfresh, hpast.mono (hclock.monotonic h.world)⟩

theorem freshSince_pauseBefore (hclock : ClockNeverBack W) (deadline : Binary64) :
    Keeps (FreshSince W since) (W.pauseBefore A deadline) := by
  refine (freshSince_now hclock).bind fun now => Keeps.ite (keeps_ret _) ?_
  refine Keeps.bind (keeps_callWorld ?_) fun _ => keeps_ret _
  rintro h t ⟨hfresh, hpast⟩
  exact ⟨hfresh, hpast.mono (hclock.sleep _ h.world)⟩

theorem freshSince_transportReadTargets (hclock : ClockNeverBack W) (deadline : Binary64)
    (operation : String) {h : Hand Binary64 τ} {t : List (HandEvent Binary64)}
    (hfresh : FreshSince W since h t) :
    wp (W.transportReadTargets deadline operation) (fun _ => FreshSince W since)
      (fun _ _ _ => True) h t := by
  have htolerates : Tolerates W fun h' _ => Past since h.stop.stableSamples (W.shows h'.world) :=
    past_tolerated hclock h.stop.stableSamples
  have hpast := htolerates.keeps_transportReadTargets deadline operation h t hfresh.2
  have hframed : wp (W.transportReadTargets deadline operation) (fun _ h' _ => Framed h h')
      (fun _ h' _ => Framed h h') h t := by
    rw [wp_shift]
    exact wp_mono (wp_transportReadTargets W deadline operation h) (fun _ _ _ hr => hr.1)
      fun _ _ _ hr => hr.1
  refine wp_mono (wp_and hpast hframed) ?_ fun _ _ _ _ => trivial
  rintro _ h' t' ⟨hpast', hframed'⟩
  unfold FreshSince
  rw [hframed'.2]
  exact ⟨hfresh.1, hpast'⟩

/-- **A sample that the checks accept** was captured after everything that was past when its read
began, by a transport that captures during the read. -/
theorem freshSince_transportReadFeedback (hclock : ClockNeverBack W)
    (hcaptures : CapturesDuringRead W) (deadline : Binary64) (operation : String)
    {h : Hand Binary64 τ} {t : List (HandEvent Binary64)} (hfresh : FreshSince W since h t) :
    wp (W.transportReadFeedback A deadline operation)
      (fun f h' _ => h'.stop = h.stop ∧ TailFresh since (h.stop.stableSamples ++ [f]) ∧
        Past since (h.stop.stableSamples ++ [f]) (W.shows h'.world))
      (fun _ _ _ => True) h t := by
  obtain ⟨htail, hpast⟩ := hfresh
  simp only [HandWorld.transportReadFeedback, wp_bind, HandWorld.beforeDeadline]
  refine wp_now W ?_
  have hbegun := hpast.mono (hclock.monotonic h.world)
  rw [wp_check]
  refine ⟨fun _ => trivial, fun _ => ?_⟩
  rw [wp_attempt]
  refine wp_callWorld ?_ fun e w _ => ?_
  swap
  · rw [wp_fail]
    trivial
  intro answer w hread
  cases answer with
  | none =>
    rw [wp_fail]
    trivial
  | some f =>
    obtain ⟨hafter, hbefore⟩ := hcaptures _ _ _ _ hread
    have hreturned := hclock.readSafetyFeedback deadline (W.monotonic h.world).2
    rw [hread] at hreturned
    simp only [wp_bind, wp_emit]
    refine wp_now W ?_
    simp only [wp_check, wp_read, wp_ret]
    refine ⟨fun _ => trivial, fun _ => ⟨fun _ => trivial, fun _ => ⟨fun _ => trivial, fun _ =>
      ⟨fun _ => trivial, fun _ => ⟨trivial, htail.append hbegun hafter, ?_⟩⟩⟩⟩⟩
    have hended := (hbegun.mono hreturned).mono (hclock.monotonic w)
    refine ⟨hended.since, ?_⟩
    intro g hg
    rcases List.mem_append.mp hg with hg | hg
    · exact hended.captured g hg
    · rw [List.mem_singleton.mp hg]
      exact Ieee.le_trans hbefore (hclock.monotonic w)

/-- **A released sample** extends the tail or empties it. -/
theorem freshSince_releasedSample {f : RH56SafetyFeedback Binary64} (sample : ℕ)
    {h : Hand Binary64 τ} {t : List (HandEvent Binary64)}
    (htail : TailFresh since (h.stop.stableSamples ++ [f]))
    (hpast : Past since (h.stop.stableSamples ++ [f]) (W.shows h.world)) :
    wp (HandWorld.releasedSample A f sample) (fun _ => FreshSince W since)
      (fun _ _ _ => True) h t := by
  have hempty : TailFresh since [] ∧ Past since [] (W.shows h.world) :=
    ⟨htail.sublist (List.nil_sublist _), hpast.since, fun g hg => absurd hg List.not_mem_nil⟩
  have hsub := dequeAppend_sublist A.stopVerifySamples h.stop.stableSamples f
  have hkept : TailFresh since (dequeAppend A.stopVerifySamples h.stop.stableSamples f) ∧
      Past since (dequeAppend A.stopVerifySamples h.stop.stableSamples f) (W.shows h.world) :=
    ⟨htail.sublist hsub, hpast.since, fun g hg => hpast.captured g (hsub.subset hg)⟩
  unfold HandWorld.releasedSample
  by_cases hidle : (!isIdle f) = true
  · rw [if_pos hidle]
    simp only [wp_bind, wp_modifyStop, wp_ret]
    exact hempty
  rw [if_neg hidle]
  by_cases hcurrent : ActuatorConfig.exceedsCurrent A.stopMaxAxisCurrentMa f.currentsMa = true
  · rw [if_pos hcurrent]
    simp only [wp_bind, wp_modifyStop, wp_ret]
    exact hempty
  rw [if_neg hcurrent]
  simp only [wp_bind, wp_ofExcept, wp_modifyStop, wp_read]
  refine ⟨fun _ _ => ?_, fun _ _ => trivial⟩
  cases A.stopTailMotionError (dequeAppend A.stopVerifySamples h.stop.stableSamples f) with
  | none =>
    simp only [wp_bind, wp_modifyStop, wp_ret]
    exact hkept
  | some motionError =>
    simp only [wp_bind, wp_modifyStop, wp_ret]
    exact hkept

/-- **A released round** keeps the invariant while it returns. -/
theorem freshSince_releasedRound (hclock : ClockNeverBack W) (hcaptures : CapturesDuringRead W)
    (deadline : Binary64) {h : Hand Binary64 τ} {t : List (HandEvent Binary64)}
    (hfresh : FreshSince W since h t) :
    wp (W.releasedRound A deadline) (fun _ => FreshSince W since) (fun _ _ _ => True) h t := by
  simp only [HandWorld.releasedRound, wp_bind, wp_read]
  refine wp_mono (freshSince_transportReadTargets hclock deadline _ hfresh) ?_ fun _ _ _ h => h
  intro readback h₁ t₁ hfresh₁
  rw [wp_check]
  refine ⟨fun _ => trivial, fun _ => ?_⟩
  refine wp_mono (freshSince_transportReadFeedback hclock hcaptures deadline _ hfresh₁) ?_
    fun _ _ _ h => h
  rintro f h₂ t₂ ⟨hstop, htail, hpast⟩
  simp only [wp_modifyStop, wp_ofExcept]
  refine ⟨fun _ _ => ?_, fun _ _ => trivial⟩
  rw [← hstop] at htail hpast
  exact freshSince_releasedSample _ (h := { h₂ with stop := _ }) htail hpast

/-- **The released loop** keeps the invariant while it returns. -/
theorem freshSince_releasedLoop (hclock : ClockNeverBack W) (hcaptures : CapturesDuringRead W)
    (deadline : Binary64) (rounds : ℕ) {h : Hand Binary64 τ} {t : List (HandEvent Binary64)}
    (hfresh : FreshSince W since h t) :
    wp (W.whileBefore A deadline (W.releasedRound A deadline) rounds)
      (fun _ => FreshSince W since) (fun _ _ _ => True) h t := by
  induction rounds generalizing h t with
  | zero =>
    rw [HandWorld.whileBefore, wp_ret]
    exact hfresh
  | succ rounds ih =>
    rw [HandWorld.whileBefore]
    refine (freshSince_now hclock).wp_bind hfresh ?_ fun _ _ _ _ => trivial
    intro now h₁ t₁ hfresh₁
    rw [wp_ite]
    refine ⟨fun _ => by rwa [wp_ret], fun _ => ?_⟩
    rw [wp_bind]
    refine wp_mono (freshSince_releasedRound hclock hcaptures deadline hfresh₁) ?_
      fun _ _ _ h => h
    intro ended h₂ t₂ hfresh₂
    cases ended with
    | true =>
      rw [if_pos rfl, wp_ret]
      exact hfresh₂
    | false =>
      rw [if_neg Bool.false_ne_true]
      refine (freshSince_pauseBefore hclock deadline).wp_bind hfresh₂ ?_ fun _ _ _ _ => trivial
      intro more h₃ t₃ hfresh₃
      cases more with
      | true =>
        rw [if_pos rfl]
        exact ih hfresh₃
      | false =>
        rw [if_neg Bool.false_ne_true, wp_ret]
        exact hfresh₃

theorem wp_tailTimeout_of_same (Q : Hand Binary64 τ → List (HandEvent Binary64) → Prop)
    {h : Hand Binary64 τ} {t : List (HandEvent Binary64)}
    (hsame : Q h t) (hfailed : ∀ text, Q { h with stop := h.stop.withFailure text } t) :
    wp (HandWorld.tailTimeout : HandM Binary64 τ Unit) (fun _ => Q) (fun _ _ _ => True) h t := by
  simp only [HandWorld.tailTimeout, wp_bind, wp_read, wp_ite, wp_modifyStop, wp_ret]
  exact ⟨fun _ => hfailed _, fun _ => hsame⟩

/-- **The released phase** ends without a failure only with a fresh tail. -/
theorem freshSince_releasedPhase (hclock : ClockNeverBack W) (hcaptures : CapturesDuringRead W)
    (deadline : Binary64) (rounds : ℕ) {h : Hand Binary64 τ} {t : List (HandEvent Binary64)}
    (hnow : Ieee.le since (W.shows h.world) = true) :
    wp (W.releasedPhase A deadline rounds)
      (fun ended h' t' => ended = true → h'.stop.failures = [] → FreshSince W since h' t')
      (fun _ _ _ => True) h t := by
  simp only [HandWorld.releasedPhase, wp_bind, wp_modifyStop, wp_attempt]
  have hempty : FreshSince W since
      { h with stop := { h.stop with stableSamples := [], stableTailVerified := false } } t :=
    ⟨⟨fun f hf => absurd hf List.not_mem_nil, List.Pairwise.nil⟩, hnow,
      fun f hf => absurd hf List.not_mem_nil⟩
  refine wp_mono (freshSince_releasedLoop hclock hcaptures deadline rounds hempty) ?_ ?_
  · intro ended h₁ t₁ hfresh
    cases ended with
    | false =>
      rw [wp_ret]
      intro hended
      cases hended
    | true =>
      simp only [wp_bind, wp_ret]
      exact wp_tailTimeout_of_same _ (fun _ _ => hfresh) fun _ _ _ => hfresh
  · -- an exception leaves its text among the failures, so nothing is verified
    intro e h₁ t₁ _
    simp only [wp_ret]
    refine wp_tailTimeout_of_same _ ?_ ?_
    · intro _ hnone
      exact absurd hnone (List.append_ne_nil_of_right_ne_nil _ (List.cons_ne_nil _ _))
    · intro text _ hnone
      exact absurd hnone (List.append_ne_nil_of_right_ne_nil _ (List.cons_ne_nil _ _))

/-- **A report** is given after both passes, without a failure, and counts the samples of the
tail. -/
theorem wp_stopVerdict_tail (preserveFault : Bool) {h : Hand Binary64 τ}
    {t : List (HandEvent Binary64)} :
    wp (W.stopVerdict A preserveFault)
      (fun report h' _ => h'.stop = h.stop ∧ h.stop.verifiedPasses = 2 ∧ h.stop.failures = [] ∧
        report.feedbackSamplesVerified = h.stop.stableSamples.length)
      (fun _ _ _ => True) h t := by
  simp only [HandWorld.stopVerdict, wp_bind, wp_read]
  rw [wp_ite]
  refine ⟨fun _ => ?_, fun hconfirmed => ?_⟩
  · simp only [wp_bind, HandWorld.latchFault, wp_modifyActuator, wp_fail]
  simp only [HandWorld.unconfirmed, Bool.or_eq_true, not_or, Bool.not_eq_true', Bool.not_eq_false,
    List.isEmpty_iff, decide_eq_true_eq, not_not] at hconfirmed
  obtain ⟨⟨⟨⟨hnone, -⟩, -⟩, hpasses⟩, -⟩ := hconfirmed
  rw [wp_bind]
  refine wp_now W ?_
  simp only [wp_bind, wp_modifyActuator, wp_emit, wp_ret]
  exact ⟨trivial, hpasses, hnone, trivial⟩

end Loop

/-! ## The law -/

theorem wp_of_outcome {σ ω ε α : Type} {Q : α → σ → List ω → Prop} {m : Program σ ω ε α} {s : σ}
    {t : List ω} (hQ : ∀ a s' w, m s = (.ok a, s', w) → Q a s' (t ++ w)) :
    wp m Q (fun _ _ _ => True) s t := by
  unfold wp
  rcases hm : m s with ⟨r, s', w⟩
  cases r with
  | error e => trivial
  | ok a => exact hQ a s' w hm

/-- **A report on a fresh tail**: the samples that it counts were captured after the second readback
completed, in order. -/
def CountsFresh (W : HandWorld Binary64 τ) (A : ActuatorConfig Binary64) (rounds : ℕ)
    (h : Hand Binary64 τ) (report : RH56StopReport Binary64) (h' : Hand Binary64 τ) : Prop :=
  ∃ deadline h₂ t₂, W.untilSecondReadback A rounds h = (.ok (some deadline), h₂, t₂) ∧
    h₂.stop.verifiedPasses = 2 ∧
    report.feedbackSamplesVerified = h'.stop.stableSamples.length ∧
    TailFresh (W.shows h₂.world) h'.stop.stableSamples

/-- **The tail of a verified stop is fresh.** -/
def StopTailFresh (W : HandWorld Binary64 τ) (A : ActuatorConfig Binary64) (preserveFault : Bool)
    (rounds : ℕ) (h : Hand Binary64 τ) : Prop :=
  ∀ report h' t, W.disableAndVerifyLocked A preserveFault rounds h = (.ok (some report), h', t) →
    CountsFresh W A rounds h report h'

/-- **From the second readback on**, a capturing transport gives a fresh tail. -/
theorem tailFresh_fromSecondReadback {W : HandWorld Binary64 τ} {A : ActuatorConfig Binary64}
    (hclock : ClockNeverBack W) (hcaptures : CapturesDuringRead W) (preserveFault : Bool)
    (rounds : ℕ) (deadline : Option Binary64) (h : Hand Binary64 τ)
    (t : List (HandEvent Binary64)) :
    wp (W.fromSecondReadback A preserveFault rounds deadline)
      (fun report h' _ => ∀ r, report = some r → deadline.isSome = true ∧
        h.stop.verifiedPasses = 2 ∧ r.feedbackSamplesVerified = h'.stop.stableSamples.length ∧
        TailFresh (W.shows h.world) h'.stop.stableSamples)
      (fun _ _ _ => True) h t := by
  cases deadline with
  | none =>
    simp only [HandWorld.fromSecondReadback, wp_ret]
    intro r hr
    cases hr
  | some deadline =>
    simp only [HandWorld.fromSecondReadback, wp_bind, wp_read]
    rw [wp_ite]
    refine ⟨fun hpasses => ?_, fun hpasses => ?_⟩
    · have hnow : Ieee.le (W.shows h.world) (W.shows h.world) = true :=
        Ieee.le_refl (Ieee.isNaN_of_isFinite (W.monotonic h.world).1.2)
      refine wp_mono (freshSince_releasedPhase hclock hcaptures deadline rounds hnow) ?_
        fun _ _ _ _ => trivial
      intro ended h₁ t₁ hfresh
      cases ended with
      | false =>
        rw [if_neg Bool.false_ne_true, wp_ret]
        intro r hr
        cases hr
      | true =>
        rw [if_pos rfl, wp_bind]
        refine wp_mono (wp_stopVerdict_tail preserveFault) ?_ fun _ _ _ _ => trivial
        rintro report h₂ t₂ ⟨hstop, -, hnone, hcount⟩
        rw [wp_ret]
        rintro r ⟨rfl⟩
        rw [hstop]
        exact ⟨rfl, hpasses, hcount, (hfresh rfl hnone).1⟩
    · rw [wp_ret, if_pos rfl, wp_bind]
      refine wp_mono (wp_stopVerdict_tail preserveFault) ?_ fun _ _ _ _ => trivial
      rintro report h₁ t₁ ⟨-, htwo, -⟩
      exact absurd htwo hpasses

theorem wp_disableAndVerifyLocked_fresh {W : HandWorld Binary64 τ} (hclock : ClockNeverBack W)
    (hcaptures : CapturesDuringRead W) {A : ActuatorConfig Binary64} {preserveFault : Bool}
    {rounds : ℕ} {m : HandM Binary64 τ (Option (RH56StopReport Binary64))}
    (hm : W.disableAndVerifyLocked A preserveFault rounds = m) (h : Hand Binary64 τ) :
    wp m (fun report h' _ => ∀ r, report = some r → CountsFresh W A rounds h r h')
      (fun _ _ _ => True) h [] := by
  rw [← hm, HandWorld.wp_parts]
  -- the first part stays a variable here, or its run is evaluated as far as it goes
  generalize hm : W.untilSecondReadback A rounds = m
  refine wp_of_outcome ?_
  intro deadline h₂ w hfirst
  rw [← hm] at hfirst
  refine wp_mono (tailFresh_fromSecondReadback hclock hcaptures preserveFault rounds deadline h₂ _)
    ?_ fun _ _ _ _ => trivial
  intro report h' _ htail r hr
  obtain ⟨hsome, hrest⟩ := htail r hr
  obtain ⟨deadline, rfl⟩ := Option.isSome_iff_exists.mp hsome
  exact ⟨deadline, h₂, w, hfirst, hrest⟩

/-- **A capturing transport keeps the tail fresh.** Where each sample is captured during the call
that returns it, and the clock is never set back, the tail of every verified stop is fresh. -/
theorem stop_tail_fresh (W : HandWorld Binary64 τ) (hclock : ClockNeverBack W)
    (hcaptures : CapturesDuringRead W) (A : ActuatorConfig Binary64) (preserveFault : Bool)
    (rounds : ℕ) (h : Hand Binary64 τ) : StopTailFresh W A preserveFault rounds h := by
  intro report h' t hstop
  generalize hm : W.disableAndVerifyLocked A preserveFault rounds = m at hstop
  exact wp_of_run (wp_disableAndVerifyLocked_fresh hclock hcaptures hm h) hstop report rfl

/-! ## Two benches -/

/-- The bench whose transport keeps answering with the sample of the first clock reading, which is
younger than the age bound during the whole stop. -/
def replayingBench : HandWorld Binary64 BenchHand :=
  { bench 1000 with
    readSafetyFeedback := fun _ w => (.ok (some (restingFeedback (benchClock 1000 0))), w) }

def capturingBench : HandWorld Binary64 BenchHand :=
  { bench 1000 with
    readSafetyFeedback := fun _ w =>
      (.ok (some (restingFeedback (benchClock 1000 w.readings))), w) }

def benchHand : Hand Binary64 BenchHand := ⟨benchArmed, .init, ⟨0, fun _ => 400⟩⟩

def oldestPrecedes (W : HandWorld Binary64 BenchHand) (h₂ h' : Hand Binary64 BenchHand) : Bool :=
  match h'.stop.stableSamples with
  | [] => false
  | f :: _ => !Ieee.le (W.shows h₂.world) f.capturedMonotonicS

theorem not_tailFresh_of_oldestPrecedes {W : HandWorld Binary64 BenchHand}
    {h₂ h' : Hand Binary64 BenchHand} (hstale : oldestPrecedes W h₂ h' = true) :
    ¬ TailFresh (W.shows h₂.world) h'.stop.stableSamples := by
  intro htail
  unfold oldestPrecedes at hstale
  cases hsamples : h'.stop.stableSamples with
  | nil =>
    rw [hsamples] at hstale
    cases hstale
  | cons f rest =>
    have hfresh := htail.fresh f (hsamples ▸ List.mem_cons_self)
    simp only [hsamples, hfresh, Bool.not_true, Bool.false_eq_true] at hstale

/-- **A replayed sample counts as evidence of rest.** Every sample of the bench was captured before
the stop began; all of them are accepted, the stop is verified, and its whole tail precedes the
second readback. -/
theorem replayed_tail_is_verified :
    ¬ StopTailFresh replayingBench benchConfig false 3 benchHand := by
  have hverified : (reportOf
      (replayingBench.disableAndVerifyLocked benchConfig false 3 benchHand).1).isSome = true := by
    decide +kernel
  have hstale : oldestPrecedes replayingBench
      (replayingBench.untilSecondReadback benchConfig 3 benchHand).2.1
      (replayingBench.disableAndVerifyLocked benchConfig false 3 benchHand).2.1 = true := by
    decide +kernel
  intro hfresh
  rcases hstop : replayingBench.disableAndVerifyLocked benchConfig false 3 benchHand with ⟨r, h', t⟩
  rw [hstop] at hverified hstale
  obtain ⟨report, rfl⟩ := eq_of_reportOf hverified
  obtain ⟨deadline, h₂, t₂, hsecond, -, -, htail⟩ := hfresh report h' t hstop
  rw [hsecond] at hstale
  exact not_tailFresh_of_oldestPrecedes hstale htail

theorem benchClock_le_succ (readings : ℕ) :
    Ieee.le (benchClock 1000 readings).1 (benchClock 1000 (readings + 1)).1 = true := by
  by_cases hearly : readings < 300
  · have hall : ∀ r < 300, Ieee.le (benchClock 1000 r).1 (benchClock 1000 (r + 1)).1 = true := by
      decide +kernel
    exact hall readings hearly
  · have hsame : benchClock 1000 (readings + 1) = benchClock 1000 readings := by
      unfold benchClock
      rw [min_eq_right (by omega), min_eq_right (by omega)]
    rw [hsame]
    exact Ieee.le_refl (Ieee.isNaN_of_isFinite (benchClock 1000 readings).2)

theorem benchClock_le_self (readings : ℕ) :
    Ieee.le (benchClock 1000 readings).1 (benchClock 1000 readings).1 = true :=
  Ieee.le_refl (Ieee.isNaN_of_isFinite (benchClock 1000 readings).2)

theorem captured_tail_is_fresh :
    (∃ report, (capturingBench.disableAndVerifyLocked benchConfig false 3 benchHand).1 =
      .ok (some report)) ∧ StopTailFresh capturingBench benchConfig false 3 benchHand := by
  refine ⟨eq_of_reportOf (by decide +kernel), stop_tail_fresh capturingBench ?_ ?_ benchConfig false
    3 benchHand⟩
  · constructor
    · exact fun w => benchClock_le_succ w.readings
    · exact fun _ w => benchClock_le_self w.readings
    · exact fun _ _ w => benchClock_le_self w.readings
    · exact fun _ w => benchClock_le_self w.readings
    · exact fun _ w => benchClock_le_self w.readings
  · intro deadline w feedback w' hread
    obtain ⟨hanswer, rfl⟩ := Prod.mk.inj hread
    obtain rfl := Option.some.inj (Except.ok.inj hanswer)
    exact ⟨benchClock_le_self w.readings, benchClock_le_self w.readings⟩

end FrankaDeploy.Rh56
