import FrankaDeploy.Foundation.Ieee754
import FrankaDeploy.Rh56.VerifiedStop

/-! # What a stop report proves

A report of `_disable_and_verify` stands at the end of a trace with three writes that were due, each
read back, and of a tail of samples at rest. The three writes were issued exactly when none of them
missed its window; every other end of the stop latches the fault. -/

namespace FrankaDeploy.Rh56

open FrankaDeploy.Foundation FrankaDeploy.Foundation.Program
open scoped FloatArith

variable {D τ : Type} [FloatArith D]

/-! ## Traces of a stop -/

/-- **A sample of a hand at rest**: idle, without a fault, within the stop's current limit. -/
structure ActuatorConfig.AtRest (A : ActuatorConfig D) (f : RH56SafetyFeedback D) : Prop where
  errors : ∀ i, f.errors i = 0
  temperatures : ∀ i, f.temperaturesC i < A.maximumTemperatureC
  statuses : ∀ i, isIdleStatus (f.statuses i) = true
  currents : ∀ i, |f.currentsMa i| ≤ A.stopMaxAxisCurrentMa

/-- **A tail that proves rest**: `stop_verify_samples` samples at rest with bounded drift. -/
structure ActuatorConfig.ProvesRest (A : ActuatorConfig D)
    (samples : List (RH56SafetyFeedback D)) : Prop where
  length : samples.length = A.stopVerifySamples
  atRest : ∀ f ∈ samples, A.AtRest f
  angles : ∀ axis, ∀ f ∈ samples, ∀ g ∈ samples,
    f.angles axis - g.angles axis ≤ A.stopMaxAngleDriftUnits
  positions : ∀ axis, ∀ f ∈ samples, ∀ g ∈ samples,
    f.positions axis - g.positions axis ≤ A.stopMaxPositionDriftUnits

def sampleEvents (f : RH56SafetyFeedback D) : List (HandEvent D) :=
  [.readback disabledTargets, .feedback f]

/-- **The trace of a verified stop**, where `written` are the events of a write that is due: the hold
target that is equivalent to the seed's pose, two disable passes, and a tail of samples that proves
rest, with neither writes nor due ones in between or afterwards. -/
def StopTrace (A : ActuatorConfig D) (written : SixIntegers → D → D → List (HandEvent D))
    (t : List (HandEvent D)) : Prop :=
  ∃ seed hold settle early samples d₁ n₁ d₂ n₂ d₃ n₃,
    A.feedbackEquivalentHoldTarget seed.angles = .ok hold ∧ Quiet settle ∧ Quiet early ∧
    A.ProvesRest samples ∧
    t = [.stopBegins, .feedback seed] ++ written hold d₁ n₁ ++ [.readback hold] ++ settle ++
      written disabledTargets d₂ n₂ ++ [.readback disabledTargets] ++
      written disabledTargets d₃ n₃ ++ [.readback disabledTargets] ++
      early ++ samples.flatMap sampleEvents ++ [.stopVerified]

/-- **The stop is proved**: each of its three writes was issued. -/
def StopProven (A : ActuatorConfig D) (t : List (HandEvent D)) : Prop :=
  StopTrace A (fun targets deadline now => [.writeDue deadline now, .write targets]) t

/-- **No write missed its window**: the clock was not past the deadline of a write when it was due. -/
def WindowsKept (t : List (HandEvent D)) : Prop :=
  ∀ deadline now, .writeDue deadline now ∈ t → ¬ deadline < now

/-- **A sound stop.** A report is verified, confirms the stop and proves it; any other end latches
the fault and says that the stop is unconfirmed. -/
def StopSound (A : ActuatorConfig D)
    (r : Except PyException (Option (RH56StopReport D)) × Hand D τ × List (HandEvent D)) : Prop :=
  (∀ report, r.1 = .ok (some report) →
    report.verified = true ∧ r.2.1.actuator.stopConfirmed = true ∧ StopProven A r.2.2) ∧
  ∀ e, r.1 = .error e →
    e.className = "RH56StopUnconfirmed" ∧ r.2.1.actuator.state = .faultLatched ∧
      r.2.1.actuator.stopConfirmed = false

/-! ## Counting writes -/

def HandEvent.isWrite : HandEvent D → Bool
  | .write _ => true
  | _ => false

theorem Quiet.countP_isWrite {t : List (HandEvent D)} (h : Quiet t) :
    t.countP HandEvent.isWrite = 0 := by
  rw [List.countP_eq_zero]
  intro event hevent hwrite
  have hquiet := h event hevent
  cases event with
  | write targets => exact Bool.noConfusion hquiet
  | _ => exact Bool.noConfusion hwrite

theorem quiet_sampleEvents (samples : List (RH56SafetyFeedback D)) :
    Quiet (samples.flatMap sampleEvents) := by
  intro event hevent
  obtain ⟨f, -, hf⟩ := List.mem_flatMap.mp hevent
  rcases List.mem_cons.mp hf with rfl | hf
  · rfl
  · rw [List.mem_singleton.mp hf]
    rfl

theorem countP_dueEvents (targets : SixIntegers) (deadline now : D) :
    (dueEvents targets deadline now).countP HandEvent.isWrite = if deadline < now then 0 else 1 := by
  unfold dueEvents
  by_cases h : deadline < now
  · rw [if_pos h, if_pos h]
    rfl
  · rw [if_neg h, if_neg h]
    rfl

theorem writeDue_mem_dueEvents {targets : SixIntegers} {d n deadline now : D}
    (h : HandEvent.writeDue d n ∈ dueEvents targets deadline now) : d = deadline ∧ n = now := by
  unfold dueEvents at h
  rcases List.mem_cons.mp h with heq | hmem
  · obtain ⟨rfl, rfl⟩ := HandEvent.writeDue.inj heq
    exact ⟨rfl, rfl⟩
  · by_cases hlate : deadline < now
    · rw [if_pos hlate] at hmem
      cases hmem
    · rw [if_neg hlate] at hmem
      cases List.mem_singleton.mp hmem

theorem Quiet.writeDue_not_mem {t : List (HandEvent D)} (h : Quiet t) (d n : D) :
    HandEvent.writeDue d n ∉ t := fun hmem => Bool.noConfusion (h _ hmem)

theorem StopProven.countP_isWrite {A : ActuatorConfig D} {t : List (HandEvent D)}
    (h : StopProven A t) : t.countP HandEvent.isWrite = 3 := by
  obtain ⟨seed, hold, settle, early, samples, d₁, n₁, d₂, n₂, d₃, n₃, -, hsettle, hearly, -, rfl⟩ := h
  simp only [List.countP_append, hsettle.countP_isWrite, hearly.countP_isWrite,
    (quiet_sampleEvents samples).countP_isWrite]
  rfl

/-- **The three writes were issued exactly when no window was missed.** -/
theorem stopProven_iff {A : ActuatorConfig D} {t : List (HandEvent D)}
    (h : StopTrace A dueEvents t) : StopProven A t ↔ WindowsKept t := by
  obtain ⟨seed, hold, settle, early, samples, d₁, n₁, d₂, n₂, d₃, n₃, hhold, hsettle, hearly, hrest,
    rfl⟩ := h
  constructor
  · intro hproven deadline now hdue hlate
    have hthree := hproven.countP_isWrite
    simp only [List.countP_append, hsettle.countP_isWrite, hearly.countP_isWrite,
      (quiet_sampleEvents samples).countP_isWrite, countP_dueEvents] at hthree
    have hzero : ∀ t : List (HandEvent D), Quiet t → t.countP HandEvent.isWrite = 0 :=
      fun t h => h.countP_isWrite
    rw [hzero [_, _] (by simp [Quiet, HandEvent.isQuiet]), hzero [_] (quiet_singleton rfl),
      hzero [_] (quiet_singleton rfl), hzero [_] (quiet_singleton rfl)] at hthree
    -- three writes leave no room for a missed one
    have hopen : ¬ d₁ < n₁ ∧ ¬ d₂ < n₂ ∧ ¬ d₃ < n₃ := by
      refine ⟨fun h => ?_, fun h => ?_, fun h => ?_⟩
      · rw [if_pos h] at hthree
        split_ifs at hthree <;> omega
      · rw [if_pos h] at hthree
        split_ifs at hthree <;> omega
      · rw [if_pos h] at hthree
        split_ifs at hthree <;> omega
    simp only [List.mem_append, hsettle.writeDue_not_mem, hearly.writeDue_not_mem,
      (quiet_sampleEvents samples).writeDue_not_mem, List.mem_cons, reduceCtorEq,
      List.not_mem_nil, or_false, false_or] at hdue
    rcases hdue with (hdue | hdue) | hdue
    · obtain ⟨rfl, rfl⟩ := writeDue_mem_dueEvents hdue
      exact hopen.1 hlate
    · obtain ⟨rfl, rfl⟩ := writeDue_mem_dueEvents hdue
      exact hopen.2.1 hlate
    · obtain ⟨rfl, rfl⟩ := writeDue_mem_dueEvents hdue
      exact hopen.2.2 hlate
  · intro hkept
    have hdue : ∀ (targets : SixIntegers) (deadline now : D), ¬ deadline < now →
        dueEvents targets deadline now = [.writeDue deadline now, .write targets] := by
      intro targets deadline now hopen
      rw [dueEvents, if_neg hopen]
    refine ⟨seed, hold, settle, early, samples, d₁, n₁, d₂, n₂, d₃, n₃, hhold, hsettle, hearly, hrest,
      ?_⟩
    rw [hdue hold d₁ n₁ (hkept _ _ (by simp [dueEvents])),
      hdue _ d₂ n₂ (hkept _ _ (by simp [dueEvents])),
      hdue _ d₃ n₃ (hkept _ _ (by simp [dueEvents]))]

/-! ## The tail -/

theorem passed_raise {α : Type} {c : Prop} [Decidable c] {e : PyException}
    {rest : Unit → Except PyException α} {a : α}
    (h : (if c then Except.error e >>= rest else rest ()) = .ok a) : ¬ c ∧ rest () = .ok a := by
  by_cases hc : c
  · rw [if_pos hc] at h
    cases h
  · rw [if_neg hc] at h
    exact ⟨hc, h⟩

theorem atRest_of_validated {A : ActuatorConfig D} {f : RH56SafetyFeedback D} {phase : String}
    (h : A.validateStoppedFeedback f phase true none = .ok ()) : A.AtRest f := by
  unfold ActuatorConfig.validateStoppedFeedback at h
  obtain ⟨herrors, h⟩ := passed_raise h
  obtain ⟨htemperature, h⟩ := passed_raise h
  obtain ⟨-, h⟩ := passed_raise h
  have hlimit : A.stoppedCurrentLimit phase true none = pure A.stopMaxAxisCurrentMa := rfl
  rw [hlimit, pure_bind] at h
  obtain ⟨hcurrent, h⟩ := passed_raise h
  have hidle : ¬ f.statuses.any (fun status => !isIdleStatus status) = true := by
    intro hbusy
    simp only [hbusy, Bool.and_self, if_true] at h
    cases h
  simp only [Vec.any_iff, ActuatorConfig.exceedsCurrent, not_exists] at *
  exact
    { errors := fun i => by simpa using herrors i
      temperatures := fun i => by simpa using htemperature i
      statuses := fun i => by simpa using hidle i
      currents := fun i => by simpa using hcurrent i }

theorem drifts_eq_false {limit : ℤ} {samples : List (RH56SafetyFeedback D)}
    {value : RH56SafetyFeedback D → ℤ}
    (h : ¬ ActuatorConfig.drifts limit (samples.map value) = true) :
    ∀ f ∈ samples, ∀ g ∈ samples, value f - value g ≤ limit := by
  intro f hf g hg
  by_contra hfar
  rw [not_le] at hfar
  refine h ?_
  simp only [ActuatorConfig.drifts, List.any_eq_true, decide_eq_true_eq]
  exact ⟨value f, List.mem_map_of_mem hf, value g, List.mem_map_of_mem hg, hfar⟩

theorem provesRest_of_motionless {A : ActuatorConfig D} {samples : List (RH56SafetyFeedback D)}
    (hrest : ∀ f ∈ samples, A.AtRest f) (h : A.stopTailMotionError samples = none) :
    A.ProvesRest samples := by
  unfold ActuatorConfig.stopTailMotionError at h
  by_cases hlength : samples.length ≠ A.stopVerifySamples
  · rw [if_pos hlength] at h
    cases h
  rw [if_neg hlength] at h
  dsimp only at h
  split_ifs at h with hproblems
  rw [List.flatMap_eq_nil_iff] at hproblems
  have hdrifts := fun axis => List.append_eq_nil_iff.mp (hproblems axis (List.mem_finRange axis))
  refine ⟨not_not.mp hlength, hrest, fun axis => ?_, fun axis => ?_⟩
  · refine @drifts_eq_false _ _ _ _ (fun f => f.angles axis) fun hfar => ?_
    have hfirst := (hdrifts axis).1
    rw [if_pos hfar] at hfirst
    cases hfirst
  · refine @drifts_eq_false _ _ _ _ (fun f => f.positions axis) fun hfar => ?_
    have hsecond := (hdrifts axis).2
    rw [if_pos hfar] at hsecond
    cases hsecond

/-- **The trace of the released loop**: after `base`, events without writes, and at the end the
samples of the tail. -/
structure TailTrace (A : ActuatorConfig D) (base : List (HandEvent D)) (L : StopLocals D)
    (t : List (HandEvent D)) : Prop where
  trace : ∃ early, Quiet early ∧ t = base ++ early ++ L.stableSamples.flatMap sampleEvents
  atRest : ∀ f ∈ L.stableSamples, A.AtRest f
  motionless : L.stableTailVerified = true → A.stopTailMotionError L.stableSamples = none

theorem dequeAppend_eq {α : Type} (maxlen : ℕ) (l : List α) (a : α) :
    ∃ dropped, l ++ [a] = dropped ++ dequeAppend maxlen l a :=
  ⟨_, (List.take_append_drop _ _).symm⟩

section Released

variable {A : ActuatorConfig D} {base t : List (HandEvent D)} {h : Hand D τ}

theorem TailTrace.append {L : StopLocals D} {f : RH56SafetyFeedback D} (hL : TailTrace A base L t)
    (hrest : A.AtRest f) (hopen : L.stableTailVerified = false) :
    TailTrace A base
      { L with stableSamples := dequeAppend A.stopVerifySamples L.stableSamples f }
      (t ++ sampleEvents f) := by
  obtain ⟨⟨early, hearly, rfl⟩, hall, -⟩ := hL
  obtain ⟨dropped, hdropped⟩ := dequeAppend_eq A.stopVerifySamples L.stableSamples f
  refine ⟨⟨early ++ dropped.flatMap sampleEvents, ?_, ?_⟩, ?_, fun h => ?_⟩
  · exact hearly.append (quiet_sampleEvents dropped)
  · have hevents := congrArg (List.flatMap sampleEvents) hdropped
    simp only [List.flatMap_append, List.flatMap_singleton] at hevents
    rw [List.append_assoc (base ++ early), hevents]
    simp only [List.append_assoc]
  · intro g hg
    have : g ∈ L.stableSamples ++ [f] := by
      rw [hdropped]
      exact List.mem_append_right _ hg
    rcases List.mem_append.mp this with hg | hg
    · exact hall g hg
    · rw [List.mem_singleton.mp hg]
      exact hrest
  · rw [show L.stableTailVerified = true from h] at hopen
    cases hopen

theorem TailTrace.clear {L L' : StopLocals D} {f : RH56SafetyFeedback D}
    (hL : TailTrace A base L t) (hempty : L'.stableSamples = [])
    (hopen : L'.stableTailVerified = false) : TailTrace A base L' (t ++ sampleEvents f) := by
  obtain ⟨⟨early, hearly, rfl⟩, -, -⟩ := hL
  refine ⟨⟨early ++ (L.stableSamples ++ [f]).flatMap sampleEvents, ?_, ?_⟩, ?_, fun h => ?_⟩
  · exact hearly.append (quiet_sampleEvents _)
  · rw [hempty]
    simp only [List.flatMap_append, List.flatMap_singleton, List.append_assoc, List.flatMap_nil,
      List.append_nil]
  · rw [hempty]
    intro g hg
    cases hg
  · rw [hopen] at h
    cases h

/-- **A released sample** extends the tail's trace or empties the tail. -/
theorem wp_releasedSample (f : RH56SafetyFeedback D) (sample : ℕ)
    (hL : TailTrace A base h.stop t) (hopen : h.stop.stableTailVerified = false) :
    wp (HandWorld.releasedSample A f sample)
      (fun ended h' t' => TailTrace A base h'.stop t' ∧ HoldsVerdict h.stop h'.stop ∧
        (ended = false → h'.stop.stableTailVerified = false))
      (fun _ _ _ => True) h (t ++ sampleEvents f) := by
  unfold HandWorld.releasedSample
  by_cases hidle : (!isIdle f) = true
  · rw [if_pos hidle]
    simp only [wp_bind, wp_modifyStop, wp_ret]
    exact ⟨hL.clear rfl hopen, ⟨rfl, rfl, rfl⟩, fun _ => hopen⟩
  rw [if_neg hidle]
  by_cases hcurrent : ActuatorConfig.exceedsCurrent A.stopMaxAxisCurrentMa f.currentsMa = true
  · rw [if_pos hcurrent]
    simp only [wp_bind, wp_modifyStop, wp_ret]
    exact ⟨hL.clear rfl hopen, ⟨rfl, rfl, rfl⟩, fun _ => hopen⟩
  rw [if_neg hcurrent]
  simp only [wp_bind, wp_ofExcept, wp_modifyStop, wp_read]
  refine ⟨fun _ hvalid => ?_, fun _ _ => trivial⟩
  have htail := hL.append (atRest_of_validated hvalid) hopen
  cases hmotion : A.stopTailMotionError (dequeAppend A.stopVerifySamples h.stop.stableSamples f) with
  | none =>
    simp only [wp_bind, wp_modifyStop, wp_ret]
    exact ⟨⟨htail.trace, htail.atRest, fun _ => hmotion⟩, ⟨rfl, rfl, rfl⟩, fun h => by cases h⟩
  | some motionError =>
    simp only [wp_bind, wp_modifyStop, wp_ret]
    exact ⟨⟨htail.trace, htail.atRest, htail.motionless⟩, ⟨rfl, rfl, rfl⟩, fun _ => hopen⟩

theorem wp_pauseBefore (W : HandWorld D τ) (deadline : D) :
    wp (W.pauseBefore A deadline) (fun _ h' t' => Framed h h' ∧ t' = t) (fun _ _ _ => True) h t := by
  simp only [HandWorld.pauseBefore, wp_bind]
  refine wp_now W ?_
  rw [wp_ite]
  refine ⟨fun _ => ?_, fun _ => ?_⟩
  · rw [wp_ret]
    exact ⟨⟨rfl, rfl⟩, rfl⟩
  · rw [wp_bind]
    refine wp_callWorld (fun _ w _ => ?_) fun _ _ _ => trivial
    rw [wp_ret]
    exact ⟨⟨rfl, rfl⟩, rfl⟩

/-- **A loop** leads from `I` to `J` if each of its rounds does, and back to `I` where the loop goes
on. -/
theorem wp_whileBefore {W : HandWorld D τ} {I J : Hand D τ → List (HandEvent D) → Prop}
    {round : HandM D τ Bool} (deadline : D) (rounds : ℕ)
    (hframe : ∀ h h' t, Framed h h' → I h t → I h' t) (hend : ∀ h t, I h t → J h t)
    (hround : ∀ h t, I h t → wp round (fun ended h' t' => J h' t' ∧ (ended = false → I h' t'))
      (fun _ _ _ => True) h t)
    (hI : I h t) :
    wp (W.whileBefore A deadline round rounds) (fun _ => J) (fun _ _ _ => True) h t := by
  induction rounds generalizing h t with
  | zero =>
    rw [HandWorld.whileBefore, wp_ret]
    exact hend h t hI
  | succ rounds ih =>
    rw [HandWorld.whileBefore, wp_bind]
    refine wp_now W ?_
    replace hI := hframe h { h with world := (W.monotonic h.world).2 } t ⟨rfl, rfl⟩ hI
    rw [wp_ite]
    refine ⟨fun _ => ?_, fun _ => ?_⟩
    · rw [wp_ret]
      exact hend _ t hI
    rw [wp_bind]
    refine wp_mono (hround _ t hI) ?_ fun _ _ _ h => h
    rintro ended h₁ t₁ ⟨hJ, hopen⟩
    cases ended with
    | true =>
      rw [if_pos rfl, wp_ret]
      exact hJ
    | false =>
      rw [if_neg Bool.false_ne_true, wp_bind]
      refine wp_mono (wp_pauseBefore W deadline) ?_ fun _ _ _ h => h
      rintro more h₂ t₂ ⟨hframed, rfl⟩
      have hI₂ := hframe h₁ h₂ t₂ hframed (hopen rfl)
      cases more with
      | true =>
        rw [if_pos rfl]
        exact ih hI₂
      | false =>
        rw [if_neg Bool.false_ne_true, wp_ret]
        exact hend h₂ t₂ hI₂

/-- **A released round** extends the tail's trace or empties the tail. -/
theorem wp_releasedRound (W : HandWorld D τ) (deadline : D)
    (hL : TailTrace A base h.stop t) (hopen : h.stop.stableTailVerified = false) :
    wp (W.releasedRound A deadline)
      (fun ended h' t' => TailTrace A base h'.stop t' ∧ HoldsVerdict h.stop h'.stop ∧
        (ended = false → h'.stop.stableTailVerified = false))
      (fun _ _ _ => True) h t := by
  simp only [HandWorld.releasedRound, wp_bind, wp_read]
  rw [wp_shift]
  refine wp_mono (wp_transportReadTargets W deadline _ _) ?_ fun _ _ _ _ => trivial
  rintro readback h₁ w ⟨⟨-, hstop₁⟩, rfl⟩
  rw [wp_check]
  refine ⟨fun _ => trivial, fun hsame => ?_⟩
  obtain rfl : readback = disabledTargets := not_not.mp hsame
  rw [wp_shift]
  refine wp_mono (wp_transportReadFeedback W A deadline _ _) ?_ fun _ _ _ _ => trivial
  rintro feedback h₂ w ⟨⟨-, hstop₂⟩, rfl⟩
  simp only [wp_modifyStop, wp_ofExcept]
  refine ⟨fun _ _ => ?_, fun _ _ => trivial⟩
  have hstop : h₂.stop = h.stop := hstop₂.trans hstop₁
  rw [hstop, List.append_assoc]
  exact wp_releasedSample feedback _ (h := { h₂ with stop := _ })
    ⟨hL.trace, hL.atRest, hL.motionless⟩ hopen

/-- **The released loop** keeps the tail's trace while it returns. -/
theorem wp_releasedLoop (W : HandWorld D τ) (deadline : D) (rounds : ℕ)
    (hL : TailTrace A base h.stop t) (hopen : h.stop.stableTailVerified = false) :
    wp (W.whileBefore A deadline (W.releasedRound A deadline) rounds)
      (fun _ h' t' => TailTrace A base h'.stop t' ∧ HoldsVerdict h.stop h'.stop)
      (fun _ _ _ => True) h t := by
  refine wp_whileBefore (I := fun h' t' => (TailTrace A base h'.stop t' ∧
    HoldsVerdict h.stop h'.stop) ∧ h'.stop.stableTailVerified = false) deadline rounds ?_ ?_ ?_
    ⟨⟨hL, HoldsVerdict.refl _⟩, hopen⟩
  · rintro h₁ h₂ t₁ ⟨-, hstop⟩ hI
    rw [hstop]
    exact hI
  · exact fun _ _ hI => hI.1
  · rintro h₁ t₁ ⟨⟨hL₁, hverdict₁⟩, hopen₁⟩
    refine wp_mono (wp_releasedRound W deadline hL₁ hopen₁) ?_ fun _ _ _ h => h
    rintro ended h₂ t₂ ⟨hL₂, hverdict₂, hopen₂⟩
    exact ⟨⟨hL₂, hverdict₁.trans hverdict₂⟩, fun hended =>
      ⟨⟨hL₂, hverdict₁.trans hverdict₂⟩, hopen₂ hended⟩⟩

end Released

/-! ## The phases -/

def HoldTrace (A : ActuatorConfig D) (t : List (HandEvent D)) : Prop :=
  ∃ seed hold settle deadline now,
    A.feedbackEquivalentHoldTarget seed.angles = .ok hold ∧ Quiet settle ∧
    t = [.stopBegins, .feedback seed] ++ dueEvents hold deadline now ++ [.readback hold] ++ settle

def PassTrace (A : ActuatorConfig D) : ℕ → List (HandEvent D) → Prop
  | 0, t => HoldTrace A t
  | n + 1, t => ∃ t' deadline now, PassTrace A n t' ∧
      t = t' ++ dueEvents disabledTargets deadline now ++ [.readback disabledTargets]

def Passed (A : ActuatorConfig D) (passes : ℕ) (L : StopLocals D) (t : List (HandEvent D)) : Prop :=
  L.failures = [] → L.verifiedPasses = passes ∧ PassTrace A passes t

theorem passed_withFailure {A : ActuatorConfig D} {passes : ℕ} {t : List (HandEvent D)}
    (L : StopLocals D) (text : String) : Passed A passes (L.withFailure text) t := by
  intro hnone
  simp [StopLocals.withFailure] at hnone

section Phases

variable (W : HandWorld D τ) (A : ActuatorConfig D)

def Settling (A : ActuatorConfig D) (h : Hand D τ) (t : List (HandEvent D)) : Prop :=
  (h.stop.failures = [] ∧ h.stop.verifiedPasses = 0) ∧ HoldTrace A t

theorem settling_tolerates : Tolerates W (Settling A) where
  now _ _ h := h
  sleep _ _ _ h := h
  readAngleSet _ _ _ h := h
  readSafetyFeedback _ _ _ h := h
  reading event hevent h t := by
    rintro ⟨hstop, seed, hold, settle, deadline, now, hhold, hsettle, rfl⟩
    refine ⟨hstop, seed, hold, settle ++ [event], deadline, now, hhold,
      hsettle.append (quiet_singleton (HandEvent.isQuiet_of_isReading hevent)), ?_⟩
    rw [List.append_assoc _ settle]
  stop L h t hverdict hI := by
    refine ⟨⟨?_, ?_⟩, hI.2⟩
    · rw [hverdict.1]
      exact hI.1.1
    · rw [hverdict.2.2]
      exact hI.1.2

theorem wp_holdPhase {h : Hand D τ} (settleDeadline : D) (rounds : ℕ)
    (hstop : h.stop.failures = [] ∧ h.stop.verifiedPasses = 0) :
    wp (W.holdPhase A settleDeadline rounds) (fun _ => Settling A) (fun _ _ _ => True) h
      [.stopBegins] := by
  rw [HandWorld.holdPhase, wp_bind, wp_shift]
  refine wp_mono (wp_transportReadFeedback W A settleDeadline _ h) ?_ fun _ _ _ _ => trivial
  rintro seed h₁ w ⟨⟨-, hstop₁⟩, rfl⟩
  simp only [wp_bind, wp_ofExcept]
  refine ⟨fun _ _ => ⟨fun hold hhold => ?_, fun _ _ => trivial⟩, fun _ _ => trivial⟩
  rw [wp_shift]
  refine wp_mono (wp_transportWriteOnceThenVerify W hold settleDeadline _ h₁) ?_
    fun _ _ _ _ => trivial
  rintro readback h₂ w ⟨⟨-, hstop₂⟩, deadline, now, rfl⟩
  rw [wp_modifyStop]
  have hI := settling_tolerates W A
  have hkeeps := hI.keeps_whileBefore (A := A) (hI.keeps_settleRound (A := A) hold settleDeadline)
    settleDeadline rounds
  refine wp_mono (hkeeps _ _ ⟨?_, ?_⟩) (fun _ _ _ h => h) fun _ _ _ _ => trivial
  · show h₂.stop.failures = [] ∧ h₂.stop.verifiedPasses = 0
    rw [hstop₂, hstop₁]
    exact hstop
  · exact ⟨seed, hold, [], deadline, now, hhold, quiet_nil, by simp⟩

/-- **A disable pass** stands in the trace unless it fails. -/
theorem wp_disablePass {h : Hand D τ} {t : List (HandEvent D)} {passes : ℕ} (deadline : D)
    (passIndex : ℕ) (hpassed : Passed A passes h.stop t) :
    wp (W.disablePass deadline passIndex) (fun _ h' t' => Passed A (passes + 1) h'.stop t')
      (fun _ _ _ => False) h t := by
  rw [HandWorld.disablePass, wp_bind, wp_attempt, wp_shift]
  refine wp_mono (wp_transportWriteOnceThenVerify W disabledTargets deadline _ h) ?_ ?_
  · rintro readback h₁ w ⟨⟨-, hstop⟩, writeDeadline, now, rfl⟩
    rw [wp_modifyStop]
    intro hnone
    obtain ⟨hcount, htrace⟩ := hpassed (hstop ▸ hnone)
    refine ⟨?_, t, writeDeadline, now, htrace, ?_⟩
    · show h₁.stop.verifiedPasses + 1 = passes + 1
      rw [hstop, hcount]
    · rw [List.append_assoc]
  · intro e h₁ w _
    rw [wp_modifyStop]
    exact passed_withFailure _ _

def Confirmable (A : ActuatorConfig D) (L : StopLocals D) (t : List (HandEvent D)) : Prop :=
  L.failures = [] → L.stableTailVerified = true → ∃ base, PassTrace A 2 base ∧ TailTrace A base L t

theorem confirmable_withFailure {A : ActuatorConfig D} {t : List (HandEvent D)}
    (L : StopLocals D) (text : String) : Confirmable A (L.withFailure text) t := by
  intro hnone
  simp [StopLocals.withFailure] at hnone

theorem wp_tailTimeout {h : Hand D τ} {t : List (HandEvent D)}
    (hconfirmable : Confirmable A h.stop t) :
    wp (HandWorld.tailTimeout : HandM D τ Unit) (fun _ h' t' => Confirmable A h'.stop t')
      (fun _ _ _ => False) h t := by
  simp only [HandWorld.tailTimeout, wp_bind, wp_read, wp_ite]
  refine ⟨fun _ => ?_, fun _ => ?_⟩
  · rw [wp_modifyStop]
    exact confirmable_withFailure _ _
  · rw [wp_ret]
    exact hconfirmable

/-- **The released phase** ends with the tail in the trace, with a failure, or not at all. -/
theorem wp_releasedPhase {h : Hand D τ} {t : List (HandEvent D)} (deadline : D) (rounds : ℕ)
    (hpassed : Passed A 2 h.stop t) :
    wp (W.releasedPhase A deadline rounds)
      (fun ended h' t' => ended = true → Confirmable A h'.stop t') (fun _ _ _ => False) h t := by
  simp only [HandWorld.releasedPhase, wp_bind, wp_modifyStop, wp_attempt]
  have hstart : TailTrace A t { h.stop with stableSamples := [], stableTailVerified := false } t := by
    refine ⟨⟨[], quiet_nil, by simp⟩, fun f hf => ?_, fun hverified => ?_⟩
    · cases hf
    · cases hverified
  refine wp_mono (wp_releasedLoop W deadline rounds hstart rfl) ?_ ?_
  · rintro ended h₁ t₁ ⟨htail, hverdict⟩
    cases ended with
    | true =>
      have hconfirmable : Confirmable A h₁.stop t₁ := by
        intro hnone _
        exact ⟨t, (hpassed (hverdict.1.symm.trans hnone)).2, htail⟩
      rw [wp_bind]
      refine wp_mono (wp_tailTimeout A hconfirmable) (fun _ _ _ h => ?_) fun _ _ _ h => h
      rw [wp_ret]
      exact fun _ => h
    | false =>
      rw [wp_ret]
      exact fun h => by cases h
  · intro e h₁ t₁ _
    refine wp_mono (wp_tailTimeout A (confirmable_withFailure _ _)) (fun _ _ _ h => ?_)
      fun _ _ _ h => h
    rw [wp_ret]
    exact fun _ => h

def Reported (A : ActuatorConfig D) (report : Option (RH56StopReport D)) (h : Hand D τ)
    (t : List (HandEvent D)) : Prop :=
  ∀ r, report = some r →
    r.verified = true ∧ h.actuator.stopConfirmed = true ∧ StopTrace A dueEvents t

def Latched (e : PyException) (h : Hand D τ) (_ : List (HandEvent D)) : Prop :=
  e.className = "RH56StopUnconfirmed" ∧ h.actuator.state = .faultLatched ∧
    h.actuator.stopConfirmed = false

def Ends (A : ActuatorConfig D) (r : Except PyException (Option (RH56StopReport D)))
    (h : Hand D τ) (t : List (HandEvent D)) : Prop :=
  match r with
  | .ok report => Reported A report h t
  | .error e => Latched e h t

/-- **The verdict** reports a stop whose trace is complete, and latches the fault otherwise. -/
theorem wp_stopVerdict {h : Hand D τ} {t : List (HandEvent D)} (preserveFault : Bool)
    (hconfirmable : h.stop.verifiedPasses = 2 → Confirmable A h.stop t) :
    wp (W.stopVerdict A preserveFault) (fun r => Reported A (some r)) Latched h t := by
  simp only [HandWorld.stopVerdict, wp_bind, wp_read]
  rw [wp_ite]
  refine ⟨fun _ => ?_, fun hconfirmed => ?_⟩
  · simp only [wp_bind, HandWorld.latchFault, wp_modifyActuator, wp_fail]
    exact ⟨rfl, rfl, rfl⟩
  simp only [HandWorld.unconfirmed, Bool.or_eq_true, not_or, Bool.not_eq_true', Bool.not_eq_false,
    List.isEmpty_iff, decide_eq_true_eq, not_not] at hconfirmed
  obtain ⟨⟨⟨⟨hnone, -⟩, hverified⟩, hpasses⟩, -⟩ := hconfirmed
  obtain ⟨base, ⟨t₁, d₃, n₃, ⟨t₂, d₂, n₂, ⟨seed, hold, settle, d₁, n₁, hhold, hsettle, rfl⟩, rfl⟩, rfl⟩,
    ⟨early, hearly, rfl⟩, hrest, hmotionless⟩ := hconfirmable hpasses hnone hverified
  rw [wp_bind]
  refine wp_now W ?_
  simp only [wp_bind, wp_modifyActuator, wp_emit, wp_ret]
  intro r hr
  obtain rfl := Option.some.inj hr
  refine ⟨rfl, ?_, seed, hold, settle, early, h.stop.stableSamples, d₁, n₁, d₂, n₂, d₃, n₃, hhold,
    hsettle, hearly, provesRest_of_motionless hrest (hmotionless hverified), rfl⟩
  unfold HandWorld.confirmed
  cases preserveFault <;> rfl

theorem wp_settleTimeout {h : Hand D τ} {t : List (HandEvent D)}
    (hpassed : Passed A 0 h.stop t) :
    wp (HandWorld.settleTimeout : HandM D τ Unit) (fun _ h' t' => Passed A 0 h'.stop t')
      (fun _ _ _ => False) h t := by
  simp only [HandWorld.settleTimeout, wp_bind, wp_read, wp_ite]
  refine ⟨fun _ => ?_, fun _ => ?_⟩
  · rw [wp_modifyStop]
    exact passed_withFailure _ _
  · rw [wp_ret]
    exact hpassed

theorem wp_releaseAndVerify {h : Hand D τ} {t : List (HandEvent D)} (preserveFault : Bool)
    (deadline : D) (rounds : ℕ) (hpassed : Passed A 0 h.stop t) :
    wp (W.releaseAndVerify A preserveFault deadline rounds) (Reported A) Latched h t := by
  simp only [HandWorld.releaseAndVerify, wp_bind]
  refine wp_mono (wp_settleTimeout A hpassed) ?_ fun _ _ _ h => h.elim
  intro _ h₀ t₀ hpassed₀
  refine wp_mono (wp_disablePass W A deadline 1 hpassed₀) ?_ fun _ _ _ h => h.elim
  intro _ h₁ t₁ hpassed₁
  refine wp_mono (wp_disablePass W A deadline 2 hpassed₁) ?_ fun _ _ _ h => h.elim
  intro _ h₂ t₂ hpassed₂
  rw [wp_read]
  beta_reduce
  have verdict : ∀ h t, (h.stop.verifiedPasses = 2 → Confirmable A h.stop t) →
      wp (W.stopVerdict A preserveFault)
        (fun report => wp (ret (some report) : HandM D τ _) (Reported A) Latched) Latched h t := by
    intro h t hconfirmable
    refine wp_mono (wp_stopVerdict W A preserveFault hconfirmable) (fun _ _ _ h => ?_)
      fun _ _ _ h => h
    rwa [wp_ret]
  rw [wp_ite]
  refine ⟨fun _ => ?_, fun hfew => ?_⟩
  · refine wp_mono (wp_releasedPhase W A deadline rounds hpassed₂) ?_ fun _ _ _ h => h.elim
    intro ended h₃ t₃ hconfirmable
    cases ended with
    | true =>
      rw [if_pos rfl, wp_bind]
      exact verdict h₃ t₃ fun _ => hconfirmable rfl
    | false =>
      rw [if_neg Bool.false_ne_true, wp_ret]
      exact fun _ h => by cases h
  · rw [wp_ret, if_pos rfl, wp_bind]
    exact verdict h₂ t₂ fun htwo => absurd htwo hfew

theorem wp_disableAndVerifyLocked (preserveFault : Bool) (rounds : ℕ) (h : Hand D τ) :
    wp (W.disableAndVerifyLocked A preserveFault rounds) (Reported A) Latched h [] := by
  simp only [HandWorld.disableAndVerifyLocked, wp_bind, wp_emit, wp_modifyStop]
  refine wp_now W ?_
  rw [wp_attempt]
  refine wp_mono (wp_holdPhase W A _ rounds ⟨rfl, rfl⟩) ?_ ?_
  · rintro held h₁ t₁ ⟨⟨-, hzero⟩, htrace⟩
    cases held with
    | true => exact wp_releaseAndVerify W A preserveFault _ rounds fun _ => ⟨hzero, htrace⟩
    | false =>
      rw [wp_ret]
      exact fun _ h => by cases h
  · intro e h₁ t₁ _
    rw [wp_bind, wp_modifyStop]
    exact wp_releaseAndVerify W A preserveFault _ rounds (passed_withFailure _ _)

end Phases

/-! ## Termination

Both loops read the clock in each round. Where some rank of the world falls with each reading below
a deadline, a number of rounds above the rank ends the loop. -/

/-- The rank of a world falls with each reading of the clock below a deadline, and never rises. -/
structure Passes (W : HandWorld D τ) (deadline : D) (rank : τ → ℕ) : Prop where
  falls : ∀ w, (W.monotonic w).1.1 < deadline → rank (W.monotonic w).2 < rank w
  now : ∀ w, rank (W.monotonic w).2 ≤ rank w
  sleep : ∀ d w, rank (W.sleep d w).2 ≤ rank w
  writeAngleSet : ∀ v d w, rank (W.writeAngleSet v d w).2 ≤ rank w
  readAngleSet : ∀ d w, rank (W.readAngleSet d w).2 ≤ rank w
  readSafetyFeedback : ∀ d w, rank (W.readSafetyFeedback d w).2 ≤ rank w

/-- **The clock passes a deadline**: it is read below it only so many times. -/
def ClockPasses (W : HandWorld D τ) (deadline : D) : Prop := ∃ rank, Passes W deadline rank

def RankAtMost (rank : τ → ℕ) (r : ℕ) (h : Hand D τ) (_ : List (HandEvent D)) : Prop :=
  rank h.world ≤ r

section Ends

variable {W : HandWorld D τ} {A : ActuatorConfig D} {deadline : D} {rank : τ → ℕ} {r : ℕ}
  {h : Hand D τ} {t : List (HandEvent D)}

theorem Passes.tolerates (hp : Passes W deadline rank) (r : ℕ) :
    ToleratesStop W (RankAtMost rank r : Hand D τ → List (HandEvent D) → Prop) where
  now h _ hr := (hp.now h.world).trans hr
  sleep d h _ hr := (hp.sleep d h.world).trans hr
  readAngleSet d h _ hr := (hp.readAngleSet d h.world).trans hr
  readSafetyFeedback d h _ hr := (hp.readSafetyFeedback d h.world).trans hr
  reading _ _ _ _ hr := hr
  stop _ _ _ _ hr := hr
  writeAngleSet v d h _ hr := (hp.writeAngleSet v d h.world).trans hr
  writing _ _ _ _ hr := hr
  locals _ _ _ hr := hr

/-- **A loop ends** within as many rounds as the rank allows. -/
theorem Passes.wp_whileBefore (hp : Passes W deadline rank) {round : HandM D τ Bool}
    (hround : ∀ r, Keeps (RankAtMost rank r) round) (rounds : ℕ) (hrank : rank h.world < rounds) :
    wp (W.whileBefore A deadline round rounds) (fun ended _ _ => ended = true)
      (fun _ _ _ => True) h t := by
  induction rounds generalizing h t with
  | zero => exact absurd hrank (Nat.not_lt_zero _)
  | succ rounds ih =>
    rw [HandWorld.whileBefore, wp_bind]
    refine wp_now W ?_
    rw [wp_ite]
    refine ⟨fun _ => ?_, fun hbelow => ?_⟩
    · rw [wp_ret]
    have hfalls := hp.falls h.world (not_not.mp hbelow)
    refine (hround (rank (W.monotonic h.world).2)).wp_bind le_rfl (fun ended h' t' hr => ?_)
      fun _ _ _ _ => trivial
    cases ended with
    | true => rw [if_pos rfl, wp_ret]
    | false =>
      rw [if_neg Bool.false_ne_true]
      refine ((hp.tolerates _).keeps_pauseBefore _).wp_bind hr (fun more h'' t'' hr => ?_)
        fun _ _ _ _ => trivial
      cases more with
      | true =>
        rw [if_pos rfl]
        refine ih ?_
        unfold RankAtMost at hr
        omega
      | false => rw [if_neg Bool.false_ne_true, wp_ret]

/-- **The hold ends** within as many rounds as the rank allows. -/
theorem Passes.wp_holdPhase (hp : Passes W deadline rank) (rounds : ℕ)
    (hrank : rank h.world < rounds) :
    wp (W.holdPhase A deadline rounds) (fun ended _ _ => ended = true) (fun _ _ _ => True) h t := by
  have hI := hp.tolerates (D := D) (rank h.world)
  refine (hI.keeps_transportReadFeedback _ _).wp_bind le_rfl (fun seed h₁ t₁ hr => ?_)
    fun _ _ _ _ => trivial
  refine (keeps_ofExcept _).wp_bind hr (fun _ h₁ t₁ hr => ?_) fun _ _ _ _ => trivial
  refine (keeps_ofExcept _).wp_bind hr (fun hold h₁ t₁ hr => ?_) fun _ _ _ _ => trivial
  refine (hI.keeps_transportWriteOnceThenVerify _ _ _).wp_bind hr (fun _ h₁ t₁ hr => ?_)
    fun _ _ _ _ => trivial
  refine (hI.keeps_locals _).wp_bind hr (fun _ h₁ t₁ hr => ?_) fun _ _ _ _ => trivial
  exact hp.wp_whileBefore (fun r => (hp.tolerates r).keeps_settleRound hold deadline) rounds
    (lt_of_le_of_lt hr hrank)

/-- **The released phase ends** within as many rounds as the rank allows. -/
theorem Passes.wp_releasedPhase (hp : Passes W deadline rank) (rounds : ℕ)
    (hrank : rank h.world < rounds) :
    wp (W.releasedPhase A deadline rounds) (fun ended _ _ => ended = true)
      (fun _ _ _ => True) h t := by
  simp only [HandWorld.releasedPhase, wp_bind, wp_modifyStop, wp_attempt]
  have finish : ∀ h t, wp (HandWorld.tailTimeout : HandM D τ Unit)
      (fun _ => wp (ret true : HandM D τ Bool) (fun ended _ _ => ended = true) fun _ _ _ => True)
      (fun _ _ _ => True) h t := by
    intro h t
    simp only [HandWorld.tailTimeout, wp_bind, wp_read, wp_ite, wp_modifyStop, wp_ret, implies_true,
      and_self]
  refine wp_mono (hp.wp_whileBefore (fun r => (hp.tolerates r).keeps_releasedRound deadline) rounds hrank) ?_ ?_
  · rintro ended h₁ t₁ rfl
    rw [wp_bind]
    exact finish h₁ t₁
  · exact fun e h₁ t₁ _ => finish _ t₁

/-- **After the hold** the stop ends within as many rounds as the rank allows. -/
theorem Passes.wp_releaseAndVerify (hp : Passes W deadline rank) (preserveFault : Bool)
    (rounds : ℕ) (hrank : rank h.world < rounds) :
    wp (W.releaseAndVerify A preserveFault deadline rounds) (fun report _ _ => report.isSome = true)
      (fun _ _ _ => True) h t := by
  have hI := hp.tolerates (D := D) (rank h.world)
  have verdict : ∀ h t, wp (W.stopVerdict A preserveFault >>= fun report => ret (some report))
      (fun report _ _ => report.isSome = true) (fun _ _ _ => True) h t := by
    intro h t
    refine Keeps.wp_bind (I := fun _ _ => True) (fun _ _ _ => ?_) trivial (fun _ _ _ _ => ?_)
      fun _ _ _ _ => trivial
    · exact wp_mono (wp_top _ _ _) (fun _ _ _ _ => trivial) fun _ _ _ _ => trivial
    · rw [wp_ret]
      rfl
  refine hI.keeps_settleTimeout.wp_bind le_rfl (fun _ h₁ t₁ hr => ?_) fun _ _ _ _ => trivial
  refine (hI.keeps_disablePass _ _).wp_bind hr (fun _ h₁ t₁ hr => ?_) fun _ _ _ _ => trivial
  refine (hI.keeps_disablePass _ _).wp_bind hr (fun _ h₁ t₁ hr => ?_) fun _ _ _ _ => trivial
  simp only [wp_bind, wp_read]
  rw [wp_ite]
  refine ⟨fun _ => ?_, fun _ => ?_⟩
  · refine wp_mono (hp.wp_releasedPhase rounds (lt_of_le_of_lt hr hrank)) ?_ fun _ _ _ _ => trivial
    rintro ended h₂ t₂ rfl
    rw [if_pos rfl]
    exact verdict h₂ t₂
  · rw [wp_ret, if_pos rfl]
    exact verdict h₁ t₁

/-- **The stop ends** within as many rounds as the ranks of both deadlines allow. -/
theorem wp_disableAndVerifyLocked_ends {settleRank : τ → ℕ} (preserveFault : Bool) (rounds : ℕ)
    (hdeadline : (W.monotonic h.world).1.1 + A.stopTimeoutS = deadline)
    (hsettle : Passes W (deadline - releaseReserveS A) settleRank)
    (hp : Passes W deadline rank) (hsettleRank : settleRank h.world < rounds)
    (hrank : rank h.world < rounds) :
    wp (W.disableAndVerifyLocked A preserveFault rounds)
      (fun report _ _ => report.isSome = true) (fun _ _ _ => True) h t := by
  simp only [HandWorld.disableAndVerifyLocked, wp_bind, wp_emit, wp_modifyStop]
  refine wp_now W ?_
  rw [hdeadline, wp_attempt]
  have hfall := (hp.now h.world).trans_lt hrank
  refine wp_mono (wp_and (hsettle.wp_holdPhase rounds ((hsettle.now h.world).trans_lt hsettleRank))
    ((hp.tolerates _).keeps_holdPhase _ rounds _ _ (le_refl (rank (W.monotonic h.world).2)))) ?_ ?_
  · rintro ended h₁ t₁ ⟨rfl, hr⟩
    exact hp.wp_releaseAndVerify preserveFault rounds (lt_of_le_of_lt hr hfall)
  · rintro e h₁ t₁ ⟨-, hr⟩
    rw [wp_bind, wp_modifyStop]
    exact hp.wp_releaseAndVerify preserveFault rounds (lt_of_le_of_lt hr hfall)

end Ends

/-! ## The contract -/

/-- **A verified stop is sound exactly when no write missed its window.** In every world, from every
state, `_disable_and_verify` either ends with a report whose three writes were due and read back
before a tail of samples at rest, or it latches the fault and raises `RH56StopUnconfirmed`. The
report is true to its writes if and only if none of them was skipped; and the loops end wherever the
clock passes both deadlines. -/
theorem verified_stop_sound (W : HandWorld D τ) (A : ActuatorConfig D) (preserveFault : Bool)
    (h : Hand D τ) :
    (∀ rounds, StopSound A (W.disableAndVerifyLocked A preserveFault rounds h) ↔
      ∀ report, (W.disableAndVerifyLocked A preserveFault rounds h).1 = .ok (some report) →
        WindowsKept (W.disableAndVerifyLocked A preserveFault rounds h).2.2) ∧
    (let deadline := (W.monotonic h.world).1.1 + A.stopTimeoutS
     ClockPasses W deadline → ClockPasses W (deadline - releaseReserveS A) →
       ∃ enough, ∀ rounds, enough ≤ rounds →
         (W.disableAndVerifyLocked A preserveFault rounds h).1 ≠ .ok none) := by
  constructor
  · intro rounds
    have hends := wp_result (P := Ends A) (wp_disableAndVerifyLocked W A preserveFault rounds h)
    rw [List.nil_append] at hends
    generalize W.disableAndVerifyLocked A preserveFault rounds h = r at hends ⊢
    have hreported : ∀ report, r.1 = .ok (some report) →
        report.verified = true ∧ r.2.1.actuator.stopConfirmed = true ∧
          StopTrace A dueEvents r.2.2 := by
      intro report hreport
      rw [hreport] at hends
      exact hends report rfl
    have hlatched : ∀ e, r.1 = .error e → Latched e r.2.1 r.2.2 := by
      intro e he
      rw [he] at hends
      exact hends
    constructor
    · rintro ⟨hsound, -⟩ report hreport
      exact (stopProven_iff (hreported report hreport).2.2).mp (hsound report hreport).2.2
    · intro hkept
      refine ⟨fun report hreport => ?_, hlatched⟩
      obtain ⟨hverified, hconfirmed, htrace⟩ := hreported report hreport
      exact ⟨hverified, hconfirmed, (stopProven_iff htrace).mpr (hkept report hreport)⟩
  · rintro deadline ⟨rank, hp⟩ ⟨settleRank, hsettle⟩
    refine ⟨max (rank h.world) (settleRank h.world) + 1, fun rounds henough hnone => ?_⟩
    have hsome : wp (W.disableAndVerifyLocked A preserveFault rounds)
        (fun report _ _ => .ok report ≠ Except.ok (ε := PyException) none)
        (fun e _ _ => .error e ≠ Except.ok (ε := PyException) (α := Option (RH56StopReport D)) none)
        h [] := by
      refine wp_mono (wp_disableAndVerifyLocked_ends preserveFault rounds rfl hsettle hp
        (by omega) (by omega)) ?_ fun _ _ _ _ h => by cases h
      intro report _ _ hsome h
      rw [Except.ok.inj h] at hsome
      cases hsome
    exact wp_result (P := fun r _ _ => r ≠ .ok none) hsome hnone

/-! ## A bench -/

structure BenchHand where
  readings : ℕ
  registers : SixIntegers

/-- The clock of a bench: a millisecond a reading up to 300, and 30 ms more from the reading `stall`
on. -/
def benchClock (stall readings : ℕ) : {now : Binary64 // FloatArith.isFinite now = true} :=
  let reading := min readings 300
  let milliseconds := reading + if stall ≤ reading then 30 else 0
  let now : Binary64 := FloatArith.ofRat ((milliseconds : ℚ) / 1000)
  if h : FloatArith.isFinite now = true then ⟨now, h⟩ else ⟨FloatArith.zero, rfl⟩

def restingFeedback (captured : {now : Binary64 // FloatArith.isFinite now = true}) :
    RH56SafetyFeedback Binary64 :=
  restingSample captured.1 captured.2

def bench (stall : ℕ) : HandWorld Binary64 BenchHand where
  monotonic w := (benchClock stall w.readings, { w with readings := w.readings + 1 })
  sleep _ w := (.ok (), w)
  writeAngleSet targets _ w := (.ok (), { w with registers := targets })
  readAngleSet _ w := (.ok (rawOf w.registers), w)
  readSafetyFeedback _ w := (.ok (some (restingFeedback (benchClock stall (w.readings - 1)))), w)
  requireMotion _ _ w := (.ok (), w)
  ledgerPending w := (none, w)
  ledgerAcknowledge _ _ w := (.ok false, w)
  ledgerFail _ _ w := (.ok (), w)
  angleSet w := w.registers

def benchConfig : ActuatorConfig Binary64 where
  commandWatchdogTimeoutS := FloatArith.ofRat (15 / 100)
  supervisedInterCommandWatchdogTimeoutS := FloatArith.ofRat (15 / 100)
  maximumFeedbackAgeS := FloatArith.ofRat (15 / 100)
  maximumRunningAxisCurrentMa := 1000
  maximumTemperatureC := 70
  stopTimeoutS := FloatArith.ofRat (2 / 10)
  stopVerifySamples := 2
  stopVerifyIntervalS := FloatArith.ofRat (1 / 1000)
  stopMaxAxisCurrentMa := 100
  stopSettleMaxAxisCurrentMa := 1000
  stopMaxAngleDriftUnits := 3
  stopMaxPositionDriftUnits := 3
  feedbackToCommandOffsetUnits := fun _ => 0
  stopHoldCommandMinimum := fun _ => 0
  stopHoldCommandMaximum := fun _ => 1000
  samples_within := by decide
  hold_within := wholeRange_within

def benchArmed : RH56TransactionalActuator Binary64 where
  state := .armed
  faultReason := none
  stopConfirmed := false
  runId := some "run"
  safetyGate := true
  pendingSequence := none
  lastAcknowledgedSequence := 0
  lastCommandMonotonicS := none
  lastFeedbackMonotonicS := none
  supervisedSession := true
  supervisedAwaitingFirstNumericCommand := false
  lastSupervisedTarget := none

def benchStop (stall : ℕ) :
    Except PyException (Option (RH56StopReport Binary64)) × Hand Binary64 BenchHand ×
      List (HandEvent Binary64) :=
  (bench stall).disableAndVerifyLocked benchConfig false 3
    ⟨benchArmed, .init, ⟨0, fun _ => 400⟩⟩

def reportOf : Except PyException (Option (RH56StopReport D)) → Option (RH56StopReport D)
  | .ok report => report
  | .error _ => none

omit [FloatArith D] in
theorem eq_of_reportOf {r : Except PyException (Option (RH56StopReport D))}
    (h : (reportOf r).isSome = true) : ∃ report, r = .ok (some report) := by
  cases r with
  | error e => cases h
  | ok report =>
    obtain ⟨report, rfl⟩ := Option.isSome_iff_exists.mp h
    exact ⟨report, rfl⟩

/-- **A stall hides a missing pass.** The clock stalls for 30 ms before the second disable write, so
that the write is skipped; the registers still hold the first pass's targets, and the report counts
two passes. -/
theorem stalled_pass_is_reported : ¬ StopSound benchConfig (benchStop 25) := by
  intro hsound
  obtain ⟨report, hreport⟩ := eq_of_reportOf
    (show (reportOf (benchStop 25).1).isSome = true by decide +kernel)
  have hwrites : (benchStop 25).2.2.countP HandEvent.isWrite = 2 := by decide +kernel
  have hthree := (hsound.1 report hreport).2.2.countP_isWrite
  rw [hwrites] at hthree
  cases hthree

def HandEvent.onTime : HandEvent D → Bool
  | .writeDue deadline now => !decide (deadline < now)
  | _ => true

theorem windowsKept_of_onTime {t : List (HandEvent D)} (h : t.all HandEvent.onTime = true) :
    WindowsKept t := by
  intro deadline now hdue
  have := List.all_eq_true.mp h _ hdue
  simpa [HandEvent.onTime] using this

theorem clockPasses_bench {deadline : Binary64} (h : ¬ (benchClock 1000 300).1 < deadline) :
    ClockPasses (bench 1000) deadline := by
  refine ⟨fun w => 300 - w.readings, fun w hbelow => ?_, fun w => ?_, ?_, ?_, ?_, ?_⟩
  · have hearly : w.readings < 300 := by
      by_contra hlate
      have hsame : benchClock 1000 w.readings = benchClock 1000 300 := by
        unfold benchClock
        rw [min_eq_right (not_lt.mp hlate), min_self]
      exact h (hsame ▸ hbelow)
    show 300 - (w.readings + 1) < 300 - w.readings
    omega
  · show 300 - (w.readings + 1) ≤ 300 - w.readings
    omega
  · exact fun _ _ => le_rfl
  · exact fun _ _ _ => le_rfl
  · exact fun _ _ => le_rfl
  · exact fun _ _ => le_rfl

theorem unstalled_stop_is_sound :
    (∃ report, (benchStop 1000).1 = .ok (some report)) ∧ StopSound benchConfig (benchStop 1000) ∧
      ∃ enough, ∀ rounds, enough ≤ rounds →
        ((bench 1000).disableAndVerifyLocked benchConfig false rounds
          ⟨benchArmed, .init, ⟨0, fun _ => 400⟩⟩).1 ≠ .ok none := by
  have hcontract := verified_stop_sound (bench 1000) benchConfig false
    ⟨benchArmed, .init, ⟨0, fun _ => 400⟩⟩
  refine ⟨eq_of_reportOf (by decide +kernel), (hcontract.1 3).mpr fun _ _ => ?_, hcontract.2 ?_ ?_⟩
  · exact windowsKept_of_onTime (by decide +kernel)
  · exact clockPasses_bench (by decide +kernel)
  · exact clockPasses_bench (by decide +kernel)

end FrankaDeploy.Rh56
