import FrankaDeploy.Foundation.ExactArith
import FrankaDeploy.Rh56.StopTail
import Mathlib.Algebra.Order.Archimedean.Basic
import Mathlib.Tactic.Linarith
import Mathlib.Tactic.NormNum

/-! # The time budget of a stop

`_disable_and_verify` derives the deadline of its hold phase from the overall one by a reserve, and
gives each transport call one of the two. On a transport that honours the deadlines it is given the
hold phase is over when its own deadline comes, however it ends, and both disable writes are issued
by the overall one, with time left unless the timeout is too short for a write and a readback in its
second half. The numbers are exact here. -/

namespace FrankaDeploy.Rh56

open FrankaDeploy.Foundation FrankaDeploy.Foundation.Program
open scoped FloatArith

variable {τ : Type}

/-! ## Punctual transports -/

/-- **What a call with a deadline takes**: it ends by the deadline and within its bound. -/
structure Took (deadline bound before after : ℚ) : Prop where
  forward : before ≤ after
  honoured : after ≤ deadline
  bounded : after ≤ before + bound

/-- **A transport that honours its deadlines.** Time passes in transport calls and sleeps only; a
write waits for at most `RH56_SUPERVISED_WRITE_RESPONSE_GRACE_S`, each register read takes at most
`RH56_SUPERVISED_EXCHANGE_TIMEOUT_S`, and a feedback sample, which is two of them, takes some time
when there is one. -/
structure Punctual (W : HandWorld ℚ τ) (clock : τ → ℚ) (least : ℚ) : Prop where
  shows : ∀ w, (W.monotonic w).1.1 = clock w
  still : ∀ w, clock (W.monotonic w).2 = clock w
  sleep : ∀ d w, 0 ≤ d →
    clock w ≤ clock (W.sleep d w).2 ∧ clock (W.sleep d w).2 ≤ clock w + d
  writeAngleSet : ∀ targets d w, clock w ≤ d →
    Took d HandWorld.supervisedWriteResponseGraceS (clock w) (clock (W.writeAngleSet targets d w).2)
  readAngleSet : ∀ d w, clock w ≤ d →
    Took d supervisedExchangeTimeoutS (clock w) (clock (W.readAngleSet d w).2)
  readSafetyFeedback : ∀ d w, clock w ≤ d →
    Took d (2 * supervisedExchangeTimeoutS) (clock w) (clock (W.readSafetyFeedback d w).2)
  takesTime : ∀ d w f, (W.readSafetyFeedback d w).1 = .ok f →
    clock w + least ≤ clock (W.readSafetyFeedback d w).2
  least_pos : 0 < least

structure ActuatorConfig.StopTimes (A : ActuatorConfig ℚ) : Prop where
  timeout : 0 < A.stopTimeoutS
  interval : 0 ≤ A.stopVerifyIntervalS

/-! ## The reserve -/

theorem grace_eq : (HandWorld.supervisedWriteResponseGraceS : ℚ) = 1 / 50 := by
  unfold HandWorld.supervisedWriteResponseGraceS
  rw [FloatArith.ofRat_rat]
  norm_num

theorem exchangeTimeout_eq : (supervisedExchangeTimeoutS : ℚ) = 1 / 20 := by
  unfold supervisedExchangeTimeoutS
  rw [FloatArith.ofRat_rat]
  norm_num

theorem pyMin_rat (x y : ℚ) : HandWorld.pyMin x y = min x y := by
  unfold HandWorld.pyMin
  show (if decide (y < x) = true then y else x) = _
  simp only [decide_eq_true_eq]
  by_cases h : y < x
  · rw [if_pos h, min_eq_right h.le]
  · rw [if_neg h, min_eq_left (not_lt.mp h)]

theorem le_calculatedReleaseReserveS {A : ActuatorConfig ℚ} (hA : A.StopTimes) :
    7 / 50 < calculatedReleaseReserveS A := by
  have hcount : (2 : ℚ) ≤ A.stopVerifySamples := by exact_mod_cast A.samples_within.1
  have hsleeps : 0 ≤ ((A.stopVerifySamples - 1 : ℕ) : ℚ) * A.stopVerifyIntervalS :=
    mul_nonneg (Nat.cast_nonneg _) hA.interval
  have hvalue : calculatedReleaseReserveS A =
      2 * (1 / 50 + 1 / 20) + A.stopVerifySamples * 3 * (1 / 20) +
        ((A.stopVerifySamples - 1 : ℕ) : ℚ) * A.stopVerifyIntervalS + 1 / 10 := by
    unfold calculatedReleaseReserveS
    rw [grace_eq, exchangeTimeout_eq]
    show 2 * (1 / 50 + 1 / 20) + (A.stopVerifySamples : ℚ) * 3 * (1 / 20) +
      ((A.stopVerifySamples - 1 : ℕ) : ℚ) * A.stopVerifyIntervalS + (100 / 1000 : ℚ) = _
    norm_num
  rw [hvalue]
  linarith

/-- **The reserve** is at most half the timeout, and room for both passes where half the timeout is. -/
theorem releaseReserveS_bounds {A : ActuatorConfig ℚ} (hA : A.StopTimes) :
    0 < releaseReserveS A ∧ releaseReserveS A ≤ A.stopTimeoutS / 2 ∧
      (7 / 50 < A.stopTimeoutS → 7 / 100 < releaseReserveS A) := by
  have hcalculated := le_calculatedReleaseReserveS hA
  have hvalue : releaseReserveS A = min (A.stopTimeoutS / 2) (calculatedReleaseReserveS A) := by
    unfold releaseReserveS
    rw [pyMin_rat]
    show min (A.stopTimeoutS * (1 / 2)) _ = _
    rw [mul_one_div]
  have htimeout := hA.timeout
  rw [hvalue]
  refine ⟨lt_min (by linarith) (by linarith), min_le_left _ _, fun hlong => ?_⟩
  exact lt_min (by linarith) (by linarith)

/-! ## Single operations -/

theorem windowsKept_of_quiet {w : List (HandEvent ℚ)} (h : Quiet w) : WindowsKept w := by
  intro deadline now hdue
  cases h _ hdue

theorem WindowsKept.append {w w' : List (HandEvent ℚ)} (h : WindowsKept w) (h' : WindowsKept w') :
    WindowsKept (w ++ w') := by
  intro deadline now hdue
  exact (List.mem_append.mp hdue).elim (h deadline now) (h' deadline now)

section Operations

variable {W : HandWorld ℚ τ} {A : ActuatorConfig ℚ} {clock : τ → ℚ} {least : ℚ}

theorem Punctual.wp_now (hW : Punctual W clock least) {Q : ℚ → Hand ℚ τ → List (HandEvent ℚ) → Prop}
    {E : PyException → Hand ℚ τ → List (HandEvent ℚ) → Prop} {h : Hand ℚ τ}
    {t : List (HandEvent ℚ)}
    (hQ : ∀ w, clock w = clock h.world → Q (clock h.world) { h with world := w } t) :
    wp W.now Q E h t := by
  refine FrankaDeploy.Rh56.wp_now W ?_
  rw [hW.shows]
  exact hQ _ (hW.still h.world)

theorem wp_beforeDeadline {Q : Unit → Hand ℚ τ → List (HandEvent ℚ) → Prop}
    {E : PyException → Hand ℚ τ → List (HandEvent ℚ) → Prop} {h : Hand ℚ τ}
    {t : List (HandEvent ℚ)} {now deadline : ℚ} {operation : String} (hnow : now ≤ deadline)
    (hQ : Q () h t) : wp (HandWorld.beforeDeadline now deadline operation) Q E h t := by
  unfold HandWorld.beforeDeadline
  rw [wp_check]
  refine ⟨fun hlate => ?_, fun _ => hQ⟩
  exact absurd (of_decide_eq_true hlate) (not_lt.mpr hnow)

/-- **A write** that begins before its deadline is issued. -/
theorem Punctual.wp_transportWrite (hW : Punctual W clock least) (targets : SixIntegers)
    {deadline : ℚ} (operation : String) {h : Hand ℚ τ} (hh : clock h.world ≤ deadline) :
    wp (W.transportWrite targets deadline operation)
      (fun _ h' w => Took deadline (1 / 50) (clock h.world) (clock h'.world) ∧
        w = [.writeDue deadline (clock h.world), .write targets])
      (fun _ h' w => Took deadline (1 / 50) (clock h.world) (clock h'.world) ∧
        w = [.writeDue deadline (clock h.world), .write targets]) h [] := by
  rw [HandWorld.transportWrite, wp_bind]
  refine hW.wp_now fun w hw => ?_
  rw [wp_bind, wp_emit, wp_bind]
  refine wp_beforeDeadline hh ?_
  rw [wp_bind, wp_emit, wp_bind, wp_attempt]
  have htook := hW.writeAngleSet targets deadline w (hw ▸ hh)
  rw [hw, grace_eq] at htook
  refine wp_callWorld (fun a w' hcall => ?_) fun e w' hcall => ?_
  · rw [show (W.writeAngleSet targets deadline w).2 = w' by rw [hcall]] at htook
    rw [wp_bind]
    refine hW.wp_now fun w'' hw'' => ?_
    refine wp_beforeDeadline htook.honoured ⟨?_, rfl⟩
    rw [hw'']
    exact htook
  · rw [show (W.writeAngleSet targets deadline w).2 = w' by rw [hcall]] at htook
    rw [wp_fail]
    exact ⟨htook, rfl⟩

theorem Punctual.wp_transportReadTargets (hW : Punctual W clock least) {deadline : ℚ}
    (operation : String) {h : Hand ℚ τ} (hh : clock h.world ≤ deadline) :
    wp (W.transportReadTargets deadline operation)
      (fun _ h' w => Took deadline (1 / 20) (clock h.world) (clock h'.world) ∧ Quiet w)
      (fun _ h' w => Took deadline (1 / 20) (clock h.world) (clock h'.world) ∧ Quiet w) h [] := by
  rw [HandWorld.transportReadTargets, wp_bind]
  refine hW.wp_now fun w hw => ?_
  rw [wp_bind]
  refine wp_beforeDeadline hh ?_
  rw [wp_bind, wp_attempt]
  have htook := hW.readAngleSet deadline w (hw ▸ hh)
  rw [hw, exchangeTimeout_eq] at htook
  refine wp_callWorld (fun raw w' hcall => ?_) fun e w' hcall => ?_
  · rw [show (W.readAngleSet deadline w).2 = w' by rw [hcall]] at htook
    dsimp only
    rw [wp_bind, wp_ofExcept]
    refine ⟨fun result _ => ?_, fun _ _ => ⟨htook, quiet_nil⟩⟩
    rw [wp_bind, wp_emit, wp_bind]
    refine hW.wp_now fun w'' hw'' => ?_
    rw [wp_bind]
    refine wp_beforeDeadline htook.honoured ?_
    rw [wp_ret]
    refine ⟨?_, quiet_singleton rfl⟩
    rw [hw'']
    exact htook
  · rw [show (W.readAngleSet deadline w).2 = w' by rw [hcall]] at htook
    rw [wp_fail]
    exact ⟨htook, quiet_nil⟩

theorem Punctual.wp_transportReadFeedback (hW : Punctual W clock least) {deadline : ℚ}
    (operation : String) {h : Hand ℚ τ} (hh : clock h.world ≤ deadline) :
    wp (W.transportReadFeedback A deadline operation)
      (fun _ h' w => (Took deadline (1 / 10) (clock h.world) (clock h'.world) ∧ Quiet w) ∧
        clock h.world + least ≤ clock h'.world)
      (fun _ h' w => Took deadline (1 / 10) (clock h.world) (clock h'.world) ∧ Quiet w) h [] := by
  rw [HandWorld.transportReadFeedback, wp_bind]
  refine hW.wp_now fun w hw => ?_
  rw [wp_bind]
  refine wp_beforeDeadline hh ?_
  rw [wp_bind, wp_attempt]
  have htook := hW.readSafetyFeedback deadline w (hw ▸ hh)
  rw [hw, exchangeTimeout_eq, show (2 : ℚ) * (1 / 20) = 1 / 10 by norm_num] at htook
  refine wp_callWorld (fun f w' hcall => ?_) fun e w' hcall => ?_
  · have htime := hW.takesTime deadline w f (by rw [hcall])
    rw [show (W.readSafetyFeedback deadline w).2 = w' by rw [hcall]] at htook htime
    rw [hw] at htime
    cases f with
    | none =>
      rw [wp_fail]
      exact ⟨htook, quiet_nil⟩
    | some feedback =>
      dsimp only
      rw [wp_bind, wp_emit, wp_bind]
      refine hW.wp_now fun w'' hw'' => ?_
      rw [wp_bind]
      refine wp_beforeDeadline htook.honoured ?_
      have hdone : Took deadline (1 / 10) (clock h.world) (clock w'') ∧
          Quiet ([] ++ [HandEvent.feedback feedback] : List (HandEvent ℚ)) := by
        rw [hw'']
        exact ⟨htook, quiet_singleton rfl⟩
      simp only [wp_bind, wp_check, wp_read, wp_ret]
      refine ⟨fun _ => hdone, fun _ => ⟨fun _ => hdone, fun _ => ⟨fun _ => hdone, fun _ => ?_⟩⟩⟩
      refine ⟨hdone, ?_⟩
      rw [hw'']
      exact htime
  · rw [show (W.readSafetyFeedback deadline w).2 = w' by rw [hcall]] at htook
    rw [wp_fail]
    exact ⟨htook, quiet_nil⟩

/-- **The events of a verified write**, the first of which is the write itself. -/
def Written (targets : SixIntegers) (deadline now : ℚ) (w : List (HandEvent ℚ)) : Prop :=
  ∃ writeDeadline rest, w = [.writeDue writeDeadline now, .write targets] ++ rest ∧ Quiet rest ∧
    now ≤ writeDeadline ∧ writeDeadline ≤ deadline

/-- **A verified write** that begins before its deadline is issued, and takes a write and a readback
at most. -/
theorem Punctual.wp_transportWriteOnceThenVerify (hW : Punctual W clock least)
    (targets : SixIntegers) {deadline : ℚ} (operation : String) {h : Hand ℚ τ}
    (hh : clock h.world ≤ deadline) :
    wp (W.transportWriteOnceThenVerify targets deadline operation)
      (fun _ h' w => Took deadline (7 / 100) (clock h.world) (clock h'.world) ∧
        Written targets deadline (clock h.world) w)
      (fun _ h' w => Took deadline (7 / 100) (clock h.world) (clock h'.world) ∧
        Written targets deadline (clock h.world) w) h [] := by
  rw [HandWorld.transportWriteOnceThenVerify, wp_bind]
  refine hW.wp_now fun w hw => ?_
  have hwindow : HandWorld.pyMin deadline
      (FloatArith.add (clock h.world) HandWorld.supervisedWriteResponseGraceS) =
        min deadline (clock h.world + 1 / 50) := by
    rw [pyMin_rat, grace_eq]
    rfl
  show wp (do
    let written ← attempt (W.transportWrite targets (HandWorld.pyMin deadline
      (FloatArith.add (clock h.world) HandWorld.supervisedWriteResponseGraceS))
      s!"{operation} write")
    _) _ _ _ _
  rw [hwindow]
  have hopen : clock w ≤ min deadline (clock h.world + 1 / 50) := by
    rw [hw]
    exact le_min hh (by linarith)
  refine wp_attempt_bind (hW.wp_transportWrite targets _ hopen) ?_
  rintro written h₁ w₁ ⟨hwrite, rfl⟩
  rw [show clock ({ h with world := w } : Hand ℚ τ).world = clock h.world from hw] at hwrite ⊢
  have hh₁ : clock h₁.world ≤ deadline := hwrite.honoured.trans (min_le_left _ _)
  have hread : ∀ operation, wp (W.transportReadTargets deadline operation)
      (fun _ h' w => Took deadline (7 / 100) (clock h.world) (clock h'.world) ∧
        Written targets deadline (clock h.world) w)
      (fun _ h' w => Took deadline (7 / 100) (clock h.world) (clock h'.world) ∧
        Written targets deadline (clock h.world) w) h₁
      ([] ++ [.writeDue (min deadline (clock h.world + 1 / 50)) (clock h.world),
        .write targets]) := by
    intro operation
    have hdone : ∀ (h' : Hand ℚ τ) (w' : List (HandEvent ℚ)),
        Took deadline (1 / 20) (clock h₁.world) (clock h'.world) ∧ Quiet w' →
        Took deadline (7 / 100) (clock h.world) (clock h'.world) ∧
          Written targets deadline (clock h.world) ([] ++
            [.writeDue (min deadline (clock h.world + 1 / 50)) (clock h.world), .write targets] ++
              w') := by
      rintro h' w' ⟨htook, hquiet⟩
      refine ⟨⟨hwrite.forward.trans htook.forward, htook.honoured, ?_⟩, _, w', rfl, hquiet, ?_,
        min_le_left _ _⟩
      · have hfirst := hwrite.bounded
        have hsecond := htook.bounded
        linarith
      · exact le_min hh (by linarith)
    rw [wp_shift]
    exact wp_mono (hW.wp_transportReadTargets operation hh₁) (fun _ h' w' => hdone h' w')
      fun _ h' w' => hdone h' w'
  refine wp_attempt_bind (hread _) ?_
  rintro readback h₂ w₂ hdone
  cases readback with
  | error e =>
    cases written with
    | error writeFailure =>
      rw [wp_fail]
      exact hdone
    | ok _ =>
      rw [wp_fail]
      exact hdone
  | ok readback =>
    rw [wp_bind, wp_check]
    refine ⟨fun _ => hdone, fun _ => ?_⟩
    rw [wp_ret]
    exact hdone

/-! ## The hold phase -/

/-- **The hold phase is within its time**, and no write has missed its window. -/
def Holding (clock : τ → ℚ) (lower upper : ℚ) (h : Hand ℚ τ) (t : List (HandEvent ℚ)) : Prop :=
  (lower ≤ clock h.world ∧ clock h.world ≤ upper) ∧ WindowsKept t

variable {lower upper : ℚ}

theorem keeps_holding {α : Type} {m : HandM ℚ τ α}
    (hm : ∀ h : Hand ℚ τ, clock h.world ≤ upper → wp m
      (fun _ h' w => (clock h.world ≤ clock h'.world ∧ clock h'.world ≤ upper) ∧ WindowsKept w)
      (fun _ h' w => (clock h.world ≤ clock h'.world ∧ clock h'.world ≤ upper) ∧ WindowsKept w)
      h []) :
    Keeps (Holding clock lower upper) m := by
  rintro h t ⟨⟨hlower, hupper⟩, hkept⟩
  rw [wp_shift]
  have hdone : ∀ (h' : Hand ℚ τ) (w : List (HandEvent ℚ)),
      (clock h.world ≤ clock h'.world ∧ clock h'.world ≤ upper) ∧ WindowsKept w →
      Holding clock lower upper h' (t ++ w) := by
    rintro h' w ⟨⟨hforward, hbelow⟩, hw⟩
    exact ⟨⟨hlower.trans hforward, hbelow⟩, hkept.append hw⟩
  exact wp_mono (hm h hupper) (fun _ h' w => hdone h' w) fun _ h' w => hdone h' w

theorem Punctual.keeps_transportReadTargets (hW : Punctual W clock least) (operation : String) :
    Keeps (Holding clock lower upper) (W.transportReadTargets upper operation) := by
  refine keeps_holding fun h hh => ?_
  have hdone : ∀ (h' : Hand ℚ τ) (w : List (HandEvent ℚ)),
      Took upper (1 / 20) (clock h.world) (clock h'.world) ∧ Quiet w →
      (clock h.world ≤ clock h'.world ∧ clock h'.world ≤ upper) ∧ WindowsKept w :=
    fun h' w hw => ⟨⟨hw.1.forward, hw.1.honoured⟩, windowsKept_of_quiet hw.2⟩
  exact wp_mono (hW.wp_transportReadTargets operation hh) (fun _ h' w => hdone h' w)
    fun _ h' w => hdone h' w

theorem Punctual.keeps_transportReadFeedback (hW : Punctual W clock least) (operation : String) :
    Keeps (Holding clock lower upper) (W.transportReadFeedback A upper operation) := by
  refine keeps_holding fun h hh => ?_
  have hdone : ∀ (h' : Hand ℚ τ) (w : List (HandEvent ℚ)),
      Took upper (1 / 10) (clock h.world) (clock h'.world) ∧ Quiet w →
      (clock h.world ≤ clock h'.world ∧ clock h'.world ≤ upper) ∧ WindowsKept w :=
    fun h' w hw => ⟨⟨hw.1.forward, hw.1.honoured⟩, windowsKept_of_quiet hw.2⟩
  exact wp_mono (hW.wp_transportReadFeedback operation hh) (fun _ h' w hw => hdone h' w hw.1)
    fun _ h' w => hdone h' w

theorem Written.windowsKept {targets : SixIntegers} {deadline now : ℚ} {w : List (HandEvent ℚ)}
    (h : Written targets deadline now w) : WindowsKept w := by
  obtain ⟨writeDeadline, rest, rfl, hquiet, hnow, -⟩ := h
  refine WindowsKept.append ?_ (windowsKept_of_quiet hquiet)
  intro d n hdue
  simp only [List.mem_cons, HandEvent.writeDue.injEq, reduceCtorEq, List.not_mem_nil, or_false]
    at hdue
  obtain ⟨rfl, rfl⟩ := hdue
  intro hlate
  exact absurd (of_decide_eq_true hlate) (not_lt.mpr hnow)

theorem Punctual.keeps_transportWriteOnceThenVerify (hW : Punctual W clock least)
    (targets : SixIntegers) (operation : String) :
    Keeps (Holding clock lower upper)
      (W.transportWriteOnceThenVerify targets upper operation) := by
  refine keeps_holding fun h hh => ?_
  have hdone : ∀ (h' : Hand ℚ τ) (w : List (HandEvent ℚ)),
      Took upper (7 / 100) (clock h.world) (clock h'.world) ∧
        Written targets upper (clock h.world) w →
      (clock h.world ≤ clock h'.world ∧ clock h'.world ≤ upper) ∧ WindowsKept w :=
    fun h' w hw => ⟨⟨hw.1.forward, hw.1.honoured⟩, hw.2.windowsKept⟩
  exact wp_mono (hW.wp_transportWriteOnceThenVerify targets operation hh)
    (fun _ h' w => hdone h' w) fun _ h' w => hdone h' w

theorem keeps_holding_modifyStop (f : StopLocals ℚ → StopLocals ℚ) :
    Keeps (Holding clock lower upper) (modifyStop f : HandM ℚ τ Unit) :=
  keeps_modifyStop fun _ _ h => h

theorem Punctual.keeps_pauseBefore (hW : Punctual W clock least) (hA : A.StopTimes) :
    Keeps (Holding clock lower upper) (W.pauseBefore A upper) := by
  refine keeps_holding fun h hh => ?_
  rw [HandWorld.pauseBefore, wp_bind]
  refine hW.wp_now fun w hw => ?_
  dsimp only
  rw [wp_ite]
  refine ⟨fun _ => ?_, fun hleft => ?_⟩
  · rw [wp_ret]
    refine ⟨⟨?_, ?_⟩, windowsKept_of_quiet quiet_nil⟩
    · exact hw.ge
    · exact hw.le.trans hh
  · have hleft : 0 < upper - clock h.world := by
      have hnot : ¬ upper - clock h.world ≤ 0 := fun h0 => hleft (decide_eq_true h0)
      exact not_le.mp hnot
    have hlast := hW.sleep (min A.stopVerifyIntervalS (upper - clock h.world)) w
      (le_min hA.interval hleft.le)
    rw [hw] at hlast
    have hpause : HandWorld.pyMin A.stopVerifyIntervalS (FloatArith.sub upper (clock h.world)) =
        min A.stopVerifyIntervalS (upper - clock h.world) := by
      rw [pyMin_rat]
      rfl
    have hdone : (clock h.world ≤ clock (W.sleep (min A.stopVerifyIntervalS
        (upper - clock h.world)) w).2 ∧ clock (W.sleep (min A.stopVerifyIntervalS
          (upper - clock h.world)) w).2 ≤ upper) := by
      refine ⟨hlast.1, hlast.2.trans ?_⟩
      have := min_le_right A.stopVerifyIntervalS (upper - clock h.world)
      linarith
    rw [wp_bind]
    show wp (callWorld (W.sleep (HandWorld.pyMin A.stopVerifyIntervalS
      (FloatArith.sub upper (clock h.world)))) : HandM ℚ τ Unit) _ _ _ _
    rw [hpause]
    refine wp_callWorld (fun _ w' hcall => ?_) fun _ w' hcall => ?_
    · rw [hcall] at hdone
      rw [wp_ret]
      exact ⟨hdone, windowsKept_of_quiet quiet_nil⟩
    · rw [hcall] at hdone
      exact ⟨hdone, windowsKept_of_quiet quiet_nil⟩

theorem Punctual.keeps_now (hW : Punctual W clock least) :
    Keeps (Holding clock lower upper) W.now := by
  refine keeps_callWorld fun h t hh => ?_
  unfold Holding
  rw [hW.still]
  exact hh

theorem Punctual.keeps_whileBefore (hW : Punctual W clock least) (hA : A.StopTimes)
    {round : HandM ℚ τ Bool} (hround : Keeps (Holding clock lower upper) round) (rounds : ℕ) :
    Keeps (Holding clock lower upper) (W.whileBefore A upper round rounds) := by
  induction rounds with
  | zero => exact keeps_ret _
  | succ rounds ih =>
    refine hW.keeps_now.bind fun now => ?_
    refine Keeps.ite (keeps_ret _) ?_
    refine hround.bind fun ended => ?_
    refine Keeps.ite (keeps_ret _) ?_
    refine (hW.keeps_pauseBefore hA).bind fun more => ?_
    exact Keeps.ite ih (keeps_ret _)

theorem Punctual.keeps_settleRound (hW : Punctual W clock least) (holdTarget : SixIntegers) :
    Keeps (Holding clock lower upper) (W.settleRound A holdTarget upper) := by
  refine keeps_read.bind fun h => ?_
  refine (hW.keeps_transportReadTargets _).bind fun readback => ?_
  refine (keeps_check _ _).bind fun _ => ?_
  refine (hW.keeps_transportReadFeedback _).bind fun feedback => ?_
  refine (keeps_holding_modifyStop _).bind fun _ => ?_
  exact (keeps_ofExcept _).bind fun _ =>
    keeps_settleSample (fun f _ => keeps_holding_modifyStop f) feedback

/-- **The hold phase** is over by its deadline, however it ends. -/
theorem Punctual.keeps_holdPhase (hW : Punctual W clock least) (hA : A.StopTimes) (rounds : ℕ) :
    Keeps (Holding clock lower upper) (W.holdPhase A upper rounds) := by
  refine (hW.keeps_transportReadFeedback _).bind fun seed => (keeps_ofExcept _).bind fun _ => ?_
  refine (keeps_ofExcept _).bind fun hold => ?_
  refine (hW.keeps_transportWriteOnceThenVerify _ _).bind fun _ => ?_
  refine (keeps_holding_modifyStop _).bind fun _ => ?_
  exact hW.keeps_whileBefore hA (hW.keeps_settleRound hold) rounds

/-! ## The end of the hold phase

A round that goes on has taken a feedback sample, so that the time a sample takes bounds the number
of rounds. -/

theorem Punctual.wp_settleRound (hW : Punctual W clock least) (holdTarget : SixIntegers)
    {h : Hand ℚ τ} {t : List (HandEvent ℚ)} (hh : Holding clock lower upper h t) :
    wp (W.settleRound A holdTarget upper)
      (fun _ h' t' => Holding clock (lower + least) upper h' t') (fun _ _ _ => True) h t := by
  rw [HandWorld.settleRound, wp_bind, wp_read]
  dsimp only
  refine (hW.keeps_transportReadTargets _).wp_bind hh (fun readback h₁ t₁ hh₁ => ?_)
    fun _ _ _ _ => trivial
  refine (keeps_check _ _).wp_bind hh₁ (fun _ h₁ t₁ hh₁ => ?_) fun _ _ _ _ => trivial
  have hread : ∀ operation, wp (W.transportReadFeedback A upper operation)
      (fun _ h' t' => Holding clock (lower + least) upper h' t') (fun _ _ _ => True) h₁ t₁ := by
    intro operation
    rw [wp_shift]
    refine wp_mono (hW.wp_transportReadFeedback operation hh₁.1.2) ?_ fun _ _ _ _ => trivial
    rintro _ h' w ⟨⟨htook, hquiet⟩, htime⟩
    refine ⟨⟨?_, htook.honoured⟩, hh₁.2.append (windowsKept_of_quiet hquiet)⟩
    have hlower := hh₁.1.1
    linarith
  rw [wp_bind]
  refine wp_mono (hread _) (fun feedback h₂ t₂ hh₂ => ?_) fun _ _ _ _ => trivial
  have hrest : Keeps (Holding clock (lower + least) upper) (do
      modifyStop fun L => { L with observedSamples := h.stop.observedSamples + 1 }
      ofExcept (A.validateStoppedFeedback feedback
        s!"stop settle sample {h.stop.observedSamples + 1}" false
        (some A.stopSettleMaxAxisCurrentMa))
      HandWorld.settleSample A feedback) := by
    refine (keeps_holding_modifyStop _).bind fun _ => (keeps_ofExcept _).bind fun _ => ?_
    exact keeps_settleSample (fun f _ => keeps_holding_modifyStop f) feedback
  exact wp_mono (hrest h₂ t₂ hh₂) (fun _ _ _ h => h) fun _ _ _ _ => trivial

/-- **A loop ends** once its rounds have taken the time up to the deadline. -/
theorem Punctual.wp_whileBefore_ends (hW : Punctual W clock least) (hA : A.StopTimes)
    {round : HandM ℚ τ Bool}
    (hround : ∀ lower h t, Holding clock lower upper h t →
      wp round (fun _ h' t' => Holding clock (lower + least) upper h' t') (fun _ _ _ => True) h t)
    (rounds : ℕ) {h : Hand ℚ τ} {t : List (HandEvent ℚ)} (hh : Holding clock lower upper h t)
    (henough : upper ≤ lower + rounds * least) :
    wp (W.whileBefore A upper round (rounds + 1)) (fun ended _ _ => ended = true)
      (fun _ _ _ => True) h t := by
  induction rounds generalizing lower h t with
  | zero =>
    rw [HandWorld.whileBefore, wp_bind]
    refine hW.wp_now fun w hw => ?_
    rw [wp_ite]
    refine ⟨fun _ => ?_, fun hbelow => ?_⟩
    · rw [wp_ret]
    · have hlt : clock h.world < upper := of_decide_eq_true (not_not.mp hbelow)
      have hlower := hh.1.1
      simp only [Nat.cast_zero, zero_mul, add_zero] at henough
      linarith
  | succ rounds ih =>
    rw [HandWorld.whileBefore]
    refine hW.keeps_now.wp_bind hh (fun now h₁ t₁ hh₁ => ?_) fun _ _ _ _ => trivial
    rw [wp_ite]
    refine ⟨fun _ => ?_, fun _ => ?_⟩
    · rw [wp_ret]
    · rw [wp_bind]
      refine wp_mono (hround lower h₁ t₁ hh₁) ?_ fun _ _ _ _ => trivial
      intro ended h₂ t₂ hh₂
      cases ended with
      | true => rw [if_pos rfl, wp_ret]
      | false =>
        rw [if_neg Bool.false_ne_true]
        refine (hW.keeps_pauseBefore hA).wp_bind hh₂ (fun more h₃ t₃ hh₃ => ?_)
          fun _ _ _ _ => trivial
        cases more with
        | true =>
          rw [if_pos rfl]
          refine ih hh₃ ?_
          push_cast at henough
          linarith
        | false => rw [if_neg Bool.false_ne_true, wp_ret]

theorem Punctual.wp_holdPhase_ends (hW : Punctual W clock least) (hA : A.StopTimes) (rounds : ℕ)
    {h : Hand ℚ τ} {t : List (HandEvent ℚ)} (hh : Holding clock lower upper h t)
    (henough : upper ≤ lower + rounds * least) :
    wp (W.holdPhase A upper (rounds + 1)) (fun ended _ _ => ended = true) (fun _ _ _ => True)
      h t := by
  rw [HandWorld.holdPhase]
  refine (hW.keeps_transportReadFeedback _).wp_bind hh (fun seed h₁ t₁ hh => ?_)
    fun _ _ _ _ => trivial
  refine (keeps_ofExcept _).wp_bind hh (fun _ h₁ t₁ hh => ?_) fun _ _ _ _ => trivial
  refine (keeps_ofExcept _).wp_bind hh (fun hold h₁ t₁ hh => ?_) fun _ _ _ _ => trivial
  refine (hW.keeps_transportWriteOnceThenVerify _ _).wp_bind hh (fun _ h₁ t₁ hh => ?_)
    fun _ _ _ _ => trivial
  refine (keeps_holding_modifyStop _).wp_bind hh (fun _ h₁ t₁ hh => ?_) fun _ _ _ _ => trivial
  exact hW.wp_whileBefore_ends hA (fun _ _ _ hh => hW.wp_settleRound hold hh) rounds hh henough

/-! ## The disable passes -/

/-- **A disable pass** that begins before its deadline issues its write. -/
theorem Punctual.wp_disablePass (hW : Punctual W clock least) {deadline : ℚ} (passIndex : ℕ)
    {h : Hand ℚ τ} (hh : clock h.world ≤ deadline) :
    wp (W.disablePass deadline passIndex)
      (fun _ h' w => Took deadline (7 / 100) (clock h.world) (clock h'.world) ∧
        Written disabledTargets deadline (clock h.world) w) (fun _ _ _ => False) h [] := by
  rw [HandWorld.disablePass]
  refine wp_attempt_bind (hW.wp_transportWriteOnceThenVerify disabledTargets _ hh) ?_
  intro outcome h₁ w hdone
  cases outcome with
  | ok _ =>
    rw [wp_modifyStop]
    exact hdone
  | error e =>
    rw [wp_modifyStop]
    exact hdone

/-- **Both disable writes are issued** in a trace: when each of them is due, which is not after the
deadline, and how far apart they are. -/
def BothIssued (settleDeadline deadline : ℚ) (t : List (HandEvent ℚ)) : Prop :=
  ∃ before first second after n₁ n₂, t = before ++ first ++ second ++ after ∧
    Written disabledTargets deadline n₁ first ∧ Written disabledTargets deadline n₂ second ∧
    n₁ ≤ settleDeadline ∧ n₂ ≤ deadline ∧ n₁ ≤ n₂ ∧ n₂ ≤ n₁ + 7 / 100

theorem BothIssued.append {settleDeadline deadline : ℚ} {t : List (HandEvent ℚ)}
    (h : BothIssued settleDeadline deadline t) (w : List (HandEvent ℚ)) :
    BothIssued settleDeadline deadline (t ++ w) := by
  obtain ⟨before, first, second, after, n₁, n₂, rfl, hrest⟩ := h
  exact ⟨before, first, second, after ++ w, n₁, n₂, by simp only [List.append_assoc], hrest⟩

/-- **After the hold phase** both passes are made in time. -/
theorem Punctual.wp_passes (hW : Punctual W clock least) {deadline : ℚ}
    (hsettle : upper ≤ deadline) {h : Hand ℚ τ} {t : List (HandEvent ℚ)}
    (hh : Holding clock lower upper h t) :
    wp (do
        HandWorld.settleTimeout
        W.disablePass deadline 1
        W.disablePass deadline 2
        ret (some deadline))
      (fun d h' t' => d = some deadline ∧ clock h'.world ≤ deadline ∧ WindowsKept t' ∧
        BothIssued upper deadline t')
      (fun _ _ _ => False) h t := by
  have htimeout : Keeps (Holding clock lower upper) (HandWorld.settleTimeout : HandM ℚ τ Unit) :=
    keeps_read.bind fun _ => Keeps.ite (keeps_holding_modifyStop _) (keeps_ret _)
  refine htimeout.wp_bind_total total_settleTimeout hh fun _ h₁ t₁ hh₁ => ?_
  have hfirst := hW.wp_disablePass 1 (hh₁.1.2.trans hsettle)
  rw [wp_bind, wp_shift]
  refine wp_mono hfirst ?_ fun _ _ _ h => h.elim
  rintro - h₂ w₁ ⟨htook₁, hwritten₁⟩
  rw [wp_bind, wp_shift]
  refine wp_mono (hW.wp_disablePass 2 htook₁.honoured) ?_ fun _ _ _ h => h.elim
  rintro - h₃ w₂ ⟨htook₂, hwritten₂⟩
  rw [wp_ret]
  refine ⟨rfl, htook₂.honoured,
    (hh₁.2.append hwritten₁.windowsKept).append hwritten₂.windowsKept, t₁, w₁, w₂, [], _, _, ?_,
    hwritten₁, hwritten₂, hh₁.1.2, htook₁.honoured, htook₁.forward, htook₁.bounded⟩
  rw [List.append_nil]

/-! ## The whole stop -/

/-- **A stop up to its second pass**: its hold phase has not ended, or both passes are made in time.
What is known of the end of the hold phase is a parameter. -/
theorem Punctual.wp_untilSecondReadback (hW : Punctual W clock least) (hA : A.StopTimes)
    {rounds : ℕ} {P : Bool → Prop} {deadline settleDeadline : ℚ} {h : Hand ℚ τ}
    (hdeadline : deadline = clock h.world + A.stopTimeoutS)
    (hsettle : settleDeadline = deadline - releaseReserveS A)
    (hends : ∀ h' t, Holding clock (clock h.world) settleDeadline h' t →
      wp (W.holdPhase A settleDeadline rounds) (fun ended _ _ => P ended) (fun _ _ _ => True) h' t) :
    wp (W.untilSecondReadback A rounds)
      (fun d h' t' => (d = none ∧ P false) ∨ (d = some deadline ∧ clock h'.world ≤ deadline ∧
        WindowsKept t' ∧ BothIssued settleDeadline deadline t'))
      (fun _ _ _ => False) h [] := by
  obtain ⟨hpos, hhalf, -⟩ := releaseReserveS_bounds hA
  have htimeout := hA.timeout
  rw [HandWorld.untilSecondReadback, wp_bind, wp_emit, wp_bind, wp_modifyStop, wp_bind]
  refine hW.wp_now fun w hw => ?_
  show wp (do
    let held ← attempt (W.holdPhase A (FloatArith.sub (FloatArith.add (clock h.world)
      A.stopTimeoutS) (releaseReserveS A)) rounds)
    _) _ _ _ _
  rw [FloatArith.add_rat, FloatArith.sub_rat, ← hdeadline, ← hsettle]
  have hopen : Holding clock (clock h.world) settleDeadline
      ({ h with stop := .init, world := w } : Hand ℚ τ) ([] ++ [.stopBegins]) := by
    refine ⟨⟨hw.ge, ?_⟩, windowsKept_of_quiet (quiet_singleton rfl)⟩
    show clock w ≤ settleDeadline
    rw [hw, hsettle, hdeadline]
    linarith
  have hbefore : settleDeadline ≤ deadline := by linarith
  rw [wp_bind, wp_attempt]
  refine wp_mono (wp_and (hW.keeps_holdPhase hA rounds _ _ hopen) (hends _ _ hopen)) ?_ ?_
  · rintro ended h₁ t₁ ⟨hh₁, hended⟩
    cases ended with
    | false =>
      rw [wp_ret]
      exact .inl ⟨rfl, hended⟩
    | true =>
      refine wp_mono (hW.wp_passes hbefore hh₁) ?_ fun _ _ _ h => h
      exact fun d h₂ t₂ hdone => .inr hdone
  · rintro e h₁ t₁ ⟨hh₁, -⟩
    dsimp only
    rw [wp_bind, wp_modifyStop]
    refine wp_mono (hW.wp_passes hbefore (h := { h₁ with stop := _ }) hh₁) ?_ fun _ _ _ h => h
    exact fun d h₂ t₂ hdone => .inr hdone

end Operations

/-- **Before the deadline**: both disable writes are issued while time is left. -/
def IssuedBefore (deadline : ℚ) (t : List (HandEvent ℚ)) : Prop :=
  ∃ before first second after n₁ n₂, t = before ++ first ++ second ++ after ∧
    Written disabledTargets deadline n₁ first ∧ Written disabledTargets deadline n₂ second ∧
    n₁ < deadline ∧ n₂ < deadline

theorem BothIssued.issuedBefore {settleDeadline deadline : ℚ} {t : List (HandEvent ℚ)}
    (h : BothIssued settleDeadline deadline t) (hroom : settleDeadline + 7 / 100 < deadline) :
    IssuedBefore deadline t := by
  obtain ⟨before, first, second, after, n₁, n₂, rfl, hfirst, hsecond, hn₁, -, -, hn₂⟩ := h
  exact ⟨before, first, second, after, n₁, n₂, rfl, hfirst, hsecond, by linarith, by linarith⟩

theorem wp_of_bothIssued {α : Type} {settleDeadline deadline : ℚ} (m : HandM ℚ τ α) {h : Hand ℚ τ}
    {t : List (HandEvent ℚ)} (ht : BothIssued settleDeadline deadline t) :
    wp m (fun _ _ t' => BothIssued settleDeadline deadline t')
      (fun _ _ t' => BothIssued settleDeadline deadline t') h t := by
  rw [wp_shift]
  exact wp_mono (wp_top m h []) (fun _ _ w _ => ht.append w) fun _ _ w _ => ht.append w

structure SlowHand where
  time : ℚ
  registers : SixIntegers

/-- Spend the time of a transport call: it answers if the time is up by the deadline, and gives up at
the deadline otherwise. -/
def SlowHand.spend {α : Type} (w : SlowHand) (cost deadline : ℚ) (answer : α) :
    Except PyException α × SlowHand :=
  if w.time + cost ≤ deadline then (.ok answer, { w with time := w.time + cost })
  else (.error (transportError "no response before the deadline"), { w with time := deadline })

def slowFeedback (captured : ℚ) : RH56SafetyFeedback ℚ := restingSample captured rfl

def slowHand : HandWorld ℚ SlowHand where
  monotonic w := (⟨w.time, rfl⟩, w)
  sleep seconds w := (.ok (), { w with time := w.time + seconds })
  writeAngleSet targets deadline w := { w with registers := targets }.spend (1 / 50) deadline ()
  readAngleSet deadline w := w.spend (1 / 20) deadline (rawOf w.registers)
  readSafetyFeedback deadline w :=
    w.spend (1 / 10) deadline (some (slowFeedback (w.time + 1 / 10)))
  requireMotion _ _ w := (.ok (), w)
  ledgerPending w := (none, w)
  ledgerAcknowledge _ _ w := (.ok false, w)
  ledgerFail _ _ w := (.ok (), w)
  angleSet w := w.registers

theorem SlowHand.took_spend {α : Type} {w : SlowHand} {cost deadline bound : ℚ} (answer : α)
    (hcost : 0 ≤ cost) (hbound : cost = bound) (hw : w.time ≤ deadline) :
    Took deadline bound w.time (w.spend cost deadline answer).2.time := by
  subst hbound
  unfold spend
  by_cases hin : w.time + cost ≤ deadline
  · rw [if_pos hin]
    exact ⟨by linarith, hin, le_rfl⟩
  · rw [if_neg hin]
    exact ⟨hw, le_rfl, (not_le.mp hin).le⟩

theorem punctual_slowHand : Punctual slowHand SlowHand.time (1 / 10) where
  shows _ := rfl
  still _ := rfl
  sleep _ w hd := ⟨le_add_of_nonneg_right hd, le_rfl⟩
  writeAngleSet targets _ w hw :=
    SlowHand.took_spend (w := { w with registers := targets }) () (by norm_num) grace_eq.symm hw
  readAngleSet _ w hw :=
    SlowHand.took_spend _ (by norm_num) exchangeTimeout_eq.symm hw
  readSafetyFeedback _ w hw :=
    SlowHand.took_spend _ (by norm_num) (by rw [exchangeTimeout_eq]; norm_num) hw
  takesTime deadline w f hf := by
    change (w.spend (1 / 10) deadline (some (slowFeedback (w.time + 1 / 10)))).1 = _ at hf
    show w.time + 1 / 10 ≤ (w.spend (1 / 10) deadline (some (slowFeedback (w.time + 1 / 10)))).2.time
    unfold SlowHand.spend at hf ⊢
    by_cases hin : w.time + 1 / 10 ≤ deadline
    · rw [if_pos hin]
    · rw [if_neg hin] at hf
      cases hf
  least_pos := by norm_num

def slowConfig (stopTimeoutS : ℚ) : ActuatorConfig ℚ where
  commandWatchdogTimeoutS := 15 / 100
  supervisedInterCommandWatchdogTimeoutS := 15 / 100
  maximumFeedbackAgeS := 15 / 100
  maximumRunningAxisCurrentMa := 1000
  maximumTemperatureC := 70
  stopTimeoutS := stopTimeoutS
  stopVerifySamples := 3
  stopVerifyIntervalS := 20 / 1000
  stopMaxAxisCurrentMa := 100
  stopSettleMaxAxisCurrentMa := 1000
  stopMaxAngleDriftUnits := 3
  stopMaxPositionDriftUnits := 3
  feedbackToCommandOffsetUnits := fun _ => 0
  stopHoldCommandMinimum := fun _ => 0
  stopHoldCommandMaximum := fun _ => 1000
  samples_within := by decide
  hold_within := wholeRange_within

theorem stopTimes_slowConfig {stopTimeoutS : ℚ} (h : 0 < stopTimeoutS) :
    (slowConfig stopTimeoutS).StopTimes where
  timeout := h
  interval := by
    show (0 : ℚ) ≤ 20 / 1000
    norm_num

def slowStart : Hand ℚ SlowHand where
  actuator := {
    state := .armed
    faultReason := none
    stopConfirmed := false
    runId := some "run"
    safetyGate := true
    pendingSequence := none
    lastAcknowledgedSequence := 0
    lastCommandMonotonicS := none
    lastFeedbackMonotonicS := none
    supervisedSession := true
    supervisedAwaitingFirstNumericCommand := false
    lastSupervisedTarget := none }
  stop := .init
  world := ⟨0, fun _ => 400⟩

def dueBefore (deadline : ℚ) (t : List (HandEvent ℚ)) : ℕ :=
  t.countP fun
    | .writeDue _ now => now < deadline
    | _ => false

theorem IssuedBefore.two_le_dueBefore {deadline : ℚ} {t : List (HandEvent ℚ)}
    (h : IssuedBefore deadline t) : 2 ≤ dueBefore deadline t := by
  obtain ⟨before, first, second, after, n₁, n₂, rfl, hfirst, hsecond, hn₁, hn₂⟩ := h
  have hone : ∀ {now : ℚ} {w : List (HandEvent ℚ)}, Written disabledTargets deadline now w →
      now < deadline → 1 ≤ dueBefore deadline w := by
    rintro now _ ⟨writeDeadline, rest, rfl, -⟩ hnow
    refine List.countP_pos_iff.mpr ⟨.writeDue writeDeadline now, ?_, decide_eq_true hnow⟩
    simp
  have hfirst := hone hfirst hn₁
  have hsecond := hone hsecond hn₂
  unfold dueBefore at *
  simp only [List.countP_append]
  omega

end FrankaDeploy.Rh56
