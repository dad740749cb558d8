import FrankaDeploy.Rh56Owner.SettleAdmission
import FrankaDeploy.Rh56Owner.Worker

/-! # The deadline of a settle

The worker raises when it reads the clock at or after the deadline of an active settle, whether or
not every challenge has been verified. What is latched is right only where the caller has asked for
the stop by then. -/

namespace FrankaDeploy.Rh56Owner

open FrankaDeploy.Foundation FrankaDeploy.Foundation.Monitor FrankaDeploy.Rh56
open scoped FloatArith

variable {D : Type} [FloatArith D]

/-! ## The law -/

def Owner.Unverified (o : Owner D) : Prop :=
  ∃ axis, (o.shared.tracking.axes axis).unverified = true

def Expires (events : List OwnerEvent) : Prop :=
  .settleExpired ∈ events ∨ .faultLatched (some .settleExpired) ∈ events

/-- **A settle expires only unverified**: whenever a step of the run raises or latches the expiry,
some challenged axis is still unverified. -/
def ExpiresOnlyUnverified (C : OwnerConfig D) (steps : List (OwnerStep D)) : Prop :=
  Everywhere (fun pre step => Expires ((runOwner C pre).1.perform C step).2 →
    (runOwner C pre).1.Unverified) steps

/-- **The caller ends its settle in time**: when the worker reads the clock at or after the deadline
of an active settle, the stop has been requested, or some challenged axis is still unverified. -/
def EndsInTime (o : Owner D) (step : OwnerStep D) : Prop :=
  ∀ l input, o.worker = .top l → step = .work input → o.shared.settleActive = true →
    settleOver o.shared.settleDeadlineS input.now = true →
    o.shared.stopRequested = true ∨ o.Unverified

instance (o : Owner D) : Decidable o.Unverified :=
  inferInstanceAs (Decidable (∃ axis, (o.shared.tracking.axes axis).unverified = true))

def endsInTime (o : Owner D) (step : OwnerStep D) : Bool :=
  match o.worker, step with
  | .top _, .work input => !o.shared.settleActive ||
      !settleOver o.shared.settleDeadlineS input.now || o.shared.stopRequested ||
      decide o.Unverified
  | _, _ => true

theorem endsInTime_iff (o : Owner D) (step : OwnerStep D) :
    EndsInTime o step ↔ endsInTime o step = true := by
  constructor
  · intro h
    unfold endsInTime
    split
    · rename_i l input hworker
      have hends := h l input hworker rfl
      simp only [Bool.or_eq_true, Bool.not_eq_true', decide_eq_true_eq]
      cases hactive : o.shared.settleActive with
      | false => exact .inl (.inl (.inl rfl))
      | true =>
        cases hover : settleOver o.shared.settleDeadlineS input.now with
        | false => exact .inl (.inl (.inr rfl))
        | true =>
          rcases hends hactive hover with hrequested | hunverified
          · exact .inl (.inr hrequested)
          · exact .inr hunverified
    · rfl
  · intro h l input hworker hstep hactive hover
    subst hstep
    simp only [endsInTime, hworker, hactive, hover, Bool.not_true, Bool.false_or, Bool.or_eq_true,
      decide_eq_true_eq] at h
    exact h

instance (o : Owner D) (step : OwnerStep D) : Decidable (EndsInTime o step) :=
  decidable_of_iff' _ (endsInTime_iff o step)

/-! ## Sections -/

def WorkerPoint.expiring : WorkerPoint D → Prop
  | .checking _ settleActive settleDeadlineS stopRequested now =>
    settleActive = true ∧ stopRequested = false ∧ settleOver settleDeadlineS now = true
  | .raising cause => cause = .settleExpired
  | .publishing _ cause _ => cause = some .settleExpired
  | _ => False

structure Quiet (next : Owner D × List OwnerEvent) : Prop where
  worker : ¬next.1.worker.expiring
  events : ¬Expires next.2

theorem not_expires_complete (s : Shared D) (ticket : TicketId) (completion : Completion)
    (rest : List OwnerEvent) (h : ¬Expires rest) :
    ¬Expires ((s.complete ticket completion).2 ++ rest) := by
  unfold Shared.complete
  split
  · simpa [Expires] using h
  · exact h

theorem not_expires_reject (o : Owner D) (request : Option Request) (message : String)
    (rest : List OwnerEvent) (h : ¬Expires rest) :
    ¬Expires ((o.reject request message).2 ++ rest) := by
  cases request with
  | none => exact h
  | some request => exact not_expires_complete _ _ _ _ h

section Sections

variable (C : OwnerConfig D) (o : Owner D) (input : WorkerInput D) (l : LoopTimes D)

theorem quiet_openSession : Quiet (o.openSession C input) := by
  unfold Owner.openSession
  split
  · exact ⟨by simp [Owner.goto, WorkerPoint.expiring], by simp [Expires]⟩
  · dsimp only
    split_ifs <;> exact ⟨by simp [WorkerPoint.expiring], by simp [Expires]⟩

theorem quiet_bootstrap (left : ℕ) : Quiet (o.bootstrap C input left) := by
  unfold Owner.bootstrap
  split
  · exact ⟨by simp [Owner.goto, WorkerPoint.expiring], by simp [Expires]⟩
  cases left with
  | zero =>
    dsimp only
    split
    · exact ⟨by simp [Owner.goto, WorkerPoint.expiring], by simp [Expires]⟩
    · split <;> exact ⟨by simp [Owner.goto, WorkerPoint.expiring], by simp [Expires]⟩
  | succ left =>
    dsimp only
    split
    · constructor
      · simp [WorkerPoint.expiring]
      · split <;> simp [Expires]
    · constructor
      · dsimp only
        split <;> simp [WorkerPoint.expiring]
      · simp [Expires]

theorem quiet_select (now : D) : Quiet (o.select C input l now) := by
  unfold Owner.select
  split
  · exact ⟨by simp [Owner.goto, WorkerPoint.expiring], by simp [Expires]⟩
  dsimp only
  split_ifs
  · exact ⟨by simp [Owner.goto, WorkerPoint.expiring], by simp [Expires]⟩
  · exact ⟨by simp [Owner.goto, WorkerPoint.expiring], by simp [Expires]⟩
  · exact ⟨by simp [Owner.goto, WorkerPoint.expiring], by simp [Expires]⟩
  · exact ⟨by simp [Owner.goto, WorkerPoint.expiring], by simp [Expires]⟩
  all_goals
    split <;> exact ⟨by simp [Owner.goto, WorkerPoint.expiring], by simp [Expires]⟩

theorem quiet_settle : Quiet (o.settle C input l) := by
  unfold Owner.settle
  split
  · exact ⟨by simp [Owner.goto, WorkerPoint.expiring], by simp [Expires]⟩
  · split_ifs <;> exact ⟨by simp [Owner.goto, WorkerPoint.expiring], by simp [Expires]⟩

theorem quiet_stop (request : Option Request) : Quiet (o.stop input request) := by
  have hevents := not_expires_reject o request
    "RH56 owner stopped before queued sequence executed" [.stopOperation] (by simp [Expires])
  unfold Owner.stop
  dsimp only
  split
  · exact ⟨by simp [WorkerPoint.expiring], hevents⟩
  · exact ⟨by simp [WorkerPoint.expiring], hevents⟩

theorem quiet_watchdog (request : Option Request) : Quiet (o.watchdog request) := by
  have hevents := not_expires_reject o request "RH56 watchdog expired before queued execution" []
    (by simp [Expires])
  rw [List.append_nil] at hevents
  exact ⟨by simp [Owner.watchdog, Owner.goto, WorkerPoint.expiring], hevents⟩

theorem quiet_feedbackStale (request : Option Request) : Quiet (o.feedbackStale request) := by
  have hevents := not_expires_reject o request
    "RH56 complete feedback became stale before queued execution" [] (by simp [Expires])
  rw [List.append_nil] at hevents
  exact ⟨by simp [Owner.feedbackStale, Owner.goto, WorkerPoint.expiring], hevents⟩

theorem quiet_afterFirstWait : Quiet (o.afterFirstWait l) := by
  unfold Owner.afterFirstWait
  split <;> exact ⟨by simp [Owner.goto, WorkerPoint.expiring], by simp [Expires]⟩

theorem quiet_poll : Quiet (o.poll C input l) := by
  unfold Owner.poll
  split
  · constructor
    · simp [WorkerPoint.expiring]
    · split <;> simp [Expires]
  · constructor
    · dsimp only
      split <;> simp [WorkerPoint.expiring]
    · simp [Expires]

theorem quiet_execute (request : Request) : Quiet (o.execute C input l request) := by
  have hstopped : ¬Expires (if input.cleanup = true ∧ C.supervisedTargetOnly = false then
      [OwnerEvent.stopOperation] else []) := by
    split <;> simp [Expires]
  unfold Owner.execute
  dsimp only
  split
  · exact ⟨by simp [failedRequest, WorkerPoint.expiring], hstopped⟩
  split
  · split
    · exact ⟨by simp [WorkerPoint.expiring], by simp [Expires]⟩
    · split
      · exact ⟨by simp [failedRequest, WorkerPoint.expiring], by simp [Expires]⟩
      · exact ⟨by simp [WorkerPoint.expiring], by simp [Expires]⟩
  · split
    · exact ⟨by simp [failedRequest, WorkerPoint.expiring], hstopped⟩
    · split
      · exact ⟨by simp [failedRequest, WorkerPoint.expiring], by simp [Expires]⟩
      · refine ⟨by simp [WorkerPoint.expiring], ?_⟩
        have hcompleted := fun (s : Shared D) =>
          not_expires_complete s request.ticket .receipt [] (by simp [Expires])
        simp only [List.append_nil] at hcompleted
        simpa [Expires] using hcompleted _

theorem quiet_acknowledge (request : Request) : Quiet (o.acknowledge l request) := by
  have hevents := not_expires_complete o.shared request.ticket .receipt [] (by simp [Expires])
  rw [List.append_nil] at hevents
  exact ⟨by simp [Owner.acknowledge, Owner.goto, WorkerPoint.expiring], hevents⟩

theorem quiet_sampleAfterAck (request : Request) : Quiet (o.sampleAfterAck C input l request) := by
  unfold Owner.sampleAfterAck
  split_ifs
  · exact ⟨by simp [Owner.goto, failedRequest, WorkerPoint.expiring], by simp [Expires]⟩
  · split
    · exact ⟨by simp [failedRequest, WorkerPoint.expiring], by simp [Expires]⟩
    · constructor
      · dsimp only
        split <;> simp [failedRequest, WorkerPoint.expiring]
      · simp [Expires]
  · exact ⟨by simp [Owner.goto, WorkerPoint.expiring], by simp [Expires]⟩

theorem quiet_report (reason : String) (request : Option Request) (callback : Bool)
    (next : AfterFault) : Quiet (o.report reason request callback next) := by
  refine ⟨by simp [Owner.report, Owner.goto, WorkerPoint.expiring], ?_⟩
  refine not_expires_reject o request reason _ ?_
  split <;> simp [Expires]

theorem quiet_handle (next : AfterFault) : Quiet (o.handle input next) := by
  unfold Owner.handle
  cases next with
  | expire thenRaise =>
    constructor
    · dsimp only
      split <;> simp [WorkerPoint.expiring]
    · simp [Expires]
  | execute request e =>
    have hevents := fun (s : Shared D) => not_expires_complete s request.ticket (.error e) []
      (by simp [Expires])
    simp only [List.append_nil] at hevents
    dsimp only
    split_ifs
    · exact ⟨by simp [WorkerPoint.expiring], hevents _⟩
    · refine ⟨by simp [WorkerPoint.expiring], ?_⟩
      simpa [Expires] using hevents _
    · exact ⟨by simp [WorkerPoint.expiring], hevents _⟩
  | outer => exact ⟨by simp [Owner.goto, WorkerPoint.expiring], by simp [Expires]⟩
  | finalDisable e => exact ⟨by simp [Owner.goto, WorkerPoint.expiring], by simp [Expires]⟩
  | close => exact ⟨by simp [Owner.goto, WorkerPoint.expiring], by simp [Expires]⟩

theorem quiet_outerStop : Quiet (o.outerStop input) := by
  unfold Owner.outerStop
  split
  · exact ⟨by simp [Owner.goto, WorkerPoint.expiring], by simp [Expires]⟩
  · dsimp only
    split_ifs <;> exact ⟨by simp [Owner.goto, WorkerPoint.expiring], by simp [Expires]⟩

theorem quiet_finish : Quiet (o.finish input) := by
  unfold Owner.finish
  split
  · exact ⟨by simp [Owner.goto, WorkerPoint.expiring], by simp [Expires]⟩
  · split
    · dsimp only
      split <;> exact ⟨by simp [WorkerPoint.expiring], by simp [Expires]⟩
    · exact ⟨by simp [Owner.goto, WorkerPoint.expiring], by simp [Expires]⟩

theorem quiet_close : Quiet (o.close input) := by
  unfold Owner.close
  dsimp only
  split <;> exact ⟨by simp [Owner.goto, WorkerPoint.expiring], by simp [Expires]⟩

end Sections

/-! ## Steps -/

variable {C : OwnerConfig D} {o : Owner D}

structure Guarded (o : Owner D) (next : Owner D × List OwnerEvent) : Prop where
  worker : next.1.worker.expiring → next.1.Unverified
  events : Expires next.2 → o.Unverified

theorem Quiet.guarded {next : Owner D × List OwnerEvent} (h : Quiet next) : Guarded o next :=
  ⟨fun hworker => absurd hworker h.worker, fun hevents => absurd hevents h.events⟩

theorem guarded_work (hinv : o.worker.expiring → o.Unverified) (input : WorkerInput D)
    (hends : EndsInTime o (.work input)) : Guarded o (o.work C input) := by
  unfold Owner.work
  cases hworker : o.worker with
  | created => exact ⟨fun h => hinv h, fun h => absurd h (by simp [Expires])⟩
  | opening => exact (quiet_openSession C o input).guarded
  | bootstrap left => exact (quiet_bootstrap C o input left).guarded
  | top l =>
    -- the flags are read: the caller has asked for the stop, or an axis is unverified
    refine ⟨fun h => ?_, fun h => absurd h (by simp [Owner.loopTop, Expires])⟩
    obtain ⟨hactive, hstop, hover⟩ := h
    rcases hends l input hworker rfl hactive hover with hrequested | hunverified
    · exact absurd (hrequested.symm.trans hstop) (by decide)
    · exact hunverified
  | checking l settleActive settleDeadlineS stopRequested now =>
    dsimp only
    unfold Owner.checkSettle
    by_cases hsettle : settleActive = true ∧ stopRequested = false
    · rw [if_pos hsettle]
      by_cases hover : settleOver settleDeadlineS now = true
      · -- the expiry is raised from the point that the flags have led to
        have hunverified : o.Unverified := by
          refine hinv ?_
          rw [hworker]
          exact ⟨hsettle.1, hsettle.2, hover⟩
        rw [if_pos hover]
        exact ⟨fun _ => hunverified, fun _ => hunverified⟩
      · rw [if_neg hover]
        refine Quiet.guarded ?_
        split <;> exact ⟨by simp [Owner.goto, WorkerPoint.expiring], by simp [Expires]⟩
    · rw [if_neg hsettle]
      exact Quiet.guarded ⟨by simp [Owner.goto, WorkerPoint.expiring], by simp [Expires]⟩
  | selecting l now => exact (quiet_select C o input l now).guarded
  | settling l => exact (quiet_settle C o input l).guarded
  | stopping request => exact (quiet_stop o input request).guarded
  | expired request => exact (quiet_watchdog o request).guarded
  | stale request => exact (quiet_feedbackStale o request).guarded
  | awaitingFirst l => exact (quiet_afterFirstWait o l).guarded
  | polling l => exact (quiet_poll C o input l).guarded
  | executing l request => exact (quiet_execute C o input l request).guarded
  | acknowledged l request => exact (quiet_acknowledge o l request).guarded
  | sampling l request => exact (quiet_sampleAfterAck C o input l request).guarded
  | publishing reason cause next =>
    refine ⟨fun h => (by cases h), fun h => hinv ?_⟩
    rw [hworker]
    simp only [Owner.publish, Shared.publishFault, Expires] at h
    split at h
    · simp at h
    · simpa [WorkerPoint.expiring, eq_comm] using h
  | reporting reason request callback next =>
    exact (quiet_report o reason request callback next).guarded
  | handling next => exact (quiet_handle o input next).guarded
  | raising cause =>
    dsimp only
    unfold Owner.catch
    split
    · refine ⟨fun h => ?_, fun h => absurd h (by simp [Expires])⟩
      have hunverified : o.Unverified := by
        refine hinv ?_
        rw [hworker]
        exact Option.some.inj h
      exact hunverified
    · exact Quiet.guarded ⟨by simp [Owner.goto, WorkerPoint.expiring], by simp [Expires]⟩
  | outerStop => exact (quiet_outerStop o input).guarded
  | finishing => exact (quiet_finish o input).guarded
  | closing => exact (quiet_close o input).guarded
  | last =>
    exact Quiet.guarded
      ⟨by simp [Owner.finalSection, Owner.goto, WorkerPoint.expiring],
        by simp [Owner.finalSection, Expires]⟩
  | ended => exact ⟨fun h => hinv h, fun h => absurd h (by simp [Expires])⟩

theorem submit_tracking (s : Shared D) (sequence : ℕ) :
    (s.submit sequence).2.1.tracking = s.tracking ∧ ¬Expires (s.submit sequence).2.2 := by
  unfold Shared.submit
  split
  · exact ⟨rfl, by simp [Expires]⟩
  · split_ifs <;> exact ⟨rfl, by simp [Expires]⟩

theorem beginFinalTrackingSettle_tracking (s : Shared D) (now : D) :
    (s.beginFinalTrackingSettle C now).2.tracking = s.tracking := by
  unfold Shared.beginFinalTrackingSettle
  split
  · rfl
  split
  · rfl
  split_ifs
  · rfl
  · rfl
  · rfl
  · rfl
  · split <;> rfl

theorem settleWake_tracking (s : Shared D) (timedOut : Bool) :
    (s.settleWake timedOut).2.tracking = s.tracking := by
  unfold Shared.settleWake
  split_ifs <;> rfl

theorem guarded_perform (hinv : o.worker.expiring → o.Unverified) (step : OwnerStep D)
    (hends : EndsInTime o step) : Guarded o (o.perform C step) := by
  -- a call keeps the worker where it is, and the tracking as it is
  have hcall : ∀ (shared : Shared D) (events : List OwnerEvent),
      shared.tracking = o.shared.tracking → ¬Expires events →
      Guarded o ({ o with shared := shared }, events) := by
    intro shared events htracking hevents
    refine ⟨fun h => ?_, fun h => absurd h hevents⟩
    obtain ⟨axis, haxis⟩ := hinv h
    exact ⟨axis, by rw [htracking]; exact haxis⟩
  have hnone : ¬Expires [] := by simp [Expires]
  cases step with
  | start =>
    simp only [Owner.perform]
    split
    · exact Quiet.guarded ⟨by simp [WorkerPoint.expiring], hnone⟩
    · exact hcall o.shared [] rfl hnone
  | submit sequence =>
    obtain ⟨htracking, hevents⟩ := submit_tracking o.shared sequence
    exact hcall _ _ htracking hevents
  | beginSettle now => exact hcall _ _ (beginFinalTrackingSettle_tracking _ now) hnone
  | wake timedOut =>
    simp only [Owner.perform]
    split
    · exact hcall _ _ (settleWake_tracking _ timedOut) hnone
    · exact hcall o.shared [] rfl hnone
  | requestStop => exact hcall _ _ rfl hnone
  | ledger pending committed => exact hcall _ _ rfl hnone
  | work input => exact guarded_work hinv input hends

theorem run_expiring (steps : List (OwnerStep D))
    (h : Everywhere (fun pre => EndsInTime (runOwner C pre).1) steps) :
    (runOwner C steps).1.worker.expiring → (runOwner C steps).1.Unverified := by
  induction steps using List.reverseRecOn with
  | nil =>
    intro hexpiring
    cases hexpiring
  | append_singleton steps step ih =>
    obtain ⟨hbefore, hlast⟩ := h.of_snoc
    rw [runOwner_snoc]
    exact (guarded_perform (ih hbefore) step hlast).worker

/-- **Settle expiry.** In every run whose caller ends its settle in time, the worker raises and
latches the expiry only while some challenged axis is unverified. -/
theorem settle_expires_only_unverified (C : OwnerConfig D) (steps : List (OwnerStep D))
    (h : Everywhere (fun pre => EndsInTime (runOwner C pre).1) steps) :
    ExpiresOnlyUnverified C steps := by
  intro pre step post hsplit hexpires
  have hpre : Everywhere (fun pre => EndsInTime (runOwner C pre).1) pre := by
    intro before step' after hbefore
    refine h before step' (after ++ step :: post) ?_
    rw [hsplit, hbefore, List.append_assoc, List.cons_append]
  exact (guarded_perform (run_expiring pre hpre) step (h pre step post hsplit)).events hexpires

/-! ## A caller that comes late -/

def benchOwner : OwnerConfig Binary64 where
  tracking := defaultTracking
  supervisedTargetOnly := true
  feedbackPeriodS := FloatArith.ofRat (1 / 32)
  feedbackHardAgeS := FloatArith.ofRat (1 / 16)
  bootstrapFeedbackSamples := 2
  faultCallback := true
  period_within := by decide +kernel
  bootstrap_within := by decide

/-- The sample after `k` periods, with the first axis moved after the first. -/
def sampleAt (k : ℕ) : RH56SafetyFeedback Binary64 :=
  let captured : Binary64 := FloatArith.ofRat (1 + k / 32)
  if h : FloatArith.isFinite captured = true then
    { (if k = 0 then closedSample else movedSample) with
      capturedMonotonicS := captured, captured_finite := h }
  else closedSample

/-- What the world gives a section after `k` periods: nothing fails, and the heartbeat is alive. -/
def inputAt (k : ℕ) : WorkerInput Binary64 where
  now := FloatArith.ofRat (1 + k / 32)
  later := FloatArith.ofRat (1 + k / 32)
  deadline := some (FloatArith.ofRat 3)
  awaitingFirst := k = 0
  result := .ok ()
  claimed := true
  sample := .ok (sampleAt k)
  cached := FloatArith.ofRat (1 + k / 32)
  realtime := FloatArith.ofRat 1000
  write := some (benchTargets 600 500, FloatArith.ofRat 1)
  report := .ok (some true)
  second := .ok true
  view := ⟨.armed, false⟩
  cleanup := false
  maximumFeedbackAgeS := FloatArith.ofRat (1 / 16)
  interCommandTimeoutS := FloatArith.ofRat (3 / 20)

def sectionsAt (k sections : ℕ) : List (OwnerStep Binary64) :=
  List.replicate sections (.work (inputAt k))

/-- A target is committed, a settle is begun, and the first poll verifies its axis. The caller does
not come back: the worker polls until the deadline. -/
def lateSteps : List (OwnerStep Binary64) :=
  [.start] ++ sectionsAt 0 4 ++ [.ledger (some 1) 0, .submit 1] ++ sectionsAt 0 6 ++
    [.ledger none 1, .beginSettle (FloatArith.ofRat 1)] ++ sectionsAt 0 4 ++ [.wake false] ++
    (List.range 25).flatMap (fun k => sectionsAt (k + 1) 4) ++ sectionsAt 26 1

/-- **A verified hand is faulted** by a caller that comes after the deadline. -/
theorem late_settle_expires_verified :
    ¬∀ (C : OwnerConfig Binary64) (steps : List (OwnerStep Binary64)),
      ExpiresOnlyUnverified C steps := by
  intro h
  have hexpires : ((runOwner benchOwner lateSteps).1.perform benchOwner
      (.work (inputAt 26))).2 = [.settleExpired] := by
    decide +kernel
  have hverified : ∀ axis,
      ((runOwner benchOwner lateSteps).1.shared.tracking.axes axis).unverified = false := by
    decide +kernel
  obtain ⟨axis, haxis⟩ := h benchOwner (lateSteps ++ [.work (inputAt 26)]) lateSteps _ [] rfl
    (by rw [hexpires]; exact .inl (List.mem_singleton.mpr rfl))
  exact absurd (haxis.symm.trans (hverified axis)) (by decide)

def promptSteps : List (OwnerStep Binary64) :=
  [.start] ++ sectionsAt 0 4 ++ [.ledger (some 1) 0, .submit 1] ++ sectionsAt 0 6 ++
    [.ledger none 1, .beginSettle (FloatArith.ofRat 1)] ++ sectionsAt 0 4 ++ [.wake false] ++
    sectionsAt 1 4 ++ [.requestStop] ++ sectionsAt 26 8

theorem prompt_settle_does_not_expire : ExpiresOnlyUnverified benchOwner promptSteps :=
  settle_expires_only_unverified benchOwner promptSteps
    (everywhere_of_forall_lt (by decide +kernel))

end FrankaDeploy.Rh56Owner
