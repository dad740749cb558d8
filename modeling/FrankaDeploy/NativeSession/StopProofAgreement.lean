import FrankaDeploy.NativeSession.StopProofDecode
import FrankaDeploy.Foundation.Ieee754

/-! # Soundness of the stop proof and agreement of both sides

For doubles: what the child's idle flag means, and that the parent's independent verdict is the
same for every payload that `cleanup_robot` can produce. -/

namespace FrankaDeploy.NativeSession

open FrankaDeploy.Foundation FrankaDeploy.Servo
open scoped FloatArith

/-! ## Velocities within the threshold -/

theorem zero_le_stopMaximum :
    (FloatArith.zero : Binary64) ≤ FloatArith.ofRat HardSafetyLimits.stopMaximumVelocityRadS := by
  decide +kernel

theorem maxAbs_le_iff {n : ℕ} (v : Vec n Binary64) (hv : v.allFinite = true) {c : Binary64}
    (hc : FloatArith.zero ≤ c) : maxAbs v ≤ c ↔ ∀ i, FloatArith.abs (v i) ≤ c := by
  have hfold : maxAbs v = ((List.finRange n).map fun i => FloatArith.abs (v i)).foldl
      FloatArith.stdMax FloatArith.zero := by
    rw [List.foldl_map]
    rfl
  have hnan : ∀ x ∈ (List.finRange n).map (fun i => FloatArith.abs (v i)), x.isNaN = false := by
    intro x hx
    obtain ⟨i, -, rfl⟩ := List.mem_map.mp hx
    exact (Ieee.isNaN_abs (v i)).trans (Ieee.isNaN_of_isFinite ((Vec.allFinite_iff v).mp hv i))
  have hzero : (FloatArith.zero : Binary64).isNaN = false := by decide +kernel
  have hiff := Ieee.foldl_stdMax_le_iff (c := c) _ _ hzero hnan
  rw [hfold]
  refine hiff.trans ⟨fun h i => h.2 _ (List.mem_map_of_mem (List.mem_finRange i)),
    fun h => ⟨hc, fun x hx => ?_⟩⟩
  obtain ⟨i, -, rfl⟩ := List.mem_map.mp hx
  exact h i

theorem npMax_le_iff {c : Binary64} (l : List Binary64) (start : Binary64)
    (hstart : start.isNaN = false) (hl : ∀ x ∈ l, x.isNaN = false) :
    npMax start l ≤ c ↔ start ≤ c ∧ ∀ x ∈ l, x ≤ c := by
  induction l generalizing start with
  | nil => simp [npMax]
  | cons y l ih =>
    have hy := hl y List.mem_cons_self
    have hstep : npMaximum start y = if Ieee.le y start = true then start else y := by
      have hnan : isNan start = false := (Ieee.isNan_eq_isNaN start).trans hstart
      exact if_neg (by simp [hnan])
    have hmem : ∀ x ∈ l, x.isNaN = false := fun x hx => hl x (List.mem_cons_of_mem _ hx)
    rw [npMax, List.foldl_cons, hstep]
    by_cases hle : Ieee.le y start = true
    · rw [if_pos hle]
      refine (ih start hstart hmem).trans ?_
      rw [List.forall_mem_cons]
      exact and_congr_right fun h => ⟨fun hall => ⟨Ieee.le_trans hle h, hall⟩, fun hall => hall.2⟩
    · rw [if_neg hle]
      have hlt : Ieee.le start y = true := by
        refine Ieee.le_iff.mpr ⟨hstart, hy, ?_⟩
        by_contra hgt
        exact hle (Ieee.le_iff.mpr ⟨hy, hstart, (not_le.mp hgt).le⟩)
      refine (ih y hy hmem).trans ?_
      rw [List.forall_mem_cons]
      exact ⟨fun h => ⟨Ieee.le_trans hlt h.1, h⟩, fun h => h.2⟩

/-! ## What the child's flag means -/

/-- **A sample of a robot at rest**: the admitted mode and status, and every velocity finite and
within the threshold. -/
structure AtRest (c : StopCriteria) (sample : RobotSample Binary64) : Prop where
  mode : c.stoppedMode sample.mode = true
  status : c.stoppedStatusClear sample = true
  finite : ∀ i, FloatArith.isFinite (sample.dqRadS i) = true
  slow : ∀ i, FloatArith.abs (sample.dqRadS i) ≤
    FloatArith.ofRat HardSafetyLimits.stopMaximumVelocityRadS

theorem admits_iff_atRest (c : StopCriteria) (sample : RobotSample Binary64) :
    c.admits sample = true ↔ AtRest c sample := by
  simp only [StopCriteria.admits, Bool.and_eq_true, decide_eq_true_eq]
  constructor
  · rintro ⟨⟨⟨hmode, hstatus⟩, hfinite⟩, hslow⟩
    exact ⟨hmode, hstatus, (Vec.allFinite_iff _).mp hfinite,
      (maxAbs_le_iff _ hfinite zero_le_stopMaximum).mp hslow⟩
  · rintro ⟨hmode, hstatus, hfinite, hslow⟩
    have hall := (Vec.allFinite_iff _).mpr hfinite
    exact ⟨⟨⟨hmode, hstatus⟩, hall⟩, (maxAbs_le_iff _ hall zero_le_stopMaximum).mpr hslow⟩

/-- **Three consecutive reads from attempt `i` prove the stop**: none throws, each shows the robot
at rest, and each is newer than the pre-stop time and than every earlier read. -/
def ProvesStop (c : StopCriteria) (preStopTime : ℕ) (reads : ℕ → Option (RobotSample Binary64))
    (i : ℕ) (samples : Fin 3 → RobotSample Binary64) : Prop :=
  ∀ k : Fin 3, reads (i + k.1) = some (samples k) ∧ AtRest c (samples k) ∧
    preStopTime < (samples k).robotTimeMs ∧
    ∀ j < i + k.1, ∀ s, reads j = some s → s.robotTimeMs < (samples k).robotTimeMs

theorem attemptValid_iff (c : StopCriteria) (preStopTime : ℕ)
    (reads : ℕ → Option (RobotSample Binary64)) (n : ℕ) :
    attemptValid c preStopTime reads n = true ↔ ∃ sample, reads n = some sample ∧
      AtRest c sample ∧ preStopTime < sample.robotTimeMs ∧
      ∀ j < n, ∀ s, reads j = some s → s.robotTimeMs < sample.robotTimeMs := by
  rw [attemptValid]
  cases hread : reads n with
  | none => simp
  | some sample =>
    simp only [Bool.and_eq_true, decide_eq_true_eq, admits_iff_atRest,
      priorTimeBefore_lt_iff, Option.some.injEq, exists_eq_left']
    exact ⟨fun h => ⟨h.2, h.1⟩, fun h => ⟨h.2, h.1⟩⟩

theorem three_le_trailingRun_iff (c : StopCriteria) (preStopTime : ℕ)
    (reads : ℕ → Option (RobotSample Binary64)) (n : ℕ) :
    3 ≤ trailingRun (attemptValid c preStopTime reads) n ↔
      3 ≤ n ∧ ∃ samples, ProvesStop c preStopTime reads (n - 3) samples := by
  rw [le_trailingRun_iff]
  refine and_congr_right fun hn => ⟨fun h => ?_, ?_⟩
  · have hvalid : ∀ k : Fin 3, ∃ sample, reads (n - 3 + k.1) = some sample ∧ AtRest c sample ∧
        preStopTime < sample.robotTimeMs ∧
        ∀ j < n - 3 + k.1, ∀ s, reads j = some s → s.robotTimeMs < sample.robotTimeMs :=
      fun k => (attemptValid_iff _ _ _ _).mp (h _ (by omega) (by omega))
    choose samples hsamples using hvalid
    exact ⟨samples, hsamples⟩
  · rintro ⟨samples, hsamples⟩ j hj hlt
    have hk := hsamples ⟨j - (n - 3), by omega⟩
    have hindex : n - 3 + (j - (n - 3)) = j := by omega
    simp only [hindex] at hk
    exact (attemptValid_iff _ _ _ _).mpr ⟨_, hk⟩

/-- The loop variables that `cleanup_robot` ends with. -/
def finalLoop (env : StopEnvironment Binary64) (state : RuntimeState Binary64)
    (reason : StopReason) (fault : FaultCode) (finishAllowed : Bool) : StopLoop Binary64 :=
  let start := StopLoop.start state.latestSample.robotTimeMs
  if env.backendPresent then
    start.run (stopCriteria (stopPath env finishAllowed) reason fault) env.reads 0
      HardSafetyLimits.stopMaximumSamples
  else start

section Outcome

variable (env : StopEnvironment Binary64) (state : RuntimeState Binary64) (reason : StopReason)
  (fault : FaultCode) (finishAllowed : Bool)

/-- **The outcome of the verification**: three proving reads end it, with their summaries and the
last one's mode and time on record, or no three reads among the attempts prove the stop. -/
theorem finalLoop_cases :
    let c := stopCriteria (stopPath env finishAllowed) reason fault
    let w := finalLoop env state reason fault finishAllowed
    (env.backendPresent = true ∧ ∃ i samples, i + 3 ≤ HardSafetyLimits.stopMaximumSamples ∧
      ProvesStop c state.latestSample.robotTimeMs env.reads i samples ∧
      w.consecutive = 3 ∧ 3 ≤ w.verificationSamples ∧
      (∀ k, w.accepted k = .of (samples k)) ∧
      w.finalRobotMode = (samples 2).mode.code ∧
      w.finalRobotTimeMs = (samples 2).robotTimeMs) ∨
    (w.consecutive < 3 ∧ (env.backendPresent = true →
      ∀ i samples, i + 3 ≤ HardSafetyLimits.stopMaximumSamples →
        ¬ ProvesStop c state.latestSample.robotTimeMs env.reads i samples)) := by
  intro c w
  cases hbackend : env.backendPresent with
  | false =>
    refine .inr ⟨?_, fun h => by cases h⟩
    simp [w, finalLoop, hbackend, StopLoop.start]
  | true =>
    have hw : w = (StopLoop.start state.latestSample.robotTimeMs).run c env.reads 0
        HardSafetyLimits.stopMaximumSamples := by
      simp only [w, finalLoop, hbackend, if_true]
      rfl
    obtain ⟨m, -, hm, htracks, hthree⟩ | ⟨hfew, hnone⟩ :=
      (StopLoop.tracks_start c state.latestSample.robotTimeMs env.reads).run
        (Nat.zero_lt_succ 2) HardSafetyLimits.stopMaximumSamples
    · rw [← hw] at htracks hthree
      have hcount := htracks.consecutive
      rw [hthree] at hcount
      obtain ⟨hm3, samples, hproves⟩ := (three_le_trailingRun_iff _ _ _ _).mp hcount.le
      have hsamples := htracks.samples
      refine .inl ⟨rfl, m - 3, samples, by omega, hproves, hthree, by omega, fun k => ?_, ?_⟩
      · obtain ⟨s, hs, haccepted⟩ := htracks.accepted k (by rw [hthree]; exact k.2)
        rw [hthree, (hproves k).1] at hs
        rw [haccepted, Option.some.inj hs]
      · obtain ⟨s, hs, hmode, htime⟩ := htracks.final (by omega)
        have hindex : m - 3 + 2 = m - 1 := by omega
        have hlast := (hproves 2).1
        rw [show ((2 : Fin 3) : ℕ) = 2 from rfl, hindex, hs] at hlast
        rw [hmode, htime, Option.some.inj hlast]
        exact ⟨rfl, rfl⟩
    · rw [← hw] at hfew
      refine .inr ⟨hfew, fun _ i samples hi hproves => ?_⟩
      have hlt := hnone (i + 3) (Nat.zero_le _) (by omega)
      have hge := (three_le_trailingRun_iff c state.latestSample.robotTimeMs env.reads
        (i + 3)).mpr ⟨by omega, samples, by simpa using hproves⟩
      omega

end Outcome

/-! ## The parent's verdict is the child's flag -/

def flagsOf (path : StopPath) (verified delivered : Bool) : StopProofFlags :=
  ⟨path.finishAttempted, path.finishSucceeded, path.robotStopAttempted, path.robotStopSucceeded,
    verified, true, delivered, true⟩

@[simp] theorem wireBoolean_wireFlag (b : Bool) (name : String) :
    wireBoolean (wireFlag b) name = .ok b := by
  cases b <;> rfl

theorem successfulExplicitStop_iff {D : Type} (env : StopEnvironment D) (finishAllowed : Bool)
    (reason : StopReason) (fault : FaultCode) (verified delivered : Bool) :
    let f := flagsOf (stopPath env finishAllowed) verified delivered
    ((f.directStopPath || f.failedFinishStopFallback) && f.robotStopSucceeded) =
      (stopCriteria (stopPath env finishAllowed) reason fault).successfulExplicitStop := by
  obtain ⟨backend, active, finish, stop, reads⟩ := env
  cases backend <;> cases active <;> cases finish <;> cases stop <;> cases finishAllowed <;> rfl

theorem code_mem_allowedStopModes {D : Type} (env : StopEnvironment D) (finishAllowed : Bool)
    (reason : StopReason) (fault : FaultCode) (verified delivered : Bool) {mode : RobotModeCode}
    (h : (stopCriteria (stopPath env finishAllowed) reason fault).stoppedMode mode = true) :
    mode.code ∈ allowedStopModes (flagsOf (stopPath env finishAllowed) verified delivered)
      fault.code reason.code := by
  have hsuccess := successfulExplicitStop_iff env finishAllowed reason fault verified delivered
  rw [allowedStopModes, hsuccess]
  simp only [StopCriteria.stoppedMode, Bool.or_eq_true, Bool.and_eq_true,
    decide_eq_true_eq] at h
  rcases h with (rfl | ⟨hclean, hmode⟩) | ⟨hsuccessful, rfl⟩
  · split_ifs <;> simp [RobotModeCode.code]
  · -- a clean transition is a successful stop without a fault, for a requested or signal stop
    simp only [stopCriteria, Bool.and_eq_true, Bool.or_eq_true, decide_eq_true_eq] at hclean ⊢
    obtain ⟨⟨hexplicit, rfl⟩, hreason⟩ := hclean
    rw [if_pos hexplicit, if_pos]
    · rcases hmode with rfl | rfl <;> simp [RobotModeCode.code]
    · refine ⟨rfl, ?_⟩
      rcases hreason with rfl | rfl <;> simp [StopReason.code]
  · rw [if_pos hsuccessful]
    split_ifs <;> simp [RobotModeCode.code]

theorem stopStatusIsClear_of {c : StopCriteria} {sample : RobotSample Binary64}
    {allowed : List ℕ} (hmode : sample.mode.code ∈ allowed)
    (h : c.stoppedStatusClear sample = true) :
    stopStatusIsClear allowed (.of sample) = true := by
  simp only [StopCriteria.stoppedStatusClear, Bool.or_eq_true, Bool.and_eq_true,
    decide_eq_true_eq] at h
  rw [stopStatusIsClear]
  rcases h with h | ⟨⟨-, hidle⟩, hstatus⟩
  · exact Bool.or_eq_true_iff.mpr (.inl (decide_eq_true h))
  · have hidleOrReflex : sample.mode.code ∈ [1, 5] := by
      rcases hidle with h | h <;> rw [h] <;> decide
    refine Bool.or_eq_true_iff.mpr (.inr ?_)
    rw [Bool.and_eq_true, Bool.and_eq_true]
    exact ⟨⟨decide_eq_true hidleOrReflex, decide_eq_true hmode⟩, decide_eq_true hstatus⟩

section Emitted

variable (env : StopEnvironment Binary64) (state : RuntimeState Binary64) (reason : StopReason)
  (fault : FaultCode) (finishAllowed : Bool) (detail : Text) (delivered : Bool)

/-- **The stop proof that the child emits**: `cleanup_robot`'s payload with the flag of the fault
reply filled in. -/
def emittedStopProof : StopProofPayload Binary64 :=
  { cleanupRobot env state reason fault finishAllowed detail with
    faultReplyDelivered := wireFlag delivered }

def childVerified : Bool :=
  decide (3 ≤ (finalLoop env state reason fault finishAllowed).consecutive)

theorem decodeFlags_emittedStopProof :
    decodeFlags (emittedStopProof env state reason fault finishAllowed detail delivered) =
      .ok (flagsOf (stopPath env finishAllowed)
        (childVerified env state reason fault finishAllowed) delivered) := by
  simp only [decodeFlags, emittedStopProof, cleanupRobot, wireBoolean_wireFlag]
  rfl

theorem mem_sampleDq {p : StopProofPayload Binary64} {x : Binary64} :
    x ∈ sampleDq p ↔ ∃ k i, (p.verifiedSamples k).measuredDqRadS i = x := by
  simp [sampleDq]

/-- **What the parent's verdict rests on**: enough samples, the final values of the third one,
times that increase from the pre-stop time, admitted modes and status, small finite velocities. -/
theorem rawIdleVerified_of {p : StopProofPayload Binary64} {f : StopProofFlags}
    (hcount : 3 ≤ p.stopVerificationSamples) (hconsecutive : 3 ≤ p.stopConsecutiveIdleSamples)
    (hmode : ∀ k, (p.verifiedSamples k).robotMode ∈
      allowedStopModes f p.terminalFaultCode p.stopReason)
    (hstatus : ∀ k, stopStatusIsClear (allowedStopModes f p.terminalFaultCode p.stopReason)
      (p.verifiedSamples k) = true)
    (hfinalMode : p.finalRobotMode = (p.verifiedSamples 2).robotMode)
    (hfinalTime : p.finalRobotTimeMs = (p.verifiedSamples 2).robotTimeMs)
    (hfirst : p.preStopRobotTimeMs < (p.verifiedSamples 0).robotTimeMs)
    (hsecond : (p.verifiedSamples 0).robotTimeMs < (p.verifiedSamples 1).robotTimeMs)
    (hthird : (p.verifiedSamples 1).robotTimeMs < (p.verifiedSamples 2).robotTimeMs)
    (hfinite : ∀ k i, FloatArith.isFinite ((p.verifiedSamples k).measuredDqRadS i) = true)
    (hslow : ∀ k i, FloatArith.abs ((p.verifiedSamples k).measuredDqRadS i) ≤
      (FloatArith.ofRat (1 / 100) : Binary64)) : rawIdleVerified p f = true := by
  have hall : (sampleDq p).all FloatArith.isFinite = true := by
    refine List.all_eq_true.mpr fun x hx => ?_
    obtain ⟨k, i, rfl⟩ := mem_sampleDq.mp hx
    exact hfinite k i
  have hmagnitude : ∀ x ∈ (sampleDq p).map FloatArith.abs,
      x.isNaN = false ∧ x ≤ FloatArith.ofRat (1 / 100) := by
    intro x hx
    obtain ⟨y, hy, rfl⟩ := List.mem_map.mp hx
    obtain ⟨k, i, rfl⟩ := mem_sampleDq.mp hy
    exact ⟨(Ieee.isNaN_abs _).trans (Ieee.isNaN_of_isFinite (hfinite k i)), hslow k i⟩
  have hmatch : (match (sampleDq p).map FloatArith.abs with
      | [] => false
      | m :: ms => decide (npMax m ms ≤ FloatArith.ofRat (1 / 100))) = true := by
    cases hlist : (sampleDq p).map FloatArith.abs with
    | nil =>
      have hmem : FloatArith.abs ((p.verifiedSamples 0).measuredDqRadS 0) ∈
          (sampleDq p).map FloatArith.abs :=
        List.mem_map_of_mem (mem_sampleDq.mpr ⟨0, 0, rfl⟩)
      rw [hlist] at hmem
      cases hmem
    | cons m ms =>
      rw [hlist] at hmagnitude
      have hm := hmagnitude m List.mem_cons_self
      have hms := fun x hx => hmagnitude x (List.mem_cons_of_mem m hx)
      exact decide_eq_true ((npMax_le_iff ms m hm.1 fun x hx => (hms x hx).1).mpr
        ⟨hm.2, fun x hx => (hms x hx).2⟩)
  have hmodes := hmode 2
  rw [← hfinalMode] at hmodes
  simp only [rawIdleVerified, Bool.and_eq_true, decide_eq_true_eq, List.all_eq_true (p := _)]
  refine ⟨⟨⟨⟨⟨⟨⟨⟨hcount, hconsecutive⟩, hmodes⟩, ⟨hfirst, hsecond⟩, hthird⟩, hfinalTime⟩,
    fun k _ => hmode k⟩, fun k _ => hstatus k⟩, List.all_eq_true.mp hall⟩, hmatch⟩

/-- **The parent's verdict on an emitted proof is the child's flag.** -/
theorem rawIdleVerified_emittedStopProof :
    rawIdleVerified (emittedStopProof env state reason fault finishAllowed detail delivered)
        (flagsOf (stopPath env finishAllowed)
          (childVerified env state reason fault finishAllowed) delivered) =
      childVerified env state reason fault finishAllowed := by
  have hcases := finalLoop_cases env state reason fault finishAllowed
  rcases hcases with ⟨-, i, samples, -, hproves, hthree, hread, haccepted, hmode, htime⟩ |
    ⟨hfew, -⟩
  · -- the child verified: every part of the parent's test holds of the three samples
    have hverified : childVerified env state reason fault finishAllowed = true := by
      simp [childVerified, hthree]
    have hsamples : ∀ k, (emittedStopProof env state reason fault finishAllowed detail
        delivered).verifiedSamples k = .of (samples k) := by
      intro k
      rw [← haccepted k]
      exact congrFun (if_pos hverified) k
    have hallowed := fun k => code_mem_allowedStopModes env finishAllowed reason fault
      (childVerified env state reason fault finishAllowed) delivered (hproves k).2.1.mode
    have hnewer : ∀ k l : Fin 3, k.1 < l.1 →
        (samples k).robotTimeMs < (samples l).robotTimeMs := by
      intro k l hlt
      exact (hproves l).2.2.2 (i + k.1) (by omega) (samples k) (hproves k).1
    rw [hverified] at hallowed ⊢
    refine rawIdleVerified_of hread hthree.ge ?_ ?_ ?_ ?_ ?_ ?_ ?_ ?_ ?_
    · intro k
      rw [hsamples k]
      exact hallowed k
    · intro k
      rw [hsamples k]
      exact stopStatusIsClear_of (hallowed k) (hproves k).2.1.status
    · rw [hsamples 2]
      exact hmode
    · rw [hsamples 2]
      exact htime
    · rw [hsamples 0]
      exact (hproves 0).2.2.1
    · rw [hsamples 0, hsamples 1]
      exact hnewer 0 1 (by decide)
    · rw [hsamples 1, hsamples 2]
      exact hnewer 1 2 (by decide)
    · intro k j
      rw [hsamples k]
      exact (hproves k).2.1.finite j
    · intro k j
      rw [hsamples k]
      exact (hproves k).2.1.slow j
  · -- the child did not verify: its samples are blank, and blank samples are not fresh
    have hverified : childVerified env state reason fault finishAllowed = false :=
      decide_eq_false (by omega)
    have hsamples : ∀ k, (emittedStopProof env state reason fault finishAllowed detail
        delivered).verifiedSamples k = .default := by
      intro k
      exact congrFun (if_neg (Bool.eq_false_iff.mp hverified)) k
    rw [hverified]
    refine Bool.eq_false_iff.mpr fun h => ?_
    simp only [rawIdleVerified, Bool.and_eq_true, decide_eq_true_eq, hsamples 0] at h
    exact Nat.not_lt_zero _ h.1.1.1.1.1.2.1.1

end Emitted

theorem decodeFixedText_ne_contradictory (raw : Text) :
    decodeFixedText raw ≠ .error contradictoryIdleError := by
  intro h
  rw [decodeFixedText] at h
  split at h
  · simp [contradictoryIdleError, sessionError] at h
  · split at h
    · cases h
    · simp [contradictoryIdleError, sessionError] at h

theorem decodeStopProof_ne_contradictory {p : StopProofPayload Binary64} {f : StopProofFlags}
    (hflags : decodeFlags p = .ok f) (hagree : f.idleDqVerified = rawIdleVerified p f) :
    decodeStopProof p ≠ .error contradictoryIdleError := by
  intro h
  rw [decodeStopProof, hflags] at h
  cases htext : decodeFixedText p.detail with
  | error e =>
    simp only [bind, Except.bind, htext, Except.error.injEq] at h
    exact decodeFixedText_ne_contradictory p.detail (htext.trans (congrArg _ h))
  | ok detail =>
    simp only [bind, Except.bind, htext, hagree, ne_eq, not_true_eq_false, if_false] at h
    -- the texts of the remaining errors differ
    split_ifs at h <;> simp [contradictoryIdleError, sessionError] at h

/-- **The stop proof is sound, and both sides agree on it.** -/
theorem stopProof_sound_and_agreed (env : StopEnvironment Binary64)
    (state : RuntimeState Binary64) (reason : StopReason) (fault : FaultCode)
    (finishAllowed : Bool) (detail : Text) (delivered : Bool) :
    let p := emittedStopProof env state reason fault finishAllowed detail delivered
    let c := stopCriteria (stopPath env finishAllowed) reason fault
    (p.idleDqVerified = 1 ↔ env.backendPresent = true ∧
      ∃ i samples, i + 3 ≤ HardSafetyLimits.stopMaximumSamples ∧
        ProvesStop c p.preStopRobotTimeMs env.reads i samples) ∧
    (p.idleDqVerified = 1 → ∃ i samples,
      ProvesStop c p.preStopRobotTimeMs env.reads i samples ∧
        ∀ k, p.verifiedSamples k = .of (samples k)) ∧
    ∃ f, decodeFlags p = .ok f ∧ (f.idleDqVerified = true ↔ p.idleDqVerified = 1) ∧
      rawIdleVerified p f = f.idleDqVerified ∧
      decodeStopProof p ≠ .error contradictoryIdleError := by
  intro p c
  have hflag : p.idleDqVerified = 1 ↔
      childVerified env state reason fault finishAllowed = true := by
    show wireFlag (childVerified env state reason fault finishAllowed) = 1 ↔ _
    cases childVerified env state reason fault finishAllowed <;> decide
  have hraw := rawIdleVerified_emittedStopProof env state reason fault finishAllowed detail
    delivered
  have hdecode := decodeFlags_emittedStopProof env state reason fault finishAllowed detail delivered
  refine ⟨?_, ?_, _, hdecode, hflag.symm, hraw,
    decodeStopProof_ne_contradictory hdecode hraw.symm⟩
  · rw [hflag, childVerified, decide_eq_true_iff]
    rcases finalLoop_cases env state reason fault finishAllowed with
      ⟨hbackend, i, samples, hi, hproves, hthree, -⟩ | ⟨hfew, hnone⟩
    · exact ⟨fun _ => ⟨hbackend, i, samples, hi, hproves⟩, fun _ => hthree.ge⟩
    · refine ⟨fun h => absurd h (by omega), ?_⟩
      rintro ⟨hbackend, i, samples, hi, hproves⟩
      exact absurd hproves (hnone hbackend i samples hi)
  · intro h
    have hverified := hflag.mp h
    rcases finalLoop_cases env state reason fault finishAllowed with
      ⟨-, i, samples, -, hproves, -, -, haccepted, -⟩ | ⟨hfew, -⟩
    · refine ⟨i, samples, hproves, fun k => ?_⟩
      rw [← haccepted k]
      exact congrFun (if_pos hverified) k
    · rw [childVerified, decide_eq_true_iff] at hverified
      omega

def restingSample (time : ℕ) : RobotSample Binary64 :=
  { RobotSample.default with robotTimeMs := time, mode := .idle }

def receding : StopEnvironment Binary64 where
  backendPresent := true
  activePresent := true
  finishWriteSucceeds := true
  stopSucceeds := true
  reads
    | 0 => some (restingSample 100)
    | 1 => some (restingSample 11)
    | 2 => some (restingSample 12)
    | 3 => some (restingSample 13)
    | _ => none

def stoppedAtTen : RuntimeState Binary64 :=
  { RuntimeState.default with latestSample := restingSample 10 }

/-- **Increasing times after a later one do not prove the stop**: reads 1, 2 and 3 show the robot at
rest at increasing times newer than the pre-stop time, and the flag is zero. -/
theorem receding_not_verified :
    let p := emittedStopProof receding stoppedAtTen .requested .none false [] true
    let c := stopCriteria (stopPath receding false) .requested .none
    (∃ (i : ℕ) (samples : Fin 3 → RobotSample Binary64),
      (∀ k : Fin 3, receding.reads (i + k.1) = some (samples k) ∧ AtRest c (samples k) ∧
        p.preStopRobotTimeMs < (samples k).robotTimeMs) ∧
      (samples 0).robotTimeMs < (samples 1).robotTimeMs ∧
      (samples 1).robotTimeMs < (samples 2).robotTimeMs) ∧
    p.idleDqVerified = 0 := by
  intro p c
  refine ⟨⟨1, fun k => restingSample (11 + k.1), ?_, by decide, by decide⟩, by decide +kernel⟩
  intro k
  match k with
  | 0 => exact ⟨rfl, (admits_iff_atRest c _).mp (by decide +kernel), by decide⟩
  | 1 => exact ⟨rfl, (admits_iff_atRest c _).mp (by decide +kernel), by decide⟩
  | 2 => exact ⟨rfl, (admits_iff_atRest c _).mp (by decide +kernel), by decide⟩

end FrankaDeploy.NativeSession
