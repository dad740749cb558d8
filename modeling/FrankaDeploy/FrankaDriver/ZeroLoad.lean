import FrankaDeploy.FrankaDriver.LoadMirror

/-! # Zero loads in the driver's log

Whether the driver verified a zero load since the last call of `set_load` can be read off its log.
An application keeps this true unless its rollback fails; a clear makes it true. -/

set_option linter.unusedSectionVars false

namespace FrankaDeploy.FrankaDriver

open FrankaDeploy.Foundation FrankaDeploy.ClosedLoop FrankaDeploy.GraspSequence
open FrankaDeploy.Foundation.Program
open FrankaDeploy.PersistentSession (Matrix isClose)
open scoped FloatArith

variable {D : Type} [FloatArith D] {W : Type}

/-! ## Reading the log -/

/-- One more event: a call of `set_load` puts the load in question, a state that agrees with a zero
mass settles it. -/
def scanLoad (settled : Bool) : LoadEvent D → Bool
  | .setLoad _ => false
  | .verified massKg => settled || isClose massKg FloatArith.zero FloatArith.zero
  | .rollbackUnverified => settled
  | .handleStarted => settled

/-- **A zero load was verified after the last call of `set_load`**, if there was one. -/
def zeroVerified (log : List (LoadEvent D)) : Bool := log.foldl scanLoad true

theorem zeroVerified_snoc (log : List (LoadEvent D)) (event : LoadEvent D) :
    zeroVerified (log ++ [event]) = scanLoad (zeroVerified log) event := by
  rw [zeroVerified, List.foldl_append]
  rfl

/-- **No application failed with its rollback unverified**, on a robot whose load can be set. -/
def Confirmed (env : FrankaRobot D W) (log : List (LoadEvent D)) : Prop :=
  env.setLoad.isSome = true → .rollbackUnverified ∉ log

variable {env : FrankaRobot D W} {s : FrankaSequenceDriver D W} {t t' : List (LoadEvent D)}

theorem Confirmed.snoc (h : Confirmed env t) {event : LoadEvent D}
    (hevent : event ≠ .rollbackUnverified) : Confirmed env (t ++ [event]) := by
  intro hsome hmem
  rcases List.mem_append.mp hmem with hmem | hmem
  · exact h hsome hmem
  · exact hevent (List.mem_singleton.mp hmem).symm

theorem not_confirmed_snoc (hsome : env.setLoad.isSome = true) :
    ¬ Confirmed env (t ++ [.rollbackUnverified]) := fun h =>
  h hsome (List.mem_append_right t (List.mem_singleton.mpr rfl))

theorem Validated.confirmed (ht : Validated env s t t') (h : Confirmed env t) :
    Confirmed env t' := by
  cases ht with
  | unchecked => exact h
  | verified => exact h.snoc (fun h => by cases h)

theorem Validated.settled (ht : Validated env s t t') (h : zeroVerified t = true) :
    zeroVerified t' = true := by
  cases ht with
  | unchecked => exact h
  | verified =>
    rw [zeroVerified_snoc, h]
    rfl

theorem Validated.settles (ht : Validated env s t t')
    (hcommissioned : env.limits.expectedMEeKg.isSome = true)
    (hmass : isClose s.expectedMassKg FloatArith.zero FloatArith.zero = true) :
    zeroVerified t' = true := by
  cases ht with
  | unchecked hnone =>
    rw [hnone] at hcommissioned
    cases hcommissioned
  | verified =>
    rw [zeroVerified_snoc]
    show (zeroVerified t || isClose s.expectedMassKg FloatArith.zero FloatArith.zero) = true
    rw [hmass, Bool.or_true]

theorem Interrupted.confirmed {load configured : ExternalLoad D}
    (ht : Interrupted env s t load configured t') (h : Confirmed env t) : Confirmed env t' := by
  cases ht with
  | uncalled => exact h
  | unapplied => exact h.snoc (fun h => by cases h)
  | applied => exact h.snoc (fun h => by cases h)

/-! ## An application -/

/-- **In the middle of an application**: without the call of the API nothing was put in question. -/
def Applying (env : FrankaRobot D W) (t : List (LoadEvent D)) : Prop :=
  Confirmed env t ∧ (env.setLoad = none → zeroVerified t = true)

theorem Interrupted.applying {load configured : ExternalLoad D}
    (ht : Interrupted env s t load configured t') (h : Applying env t) : Applying env t' := by
  refine ⟨ht.confirmed h.1, fun hnone => ?_⟩
  cases ht with
  | uncalled => exact h.2 hnone
  | unapplied hsome =>
    rw [hnone] at hsome
    cases hsome
  | applied hsome =>
    rw [hnone] at hsome
    cases hsome

theorem log_applyLoad (massKg : D) (centerM : Vec 3 D) (inertiaKgM2 : Matrix 3 D)
    (binding : String) :
    Triple (fun _ t => Applying env t) (applyLoad env massKg centerM inertiaKgM2 binding)
      (fun _ _ t => Confirmed env t) fun _ _ t => Applying env t := by
  intro s t h
  unfold applyLoad
  rw [wp_bind]
  refine wp_callSetLoad (fun world hsome => ?_) fun world e configured t' ht' => ht'.applying h
  unfold setExpectedExternalLoad
  rw [wp_bind, wp_update, wp_bind]
  have hcalled : Confirmed env (t ++ [.setLoad ⟨massKg, centerM, columnMajor inertiaKgM2⟩]) :=
    h.1.snoc (fun h => by cases h)
  refine wp_readValidated (fun world' sample t' ht' => ?_) fun world' e => ⟨hcalled, fun hnone => ?_⟩
  · rw [wp_ret]
    exact ht'.confirmed hcalled
  · rw [hnone] at hsome
    cases hsome

/-- **A rollback** that is not verified leaves the load in question, if there is a call that could set
it. -/
theorem log_rollBack (hzero : ZeroFacts D) (hcommissioned : env.limits.expectedMEeKg.isSome = true) :
    Triple (fun _ t => Applying env t) (rollBack env)
      (fun _ _ t => Confirmed env t ∧ zeroVerified t = true)
      fun _ _ t => Confirmed env t ∧ zeroVerified t = env.setLoad.isNone := by
  intro s t h
  unfold rollBack
  rw [wp_bind]
  refine wp_callSetLoad (fun world hsome => ?_) fun world e configured t' ht' =>
    ⟨ht'.confirmed h.1, ?_⟩
  · unfold setExpectedExternalLoad
    rw [wp_bind, wp_update, wp_bind]
    have hcalled : Confirmed env (t ++ [.setLoad zeroLoad]) := h.1.snoc (fun h => by cases h)
    refine wp_readValidated (fun world' sample t' ht' => ?_) fun world' e => ⟨hcalled, ?_⟩
    · rw [wp_ret]
      exact ⟨ht'.confirmed hcalled, ht'.settles hcommissioned hzero.close⟩
    · rw [zeroVerified_snoc, Option.isNone_eq_false_iff.mpr hsome]
      rfl
  · cases ht' with
    | uncalled hnone =>
      rw [h.2 hnone, hnone]
      rfl
    | unapplied hsome =>
      rw [zeroVerified_snoc, Option.isNone_eq_false_iff.mpr hsome]
      rfl
    | applied hsome =>
      rw [zeroVerified_snoc, Option.isNone_eq_false_iff.mpr hsome]
      rfl

/-- **An application** that returns was confirmed where loads are checked. One that throws left a zero
load, or its rollback was not verified and the load is in question. -/
theorem log_applyExternalLoadAndVerify (hzero : ZeroFacts D) (payload : PayloadArgument D) :
    Triple (fun _ t => Confirmed env t ∧ zeroVerified t = true)
      (applyExternalLoadAndVerify env payload)
      (fun _ _ t => env.limits.expectedMEeKg.isSome = true ∧ Confirmed env t)
      fun _ _ t => (Confirmed env t ∧ zeroVerified t = true) ∨
        (¬ Confirmed env t ∧ zeroVerified t = false) := by
  intro s t h
  unfold applyExternalLoadAndVerify requireConfigurationIdle
  rw [wp_bind, wp_ofExcept]
  refine ⟨fun accepted hcoerce => ?_, fun _ _ => .inl h⟩
  obtain ⟨massKg, centerM, inertiaKgM2, binding⟩ := accepted
  obtain ⟨hcommissioned, -⟩ := accepted_of_coerce hcoerce
  simp only
  rw [wp_bind, wp_bind, wp_read]
  beta_reduce
  rw [wp_check]
  refine ⟨fun _ => .inl h, fun _ => ?_⟩
  rw [wp_bind, wp_read]
  beta_reduce
  rw [wp_bind, wp_check]
  refine ⟨fun _ => .inl h, fun _ => ?_⟩
  rw [wp_bind, wp_check]
  refine ⟨fun _ => .inl h, fun _ => ?_⟩
  rw [wp_bind]
  refine wp_readValidated (fun world sample t' ht' => ?_) fun world e => .inl h
  have happlying : Applying env t' := ⟨ht'.confirmed h.1, fun _ => ht'.settled h.2⟩
  refine (Triple.caught (log_applyLoad massKg centerM inertiaKgM2 binding) (fun _ => ?_) fun e => ?_ :
    Triple (fun _ t => Applying env t) _ _ _) _ _ happlying
  · exact triple_ret fun _ _ h => ⟨hcommissioned, h⟩
  · unfold recoverApply
    refine Triple.caught (log_rollBack hzero hcommissioned) (fun _ => ?_) fun rollbackError => ?_
    · exact triple_fail fun _ _ h => .inl h
    · intro s t h
      rw [wp_bind, wp_update, wp_bind, wp_emit, wp_fail]
      beta_reduce
      rw [zeroVerified_snoc]
      cases hsetter : env.setLoad with
      | none =>
        rw [hsetter] at h
        refine .inl ⟨fun hsome => ?_, h.2⟩
        rw [hsetter] at hsome
        cases hsome
      | some setter =>
        rw [hsetter] at h
        refine .inr ⟨not_confirmed_snoc ?_, h.2⟩
        rw [hsetter]
        rfl

/-! ## A clear -/

theorem log_clearOrLatch (hzero : ZeroFacts D)
    (hcommissioned : env.limits.expectedMEeKg.isSome = true) :
    Triple (fun _ t => Confirmed env t) (clearOrLatch env)
      (fun _ _ t => Confirmed env t ∧ zeroVerified t = true) fun _ _ t => Confirmed env t := by
  have hclear : Triple (fun _ t => Confirmed env t) (clearLoad env)
      (fun _ _ t => Confirmed env t ∧ zeroVerified t = true) fun _ _ t => Confirmed env t := by
    intro s t h
    unfold clearLoad
    rw [wp_bind]
    refine wp_callSetLoad (fun world _ => ?_) fun world e configured t' ht' => ht'.confirmed h
    unfold setExpectedExternalLoad
    rw [wp_bind, wp_update, wp_bind, wp_update, wp_bind]
    have hcalled : Confirmed env (t ++ [.setLoad zeroLoad]) := h.snoc (fun h => by cases h)
    refine wp_readValidated (fun world' sample t' ht' => ?_) fun world' e => hcalled
    rw [wp_ret]
    exact ⟨ht'.confirmed hcalled, ht'.settles hcommissioned hzero.close⟩
  unfold clearOrLatch
  refine Triple.caught hclear (fun _ => triple_ret fun _ _ h => h) fun e => ?_
  exact Triple.seq (M := fun _ t => Confirmed env t) (triple_update fun _ _ h => h) fun _ =>
    triple_fail fun _ _ h => h

theorem log_clearExternalLoadAndVerify (hzero : ZeroFacts D)
    (hcommissioned : env.limits.expectedMEeKg.isSome = true) :
    Triple (fun _ t => Confirmed env t) (clearExternalLoadAndVerify env)
      (fun _ _ t => Confirmed env t ∧ zeroVerified t = true) fun _ _ t => Confirmed env t := by
  intro s t h
  unfold clearExternalLoadAndVerify requireConfigurationIdle
  rw [wp_bind, wp_bind, wp_read]
  beta_reduce
  rw [wp_check]
  refine ⟨fun _ => h, fun _ => ?_⟩
  rw [wp_bind, wp_read]
  beta_reduce
  rw [wp_ite]
  refine ⟨fun _ => log_clearOrLatch hzero hcommissioned s t h, fun _ => ?_⟩
  unfold clearKnownLoad
  rw [wp_bind]
  refine wp_readValidated (fun world sample t' ht' => ?_) fun world e => h
  rw [wp_bind, wp_read]
  beta_reduce
  rw [wp_ite]
  refine ⟨fun hnone => ?_, fun _ => log_clearOrLatch hzero hcommissioned _ _ (ht'.confirmed h)⟩
  rw [wp_ret]
  exact ⟨ht'.confirmed h, ht'.settles hcommissioned hnone.2⟩

end FrankaDeploy.FrankaDriver
