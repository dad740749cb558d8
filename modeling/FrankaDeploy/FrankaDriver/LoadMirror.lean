import FrankaDeploy.Foundation.Ieee754
import FrankaDeploy.FrankaDriver.LoadOperations

/-! # The mirror of the external load

What the driver expects is what the robot is configured for, unless the driver itself says that it does
not know. `Sound` is the invariant between two calls; each operation has one specification, which the
calls are proved from:

* a validated read changes nothing, and throws when the configuration is uncertain;
* `set_load` changes the robot's load only, and may throw before or after;
* a motion begins with a validated read, so it does not reach its control handle. -/

set_option linter.unusedSectionVars false

namespace FrankaDeploy.FrankaDriver

open FrankaDeploy.Foundation FrankaDeploy.ClosedLoop FrankaDeploy.GraspSequence
open FrankaDeploy.Foundation.Program
open FrankaDeploy.PersistentSession (Matrix isClose vecClose matrixClose refuse)
open scoped FloatArith

variable {D : Type} [FloatArith D] {W : Type} {env : FrankaRobot D W}
  {s s' : FrankaSequenceDriver D W} {t t' : List (LoadEvent D)} {α β : Type}

/-! ## Values of computations -/

theorem ok_of_bind {x : Except PyException α} {f : α → Except PyException β} {b : β}
    (h : (x >>= f) = .ok b) : ∃ a, x = .ok a ∧ f a = .ok b := by
  cases x with
  | error e => cases h
  | ok a => exact ⟨a, rfl, h⟩

theorem ok_of_refuse {c : Prop} [Decidable c] {e : PyException}
    {f : Unit → Except PyException β} {b : β} (h : (refuse c e >>= f) = .ok b) :
    ¬c ∧ f () = .ok b := by
  obtain ⟨⟨⟩, hc, hf⟩ := ok_of_bind h
  refine ⟨fun hcond => ?_, hf⟩
  rw [refuse, if_pos hcond] at hc
  cases hc

/-- **A payload that is accepted** has a positive mass, and the end effector is commissioned. -/
theorem accepted_of_coerce {payload : PayloadArgument D} {massKg : D} {centerM : Vec 3 D}
    {inertiaKgM2 : Matrix 3 D} {binding : String}
    (h : coerceBoundExternalLoad env payload = .ok (massKg, centerM, inertiaKgM2, binding)) :
    env.limits.expectedMEeKg.isSome = true ∧ FloatArith.zero < massKg := by
  unfold coerceBoundExternalLoad at h
  obtain ⟨hcommissioned, h⟩ := ok_of_refuse h
  obtain ⟨mass, -, h⟩ := ok_of_bind h
  obtain ⟨hmass, h⟩ := ok_of_refuse h
  obtain ⟨center, -, h⟩ := ok_of_bind h
  obtain ⟨-, h⟩ := ok_of_refuse h
  obtain ⟨array, -, h⟩ := ok_of_bind h
  obtain ⟨inertia, -, h⟩ := ok_of_bind h
  obtain ⟨moments, -, h⟩ := ok_of_bind h
  obtain ⟨-, h⟩ := ok_of_refuse h
  obtain ⟨-, h⟩ := ok_of_refuse h
  obtain ⟨-, h⟩ := ok_of_refuse h
  obtain rfl : mass = massKg := congrArg Prod.fst (Except.ok.inj h)
  refine ⟨?_, ?_⟩
  · rw [Option.isSome_iff_ne_none]
    simpa using hcommissioned
  · by_contra hpos
    exact hmass (.inr hpos)

/-! ## Validated reads -/

/-- **What a validated read leaves**: the world moved on, and where loads are checked the driver is
certain of its load, which the read confirmed. -/
inductive Validated (env : FrankaRobot D W) (s : FrankaSequenceDriver D W)
    (t : List (LoadEvent D)) : List (LoadEvent D) → Prop where
  | unchecked : env.limits.expectedMEeKg = none → Validated env s t t
  | verified : env.limits.expectedMEeKg.isSome = true → s.loadConfigurationUncertain = false →
      Validated env s t (t ++ [.verified s.expectedMassKg])

theorem wp_checkActiveLoad {Q : Unit → FrankaSequenceDriver D W → List (LoadEvent D) → Prop}
    {E : PyException → FrankaSequenceDriver D W → List (LoadEvent D) → Prop} (hok : Q () s t)
    (herror : ∀ e, E e s t) : wp (checkActiveLoad env) Q E s t := by
  unfold checkActiveLoad
  rw [wp_bind, wp_read]
  beta_reduce
  rw [wp_bind, wp_check]
  refine ⟨fun _ => herror _, fun _ => ?_⟩
  rw [wp_bind, wp_check]
  refine ⟨fun _ => herror _, fun _ => ?_⟩
  rw [wp_bind, wp_ofExcept]
  refine ⟨fun inertia _ => ?_, fun e _ => herror e⟩
  rw [wp_check]
  exact ⟨fun _ => herror _, fun _ => hok⟩

theorem wp_checkLoad {Q : Unit → FrankaSequenceDriver D W → List (LoadEvent D) → Prop}
    {E : PyException → FrankaSequenceDriver D W → List (LoadEvent D) → Prop}
    (sample : RobotSample D) (hok : ∀ t', Validated env s t t' → Q () s t')
    (herror : ∀ e, E e s t) : wp (checkLoad env sample) Q E s t := by
  unfold checkLoad
  cases hlimit : env.limits.expectedMEeKg with
  | none =>
    simp only [wp_ret]
    exact hok t (.unchecked hlimit)
  | some expectedMEeKg =>
    simp only
    rw [wp_bind, wp_read]
    beta_reduce
    rw [wp_bind, wp_check]
    refine ⟨fun _ => herror _, fun hcertain => ?_⟩
    have hcertain : s.loadConfigurationUncertain = false := by simpa using hcertain
    rw [wp_bind, wp_check]
    refine ⟨fun _ => herror _, fun _ => ?_⟩
    have hrest : wp (do
        check (FloatArith.isFinite sample.mTotal = false ∨
            isClose sample.mTotal (expectedMEeKg + s.expectedMassKg)
              env.limits.massToleranceKg = false)
          (runtimeException ("Franka total mass differs from the commissioned end effector " ++
            "plus active audited external load"))
        emit (.verified s.expectedMassKg)) Q E s t := by
      rw [wp_bind, wp_check]
      refine ⟨fun _ => herror _, fun _ => ?_⟩
      rw [wp_emit]
      exact hok _ (.verified (by rw [hlimit]; rfl) hcertain)
    rw [wp_bind, wp_runIf]
    exact ⟨fun _ => wp_checkActiveLoad hrest herror, fun _ => hrest⟩

theorem wp_readValidated
    {Q : RobotSample D → FrankaSequenceDriver D W → List (LoadEvent D) → Prop}
    {E : PyException → FrankaSequenceDriver D W → List (LoadEvent D) → Prop}
    (hok : ∀ world sample t', Validated env s t t' → Q sample { s with world } t')
    (herror : ∀ world e, E e { s with world } t) : wp (readValidated env) Q E s t := by
  unfold readValidated robotCall
  rw [wp_bind, wp_ofStep]
  refine ⟨fun sample _ => ?_, fun e _ => herror _ e⟩
  rw [wp_bind, wp_ofExcept]
  refine ⟨fun _ _ => ?_, fun e _ => herror _ e⟩
  rw [wp_bind]
  refine wp_checkLoad sample (fun t' ht' => ?_) fun e => herror _ e
  rw [wp_ret]
  refine hok _ sample t' ?_
  cases ht' with
  | unchecked hlimit => exact .unchecked hlimit
  | verified hlimit hcertain => exact .verified hlimit hcertain

/-! ## Calls of `set_load` -/

/-- **What a call of `set_load` may leave when it throws.** -/
inductive Interrupted (env : FrankaRobot D W) (s : FrankaSequenceDriver D W)
    (t : List (LoadEvent D)) (load : ExternalLoad D) :
    ExternalLoad D → List (LoadEvent D) → Prop where
  | uncalled : env.setLoad = none → Interrupted env s t load s.configured t
  | unapplied : env.setLoad.isSome = true →
      Interrupted env s t load s.configured (t ++ [.setLoad load])
  | applied : env.setLoad.isSome = true → Interrupted env s t load load (t ++ [.setLoad load])

theorem wp_callSetLoad {Q : Unit → FrankaSequenceDriver D W → List (LoadEvent D) → Prop}
    {E : PyException → FrankaSequenceDriver D W → List (LoadEvent D) → Prop} {massKg : D}
    {centerM : Vec 3 D} {inertiaKgM2 : Matrix 3 D}
    (hok : ∀ world, env.setLoad.isSome = true →
      Q () { s with world, configured := ⟨massKg, centerM, columnMajor inertiaKgM2⟩ }
        (t ++ [.setLoad ⟨massKg, centerM, columnMajor inertiaKgM2⟩]))
    (herror : ∀ world e configured t',
      Interrupted env s t ⟨massKg, centerM, columnMajor inertiaKgM2⟩ configured t' →
      E e { s with world, configured } t') :
    wp (callSetLoad env massKg centerM inertiaKgM2) Q E s t := by
  unfold callSetLoad
  cases hsetter : env.setLoad with
  | none =>
    simp only [wp_fail]
    exact herror s.world _ _ _ (.uncalled hsetter)
  | some setter =>
    have hsome : env.setLoad.isSome = true := by
      rw [hsetter]
      rfl
    simp only
    rw [wp_bind, wp_emit, wp_ofStep]
    unfold setLoadStep
    cases hresult : setter ⟨massKg, centerM, columnMajor inertiaKgM2⟩ s.world with
    | mk result world =>
      cases result with
      | applied =>
        refine ⟨fun _ _ => ?_, fun e he => ?_⟩
        · simp only [hresult]
          exact hok world hsome
        · simp only [hresult] at he
          cases he
      | raised error applied =>
        cases applied with
        | true =>
          refine ⟨fun _ h => ?_, fun e _ => ?_⟩
          · simp only [hresult] at h
            cases h
          · simp only [hresult]
            exact herror world e _ _ (.applied hsome)
        | false =>
          refine ⟨fun _ h => ?_, fun e _ => ?_⟩
          · simp only [hresult] at h
            cases h
          · simp only [hresult]
            exact herror world e _ _ (.unapplied hsome)

/-! ## The invariant -/

/-- **The mirror**: the robot is configured for the load that the driver expects. -/
def Mirrored (s : FrankaSequenceDriver D W) : Prop :=
  s.configured = ⟨s.expectedMassKg, s.expectedCenterM, columnMajor s.expectedInertiaKgM2⟩

/-- **No load was set**: the robot has the load that it had at first, and none is expected. -/
structure Untouched (load₀ : ExternalLoad D) (s : FrankaSequenceDriver D W)
    (t : List (LoadEvent D)) : Prop where
  uncalled : ∀ load, .setLoad load ∉ t
  configured : s.configured = load₀
  massKg : s.expectedMassKg = FloatArith.zero
  centerM : s.expectedCenterM = zeros3
  inertiaKgM2 : s.expectedInertiaKgM2 = zeros33

structure Consistent (env : FrankaRobot D W) (s : FrankaSequenceDriver D W) : Prop where
  idle : s.controlHandleActive = false
  bound : s.bindingSha256.isSome = true ↔ FloatArith.zero < s.expectedMassKg
  unbound : s.bindingSha256 = none → s.expectedMassKg = FloatArith.zero
  uncommissioned : env.limits.expectedMEeKg = none → s.bindingSha256 = none

/-- **The invariant between two calls.** -/
structure Sound (env : FrankaRobot D W) (load₀ : ExternalLoad D) (s : FrankaSequenceDriver D W)
    (t : List (LoadEvent D)) : Prop extends Consistent env s where
  commissioned : s.loadConfigurationUncertain = true → env.limits.expectedMEeKg.isSome = true
  mirror : s.loadConfigurationUncertain = false → Mirrored s ∨ Untouched load₀ s t

structure ZeroFacts (D : Type) [FloatArith D] : Prop where
  irrefl : ¬ (FloatArith.zero : D) < FloatArith.zero
  close : isClose (FloatArith.zero : D) FloatArith.zero FloatArith.zero = true

theorem zeroFacts_binary64 : ZeroFacts Binary64 := ⟨by decide +kernel, by decide +kernel⟩

variable {load₀ : ExternalLoad D}

theorem Validated.setLoad_mem (h : Validated env s t t') {load : ExternalLoad D}
    (hmem : .setLoad load ∈ t') : .setLoad load ∈ t := by
  cases h with
  | unchecked => exact hmem
  | verified =>
    rcases List.mem_append.mp hmem with hmem | hmem
    · exact hmem
    · cases List.mem_singleton.mp hmem

theorem Consistent.world (h : Consistent env s) (world : W) : Consistent env { s with world } :=
  ⟨h.idle, h.bound, h.unbound, h.uncommissioned⟩

theorem Sound.still (h : Sound env load₀ s t) (world : W)
    (ht : ∀ load, .setLoad load ∈ t' → .setLoad load ∈ t) :
    Sound env load₀ { s with world } t' := by
  refine ⟨h.toConsistent.world world, h.commissioned, fun hcertain => ?_⟩
  rcases h.mirror hcertain with hmirror | huntouched
  · exact .inl hmirror
  · exact .inr ⟨fun load hmem => huntouched.uncalled load (ht load hmem), huntouched.configured,
      huntouched.massKg, huntouched.centerM, huntouched.inertiaKgM2⟩

theorem Sound.read (h : Sound env load₀ s t) (world : W) (ht : Validated env s t t') :
    Sound env load₀ { s with world } t' :=
  h.still world fun _ => ht.setLoad_mem

/-! ## Applying a load -/

structure Shaken (env : FrankaRobot D W) (s : FrankaSequenceDriver D W) : Prop
    extends Consistent env s where
  commissioned : env.limits.expectedMEeKg.isSome = true

theorem Shaken.congr (h : Shaken env s) (world : W) (configured : ExternalLoad D) :
    Shaken env { s with world, configured } :=
  ⟨⟨h.idle, h.bound, h.unbound, h.uncommissioned⟩, h.commissioned⟩

theorem Shaken.uncertain (h : Shaken env s) :
    Sound env load₀ { s with loadConfigurationUncertain := true } t :=
  ⟨⟨h.idle, h.bound, h.unbound, h.uncommissioned⟩, fun _ => h.commissioned,
    fun hcertain => by cases hcertain⟩

theorem Shaken.zero (hzero : ZeroFacts D) (h : Shaken env s) (world : W)
    (configured : ExternalLoad D) (flag : Bool) :
    Shaken env
      { s with
        world, configured
        expectedMassKg := FloatArith.zero
        expectedCenterM := zeros3
        expectedInertiaKgM2 := zeros33
        bindingSha256 := none
        loadConfigurationUncertain := flag } :=
  ⟨⟨h.idle, ⟨fun hnone => (by cases hnone), fun hpos => absurd hpos hzero.irrefl⟩, fun _ => rfl,
    fun _ => rfl⟩, h.commissioned⟩

theorem Shaken.sound (h : Shaken env s) (hmirror : Mirrored s) : Sound env load₀ s t :=
  ⟨h.toConsistent, fun _ => h.commissioned, fun _ => .inl hmirror⟩

theorem triple_applyLoad {massKg : D} {centerM : Vec 3 D} {inertiaKgM2 : Matrix 3 D}
    {binding : String} (hmass : FloatArith.zero < massKg) :
    Triple (fun s _ => Shaken env s) (applyLoad env massKg centerM inertiaKgM2 binding)
      (fun _ => Sound env load₀) fun _ s _ => Shaken env s := by
  intro s t h
  unfold applyLoad
  rw [wp_bind]
  refine wp_callSetLoad (fun world _ => ?_) fun world _ configured _ _ => h.congr world configured
  unfold setExpectedExternalLoad
  rw [wp_bind, wp_update, wp_bind]
  have hbound : Shaken env
      { s with
        world
        configured := ⟨massKg, centerM, columnMajor inertiaKgM2⟩
        expectedMassKg := massKg
        expectedCenterM := centerM
        expectedInertiaKgM2 := inertiaKgM2
        bindingSha256 := some binding } :=
    ⟨⟨h.idle, ⟨fun _ => hmass, fun _ => rfl⟩, fun hnone => (by cases hnone), fun hnone => ?_⟩,
      h.commissioned⟩
  · refine wp_readValidated (fun world' sample t' ht' => ?_) fun world' e => hbound.congr world' _
    rw [wp_ret]
    exact (hbound.congr world' _).sound rfl
  · have hsome := h.commissioned
    rw [hnone] at hsome
    cases hsome

theorem triple_rollBack (hzero : ZeroFacts D) :
    Triple (fun s _ => Shaken env s) (rollBack env) (fun _ => Sound env load₀)
      fun _ s _ => Shaken env s := by
  intro s t h
  unfold rollBack
  rw [wp_bind]
  refine wp_callSetLoad (fun world _ => ?_) fun world _ configured _ _ => h.congr world configured
  unfold setExpectedExternalLoad
  rw [wp_bind, wp_update, wp_bind]
  have hcleared := h.zero hzero world zeroLoad s.loadConfigurationUncertain
  refine wp_readValidated (fun world' sample t' ht' => ?_) fun world' e => hcleared.congr world' _
  rw [wp_ret]
  exact (hcleared.congr world' _).sound rfl

theorem triple_recoverApply (hzero : ZeroFacts D) (e : PyException) :
    Triple (fun s _ => Shaken env s) (recoverApply env e) (fun _ => Sound env load₀)
      fun _ => Sound env load₀ := by
  unfold recoverApply
  have hrollBack : Triple (fun s _ => Shaken env s) (rollBack env) (fun _ => Sound env load₀)
      fun _ s _ => Shaken env s := triple_rollBack hzero
  refine Triple.caught hrollBack (fun _ => ?_) fun rollbackError => ?_
  · exact triple_fail fun _ _ h => h
  · refine Triple.seq (M := Sound env load₀) (triple_update fun _ _ h => h.uncertain) fun _ => ?_
    refine Triple.seq (M := Sound env load₀) (triple_emit fun s t h => ?_) fun _ =>
      triple_fail fun _ _ h => h
    refine h.still s.world fun load hmem => ?_
    rcases List.mem_append.mp hmem with hmem | hmem
    · exact hmem
    · cases List.mem_singleton.mp hmem

/-- **An application keeps the invariant**, however it ends. -/
theorem sound_applyExternalLoadAndVerify (hzero : ZeroFacts D) (payload : PayloadArgument D) :
    Triple (Sound env load₀) (applyExternalLoadAndVerify env payload) (fun _ => Sound env load₀)
      fun _ => Sound env load₀ := by
  intro s t h
  unfold applyExternalLoadAndVerify requireConfigurationIdle
  rw [wp_bind, wp_ofExcept]
  refine ⟨fun accepted hcoerce => ?_, fun _ _ => h⟩
  obtain ⟨massKg, centerM, inertiaKgM2, binding⟩ := accepted
  obtain ⟨hcommissioned, hmass⟩ := accepted_of_coerce hcoerce
  simp only
  rw [wp_bind, wp_bind, wp_read]
  beta_reduce
  rw [wp_check]
  refine ⟨fun _ => h, fun _ => ?_⟩
  rw [wp_bind, wp_read]
  beta_reduce
  rw [wp_bind, wp_check]
  refine ⟨fun _ => h, fun _ => ?_⟩
  rw [wp_bind, wp_check]
  refine ⟨fun _ => h, fun _ => ?_⟩
  rw [wp_bind]
  refine wp_readValidated (fun world sample t' ht' => ?_) fun world e => h.still world fun _ hm => hm
  have hshaken : Shaken env { s with world } := ⟨h.toConsistent.world world, hcommissioned⟩
  have happly : Triple (fun s _ => Shaken env s) (applyLoad env massKg centerM inertiaKgM2 binding)
      (fun _ => Sound env load₀) fun _ s _ => Shaken env s := triple_applyLoad hmass
  refine (Triple.caught happly (fun _ => ?_) fun e => ?_ :
    Triple (fun s _ => Shaken env s) _ _ _) _ _ hshaken
  · exact triple_ret fun _ _ h => h
  · exact triple_recoverApply hzero e

/-! ## Clearing the load -/

theorem triple_clearOrLatch (hzero : ZeroFacts D) :
    Triple (fun s _ => Shaken env s) (clearOrLatch env) (fun _ => Sound env load₀)
      fun _ => Sound env load₀ := by
  have hclear : Triple (fun s _ => Shaken env s) (clearLoad env) (fun _ => Sound env load₀)
      fun _ s _ => Shaken env s := by
    intro s t h
    unfold clearLoad
    rw [wp_bind]
    refine wp_callSetLoad (fun world _ => ?_) fun world _ configured _ _ => h.congr world configured
    unfold setExpectedExternalLoad
    rw [wp_bind, wp_update, wp_bind, wp_update, wp_bind]
    have hcleared := h.zero hzero world zeroLoad false
    refine wp_readValidated (fun world' sample t' ht' => ?_) fun world' e => hcleared.congr world' _
    rw [wp_ret]
    exact (hcleared.congr world' _).sound rfl
  unfold clearOrLatch
  refine Triple.caught hclear (fun _ => triple_ret fun _ _ h => h) fun e => ?_
  exact Triple.seq (M := Sound env load₀) (triple_update fun _ _ h => h.uncertain) fun _ =>
    triple_fail fun _ _ h => h

theorem sound_clearExternalLoadAndVerify (hzero : ZeroFacts D) :
    Triple (Sound env load₀) (clearExternalLoadAndVerify env) (fun _ => Sound env load₀)
      fun _ => Sound env load₀ := by
  intro s t h
  unfold clearExternalLoadAndVerify requireConfigurationIdle
  rw [wp_bind, wp_bind, wp_read]
  beta_reduce
  rw [wp_check]
  refine ⟨fun _ => h, fun _ => ?_⟩
  rw [wp_bind, wp_read]
  beta_reduce
  rw [wp_ite]
  refine ⟨fun huncertain => ?_, fun _ => ?_⟩
  · exact triple_clearOrLatch hzero s t ⟨h.toConsistent, h.commissioned huncertain⟩
  unfold clearKnownLoad
  rw [wp_bind]
  refine wp_readValidated (fun world sample t' ht' => ?_) fun world e => h.still world fun _ hm => hm
  rw [wp_bind, wp_read]
  beta_reduce
  rw [wp_ite]
  refine ⟨fun _ => ?_, fun hload => ?_⟩
  · rw [wp_ret]
    exact h.read world ht'
  -- without a commissioned end effector there is no load to clear
  have hcommissioned : env.limits.expectedMEeKg.isSome = true := by
    rw [Option.isSome_iff_ne_none]
    intro hnone
    have hbinding := h.uncommissioned hnone
    refine hload ⟨?_, ?_⟩
    · show s.bindingSha256.isNone = true
      rw [hbinding]
      rfl
    · show isClose s.expectedMassKg FloatArith.zero FloatArith.zero = true
      rw [h.unbound hbinding]
      exact hzero.close
  exact triple_clearOrLatch hzero _ _ ⟨h.toConsistent.world world, hcommissioned⟩

/-! ## Motions -/

/-- **What a motion leaves**: the load is the same, and `set_load` was not called. -/
def Still (s₀ : FrankaSequenceDriver D W) (t₀ : List (LoadEvent D)) (s : FrankaSequenceDriver D W)
    (t : List (LoadEvent D)) : Prop :=
  (∃ world, s = { s₀ with world }) ∧ ∀ load, .setLoad load ∈ t → .setLoad load ∈ t₀

def Leaves (m : DriverM D W α) : Prop :=
  ∀ s₀ t₀, Triple (Still s₀ t₀) m (fun _ => Still s₀ t₀) fun _ => Still s₀ t₀

theorem Leaves.seq {m : DriverM D W α} {f : α → DriverM D W β} (hm : Leaves m)
    (hf : ∀ a, Leaves (f a)) : Leaves (m >>= f) :=
  fun s₀ t₀ => Triple.seq (hm s₀ t₀) fun a => hf a s₀ t₀

theorem leaves_ret (a : α) : Leaves (ret a : DriverM D W α) :=
  fun _ _ => triple_ret fun _ _ h => h

theorem leaves_fail (e : PyException) : Leaves (fail e : DriverM D W α) :=
  fun _ _ => triple_fail fun _ _ h => h

theorem leaves_ofExcept (r : Except PyException α) : Leaves (ofExcept r : DriverM D W α) :=
  fun _ _ => (triple_ofExcept fun _ _ _ h => h).post fun _ _ _ h => h.2

theorem leaves_check {c : Prop} [Decidable c] (e : PyException) :
    Leaves (check c e : DriverM D W Unit) :=
  fun s₀ t₀ => (triple_check (E := fun _ => Still s₀ t₀) fun _ _ h => h).post fun _ _ _ h => h.2

theorem leaves_look {f : FrankaSequenceDriver D W → DriverM D W α} (hf : ∀ s, Leaves (f s)) :
    Leaves (Program.read >>= f) :=
  fun s₀ t₀ => Triple.look fun s => (hf s s₀ t₀).pre fun _ _ h => h.2

theorem leaves_robotCall (f : W → Except PyException α × W) :
    Leaves (robotCall f : DriverM D W α) := by
  intro s₀ t₀ s t h
  obtain ⟨⟨world, rfl⟩, ht⟩ := h
  unfold robotCall
  rw [wp_ofStep]
  exact ⟨fun _ _ => ⟨⟨_, rfl⟩, ht⟩, fun _ _ => ⟨⟨_, rfl⟩, ht⟩⟩

theorem leaves_emit {event : LoadEvent D} (hevent : ∀ load, event ≠ .setLoad load) :
    Leaves (emit event : DriverM D W Unit) := by
  intro s₀ t₀
  refine triple_emit fun s t h => ⟨h.1, fun load hmem => ?_⟩
  rcases List.mem_append.mp hmem with hmem | hmem
  · exact h.2 load hmem
  · exact absurd (List.mem_singleton.mp hmem).symm (hevent load)

theorem leaves_readValidated : Leaves (readValidated env) := by
  intro s₀ t₀ s t h
  obtain ⟨⟨world, rfl⟩, ht⟩ := h
  refine wp_readValidated (fun world' sample t' ht' => ?_) fun world' e => ⟨⟨world', rfl⟩, ht⟩
  exact ⟨⟨world', rfl⟩, fun load hmem => ht load (ht'.setLoad_mem hmem)⟩

theorem leaves_runSegmentLocked (control : W → Except PyException Unit × W) :
    Leaves (runSegmentLocked env control) := by
  unfold runSegmentLocked
  refine leaves_readValidated.seq fun _ => ?_
  refine (leaves_robotCall _).seq fun _ => ?_
  refine (leaves_robotCall _).seq fun _ => ?_
  exact (leaves_emit (fun _ h => by cases h)).seq fun _ => leaves_robotCall _

theorem leaves_runSegment (control : W → Except PyException Unit × W) (s₀ t₀)
    (hidle : s₀.controlHandleActive = false) :
    Triple (Still s₀ t₀) (runSegment env control) (fun _ => Still s₀ t₀) fun _ => Still s₀ t₀ := by
  intro s t h
  obtain ⟨⟨world, rfl⟩, ht⟩ := h
  unfold runSegment requireConfigurationIdle
  rw [wp_bind, wp_bind, wp_read]
  beta_reduce
  rw [wp_check]
  refine ⟨fun _ => ⟨⟨world, rfl⟩, ht⟩, fun _ => ?_⟩
  rw [wp_bind, wp_update]
  have hreleased : ∀ r : Except PyException Unit,
      Triple (Still { s₀ with controlHandleActive := true } t₀) (do
        update fun s => { s with controlHandleActive := false }
        ofExcept r : DriverM D W Unit) (fun _ => Still s₀ t₀) fun _ => Still s₀ t₀ := by
    intro r
    refine Triple.seq (M := Still s₀ t₀) (triple_update ?_) fun _ => leaves_ofExcept r s₀ t₀
    rintro s t ⟨⟨world', rfl⟩, ht⟩
    refine ⟨⟨world', ?_⟩, ht⟩
    rw [← hidle]
  exact Triple.caught (leaves_runSegmentLocked control { s₀ with controlHandleActive := true } t₀)
    (fun _ => hreleased _) (fun _ => hreleased _) _ _ ⟨⟨world, rfl⟩, ht⟩

def LeavesIdle (m : DriverM D W α) : Prop :=
  ∀ s₀ t₀, s₀.controlHandleActive = false →
    Triple (Still s₀ t₀) m (fun _ => Still s₀ t₀) fun _ => Still s₀ t₀

theorem Leaves.idle {m : DriverM D W α} (h : Leaves m) : LeavesIdle m := fun s₀ t₀ _ => h s₀ t₀

theorem LeavesIdle.seq {m : DriverM D W α} {f : α → DriverM D W β} (hm : LeavesIdle m)
    (hf : ∀ a, LeavesIdle (f a)) : LeavesIdle (m >>= f) :=
  fun s₀ t₀ hidle => Triple.seq (hm s₀ t₀ hidle) fun a => hf a s₀ t₀ hidle

theorem leaves_idleBoundary {S : Type} (law : SegmentLaw D S) : Leaves (idleBoundary env law) := by
  unfold idleBoundary
  refine leaves_readValidated.seq fun sample => ?_
  refine (leaves_ofExcept _).seq fun arrived => ?_
  exact (leaves_robotCall _).seq fun _ => leaves_ret _

theorem leaves_dynamicSegment {S : Type} (law : SegmentLaw D S)
    (control : S → W → Except PyException Unit × W) (sample : RobotSample D) :
    LeavesIdle (dynamicSegment env law control sample) := by
  unfold dynamicSegment
  refine (leaves_ofExcept _).idle.seq fun segment => ?_
  refine LeavesIdle.seq (leaves_runSegment (control segment)) fun _ => ?_
  refine leaves_readValidated.idle.seq fun final => ?_
  exact (leaves_ofExcept _).idle.seq fun _ => (leaves_robotCall _).idle

theorem leaves_dynamicSegments {S : Type} (law : SegmentLaw D S)
    (control : S → W → Except PyException Unit × W) (limitMessage : String) (n : ℕ) :
    LeavesIdle (dynamicSegments env law control limitMessage n) := by
  induction n with
  | zero =>
    refine (leaves_idleBoundary law).idle.seq fun sample => ?_
    cases sample with
    | none => exact (leaves_ret _).idle
    | some sample => exact (leaves_fail _).idle
  | succ n ih =>
    refine (leaves_idleBoundary law).idle.seq fun sample => ?_
    cases sample with
    | none => exact (leaves_ret _).idle
    | some sample => exact (leaves_dynamicSegment law control sample).seq fun _ => ih

theorem leaves_stoppingOnFailure {m : DriverM D W Unit} (hm : LeavesIdle m) :
    LeavesIdle (stoppingOnFailure env m) := by
  intro s₀ t₀ hidle
  unfold stoppingOnFailure
  refine Triple.caught (hm s₀ t₀ hidle) (fun _ => leaves_ret _ s₀ t₀) fun e => ?_
  exact (leaves_robotCall _).seq (fun _ => leaves_fail e) s₀ t₀

theorem leaves_moveJointsWithTimeLaw (q : Except PyException (Vec 7 D)) (maxDynamicSegmentRad : D) :
    LeavesIdle (moveJointsWithTimeLaw env q maxDynamicSegmentRad) := by
  refine leaves_stoppingOnFailure ?_
  refine (leaves_ofExcept _).idle.seq fun target => ?_
  exact (leaves_ofExcept _).idle.seq fun _ => leaves_dynamicSegments _ _ _ _

theorem leaves_motion (call : LoadCall D) (hmotion : call.isMotion = true) :
    LeavesIdle (callOf env call) := by
  cases call with
  | applyExternalLoadAndVerify payload => cases hmotion
  | clearExternalLoadAndVerify => cases hmotion
  | moveJoints q => exact leaves_moveJointsWithTimeLaw q _
  | moveLoadedJoints q law =>
    refine (leaves_ofExcept _).idle.seq fun _ => ?_
    refine (leaves_look fun s => leaves_check _).idle.seq fun _ => ?_
    refine LeavesIdle.seq (m := Program.read) (Leaves.idle fun s₀ t₀ => ?_) fun s => ?_
    · intro s t h
      rw [wp_read]
      exact h
    · exact (leaves_check _).idle.seq fun _ => leaves_moveJointsWithTimeLaw q _
  | movePose admitted law =>
    refine leaves_stoppingOnFailure ?_
    exact (leaves_ofExcept _).idle.seq fun _ => leaves_dynamicSegments _ _ _ _
  | holdPoseControl admitted live final =>
    refine leaves_stoppingOnFailure ?_
    refine (leaves_ofExcept _).idle.seq fun _ => ?_
    refine leaves_readValidated.idle.seq fun sample => ?_
    refine (leaves_ofExcept _).idle.seq fun pose => ?_
    refine (leaves_robotCall _).idle.seq fun _ => ?_
    refine LeavesIdle.seq (leaves_runSegment _) fun _ => ?_
    refine leaves_readValidated.idle.seq fun last => ?_
    exact (leaves_ofExcept _).idle.seq fun _ => (leaves_robotCall _).idle

theorem sound_callOf (hzero : ZeroFacts D) (call : LoadCall D) (h : Sound env load₀ s t) :
    wp (callOf env call) (fun _ => Sound env load₀) (fun _ => Sound env load₀) s t := by
  cases hmotion : call.isMotion with
  | true =>
    have hstill : ∀ s' t', Still s t s' t' → Sound env load₀ s' t' := by
      rintro s' t' ⟨⟨world, rfl⟩, ht⟩
      exact h.still world ht
    refine wp_mono (leaves_motion call hmotion s t h.idle s t ⟨⟨s.world, rfl⟩, fun _ hm => hm⟩)
      (fun _ => hstill) fun _ => hstill
  | false =>
    cases call with
    | applyExternalLoadAndVerify payload => exact sound_applyExternalLoadAndVerify hzero payload s t h
    | clearExternalLoadAndVerify => exact sound_clearExternalLoadAndVerify hzero s t h
    | moveJoints q => cases hmotion
    | moveLoadedJoints q law => cases hmotion
    | movePose admitted law => cases hmotion
    | holdPoseControl admitted live final => cases hmotion

/-! ## While the load is uncertain -/

/-- The driver does not know the load, and nothing happened since `t₀`. -/
def Doubtful (t₀ : List (LoadEvent D)) (s : FrankaSequenceDriver D W) (t : List (LoadEvent D)) :
    Prop :=
  s.loadConfigurationUncertain = true ∧ t = t₀

def Harmless (m : DriverM D W α) : Prop :=
  ∀ t₀, Triple (Doubtful t₀) m (fun _ => Doubtful t₀) fun _ => Doubtful t₀

/-- **A program that throws in doubt**, without events. -/
def Refuses (m : DriverM D W α) : Prop :=
  ∀ t₀, Triple (Doubtful t₀) m (fun _ _ _ => False) fun _ => Doubtful t₀

theorem Harmless.seq {m : DriverM D W α} {f : α → DriverM D W β} (hm : Harmless m)
    (hf : ∀ a, Refuses (f a)) : Refuses (m >>= f) :=
  fun t₀ => Triple.seq (hm t₀) fun a => hf a t₀

theorem Refuses.seq {m : DriverM D W α} (hm : Refuses m) (f : α → DriverM D W β) :
    Refuses (m >>= f) :=
  fun t₀ => Triple.bind (hm t₀) fun _ _ _ h => h.elim

theorem harmless_ofExcept (r : Except PyException α) : Harmless (ofExcept r : DriverM D W α) :=
  fun _ => (triple_ofExcept fun _ _ _ h => h).post fun _ _ _ h => h.2

theorem harmless_robotCall (f : W → Except PyException α × W) :
    Harmless (robotCall f : DriverM D W α) := by
  intro t₀ s t h
  unfold robotCall
  rw [wp_ofStep]
  exact ⟨fun _ _ => h, fun _ _ => h⟩

theorem harmless_requireConfigurationIdle :
    Harmless (requireConfigurationIdle : DriverM D W Unit) := by
  intro t₀ s t h
  unfold requireConfigurationIdle
  rw [wp_bind, wp_read]
  beta_reduce
  rw [wp_check]
  exact ⟨fun _ => h, fun _ => h⟩

/-- **A validated read throws in doubt**, where loads are checked. -/
theorem refuses_readValidated (hcommissioned : env.limits.expectedMEeKg.isSome = true) :
    Refuses (readValidated env) := by
  intro t₀ s t h
  refine wp_readValidated (fun world sample t' ht' => ?_) fun world e => h
  cases ht' with
  | unchecked hnone =>
    rw [hnone] at hcommissioned
    cases hcommissioned
  | verified _ hcertain => exact absurd (hcertain.symm.trans h.1) (by decide)

theorem refuses_dynamicSegments {S : Type} (hcommissioned : env.limits.expectedMEeKg.isSome = true)
    (law : SegmentLaw D S) (control : S → W → Except PyException Unit × W) (limitMessage : String)
    (n : ℕ) : Refuses (dynamicSegments env law control limitMessage n) := by
  have hboundary : Refuses (idleBoundary env law) := (refuses_readValidated hcommissioned).seq _
  cases n with
  | zero => exact hboundary.seq _
  | succ n => exact hboundary.seq _

theorem refuses_stoppingOnFailure {m : DriverM D W Unit} (hm : Refuses m) :
    Refuses (stoppingOnFailure env m) := by
  intro t₀
  unfold stoppingOnFailure
  refine Triple.caught (hm t₀) (fun _ _ _ h => h.elim) fun e => ?_
  exact Harmless.seq (harmless_robotCall _) (fun _ _ => triple_fail fun _ _ h => h) t₀

theorem refuses_moveJointsWithTimeLaw (hcommissioned : env.limits.expectedMEeKg.isSome = true)
    (q : Except PyException (Vec 7 D)) (maxDynamicSegmentRad : D) :
    Refuses (moveJointsWithTimeLaw env q maxDynamicSegmentRad) := by
  refine refuses_stoppingOnFailure ?_
  refine (harmless_ofExcept _).seq fun target => ?_
  exact (harmless_ofExcept _).seq fun _ => refuses_dynamicSegments hcommissioned _ _ _ _

/-- **Every motion is refused in doubt**, before anything happens. -/
theorem refuses_motion (hcommissioned : env.limits.expectedMEeKg.isSome = true) (call : LoadCall D)
    (hmotion : call.isMotion = true) : Refuses (callOf env call) := by
  cases call with
  | applyExternalLoadAndVerify payload => cases hmotion
  | clearExternalLoadAndVerify => cases hmotion
  | moveJoints q => exact refuses_moveJointsWithTimeLaw hcommissioned q _
  | moveLoadedJoints q law =>
    refine (harmless_ofExcept _).seq fun _ => ?_
    refine harmless_requireConfigurationIdle.seq fun _ => ?_
    intro t₀ s t h
    rw [wp_bind, wp_read]
    beta_reduce
    rw [wp_bind, wp_check]
    exact ⟨fun _ => h, fun hload => absurd (.inl h.1) hload⟩
  | movePose admitted law =>
    refine refuses_stoppingOnFailure ?_
    exact (harmless_ofExcept _).seq fun _ => refuses_dynamicSegments hcommissioned _ _ _ _
  | holdPoseControl admitted live final =>
    refine refuses_stoppingOnFailure ?_
    exact (harmless_ofExcept _).seq fun _ => (refuses_readValidated hcommissioned).seq _

theorem refuses_applyExternalLoadAndVerify (payload : PayloadArgument D) :
    Refuses (applyExternalLoadAndVerify env payload) := by
  refine (harmless_ofExcept _).seq fun accepted => ?_
  refine harmless_requireConfigurationIdle.seq fun _ => ?_
  intro t₀ s t h
  rw [wp_bind, wp_read]
  beta_reduce
  rw [wp_bind, wp_check]
  exact ⟨fun _ => h, fun hcertain => absurd h.1 hcertain⟩

/-- **A clear dispels the doubt** only by a zero load that is set and verified. -/
theorem triple_clear_doubtful (hcommissioned : env.limits.expectedMEeKg.isSome = true)
    (t₀ : List (LoadEvent D)) :
    Triple (Doubtful t₀) (clearExternalLoadAndVerify env)
      (fun _ _ t => t = t₀ ++ [.setLoad zeroLoad, .verified FloatArith.zero])
      fun _ s _ => s.loadConfigurationUncertain = true := by
  rintro s t ⟨huncertain, rfl⟩
  unfold clearExternalLoadAndVerify requireConfigurationIdle
  rw [wp_bind, wp_bind, wp_read]
  beta_reduce
  rw [wp_check]
  refine ⟨fun _ => huncertain, fun _ => ?_⟩
  rw [wp_bind, wp_read]
  beta_reduce
  rw [wp_ite]
  refine ⟨fun _ => ?_, fun hcertain => absurd huncertain hcertain⟩
  unfold clearOrLatch clearLoad setExpectedExternalLoad
  rw [wp_bind, wp_attempt, wp_bind]
  refine wp_callSetLoad (fun world _ => ?_) fun world e configured t' _ => ?_
  · rw [wp_bind, wp_update, wp_bind, wp_update, wp_bind]
    refine wp_readValidated (fun world' sample t' ht' => ?_) fun world' e => ?_
    · rw [wp_ret, wp_ret]
      cases ht' with
      | unchecked hnone =>
        rw [hnone] at hcommissioned
        cases hcommissioned
      | verified => simp [zeroLoad]
    · rw [wp_bind, wp_update, wp_fail]
  · rw [wp_bind, wp_update, wp_fail]

/-! ## Runs -/

/-- **The law of the load's mirror** between two calls. -/
structure MirrorLaw (env : FrankaRobot D W) (load₀ : ExternalLoad D)
    (s : FrankaSequenceDriver D W) (t : List (LoadEvent D)) : Prop where
  /-- **A driver that is certain knows the load**, if it ever set one. -/
  mirror : s.loadConfigurationUncertain = false → Mirrored s ∨ Untouched load₀ s t
  bound : s.bindingSha256.isSome = true ↔ FloatArith.zero < s.expectedMassKg
  /-- **In doubt every motion throws** before it starts a control handle. -/
  refused : s.loadConfigurationUncertain = true → ∀ call : LoadCall D, call.isMotion = true →
    (∃ e, (callOf env call s).1 = .error e) ∧ .handleStarted ∉ (callOf env call s).2.2
  /-- **Only a clear that set and verified a zero load dispels the doubt.** -/
  dispelled : s.loadConfigurationUncertain = true → ∀ call : LoadCall D,
    (callOf env call s).2.1.loadConfigurationUncertain = false →
      call = .clearExternalLoadAndVerify ∧ (callOf env call s).1 = .ok () ∧
        (callOf env call s).2.2 = [.setLoad zeroLoad, .verified FloatArith.zero]

theorem Refuses.result {m : DriverM D W Unit} (h : Refuses m)
    (huncertain : s.loadConfigurationUncertain = true) :
    (∃ e, (m s).1 = .error e) ∧ (m s).2.1.loadConfigurationUncertain = true ∧ (m s).2.2 = [] := by
  have hwp : wp m (fun _ _ _ => False) (fun _ => Doubtful []) s [] := h [] s [] ⟨huncertain, rfl⟩
  let P (r : Except PyException Unit) (s : FrankaSequenceDriver D W) (t : List (LoadEvent D)) :=
    (∃ e, r = .error e) ∧ s.loadConfigurationUncertain = true ∧ t = []
  exact wp_result (P := P) (wp_mono hwp (fun _ _ _ h => h.elim) fun e _ _ h => ⟨⟨e, rfl⟩, h⟩)

theorem Sound.law (h : Sound env load₀ s t) : MirrorLaw env load₀ s t := by
  refine ⟨h.mirror, h.bound, fun huncertain call hmotion => ?_, fun huncertain call hcertain => ?_⟩
  · obtain ⟨hthrown, -, hevents⟩ :=
      (refuses_motion (h.commissioned huncertain) call hmotion).result huncertain
    rw [hevents]
    exact ⟨hthrown, List.not_mem_nil⟩
  · have hrefused : ∀ {m : DriverM D W Unit}, Refuses m →
        (m s).2.1.loadConfigurationUncertain = false → False := fun hm hc =>
      absurd (hc.symm.trans (hm.result huncertain).2.1) (by decide)
    cases hmotion : call.isMotion with
    | true =>
      exact (hrefused (refuses_motion (h.commissioned huncertain) call hmotion) hcertain).elim
    | false =>
      cases call with
      | applyExternalLoadAndVerify payload =>
        exact (hrefused (refuses_applyExternalLoadAndVerify payload) hcertain).elim
      | clearExternalLoadAndVerify =>
        let P (r : Except PyException Unit) (s : FrankaSequenceDriver D W)
            (t : List (LoadEvent D)) :=
          s.loadConfigurationUncertain = false →
            r = .ok () ∧ t = [.setLoad zeroLoad, .verified FloatArith.zero]
        have hclear := wp_result (P := P) (wp_mono
          (triple_clear_doubtful (h.commissioned huncertain) [] s [] ⟨huncertain, rfl⟩)
          (fun _ _ _ ht _ => ⟨rfl, ht⟩) fun _ _ _ hu hc => absurd (hc.symm.trans hu) (by decide))
        exact ⟨rfl, hclear hcertain⟩
      | moveJoints q => cases hmotion
      | moveLoadedJoints q law => cases hmotion
      | movePose admitted law => cases hmotion
      | holdPoseControl admitted live final => cases hmotion

/-- **The external load's mirror**: whatever the robot does, in every state between two calls a driver
that is certain of its load is right about it, and one that is not moves nothing. -/
theorem external_load_is_mirrored (env : FrankaRobot Binary64 W) (world : W)
    (load₀ : ExternalLoad Binary64) (calls : List (LoadCall Binary64)) :
    MirrorLaw env load₀ ((loadMachine env).run (.init world load₀) calls)
      ((loadMachine env).trace (.init world load₀) calls) := by
  have hstart : Sound env load₀ (.init world load₀) [] := by
    refine ⟨⟨rfl, ⟨fun h => (by cases h), fun h => absurd h zeroFacts_binary64.irrefl⟩, fun _ => rfl,
      fun _ => rfl⟩, fun h => (by cases h), fun _ => .inr ⟨fun _ h => ?_, rfl, rfl, rfl, rfl⟩⟩
    cases h
  have hrun := (loadMachine env).monitor_induction (P := Sound env load₀) hstart
    (fun s t call h => wp_outcome (sound_callOf zeroFacts_binary64 call h)) calls
  exact hrun.law

def oneKilogram : ExternalLoad Binary64 := ⟨FloatArith.one, zeros3, columnMajor zeros33⟩

/-- **A robot that carries a load from the beginning** is not mirrored: the constructor does not look. -/
theorem initial_load_is_not_mirrored :
    let s : FrankaSequenceDriver Binary64 Unit := .init () oneKilogram
    s.loadConfigurationUncertain = false ∧ s.configured.massKg ≠ s.expectedMassKg := by
  decide +kernel

end FrankaDeploy.FrankaDriver
