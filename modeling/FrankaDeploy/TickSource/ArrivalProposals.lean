import FrankaDeploy.TickSource.ArrivalLaw
import FrankaDeploy.TickSource.CallSpecs

/-! # Proposals under the arrival law

The law follows the source: what it reads are the calls and the events of the run, each measurement
that is checked was brought by its call, and its gate is the source's. Most statements leave the
gate and the events alone (`GateOnly`); the proofs follow `prepare` to the checks of the gate and to
the staging of a tick, which the law admits. -/

set_option linter.unusedSectionVars false

namespace FrankaDeploy.TickSource

open FrankaDeploy.Foundation FrankaDeploy.ClosedLoop FrankaDeploy.Contracts
open FrankaDeploy.Foundation.Program
open scoped FloatArith

variable {D S : Type} [FloatArith D] [FloatArith S] [FloatCast D S] {W : Type}
  {config : TickSourceConfig D S} {env : TickWorld D S W}
  {records : List ((PolicyTickSource D S W × TickCall env) ⊕ TickEvent D S)}
  {s s' : PolicyTickSource D S W} {t : List (TickEvent D S)} {c : ArrivalLaw D S}
  {P : ArrivalLaw D S → Prop}

/-! ## Following the law -/

variable (config records) in
/-- **The law takes a history of the records and the events to `c`.** -/
def Traced (t : List (TickEvent D S)) (c : ArrivalLaw D S) : Prop :=
  ∃ history : List (ArrivalEntry env),
    history.flatMap ArrivalEntry.record = records ++ t.map .inr ∧
      Monitor.Accepts (ArrivalStep config) .start history c

theorem Traced.silent {c' : ArrivalLaw D S} {entry : ArrivalEntry env}
    (h : Traced config records t c) (hstep : ArrivalStep config c entry c')
    (hsilent : entry.record = []) : Traced config records t c' := by
  obtain ⟨history, hrecord, haccepts⟩ := h
  refine ⟨history ++ [entry], ?_, .snoc haccepts hstep⟩
  rw [List.flatMap_append, hrecord, List.flatMap_singleton, hsilent, List.append_nil]

theorem Traced.snoc {c' : ArrivalLaw D S} {entry : ArrivalEntry env} {e : TickEvent D S}
    (h : Traced config records t c) (hstep : ArrivalStep config c entry c')
    (hshown : entry.record = [.inr e]) : Traced config records (t ++ [e]) c' := by
  obtain ⟨history, hrecord, haccepts⟩ := h
  refine ⟨history ++ [entry], ?_, .snoc haccepts hstep⟩
  rw [List.flatMap_append, hrecord, List.flatMap_singleton, hshown, List.map_append,
    List.append_assoc]
  rfl

variable (config records) in
/-- **The law follows the source**: `P` holds of it and its gate is the source's. -/
def Follows (P : ArrivalLaw D S → Prop) (s : PolicyTickSource D S W)
    (t : List (TickEvent D S)) : Prop :=
  ∃ c, Traced config records t c ∧ P c ∧ SameGate c.gate s.arrivalGate

variable (config records) in
def Lost (s : PolicyTickSource D S W) (t : List (TickEvent D S)) : Prop :=
  s.faultReason ≠ none ∧ ∃ c, Traced config records t c

variable (config records) in
def Stopped (e : TickException D S) (s : PolicyTickSource D S W) (t : List (TickEvent D S)) :
    Prop :=
  Lost config records s t ∧ ∃ error, e = .raised error

theorem SameGate.refl (g : ArrivalGate D S) : SameGate g g := ⟨g.holdCount, rfl⟩

theorem Follows.traced (h : Follows config records P s t) : ∃ c, Traced config records t c := by
  obtain ⟨c, hc, -⟩ := h
  exact ⟨c, hc⟩

theorem Follows.mono {Q : ArrivalLaw D S → Prop} (h : Follows config records P s t)
    (hPQ : ∀ c, P c → Q c) : Follows config records Q s t := by
  obtain ⟨c, hc, hP, hgate⟩ := h
  exact ⟨c, hc, hPQ c hP, hgate⟩

theorem Follows.event {Q : ArrivalLaw D S → Prop} {e : TickEvent D S}
    (h : Follows config records P s t) (hquiet : e.IsQuiet)
    (hPQ : ∀ c, P c → Q { c with presented := c.presented ++ e.measured }) :
    Follows config records Q s (t ++ [e]) := by
  obtain ⟨c, hc, hP, hgate⟩ := h
  exact ⟨_, hc.snoc (.event hquiet) rfl, hPQ c hP, hgate⟩

theorem Follows.countHold (h : Follows config records P s t) :
    wp (countGateHold : TickM D S W Unit) (fun _ => Follows config records P)
      (fun _ => Follows config records P) s t := by
  obtain ⟨c, hc, hP, holds, hgate⟩ := h
  unfold countGateHold setGate
  rw [wp_update]
  refine ⟨c, hc, hP, holds + 1, ?_⟩
  simp only [hgate]

/-! ## What leaves the gate alone -/

/-- **A relation that only looks at the gate** and the events. -/
def GateOnly (I : PolicyTickSource D S W → List (TickEvent D S) → Prop) : Prop :=
  ∀ s s' t, s'.arrivalGate = s.arrivalGate → I s t → I s' t

theorem gateOnly_follows : GateOnly (Follows config records P) := by
  rintro s s' t hgate ⟨c, hc, hP, hsame⟩
  exact ⟨c, hc, hP, hgate ▸ hsame⟩

section GateOnly

variable {I : PolicyTickSource D S W → List (TickEvent D S) → Prop} (hI : GateOnly I)
include hI

theorem GateOnly.keeps_update {f : PolicyTickSource D S W → PolicyTickSource D S W}
    (hf : ∀ s, (f s).arrivalGate = s.arrivalGate) : Keeps I (update f : TickM D S W Unit) :=
  Program.keeps_update fun s t h => hI s (f s) t (hf s) h

theorem GateOnly.keeps_environment {α : Type} (f : W → Except (TickException D S) α × W) :
    Keeps I (environment f) :=
  TickSource.keeps_environment fun s t h => hI s _ t rfl h

theorem GateOnly.keeps_nowMonotonic : Keeps I (nowMonotonic env) :=
  (hI.keeps_environment _).bind fun _ => keeps_ofExcept _

theorem GateOnly.keeps_nowRealtime : Keeps I (nowRealtime env) :=
  (hI.keeps_environment _).bind fun _ => keeps_ofExcept _

theorem GateOnly.keeps_pointcloudAge (o : V94PolicyObservation D S) :
    Keeps I (pointcloudAge config env o) := by
  refine hI.keeps_nowRealtime.bind fun _ => ?_
  exact (keeps_check _ _).bind fun _ => (keeps_check _ _).bind fun _ => keeps_ret _

omit hI in
theorem keeps_frankaStateAge (o : V94PolicyObservation D S) (now : D) :
    Keeps I (frankaStateAge config o now : TickM D S W D) := by
  refine (keeps_ofExcept _).bind fun _ => ?_
  exact (keeps_check _ _).bind fun _ => keeps_ret _

theorem GateOnly.keeps_holdLocked (sequence frameId : ℕ) (reason : String) (observed : D)
    (retryInterval : Option D) :
    Keeps I (holdLocked config sequence frameId reason observed retryInterval : TickM D S W _) :=
  TickSource.keeps_holdLocked (fun s t h => hI s _ t rfl h) _ _ _ _ _

theorem GateOnly.keeps_discardPolicyProposal (sequence : ℕ) :
    Keeps I (discardPolicyProposal env sequence) := by
  unfold discardPolicyProposal
  cases env.discardReplayProposal with
  | none => exact keeps_ret _
  | some discard => exact hI.keeps_environment _

theorem GateOnly.keeps_mapperCall {α : Type} (f : TransactionalV94ActionMapper D S →
    TransactionalV94ActionMapper D S × Except PyError α) :
    Keeps I (mapperCall f : TickM D S W α) :=
  keeps_ofStep fun s t h => hI s _ t rfl h

theorem GateOnly.keeps_shaperCall {α : Type} (f : RH56Shaper → RH56Shaper × Except PyError α) :
    Keeps I (shaperCall f : TickM D S W (Option α)) := by
  refine keeps_ofStep fun s t h => ?_
  cases hshaper : s.rh56HardwareCommandShaper with
  | none => exact h
  | some shaper => exact hI s _ t rfl h

theorem GateOnly.keeps_recordPolicyIoLocked (record : PolicyIoRecord D S) :
    Keeps I (recordPolicyIoLocked env record) := by
  intro s t h
  refine wp_mono (wp_recordPolicyIoLocked (fun s t x h => hI s _ t rfl h) record h)
    (fun _ _ _ h => h) fun _ _ _ h => h.1

theorem GateOnly.keeps_proposeAction (sequence : ℕ) (o : V94PolicyObservation D S)
    (output : PolicyOutput D S) (raw : FiniteVec 13 S) :
    Keeps I (proposeAction config sequence o output raw : TickM D S W _) := by
  unfold proposeAction
  cases output.exactFrankaTargetQRad with
  | none => exact (keeps_check _ _).bind fun _ => hI.keeps_mapperCall _
  | some arm =>
    cases output.exactRh56AngleSetRegisterOrder with
    | none => exact (keeps_check _ _).bind fun _ => hI.keeps_mapperCall _
    | some hand => exact hI.keeps_mapperCall _

theorem GateOnly.yields_stage {φ : PendingTick D S → Prop} {tick : ℕ → PendingTick D S}
    (htick : ∀ ident, φ (tick ident)) : Yields I φ (stage tick : TickM D S W _) := by
  refine keeps_read.yields_bind fun s => ?_
  refine Keeps.yields_bind (hI.keeps_update fun _ => rfl) fun _ => ?_
  exact yields_ret (htick _)

end GateOnly

/-! ## The check -/

theorem readonlyFloatArray_val {n : ℕ} {value : Vec n S} {name : String} {v : FiniteVec n S}
    (h : readonlyFloatArray value name = .ok v) : v.1 = value := by
  unfold readonlyFloatArray at h
  by_cases hfinite : value.allFinite = true
  · rw [dif_pos hfinite] at h
    cases h
    rfl
  · rw [dif_neg hfinite] at h
    cases h

theorem wp_judgeArrival (hgate : ∀ c gate, P c → P { c with gate := gate })
    {target start measured : FiniteVec 7 S} {reached : Vec 7 Bool} {started now : D} {holds : ℕ}
    (hc : Traced config records t c) (hP : P c) (hmeasured : measured.1 ∈ c.presented)
    (hsame : s.arrivalGate = { c.gate with holdCount := holds })
    (htarget : c.gate.targetQRad = some target) (hstart : c.gate.startQRad = some start)
    (hreached : c.gate.reachedAxes = some reached)
    (hstarted : c.gate.startedMonotonicS = some started) :
    wp (judgeArrival config target start measured reached (now - started))
      (fun arrived => Follows config records
        fun c => P c ∧ (arrived = true → c.gate.targetQRad = none))
      (Stopped config records) s t := by
  unfold judgeArrival setGate
  dsimp only
  rw [wp_bind, wp_update, wp_ite]
  refine ⟨fun hall => ?_, fun hopen => ?_⟩
  · -- every axis has arrived
    rw [wp_bind, wp_update, wp_ret]
    rw [List.all_eq_true] at hall
    have hcheck : GateCheck config c.gate measured now true _ :=
      .arrived htarget hstart hreached hstarted fun axis => hall axis (List.mem_finRange axis)
    refine ⟨_, hc.silent (.checked hmeasured hcheck) rfl, ⟨hgate _ _ hP, fun _ => rfl⟩, holds, ?_⟩
    rw [hsame]
    rfl
  · have hnot : ¬ ∀ axis, reachedAxes config reached target start measured axis = true :=
      fun h => hopen (List.all_eq_true.mpr fun axis _ => h axis)
    rw [wp_ite]
    refine ⟨fun _ => ?_, fun htime => ?_⟩
    · -- the timeout latches a fault
      unfold latchLocked
      rw [wp_bind, wp_update, wp_fail]
      exact ⟨⟨Option.some_ne_none _, c, hc⟩, _, rfl⟩
    · rw [wp_ret]
      have hcheck : GateCheck config c.gate measured now false _ :=
        .awaited htarget hstart hreached hstarted hnot htime
      refine ⟨_, hc.silent (.checked hmeasured hcheck) rfl, ⟨hgate _ _ hP, fun h => ?_⟩, holds, ?_⟩
      · cases h
      · rw [hsame]
        rfl

/-- **The gate is asked about a measurement of this call**: if it is reached, no target is awaited;
a timeout latches a fault. -/
theorem wp_checkGate (henabled : config.frankaArrivalGateEnabled = true)
    (hgate : ∀ c gate, P c → P { c with gate := gate }) {measured : Vec 7 S}
    (hmeasured : ∀ c, P c → measured ∈ c.presented) (now : D)
    (h : Follows config records P s t) :
    wp (checkFrankaArrivalGateLocked config measured now)
      (fun arrived => Follows config records
        fun c => P c ∧ (arrived = true → c.gate.targetQRad = none))
      (fun e s' t' => Follows config records P s' t' ∨ Stopped config records e s' t') s t := by
  obtain ⟨c, hc, hP, holds, hsame⟩ := h
  have hfollows : Follows config records P s t := ⟨c, hc, hP, holds, hsame⟩
  have hfields : s.arrivalGate.targetQRad = c.gate.targetQRad ∧
      s.arrivalGate.startQRad = c.gate.startQRad ∧
      s.arrivalGate.reachedAxes = c.gate.reachedAxes ∧
      s.arrivalGate.startedMonotonicS = c.gate.startedMonotonicS := by
    rw [hsame]
    exact ⟨rfl, rfl, rfl, rfl⟩
  obtain ⟨htarget', hstart', hreached', hstarted'⟩ := hfields
  unfold checkFrankaArrivalGateLocked
  rw [wp_bind, wp_read]
  beta_reduce
  rw [henabled, if_neg (by decide), htarget', hstart', hreached', hstarted']
  cases htarget : c.gate.targetQRad with
  | none =>
    simp only []
    rw [wp_ret]
    exact ⟨c, hc, ⟨hP, fun _ => htarget⟩, holds, hsame⟩
  | some target =>
    cases hstarted : c.gate.startedMonotonicS with
    | none =>
      simp only []
      rw [wp_fail]
      exact .inl hfollows
    | some started =>
      simp only []
      rw [wp_bind, wp_ofExcept]
      refine ⟨fun measured' hmeasured' => ?_, fun _ _ => .inl hfollows⟩
      rw [wp_bind, wp_ofExcept]
      refine ⟨fun now' _ => ?_, fun _ _ => .inl hfollows⟩
      rw [wp_bind, wp_check]
      refine ⟨fun _ => .inl hfollows, fun _ => ?_⟩
      have hsame_measured : measured'.1 = measured :=
        readonlyFloatArray_val (ofSource_eq_ok.mp hmeasured')
      cases hstart : c.gate.startQRad with
      | none =>
        simp only []
        rw [wp_fail]
        exact .inl hfollows
      | some start =>
        cases hreached : c.gate.reachedAxes with
        | none =>
          simp only []
          rw [wp_fail]
          exact .inl hfollows
        | some reached =>
          refine wp_mono (wp_judgeArrival hgate hc hP ?_ hsame htarget hstart hreached
            hstarted) (fun _ _ _ h => h) fun _ _ _ h => .inr h
          rw [hsame_measured]
          exact hmeasured c hP

/-! ## Ordinary ticks -/

def Unproposed (c : ArrivalLaw D S) : Prop := c.proposed = none

def Brought (measured : FiniteVec 7 S) (c : ArrivalLaw D S) : Prop :=
  c.proposed = none ∧ measured.1 ∈ c.presented

def StartsFrom (measured : FiniteVec 7 S) (tick : PendingTick D S) : Prop :=
  tick.measuredFrankaQRad = measured ∧ ¬ tick.HandOnly

def OnlyCommands (φ : PendingTick D S → Prop) (r : PrepareResult D S) : Prop :=
  ∀ tick, r = .command tick → φ tick

theorem admits_of_startsFrom {measured : FiniteVec 7 S} {tick : PendingTick D S}
    (hc : Brought measured c) (hclear : c.gate.targetQRad = none)
    (htick : StartsFrom measured tick) : c.Admits tick where
  held hhand := absurd hhand htick.2
  cleared _ := hclear
  measured _ := by
    rw [htick.1]
    exact hc.2

section GateOnly

variable {I : PolicyTickSource D S W → List (TickEvent D S) → Prop} (hI : GateOnly I)
  {φ : PendingTick D S → Prop}
include hI

theorem GateOnly.yields_prepareHold (sequence frameId : ℕ) (reason : String) (observed : D)
    (retryInterval : Option D) :
    Yields I (OnlyCommands φ) (prepareHold config sequence frameId reason observed retryInterval :
      TickM D S W _) := by
  refine (hI.keeps_holdLocked _ _ _ _ _).yields_bind fun hold => ?_
  exact yields_ret fun tick h => by cases h

theorem GateOnly.yields_mapAction (request : TickRequest D S) (previous : FiniteVec 13 S)
    (o : V94PolicyObservation D S) (candidate : HistoryCandidate S) (output : PolicyOutput D S)
    (raw : FiniteVec 13 S) :
    Yields I (OnlyCommands (StartsFrom o.measuredFrankaQRad))
      (mapAction config env request previous o candidate output raw) := by
  unfold mapAction
  refine (hI.keeps_proposeAction _ _ _ _).yields_bind fun proposal => ?_
  refine hI.keeps_nowMonotonic.yields_bind fun produced => ?_
  refine (keeps_check _ _).yields_bind fun _ => ?_
  refine Keeps.yields_bind (Keeps.runIf _ ((hI.keeps_mapperCall _).bind fun _ => keeps_fail _))
    fun _ => ?_
  refine Keeps.yields_bind (Keeps.ite (keeps_ret _) (hI.keeps_shaperCall _)) fun hardware => ?_
  refine (keeps_ofExcept _).yields_bind fun command => ?_
  refine Yields.bind (hI.yields_stage (φ := StartsFrom o.measuredFrankaQRad) fun ident => ?_)
    fun tick htick => yields_ret fun tick' h => ?_
  · exact ⟨rfl, fun hhand => Bool.false_ne_true hhand.1⟩
  · cases h
    exact htick

theorem GateOnly.yields_checkOutput (request : TickRequest D S) (previous : FiniteVec 13 S)
    (o : V94PolicyObservation D S) (candidate : HistoryCandidate S) (output : PolicyOutput D S)
    (raw : FiniteVec 13 S) (afterPolicy : D) :
    Yields I (OnlyCommands (StartsFrom o.measuredFrankaQRad))
      (checkOutput config env request previous o candidate output raw afterPolicy) := by
  unfold checkOutput
  refine (hI.keeps_pointcloudAge o).yields_bind fun cloudAge => ?_
  refine Yields.ite ?_ ?_
  · exact (hI.keeps_discardPolicyProposal _).yields_bind fun _ => hI.yields_prepareHold _ _ _ _ _
  refine (keeps_frankaStateAge o afterPolicy).yields_bind fun age => ?_
  refine Yields.ite ?_ ?_
  · exact (hI.keeps_discardPolicyProposal _).yields_bind fun _ => hI.yields_prepareHold _ _ _ _ _
  refine (keeps_check _ _).yields_bind fun _ => ?_
  refine Yields.ite ?_ (hI.yields_mapAction request previous o candidate output raw)
  exact (hI.keeps_discardPolicyProposal _).yields_bind fun _ => hI.yields_prepareHold _ _ _ _ _

theorem GateOnly.yields_inferAction (request : TickRequest D S) (previous : FiniteVec 13 S)
    (o : V94PolicyObservation D S) :
    Yields I (OnlyCommands (StartsFrom o.measuredFrankaQRad))
      (inferAction config env request previous o) := by
  have hinfer : ∀ candidate, Keeps I (infer env request.sequence candidate) := by
    intro candidate
    unfold infer
    cases env.actionForSequence with
    | none => exact hI.keeps_environment _
    | some actionForSequence => exact hI.keeps_environment _
  refine keeps_read.yields_bind fun s => ?_
  refine (keeps_ofExcept _).yields_bind fun candidate => ?_
  refine (hinfer candidate).yields_bind fun output => ?_
  refine (keeps_ofExcept _).yields_bind fun raw => ?_
  refine (keeps_check _ _).yields_bind fun _ => ?_
  refine hI.keeps_nowMonotonic.yields_bind fun afterPolicy => ?_
  refine (keeps_check _ _).yields_bind fun _ => ?_
  exact hI.yields_checkOutput request previous o candidate output raw afterPolicy

theorem GateOnly.yields_checkFrame (request : TickRequest D S) (previous : FiniteVec 13 S)
    (o : V94PolicyObservation D S) (afterSnapshot : D) :
    Yields I (OnlyCommands (StartsFrom o.measuredFrankaQRad))
      (checkFrame config env request previous o afterSnapshot) := by
  refine keeps_read.yields_bind fun s => ?_
  refine (keeps_check _ _).yields_bind fun _ => ?_
  refine Yields.ite (hI.yields_prepareHold _ _ _ _ _) ?_
  refine (hI.keeps_pointcloudAge o).yields_bind fun cloudAge => ?_
  refine Yields.ite ?_ (hI.yields_inferAction request previous o)
  exact hI.keeps_nowMonotonic.yields_bind fun observed => hI.yields_prepareHold _ _ _ _ _

end GateOnly

variable (config records) in
/-- **What `prepare` leads to**: a hold, or a tick that the law admits. -/
def Proposes (r : PrepareResult D S) : PolicyTickSource D S W → List (TickEvent D S) → Prop :=
  Follows config records fun c => Unproposed c ∧ OnlyCommands c.Admits r

variable (config records) in
def Raises (e : TickException D S) (s : PolicyTickSource D S W) (t : List (TickEvent D S)) :
    Prop :=
  Follows config records Unproposed s t ∨ Stopped config records e s t

theorem wp_hold (sequence frameId : ℕ) (reason : String) (observed : D)
    (retryInterval : Option D) (h : Follows config records Unproposed s t) :
    wp (prepareHold config sequence frameId reason observed retryInterval)
      (Proposes config records) (Raises config records) s t := by
  refine wp_mono (gateOnly_follows.yields_prepareHold (φ := fun _ => False) sequence frameId reason
    observed retryInterval s t h) (fun r s' t' hr => ?_) fun _ _ _ h => .inl h
  exact hr.1.mono fun c hc => ⟨hc, fun tick htick => (hr.2 tick htick).elim⟩

theorem wp_checkArrival_follows (henabled : config.frankaArrivalGateEnabled = true)
    {o : V94PolicyObservation D S} (request : TickRequest D S) (previous : FiniteVec 13 S)
    (afterSnapshot : D) (h : Follows config records (Brought o.measuredFrankaQRad) s t) :
    wp (checkArrival config env request previous o afterSnapshot) (Proposes config records)
      (Raises config records) s t := by
  unfold checkArrival
  rw [wp_bind]
  refine wp_mono (wp_checkGate henabled (P := Brought o.measuredFrankaQRad)
    (fun _ _ hc => hc) (fun _ hc => hc.2) afterSnapshot h) ?_ ?_
  · intro arrived s₁ t₁ h₁
    rw [wp_ite]
    refine ⟨fun hnot => ?_, fun harrived => ?_⟩
    · rw [wp_bind]
      refine wp_mono h₁.countHold (fun _ s₂ t₂ h₂ => ?_) fun _ _ _ h => .inl (h.mono fun _ hc => hc.1.1)
      exact wp_hold _ _ _ _ _ (h₂.mono fun _ hc => hc.1.1)
    · rw [Bool.not_eq_false] at harrived
      refine wp_mono (gateOnly_follows.yields_checkFrame request previous o afterSnapshot s₁ t₁ h₁)
        (fun r s₂ t₂ hr => ?_) fun _ _ _ h => .inl (h.mono fun _ hc => hc.1.1)
      exact hr.1.mono fun c hc => ⟨hc.1.1, fun tick htick =>
        admits_of_startsFrom hc.1 (hc.2 harrived) (hr.2 tick htick)⟩
  · rintro e s₁ t₁ (h₁ | h₁)
    · exact .inl (h₁.mono fun _ hc => hc.1)
    · exact .inr h₁

theorem wp_prepareObserved_follows (henabled : config.frankaArrivalGateEnabled = true)
    (request : TickRequest D S) (previous : FiniteVec 13 S)
    (h : Follows config records Unproposed s t) :
    wp (prepareObserved config env request previous) (Proposes config records)
      (Raises config records) s t := by
  unfold prepareObserved
  rw [wp_bind]
  refine wp_mono (wp_snapshot (I := Follows config records Unproposed)
    (fun _ _ _ h => gateOnly_follows _ _ _ rfl h) _ _ _ h) ?_ ?_
  · rintro o s₁ t₁ ⟨h₁, rfl⟩
    have hbrought : Follows config records (Brought o.measuredFrankaQRad) s₁
        (t ++ [.observed o]) :=
      h₁.event trivial fun c hc =>
        ⟨hc, List.mem_append_right _ (List.mem_singleton.mpr rfl)⟩
    have hI : GateOnly (Follows config records (Brought o.measuredFrankaQRad)) :=
      gateOnly_follows
    have hraised : ∀ (e : TickException D S) (s' : PolicyTickSource D S W) t',
        Follows config records (Brought o.measuredFrankaQRad) s' t' →
        Raises config records e s' t' := fun _ _ _ h => .inl (h.mono fun _ hc => hc.1)
    refine hI.keeps_nowMonotonic.wp_bind hbrought ?_ hraised
    intro afterSnapshot s₂ t₂ h₂
    refine (keeps_check _ _).wp_bind h₂ ?_ hraised
    intro _ s₃ t₃ h₃
    refine (keeps_check _ _).wp_bind h₃ ?_ hraised
    intro _ s₄ t₄ h₄
    refine (keeps_frankaStateAge o afterSnapshot).wp_bind h₄ ?_ hraised
    intro age s₅ t₅ h₅
    rw [wp_ite]
    refine ⟨fun _ => wp_hold _ _ _ _ _ (h₅.mono fun _ hc => hc.1), fun _ => ?_⟩
    exact wp_checkArrival_follows henabled request previous afterSnapshot h₅
  · rintro e s₁ t₁ ⟨h₁, rfl⟩
    exact .inl h₁

/-! ## Ticks without an observation -/

theorem proposalOf_prior {M : TransactionalV94ActionMapper D S} {sequence : ℕ}
    {mapped : V94MappedAction S} {armRate : Vec 7 D} {handRate : Vec 6 D}
    {p : TransactionalV94ActionProposal S}
    (h : M.proposalOf sequence mapped armRate handRate = .ok p) :
    p.priorArmTargetQRad = M.armTarget := by
  unfold TransactionalV94ActionMapper.proposalOf at h
  simp only [except_bind_eq_ok] at h
  obtain ⟨_, -, _, -, _, -, h⟩ := h
  exact Except.ok.inj h ▸ rfl

theorem buildExactProposal_prior {M : TransactionalV94ActionMapper D S} {sequence : ℕ}
    {arguments : CheckedExactArguments S} {p : TransactionalV94ActionProposal S}
    (h : M.buildExactProposal sequence arguments = .ok p) :
    p.priorArmTargetQRad = M.armTarget := by
  unfold TransactionalV94ActionMapper.buildExactProposal at h
  generalize (if arguments.holdArmTarget then (M.armTarget.1, false)
    else M.canonicalArm arguments.requestedArm.1) = arm at h
  dsimp only at h
  split at h
  · cases h
  · split at h
    · cases h
    · next hproposal => exact Except.ok.inj h ▸ proposalOf_prior hproposal

theorem proposeExactTargets_prior {M : TransactionalV94ActionMapper D S} {sequence : ℤ}
    {arguments : ExactArguments D S} {p : TransactionalV94ActionProposal S}
    (h : (M.proposeExactTargets sequence arguments).2 = .ok p) :
    p.priorArmTargetQRad = M.armTarget := by
  unfold TransactionalV94ActionMapper.proposeExactTargets at h
  split at h
  · cases h
  · cases h
  · next proposalSequence checked _ _ =>
      unfold TransactionalV94ActionMapper.proposeLocked at h
      split at h
      · cases h
      · by_cases hpending : M.pending.isSome = true
        · rw [if_pos hpending] at h
          cases h
        rw [if_neg hpending] at h
        by_cases hsequence : proposalSequence.1 ≠ M.lastCommittedSequence + 1
        · rw [if_pos hsequence] at h
          cases h
        rw [if_neg hsequence] at h
        cases hbuild : M.buildExactProposal proposalSequence.1 checked with
        | error failure =>
          rw [hbuild] at h
          cases failure <;> cases h
        | ok proposal =>
          rw [hbuild] at h
          cases h
          exact buildExactProposal_prior hbuild

theorem ofCore_eq_ok {α : Type} {r : Except PyError α} {a : α} :
    (ofCore r : Except (TickException D S) α) = .ok a ↔ r = .ok a := by
  cases r with
  | error e => simp [ofCore, Except.mapError]
  | ok b => simp [ofCore, Except.mapError]

theorem commandOf_target {request : TickRequest D S} {produced realtime : D}
    {raw : FiniteVec 13 S} {mapped : ImmutableMappedAction S} {hand : RegisterVector}
    {holdArmTarget : Bool} {previous : FiniteVec 13 S} {command : ClosedLoopCommand D S}
    (h : commandOf request produced realtime raw mapped hand holdArmTarget previous =
      .ok command) : command.frankaTargetQRad = mapped.frankaTargetQRad := by
  unfold commandOf at h
  rw [ofCore_eq_ok] at h
  unfold ClosedLoopCommand.postInit at h
  simp only [except_bind_eq_ok, readonlyFloatVector_val] at h
  obtain ⟨sequence, -, h⟩ := h
  split at h
  · split at h
    · simp only [except_bind_eq_ok, Except.ok.injEq] at h
      obtain ⟨_, -, _, -, _, rfl, h⟩ := h
      split at h
      · simp only [except_bind_eq_ok, Except.ok.injEq] at h
        obtain ⟨_, rfl, _, -, _, -, h⟩ := h
        cases h
        rfl
      · cases h
    · cases h
  · cases h

section GateOnly

variable {I : PolicyTickSource D S W → List (TickEvent D S) → Prop} (hI : GateOnly I)
include hI

theorem GateOnly.wp_mapperProposal (sequence : ℤ) (arguments : ExactArguments D S) (h : I s t) :
    wp (mapperCall fun mapper => mapper.proposeExactTargets sequence arguments)
      (fun p s' t' => I s' t' ∧ p.priorArmTargetQRad = s.mapper.armTarget) (fun _ => I) s t := by
  unfold mapperCall
  rw [wp_ofStep]
  exact ⟨fun proposal hproposal =>
    ⟨hI s _ t rfl h, proposeExactTargets_prior (ofCore_eq_ok.mp hproposal)⟩,
    fun _ _ => hI s _ t rfl h⟩

theorem GateOnly.wp_proposeExactTargets (request : TickRequest D S) (arguments : ExactArguments D S)
    (expired : String) (h : I s t) :
    wp (proposeExactTargets env request arguments expired)
      (fun r s' t' => I s' t' ∧ r.1.priorArmTargetQRad = s.mapper.armTarget) (fun _ => I) s t := by
  unfold proposeExactTargets
  rw [wp_bind]
  refine wp_mono (hI.wp_mapperProposal _ _ h) ?_ fun _ _ _ h => h
  rintro proposal s₀ t₀ ⟨h₀, hprior⟩
  refine hI.keeps_nowMonotonic.wp_bind h₀ ?_ fun _ _ _ h => h
  intro produced s₁ t₁ h₁
  refine (keeps_check _ _).wp_bind h₁ ?_ fun _ _ _ h => h
  intro _ s₂ t₂ h₂
  refine Keeps.wp_bind (Keeps.runIf _ ((hI.keeps_mapperCall _).bind fun _ =>
    (hI.keeps_discardPolicyProposal _).bind fun _ => keeps_fail _)) h₂ ?_ fun _ _ _ h => h
  intro _ s₃ t₃ h₃
  rw [wp_ret]
  exact ⟨h₃, hprior⟩

/-- **The staging of an occluded closure tick**: it starts from the measurement, and if it holds the
arm its target is the committed one. -/
theorem GateOnly.wp_stageOccluded (request : TickRequest D S) {hold : V94RecoverableObservationHold D S}
    {tick : ExactTick D S} (requestedArm : FiniteVec 7 S) {committedArm : FiniteVec 7 S}
    (measured : FiniteVec 7 S) (observed : D) (h : I s t)
    (harm : tick.clearanceLift = false → s.mapper.armTarget = committedArm) :
    wp (stageOccluded env request hold tick requestedArm committedArm measured observed)
      (fun r s' t' => I s' t' ∧ ∀ pending, r = some pending →
        pending.measuredFrankaQRad = measured ∧ pending.occludedClosureHandOnly = true ∧
          pending.occludedClosureClearanceLift = tick.clearanceLift ∧
          (tick.clearanceLift = false → ¬ pending.ChangesFranka))
      (fun _ => I) s t := by
  unfold stageOccluded
  rw [wp_bind]
  refine wp_mono (hI.wp_proposeExactTargets request _ _ h) ?_ fun _ _ _ h => h
  rintro ⟨proposal, produced⟩ s₁ t₁ ⟨h₁, hprior⟩
  dsimp only at hprior ⊢
  rw [wp_bind, wp_check]
  refine ⟨fun _ => h₁, fun _ => ?_⟩
  rw [wp_bind, wp_check]
  refine ⟨fun _ => h₁, fun hheld => ?_⟩
  rw [wp_bind, wp_read]
  beta_reduce
  rw [wp_bind, wp_ofExcept]
  refine ⟨fun command hcommand => ?_, fun _ _ => h₁⟩
  have hheld' : tick.clearanceLift = false →
      command.frankaTargetQRad.1.arrayEqual proposal.priorArmTargetQRad.1 = true := by
    intro hlift
    rw [commandOf_target hcommand, hprior, harm hlift, ← Bool.not_eq_false]
    exact fun hmoved => hheld ⟨hlift, hmoved⟩
  rw [wp_bind]
  refine wp_mono (hI.yields_stage (φ := fun pending =>
    pending.measuredFrankaQRad = measured ∧ pending.occludedClosureHandOnly = true ∧
      pending.occludedClosureClearanceLift = tick.clearanceLift ∧
      (tick.clearanceLift = false → ¬ pending.ChangesFranka)) (fun ident => ?_) s₁ t₁ h₁)
    (fun pending s₂ t₂ h₂ => ?_) fun _ _ _ h => h
  · refine ⟨rfl, rfl, rfl, fun hlift hchanges => ?_⟩
    unfold PendingTick.ChangesFranka at hchanges
    rw [hheld' hlift] at hchanges
    cases hchanges
  · rw [wp_ret]
    refine ⟨h₂.1, fun pending' h => ?_⟩
    cases h
    exact h₂.2

theorem GateOnly.yields_stageFrozen (request : TickRequest D S)
    {hold : V94RecoverableObservationHold D S} (actuator : V94FreshActuatorSnapshot D S)
    (output : PolicyOutput D S) :
    Yields I (fun r => ∀ pending, r = some pending →
        StartsFrom actuator.measuredFrankaQRad pending)
      (stageFrozen env request hold actuator output) := by
  unfold stageFrozen
  refine (keeps_ofExcept _).yields_bind fun tick => ?_
  refine Keeps.yields_bind (fun s t h => wp_mono (hI.wp_proposeExactTargets request _ _ h)
    (fun _ _ _ h => h.1) fun _ _ _ h => h) fun proposal => ?_
  refine keeps_read.yields_bind fun s => ?_
  refine (keeps_ofExcept _).yields_bind fun command => ?_
  refine Yields.bind (hI.yields_stage (φ := StartsFrom actuator.measuredFrankaQRad)
    fun ident => ?_) fun tick htick => yields_ret fun tick' h => ?_
  · exact ⟨rfl, fun hhand => Bool.false_ne_true hhand.1⟩
  · cases h
    exact htick

end GateOnly

def BroughtBy (hold : V94RecoverableObservationHold D S) (c : ArrivalLaw D S) : Prop :=
  c.proposed = none ∧ ∀ actuator, hold.freshActuatorSnapshot = some actuator →
    actuator.measuredFrankaQRad.1 ∈ c.presented

variable (config records) in
/-- **What an attempt without an observation leads to**: no tick, or one that the law admits. -/
def Completes (hold : V94RecoverableObservationHold D S) (r : Option (PendingTick D S)) :
    PolicyTickSource D S W → List (TickEvent D S) → Prop :=
  Follows config records fun c => BroughtBy hold c ∧ ∀ tick, r = some tick → c.Admits tick

variable (config records) in
def Tracked (_ : TickException D S) (_ : PolicyTickSource D S W) (t : List (TickEvent D S)) : Prop :=
  ∃ c, Traced config records t c

variable {hold : V94RecoverableObservationHold D S}

theorem Follows.completes (h : Follows config records P s t) (hP : ∀ c, P c → BroughtBy hold c) :
    Completes config records hold none s t :=
  h.mono fun c hc => ⟨hP c hc, fun tick htick => by cases htick⟩

theorem wp_discardTick_follows (sequence : ℕ) (h : Follows config records P s t)
    (hP : ∀ c, P c → BroughtBy hold c) :
    wp (discardTick env sequence) (Completes config records hold) (Tracked config records) s t := by
  unfold discardTick
  refine (gateOnly_follows.keeps_discardPolicyProposal sequence).wp_bind h ?_
    fun _ _ _ h => h.traced
  intro _ s₁ t₁ h₁
  rw [wp_ret]
  exact h₁.completes hP

theorem wp_checkGate_hold (henabled : config.frankaArrivalGateEnabled = true)
    {actuator : V94FreshActuatorSnapshot D S} (hactuator : hold.freshActuatorSnapshot = some actuator)
    (now : D) (h : Follows config records (BroughtBy hold) s t) :
    wp (checkFrankaArrivalGateLocked config actuator.measuredFrankaQRad.1 now)
      (fun arrived => Follows config records
        fun c => BroughtBy hold c ∧ (arrived = true → c.gate.targetQRad = none))
      (Tracked config records) s t := by
  refine wp_mono (wp_checkGate henabled (P := BroughtBy hold) (fun _ _ hc => hc)
    (fun c hc => hc.2 actuator hactuator) now h) (fun _ _ _ h => h) ?_
  rintro e s₁ t₁ (h₁ | ⟨⟨-, h₁⟩, -⟩)
  · exact h₁.traced
  · exact h₁

/-- **A clearance lift is staged only after the arrival.** -/
theorem wp_checkClearanceLift_follows (henabled : config.frankaArrivalGateEnabled = true)
    (request : TickRequest D S) {tick : ExactTick D S} (hlift : tick.clearanceLift = true)
    (requestedArm committedArm : FiniteVec 7 S)
    (h : Follows config records (BroughtBy hold) s t) :
    wp (checkClearanceLift config env request hold tick requestedArm committedArm)
      (Completes config records hold) (Tracked config records) s t := by
  have hI : GateOnly (Follows config records (BroughtBy hold)) := gateOnly_follows
  have htracked : ∀ (e : TickException D S) (s' : PolicyTickSource D S W) t',
      Follows config records (BroughtBy hold) s' t' → Tracked config records e s' t' :=
    fun _ _ _ h => h.traced
  unfold checkClearanceLift
  cases hactuator : hold.freshActuatorSnapshot with
  | none => exact wp_discardTick_follows _ h fun _ hc => hc
  | some actuator =>
    simp only []
    refine hI.keeps_nowMonotonic.wp_bind h ?_ htracked
    intro observedNow s₁ t₁ h₁
    refine (keeps_check _ _).wp_bind h₁ ?_ htracked
    intro _ s₂ t₂ h₂
    refine (keeps_check _ _).wp_bind h₂ ?_ htracked
    intro _ s₃ t₃ h₃
    rw [wp_ite]
    refine ⟨fun _ => wp_discardTick_follows _ h₃ fun _ hc => hc, fun _ => ?_⟩
    rw [wp_bind]
    refine wp_mono (wp_checkGate_hold henabled hactuator observedNow h₃) ?_ fun _ _ _ h => h
    intro arrived s₄ t₄ h₄
    rw [wp_ite]
    refine ⟨fun _ => ?_, fun harrived => ?_⟩
    · rw [wp_bind]
      refine wp_mono h₄.countHold (fun _ s₅ t₅ h₅ => ?_) fun _ _ _ h => h.traced
      exact wp_discardTick_follows _ h₅ fun _ hc => hc.1
    · rw [Bool.not_eq_false] at harrived
      have hcleared : GateOnly (Follows config records
          fun c => BroughtBy hold c ∧ (arrived = true → c.gate.targetQRad = none)) :=
        gateOnly_follows
      refine wp_mono (hcleared.wp_stageOccluded request requestedArm actuator.measuredFrankaQRad
        actuator.observationRealtimeS h₄ fun hheld => ?_) (fun r s₅ t₅ hr => ?_) fun _ _ _ h => h.traced
      · rw [hlift] at hheld
        cases hheld
      · refine hr.1.mono fun c hc => ⟨hc.1, fun pending hpending => ?_⟩
        obtain ⟨hmeasured, -, hkind, -⟩ := hr.2 pending hpending
        rw [hlift] at hkind
        refine admits_of_startsFrom ⟨hc.1.1, hc.1.2 actuator hactuator⟩ (hc.2 harrived)
          ⟨hmeasured, fun hhand => ?_⟩
        exact Bool.false_ne_true (hhand.2.symm.trans hkind)

theorem wp_occludedTick_follows (henabled : config.frankaArrivalGateEnabled = true)
    (request : TickRequest D S) (output : PolicyOutput D S)
    (h : Follows config records (BroughtBy hold) s t) :
    wp (occludedTick config env request hold output) (Completes config records hold)
      (Tracked config records) s t := by
  unfold occludedTick
  rw [wp_bind, wp_ofExcept]
  refine ⟨fun tick _ => ?_, fun _ _ => h.traced⟩
  rw [wp_bind, wp_read]
  beta_reduce
  rw [wp_bind, wp_ofExcept]
  refine ⟨fun requestedArm _ => ?_, fun _ _ => h.traced⟩
  rw [wp_bind, wp_check]
  refine ⟨fun _ => h.traced, fun _ => ?_⟩
  -- the committed target is still the one that was read
  have hkept : Keeps (fun s' t' => Follows config records (BroughtBy hold) s' t' ∧
      s'.mapper.armTarget = s.mapper.armTarget) (nowRealtime env) :=
    (TickSource.keeps_environment fun _ _ h => ⟨gateOnly_follows _ _ _ rfl h.1, h.2⟩).bind
      fun _ => keeps_ofExcept _
  refine hkept.wp_bind ⟨h, rfl⟩ ?_ fun _ _ _ h => h.1.traced
  rintro observed s₁ t₁ ⟨h₁, harm⟩
  rw [wp_ite]
  refine ⟨fun hlift => wp_checkClearanceLift_follows henabled request hlift _ _ h₁, fun hlift => ?_⟩
  rw [Bool.not_eq_true] at hlift
  have hI : GateOnly (Follows config records (BroughtBy hold)) := gateOnly_follows
  refine wp_mono (hI.wp_stageOccluded request requestedArm _ observed h₁ fun _ => harm)
    (fun r s₂ t₂ hr => ?_) fun _ _ _ h => h.traced
  -- the tick holds the arm and leaves its target alone
  refine hr.1.mono fun c hc => ⟨hc, fun pending hpending => ?_⟩
  obtain ⟨-, hocc, hkind, hheld⟩ := hr.2 pending hpending
  have hhand : pending.HandOnly := ⟨hocc, hkind.trans hlift⟩
  exact ⟨fun _ => hheld hlift, fun hnot => absurd hhand hnot, fun hnot => absurd hhand hnot⟩

theorem wp_prepareOccluded_follows (henabled : config.frankaArrivalGateEnabled = true)
    (request : TickRequest D S) (h : Follows config records (BroughtBy hold) s t) :
    wp (prepareOccludedClosureHandOnlyLocked config env request hold)
      (Completes config records hold) (Tracked config records) s t := by
  have hI : GateOnly (Follows config records (BroughtBy hold)) := gateOnly_follows
  have htracked : ∀ (e : TickException D S) (s' : PolicyTickSource D S W) t',
      Follows config records (BroughtBy hold) s' t' → Tracked config records e s' t' :=
    fun _ _ _ h => h.traced
  have hnone : ∀ (s' : PolicyTickSource D S W) t', Follows config records (BroughtBy hold) s' t' →
      wp (ret none : TickM D S W (Option (PendingTick D S))) (Completes config records hold)
        (Tracked config records) s' t' := by
    intro s' t' h'
    rw [wp_ret]
    exact h'.completes fun _ hc => hc
  unfold prepareOccludedClosureHandOnlyLocked
  rw [wp_bind, wp_read]
  beta_reduce
  cases env.actionForOccludedClosure with
  | none => exact hnone s t h
  | some action =>
    simp only []
    rw [wp_ite]
    refine ⟨fun _ => hnone s t h, fun _ => ?_⟩
    unfold askOccluded
    refine hI.keeps_nowMonotonic.wp_bind h ?_ htracked
    intro now s₁ t₁ h₁
    refine (keeps_check _ _).wp_bind h₁ ?_ htracked
    intro _ s₂ t₂ h₂
    refine (hI.keeps_environment _).wp_bind h₂ ?_ htracked
    intro output s₃ t₃ h₃
    cases output with
    | none => exact hnone s₃ t₃ h₃
    | some output => exact wp_occludedTick_follows henabled request output h₃

/-- **A frozen motion is staged only after the arrival.** -/
theorem wp_checkFrozen_follows (henabled : config.frankaArrivalGateEnabled = true)
    (request : TickRequest D S) {actuator : V94FreshActuatorSnapshot D S}
    (hactuator : hold.freshActuatorSnapshot = some actuator)
    (action : ℕ → String → W → Except (TickException D S) (Option (PolicyOutput D S)) × W)
    (h : Follows config records (BroughtBy hold) s t) :
    wp (checkFrozen config env request hold actuator action) (Completes config records hold)
      (Tracked config records) s t := by
  have hI : GateOnly (Follows config records (BroughtBy hold)) := gateOnly_follows
  have htracked : ∀ (e : TickException D S) (s' : PolicyTickSource D S W) t',
      Follows config records (BroughtBy hold) s' t' → Tracked config records e s' t' :=
    fun _ _ _ h => h.traced
  unfold checkFrozen
  refine hI.keeps_nowMonotonic.wp_bind h ?_ htracked
  intro observedNow s₁ t₁ h₁
  refine (keeps_check _ _).wp_bind h₁ ?_ htracked
  intro _ s₂ t₂ h₂
  refine (keeps_check _ _).wp_bind h₂ ?_ htracked
  intro _ s₃ t₃ h₃
  rw [wp_ite]
  refine ⟨fun _ => ?_, fun _ => ?_⟩
  · rw [wp_ret]
    exact h₃.completes fun _ hc => hc
  rw [wp_bind]
  refine wp_mono (wp_checkGate_hold henabled hactuator observedNow h₃) ?_ fun _ _ _ h => h
  intro arrived s₄ t₄ h₄
  rw [wp_ite]
  refine ⟨fun _ => ?_, fun harrived => ?_⟩
  · rw [wp_bind]
    refine wp_mono h₄.countHold (fun _ s₅ t₅ h₅ => ?_) fun _ _ _ h => h.traced
    rw [wp_ret]
    exact h₅.completes fun _ hc => hc.1
  · rw [Bool.not_eq_false] at harrived
    have hcleared : GateOnly (Follows config records
        fun c => BroughtBy hold c ∧ (arrived = true → c.gate.targetQRad = none)) :=
      gateOnly_follows
    unfold askFrozen
    refine (keeps_check _ _).wp_bind h₄ ?_ fun _ _ _ h => h.traced
    intro _ s₅ t₅ h₅
    refine (hcleared.keeps_environment _).wp_bind h₅ ?_ fun _ _ _ h => h.traced
    intro output s₆ t₆ h₆
    cases output with
    | none =>
      simp only []
      rw [wp_ret]
      exact h₆.completes fun _ hc => hc.1
    | some output =>
      refine wp_mono (hcleared.yields_stageFrozen request actuator output s₆ t₆ h₆)
        (fun r s₇ t₇ hr => ?_) fun _ _ _ h => h.traced
      exact hr.1.mono fun c hc => ⟨hc.1, fun pending hpending =>
        admits_of_startsFrom ⟨hc.1.1, hc.1.2 actuator hactuator⟩ (hc.2 harrived)
          (hr.2 pending hpending)⟩

theorem wp_prepareFrozen_follows (henabled : config.frankaArrivalGateEnabled = true)
    (request : TickRequest D S) (h : Follows config records (BroughtBy hold) s t) :
    wp (prepareFrozenPostClosureLocked config env request hold) (Completes config records hold)
      (Tracked config records) s t := by
  have hnone : wp (ret none : TickM D S W (Option (PendingTick D S)))
      (Completes config records hold) (Tracked config records) s t := by
    rw [wp_ret]
    exact h.completes fun _ hc => hc
  unfold prepareFrozenPostClosureLocked
  rw [wp_bind, wp_read]
  beta_reduce
  cases hactuator : hold.freshActuatorSnapshot with
  | none => exact hnone
  | some actuator =>
    cases env.actionForFrozenPostClosure with
    | none => exact hnone
    | some action =>
      simp only []
      rw [wp_ite]
      exact ⟨fun _ => hnone, fun _ =>
        wp_checkFrozen_follows henabled request hactuator action h⟩

variable (config records) in
def Ends (P : ArrivalLaw D S → Prop) (s : PolicyTickSource D S W) (t : List (TickEvent D S)) :
    Prop :=
  Follows config records P s t ∨ Lost config records s t

theorem lost_of_tracked {e : TickException D S} (h : Tracked config records e s t)
    (reason : String) : Lost config records (s.latched reason) t :=
  ⟨Option.some_ne_none _, h⟩

theorem wp_recover_follows (henabled : config.frankaArrivalGateEnabled = true)
    (request : TickRequest D S) (h : Follows config records Unproposed s t) :
    wp (recover config env request hold) (Proposes config records)
      (fun _ => Ends config records Unproposed) s t := by
  have hcaught : Follows config records (BroughtBy hold) s (t ++ [.recoverable hold]) := by
    refine h.event trivial fun c hc => ⟨hc, fun actuator hactuator => ?_⟩
    refine List.mem_append_right _ ?_
    simp [TickEvent.measured, hactuator]
  have hcommand : ∀ (tick : PendingTick D S) (s' : PolicyTickSource D S W) t',
      Completes config records hold (some tick) s' t' →
      Proposes config records (.command tick) s' t' := by
    intro tick s' t' h'
    refine h'.mono fun c hc => ⟨hc.1.1, fun tick' htick' => ?_⟩
    cases htick'
    exact hc.2 tick rfl
  unfold recover
  rw [wp_bind, wp_emit, wp_bind]
  refine wp_latching (E := Ends config records Unproposed) (wp_mono
    (wp_prepareOccluded_follows henabled request hcaught) ?_
    fun _ _ _ h reason => .inr (lost_of_tracked h reason))
  intro completion s₁ t₁ h₁
  cases completion with
  | some tick =>
    simp only []
    rw [wp_ret]
    exact hcommand tick s₁ t₁ h₁
  | none =>
    simp only []
    unfold recoverFrozen
    rw [wp_bind]
    refine wp_latching (E := Ends config records Unproposed) (wp_mono
      (wp_prepareFrozen_follows henabled request (h₁.mono fun _ hc => hc.1)) ?_
      fun _ _ _ h reason => .inr (lost_of_tracked h reason))
    intro frozen s₂ t₂ h₂
    cases frozen with
    | some tick =>
      simp only []
      rw [wp_ret]
      exact hcommand tick s₂ t₂ h₂
    | none =>
      simp only []
      have h₂' : Follows config records Unproposed s₂ t₂ := h₂.mono fun _ hc => hc.1.1
      have hI : GateOnly (Follows config records Unproposed) := gateOnly_follows
      unfold recoverHold
      refine hI.keeps_nowMonotonic.wp_bind h₂' ?_ fun _ _ _ h => .inl h
      intro observed s₃ t₃ h₃
      refine wp_mono (wp_hold _ _ _ _ _ h₃) (fun _ _ _ h => h) ?_
      rintro e s₄ t₄ (h₄ | ⟨h₄, -⟩)
      · exact .inl h₄
      · exact .inr h₄

/-! ## Preparations -/

theorem wp_prepareRequest_follows (henabled : config.frankaArrivalGateEnabled = true)
    (request : TickRequest D S) (previous : FiniteVec 13 S)
    (h : Follows config records Unproposed s t) :
    wp (prepareRequest config env request previous) (Proposes config records)
      (fun _ => Ends config records Unproposed) s t := by
  unfold prepareRequest
  rw [wp_bind, wp_check]
  refine ⟨fun _ => .inl h, fun _ => ?_⟩
  rw [wp_bind, wp_attempt]
  refine wp_mono (wp_prepareObserved_follows henabled request previous h) ?_ ?_
  · intro r s₁ t₁ h₁
    simp only [handlePrepare]
    rw [wp_ret]
    exact h₁
  · intro e s₁ t₁ he
    cases e with
    | hold h =>
      rcases he with h₁ | ⟨-, error, herror⟩
      · exact wp_recover_follows henabled request h₁
      · cases herror
    | raised error =>
      have htracked : Tracked config records (.raised error : TickException D S) s₁ t₁ := by
        rcases he with h₁ | ⟨h₁, -⟩
        · exact h₁.traced
        · exact h₁.2
      simp only [handlePrepare, latchLocked]
      rw [wp_bind, wp_update, wp_fail]
      exact .inr (lost_of_tracked htracked _)

def Proposing (p : Option (PendingTick D S)) (c : ArrivalLaw D S) : Prop := c.proposed = p

theorem wp_latchAndRaise_lost {α : Type} {Q : α → PolicyTickSource D S W → _ → Prop}
    (reason : String) (h : Follows config records P s t) :
    wp (latchAndRaise reason : TickM D S W α) Q (fun _ => Ends config records P) s t := by
  obtain ⟨c, hc, -⟩ := h
  unfold latchAndRaise latchLocked
  rw [wp_bind, wp_update, wp_bind, wp_read]
  beta_reduce
  rw [wp_fail]
  exact .inr ⟨Option.some_ne_none _, c, hc⟩

/-- **`prepare`** proposes a tick that the law admits, holds, or raises. -/
theorem wp_prepare_follows (henabled : config.frankaArrivalGateEnabled = true) (sequence : ℤ)
    (previous : Vec 13 S) (now deadline : D)
    (h : Follows config records (Proposing s.pending) s t) :
    wp (prepare config env sequence previous now deadline)
      (fun r s' t' => s.pending = none ∧ Proposes config records r s' t')
      (fun _ => Ends config records (Proposing s.pending)) s t := by
  unfold prepare
  rw [wp_bind, wp_ofExcept]
  refine ⟨fun requested _ => ?_, fun _ _ => .inl h⟩
  rw [wp_bind, wp_ofExcept]
  refine ⟨fun callerNow _ => ?_, fun _ _ => .inl h⟩
  rw [wp_bind, wp_ofExcept]
  refine ⟨fun hardDeadline _ => ?_, fun _ _ => .inl h⟩
  rw [wp_bind, wp_ofExcept]
  refine ⟨fun previous _ => ?_, fun _ _ => .inl h⟩
  rw [wp_bind]
  refine wp_requireHealthyLocked (fun _ => ?_) fun _ _ => .inl h
  rw [wp_bind, wp_read]
  beta_reduce
  simp only []
  rw [wp_ite]
  refine ⟨fun _ => wp_latchAndRaise_lost _ h, fun hidle => ?_⟩
  have hpending : s.pending = none := by
    simpa using hidle
  have hstart : Follows config records Unproposed s t := h.mono fun _ hc => hc.trans hpending
  have hrequest : ∀ request : TickRequest D S,
      wp (prepareRequest config env request s.policyPreviousAction13)
        (fun r s' t' => s.pending = none ∧ Proposes config records r s' t')
        (fun _ => Ends config records (Proposing s.pending)) s t := by
    intro request
    refine wp_mono (wp_prepareRequest_follows henabled request _ hstart)
      (fun _ _ _ hr => ⟨hpending, hr⟩) fun _ _ _ he => ?_
    rcases he with he | he
    · exact .inl (he.mono fun _ hc => hc.trans hpending.symm)
    · exact .inr he
  rw [wp_ite]
  refine ⟨fun _ => wp_latchAndRaise_lost _ h, fun _ => ?_⟩
  rw [wp_ite]
  refine ⟨fun _ => ?_, fun _ => ?_⟩
  · rw [wp_ite]
    exact ⟨fun _ => wp_latchAndRaise_lost _ h, fun _ => hrequest _⟩
  · rw [wp_ite]
    exact ⟨fun _ => wp_latchAndRaise_lost _ h, fun _ => hrequest _⟩

end FrankaDeploy.TickSource
