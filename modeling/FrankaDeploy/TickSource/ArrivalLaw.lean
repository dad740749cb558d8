import FrankaDeploy.Foundation.Monitor
import FrankaDeploy.TickSource.Calls

/-! # The arrival law of the tick source

A history of the source lists its calls with the states that they came in, the events, and between
them what the arrival gate judged: each measurement that it checked, with its verdict. The law reads
a history and keeps the gate; its steps say which measurement may be checked, how the gate judges
it, when a command may be proposed and how a commit arms the gate again. At every call of a healthy
source the law's gate is the source's own.

What the law demands of a history is read off here: before the next command that moves the arm is
proposed, every axis has come to the last committed target. -/

namespace FrankaDeploy.TickSource

open FrankaDeploy.Foundation FrankaDeploy.ClosedLoop FrankaDeploy.Contracts
open scoped FloatArith

variable {D S : Type} [FloatArith D] [FloatArith S] [FloatCast D S] {W : Type}

/-! ## Ticks and measurements -/

/-- **The command changes the arm's target**: it differs from the committed target that it was
computed from. -/
def PendingTick.ChangesFranka (tick : PendingTick D S) : Prop :=
  tick.command.frankaTargetQRad.1.arrayEqual tick.mapperProposal.priorArmTargetQRad.1 = false

def PendingTick.HandOnly (tick : PendingTick D S) : Prop :=
  tick.occludedClosureHandOnly = true ∧ tick.occludedClosureClearanceLift = false

variable (config : TickSourceConfig D S)

def Within (target measured : FiniteVec 7 S) (axis : Fin 7) : Prop :=
  FloatArith.abs (jointError target measured axis : D) ≤ config.frankaArrivalGateToleranceRad

variable (D) in
/-- An axis that came from `start` has crossed its target. -/
def Crossed (target start measured : FiniteVec 7 S) (axis : Fin 7) : Prop :=
  (jointError target start axis : D) * jointError target measured axis ≤ FloatArith.zero

theorem reachedAxes_eq_true {config : TickSourceConfig D S} {reached : Vec 7 Bool}
    {target start measured : FiniteVec 7 S} {axis : Fin 7} :
    reachedAxes config reached target start measured axis = true ↔
      reached axis = true ∨ Within config target measured axis ∨
        Crossed D target start measured axis := by
  unfold reachedAxes Within Crossed
  simp only [Bool.or_eq_true, decide_eq_true_eq, or_assoc]

def arrivalError (target measured : FiniteVec 7 S) : D :=
  npMax fun axis => FloatArith.abs (jointError target measured axis)

/-- **How the gate judges a measurement.** -/
inductive GateCheck (g : ArrivalGate D S) (measured : FiniteVec 7 S) (now : D) :
    Bool → ArrivalGate D S → Prop where
  | idle : g.targetQRad = none → GateCheck g measured now true g
  /-- Every axis has come to the target, now or before: it is no longer awaited. -/
  | arrived {target start : FiniteVec 7 S} {reached : Vec 7 Bool} {started : D} :
      g.targetQRad = some target → g.startQRad = some start → g.reachedAxes = some reached →
      g.startedMonotonicS = some started →
      (∀ axis, reachedAxes config reached target start measured axis = true) →
      GateCheck g measured now true
        ((g.measured (reachedAxes config reached target start measured)
          (arrivalError target measured) (now - started)).arrived (now - started))
  | awaited {target start : FiniteVec 7 S} {reached : Vec 7 Bool} {started : D} :
      g.targetQRad = some target → g.startQRad = some start → g.reachedAxes = some reached →
      g.startedMonotonicS = some started →
      ¬ (∀ axis, reachedAxes config reached target start measured axis = true) →
      ¬ config.frankaArrivalGateTimeoutS ≤ now - started →
      GateCheck g measured now false
        (g.measured (reachedAxes config reached target start measured)
          (arrivalError target measured) (now - started))

def PendingTick.startQRad (tick : PendingTick D S) : FiniteVec 7 S :=
  if tick.occludedClosureHandOnly = true ∧ tick.occludedClosureClearanceLift = false then
    tick.command.frankaTargetQRad
  else tick.measuredFrankaQRad

/-- The axes that a commit takes as arrived: every axis of an occluded closure, and those within
the tolerance of any other tick. -/
def PendingTick.reachedAtStart (tick : PendingTick D S) : Vec 7 Bool :=
  if tick.occludedClosureHandOnly = true then fun _ => true
  else startAxes config tick.command.frankaTargetQRad tick.measuredFrankaQRad

def ArrivalGate.armedBy (g : ArrivalGate D S) (tick : PendingTick D S) (started : D) :
    ArrivalGate D S :=
  { g with
    targetQRad := some tick.command.frankaTargetQRad
    startQRad := some tick.startQRad
    reachedAxes := some (tick.reachedAtStart config)
    startedMonotonicS := some started }

/-! ## Histories -/

variable (env : TickWorld D S W)

/-- **An entry of a history.** -/
inductive ArrivalEntry where
  | called (state : PolicyTickSource D S W) (call : TickCall env)
  | event (e : TickEvent D S)
  | checked (measured : FiniteVec 7 S) (now : D) (arrived : Bool)
  | committed (tick : PendingTick D S) (started : D)

variable {env}

def ArrivalEntry.record : ArrivalEntry env →
    List ((PolicyTickSource D S W × TickCall env) ⊕ TickEvent D S)
  | .called state call => [.inl (state, call)]
  | .event e => [.inr e]
  | .checked _ _ _ => []
  | .committed tick _ => [.inr (.committed tick.ident)]

def TickCall.measured : TickCall env → List (Vec 7 S)
  | .checkArrival measured _ => [measured]
  | _ => []

def TickEvent.measured : TickEvent D S → List (Vec 7 S)
  | .observed o => [o.measuredFrankaQRad.1]
  | .recoverable h => (h.freshActuatorSnapshot.map fun a => a.measuredFrankaQRad.1).toList
  | _ => []

def TickEvent.IsQuiet : TickEvent D S → Prop
  | .prepared _ => False
  | .committed _ => False
  | _ => True

/-! ## The law -/

variable (D S) in
/-- **The arrival law.** -/
structure ArrivalLaw where
  gate : ArrivalGate D S
  presented : List (Vec 7 S)
  proposed : Option (PendingTick D S)

def ArrivalLaw.start : ArrivalLaw D S := ⟨.init, [], none⟩

def SameGate (g g' : ArrivalGate D S) : Prop := ∃ holds, g' = { g with holdCount := holds }

/-- **The tick may be proposed**: an occluded closure that holds the arm leaves its target alone,
and before any other tick the awaited target was reached. -/
structure ArrivalLaw.Admits (c : ArrivalLaw D S) (tick : PendingTick D S) : Prop where
  held : tick.HandOnly → ¬ tick.ChangesFranka
  cleared : ¬ tick.HandOnly → c.gate.targetQRad = none
  measured : ¬ tick.HandOnly → tick.measuredFrankaQRad.1 ∈ c.presented

/-- **The steps of the law.** -/
inductive ArrivalStep : ArrivalLaw D S → ArrivalEntry env → ArrivalLaw D S → Prop where
  /-- A call comes: the gate of a healthy source is the law's. -/
  | called {c : ArrivalLaw D S} {state : PolicyTickSource D S W} {call : TickCall env} :
      (state.faultReason = none → SameGate c.gate state.arrivalGate) →
      ArrivalStep c (.called state call) { c with presented := call.measured }
  | event {c : ArrivalLaw D S} {e : TickEvent D S} : e.IsQuiet →
      ArrivalStep c (.event e) { c with presented := c.presented ++ e.measured }
  | checked {c : ArrivalLaw D S} {measured : FiniteVec 7 S} {now : D} {arrived : Bool}
      {gate : ArrivalGate D S} : measured.1 ∈ c.presented →
      GateCheck config c.gate measured now arrived gate →
      ArrivalStep c (.checked measured now arrived) { c with gate := gate }
  | prepared {c : ArrivalLaw D S} {tick : PendingTick D S} : c.proposed = none → c.Admits tick →
      ArrivalStep c (.event (.prepared tick)) { c with proposed := some tick }
  | committed {c : ArrivalLaw D S} {tick : PendingTick D S} {started : D} :
      c.proposed = some tick →
      ArrivalStep c (.committed tick started)
        { c with gate := c.gate.armedBy config tick started, proposed := none }

/-! ## What the law demands -/

/-- **An axis has come to the target of a committed tick**: it was within the tolerance in the
measurement that the tick was computed from, or it is so, or beyond the target, in a measurement
that was checked since. -/
def Arrived (last : PendingTick D S) (since : List (ArrivalEntry env)) (axis : Fin 7) : Prop :=
  Within config last.command.frankaTargetQRad last.measuredFrankaQRad axis ∨
    ∃ measured now arrived, .checked measured now arrived ∈ since ∧
      (Within config last.command.frankaTargetQRad measured axis ∨
        Crossed D last.command.frankaTargetQRad last.measuredFrankaQRad measured axis)

variable {config} {c c' : ArrivalLaw D S} {last : PendingTick D S} {started : D}
  {before since : List (ArrivalEntry env)} {entry : ArrivalEntry env}

theorem Arrived.snoc {axis : Fin 7} (h : Arrived config last since axis) :
    Arrived config last (since ++ [entry]) axis := by
  rcases h with h | ⟨measured, now, arrived, hmem, h⟩
  · exact .inl h
  · exact .inr ⟨measured, now, arrived, List.mem_append_left _ hmem, h⟩

variable (config) in
/-- **The gate waits for a committed tick**: nothing was committed since, at most a tick that holds
the arm is proposed, and every latched axis has arrived. -/
structure Waiting (c : ArrivalLaw D S) (last : PendingTick D S)
    (since : List (ArrivalEntry env)) : Prop where
  uncommitted : ∀ tick started, .committed tick started ∉ since
  proposed : ∀ tick, c.proposed = some tick → tick.HandOnly
  target : c.gate.targetQRad = some last.command.frankaTargetQRad
  start : c.gate.startQRad = some last.measuredFrankaQRad
  reached : ∃ reached, c.gate.reachedAxes = some reached ∧
    ∀ axis, reached axis = true → Arrived config last since axis

theorem Waiting.of_gate_eq (h : Waiting config c last since) (hgate : c'.gate = c.gate)
    (hentry : ∀ tick started, entry ≠ .committed tick started)
    (hproposed : ∀ tick, c'.proposed = some tick → tick.HandOnly) :
    Waiting config c' last (since ++ [entry]) where
  uncommitted tick started hmem := by
    rcases List.mem_append.mp hmem with hold | hnew
    · exact h.uncommitted tick started hold
    · exact hentry tick started (List.mem_singleton.mp hnew).symm
  proposed := hproposed
  target := hgate ▸ h.target
  start := hgate ▸ h.start
  reached := by
    obtain ⟨reached, hreached, harrived⟩ := h.reached
    exact ⟨reached, hgate ▸ hreached, fun axis hr => (harrived axis hr).snoc⟩

theorem arrived_of_reachedAxes {reached : Vec 7 Bool} {measured : FiniteVec 7 S} {now : D}
    {arrived : Bool} (hreached : ∀ axis, reached axis = true → Arrived config last since axis)
    {axis : Fin 7} (h : reachedAxes config reached last.command.frankaTargetQRad
      last.measuredFrankaQRad measured axis = true) :
    Arrived config last (since ++ [.checked measured now arrived]) axis := by
  rcases reachedAxes_eq_true.mp h with h | h
  · exact (hreached axis h).snoc
  · exact .inr ⟨measured, now, arrived, List.mem_append_right _ (List.mem_singleton.mpr rfl), h⟩

/-- **A check of a gate that waits**: every axis has arrived, or it waits on. -/
theorem Waiting.check (h : Waiting config c last since) {measured : FiniteVec 7 S} {now : D}
    {arrived : Bool} {gate : ArrivalGate D S}
    (hcheck : GateCheck config c.gate measured now arrived gate) :
    (∀ axis, Arrived config last (since ++ [.checked measured now arrived]) axis) ∨
      Waiting config { c with gate := gate } last (since ++ [.checked measured now arrived]) := by
  obtain ⟨reached, hreached, harrived⟩ := h.reached
  cases hcheck with
  | idle hidle =>
    have hsome := h.target
    rw [hidle] at hsome
    cases hsome
  | arrived htarget hstart hlatched hstarted hall =>
    obtain rfl := Option.some.inj (h.target.symm.trans htarget)
    obtain rfl := Option.some.inj (h.start.symm.trans hstart)
    obtain rfl := Option.some.inj (hreached.symm.trans hlatched)
    exact .inl fun axis => arrived_of_reachedAxes harrived (hall axis)
  | awaited htarget hstart hlatched hstarted hopen htime =>
    obtain rfl := Option.some.inj (h.target.symm.trans htarget)
    obtain rfl := Option.some.inj (h.start.symm.trans hstart)
    obtain rfl := Option.some.inj (hreached.symm.trans hlatched)
    refine .inr ⟨fun tick started hmem => ?_, h.proposed, h.target, h.start, _, rfl,
      fun axis hr => arrived_of_reachedAxes harrived hr⟩
    rcases List.mem_append.mp hmem with hold | hnew
    · exact h.uncommitted tick started hold
    · cases List.mem_singleton.mp hnew

theorem waiting_of_committed (hkind : last.occludedClosureHandOnly = false)
    (gate : ArrivalGate D S) (presented : List (Vec 7 S)) :
    Waiting config ⟨gate.armedBy config last started, presented, none⟩ last
      ([] : List (ArrivalEntry env)) where
  uncommitted _ _ hmem := absurd hmem List.not_mem_nil
  proposed _ h := by cases h
  target := rfl
  start := by
    show some last.startQRad = _
    unfold PendingTick.startQRad
    rw [if_neg (by rw [hkind]; exact fun h => Bool.false_ne_true h.1)]
  reached := by
    refine ⟨_, rfl, fun axis hr => .inl ?_⟩
    unfold PendingTick.reachedAtStart startAxes at hr
    rw [if_neg (by rw [hkind]; exact Bool.false_ne_true)] at hr
    unfold Within
    exact decide_eq_true_eq.mp hr

/-- **Behind a committed tick that is no occluded closure every axis has arrived, or the gate still
waits**, as long as no tick is committed that holds the arm during an occlusion. -/
theorem arrived_or_waiting
    (h : Monitor.Accepts (ArrivalStep config) .start
      (before ++ .committed last started :: since) c)
    (hkind : last.occludedClosureHandOnly = false)
    (hsince : ∀ tick started', .committed tick started' ∈ since → ¬ tick.HandOnly) :
    (∀ axis, Arrived config last since axis) ∨ Waiting config c last since := by
  induction since using List.reverseRecOn generalizing c with
  | nil =>
    obtain ⟨c₁, -, hstep⟩ := h.last
    cases hstep with
    | committed hproposed => exact .inr (waiting_of_committed hkind _ _)
  | append_singleton since entry ih =>
    have hsplit : before ++ .committed last started :: (since ++ [entry]) =
        (before ++ .committed last started :: since) ++ [entry] := by
      rw [List.append_assoc, List.cons_append]
    rw [hsplit] at h
    obtain ⟨c₁, hprefix, hstep⟩ := h.last
    have hearlier : ∀ tick started', .committed tick started' ∈ since → ¬ tick.HandOnly :=
      fun tick started' hmem => hsince tick started' (List.mem_append_left _ hmem)
    rcases ih hprefix hearlier with harrived | hwaiting
    · exact .inl fun axis => (harrived axis).snoc
    · cases hstep with
      | called hgate =>
        exact .inr (hwaiting.of_gate_eq rfl (fun _ _ h => by cases h) hwaiting.proposed)
      | event hquiet =>
        exact .inr (hwaiting.of_gate_eq rfl (fun _ _ h => by cases h) hwaiting.proposed)
      | checked hpresented hcheck => exact hwaiting.check hcheck
      | @prepared tick hidle hadmits =>
        -- only a tick that holds the arm is proposed while the gate waits
        refine .inr (hwaiting.of_gate_eq rfl (fun _ _ h => by cases h) fun tick' htick' => ?_)
        obtain rfl := Option.some.inj htick'
        by_contra hmoves
        have hnone := hadmits.cleared hmoves
        rw [hwaiting.target] at hnone
        cases hnone
      | @committed tick started' hproposed =>
        refine absurd (hwaiting.proposed tick hproposed) (hsince tick started' ?_)
        exact List.mem_append_right _ (List.mem_singleton.mpr rfl)

/-- **The awaited target is that of the last committed tick**, and so is the time. -/
theorem awaited_since_commit (h : Monitor.Accepts (ArrivalStep config) .start before c)
    (htarget : c.gate.targetQRad ≠ none) :
    ∃ pre tick started since, before = pre ++ .committed tick started :: since ∧
      (∀ tick' started', .committed tick' started' ∉ since) ∧
      c.gate.startedMonotonicS = some started := by
  induction before using List.reverseRecOn generalizing c with
  | nil =>
    generalize hnil : ([] : List (ArrivalEntry env)) = history at h
    cases h with
    | start => exact absurd rfl htarget
    | snoc _ _ => simp at hnil
  | append_singleton before entry ih =>
    obtain ⟨c₁, hprefix, hstep⟩ := h.last
    -- an entry that leaves target and time alone
    have hkept : c₁.gate.targetQRad ≠ none →
        c.gate.startedMonotonicS = c₁.gate.startedMonotonicS →
        (∀ tick started, entry ≠ .committed tick started) →
        ∃ pre tick started since, before ++ [entry] = pre ++ .committed tick started :: since ∧
          (∀ tick' started', .committed tick' started' ∉ since) ∧
          c.gate.startedMonotonicS = some started := by
      intro hawaited hstarted hentry
      obtain ⟨pre, tick, started, since, rfl, hsince, hgate⟩ := ih hprefix hawaited
      refine ⟨pre, tick, started, since ++ [entry], ?_, fun tick' started' hmem => ?_,
        hstarted.trans hgate⟩
      · rw [List.append_assoc, List.cons_append]
      · rcases List.mem_append.mp hmem with hold | hnew
        · exact hsince tick' started' hold
        · exact hentry tick' started' (List.mem_singleton.mp hnew).symm
    cases hstep with
    | called hgate => exact hkept htarget rfl fun _ _ h => by cases h
    | event hquiet => exact hkept htarget rfl fun _ _ h => by cases h
    | checked hpresented hcheck =>
      cases hcheck with
      | idle hidle => exact absurd hidle htarget
      | arrived _ _ _ _ _ => exact absurd rfl htarget
      | awaited _ _ _ _ _ _ => exact hkept htarget rfl fun _ _ h => by cases h
    | prepared hidle hadmits => exact hkept htarget rfl fun _ _ h => by cases h
    | @committed tick started hproposed =>
      exact ⟨before, tick, started, [], rfl, fun _ _ => List.not_mem_nil, rfl⟩

/-- **What the law demands of a history.** -/
structure ArrivalGateLaw (config : TickSourceConfig D S) (history : List (ArrivalEntry env)) :
    Prop where
  /-- When a command that changes the arm's target is proposed, every axis has come to the target
  of each committed tick before it, unless an occluded closure was committed in between. -/
  arrived : ∀ before last started since tick post,
    history = before ++ .committed last started :: (since ++ .event (.prepared tick) :: post) →
    tick.ChangesFranka → last.occludedClosureHandOnly = false →
    (∀ tick' started', .committed tick' started' ∈ since → ¬ tick'.HandOnly) →
    ∀ axis, Arrived config last since axis
  timely : ∀ pre measured now post, history = pre ++ .checked measured now false :: post →
    ∃ before tick started since, pre = before ++ .committed tick started :: since ∧
      (∀ tick' started', .committed tick' started' ∉ since) ∧
      ¬ config.frankaArrivalGateTimeoutS ≤ now - started

theorem arrivalGateLaw_of_accepts {history : List (ArrivalEntry env)}
    (h : Monitor.Accepts (ArrivalStep config) .start history c) :
    ArrivalGateLaw config history where
  arrived before last started since tick post hsplit hchanges hkind hsince := by
    rw [hsplit, ← List.cons_append, ← List.append_assoc] at h
    obtain ⟨c₁, c₂, hprefix, hstep⟩ := h.at
    rcases arrived_or_waiting hprefix hkind hsince with harrived | hwaiting
    · exact harrived
    · -- the gate cannot wait: a tick that changes the target is admitted
      cases hstep with
      | event hquiet => exact hquiet.elim
      | prepared hidle hadmits =>
        have hmoves : ¬ tick.HandOnly := fun hhand => hadmits.held hhand hchanges
        have hnone := hadmits.cleared hmoves
        rw [hwaiting.target] at hnone
        cases hnone
  timely pre measured now post hsplit := by
    rw [hsplit] at h
    obtain ⟨c₁, c₂, hprefix, hstep⟩ := h.at
    cases hstep with
    | checked hpresented hcheck =>
      cases hcheck with
      | awaited htarget _ _ hstarted _ htime =>
        have hawaited : c₁.gate.targetQRad ≠ none := by
          rw [htarget]
          exact Option.some_ne_none _
        obtain ⟨before, tick, started, since, hpre, hsince, hgate⟩ :=
          awaited_since_commit hprefix hawaited
        obtain rfl := Option.some.inj (hgate.symm.trans hstarted)
        exact ⟨before, tick, _, since, hpre, hsince, htime⟩

end FrankaDeploy.TickSource
