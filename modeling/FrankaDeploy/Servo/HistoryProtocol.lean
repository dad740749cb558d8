import FrankaDeploy.Foundation.Monitor
import FrankaDeploy.Servo.Loop

/-! # The chain of reference histories

What the robot integrates between two states is the last command it accepted, continued with
constant acceleration for every packet without a new one. `HistoryStep` is the bookkeeping of the
active loop as a monitor of the events of a run. In every trace that it accepts, a selected
reference history is the continuation of one earlier history, over the packets that elapsed since:
of the last accepted command, or of the bootstrap state while none was accepted. -/

namespace FrankaDeploy.Servo

open FrankaDeploy.Foundation FrankaDeploy.Foundation.Monitor
open scoped FloatArith

variable {D : Type}

/-! ## Reading a trace -/

def historyChoices (t : List (ServoEvent D)) : List HistoryChoice :=
  t.filterMap fun
    | .historySelected _ choice _ => some choice
    | _ => none

def ServoEvent.packets : ServoEvent D → ℕ
  | .cycleStarted sample => sample.controlPeriodMs
  | _ => 0

/-- **The packets that elapsed** during a trace: the periods of all states that were read. -/
def elapsedPackets (t : List (ServoEvent D)) : ℕ := (t.map ServoEvent.packets).sum

/-- **The packets since the last accepted command**: how far the reference history continues it, or
the bootstrap state, without a new command. -/
def continuationPackets (t : List (ServoEvent D)) : ℕ :=
  t.foldl (fun packets event =>
    match event with
    | .bootstrapped _ => 0
    | .historySelected period .accepted _ => period - 1
    | .historySelected period .dropped _ => packets + period
    | _ => packets) 0

section Reading

variable (t u : List (ServoEvent D)) (event : ServoEvent D)

@[simp] theorem historyChoices_append :
    historyChoices (t ++ u) = historyChoices t ++ historyChoices u :=
  List.filterMap_append

@[simp] theorem elapsedPackets_append :
    elapsedPackets (t ++ u) = elapsedPackets t + elapsedPackets u := by
  simp [elapsedPackets]

@[simp] theorem elapsedPackets_singleton : elapsedPackets [event] = event.packets := by
  simp [elapsedPackets]

@[simp] theorem continuationPackets_snoc :
    continuationPackets (t ++ [event]) =
      match event with
      | .bootstrapped _ => 0
      | .historySelected period .accepted _ => period - 1
      | .historySelected period .dropped _ => continuationPackets t + period
      | _ => continuationPackets t := by
  rw [continuationPackets, List.foldl_append]
  rfl

theorem exists_selected_of_continuation {t : List (ServoEvent D)}
    (h : continuationPackets t ≠ 0) : ∃ pre period choice reference post,
      t = pre ++ .historySelected period choice reference :: post ∧
      continuationPackets (pre ++ [.historySelected period choice reference]) =
        continuationPackets t := by
  induction t using List.reverseRecOn with
  | nil => exact absurd rfl h
  | append_singleton t event ih =>
    by_cases hselected : historyChoices [event] = []
    · -- the last event is no selection, so it keeps the count or begins it anew
      have hkept : continuationPackets (t ++ [event]) = continuationPackets t := by
        rw [continuationPackets_snoc] at h ⊢
        cases event with
        | historySelected _ _ _ => exact absurd hselected (List.cons_ne_nil _ _)
        | bootstrapped _ => exact absurd rfl h
        | _ => rfl
      rw [hkept] at h
      obtain ⟨pre, period, choice, reference, post, rfl, hcount⟩ := ih h
      refine ⟨pre, period, choice, reference, post ++ [event], by simp, ?_⟩
      rw [hcount, hkept]
    · cases event with
      | historySelected period choice reference =>
        exact ⟨t, period, choice, reference, [], rfl, rfl⟩
      | _ => exact absurd rfl hselected

end Reading

/-! ## The source of a history -/

section Source

variable [FloatArith D]

/-- **A history continues a command**: after `before` the trace `t` writes a command, which the next
returned state shows as accepted while all later commands are dropped. The history is that command,
continued over the packets between the state that it answered and the last state, less one: the one
that carried the command. -/
def ContinuesCommand (t before : List (ServoEvent D)) (history : ExactDesiredHistory D) : Prop :=
  ∃ command after n, t = before ++ .written command :: after ∧
    historyChoices after = .accepted :: List.replicate n .dropped ∧
    1 ≤ elapsedPackets after ∧
    history = extrapolateConstantAcceleration command (elapsedPackets after - 1)

/-- **A history continues the bootstrap state**: all commands of `t` are dropped, and the history is
the bootstrap state after `before`, continued over all packets since. -/
def ContinuesBootstrap (t before : List (ServoEvent D)) (history : ExactDesiredHistory D) : Prop :=
  ∃ bootstrap after n, t = before ++ .bootstrapped bootstrap :: after ∧
    historyChoices after = List.replicate n .dropped ∧
    history = extrapolateConstantAcceleration bootstrap (elapsedPackets after)

end Source

/-! ## The monitor -/

inductive HistoryStage where
  | begun
  | referenced
  | written
deriving DecidableEq

variable (D) in
/-- **The bookkeeping of the histories.** -/
structure HistoryWatch where
  bootstrapped : Bool
  reference : ExactDesiredHistory D
  packets : ℕ
  sent : ExactDesiredHistory D
  period : ℕ
  stage : HistoryStage

variable [FloatArith D]

def HistoryWatch.start : HistoryWatch D := ⟨false, .default, 0, .default, 0, .written⟩

/-- **The steps of the bookkeeping**, where a dropped command may let the continuation grow to the
numbers of packets that `admits` allows. -/
inductive HistoryStep (admits : ℕ → Prop) :
    HistoryWatch D → ServoEvent D → HistoryWatch D → Prop where
  | cycleStarted {w sample} : w.stage = .written →
      HistoryStep admits w (.cycleStarted sample)
        { w with period := sample.controlPeriodMs, stage := .begun }
  | bootstrapped {w reference} : w.stage = .begun → w.bootstrapped = false →
      HistoryStep admits w (.bootstrapped reference)
        { w with
          bootstrapped := true
          reference := reference
          packets := 0
          stage := .referenced }
  /-- The last command was accepted: it is continued over the packets after its own. -/
  | accepted {w} : w.stage = .begun → w.bootstrapped = true → 1 ≤ w.period →
      w.period ≤ HardSafetyLimits.maximumRecoverableControlPeriodMs →
      HistoryStep admits w (.historySelected w.period .accepted
          (extrapolateConstantAcceleration w.sent (w.period - 1)))
        { w with
          reference := extrapolateConstantAcceleration w.sent (w.period - 1)
          packets := w.period - 1
          stage := .referenced }
  /-- The last command was dropped: the reference is continued over all packets. -/
  | dropped {w} : w.stage = .begun → w.bootstrapped = true → admits (w.packets + w.period) →
      HistoryStep admits w (.historySelected w.period .dropped
          (extrapolateConstantAcceleration w.reference w.period))
        { w with
          reference := extrapolateConstantAcceleration w.reference w.period
          packets := w.packets + w.period
          stage := .referenced }
  | targetAccepted {w target} : HistoryStep admits w (.targetAccepted target) w
  | computed {w command} : HistoryStep admits w (.computed command) w
  | written {w command} : w.stage = .referenced →
      HistoryStep admits w (.written command) { w with sent := command, stage := .written }
  | judged {w healthy} : HistoryStep admits w (.judged healthy) w
  | actionReady {w payload} : HistoryStep admits w (.actionReady payload) w
  | acknowledged {w payload} : HistoryStep admits w (.acknowledged payload) w

abbrev Booked (admits : ℕ → Prop) (t : List (ServoEvent D)) (w : HistoryWatch D) : Prop :=
  Accepts (HistoryStep admits) .start t w

/-! ## One step -/

/-- **The source of a history, on the way to the next selection**: `packets` are continued already,
and the `pending` ones of the last state are not. -/
inductive Origin (t before : List (ServoEvent D)) (history : ExactDesiredHistory D)
    (packets pending : ℕ) : Prop where
  | command (command : ExactDesiredHistory D) (after : List (ServoEvent D)) (n : ℕ) :
      t = before ++ .written command :: after →
      historyChoices after = .accepted :: List.replicate n .dropped →
      elapsedPackets after = packets + 1 + pending →
      history = extrapolateConstantAcceleration command packets →
      Origin t before history packets pending
  | bootstrap (bootstrap : ExactDesiredHistory D) (after : List (ServoEvent D)) (n : ℕ) :
      t = before ++ .bootstrapped bootstrap :: after →
      historyChoices after = List.replicate n .dropped →
      elapsedPackets after = packets + pending →
      history = extrapolateConstantAcceleration bootstrap packets →
      Origin t before history packets pending

def HistoryWatch.pending (w : HistoryWatch D) : ℕ :=
  if w.stage = .begun then w.period else 0

section Step

variable {admits : ℕ → Prop} {t before : List (ServoEvent D)} {history : ExactDesiredHistory D}
  {packets pending : ℕ} {event : ServoEvent D} {w w' : HistoryWatch D}

theorem Origin.snoc (h : Origin t before history packets pending) (event : ServoEvent D)
    (hchoice : historyChoices [event] = []) :
    Origin (t ++ [event]) before history packets (pending + event.packets) := by
  cases h with
  | command command after n ht hchoices helapsed hhistory =>
    refine .command command (after ++ [event]) n ?_ ?_ ?_ hhistory
    · rw [ht, List.append_assoc, List.cons_append]
    · rw [historyChoices_append, hchoices, hchoice, List.append_nil]
    · rw [elapsedPackets_append, elapsedPackets_singleton, helapsed]
      omega
  | bootstrap bootstrap after n ht hchoices helapsed hhistory =>
    refine .bootstrap bootstrap (after ++ [event]) n ?_ ?_ ?_ hhistory
    · rw [ht, List.append_assoc, List.cons_append]
    · rw [historyChoices_append, hchoices, hchoice, List.append_nil]
    · rw [elapsedPackets_append, elapsedPackets_singleton, helapsed]
      omega

/-- **A dropped command** continues the same source over the pending packets. -/
theorem Origin.dropped (h : Origin t before history packets pending)
    (hevent : event = .historySelected pending .dropped
      (extrapolateConstantAcceleration history pending)) :
    Origin (t ++ [event]) before (extrapolateConstantAcceleration history pending)
      (packets + pending) 0 := by
  have hpackets : event.packets = 0 := by rw [hevent]; rfl
  have hchoice : historyChoices [event] = [.dropped] := by rw [hevent]; rfl
  cases h with
  | command command after n ht hchoices helapsed hhistory =>
    refine .command command (after ++ [event]) (n + 1) ?_ ?_ ?_ ?_
    · rw [ht, List.append_assoc, List.cons_append]
    · rw [historyChoices_append, hchoices, hchoice, List.replicate_succ', List.cons_append]
    · rw [elapsedPackets_append, elapsedPackets_singleton, helapsed, hpackets]
      omega
    · rw [hhistory, extrapolate_add]
  | bootstrap bootstrap after n ht hchoices helapsed hhistory =>
    refine .bootstrap bootstrap (after ++ [event]) (n + 1) ?_ ?_ ?_ ?_
    · rw [ht, List.append_assoc, List.cons_append]
    · rw [historyChoices_append, hchoices, hchoice, List.replicate_succ']
    · rw [elapsedPackets_append, elapsedPackets_singleton, helapsed, hpackets]
    · rw [hhistory, extrapolate_add]

/-- **The bookkeeping describes the trace.** -/
structure BookReads (t : List (ServoEvent D)) (w : HistoryWatch D) : Prop where
  reference : w.bootstrapped = true →
    ∃ before, Origin t before w.reference w.packets w.pending
  packets : w.packets = continuationPackets t
  sent : w.bootstrapped = true → w.stage ≠ .referenced → ∃ before after,
    t = before ++ .written w.sent :: after ∧ historyChoices after = [] ∧
      elapsedPackets after = w.pending
  referenced : w.stage = .referenced → w.bootstrapped = true

theorem BookReads.snoc (h : BookReads t w) (hchoice : historyChoices [event] = [])
    (hpackets : event.packets = 0)
    (hcount : continuationPackets (t ++ [event]) = continuationPackets t) :
    BookReads (t ++ [event]) w where
  reference hbootstrapped := by
    obtain ⟨before, horigin⟩ := h.reference hbootstrapped
    have hsnoc := horigin.snoc _ hchoice
    rw [hpackets] at hsnoc
    exact ⟨before, hsnoc⟩
  packets := h.packets.trans hcount.symm
  sent hbootstrapped hstage := by
    obtain ⟨before, after, rfl, hchoices, helapsed⟩ := h.sent hbootstrapped hstage
    refine ⟨before, after ++ [event], by simp, ?_, ?_⟩
    · rw [historyChoices_append, hchoices, hchoice, List.append_nil]
    · rw [elapsedPackets_append, elapsedPackets_singleton, helapsed, hpackets, Nat.add_zero]
  referenced := h.referenced

theorem HistoryStep.reads (hstep : HistoryStep admits w event w') (h : BookReads t w) :
    BookReads (t ++ [event]) w' := by
  cases hstep with
  | @cycleStarted sample hstage =>
    have hpending : w.pending = 0 := by rw [HistoryWatch.pending, hstage]; rfl
    constructor
    · intro hbootstrapped
      obtain ⟨before, horigin⟩ := h.reference hbootstrapped
      have hsnoc := horigin.snoc (.cycleStarted sample) rfl
      rw [hpending, Nat.zero_add] at hsnoc
      exact ⟨before, hsnoc⟩
    · rw [continuationPackets_snoc]
      exact h.packets
    · intro hbootstrapped _
      obtain ⟨before, after, rfl, hchoices, helapsed⟩ :=
        h.sent hbootstrapped (by rw [hstage]; nofun)
      refine ⟨before, after ++ [.cycleStarted sample], by simp, ?_, ?_⟩
      · rw [historyChoices_append, hchoices]
        rfl
      · rw [elapsedPackets_append, elapsedPackets_singleton, helapsed, hpending, Nat.zero_add]
        rfl
    · nofun
  | @bootstrapped reference hstage hfirst =>
    constructor
    · intro _
      exact ⟨t, .bootstrap reference [] 0 rfl rfl rfl rfl⟩
    · rw [continuationPackets_snoc]
    · intro _ hreferenced
      exact absurd rfl hreferenced
    · exact fun _ => rfl
  | accepted hstage hbootstrapped hperiod _ =>
    constructor
    · -- the chain starts anew at the last written command
      intro _
      obtain ⟨before, after, rfl, hchoices, helapsed⟩ :=
        h.sent hbootstrapped (by rw [hstage]; nofun)
      refine ⟨before, .command w.sent (after ++ [.historySelected w.period .accepted
        (extrapolateConstantAcceleration w.sent (w.period - 1))]) 0 ?_ ?_ ?_ rfl⟩
      · rw [List.append_assoc, List.cons_append]
      · rw [historyChoices_append, hchoices]
        rfl
      · rw [elapsedPackets_append, elapsedPackets_singleton, helapsed, HistoryWatch.pending,
          if_pos hstage]
        show w.period + 0 = w.period - 1 + 1 + 0
        omega
    · rw [continuationPackets_snoc]
    · intro _ hreferenced
      exact absurd rfl hreferenced
    · exact fun _ => hbootstrapped
  | dropped hstage hbootstrapped _ =>
    constructor
    · intro _
      obtain ⟨before, horigin⟩ := h.reference hbootstrapped
      rw [HistoryWatch.pending, if_pos hstage] at horigin
      exact ⟨before, horigin.dropped rfl⟩
    · rw [continuationPackets_snoc, ← h.packets]
    · intro _ hreferenced
      exact absurd rfl hreferenced
    · exact fun _ => hbootstrapped
  | @written command hstage =>
    have hpending : w.pending = 0 := by rw [HistoryWatch.pending, hstage]; rfl
    constructor
    · intro hbootstrapped
      obtain ⟨before, horigin⟩ := h.reference hbootstrapped
      have hsnoc := horigin.snoc (.written command) rfl
      rw [hpending] at hsnoc
      exact ⟨before, hsnoc⟩
    · rw [continuationPackets_snoc]
      exact h.packets
    · intro _ _
      exact ⟨t, [], rfl, rfl, rfl⟩
    · nofun
  | targetAccepted => exact h.snoc rfl rfl (continuationPackets_snoc _ _)
  | computed => exact h.snoc rfl rfl (continuationPackets_snoc _ _)
  | judged => exact h.snoc rfl rfl (continuationPackets_snoc _ _)
  | actionReady => exact h.snoc rfl rfl (continuationPackets_snoc _ _)
  | acknowledged => exact h.snoc rfl rfl (continuationPackets_snoc _ _)

/-- **The bookkeeping describes every trace that it allows**, by induction on the trace. -/
theorem Booked.reads (h : Booked admits t w) : BookReads t w := by
  induction h with
  | start => exact ⟨nofun, rfl, nofun, nofun⟩
  | snoc _ hstep ih => exact hstep.reads ih

end Step

/-! ## The source is unique -/

section Unique

variable {admits : ℕ → Prop} {t : List (ServoEvent D)} {w w' : HistoryWatch D}

theorem not_bootstrapped_again (h : Accepts (HistoryStep admits) w t w') (hw : w.bootstrapped = true) :
    w'.bootstrapped = true ∧ ∀ reference, .bootstrapped reference ∉ t := by
  induction h with
  | start => exact ⟨hw, nofun⟩
  | @snoc t m' m'' event _ hstep ih =>
    obtain ⟨hbootstrapped, hnot⟩ := ih
    cases hstep with
    | bootstrapped _ hfirst =>
      rw [hbootstrapped] at hfirst
      cases hfirst
    | _ => exact ⟨hbootstrapped, by simpa using hnot⟩

theorem not_referenced_without_choice (h : Accepts (HistoryStep admits) w t w')
    (hw : w.bootstrapped = true) (hstage : w.stage ≠ .referenced)
    (hchoices : historyChoices t = []) : w'.stage ≠ .referenced := by
  induction h with
  | start => exact hstage
  | @snoc t m' m'' event hprior hstep ih =>
    rw [historyChoices_append, List.append_eq_nil_iff] at hchoices
    have hstage' := ih hchoices.1
    cases hstep with
    | cycleStarted _ => nofun
    | bootstrapped _ hfirst =>
      rw [(not_bootstrapped_again hprior hw).1] at hfirst
      cases hfirst
    | accepted _ _ _ _ => exact absurd hchoices.2 (List.cons_ne_nil _ _)
    | dropped _ _ _ => exact absurd hchoices.2 (List.cons_ne_nil _ _)
    | written _ => nofun
    | _ => exact hstage'

/-- **An event that a history can come from**: a written command or the bootstrap. -/
def ServoEvent.IsSource : ServoEvent D → Prop
  | .bootstrapped _ => True
  | .written _ => True
  | _ => False

theorem HistoryStep.bootstrapped_of_isSource {event : ServoEvent D} (h : Booked admits t w)
    (hstep : HistoryStep admits w event w') (hsource : event.IsSource) : w'.bootstrapped = true := by
  cases hstep with
  | bootstrapped _ _ => rfl
  | written hstage => exact h.reads.referenced hstage
  | _ => exact hsource.elim

/-- **Two sources in a trace**: the later one is a command, and if the earlier one is a command too,
there is a selection between them. -/
theorem Booked.between_sources {before middle after : List (ServoEvent D)}
    {first second : ServoEvent D} (h : Booked admits (before ++ first :: middle ++ second :: after) w)
    (hfirst : first.IsSource) (hsecond : second.IsSource) :
    (∃ command, second = .written command) ∧
      ∀ command, first = .written command → historyChoices middle ≠ [] := by
  obtain ⟨w₂, w₃, hfront, hstep₂⟩ := h.at
  rw [List.append_cons] at hfront
  obtain ⟨w₁, hupto, hmiddle⟩ := hfront.cut
  obtain ⟨w₀, hbefore, hstep₁⟩ := hupto.last
  have hbootstrapped := hstep₁.bootstrapped_of_isSource hbefore hfirst
  cases hstep₂ with
  | bootstrapped _ hagain =>
    rw [(not_bootstrapped_again hmiddle hbootstrapped).1] at hagain
    cases hagain
  | written hstage =>
    refine ⟨⟨_, rfl⟩, ?_⟩
    rintro command rfl hchoices
    refine not_referenced_without_choice hmiddle hbootstrapped ?_ hchoices hstage
    cases hstep₁
    nofun
  | _ => exact hsecond.elim

theorem dropped_ne_append_accepted (n : ℕ) (before after : List HistoryChoice) :
    List.replicate n HistoryChoice.dropped ≠ before ++ .accepted :: after := by
  intro h
  have hmem : HistoryChoice.accepted ∈ List.replicate n HistoryChoice.dropped := by
    rw [h]
    simp
  cases List.eq_of_mem_replicate hmem

theorem Origin.source {before : List (ServoEvent D)} {history : ExactDesiredHistory D}
    {packets pending : ℕ} (h : Origin t before history packets pending) :
    ∃ event after, t = before ++ event :: after ∧ event.IsSource ∧
      ((∃ command n, event = .written command ∧
        historyChoices after = .accepted :: List.replicate n .dropped) ∨
      ∃ reference n, event = .bootstrapped reference ∧
        historyChoices after = List.replicate n .dropped) := by
  cases h with
  | command command after n ht hchoices _ _ =>
    exact ⟨_, after, ht, trivial, .inl ⟨command, n, rfl, hchoices⟩⟩
  | bootstrap bootstrap after n ht hchoices _ _ =>
    exact ⟨_, after, ht, trivial, .inr ⟨bootstrap, n, rfl, hchoices⟩⟩

theorem Booked.no_earlier_source {before middle after : List (ServoEvent D)}
    {first second : ServoEvent D} (h : Booked admits (before ++ first :: middle ++ second :: after) w)
    (hfirst : first.IsSource) (hsecond : second.IsSource)
    (hafterSecond : ∀ command, second = .written command →
      ∃ n, historyChoices after = .accepted :: List.replicate n .dropped)
    (hafterFirst : (∃ command n, first = .written command ∧
        historyChoices (middle ++ second :: after) = .accepted :: List.replicate n .dropped) ∨
      ∃ reference n, first = .bootstrapped reference ∧
        historyChoices (middle ++ second :: after) = List.replicate n .dropped) : False := by
  obtain ⟨⟨command, rfl⟩, hbetween⟩ := h.between_sources hfirst hsecond
  obtain ⟨m, hm⟩ := hafterSecond command rfl
  have hchoices : historyChoices (middle ++ .written command :: after) =
      historyChoices middle ++ .accepted :: List.replicate m .dropped := by
    rw [historyChoices_append, ← hm]
    rfl
  rw [hchoices] at hafterFirst
  rcases hafterFirst with ⟨command', n, rfl, hn⟩ | ⟨reference, n, -, hn⟩
  · cases hmiddle : historyChoices middle with
    | nil => exact hbetween command' rfl hmiddle
    | cons choice rest =>
      rw [hmiddle, List.cons_append, List.cons.injEq] at hn
      exact dropped_ne_append_accepted n _ _ hn.2.symm
  · exact dropped_ne_append_accepted n _ _ hn.symm

theorem Origin.unique {before before' : List (ServoEvent D)} {history history' : ExactDesiredHistory D}
    {packets packets' pending pending' : ℕ} (h : Booked admits t w)
    (horigin : Origin t before history packets pending)
    (horigin' : Origin t before' history' packets' pending') : before' = before := by
  obtain ⟨first, after, ht, hfirst, hafter⟩ := horigin.source
  obtain ⟨second, after', ht', hsecond, hafter'⟩ := horigin'.source
  have hsplit := ht.symm.trans ht'
  rcases List.append_eq_append_iff.1 hsplit with ⟨gap, hbefore', hgap⟩ | ⟨gap, hbefore, hgap⟩
  · cases gap with
    | nil => simpa using hbefore'
    | cons event middle =>
      obtain ⟨rfl, rfl⟩ := List.cons.inj hgap
      rw [ht', hbefore'] at h
      refine (h.no_earlier_source hfirst hsecond ?_ hafter).elim
      rintro command rfl
      rcases hafter' with ⟨_, n, -, hn⟩ | ⟨_, _, hcase, -⟩
      · exact ⟨n, hn⟩
      · cases hcase
  · cases gap with
    | nil => simpa using hbefore.symm
    | cons event middle =>
      obtain ⟨rfl, rfl⟩ := List.cons.inj hgap
      rw [ht, hbefore] at h
      refine (h.no_earlier_source hsecond hfirst ?_ hafter').elim
      rintro command rfl
      rcases hafter with ⟨_, n, -, hn⟩ | ⟨_, _, hcase, -⟩
      · exact ⟨n, hn⟩
      · cases hcase

theorem Origin.packets_unique {before : List (ServoEvent D)}
    {history history' : ExactDesiredHistory D} {packets packets' pending : ℕ}
    (h : Origin t before history packets pending) (h' : Origin t before history' packets' pending) :
    packets' = packets := by
  cases h with
  | command command after n ht _ helapsed _ =>
    cases h' with
    | command command' after' n' ht' _ helapsed' _ =>
      obtain ⟨-, rfl⟩ := List.cons.inj (List.append_cancel_left (ht.symm.trans ht'))
      omega
    | bootstrap bootstrap' after' n' ht' _ _ _ =>
      cases (List.cons.inj (List.append_cancel_left (ht.symm.trans ht'))).1
  | bootstrap bootstrap after n ht _ helapsed _ =>
    cases h' with
    | command command' after' n' ht' _ _ _ =>
      cases (List.cons.inj (List.append_cancel_left (ht.symm.trans ht'))).1
    | bootstrap bootstrap' after' n' ht' _ helapsed' _ =>
      obtain ⟨-, rfl⟩ := List.cons.inj (List.append_cancel_left (ht.symm.trans ht'))
      omega

end Unique

/-! ## The contract -/

section Contract

variable {admits : ℕ → Prop} {t before : List (ServoEvent D)} {history : ExactDesiredHistory D}
  {w : HistoryWatch D}

theorem Origin.continues {packets : ℕ} (h : Origin t before history packets 0) :
    ContinuesCommand t before history ∨ ContinuesBootstrap t before history := by
  cases h with
  | command command after n ht hchoices helapsed hhistory =>
    refine .inl ⟨command, after, n, ht, hchoices, ?_, ?_⟩
    · omega
    · rw [hhistory, helapsed]
      rfl
  | bootstrap bootstrap after n ht hchoices helapsed hhistory =>
    refine .inr ⟨bootstrap, after, n, ht, hchoices, ?_⟩
    rw [hhistory, helapsed]
    rfl

theorem exists_origin (h : ContinuesCommand t before history ∨ ContinuesBootstrap t before history) :
    ∃ packets, Origin t before history packets 0 := by
  rcases h with ⟨command, after, n, ht, hchoices, helapsed, hhistory⟩ |
    ⟨bootstrap, after, n, ht, hchoices, hhistory⟩
  · exact ⟨_, .command command after n ht hchoices (by omega) hhistory⟩
  · exact ⟨_, .bootstrap bootstrap after n ht hchoices rfl hhistory⟩

/-- **The chain of histories** in a trace: every selected reference history continues exactly one
earlier history. -/
def HistoryContract (t : List (ServoEvent D)) : Prop :=
  ∀ pre period choice reference post,
    t = pre ++ .historySelected period choice reference :: post →
    ∃! before,
      ContinuesCommand (pre ++ [.historySelected period choice reference]) before reference ∨
      ContinuesBootstrap (pre ++ [.historySelected period choice reference]) before reference

theorem HistoryStep.selected {w w' : HistoryWatch D} {period : ℕ} {choice : HistoryChoice}
    {reference : ExactDesiredHistory D}
    (h : HistoryStep admits w (.historySelected period choice reference) w') :
    w'.bootstrapped = true ∧ w'.reference = reference ∧ w'.pending = 0 := by
  cases h with
  | accepted _ hbootstrapped _ _ => exact ⟨hbootstrapped, rfl, rfl⟩
  | dropped _ hbootstrapped _ => exact ⟨hbootstrapped, rfl, rfl⟩

/-- **A selected history has a source**, continued over the counted packets. -/
theorem Booked.selected_origin {pre post : List (ServoEvent D)} {period : ℕ}
    {choice : HistoryChoice} {reference : ExactDesiredHistory D}
    (h : Booked admits (pre ++ .historySelected period choice reference :: post) w) :
    ∃ w', Booked admits (pre ++ [.historySelected period choice reference]) w' ∧ ∃ before,
      Origin (pre ++ [.historySelected period choice reference]) before reference
        (continuationPackets (pre ++ [.historySelected period choice reference])) 0 := by
  obtain ⟨w₁, w₂, hpre, hstep⟩ := h.at
  have hbooked : Booked admits (pre ++ [.historySelected period choice reference]) w₂ :=
    .snoc hpre hstep
  obtain ⟨hbootstrapped, hreference, hpending⟩ := hstep.selected
  obtain ⟨before, horigin⟩ := hbooked.reads.reference hbootstrapped
  rw [hreference, hbooked.reads.packets, hpending] at horigin
  exact ⟨w₂, hbooked, before, horigin⟩

/-- **A selected history is continued over an admitted number of packets**, if that of an accepted
command over a whole recoverable period is one. -/
theorem Booked.selected_admits {pre post : List (ServoEvent D)} {period : ℕ}
    {choice : HistoryChoice} {reference : ExactDesiredHistory D}
    (h : Booked admits (pre ++ .historySelected period choice reference :: post) w)
    (haccepted : ∀ packets, packets < HardSafetyLimits.maximumRecoverableControlPeriodMs →
      admits packets) :
    admits (continuationPackets (pre ++ [.historySelected period choice reference])) := by
  obtain ⟨w₁, w₂, hpre, hstep⟩ := h.at
  rw [continuationPackets_snoc]
  cases hstep with
  | accepted _ _ hperiod hmaximum => exact haccepted (w₁.period - 1) (by omega)
  | dropped _ _ hadmits =>
    rw [(Booked.reads hpre).packets] at hadmits
    exact hadmits

/-- **A trace that the bookkeeping allows keeps the chain.** -/
theorem Booked.contract (h : Booked admits t w) : HistoryContract t := by
  rintro pre period choice reference post rfl
  obtain ⟨w', hbooked, before, horigin⟩ := h.selected_origin
  refine ⟨before, horigin.continues, ?_⟩
  intro before' hcontinues
  obtain ⟨packets', horigin'⟩ := exists_origin hcontinues
  exact Origin.unique hbooked horigin horigin'

end Contract

end FrankaDeploy.Servo
