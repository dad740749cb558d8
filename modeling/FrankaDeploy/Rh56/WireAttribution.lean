import FrankaDeploy.Rh56.Exchange
import Mathlib.Data.List.Nodup
import Mathlib.Data.List.Count

/-! # Whose response an exchange returns

A run of the serial line is a list of exchanges and moves of the link. The claim is that the
response which an exchange takes for its own is the device's answer to that very request. The
driver compares a read response with the request only, so the late response of an earlier read of
the same register passes for the answer, and as an ordering barrier it also cancels the debts of
writes whose acknowledgements are still to come.

Where no such response begins to arrive during an exchange, the acknowledgements still due are
never more than the driver's debts (`Due`), and each exchange keeps that. -/

namespace FrankaDeploy.Rh56

open FrankaDeploy.Foundation FrankaDeploy.Foundation.Program

/-! ## Runs -/

inductive SerialStep where
  | link (event : LinkEvent)
  | exchange (request : Bytes) (script : ExchangeScript)

abbrev SerialPoint := ℕ × WireState

def performStep (point : SerialPoint) : SerialStep → SerialPoint
  | .link event => (point.1, (link event point.2).2.1)
  | .exchange request script => (point.1 + 1, (exchange point.1 request script point.2).2.1)

def perform (steps : List SerialStep) : SerialPoint := steps.foldl performStep (0, .opened)

def Along (P : SerialPoint → SerialStep → Prop) : SerialPoint → List SerialStep → Prop
  | _, [] => True
  | point, step :: steps => P point step ∧ Along P (performStep point step) steps

theorem along_append_singleton {P : SerialPoint → SerialStep → Prop} {steps : List SerialStep}
    {step : SerialStep} {point : SerialPoint} :
    Along P point (steps ++ [step]) ↔
      Along P point steps ∧ P (steps.foldl performStep point) step := by
  induction steps generalizing point with
  | nil => simp [Along]
  | cons first steps ih =>
    rw [List.cons_append, Along, ih, Along, List.foldl_cons]
    exact and_assoc.symm

/-! ## The claim and its condition -/

/-- **The response is the device's answer** to the request with that number. -/
def IsAnswer (n : ℕ) (request : Bytes) (script : ExchangeScript) (response : List WireByte) :
    Prop :=
  (deviceAnswer n request script.answer).map Response.bytes = some response

instance (n : ℕ) (request : Bytes) (script : ExchangeScript) (response : List WireByte) :
    Decidable (IsAnswer n request script response) := inferInstanceAs (Decidable (_ = _))

/-- **The exchange attributes its response rightly**: a successful acknowledgement of the written
register is that of this write, and an exact read response is that of this read. -/
def Attributed (point : SerialPoint) (request : Bytes) (script : ExchangeScript) : Prop :=
  ∀ response, (exchange point.1 request script point.2).1 = .ok response →
    (writeKey request ≠ none → exactWriteAckIdentity (values response) = writeKey request →
      IsAnswer point.1 request script response) ∧
    (answersRead request (values response) = true → IsAnswer point.1 request script response)

def InOrder : WireEvent → Prop
  | .begins response passed =>
    ∀ earlier ∈ passed, earlier.identity.handId ≠ response.identity.handId

/-- A response of an earlier request is not one that the request's exchange would take for its
answer. -/
def NotLate (n : ℕ) (request : Bytes) : WireEvent → Prop
  | .begins response _ => response.request < n → answersRead request response.frame = false

instance : DecidablePred InOrder
  | .begins response passed =>
    inferInstanceAs (Decidable (∀ earlier ∈ passed,
      earlier.identity.handId ≠ response.identity.handId))

instance (n : ℕ) (request : Bytes) : DecidablePred (NotLate n request)
  | .begins response _ =>
    inferInstanceAs (Decidable (response.request < n →
      answersRead request response.frame = false))

/-- **The serial stream**: the responses of a hand begin to arrive in the order of their requests,
and the input flush of an exchange cuts none in two. -/
def SerialStream (point : SerialPoint) : SerialStep → Prop
  | .link event => ∀ e ∈ (link event point.2).2.2, InOrder e
  | .exchange request script => point.2.arriving = [] ∧
      ∀ e ∈ (exchange point.1 request script point.2).2.2, InOrder e

/-- **No late read response** begins to arrive during an exchange that would take it for its
answer. -/
def NoLateRead (point : SerialPoint) : SerialStep → Prop
  | .link _ => True
  | .exchange request script =>
    ∀ e ∈ (exchange point.1 request script point.2).2.2, NotLate point.1 request e

instance : ∀ (point : SerialPoint) (step : SerialStep), Decidable (SerialStream point step)
  | _, .link _ => inferInstanceAs (Decidable (∀ e ∈ _, InOrder e))
  | _, .exchange _ _ => inferInstanceAs (Decidable (_ ∧ ∀ e ∈ _, InOrder e))

instance : ∀ (point : SerialPoint) (step : SerialStep), Decidable (NoLateRead point step)
  | _, .link _ => inferInstanceAs (Decidable True)
  | point, .exchange request _ =>
    inferInstanceAs (Decidable (∀ e ∈ _, NotLate point.1 request e))

instance (point : SerialPoint) (request : Bytes) (script : ExchangeScript) :
    Decidable (Attributed point request script) :=
  match h : (exchange point.1 request script point.2).1 with
  | .error _ => isTrue fun response hresponse => by
    rw [h] at hresponse
    cases hresponse
  | .ok response =>
    decidable_of_iff
      ((writeKey request ≠ none → exactWriteAckIdentity (values response) = writeKey request →
          IsAnswer point.1 request script response) ∧
        (answersRead request (values response) = true →
          IsAnswer point.1 request script response)) (by
      constructor
      · intro hright other hother
        rw [h] at hother
        cases hother
        exact hright
      · intro hall
        exact hall response h)

instance decidableAlong {P : SerialPoint → SerialStep → Prop}
    [inst : ∀ point step, Decidable (P point step)] :
    ∀ (point : SerialPoint) (steps : List SerialStep), Decidable (Along P point steps)
  | _, [] => inferInstanceAs (Decidable True)
  | point, step :: steps =>
    @instDecidableAnd _ _ (inst point step) (decidableAlong (performStep point step) steps)

/-! ## What is due -/

def Before (first second : Response) : Prop :=
  first.identity.handId = second.identity.handId → first.request < second.request

def OldAck (n : ℕ) (key : AckKey) (r : Response) : Prop := r.request < n ∧ r.ackKey = some key

instance (n : ℕ) (key : AckKey) : DecidablePred (OldAck n key) := fun _ =>
  inferInstanceAs (Decidable (_ ∧ _))

/-- **The responses that are due** during the exchange of the request `n`: those of a hand are in
order, each is of an earlier request or the answer to this one, and there is a debt for each
acknowledgement of an earlier write. -/
structure Due (n : ℕ) (answered : Option Response) (pending : AckKey → ℕ) (due : List Response) :
    Prop where
  ordered : due.Pairwise Before
  origin : ∀ r ∈ due, r.request < n ∨ answered = some r
  owed : ∀ key, due.countP (OldAck n key) ≤ pending key

theorem countP_le_add {α : Type} {p q q' : α → Bool} {l : List α}
    (h : ∀ a ∈ l, p a = true → q a = true ∨ q' a = true) :
    l.countP p ≤ l.countP q + l.countP q' := by
  induction l with
  | nil => rfl
  | cons a l ih =>
    have hl := ih fun b hb => h b (.tail _ hb)
    have ha := h a (.head _)
    rw [List.countP_cons, List.countP_cons, List.countP_cons]
    by_cases hp : p a = true
    · rcases ha hp with hq | hq
      · rw [if_pos hp, if_pos hq]
        omega
      · rw [if_pos hp, if_pos hq]
        omega
    · rw [if_neg hp]
      omega

namespace Due

variable {n : ℕ} {answered : Option Response} {pending : AckKey → ℕ} {due rest : List Response}
  {r : Response}

theorem sublist (h : Due n answered pending due) (hsub : rest.Sublist due) :
    Due n answered pending rest where
  ordered := h.ordered.sublist hsub
  origin r hr := h.origin r (hsub.subset hr)
  owed key := (hsub.countP_le).trans (h.owed key)

theorem nodup (h : Due n answered pending due) : due.Nodup :=
  h.ordered.imp fun {a b} hab heq => by
    subst heq
    exact lt_irrefl _ (hab rfl)

theorem advance {front passed back : List Response}
    (h : Due n answered pending (front ++ (passed ++ r :: back)))
    (hpassed : ∀ earlier ∈ passed, earlier.identity.handId ≠ r.identity.handId) :
    Due n answered pending ((front ++ [r]) ++ (passed ++ back)) := by
  have hperm : ((front ++ [r]) ++ (passed ++ back)).Perm (front ++ (passed ++ r :: back)) := by
    rw [List.append_assoc, List.singleton_append]
    exact (List.perm_middle.symm).append_left front
  refine ⟨?_, fun q hq => h.origin q (hperm.subset hq), fun key => ?_⟩
  · have hordered := h.ordered
    simp only [List.pairwise_append, List.pairwise_cons, List.mem_append, List.mem_cons,
      List.append_assoc, List.singleton_append] at hordered ⊢
    obtain ⟨hfront, ⟨hpass, ⟨hr, hback⟩, hcross⟩, hmid⟩ := hordered
    refine ⟨hfront, ⟨?_, hpass, hback, fun a ha b hb => hcross a ha b (.inr hb)⟩, ?_⟩
    · rintro q (hq | hq) hhand
      · exact absurd hhand.symm (hpassed q hq)
      · exact hr q hq hhand
    · rintro a ha b (hb | hb | hb)
      · exact hmid a ha b (.inr (.inl hb))
      · exact hmid a ha b (.inl hb)
      · exact hmid a ha b (.inr (.inr hb))
  · rw [hperm.countP_eq]
    exact h.owed key

theorem of_own (h : Due n (some r) pending (r :: rest)) (hn : r.request = n) {q : Response}
    (hq : q ∈ rest) : q.identity.handId ≠ r.identity.handId := by
  intro hhand
  have hlt := (List.pairwise_cons.mp h.ordered).1 q hq hhand.symm
  rcases h.origin q (.tail _ hq) with hold | hown
  · omega
  · rw [Option.some.inj hown] at hlt
    exact lt_irrefl _ hlt

theorem answer (h : Due n answered pending due) (hold : ∀ r ∈ due, r.request < n)
    (hn : ∀ r, answered = some r → r.request = n) :
    Due n answered pending (due ++ answered.toList) := by
  refine ⟨?_, ?_, fun key => ?_⟩
  · rw [List.pairwise_append]
    refine ⟨h.ordered, ?_, ?_⟩
    · cases answered <;> simp
    · intro a ha b hb _
      rw [hn b (Option.mem_toList.mp hb)]
      exact hold a ha
  · intro r hr
    rcases List.mem_append.mp hr with hr | hr
    · exact h.origin r hr
    · exact .inr (Option.mem_toList.mp hr)
  · have hnew : answered.toList.countP (OldAck n key) = 0 := by
      rw [List.countP_eq_zero]
      intro r hr
      have := hn r (Option.mem_toList.mp hr)
      simp [OldAck, this]
    rw [List.countP_append, hnew]
    exact h.owed key

theorem skip {key : AckKey} (h : Due n answered pending (r :: rest))
    (hn : ∀ r, answered = some r → r.request = n) (hack : r.ackKey = some key)
    (hdebt : 0 < pending key) :
    Due n answered (Function.update pending key (pending key - 1)) rest := by
  have htail := h.sublist (List.sublist_cons_self r rest)
  refine ⟨htail.ordered, htail.origin, fun other => ?_⟩
  by_cases hother : other = key
  · subst hother
    rw [Function.update_self]
    rcases h.origin r (.head _) with hold | hown
    · have hcount := h.owed other
      rw [List.countP_cons_of_pos (by simp [OldAck, hold, hack])] at hcount
      omega
    · -- the answer itself was skipped: nothing older of this hand can follow it
      subst hown
      have hnone : rest.countP (OldAck n other) = 0 := by
        rw [List.countP_eq_zero]
        intro q hq hold
        have hkey := (q.of_ackKey (by simpa [OldAck] using (of_decide_eq_true hold).2)).2
        have hkey' := (r.of_ackKey hack).2
        refine h.of_own (hn r rfl) hq ?_
        rw [hkey] at hkey'
        exact (Prod.ext_iff.mp hkey').1
      omega
  · rw [Function.update_of_ne hother]
    exact htail.owed other

/-- **The ordering barrier**: the debts of the answer's hand can be forgotten. -/
theorem barrier (h : Due n (some r) pending (r :: rest)) (hn : r.request = n) :
    Due n (some r) (clearHand r.identity.handId pending) rest := by
  have htail := h.sublist (List.sublist_cons_self r rest)
  refine ⟨htail.ordered, htail.origin, fun key => ?_⟩
  unfold clearHand
  split_ifs with hhand
  · rw [Nat.le_zero, List.countP_eq_zero]
    intro q hq hold
    refine h.of_own hn hq ?_
    rw [← hhand, (q.of_ackKey (of_decide_eq_true hold).2).2]
  · exact htail.owed key

/-- **The next request**, when no acknowledgement of this one is due. -/
theorem next (h : Due n answered pending due) (hn : ∀ r, answered = some r → r.request = n)
    (hown : ∀ r ∈ due, answered = some r → r.ackKey = none) : Due (n + 1) none pending due := by
  refine ⟨h.ordered, fun r hr => .inl ?_, fun key => ?_⟩
  · rcases h.origin r hr with hold | hanswer
    · omega
    · rw [hn r hanswer]
      omega
  · refine (List.countP_mono_left fun r hr hack => ?_).trans (h.owed key)
    obtain ⟨-, hkey⟩ := of_decide_eq_true hack
    rcases h.origin r hr with hold | hanswer
    · exact decide_eq_true ⟨hold, hkey⟩
    · rw [hown r hr hanswer] at hkey
      cases hkey

/-- **The next request**, with a new debt for the acknowledgement of this one. -/
theorem next_remember {key : AckKey} (h : Due n answered pending due)
    (hn : ∀ r, answered = some r → r.request = n)
    (hkey : ∀ r other, answered = some r → r.ackKey = some other → other = key) :
    Due (n + 1) none (Function.update pending key (pending key + 1)) due := by
  refine ⟨h.ordered, fun r hr => .inl ?_, fun other => ?_⟩
  · rcases h.origin r hr with hold | hanswer
    · omega
    · rw [hn r hanswer]
      omega
  · have hsplit : due.countP (OldAck (n + 1) other) ≤ due.countP (OldAck n other) +
        due.countP fun r => answered = some r ∧ r.ackKey = some other := by
      refine countP_le_add fun r hr hack => ?_
      obtain ⟨-, hack⟩ := of_decide_eq_true hack
      rcases h.origin r hr with hold | hanswer
      · exact .inl (decide_eq_true ⟨hold, hack⟩)
      · exact .inr (decide_eq_true ⟨hanswer, hack⟩)
    by_cases hother : other = key
    · subst hother
      rw [Function.update_self]
      have honce : due.countP (fun r => answered = some r ∧ r.ackKey = some other) ≤ 1 := by
        cases answered with
        | none => simp
        | some own =>
          refine (List.countP_mono_left (q := (· == own)) fun r _ hr => ?_).trans
            (List.nodup_iff_count_le_one.mp h.nodup own)
          have := (of_decide_eq_true hr).1
          simp [Option.some.inj this]
      have := h.owed other
      omega
    · rw [Function.update_of_ne hother]
      have hnone : due.countP (fun r => answered = some r ∧ r.ackKey = some other) = 0 := by
        rw [List.countP_eq_zero]
        intro r _ hr
        obtain ⟨hanswer, hack⟩ := of_decide_eq_true hr
        exact hother (hkey r other hanswer hack)
      have := h.owed other
      omega

end Due

/-! ## Frames in the buffer -/

/-- **The buffer of whole frames** gives no frame, or the first one. -/
theorem takeFrame_cases {buffer rest : List WireByte} {frames : List Response}
    (h : buffer ++ rest = frames.flatMap Response.bytes) :
    takeFrame buffer = (none, buffer) ∨ ∃ r frames' buffer', frames = r :: frames' ∧
      buffer = r.bytes ++ buffer' ∧ takeFrame buffer = (some r.bytes, buffer') := by
  rcases frames with _ | ⟨r, frames⟩
  · obtain ⟨rfl, -⟩ := List.append_eq_nil_iff.mp h
    exact .inl rfl
  rw [List.flatMap_cons] at h
  by_cases hfour : buffer.length < 4
  · -- too short for the length byte, with or without the header
    left
    unfold takeFrame
    cases hfind : findHeader (values buffer) with
    | none => rfl
    | some headerAt =>
      have hzero : headerAt = 0 := by
        have hvalues := congrArg values h
        rw [values_append, values_append, r.values_bytes, r.frame_eq] at hvalues
        rcases buffer with _ | ⟨b₀, _ | ⟨b₁, buffer⟩⟩
        · simp [findHeader] at hfind
        · simp [findHeader, values] at hfind
        · simp only [values, List.map_cons, List.cons_append, List.cons.injEq] at hvalues
          simp [findHeader, values, hvalues.1, hvalues.2.1, responseHeader] at hfind
          exact hfind.symm
      subst hzero
      simp only [List.drop_zero]
      rw [if_pos hfour]
  · have hfind : findHeader (values buffer) = some 0 := by
      have hvalues := congrArg values h
      rw [values_append, values_append, r.values_bytes, r.frame_eq] at hvalues
      rcases buffer with _ | ⟨b₀, _ | ⟨b₁, buffer⟩⟩
      · simp at hfour
      · simp at hfour
      · simp only [values, List.map_cons, List.cons_append, List.cons.injEq] at hvalues
        simp [findHeader, values, hvalues.1, hvalues.2.1, responseHeader]
    have htotal : (byteAt (values buffer) 3).toNat + 5 = r.bytes.length := by
      have hbyte : byteAt (values buffer) 3 = byteAt r.frame 3 := by
        have hvalues := congrArg (fun bytes => byteAt (values bytes) 3) h
        simp only [values_append, byteAt, r.values_bytes] at hvalues
        rw [List.getD_append _ _ _ _ (by rw [length_values]; omega),
          List.getD_append _ _ _ _ (by rw [r.length_frame]; omega)] at hvalues
        exact hvalues
      rw [hbyte, r.wireLength_frame, r.length_bytes]
    unfold takeFrame
    simp only [hfind, List.drop_zero]
    rw [if_neg hfour, htotal]
    by_cases hwhole : buffer.length < r.bytes.length
    · rw [if_pos hwhole]
      exact .inl rfl
    · obtain ⟨buffer', hbuffer⟩ : r.bytes <+: buffer :=
        List.prefix_of_prefix_length_le ⟨_, h.symm⟩ ⟨rest, rfl⟩ (by omega)
      subst hbuffer
      rw [if_neg hwhole, List.take_left, List.drop_left]
      exact .inr ⟨r, frames, buffer', rfl, rfl, rfl⟩

/-! ## During an exchange -/

section

variable (n : ℕ) (request : Bytes) (answered : Option Response)

/-- **What is still open** of the exchange: the debt of its own write is not recorded yet. -/
structure Unsettled (s : WireState) (due : List Response) : Prop where
  outstanding : Due n answered s.pendingLateWriteAcks due
  flight : s.inFlight.Sublist due
  sent : writeKey request ≠ none → (∃ r ∈ due, answered = some r) → s.writeMayHaveBeenSent = true
  unrecorded : s.writeDebtRecorded = false

/-- **Within an exchange**: what has arrived is some whole frames, none of them a late response that
passes for the answer. -/
structure Within (s : WireState) (frames : List Response) : Prop where
  bytes : s.buffer ++ s.received ++ s.arriving = frames.flatMap Response.bytes
  fresh : ∀ r ∈ frames, r.request < n → answersRead request r.frame = false
  unsettled : Unsettled n request answered s (frames ++ s.inFlight)

/-- **Between exchanges**, before the request `n`. -/
def Between (s : WireState) : Prop := Due n none s.pendingLateWriteAcks s.inFlight

def Timely (t : List WireEvent) : Prop := ∀ e ∈ t, InOrder e ∧ NotLate n request e

/-- The exchange is under way, as long as the link meets the conditions; all that is due has a
property. -/
def UnderWay (Q : Response → Prop) (s : WireState) (t : List WireEvent) : Prop :=
  Timely n request t → ∃ frames, Within n request answered s frames ∧
    ∀ r ∈ frames ++ s.inFlight, Q r

def Concluded (response : List WireByte) (s : WireState) : Prop :=
  Between (n + 1) s ∧
    (writeKey request ≠ none → exactWriteAckIdentity (values response) = writeKey request →
      answered.map Response.bytes = some response) ∧
    (answersRead request (values response) = true →
      answered.map Response.bytes = some response)

structure Answers : Prop where
  number : ∀ r, answered = some r → r.request = n
  identity : ∀ r, answered = some r → requestIdentity request = some r.identity

end

variable {n : ℕ} {request : Bytes} {answered : Option Response}

theorem answers_deviceAnswer (n : ℕ) (request : Bytes) (answer : AnswerData) :
    Answers n request (deviceAnswer n request answer) := by
  constructor
  · intro r h
    unfold deviceAnswer at h
    split at h
    · rw [← Option.some.inj h]
    · cases h
  · intro r h
    unfold deviceAnswer at h
    split at h
    · rename_i identity hidentity
      rw [← Option.some.inj h]
      exact hidentity
    · cases h

theorem Answers.ackKey (h : Answers n request answered) {r : Response} {key : AckKey}
    (hr : answered = some r) (hkey : r.ackKey = some key) : writeKey request = some key := by
  obtain ⟨hcommand, rfl⟩ := r.of_ackKey hkey
  unfold writeKey
  simp only [h.identity r hr, hcommand, if_true]

theorem of_answersRead {r : Response} (h : answersRead request r.frame = true) :
    r.identity.handId = byteAt request 2 ∧ writeKey request = none := by
  unfold answersRead at h
  cases hidentity : requestIdentity request with
  | none =>
    rw [hidentity] at h
    cases h
  | some identity =>
    simp only [hidentity, Bool.and_eq_true, decide_eq_true_eq] at h
    obtain ⟨⟨hread, -⟩, hexact⟩ := h
    have hhand : identity.handId = byteAt request 2 := by
      unfold requestIdentity at hidentity
      simp only at hidentity
      split_ifs at hidentity
      rw [← Option.some.inj hidentity]
    refine ⟨(r.of_isExactReadResponse hexact).1.trans hhand, ?_⟩
    unfold writeKey
    simp only [hidentity, hread]
    rfl

theorem Unsettled.wp_remember {s : WireState} {due : List Response} {t : List WireEvent}
    (h : Unsettled n request answered s due) (ha : Answers n request answered) :
    wp (rememberUnprovenWrite request) (fun _ s' t' => Between (n + 1) s' ∧ t' = t)
      (fun _ _ _ => False) s t := by
  unfold rememberUnprovenWrite
  rw [wp_bind, wp_read]
  beta_reduce
  cases hkey : writeKey request with
  | none =>
    rw [wp_ret]
    refine ⟨(h.outstanding.next ha.number fun r _ hr => ?_).sublist h.flight, rfl⟩
    cases hack : r.ackKey with
    | none => rfl
    | some key => exact absurd (ha.ackKey hr hack) (by rw [hkey]; simp)
  | some key =>
    simp only []
    rw [wp_ite]
    refine ⟨fun _ => ?_, fun hnot => ?_⟩
    · rw [wp_update]
      refine ⟨(h.outstanding.next_remember ha.number fun r other hr hack => ?_).sublist h.flight, rfl⟩
      have := ha.ackKey hr hack
      rw [hkey] at this
      exact (Option.some.inj this).symm
    · rw [wp_ret]
      refine ⟨(h.outstanding.next ha.number fun r hr hown => ?_).sublist h.flight, rfl⟩
      -- nothing was sent, so nothing was answered
      have hsent := h.sent (by simp [hkey]) ⟨r, hr, hown⟩
      exact absurd ⟨hsent, h.unrecorded⟩ hnot

theorem Unsettled.sublist {s : WireState} {due rest : List Response}
    (h : Unsettled n request answered s due) (hsub : rest.Sublist due)
    (hflight : s.inFlight.Sublist rest) : Unsettled n request answered s rest where
  outstanding := h.outstanding.sublist hsub
  flight := hflight
  sent hkey hown := h.sent hkey (hown.imp fun _ hr => ⟨hsub.subset hr.1, hr.2⟩)
  unrecorded := h.unrecorded

theorem Due.next_of_own {pending : AckKey → ℕ} {due : List Response} {r : Response}
    (h : Due n answered pending (r :: due)) (ha : Answers n request answered)
    (hown : answered = some r) : Due (n + 1) none pending due := by
  refine (h.sublist (List.sublist_cons_self r due)).next ha.number fun q hq hanswer => ?_
  rw [hown] at hanswer
  rw [← Option.some.inj hanswer] at hq
  exact absurd hq (List.nodup_cons.mp h.nodup).1

/-- **A response that is accepted** leaves nothing open and is attributed rightly. -/
theorem wp_noteResponse {s : WireState} {due : List Response} {r : Response}
    {t : List WireEvent} (h : Unsettled n request answered s (r :: due))
    (hflight : s.inFlight.Sublist due) (ha : Answers n request answered)
    (hfresh : r.request < n → answersRead request r.frame = false)
    (hlate : lateAck s r.frame = none) :
    wp (noteResponse request r.bytes)
      (fun _ s' t' => Concluded n request answered r.bytes s' ∧ t' = t) (fun _ _ _ => False) s t := by
  have htail := h.sublist (List.sublist_cons_self r due) hflight
  unfold noteResponse
  rw [wp_ite, r.values_bytes]
  refine ⟨fun hread => ?_, fun hread => ?_⟩
  · -- the exact read response can only be the answer
    have hown : answered = some r := by
      rcases h.outstanding.origin r (.head _) with hold | hown
      · rw [hfresh hold] at hread
        cases hread
      · exact hown
    obtain ⟨hhand, hkey⟩ := of_answersRead hread
    have hbarrier : Due n answered (clearHand r.identity.handId s.pendingLateWriteAcks) due := by
      have houtstanding := h.outstanding
      subst hown
      exact houtstanding.barrier (ha.number r rfl)
    rw [wp_update, ← hhand]
    refine ⟨⟨?_, fun hwrite => absurd hkey hwrite, fun _ => by rw [hown]; rfl⟩, rfl⟩
    refine (hbarrier.next ha.number fun q _ hq => ?_).sublist hflight
    cases hack : q.ackKey with
    | none => rfl
    | some key => exact absurd (ha.ackKey hq hack) (by rw [hkey]; simp)
  · rw [wp_ite]
    refine ⟨fun hother => ?_, fun hsame => ?_⟩
    · refine wp_mono (htail.wp_remember ha) (fun _ s' t' hs => ?_) fun _ _ _ h => h
      refine ⟨⟨hs.1, fun _ hack => absurd ?_ hother.2, fun hanswer => absurd ?_ hread⟩, hs.2⟩
      · rwa [r.values_bytes] at hack
      · rwa [r.values_bytes] at hanswer
    · rw [wp_ret]
      cases hkey : writeKey request with
      | none =>
        refine ⟨⟨?_, fun hwrite => absurd hkey hwrite, fun hanswer => absurd ?_ hread⟩, rfl⟩
        · refine (htail.outstanding.next ha.number fun q _ hq => ?_).sublist hflight
          cases hack : q.ackKey with
          | none => rfl
          | some key => exact absurd (ha.ackKey hq hack) (by rw [hkey]; simp)
        · rwa [r.values_bytes] at hanswer
      | some key =>
        have hack : r.ackKey = some key := by
          by_contra hne
          refine hsame ⟨by rw [hkey]; simp, ?_⟩
          rw [hkey]
          exact hne
        -- without a debt the acknowledgement is of no earlier write
        have hown : answered = some r := by
          rcases h.outstanding.origin r (.head _) with hold | hown
          · have hcount := h.outstanding.owed key
            rw [List.countP_cons_of_pos (by simp [OldAck, hold, hack])] at hcount
            have hidentity : exactWriteAckIdentity r.frame = some key := hack
            simp only [lateAck, hidentity, Option.filter_some, ite_eq_right_iff,
              decide_eq_true_eq] at hlate
            exact absurd (hlate (by omega)) (by simp)
          · exact hown
        refine ⟨⟨(h.outstanding.next_of_own ha hown).sublist hflight,
          fun _ _ => by rw [hown]; rfl, fun hanswer => absurd ?_ hread⟩, rfl⟩
        rwa [r.values_bytes] at hanswer

variable (n request answered) in
/-- What `pop_buffered_response` leaves. -/
def Popped (t : List WireEvent) : Option (List WireByte) → WireState → List WireEvent → Prop
  | none, s, t' => (∃ frames, Within n request answered s frames) ∧ t' = t
  | some response, s, t' => Concluded n request answered response s ∧ t' = t

theorem wp_popRounds (rounds : ℕ) {s : WireState} {frames : List Response} {t : List WireEvent}
    (h : Within n request answered s frames) (ha : Answers n request answered) :
    wp (popRounds request rounds) (Popped n request answered t) (fun _ _ _ => False) s t := by
  induction rounds generalizing s frames with
  | zero =>
    rw [popRounds, wp_ret]
    exact ⟨⟨frames, h⟩, rfl⟩
  | succ rounds ih =>
    have hbytes := h.bytes
    rw [List.append_assoc] at hbytes
    rw [popRounds, wp_bind, wp_read]
    beta_reduce
    rcases takeFrame_cases hbytes with htake | ⟨r, frames', buffer', rfl, hbuffer, htake⟩
    · simp only [htake]
      rw [wp_bind, wp_update, wp_ret]
      exact ⟨⟨frames, h.bytes, h.fresh, h.unsettled.outstanding, h.unsettled.flight,
        h.unsettled.sent, h.unsettled.unrecorded⟩, rfl⟩
    · simp only [htake]
      rw [wp_bind, wp_update]
      have hrest : buffer' ++ s.received ++ s.arriving = frames'.flatMap Response.bytes := by
        rw [hbuffer, List.flatMap_cons, List.append_assoc] at hbytes
        rw [List.append_assoc]
        exact List.append_cancel_left hbytes
      have hflight : s.inFlight.Sublist (frames' ++ s.inFlight) := List.sublist_append_right _ _
      rw [r.values_bytes]
      cases hlate : lateAck s r.frame with
      | none =>
        simp only []
        rw [wp_bind]
        have hopen : Unsettled n request answered { s with buffer := buffer' }
            (r :: (frames' ++ s.inFlight)) :=
          ⟨h.unsettled.outstanding, h.unsettled.flight, h.unsettled.sent,
            h.unsettled.unrecorded⟩
        refine wp_mono (wp_noteResponse hopen hflight ha (h.fresh r (.head _)) hlate)
          (fun _ s' t' hs => ?_) fun _ _ _ h => h
        rw [wp_ret]
        exact hs
      | some key =>
        simp only []
        have hdebt : r.ackKey = some key ∧ 0 < s.pendingLateWriteAcks key := by
          unfold lateAck at hlate
          obtain ⟨hack, hdebt⟩ := Option.filter_eq_some_iff.mp hlate
          exact ⟨hack, of_decide_eq_true hdebt⟩
        unfold skipLateAck
        rw [wp_bind, wp_update]
        refine ih ⟨hrest, fun q hq => h.fresh q (.tail _ hq), ?_, hflight, ?_,
          h.unsettled.unrecorded⟩
        · exact h.unsettled.outstanding.skip ha.number hdebt.1 hdebt.2
        · exact fun hkey hown => h.unsettled.sent hkey
            (hown.imp fun _ hq => ⟨.tail _ hq.1, hq.2⟩)

theorem wp_popBufferedResponse {s : WireState} {frames : List Response} {t : List WireEvent}
    (h : Within n request answered s frames) (ha : Answers n request answered) :
    wp (popBufferedResponse request) (Popped n request answered t) (fun _ _ _ => False) s t := by
  unfold popBufferedResponse
  rw [wp_bind, wp_read]
  exact wp_popRounds _ h ha

/-! ## The steps of an exchange -/

theorem Timely.of_append {t t' : List WireEvent} (h : Timely n request (t ++ t')) :
    Timely n request t := fun e he => h e (List.mem_append_left _ he)

theorem keeps_link (Q : Response → Prop) (event : LinkEvent) :
    Keeps (UnderWay n request answered Q) (link event) := by
  intro s t h
  cases event with
  | arrive index =>
    simp only [link]
    rw [wp_bind, wp_read]
    beta_reduce
    split
    · rename_i r harriving hr
      rw [wp_bind, wp_emit, wp_update]
      intro htimely
      obtain ⟨frames, hwithin, hall⟩ := h htimely.of_append
      obtain ⟨hlt, hget⟩ := List.getElem?_eq_some_iff.mp hr
      have hflight : s.inFlight = s.inFlight.take index ++ r :: s.inFlight.drop (index + 1) := by
        rw [← hget, ← List.drop_eq_getElem_cons hlt, List.take_append_drop]
      obtain ⟨horder, hlate⟩ := htimely _ (List.mem_append_right _ (.head _))
      have hperm : (frames ++ [r] ++ s.inFlight.eraseIdx index).Perm (frames ++ s.inFlight) := by
        rw [List.append_assoc, List.singleton_append, List.eraseIdx_eq_take_drop_succ]
        nth_rewrite 3 [hflight]
        exact (List.perm_middle.symm).append_left frames
      refine ⟨frames ++ [r], ⟨?_, ?_, ?_⟩, fun q hq => hall q (hperm.subset hq)⟩
      · have hbytes := hwithin.bytes
        rw [harriving, List.append_nil] at hbytes
        rw [List.flatMap_append, ← hbytes, List.flatMap_singleton]
      · intro q hq
        rcases List.mem_append.mp hq with hq | hq
        · exact hwithin.fresh q hq
        · rw [List.mem_singleton.mp hq]
          exact hlate
      · refine ⟨?_, List.sublist_append_right _ _, fun hkey hown => ?_, hwithin.unsettled.unrecorded⟩
        · have hdue := hwithin.unsettled.outstanding
          rw [hflight] at hdue
          simp only [List.eraseIdx_eq_take_drop_succ]
          exact hdue.advance horder
        · exact hwithin.unsettled.sent hkey
            (hown.imp fun _ hq => ⟨hperm.subset hq.1, hq.2⟩)
    · rw [wp_ret]
      exact h
  | bytes count =>
    simp only [link]
    rw [wp_update]
    intro htimely
    obtain ⟨frames, hwithin, hall⟩ := h htimely
    refine ⟨frames, ⟨?_, hwithin.fresh, ⟨hwithin.unsettled.outstanding, hwithin.unsettled.flight,
      hwithin.unsettled.sent, hwithin.unsettled.unrecorded⟩⟩, hall⟩
    rw [← hwithin.bytes]
    simp only [List.append_assoc, List.take_append_drop]
  | lose index =>
    simp only [link]
    rw [wp_update]
    intro htimely
    obtain ⟨frames, hwithin, hall⟩ := h htimely
    have hsub : (frames ++ s.inFlight.eraseIdx index).Sublist (frames ++ s.inFlight) :=
      (List.eraseIdx_sublist _ _).append_left frames
    refine ⟨frames, ⟨hwithin.bytes, hwithin.fresh, ?_⟩, fun q hq => hall q (hsub.subset hq)⟩
    exact ⟨hwithin.unsettled.outstanding.sublist hsub, List.sublist_append_right _ _,
      fun hkey hown => hwithin.unsettled.sent hkey
        (hown.imp fun _ hq => ⟨hsub.subset hq.1, hq.2⟩), hwithin.unsettled.unrecorded⟩

abbrev Earlier (n : ℕ) (r : Response) : Prop := r.request < n

theorem UnderWay.mono {Q Q' : Response → Prop} {s : WireState} {t : List WireEvent}
    (h : UnderWay n request answered Q s t) (hQ : ∀ r, Q r → Q' r) :
    UnderWay n request answered Q' s t := fun htimely =>
  let ⟨frames, hwithin, hall⟩ := h htimely
  ⟨frames, hwithin, fun r hr => hQ r (hall r hr)⟩

/-- **Bytes of the request are written**: the device answers once nothing is left. -/
theorem wp_written {s : WireState} {t : List WireEvent} (ha : Answers n request answered)
    (h : UnderWay n request answered (Earlier n) s t) (view : Bytes) :
    wp (markWrite request) (fun _ s t => wp (requestLeft answered view)
      (fun _ s t => UnderWay n request answered (fun _ => True) s t ∧
        (view ≠ [] → UnderWay n request answered (Earlier n) s t))
      (fun _ _ _ => False) s t) (fun _ _ _ => False) s t := by
  have hmarked : wp (markWrite request) (fun _ s t => UnderWay n request answered (Earlier n) s t ∧
      (writeKey request ≠ none → s.writeMayHaveBeenSent = true)) (fun _ _ _ => False) s t := by
    unfold markWrite
    rw [wp_ite]
    refine ⟨fun _ => ?_, fun hkey => ?_⟩
    · rw [wp_update]
      refine ⟨fun htimely => ?_, fun _ => rfl⟩
      obtain ⟨frames, hwithin, hall⟩ := h htimely
      exact ⟨frames, ⟨hwithin.bytes, hwithin.fresh, ⟨hwithin.unsettled.outstanding,
        hwithin.unsettled.flight, fun _ _ => rfl, hwithin.unsettled.unrecorded⟩⟩, hall⟩
    · rw [wp_ret]
      exact ⟨h, fun hne => absurd hne hkey⟩
  refine wp_mono hmarked (fun _ s t hs => ?_) fun _ _ _ h => h
  obtain ⟨hway, hsent⟩ := hs
  unfold requestLeft
  rw [wp_ite]
  refine ⟨fun hview => ?_, fun _ => ?_⟩
  · rw [wp_update]
    refine ⟨fun htimely => ?_, fun hne => absurd hview hne⟩
    obtain ⟨frames, hwithin, hall⟩ := hway htimely
    refine ⟨frames, ⟨hwithin.bytes, hwithin.fresh, ?_⟩, fun _ _ => trivial⟩
    refine ⟨?_, List.sublist_append_right _ _, fun hkey _ => hsent hkey,
      hwithin.unsettled.unrecorded⟩
    show Due n answered s.pendingLateWriteAcks (frames ++ (s.inFlight ++ answered.toList))
    rw [← List.append_assoc]
    exact hwithin.unsettled.outstanding.answer hall ha.number
  · rw [wp_ret]
    exact ⟨hway.mono fun _ _ => trivial, fun _ => hway⟩

theorem wp_sendRequest (ha : Answers n request answered) (view : Bytes) (turns : List SendTurn)
    {s : WireState} {t : List WireEvent} (h : UnderWay n request answered (Earlier n) s t) :
    wp (sendRequest request answered view turns)
      (fun _ => UnderWay n request answered fun _ => True)
      (fun _ => UnderWay n request answered fun _ => True) s t := by
  fun_induction sendRequest request answered view turns generalizing s t with
  | case1 =>
    rw [wp_ret]
    exact h.mono fun _ _ => trivial
  | case2 =>
    rw [wp_fail]
    exact h.mono fun _ _ => trivial
  | case3 b view event turns ih =>
    refine (keeps_link (Earlier n) event).wp_bind h (fun _ s t hs => ih hs) fun _ s t hs => ?_
    exact hs.mono fun _ _ => trivial
  | case4 =>
    rw [wp_fail]
    exact h.mono fun _ _ => trivial
  | case5 b view count turns ih =>
    rw [wp_bind]
    refine wp_mono (wp_written ha h ((b :: view).drop count)) (fun _ s t hs => ?_)
      fun _ _ _ h => h.elim
    rw [wp_bind]
    refine wp_mono hs (fun _ s t hs => ?_) fun _ _ _ h => h.elim
    rw [wp_ite]
    refine ⟨fun _ => ?_, fun _ => ?_⟩
    · rw [wp_fail]
      exact hs.1
    · by_cases hview : (b :: view).drop count = []
      · rw [hview, sendRequest, wp_ret]
        exact hs.1
      · exact ih (hs.2 hview)
  | case6 b view writable turns ih =>
    rw [wp_bind]
    refine wp_mono (wp_written ha h (b :: view)) (fun _ s t hs => ?_) fun _ _ _ h => h.elim
    -- nothing was written: the device has not seen more of the request
    rw [requestLeft, if_neg (by simp), wp_ret] at hs
    rw [wp_ite]
    refine ⟨fun _ => ih (hs.2 (by simp)), fun _ => ?_⟩
    rw [wp_fail]
    exact hs.1
  | case7 b view count exception turns =>
    rw [wp_bind]
    refine wp_mono (wp_written ha h ((b :: view).drop count)) (fun _ s t hs => ?_)
      fun _ _ _ h => h.elim
    rw [wp_bind]
    refine wp_mono hs (fun _ s t hs => ?_) fun _ _ _ h => h.elim
    rw [wp_fail]
    exact hs.1

theorem wp_remember_quiet {s : WireState} {t : List WireEvent} :
    wp (rememberUnprovenWrite request) (fun _ _ t' => t' = t) (fun _ _ _ => False) s t := by
  unfold rememberUnprovenWrite
  rw [wp_bind, wp_read]
  beta_reduce
  cases writeKey request with
  | none => rw [wp_ret]
  | some key =>
    simp only []
    rw [wp_ite, wp_update, wp_ret]
    exact ⟨fun _ => rfl, fun _ => rfl⟩

theorem wp_popRounds_quiet (rounds : ℕ) {s : WireState} {t : List WireEvent} :
    wp (popRounds request rounds) (fun _ _ t' => t' = t) (fun _ _ _ => False) s t := by
  induction rounds generalizing s with
  | zero => rw [popRounds, wp_ret]
  | succ rounds ih =>
    rw [popRounds, wp_bind, wp_read]
    beta_reduce
    rcases takeFrame s.buffer with ⟨_ | response, buffer⟩
    · rw [wp_bind, wp_update, wp_ret]
    · rw [wp_bind, wp_update]
      simp only []
      cases lateAck s (values response) with
      | some key =>
        unfold skipLateAck
        simp only []
        rw [wp_bind, wp_update]
        exact ih
      | none =>
        unfold noteResponse
        simp only []
        rw [wp_bind, wp_ite, wp_ite, wp_update, wp_ret]
        refine ⟨fun _ => rfl, fun _ => ⟨fun _ => ?_, fun _ => ?_⟩⟩
        · exact wp_remember_quiet
        · rw [wp_ret]

variable (n request answered) in
def Received : Option (List WireByte) → WireState → List WireEvent → Prop
  | none, s, t => UnderWay n request answered (fun _ => True) s t
  | some response, s, t => Timely n request t → Concluded n request answered response s

theorem wp_look (ha : Answers n request answered) {s : WireState} {t : List WireEvent}
    (h : UnderWay n request answered (fun _ => True) s t) :
    wp (popBufferedResponse request) (Received n request answered) (fun _ _ _ => False) s t := by
  by_cases htimely : Timely n request t
  · obtain ⟨frames, hwithin, -⟩ := h htimely
    refine wp_mono (wp_popBufferedResponse (t := t) hwithin ha) (fun result s' t' hs => ?_)
      fun _ _ _ h => h
    cases result with
    | none =>
      obtain ⟨⟨frames', hwithin'⟩, -⟩ := hs
      exact fun _ => ⟨frames', hwithin', fun _ _ => trivial⟩
    | some response => exact fun _ => hs.1
  · have hquiet : wp (popBufferedResponse request) (fun _ _ t' => t' = t) (fun _ _ _ => False)
        s t := by
      unfold popBufferedResponse
      rw [wp_bind, wp_read]
      exact wp_popRounds_quiet _
    refine wp_mono hquiet (fun result s' t' hs => ?_) fun _ _ _ h => h
    subst hs
    cases result with
    | none => exact fun h => absurd h htimely
    | some response => exact fun h => absurd h htimely

theorem wp_look_bind (ha : Answers n request answered)
    {f : Option (List WireByte) → WireM (Option (List WireByte))} {s : WireState}
    {t : List WireEvent} (h : UnderWay n request answered (fun _ => True) s t)
    (hsome : ∀ response s t, Received n request answered (some response) s t →
      wp (f (some response)) (Received n request answered)
        (fun _ => UnderWay n request answered fun _ => True) s t)
    (hnone : ∀ s t, UnderWay n request answered (fun _ => True) s t →
      wp (f none) (Received n request answered)
        (fun _ => UnderWay n request answered fun _ => True) s t) :
    wp (popBufferedResponse request >>= f) (Received n request answered)
      (fun _ => UnderWay n request answered fun _ => True) s t := by
  rw [wp_bind]
  refine wp_mono (wp_look ha h) (fun result s t hs => ?_) fun _ _ _ h => h.elim
  cases result with
  | none => exact hnone s t hs
  | some response => exact hsome response s t hs

theorem wp_receive (ha : Answers n request answered) (turns : List ReceiveTurn)
    {s : WireState} {t : List WireEvent} (h : UnderWay n request answered (fun _ => True) s t) :
    wp (receive request turns) (Received n request answered)
      (fun _ => UnderWay n request answered fun _ => True) s t := by
  induction turns generalizing s t with
  | nil =>
    rw [receive, wp_ret]
    exact h
  | cons turn turns ih =>
    cases turn with
    | link event =>
      rw [receive]
      exact (keeps_link _ event).wp_bind h (fun _ s t hs => ih hs) fun _ s t hs => hs
    | unreadable =>
      rw [receive]
      exact wp_mono (wp_look ha h) (fun _ _ _ h => h) fun _ _ _ h => h.elim
    | blocked =>
      rw [receive]
      refine wp_look_bind ha h (fun response s t hs => ?_) fun s t hs => ih hs
      rw [wp_ret]
      exact hs
    | raises exception =>
      rw [receive]
      refine wp_look_bind ha h (fun response s t hs => ?_) fun s t hs => ?_
      · rw [wp_ret]
        exact hs
      · rw [wp_fail]
        exact hs
    | chunk count =>
      rw [receive]
      refine wp_look_bind ha h (fun response s t hs => ?_) fun s t hs => ?_
      · rw [wp_ret]
        exact hs
      · simp only [readChunk]
        rw [wp_bind, wp_bind, wp_read]
        beta_reduce
        rw [wp_bind, wp_update, wp_ret]
        beta_reduce
        have hread : UnderWay n request answered (fun _ => True)
            { s with
              buffer := s.buffer ++ s.received.take (min count 4096)
              received := s.received.drop (min count 4096) } t := by
          intro htimely
          obtain ⟨frames, hwithin, hall⟩ := hs htimely
          refine ⟨frames, ⟨?_, hwithin.fresh, ⟨hwithin.unsettled.outstanding,
            hwithin.unsettled.flight, hwithin.unsettled.sent,
            hwithin.unsettled.unrecorded⟩⟩, hall⟩
          rw [← hwithin.bytes]
          simp only [List.append_assoc, List.take_append_drop]
        by_cases hchunk : s.received.take (min count 4096) = []
        · rw [if_pos hchunk, wp_bind, wp_ret]
          exact ih hread
        · rw [if_neg hchunk]
          refine wp_look_bind ha hread (fun response s t hs => ?_) fun s t hs => ih hs
          rw [wp_ret]
          exact hs

theorem wp_remember_underWay (ha : Answers n request answered) {s : WireState}
    {t : List WireEvent} (h : UnderWay n request answered (fun _ => True) s t) :
    wp (rememberUnprovenWrite request) (fun _ s t => Timely n request t → Between (n + 1) s)
      (fun _ _ _ => False) s t := by
  by_cases htimely : Timely n request t
  · obtain ⟨frames, hwithin, -⟩ := h htimely
    exact wp_mono (hwithin.unsettled.wp_remember ha) (fun _ _ _ hs _ => hs.1) fun _ _ _ h => h
  · refine wp_mono wp_remember_quiet (fun _ _ t' hs hin => ?_) fun _ _ _ h => h
    subst hs
    exact absurd hin htimely

/-- **An exchange** leaves nothing open, and attributes its response rightly. -/
theorem wp_exchange {s : WireState} (script : ExchangeScript) (h : Between n s)
    (hwhole : s.arriving = []) :
    wp (exchange n request script)
      (fun response s t => Timely n request t →
        Concluded n request (deviceAnswer n request script.answer) response s)
      (fun _ s t => Timely n request t → Between (n + 1) s) s [] := by
  have ha := answers_deviceAnswer n request script.answer
  unfold exchange
  cases script.flushRaises with
  | some exception =>
    simp only []
    rw [wp_fail]
    exact fun _ => h.next (by simp) (by simp)
  | none =>
    simp only [beginExchange]
    rw [wp_bind, wp_update, wp_bind, wp_attempt, wp_bind]
    have hbegun : UnderWay n request (deviceAnswer n request script.answer) (Earlier n)
        { s with
          received := []
          buffer := []
          lateWriteAcksSkipped := 0
          writeMayHaveBeenSent := false
          writeDebtRecorded := false } [] := by
      refine fun _ => ⟨[], ⟨by simp [hwhole], by simp, ?_⟩, fun r hr => ?_⟩
      · refine ⟨⟨h.ordered, fun r hr => .inl ?_, h.owed⟩, List.Sublist.refl _, ?_, rfl⟩
        · exact (h.origin r hr).resolve_right (by simp)
        · rintro - ⟨r, hr, hown⟩
          have hold := (h.origin r hr).resolve_right (by simp)
          have := ha.number r hown
          omega
      · exact (h.origin r hr).resolve_right (by simp)
    have failed : ∀ {exception : PyException} {s t},
        UnderWay n request (deviceAnswer n request script.answer) (fun _ => True) s t →
        wp (rememberUnprovenWrite request >>= fun _ => fail exception)
          (fun response s t => Timely n request t →
            Concluded n request (deviceAnswer n request script.answer) response s)
          (fun _ s t => Timely n request t → Between (n + 1) s) s t := by
      intro exception s t hs
      rw [wp_bind]
      refine wp_mono (wp_remember_underWay ha hs) (fun _ s t hs => ?_) fun _ _ _ h => h.elim
      rw [wp_fail]
      exact hs
    refine wp_mono (wp_sendRequest ha _ _ hbegun) (fun _ s t hs => ?_) fun _ s t hs => failed hs
    refine wp_mono (wp_receive ha _ hs) (fun result s t hs => ?_) fun _ s t hs => failed hs
    cases result with
    | some response =>
      simp only []
      rw [wp_ret]
      exact hs
    | none =>
      simp only [finishExchange]
      rw [wp_bind]
      refine wp_mono (wp_look ha hs) (fun result s t hs => ?_) fun _ _ _ h => h.elim
      cases result with
      | some response =>
        simp only []
        rw [wp_ret]
        exact hs
      | none =>
        simp only []
        rw [wp_bind]
        refine wp_mono (wp_remember_underWay ha hs) (fun _ s t hs => ?_) fun _ _ _ h => h.elim
        rw [wp_bind, wp_read]
        beta_reduce
        rw [wp_fail]
        exact hs

/-! ## Whole runs -/

theorem between_link {s : WireState} (h : Between n s) (event : LinkEvent) :
    Between n (link event s).2.1 := by
  have hkeeps : wp (link event) (fun _ s _ => Between n s) (fun _ s _ => Between n s) s [] := by
    cases event with
    | arrive index =>
      simp only [link]
      rw [wp_bind, wp_read]
      beta_reduce
      split
      · rw [wp_bind, wp_emit, wp_update]
        exact h.sublist (List.eraseIdx_sublist _ _)
      · rw [wp_ret]
        exact h
    | bytes count =>
      simp only [link]
      rw [wp_update]
      exact h
    | lose index =>
      simp only [link]
      rw [wp_update]
      exact h.sublist (List.eraseIdx_sublist _ _)
  exact wp_outcome (I := fun s _ => Between n s) hkeeps

/-- **A run** whose steps meet the conditions leaves the line between exchanges. -/
theorem between_run {steps : List SerialStep} {point : SerialPoint} (h : Between point.1 point.2)
    (hserial : Along SerialStream point steps) (hlate : Along NoLateRead point steps) :
    Between (steps.foldl performStep point).1 (steps.foldl performStep point).2 := by
  induction steps generalizing point with
  | nil => exact h
  | cons step steps ih =>
    rw [List.foldl_cons]
    refine ih ?_ hserial.2 hlate.2
    cases step with
    | link event => exact between_link h event
    | exchange request script =>
      obtain ⟨hwhole, horder⟩ := hserial.1
      have hresult := wp_result (P := fun _ s t => Timely point.1 request t →
        Between (point.1 + 1) s) (wp_mono (wp_exchange script h hwhole)
          (fun _ _ _ hs htimely => (hs htimely).1) fun _ _ _ hs => hs)
      exact hresult fun e he => ⟨horder e he, hlate.1 e he⟩

theorem between_opened : Between 0 WireState.opened := ⟨.nil, by simp [WireState.opened], by
  intro key
  rfl⟩

/-- **Attribution of the hand's responses.** In a run over a serial stream without late read
responses, an exchange that returns the successful acknowledgement of its write or an exact
response to its read returns the device's answer to that very request. -/
theorem exchange_attributed (steps : List SerialStep) (request : Bytes) (script : ExchangeScript)
    (hserial : Along SerialStream (0, .opened) (steps ++ [.exchange request script]))
    (hlate : Along NoLateRead (0, .opened) (steps ++ [.exchange request script])) :
    Attributed (perform steps) request script := by
  obtain ⟨hserial, hwhole, horder⟩ := along_append_singleton.mp hserial
  obtain ⟨hlate, hnone⟩ := along_append_singleton.mp hlate
  have hbetween := between_run between_opened hserial hlate
  have hresult := wp_result (P := fun result s t => ∀ response, result = .ok response →
    Timely _ request t → Concluded _ request (deviceAnswer _ request script.answer) response s)
    (wp_mono (wp_exchange script hbetween hwhole)
      (fun a s t hs response ha htimely => Except.ok.inj ha ▸ hs htimely)
      fun e s t _ response ha => nomatch ha)
  intro response hresponse
  exact (hresult response hresponse fun e he => ⟨horder e he, hnone e he⟩).2

/-! ## A bench -/

namespace Bench

def timedOut (data : AnswerData) : ExchangeScript := ⟨none, [.wrote 64], data, [.unreadable]⟩

def firstArrives (data : AnswerData) : ExchangeScript :=
  ⟨none, [.wrote 64], data, [.link (.arrive 0), .link (.bytes 64), .chunk 64, .unreadable]⟩

def readAngles : Bytes := buildReadFrame 1 1546 2

def writeAngles (data : Bytes) : Bytes := buildWriteFrame 1 1486 data

def stale : AnswerData := ⟨[1, 0], by decide⟩

def current : AnswerData := ⟨[2, 0], by decide⟩

def accepted : AnswerData := ⟨[1], by decide⟩

def lateReadSteps : List SerialStep := [.exchange readAngles (timedOut stale)]

def lateWriteSteps : List SerialStep :=
  [.exchange readAngles (timedOut stale), .exchange (writeAngles [5, 0]) (timedOut accepted),
    .exchange readAngles (firstArrives current)]

def orderlySteps : List SerialStep :=
  [.exchange (writeAngles [5, 0]) (timedOut accepted),
    .exchange readAngles ⟨none, [.wrote 4, .blocked true, .wrote 5], stale,
      [.link (.arrive 0), .link (.bytes 64), .chunk 20, .blocked, .link (.arrive 0),
        .link (.bytes 6), .chunk 64, .link (.bytes 64), .chunk 64]⟩]

end Bench

theorem late_read_response_is_misattributed :
    (Along SerialStream (0, .opened)
        (Bench.lateReadSteps ++ [.exchange Bench.readAngles (Bench.firstArrives Bench.current)]) ∧
      ¬Attributed (perform Bench.lateReadSteps) Bench.readAngles
        (Bench.firstArrives Bench.current)) ∧
    Along SerialStream (0, .opened) (Bench.lateWriteSteps ++
        [.exchange (Bench.writeAngles [6, 0]) (Bench.firstArrives Bench.accepted)]) ∧
      ¬Attributed (perform Bench.lateWriteSteps) (Bench.writeAngles [6, 0])
        (Bench.firstArrives Bench.accepted) := by
  decide +kernel

theorem exchange_attributed_orderly : Attributed (perform Bench.orderlySteps)
    (Bench.writeAngles [6, 0]) (Bench.firstArrives Bench.accepted) :=
  exchange_attributed Bench.orderlySteps (Bench.writeAngles [6, 0])
    (Bench.firstArrives Bench.accepted) (by decide +kernel) (by decide +kernel)

end FrankaDeploy.Rh56
