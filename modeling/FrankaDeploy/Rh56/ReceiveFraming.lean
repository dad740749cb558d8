import FrankaDeploy.Rh56.WireAttribution

/-! # The response of an exchange as a function of the received stream

`LinuxSerial.exchange` parses its buffer after every `os.read`, takes frames out of it in place and
skips late acknowledgements. The reference is a one-shot parser: it cuts the whole stream into
frames, each from the first response header after the frame before it and as long as its length
byte says, and passes over the frames that discharge a debt.

What a read loop still has to receive is part of the invariant: the reference of the buffer followed
by the rest of the stream does not change from one turn to the next, wherever the stream is cut. -/

namespace FrankaDeploy.Rh56.Framing

open FrankaDeploy.Foundation FrankaDeploy.Foundation.Program

/-! ## Reference -/

/-- **The frames of a stream** after a number of bytes that belong to the frame before: byte by
byte up to a response header, then the length byte plus five. A frame that the stream does not hold
whole is the last one and does not count. -/
def framesAfter : ℕ → Bytes → List Bytes
  | _, [] => []
  | skip + 1, _ :: rest => framesAfter skip rest
  | 0, b :: rest =>
    let total := (byteAt (b :: rest) 3).toNat + 5
    if (b :: rest).take 2 = responseHeader then
      if (b :: rest).length < total then []
      else (b :: rest).take total :: framesAfter (total - 1) rest
    else framesAfter 0 rest

def frames (stream : Bytes) : List Bytes := framesAfter 0 stream

structure Reception where
  response : Option Bytes
  debts : AckKey → ℕ
  skipped : ℕ

def unprovenDebts (request : Bytes) (debts : AckKey → ℕ) : AckKey → ℕ :=
  match writeKey request with
  | some key => Function.update debts key (debts key + 1)
  | none => debts

def debtsAfterResponse (request response : Bytes) (debts : AckKey → ℕ) : AckKey → ℕ :=
  if answersRead request response = true then clearHand (byteAt request 2) debts
  else if writeKey request ≠ none ∧ exactWriteAckIdentity response ≠ writeKey request then
    unprovenDebts request debts
  else debts

def discharged (debts : AckKey → ℕ) (frame : Bytes) : Option AckKey :=
  (exactWriteAckIdentity frame).filter fun key => 0 < debts key

/-- **The first frame that discharges no debt** is the response. -/
def reception (request : Bytes) : (AckKey → ℕ) → ℕ → List Bytes → Reception
  | debts, skipped, [] => ⟨none, unprovenDebts request debts, skipped⟩
  | debts, skipped, frame :: later =>
    match discharged debts frame with
    | some key => reception request (Function.update debts key (debts key - 1)) (skipped + 1) later
    | none => ⟨some frame, debtsAfterResponse request frame debts, skipped⟩

/-- **Frames that are skipped**, each of which discharges a debt that the ones before it left. -/
inductive Skipped : (AckKey → ℕ) → List Bytes → (AckKey → ℕ) → Prop where
  | nil (debts : AckKey → ℕ) : Skipped debts [] debts
  | cons {debts left : AckKey → ℕ} {frame : Bytes} {later : List Bytes} (key : AckKey)
      (hkey : discharged debts frame = some key)
      (hlater : Skipped (Function.update debts key (debts key - 1)) later left) :
      Skipped debts (frame :: later) left

/-- **What the reference says in words**: all frames before the response discharge a debt each, the
response does not, and without a response every frame does. -/
theorem reception_first (request : Bytes) (debts : AckKey → ℕ) (skipped : ℕ)
    (stream : List Bytes) :
    ∃ late left, Skipped debts late left ∧
      (reception request debts skipped stream).skipped = skipped + late.length ∧
      (∀ response, (reception request debts skipped stream).response = some response ↔
        discharged left response = none ∧ ∃ rest, stream = late ++ response :: rest) ∧
      ((reception request debts skipped stream).response = none ↔ stream = late) := by
  induction stream generalizing debts skipped with
  | nil =>
    refine ⟨[], debts, .nil debts, rfl, ?_, ?_⟩
    · intro response
      simp [reception]
    · simp [reception]
  | cons frame stream ih =>
    cases hkey : discharged debts frame with
    | none =>
      refine ⟨[], debts, .nil debts, ?_, ?_, ?_⟩
      · simp [reception, hkey]
      · intro response
        simp only [reception, hkey, List.nil_append, Option.some.injEq, List.cons.injEq]
        constructor
        · rintro rfl
          exact ⟨hkey, stream, rfl, rfl⟩
        · rintro ⟨-, -, rfl, -⟩
          rfl
      · simp [reception, hkey]
    | some key =>
      obtain ⟨late, left, hlate, hskipped, hresponse, hnone⟩ :=
        ih (Function.update debts key (debts key - 1)) (skipped + 1)
      refine ⟨frame :: late, left, .cons key hkey hlate, ?_, ?_, ?_⟩
      · simp only [reception, hkey, List.length_cons]
        rw [hskipped]
        omega
      · intro response
        simp only [reception, hkey, List.cons_append, List.cons.injEq, true_and]
        exact hresponse response
      · simp only [reception, hkey, List.cons.injEq, true_and]
        exact hnone

/-! ## Frames and the buffer -/

theorem framesAfter_eq_frames_drop (skip : ℕ) (stream : Bytes) :
    framesAfter skip stream = frames (stream.drop skip) := by
  induction skip generalizing stream with
  | zero => rfl
  | succ skip ih =>
    cases stream with
    | nil => rfl
    | cons b rest => exact ih rest

theorem frames_cons_of_not_header {b : UInt8} {rest : Bytes}
    (h : (b :: rest).take 2 ≠ responseHeader) : frames (b :: rest) = frames rest := by
  show framesAfter 0 (b :: rest) = _
  rw [framesAfter, if_neg h]
  rfl

theorem frames_of_whole {stream : Bytes} (hheader : stream.take 2 = responseHeader)
    (hwhole : (byteAt stream 3).toNat + 5 ≤ stream.length) :
    frames stream = stream.take ((byteAt stream 3).toNat + 5) ::
      frames (stream.drop ((byteAt stream 3).toNat + 5)) := by
  cases stream with
  | nil => cases hheader
  | cons b rest =>
    show framesAfter 0 (b :: rest) = _
    rw [framesAfter, if_pos hheader, if_neg (by omega), framesAfter_eq_frames_drop]
    rfl

theorem frames_of_incomplete {stream : Bytes} (hheader : stream.take 2 = responseHeader)
    (hshort : stream.length < (byteAt stream 3).toNat + 5) : frames stream = [] := by
  cases stream with
  | nil => rfl
  | cons b rest =>
    show framesAfter 0 (b :: rest) = _
    rw [framesAfter, if_pos hheader, if_pos hshort]

theorem frames_of_findHeader_none {stream : Bytes} (h : findHeader stream = none) :
    frames stream = [] := by
  induction stream with
  | nil => rfl
  | cons first rest ih =>
    cases rest with
    | nil => exact frames_cons_of_not_header (by simp [responseHeader])
    | cons second rest =>
      rw [findHeader] at h
      split_ifs at h with hheader
      rw [frames_cons_of_not_header (by simpa using hheader)]
      exact ih (Option.map_eq_none_iff.mp h)

theorem take_two_drop_of_findHeader {stream : Bytes} {headerAt : ℕ}
    (h : findHeader stream = some headerAt) : (stream.drop headerAt).take 2 = responseHeader := by
  induction stream generalizing headerAt with
  | nil => cases h
  | cons first rest ih =>
    cases rest with
    | nil => cases h
    | cons second rest =>
      rw [findHeader] at h
      split_ifs at h with hheader
      · cases h
        exact hheader
      · obtain ⟨position, hposition, rfl⟩ := Option.map_eq_some_iff.mp h
        exact ih hposition

/-- **No frame begins before the first header**, whatever follows. -/
theorem frames_append_of_findHeader {stream : Bytes} {headerAt : ℕ}
    (h : findHeader stream = some headerAt) (later : Bytes) :
    frames (stream ++ later) = frames (stream.drop headerAt ++ later) := by
  induction stream generalizing headerAt with
  | nil => cases h
  | cons first rest ih =>
    cases rest with
    | nil => cases h
    | cons second rest =>
      rw [findHeader] at h
      split_ifs at h with hheader
      · cases h
        rfl
      · obtain ⟨position, hposition, rfl⟩ := Option.map_eq_some_iff.mp h
        rw [List.cons_append, frames_cons_of_not_header (by simpa using hheader),
          List.drop_succ_cons]
        exact ih hposition

theorem values_drop (n : ℕ) (bytes : List WireByte) : values (bytes.drop n) = (values bytes).drop n :=
  List.map_drop ..

theorem values_take (n : ℕ) (bytes : List WireByte) : values (bytes.take n) = (values bytes).take n :=
  List.map_take ..

/-- **A frame that is taken** is the next frame of the stream, whatever follows the buffer. -/
theorem frames_of_takeFrame_some {buffer response rest : List WireByte}
    (h : takeFrame buffer = (some response, rest)) (later : Bytes) :
    frames (values buffer ++ later) = values response :: frames (values rest ++ later) := by
  unfold takeFrame at h
  cases hfind : findHeader (values buffer) with
  | none => simp [hfind] at h
  | some headerAt =>
    simp only [hfind] at h
    split_ifs at h with hfour hwhole
    · cases h
    · cases h
    · obtain ⟨hresponse, rfl⟩ := Prod.mk.inj h
      obtain rfl := Option.some.inj hresponse
      set aligned := buffer.drop headerAt with haligned
      have hheader : (values aligned).take 2 = responseHeader := by
        rw [haligned, values_drop]
        exact take_two_drop_of_findHeader hfind
      have hlength : (values aligned).length = aligned.length := length_values _
      -- what follows changes neither the header nor the length byte
      have hthree : byteAt (values aligned ++ later) 3 = byteAt (values aligned) 3 := by
        unfold byteAt
        rw [List.getD_append _ _ _ _ (by omega)]
      rw [frames_append_of_findHeader hfind, ← values_drop, ← haligned,
        frames_of_whole (by rw [List.take_append_of_le_length (by omega), hheader])
          (by rw [hthree, List.length_append]; omega),
        hthree, List.take_append_of_le_length (by omega),
        List.drop_append_of_le_length (by omega), ← values_take, ← values_drop]

/-- **Without a whole frame** the stream has the same frames from what is left of the buffer, and
none if nothing follows. -/
theorem frames_of_takeFrame_none {buffer rest : List WireByte}
    (h : takeFrame buffer = (none, rest)) :
    (∀ later, frames (values buffer ++ later) = frames (values rest ++ later)) ∧
      frames (values rest) = [] := by
  unfold takeFrame at h
  cases hfind : findHeader (values buffer) with
  | none =>
    simp only [hfind] at h
    obtain ⟨-, rfl⟩ := Prod.mk.inj h
    exact ⟨fun _ => rfl, frames_of_findHeader_none hfind⟩
  | some headerAt =>
    have hheader : (values (buffer.drop headerAt)).take 2 = responseHeader := by
      rw [values_drop]
      exact take_two_drop_of_findHeader hfind
    have hlength := length_values (buffer.drop headerAt)
    have hsame : ∀ later, frames (values buffer ++ later) =
        frames (values (buffer.drop headerAt) ++ later) := by
      intro later
      rw [frames_append_of_findHeader hfind, values_drop]
    simp only [hfind] at h
    split_ifs at h with hfour hwhole
    · obtain ⟨-, rfl⟩ := Prod.mk.inj h
      exact ⟨hsame, frames_of_incomplete hheader (by omega)⟩
    · obtain ⟨-, rfl⟩ := Prod.mk.inj h
      exact ⟨hsame, frames_of_incomplete hheader (by omega)⟩
    · cases h

/-! ## The read loop -/

/-- **What `os.read` returns** at the turns of the read loop, up to the end of the stream. -/
def chunks : List ReceiveTurn → WireState → List (List WireByte)
  | [], _ => []
  | .link event :: turns, s => chunks turns (link event s).2.1
  | .unreadable :: _, _ => []
  | .blocked :: turns, s => chunks turns s
  | .raises _ :: _, _ => []
  | .chunk count :: turns, s =>
    s.received.take (min count 4096) ::
      chunks turns { s with received := s.received.drop (min count 4096) }

/-- **An exchange that awaits its response**: a write may have been sent, and its debt is not
recorded. -/
structure Awaiting (request : Bytes) (s : WireState) : Prop where
  sent : writeKey request ≠ none → s.writeMayHaveBeenSent = true
  unrecorded : s.writeDebtRecorded = false

structure SameLink (s s' : WireState) : Prop where
  inFlight : s'.inFlight = s.inFlight
  arriving : s'.arriving = s.arriving
  received : s'.received = s.received

/-- **What the reference gives** for the buffer followed by some bytes. -/
def expected (request : Bytes) (s : WireState) (later : Bytes) : Reception :=
  reception request s.pendingLateWriteAcks s.lateWriteAcksSkipped
    (frames (values s.buffer ++ later))

variable {request : Bytes} {s s' : WireState} {t : List WireEvent}

theorem SameLink.link (h : SameLink s s') (event : LinkEvent) :
    SameLink (link event s).2.1 (link event s').2.1 := by
  obtain ⟨hflight, harriving, hreceived⟩ := h
  cases event with
  | arrive index =>
    simp only [Rh56.link, read_bind_apply, harriving, hflight]
    cases s.arriving with
    | nil =>
      cases s.inFlight[index]? with
      | none => exact ⟨hflight, harriving, hreceived⟩
      | some response =>
        refine ⟨?_, rfl, hreceived⟩
        show s'.inFlight.eraseIdx index = s.inFlight.eraseIdx index
        rw [hflight]
    | cons b rest => exact ⟨hflight, harriving, hreceived⟩
  | bytes count =>
    refine ⟨hflight, ?_, ?_⟩
    · show s'.arriving.drop count = s.arriving.drop count
      rw [harriving]
    · show s'.received ++ s'.arriving.take count = s.received ++ s.arriving.take count
      rw [harriving, hreceived]
  | lose index =>
    refine ⟨?_, harriving, hreceived⟩
    show s'.inFlight.eraseIdx index = s.inFlight.eraseIdx index
    rw [hflight]

theorem SameLink.chunks_eq (h : SameLink s s') (turns : List ReceiveTurn) :
    chunks turns s' = chunks turns s := by
  induction turns generalizing s s' with
  | nil => rfl
  | cons turn turns ih =>
    cases turn with
    | link event => exact ih (h.link event)
    | unreadable => rfl
    | blocked => exact ih h
    | raises exception => rfl
    | chunk count =>
      simp only [chunks, h.received]
      refine congrArg _ (ih ?_)
      exact ⟨h.inFlight, h.arriving, rfl⟩

theorem wp_link {Q : Unit → WireState → List WireEvent → Prop}
    {E : PyException → WireState → List WireEvent → Prop} (event : LinkEvent)
    (h : ∀ inFlight arriving received t,
      (link event s).2.1 = { s with
        inFlight := inFlight, arriving := arriving, received := received } →
      Q () (link event s).2.1 t) :
    wp (link event) Q E s t := by
  cases event with
  | arrive index =>
    simp only [link, read_bind_apply] at h
    rw [link, wp_bind, wp_read]
    dsimp only
    cases harriving : s.arriving with
    | nil =>
      cases hflight : s.inFlight[index]? with
      | none =>
        simp only [harriving, hflight] at h
        exact h _ _ _ _ rfl
      | some response =>
        simp only [harriving, hflight] at h
        exact h _ _ _ _ rfl
    | cons b rest =>
      simp only [harriving] at h
      exact h _ _ _ _ rfl
  | bytes count => exact h _ _ _ _ rfl
  | lose index => exact h _ _ _ _ rfl

def fed (s : WireState) (count : ℕ) : WireState :=
  { s with
    buffer := s.buffer ++ s.received.take (min count 4096)
    received := s.received.drop (min count 4096) }

theorem wp_readChunk {Q : List WireByte → WireState → List WireEvent → Prop}
    {E : PyException → WireState → List WireEvent → Prop} {count : ℕ}
    (h : Q (s.received.take (min count 4096)) (fed s count) t) :
    wp (readChunk count) Q E s t := by
  unfold readChunk
  rw [wp_bind, wp_read]
  dsimp only
  rw [wp_bind, wp_update, wp_ret]
  exact h

theorem wp_rememberUnprovenWrite {Q : Unit → WireState → List WireEvent → Prop}
    {E : PyException → WireState → List WireEvent → Prop} (hs : Awaiting request s)
    (h : ∀ recorded, Q () { s with
      pendingLateWriteAcks := unprovenDebts request s.pendingLateWriteAcks
      writeDebtRecorded := recorded } t) :
    wp (rememberUnprovenWrite request) Q E s t := by
  unfold rememberUnprovenWrite
  rw [wp_bind, wp_read]
  cases hkey : writeKey request with
  | none =>
    have hsame := h s.writeDebtRecorded
    simp only [unprovenDebts, hkey] at hsame
    simpa only [wp_ret] using hsame
  | some key =>
    have hnew := h true
    simp only [unprovenDebts, hkey] at hnew
    dsimp only
    rw [if_pos ⟨hs.sent (by rw [hkey]; exact Option.some_ne_none key), hs.unrecorded⟩, wp_update]
    exact hnew

theorem wp_noteResponse {Q : Unit → WireState → List WireEvent → Prop}
    {E : PyException → WireState → List WireEvent → Prop} (response : List WireByte)
    (hs : Awaiting request s)
    (h : ∀ recorded, Q () { s with
      pendingLateWriteAcks := debtsAfterResponse request (values response) s.pendingLateWriteAcks
      writeDebtRecorded := recorded } t) :
    wp (noteResponse request response) Q E s t := by
  unfold noteResponse
  unfold debtsAfterResponse at h
  split_ifs at h ⊢
  · rw [wp_update]
    exact h s.writeDebtRecorded
  · exact wp_rememberUnprovenWrite hs h
  · rw [wp_ret]
    exact h s.writeDebtRecorded

/-- **A search of the buffer** finds the response of the reference, whatever the rest of the stream
is, or leaves what the reference gives as it was. -/
theorem wp_popRounds {Q : Option (List WireByte) → WireState → List WireEvent → Prop}
    {E : PyException → WireState → List WireEvent → Prop} {rounds : ℕ}
    (hrounds : s.buffer.length < rounds) (hs : Awaiting request s)
    (hsome : ∀ response s', (∀ later, expected request s later =
      ⟨some (values response), s'.pendingLateWriteAcks, s'.lateWriteAcksSkipped⟩) →
        Q (some response) s' t)
    (hnone : ∀ s', Awaiting request s' → SameLink s s' →
      (∀ later, expected request s' later = expected request s later) →
      frames (values s'.buffer) = [] → Q none s' t) :
    wp (popRounds request rounds) Q E s t := by
  induction rounds generalizing s with
  | zero => omega
  | succ rounds ih =>
    rw [popRounds, wp_bind, wp_read]
    dsimp only
    rcases htake : takeFrame s.buffer with ⟨_ | response, rest⟩
    · obtain ⟨hsame, hempty⟩ := frames_of_takeFrame_none htake
      dsimp only
      rw [wp_bind, wp_update, wp_ret]
      refine hnone _ ⟨hs.sent, hs.unrecorded⟩ ⟨rfl, rfl, rfl⟩ (fun later => ?_) hempty
      simp only [expected, hsame]
    · have hrest := length_takeFrame htake
      have hnext := frames_of_takeFrame_some htake
      dsimp only
      rw [wp_bind, wp_update]
      dsimp only
      cases hack : lateAck s (values response) with
      | none =>
        dsimp only
        rw [wp_bind]
        refine wp_noteResponse response ⟨hs.sent, hs.unrecorded⟩ fun recorded => ?_
        rw [wp_ret]
        refine hsome _ _ fun later => ?_
        have hfree : discharged s.pendingLateWriteAcks (values response) = none := hack
        simp only [expected, hnext, reception, hfree]
      | some key =>
        have hkey : discharged s.pendingLateWriteAcks (values response) = some key := hack
        have hexpected : ∀ later, expected request s later = expected request
            { s with
              buffer := rest
              pendingLateWriteAcks := Function.update s.pendingLateWriteAcks key
                (s.pendingLateWriteAcks key - 1)
              lateWriteAcksSkipped := s.lateWriteAcksSkipped + 1 } later := by
          intro later
          simp only [expected, hnext, reception, hkey]
        dsimp only
        rw [skipLateAck, wp_bind, wp_update]
        refine ih (by show rest.length < rounds; omega) ⟨hs.sent, hs.unrecorded⟩ ?_ ?_
        · intro found s' hfound
          exact hsome found s' fun later => (hexpected later).trans (hfound later)
        · intro s' hs' hlink hsame
          exact hnone s' hs' ⟨hlink.inFlight, hlink.arriving, hlink.received⟩
            fun later => (hsame later).trans (hexpected later).symm

theorem wp_popBufferedResponse {Q : Option (List WireByte) → WireState → List WireEvent → Prop}
    {E : PyException → WireState → List WireEvent → Prop} (hs : Awaiting request s)
    (hsome : ∀ response s', (∀ later, expected request s later =
      ⟨some (values response), s'.pendingLateWriteAcks, s'.lateWriteAcksSkipped⟩) →
        Q (some response) s' t)
    (hnone : ∀ s', Awaiting request s' → SameLink s s' →
      (∀ later, expected request s' later = expected request s later) →
      frames (values s'.buffer) = [] → Q none s' t) :
    wp (popBufferedResponse request) Q E s t := by
  unfold popBufferedResponse
  rw [wp_bind, wp_read]
  exact wp_popRounds (Nat.lt_succ_self _) hs hsome hnone

theorem expected_of_empty (h : frames (values s.buffer) = []) :
    expected request s [] =
      ⟨none, unprovenDebts request s.pendingLateWriteAcks, s.lateWriteAcksSkipped⟩ := by
  unfold expected
  rw [List.append_nil, h, reception]

/-- **A chunk moves** from the rest of the stream to the buffer. -/
theorem expected_chunk (count : ℕ) (turns : List ReceiveTurn) :
    expected request s (values (chunks (.chunk count :: turns) s).flatten) =
      expected request (fed s count) (values (chunks turns (fed s count)).flatten) := by
  have hlink : SameLink { s with received := s.received.drop (min count 4096) } (fed s count) :=
    ⟨rfl, rfl, rfl⟩
  rw [chunks, List.flatten_cons, values_append, hlink.chunks_eq]
  simp only [expected, fed, values_append, List.append_assoc]

/-- What the read loop returns, when the reference gives `e`. -/
def Received (request : Bytes) (e : Reception) : Option (List WireByte) → WireState → Prop
  | some response, s =>
    e = ⟨some (values response), s.pendingLateWriteAcks, s.lateWriteAcksSkipped⟩
  | none, s => Awaiting request s ∧ e = expected request s []

/-- What an exception of the read loop leaves, when the reference gives `e`. -/
def Interrupted (request : Bytes) (e : Reception) (s : WireState) : Prop :=
  Awaiting request s ∧
    e = ⟨none, unprovenDebts request s.pendingLateWriteAcks, s.lateWriteAcksSkipped⟩

/-- **The read loop** gets out of its chunks what the reference gets out of the buffer followed by
all of them: the induction is on the turns, and what the reference gives is carried along. -/
theorem wp_receive (turns : List ReceiveTurn) (hs : Awaiting request s) :
    wp (receive request turns)
      (fun found s' _ =>
        Received request (expected request s (values (chunks turns s).flatten)) found s')
      (fun _ s' _ =>
        Interrupted request (expected request s (values (chunks turns s).flatten)) s') s t := by
  induction turns generalizing s t with
  | nil =>
    rw [receive, wp_ret]
    exact ⟨hs, rfl⟩
  | cons turn turns ih =>
    cases turn with
    | link event =>
      rw [receive, wp_bind]
      refine wp_link event fun inFlight arriving received t' hframe => ?_
      have hs' : Awaiting request (link event s).2.1 := by
        rw [hframe]
        exact ⟨hs.sent, hs.unrecorded⟩
      have hsame : ∀ later,
          expected request (link event s).2.1 later = expected request s later := by
        intro later
        rw [hframe]
        rfl
      have hrest := ih (t := t') hs'
      rw [hsame] at hrest
      exact hrest
    | unreadable =>
      rw [receive]
      refine wp_popBufferedResponse hs ?_ ?_
      · intro response s' hresponse
        exact hresponse _
      · intro s' hs' _ hsame _
        exact ⟨hs', (hsame []).symm⟩
    | blocked =>
      rw [receive, wp_bind]
      refine wp_popBufferedResponse hs ?_ ?_
      · intro response s' hresponse
        rw [wp_ret]
        exact hresponse _
      · intro s' hs' hlink hsame _
        have hrest := ih (t := t) hs'
        rw [hsame, hlink.chunks_eq] at hrest
        exact hrest
    | raises exception =>
      rw [receive, wp_bind]
      refine wp_popBufferedResponse hs ?_ ?_
      · intro response s' hresponse
        rw [wp_ret]
        exact hresponse _
      · intro s' hs' _ hsame hempty
        rw [wp_fail]
        refine ⟨hs', ?_⟩
        rw [← expected_of_empty hempty, hsame]
        rfl
    | chunk count =>
      rw [receive, wp_bind]
      refine wp_popBufferedResponse hs ?_ ?_
      · intro response s' hresponse
        rw [wp_ret]
        exact hresponse _
      · intro s' hs' hlink hsame _
        rw [← hsame, ← hlink.chunks_eq, expected_chunk]
        dsimp only
        rw [wp_bind]
        refine wp_readChunk ?_
        have hfed : Awaiting request (fed s' count) := ⟨hs'.sent, hs'.unrecorded⟩
        split
        · rw [wp_bind, wp_ret]
          exact ih hfed
        · rw [wp_bind]
          refine wp_popBufferedResponse hfed ?_ ?_
          · intro response s'' hresponse
            rw [wp_ret]
            exact hresponse _
          · intro s'' hs'' hlink' hsame' _
            have hrest := ih (t := t) hs''
            rw [hsame', hlink'.chunks_eq] at hrest
            exact hrest

/-! ## The exchange -/

/-- **The send phase** of an exchange: the input flush and the writes. -/
def sendPhase (n : ℕ) (request : Bytes) (script : ExchangeScript) : WireM Unit := do
  beginExchange
  sendRequest request (deviceAnswer n request script.answer) request script.sends

/-- **The exchange reads**: its request went out whole. -/
structure Reads (n : ℕ) (request : Bytes) (script : ExchangeScript) (s : WireState) : Prop where
  flushed : script.flushRaises = none
  sent : (sendPhase n request script s).1 = .ok ()

/-- What `os.read` returns during an exchange. -/
def readChunks (n : ℕ) (request : Bytes) (script : ExchangeScript) (s : WireState) :
    List (List WireByte) :=
  chunks script.turns (sendPhase n request script s).2.1

/-- **The stream** that is delivered to an exchange. -/
def deliveredStream (n : ℕ) (request : Bytes) (script : ExchangeScript) (s : WireState) : Bytes :=
  values (readChunks n request script s).flatten

def returnedResponse (n : ℕ) (request : Bytes) (script : ExchangeScript) (s : WireState) : Option Bytes :=
  (exchange n request script s).1.toOption.map values

structure Unread (debts : AckKey → ℕ) (s : WireState) : Prop where
  debts : s.pendingLateWriteAcks = debts
  buffer : s.buffer = []
  skipped : s.lateWriteAcksSkipped = 0
  unrecorded : s.writeDebtRecorded = false

theorem wp_markWrite {Q : Unit → WireState → List WireEvent → Prop}
    {E : PyException → WireState → List WireEvent → Prop} {debts : AckKey → ℕ}
    (hs : Unread debts s)
    (h : ∀ s', Unread debts s' → (writeKey request ≠ none → s'.writeMayHaveBeenSent = true) →
      Q () s' t) :
    wp (markWrite request) Q E s t := by
  unfold markWrite
  by_cases hwrite : writeKey request ≠ none
  · rw [if_pos hwrite, wp_update]
    exact h _ ⟨hs.debts, hs.buffer, hs.skipped, hs.unrecorded⟩ fun _ => rfl
  · rw [if_neg hwrite, wp_ret]
    exact h s hs fun hkey => absurd hkey hwrite

theorem wp_requestLeft {Q : Unit → WireState → List WireEvent → Prop}
    {E : PyException → WireState → List WireEvent → Prop} {answered : Option Response}
    {view : Bytes} (h : ∀ inFlight, Q () { s with inFlight := inFlight } t) :
    wp (requestLeft answered view) Q E s t := by
  unfold requestLeft
  by_cases hview : view = []
  · rw [if_pos hview, wp_update]
    exact h _
  · rw [if_neg hview, wp_ret]
    exact h s.inFlight

/-- **The writes** read nothing; once the request is out its write is noted. -/
theorem wp_sendRequest {debts : AckKey → ℕ} {answered : Option Response} {view : Bytes}
    (sends : List SendTurn) (hs : Unread debts s)
    (hview : view = [] → writeKey request ≠ none → s.writeMayHaveBeenSent = true) :
    wp (sendRequest request answered view sends)
      (fun _ s' _ => Unread debts s' ∧ Awaiting request s') (fun _ _ _ => True) s t := by
  induction sends generalizing view s t with
  | nil =>
    cases view with
    | nil =>
      rw [sendRequest, wp_ret]
      exact ⟨hs, hview rfl, hs.unrecorded⟩
    | cons b view =>
      rw [sendRequest, wp_fail]
      trivial
  | cons turn sends ih =>
    cases view with
    | nil =>
      rw [sendRequest, wp_ret]
      exact ⟨hs, hview rfl, hs.unrecorded⟩
    | cons b view =>
      cases turn with
      | link event =>
        rw [sendRequest, wp_bind]
        refine wp_link event fun inFlight arriving received t' hframe => ?_
        rw [hframe]
        exact ih ⟨hs.debts, hs.buffer, hs.skipped, hs.unrecorded⟩ fun hempty => by cases hempty
      | expired =>
        rw [sendRequest, wp_fail]
        trivial
      | wrote count =>
        rw [sendRequest, wp_bind]
        refine wp_markWrite hs fun s' hs' hmarked => ?_
        rw [wp_bind]
        refine wp_requestLeft fun inFlight => ?_
        by_cases hcount : count = 0
        · rw [if_pos hcount, wp_fail]
          trivial
        · rw [if_neg hcount]
          exact ih ⟨hs'.debts, hs'.buffer, hs'.skipped, hs'.unrecorded⟩ fun _ => hmarked
      | blocked writable =>
        rw [sendRequest, wp_bind]
        refine wp_markWrite hs fun s' hs' _ => ?_
        by_cases hwritable : writable = true
        · rw [if_pos hwritable]
          exact ih hs' fun hempty => by cases hempty
        · rw [if_neg hwritable, wp_fail]
          trivial
      | raises count exception =>
        rw [sendRequest, wp_bind]
        refine wp_markWrite hs fun s' hs' _ => ?_
        rw [wp_bind]
        refine wp_requestLeft fun inFlight => ?_
        rw [wp_fail]
        trivial

theorem writeKey_nil : writeKey [] = none := rfl

/-- **The read loop begins** with an empty buffer and the debts of earlier writes. -/
theorem unread_of_reads {n : ℕ} {script : ExchangeScript} (h : Reads n request script s) :
    Unread s.pendingLateWriteAcks (sendPhase n request script s).2.1 ∧
      Awaiting request (sendPhase n request script s).2.1 := by
  have hphase : wp (sendPhase n request script)
      (fun _ s' _ => Unread s.pendingLateWriteAcks s' ∧ Awaiting request s') (fun _ _ _ => True)
      s [] := by
    rw [sendPhase, wp_bind, beginExchange, wp_update]
    refine wp_sendRequest _ ⟨rfl, rfl, rfl, rfl⟩ ?_
    rintro rfl hkey
    exact absurd writeKey_nil hkey
  have hresult := wp_result (P := fun result s' _ => result = .ok () →
    Unread s.pendingLateWriteAcks s' ∧ Awaiting request s')
    (wp_mono hphase (fun _ _ _ h _ => h) fun _ _ _ _ h => by cases h)
  exact hresult h.sent

def Agrees (n : ℕ) (request : Bytes) (script : ExchangeScript) (s : WireState) (e : Reception) :
    Prop :=
  returnedResponse n request script s = e.response ∧
    (exchange n request script s).2.1.pendingLateWriteAcks = e.debts ∧
    (exchange n request script s).2.1.lateWriteAcksSkipped = e.skipped

theorem wp_afterReceive {e : Reception} {found : Option (List WireByte)}
    (h : Received request e found s) :
    wp (match found with
        | some response => ret response
        | none => finishExchange request)
      (fun response s' _ => e = ⟨some (values response), s'.pendingLateWriteAcks,
        s'.lateWriteAcksSkipped⟩)
      (fun _ s' _ => e = ⟨none, s'.pendingLateWriteAcks, s'.lateWriteAcksSkipped⟩) s t := by
  cases found with
  | some response =>
    rw [wp_ret]
    exact h
  | none =>
    obtain ⟨hawaiting, rfl⟩ := h
    dsimp only
    rw [finishExchange, wp_bind]
    refine wp_popBufferedResponse hawaiting ?_ ?_
    · intro response s' hresponse
      rw [wp_ret]
      exact hresponse []
    · intro s' hs' _ hsame hempty
      rw [wp_bind]
      refine wp_rememberUnprovenWrite hs' fun recorded => ?_
      rw [wp_bind, wp_read]
      dsimp only
      rw [wp_fail, ← hsame, expected_of_empty hempty]

theorem exchange_agrees {n : ℕ} {script : ExchangeScript} (h : Reads n request script s) :
    Agrees n request script s
      (reception request s.pendingLateWriteAcks 0 (frames (deliveredStream n request script s))) := by
  obtain ⟨hunread, hawaiting⟩ := unread_of_reads h
  have he : reception request s.pendingLateWriteAcks 0 (frames (deliveredStream n request script s)) =
      expected request (sendPhase n request script s).2.1
        (values (chunks script.turns (sendPhase n request script s).2.1).flatten) := by
    unfold expected
    rw [hunread.buffer, hunread.debts, hunread.skipped]
    rfl
  rw [he]
  have hreceive := wp_receive (t := (sendPhase n request script s).2.2) script.turns hawaiting
  generalize expected request _ _ = e at hreceive ⊢
  -- the writes leave what the send phase leaves
  obtain ⟨s₂, w, hphase⟩ : ∃ s₂ w, sendPhase n request script s = (.ok (), s₂, w) :=
    ⟨_, _, Prod.ext h.sent rfl⟩
  rw [hphase] at hreceive
  rw [sendPhase, beginExchange, update_bind_apply] at hphase
  have hexchange : wp (exchange n request script)
      (fun response s' _ => e = ⟨some (values response), s'.pendingLateWriteAcks,
        s'.lateWriteAcksSkipped⟩)
      (fun _ s' _ => e = ⟨none, s'.pendingLateWriteAcks, s'.lateWriteAcksSkipped⟩) s [] := by
    unfold exchange
    rw [h.flushed]
    dsimp only
    rw [wp_bind, beginExchange, wp_update, wp_bind, wp_attempt, wp_bind]
    refine wp_of_eq_ok hphase (wp_mono hreceive ?_ ?_)
    · intro found s' t' hfound
      cases found with
      | some response => exact wp_afterReceive hfound
      | none => exact wp_afterReceive hfound
    · rintro exception s' t' ⟨hs', rfl⟩
      dsimp only
      rw [wp_bind]
      refine wp_rememberUnprovenWrite hs' fun recorded => ?_
      rw [wp_fail]
  have hresult := wp_result (P := fun result s' _ =>
    (result.toOption.map values = e.response ∧ s'.pendingLateWriteAcks = e.debts ∧
      s'.lateWriteAcksSkipped = e.skipped))
    (wp_mono hexchange (by rintro response s' - rfl; exact ⟨rfl, rfl, rfl⟩)
      (by rintro x s' - rfl; exact ⟨rfl, rfl, rfl⟩))
  exact hresult

/-! ## Every split is a run -/

/-! ## Chunking independence -/

/-- **An exchange depends on its stream only.** The response that it returns, the debts that it
leaves and the number of acknowledgements that it skips are those of the reference framing of the
stream: the response is the first frame that discharges no debt. So they are the same as those of
any other exchange of the same request with the same debts and the same stream, in whatever chunks
the two have read it. -/
theorem exchange_reads_stream {n : ℕ} {request : Bytes} {script : ExchangeScript} {s : WireState}
    (h : Reads n request script s) :
    Agrees n request script s
        (reception request s.pendingLateWriteAcks 0 (frames (deliveredStream n request script s))) ∧
      (∃ late left, Skipped s.pendingLateWriteAcks late left ∧
        (exchange n request script s).2.1.lateWriteAcksSkipped = late.length ∧
        (∀ response, returnedResponse n request script s = some response ↔
          discharged left response = none ∧
            ∃ rest, frames (deliveredStream n request script s) = late ++ response :: rest) ∧
        (returnedResponse n request script s = none ↔
          frames (deliveredStream n request script s) = late)) ∧
      ∀ {n' : ℕ} {script' : ExchangeScript} {s' : WireState}, Reads n' request script' s' →
        s'.pendingLateWriteAcks = s.pendingLateWriteAcks →
        deliveredStream n' request script' s' = deliveredStream n request script s →
        returnedResponse n' request script' s' = returnedResponse n request script s ∧
          (exchange n' request script' s').2.1.pendingLateWriteAcks =
            (exchange n request script s).2.1.pendingLateWriteAcks ∧
          (exchange n' request script' s').2.1.lateWriteAcksSkipped =
            (exchange n request script s).2.1.lateWriteAcksSkipped := by
  have hagrees := exchange_agrees h
  refine ⟨hagrees, ?_, ?_⟩
  · obtain ⟨hresponse, -, hskipped⟩ := hagrees
    obtain ⟨late, left, hlate, hcount, hfirst, hnone⟩ := reception_first request
      s.pendingLateWriteAcks 0 (frames (deliveredStream n request script s))
    refine ⟨late, left, hlate, ?_, ?_, ?_⟩
    · rw [hskipped, hcount, Nat.zero_add]
    · intro response
      rw [hresponse]
      exact hfirst response
    · rw [hresponse]
      exact hnone
  · intro n' script' s' h' hdebts hstream
    obtain ⟨hresponse, hleft, hskipped⟩ := hagrees
    have hagrees' := exchange_agrees h'
    rw [hdebts, hstream] at hagrees'
    obtain ⟨hresponse', hleft', hskipped'⟩ := hagrees'
    exact ⟨hresponse'.trans hresponse.symm, hleft'.trans hleft.symm,
      hskipped'.trans hskipped.symm⟩

namespace Bench

def lateStream : List WireByte :=
  Response.bytes ⟨0, ⟨1, writeCommand, 1486⟩, Bench.accepted.1, Bench.accepted.2, by decide⟩ ++
    Response.bytes ⟨1, ⟨1, readCommand, 1546⟩, Bench.current.1, Bench.current.2, by decide⟩

def lateLine : WireState :=
  { WireState.opened with
    pendingLateWriteAcks := fun key => if key = (1, 1486) then 1 else 0
    arriving := lateStream }

def oneRead : ExchangeScript :=
  ⟨none, [.wrote 64], Bench.current, [.link (.bytes 64), .chunk 4096, .unreadable]⟩

def manyReads : ExchangeScript :=
  ⟨none, [.wrote 4, .blocked true, .wrote 5], Bench.current, [.blocked, .link (.bytes 64), .chunk 1,
    .chunk 2, .chunk 6, .blocked, .chunk 1, .chunk 4, .chunk 64]⟩

end Bench

theorem split_reads_agree :
    returnedResponse 1 Bench.readAngles Bench.manyReads Bench.lateLine =
        returnedResponse 1 Bench.readAngles Bench.oneRead Bench.lateLine ∧
      (exchange 1 Bench.readAngles Bench.manyReads Bench.lateLine).2.1.lateWriteAcksSkipped =
        (exchange 1 Bench.readAngles Bench.oneRead Bench.lateLine).2.1.lateWriteAcksSkipped := by
  have hone : Reads 1 Bench.readAngles Bench.oneRead Bench.lateLine :=
    ⟨rfl, by decide +kernel⟩
  have hmany : Reads 1 Bench.readAngles Bench.manyReads Bench.lateLine :=
    ⟨rfl, by decide +kernel⟩
  obtain ⟨hresponse, -, hskipped⟩ :=
    (exchange_reads_stream hone).2.2 hmany rfl (by decide +kernel)
  exact ⟨hresponse, hskipped⟩

end FrankaDeploy.Rh56.Framing
