import FrankaDeploy.Foundation.Program
import FrankaDeploy.Rh56.Wire

/-! # An exchange on the hand's serial line

`LinuxSerial.exchange` of an open port: the input flush, the writes of the request, the reads of
the response with its late acknowledgements, and the debts of writes whose acknowledgement was not
proven. The device answers a request that reached it whole by one response; the link brings a
response's bytes at any time, or loses it.

What the operating system and the link do during an exchange is its script. A script that is used
up stands for the deadline. -/

namespace FrankaDeploy.Rh56

open FrankaDeploy.Foundation FrankaDeploy.Foundation.Program

/-! ## State -/

/-- **The serial line** with the variables of the exchange under way. -/
structure WireState where
  pendingLateWriteAcks : AckKey → ℕ
  inFlight : List Response
  arriving : List WireByte
  received : List WireByte
  buffer : List WireByte
  lateWriteAcksSkipped : ℕ
  writeMayHaveBeenSent : Bool
  writeDebtRecorded : Bool

def WireState.opened : WireState := ⟨fun _ => 0, [], [], [], [], 0, false, false⟩

/-- **A response begins to arrive** before those that are listed with it. -/
inductive WireEvent where
  /-- The response, and the earlier ones that are still on their way. -/
  | begins (response : Response) (passed : List Response)

abbrev WireM := Program WireState WireEvent PyException

/-! ## The link -/

inductive LinkEvent where
  | arrive (index : ℕ)
  | bytes (count : ℕ)
  | lose (index : ℕ)
deriving DecidableEq, Repr

def link : LinkEvent → WireM Unit
  | .arrive index => do
    let s ← read
    match s.arriving, s.inFlight[index]? with
    | [], some response => do
      emit (.begins response (s.inFlight.take index))
      update fun s =>
        { s with arriving := response.bytes, inFlight := s.inFlight.eraseIdx index }
    | _, _ => ret ()
  | .bytes count => update fun s =>
    { s with received := s.received ++ s.arriving.take count, arriving := s.arriving.drop count }
  | .lose index => update fun s => { s with inFlight := s.inFlight.eraseIdx index }

abbrev AnswerData := {data : Bytes // data.length ≤ 252}

theorem addressOf_lt (frame : Bytes) : addressOf frame < 65536 := by
  have hlow := (byteAt frame 5).toNat_lt
  have hhigh := (byteAt frame 6).toNat_lt
  rw [addressOf, Nat.lor_comm, ← Nat.shiftLeft_add_eq_or_of_lt (i := 8) (by omega),
    Nat.shiftLeft_eq]
  omega

theorem address_lt_of_requestIdentity {request : Bytes} {identity : RequestIdentity}
    (h : requestIdentity request = some identity) : identity.address < 65536 := by
  unfold requestIdentity at h
  simp only at h
  split_ifs at h
  rw [← Option.some.inj h]
  exact addressOf_lt request

/-- **The device's answer** to a request, which has the number `n`. -/
def deviceAnswer (n : ℕ) (request : Bytes) (answer : AnswerData) : Option Response :=
  match h : requestIdentity request with
  | some identity =>
    some ⟨n, identity, answer.1, answer.2, address_lt_of_requestIdentity h⟩
  | none => none

def requestLeft (answered : Option Response) (view : Bytes) : WireM Unit :=
  if view = [] then update fun s => { s with inFlight := s.inFlight ++ answered.toList }
  else ret ()

/-! ## Parts of an exchange -/

/-- `discard_input` and the variables of a new exchange. -/
def beginExchange : WireM Unit := update fun s =>
  { s with
    received := []
    buffer := []
    lateWriteAcksSkipped := 0
    writeMayHaveBeenSent := false
    writeDebtRecorded := false }

def rememberUnprovenWrite (request : Bytes) : WireM Unit := do
  let s ← read
  match writeKey request with
  | some key =>
    if s.writeMayHaveBeenSent = true ∧ s.writeDebtRecorded = false then
      update fun s =>
        { s with
          pendingLateWriteAcks :=
            Function.update s.pendingLateWriteAcks key (s.pendingLateWriteAcks key + 1)
          writeDebtRecorded := true }
    else ret ()
  | none => ret ()

def findHeader : Bytes → Option ℕ
  | first :: second :: rest =>
    if [first, second] = responseHeader then some 0 else (findHeader (second :: rest)).map (· + 1)
  | _ => none

/-- **The next frame of the buffer**, if it is complete, and what is left of the buffer. -/
def takeFrame (buffer : List WireByte) : Option (List WireByte) × List WireByte :=
  match findHeader (values buffer) with
  | none => (none, buffer)
  | some headerAt =>
    let buffer := buffer.drop headerAt
    let totalLength := (byteAt (values buffer) 3).toNat + 5
    if buffer.length < 4 then (none, buffer)
    else if buffer.length < totalLength then (none, buffer)
    else (some (buffer.take totalLength), buffer.drop totalLength)

def lateAck (s : WireState) (response : Bytes) : Option AckKey :=
  (exactWriteAckIdentity response).filter fun key => 0 < s.pendingLateWriteAcks key

def skipLateAck (key : AckKey) : WireM Unit := update fun s =>
  { s with
    pendingLateWriteAcks :=
      Function.update s.pendingLateWriteAcks key (s.pendingLateWriteAcks key - 1)
    lateWriteAcksSkipped := s.lateWriteAcksSkipped + 1 }

def clearHand (handId : UInt8) (pending : AckKey → ℕ) : AckKey → ℕ := fun key =>
  if key.1 = handId then 0 else pending key

def noteResponse (request : Bytes) (response : List WireByte) : WireM Unit :=
  if answersRead request (values response) = true then
    -- an exact read response is an ordering barrier for the hand's older transactions; the hand
    -- of the request's identity is its third byte
    update fun s =>
      { s with pendingLateWriteAcks := clearHand (byteAt request 2) s.pendingLateWriteAcks }
  else if writeKey request ≠ none ∧
      exactWriteAckIdentity (values response) ≠ writeKey request then
    rememberUnprovenWrite request
  else ret ()

/-- **`pop_buffered_response`** within a number of rounds. -/
def popRounds (request : Bytes) : ℕ → WireM (Option (List WireByte))
  | 0 => ret none
  | rounds + 1 => do
    let s ← read
    let (frame, buffer) := takeFrame s.buffer
    update fun s => { s with buffer := buffer }
    match frame with
    | none => ret none
    | some response =>
      match lateAck s (values response) with
      | some key => do
        skipLateAck key
        popRounds request rounds
      | none => do
        noteResponse request response
        ret (some response)

/-- `pop_buffered_response`: each round takes a frame from the buffer. -/
def popBufferedResponse (request : Bytes) : WireM (Option (List WireByte)) := do
  let s ← read
  popRounds request (s.buffer.length + 1)

theorem length_takeFrame {buffer response rest : List WireByte}
    (h : takeFrame buffer = (some response, rest)) : rest.length < buffer.length := by
  unfold takeFrame at h
  cases hfind : findHeader (values buffer) with
  | none => simp [hfind] at h
  | some headerAt =>
    simp only [hfind] at h
    split_ifs at h with hfour hwhole
    · cases h
    · cases h
    · obtain ⟨-, rfl⟩ := Prod.mk.inj h
      simp only [List.length_drop] at hfour ⊢
      omega

/-! ## Sending -/

inductive SendTurn where
  | link (event : LinkEvent)
  | expired
  | wrote (count : ℕ)
  /-- `os.write` would block; whether `select` then finds the port writable. -/
  | blocked (writable : Bool)
  | raises (count : ℕ) (exception : PyException)

def markWrite (request : Bytes) : WireM Unit :=
  if writeKey request ≠ none then update fun s => { s with writeMayHaveBeenSent := true }
  else ret ()

/-- **The loop that writes the request**; `view` is what is left of it. -/
def sendRequest (request : Bytes) (answered : Option Response) : Bytes → List SendTurn → WireM Unit
  | [], _ => ret ()
  | _ :: _, [] => fail (rh56Error "timeout while writing request to the hand")
  | b :: view, .link event :: turns => do
    link event
    sendRequest request answered (b :: view) turns
  | _ :: _, .expired :: _ => fail (rh56Error "timeout while writing request to the hand")
  | b :: view, .wrote count :: turns => do
    markWrite request
    requestLeft answered ((b :: view).drop count)
    if count = 0 then fail (rh56Error "serial write made no progress")
    else sendRequest request answered ((b :: view).drop count) turns
  | b :: view, .blocked writable :: turns => do
    markWrite request
    if writable = true then sendRequest request answered (b :: view) turns
    else fail (rh56Error "timeout while waiting for serial write readiness")
  | b :: view, .raises count exception :: _ => do
    markWrite request
    requestLeft answered ((b :: view).drop count)
    fail exception

/-! ## Receiving -/

inductive ReceiveTurn where
  | link (event : LinkEvent)
  | unreadable
  | blocked
  | chunk (count : ℕ)
  | raises (exception : PyException)

/-- `os.read(self.fd, 4096)`: the bytes go to the buffer. -/
def readChunk (count : ℕ) : WireM (List WireByte) := do
  let s ← read
  let chunk := s.received.take (min count 4096)
  update fun s =>
    { s with buffer := s.buffer ++ chunk, received := s.received.drop (min count 4096) }
  ret chunk

/-- **The loop that reads the response**, until there is one, nothing is readable or the deadline
has passed. -/
def receive (request : Bytes) : List ReceiveTurn → WireM (Option (List WireByte))
  | [] => ret none
  | .link event :: turns => do
    link event
    receive request turns
  | .unreadable :: _ => popBufferedResponse request
  | .blocked :: turns => do
    match ← popBufferedResponse request with
    | some response => ret (some response)
    | none => receive request turns
  | .raises exception :: _ => do
    match ← popBufferedResponse request with
    | some response => ret (some response)
    | none => fail exception
  | .chunk count :: turns => do
    match ← popBufferedResponse request with
    | some response => ret (some response)
    | none => do
      let chunk ← readChunk count
      let response ← if chunk = [] then ret none else popBufferedResponse request
      match response with
      | some response => ret (some response)
      | none => receive request turns

/-! ## Exchange -/

/-- **What the operating system, the link and the device do** during an exchange. -/
structure ExchangeScript where
  flushRaises : Option PyException
  sends : List SendTurn
  answer : AnswerData
  turns : List ReceiveTurn

def lateContext (skipped : ℕ) : String :=
  if skipped = 0 then ""
  else "; validated " ++ (if skipped = 1 then "one" else toString skipped) ++ " late write ACK" ++
    (if skipped ≠ 1 then "s" else "") ++ " while awaiting current response"

def responseTimeout (s : WireState) : PyException :=
  let received := if s.buffer = [] then "<nothing>" else hexBytes (values s.buffer)
  rh56Error (s!"timeout waiting for hand response; received {received}" ++
    lateContext s.lateWriteAcksSkipped)

def finishExchange (request : Bytes) : WireM (List WireByte) := do
  match ← popBufferedResponse request with
  | some response => ret response
  | none => do
    rememberUnprovenWrite request
    let s ← read
    fail (responseTimeout s)

/-- **`LinuxSerial.exchange`** of an open port, of the request with the number `n`. -/
def exchange (n : ℕ) (request : Bytes) (script : ExchangeScript) : WireM (List WireByte) := do
  match script.flushRaises with
  | some exception => fail exception
  | none => do
    beginExchange
    let outcome ← attempt do
      sendRequest request (deviceAnswer n request script.answer) request script.sends
      receive request script.turns
    match outcome with
    | .error exception => do
      rememberUnprovenWrite request
      fail exception
    | .ok (some response) => ret response
    | .ok none => finishExchange request

end FrankaDeploy.Rh56
