import FrankaDeploy.Foundation.FloatArith
import FrankaDeploy.Foundation.Machine

/-! # The shared telemetry stream

One stream of `native/telemetry/src/telemetry.cpp`: its control words and its two guarded slots, the
writers that claim it, publish and release it, and the readers. Every atomic load, store, exchange
and compare-exchange is one step of an interleaving; what a thread does between two of them is part
of the step before. `read_sample` and `publish_sample` are templates over the sample's words and its
validator, and so is this file. -/

namespace FrankaDeploy.Telemetry

open FrankaDeploy.Foundation

abbrev Word := BitVec 64

/-- **A sample**, as the words that `memcpy` makes of its bytes. -/
abbrev Sample (n : ℕ) := Vec n Word

def maximumSequence : ℕ := (2 ^ 64 - 1 - 1) / 2

/-! ## The shared memory -/

structure AtomicSlot (n : ℕ) where
  guard : ℕ
  words : Sample n

structure StreamControl where
  publishedSequence : ℕ
  writerClaim : ℕ
  publishCount : ℕ

structure Stream (n : ℕ) where
  control : StreamControl
  slots : Fin 2 → AtomicSlot n

def slotIndex (sequence : ℕ) : Fin 2 := Fin.ofNat 2 sequence

def stableGuard (sequence : ℕ) : ℕ := sequence * 2 % 2 ^ 64

def nextOf (sequence : ℕ) : ℕ := (sequence + 1) % 2 ^ 64

variable {n : ℕ}

/-- What `initialize_control` and `initialize_slot` leave. -/
def initialStream (n : ℕ) : Stream n :=
  ⟨⟨0, 0, 0⟩, fun _ => ⟨0, fun _ => 0⟩⟩

def Stream.setSlot (S : Stream n) (sequence : ℕ) (slot : AtomicSlot n) : Stream n :=
  { S with slots := Function.update S.slots (slotIndex sequence) slot }

def Stream.slot (S : Stream n) (sequence : ℕ) : AtomicSlot n := S.slots (slotIndex sequence)

/-! ## Threads -/

/-- The next atomic operation of `publish_sample`. -/
inductive PublishStep (n : ℕ) where
  | exchangeGuard
  | storeWord (index : Fin n)
  | storeGuard
  | storePublished
  | countPublish

/-- The loop over the words from `index` on. -/
def PublishStep.wordsFrom (n index : ℕ) : PublishStep n :=
  if h : index < n then .storeWord ⟨index, h⟩ else .storeGuard

/-- **A writer**, by what it does next. -/
inductive WriterState (n : ℕ) where
  | absent
  /-- `ClaimArmWriter` won the claim and loads the latest sequence; `allocated` tells whether the
  writer object is allocated afterwards. -/
  | claimed (token : ℕ) (allocated : Bool)
  /-- The claim of a writer object that could not be allocated is released. -/
  | abandoning (token : ℕ)
  | holding (token nextSequence : ℕ)
  | publishing (token sequence : ℕ) (sample : Sample n) (step : PublishStep n)

/-- The next atomic operation of `read_sample`. -/
inductive ReadStep (n : ℕ) where
  | loadPublished
  | loadGuard (sequence : ℕ)
  | loadWord (sequence : ℕ) (index : Fin n)
  | loadGuardAgain (sequence : ℕ)
  | loadLatest (sequence after : ℕ)

/-- The loop over the words from `index` on. The fence after it accesses no memory. -/
def ReadStep.wordsFrom (n sequence index : ℕ) : ReadStep n :=
  if h : index < n then .loadWord sequence ⟨index, h⟩ else .loadGuardAgain sequence

/-- **A call of `read_sample`.** -/
structure Reading (n : ℕ) where
  maxAttempts : ℕ
  attempt : ℕ
  encoded : Sample n
  step : ReadStep n

/-! ## Results -/

/-- `PublishCode`, as far as a writer that exists returns it. -/
inductive PublishCode where
  | ok
  | invalidSample
  | sequenceExhausted
deriving DecidableEq, Repr

inductive ReadCode where
  | ok
  | noData
  | contended
deriving DecidableEq, Repr

/-- `ReadResult`; its reserved field is always zero. -/
structure ReadResult where
  code : ReadCode
  attempts : ℕ
  sequence : ℕ

inductive InitCode where
  | ok
  | readOnly
  | invalidArgument
  | writerBusy
  | allocationFailed
deriving DecidableEq, Repr

/-- **What an observer sees**; `C` names writers and `R` names readers. -/
inductive TelemetryEvent (C R : Type) (n : ℕ) where
  | claimReturned (writer : C) (code : InitCode)
  | publishBegun (writer : C) (sequence : ℕ) (sample : Sample n)
  | published (writer : C) (sequence : ℕ) (sample : Sample n)
  | publishReturned (writer : C) (code : PublishCode) (sequence : ℕ)
  /-- `read_sample` returned; `output` is what it wrote into the output object, if it wrote it. -/
  | readReturned (reader : R) (result : ReadResult) (output : Option (Sample n))

/-! ## The steps of a writer -/

section Steps

variable {C R : Type} (validate : Sample n → Bool)

/-- `release_stream`: the claim is cleared if it is still the token's. -/
def releaseStream (S : Stream n) (token : ℕ) : Stream n :=
  if S.control.writerClaim = token then { S with control := { S.control with writerClaim := 0 } }
  else S

/-- The call of `ClaimArmWriter` up to its compare-exchange. -/
def claimStream (c : C) (S : Stream n) (token : ℕ) (writable allocated : Bool) :
    Stream n × WriterState n × List (TelemetryEvent C R n) :=
  if writable = false then (S, .absent, [.claimReturned c .readOnly])
  else if token = 0 then (S, .absent, [.claimReturned c .invalidArgument])
  else if S.control.writerClaim = 0 then
    ({ S with control := { S.control with writerClaim := token } }, .claimed token allocated, [])
  else (S, .absent, [.claimReturned c .writerBusy])

/-- The call of `publish` up to its first atomic operation. -/
def beginPublish (c : C) (token nextSequence : ℕ) (sample : Sample n) :
    WriterState n × List (TelemetryEvent C R n) :=
  if validate sample = false then
    (.holding token nextSequence, [.publishReturned c .invalidSample 0])
  else if nextSequence = 0 ∨ maximumSequence < nextSequence then
    (.holding token nextSequence, [.publishReturned c .sequenceExhausted 0])
  else (.publishing token nextSequence sample .exchangeGuard,
    [.publishBegun c nextSequence sample])

/-- One atomic operation of `publish_sample`. -/
def publishStep (c : C) (S : Stream n) (token sequence : ℕ) (sample : Sample n) :
    PublishStep n → Stream n × WriterState n × List (TelemetryEvent C R n)
  | .exchangeGuard =>
    (S.setSlot sequence { S.slot sequence with guard := stableGuard sequence ||| 1 },
      .publishing token sequence sample (.wordsFrom n 0), [])
  | .storeWord index =>
    (S.setSlot sequence
        { S.slot sequence with
          words := Function.update (S.slot sequence).words index (sample index) },
      .publishing token sequence sample (.wordsFrom n (index + 1)), [])
  | .storeGuard =>
    (S.setSlot sequence { S.slot sequence with guard := stableGuard sequence },
      .publishing token sequence sample .storePublished, [])
  | .storePublished =>
    ({ S with control := { S.control with publishedSequence := sequence } },
      .publishing token sequence sample .countPublish, [.published c sequence sample])
  | .countPublish =>
    ({ S with control :=
        { S.control with publishCount := (S.control.publishCount + 1) % 2 ^ 64 } },
      .holding token (nextOf sequence), [.publishReturned c .ok sequence])

def writerStep (c : C) (S : Stream n) :
    WriterState n → Stream n × WriterState n × List (TelemetryEvent C R n)
  | .absent => (S, .absent, [])
  | .claimed token true =>
    (S, .holding token (nextOf S.control.publishedSequence), [.claimReturned c .ok])
  | .claimed token false => (S, .abandoning token, [])
  | .abandoning token =>
    (releaseStream S token, .absent, [.claimReturned c .allocationFailed])
  | .holding token nextSequence => (S, .holding token nextSequence, [])
  | .publishing token sequence sample step => publishStep c S token sequence sample step

/-! ## The steps of a reader -/

def retry (r : R) (reading : Reading n) : Option (Reading n) × List (TelemetryEvent C R n) :=
  if reading.attempt < reading.maxAttempts then
    (some { reading with attempt := reading.attempt + 1, step := .loadPublished }, [])
  else (none, [.readReturned r ⟨.contended, reading.maxAttempts, 0⟩ none])

/-- The call of `read_sample` up to its first atomic operation. -/
def beginRead (r : R) (maxAttempts : ℕ) : Option (Reading n) × List (TelemetryEvent C R n) :=
  if maxAttempts = 0 then (none, [.readReturned r ⟨.contended, 0, 0⟩ none])
  else (some ⟨maxAttempts, 1, fun _ => 0, .loadPublished⟩, [])

/-- One atomic operation of `read_sample`. -/
def readStep (r : R) (S : Stream n) (reading : Reading n) :
    Option (Reading n) × List (TelemetryEvent C R n) :=
  match reading.step with
  | .loadPublished =>
    let sequence := S.control.publishedSequence
    if sequence = 0 then (none, [.readReturned r ⟨.noData, reading.attempt, 0⟩ none])
    else (some { reading with step := .loadGuard sequence }, [])
  | .loadGuard sequence =>
    if (S.slot sequence).guard ≠ stableGuard sequence then retry r reading
    else (some { reading with step := .wordsFrom n sequence 0 }, [])
  | .loadWord sequence index =>
    (some
      { reading with
        encoded := Function.update reading.encoded index ((S.slot sequence).words index)
        step := .wordsFrom n sequence (index + 1) }, [])
  | .loadGuardAgain sequence =>
    (some { reading with step := .loadLatest sequence (S.slot sequence).guard }, [])
  | .loadLatest sequence after =>
    if after = stableGuard sequence ∧ S.control.publishedSequence = sequence then
      if validate reading.encoded = false then retry r reading
      else (none, [.readReturned r ⟨.ok, reading.attempt, sequence⟩ (some reading.encoded)])
    else retry r reading

end Steps

/-! ## The interleaving -/

/-- **Which thread moves, and how.** -/
inductive TelemetryInput (C R : Type) (n : ℕ) where
  | claim (writer : C) (token : ℕ) (writable allocated : Bool)
  | publish (writer : C) (sample : Sample n)
  | release (writer : C)
  /-- A writer inside a call performs its next atomic operation. -/
  | writer (writer : C)
  | read (reader : R) (maxAttempts : ℕ)
  /-- A reader inside a call performs its next atomic operation. -/
  | reader (reader : R)

/-- **The stream with its threads.** -/
structure TelemetryState (C R : Type) (n : ℕ) where
  stream : Stream n
  writers : C → WriterState n
  readers : R → Option (Reading n)

variable {C R : Type} [DecidableEq C] [DecidableEq R]

def TelemetryState.withWriter (s : TelemetryState C R n) (c : C)
    (out : Stream n × WriterState n × List (TelemetryEvent C R n)) :
    TelemetryState C R n × List (TelemetryEvent C R n) :=
  ({ s with stream := out.1, writers := Function.update s.writers c out.2.1 }, out.2.2)

def TelemetryState.withReader (s : TelemetryState C R n) (r : R)
    (out : Option (Reading n) × List (TelemetryEvent C R n)) :
    TelemetryState C R n × List (TelemetryEvent C R n) :=
  ({ s with readers := Function.update s.readers r out.1 }, out.2)

/-- One step of the interleaving. A thread that cannot make the step it is asked for does
nothing. -/
def telemetryStep (validate : Sample n → Bool) (s : TelemetryState C R n) :
    TelemetryInput C R n → TelemetryState C R n × List (TelemetryEvent C R n)
  | .claim c token writable allocated =>
    match s.writers c with
    | .absent => s.withWriter c (claimStream c s.stream token writable allocated)
    | _ => (s, [])
  | .publish c sample =>
    match s.writers c with
    | .holding token nextSequence =>
      s.withWriter c (s.stream, beginPublish validate c token nextSequence sample)
    | _ => (s, [])
  | .release c =>
    match s.writers c with
    | .holding token _ => s.withWriter c (releaseStream s.stream token, .absent, [])
    | _ => (s, [])
  | .writer c => s.withWriter c (writerStep c s.stream (s.writers c))
  | .read r maxAttempts =>
    match s.readers r with
    | none => s.withReader r (beginRead r maxAttempts)
    | some _ => (s, [])
  | .reader r =>
    match s.readers r with
    | none => (s, [])
    | some reading => s.withReader r (readStep validate r s.stream reading)

/-- **The stream under every interleaving.** -/
def telemetryMachine (C R : Type) [DecidableEq C] [DecidableEq R] (validate : Sample n → Bool) :
    Machine (TelemetryState C R n) (TelemetryInput C R n) (TelemetryEvent C R n) where
  step := telemetryStep validate

@[simp] theorem telemetryMachine_step (validate : Sample n → Bool) (s : TelemetryState C R n)
    (i : TelemetryInput C R n) :
    (telemetryMachine C R validate).step s i = telemetryStep validate s i := rfl

def initialState (C R : Type) (n : ℕ) : TelemetryState C R n :=
  ⟨initialStream n, fun _ => .absent, fun _ => none⟩

end FrankaDeploy.Telemetry
