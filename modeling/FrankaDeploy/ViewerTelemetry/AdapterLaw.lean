import FrankaDeploy.ViewerTelemetry.Adapter
import FrankaDeploy.ViewerTelemetry.ReaderLaw

/-! # What the adapter upholds

The record of a stream moves only with a larger sequence, and its stage is then the stage of the
sample that moved it. With injective digests the mark stands for that sample with its stage and its
bundle (`NativeUpheld`), so a stage that is shown again under the same sequence is the same stage.
An identity fault is kept for ever. -/

namespace FrankaDeploy.ViewerTelemetry.NativeAdapter

open FrankaDeploy.Foundation
open FrankaDeploy.Foundation.Program
open FrankaDeploy.Foundation.HighWater
open FrankaDeploy.PersistentSession (Matrix)

variable {D Digest C : Type} [FloatArith D] [DecidableEq Digest] {lib : Library D Digest}
  {config : ReaderConfig}

/-! ## A gate as a function -/

/-- **`_gate_native_stream` on the record of its stream**: the result and the new record. -/
def gated (lib : Library D Digest) (kind : StreamKind D C)
    (reading : Except String (NativeRead C)) (maxAgeNs : ℕ) (now : ViewerClocks)
    (record : StreamRecord Digest) :
    Except Raised (Option (StableSample C) × String) × StreamRecord Digest :=
  match reading with
  | .error status => (.ok (none, status), record)
  | .ok (.unavailable contended _ _) =>
    (.ok (none, kind.name.text ++ " unavailable: " ++
      if contended then "CONTENDED" else "NO_DATA"), record)
  | .ok (.stable _ content) =>
    match nativeEnvelopeFingerprint lib kind content with
    | .error e => (.error e, record)
    | .ok fingerprint =>
      match refusal record kind.name fingerprint content with
      | some status => (.ok (none, status), record)
      | none => (freshnessGate D kind.name content content.sample maxAgeNs now,
          advance record fingerprint content)

omit [DecidableEq Digest] in
theorem setStream_self (s : AdapterState Digest) (name : StreamName) :
    s.setStream name (s.streams name) = s := by
  unfold AdapterState.setStream
  rw [Function.update_eq_self]

omit [DecidableEq Digest] in
@[simp] theorem setStream_same (s : AdapterState Digest) (name : StreamName)
    (record : StreamRecord Digest) : (s.setStream name record).streams name = record := by
  unfold AdapterState.setStream
  exact Function.update_self ..

omit [DecidableEq Digest] in
theorem setStream_of_ne (s : AdapterState Digest) {name other : StreamName} (hne : name ≠ other)
    (record : StreamRecord Digest) : (s.setStream other record).streams name = s.streams name := by
  unfold AdapterState.setStream
  exact Function.update_of_ne hne ..

/-- **A gate reads and writes the record of its stream** and nothing else. -/
theorem gateNativeStream_apply {kind : StreamKind D C} {reading : Except String (NativeRead C)}
    {maxAgeNs : ℕ} {now : ViewerClocks} (s : AdapterState Digest) :
    gateNativeStream lib kind reading maxAgeNs now s =
      ((gated lib kind reading maxAgeNs now (s.streams kind.name)).1,
        s.setStream kind.name (gated lib kind reading maxAgeNs now (s.streams kind.name)).2,
        []) := by
  unfold gateNativeStream gated
  cases reading with
  | error status =>
    dsimp only
    rw [setStream_self]
    rfl
  | ok read =>
    cases read with
    | unavailable contended sequence attempts =>
      dsimp only
      rw [setStream_self]
      rfl
    | stable attempts content =>
      dsimp only
      cases nativeEnvelopeFingerprint lib kind content with
      | error e =>
        dsimp only
        rw [setStream_self]
        rfl
      | ok fingerprint =>
        rw [ofExcept_ok_bind_apply, read_bind_apply]
        dsimp only
        cases refusal (s.streams kind.name) kind.name fingerprint content with
        | some status =>
          dsimp only
          rw [setStream_self]
          rfl
        | none =>
          dsimp only
          rw [update_bind_apply, gateFreshness_apply]

/-! ## What a gate upholds -/

def sequenceOf (content : StableSample C) : ℕ := content.sample.sampleSequence

def epochOf (content : StableSample C) : ℕ := content.stage.epoch

def stageNameOf (content : StableSample C) : String × ℕ :=
  (content.stage.name, content.stage.nameHash64)

/-- **What a stream has shown**: the record stands for the sample that moved it last, and neither
the sequences nor the epochs go back. -/
def NativeUpheld (lib : Library D Digest) (kind : StreamKind D C) (record : StreamRecord Digest)
    (shown : List (StableSample C)) : Prop :=
  ∃ ghost : Option (HighWater (StableSample C)),
    Codes (fun content d => nativeEnvelopeFingerprint lib kind content = .ok d) record.state
      ghost ∧
    record.stage = ghost.map (fun mark => mark.tag.stage) ∧
    Upheld sequenceOf id ghost shown ∧
    Upheld epochOf stageNameOf (record.stage.map stageMark) shown

omit [FloatArith D] [DecidableEq Digest] in
theorem nativeUpheld_initial (kind : StreamKind D C) : NativeUpheld lib kind ⟨none, none⟩ [] :=
  ⟨none, .none, rfl, upheld_nil, upheld_nil⟩

omit [FloatArith D] [DecidableEq Digest] in
theorem nativeEnvelopeFingerprint_injective (hdigest : DigestsInjective lib)
    {kind : StreamKind D C} (hkind : kind.Faithful) (a b : StableSample C) (d : Digest)
    (ha : nativeEnvelopeFingerprint lib kind a = .ok d)
    (hb : nativeEnvelopeFingerprint lib kind b = .ok d) : a = b := by
  obtain ⟨sampleA, hsampleA, ha⟩ := except_bind_eq_ok.mp ha
  obtain ⟨sampleB, hsampleB, hb⟩ := except_bind_eq_ok.mp hb
  have henvelope := hdigest.envelope _ _ d ha hb
  injection henvelope with hsample hname hepoch hhash hbundle
  rw [← hsample] at hsampleB
  have hcontent := sampleFingerprint_injective hdigest hkind a.sample b.sample sampleA hsampleA
    hsampleB
  obtain ⟨contentA, ⟨nameA, epochA, hashA⟩, bundleA⟩ := a
  obtain ⟨contentB, ⟨nameB, epochB, hashB⟩, bundleB⟩ := b
  dsimp only at hcontent hname hepoch hhash hbundle
  rw [hcontent, hname, hepoch, hhash, hbundle]

theorem admits_of_refusal {record : StreamRecord Digest} {name : StreamName}
    {fingerprint : Digest} {content : StableSample C}
    (h : refusal record name fingerprint content = none) :
    Admits record.state (sequenceOf content) fingerprint ∧
      Admits (record.stage.map stageMark) (epochOf content) (stageNameOf content) := by
  unfold refusal at h
  obtain ⟨hstate, hstage⟩ := Option.or_eq_none_iff.mp h
  exact ⟨replayStatus_eq_none.mp hstate, replayStatus_eq_none.mp hstage⟩

omit [DecidableEq Digest] in
theorem state_advance (record : StreamRecord Digest) (fingerprint : Digest)
    (content : StableSample C) :
    (advance record fingerprint content).state =
      raise record.state (sequenceOf content) fingerprint := by
  unfold advance raise
  cases hstate : record.state with
  | none => rfl
  | some mark =>
    dsimp only
    by_cases hlt : mark.key < content.sample.sampleSequence
    · rw [if_pos (by simpa using hlt)]
      exact (if_pos hlt).symm
    · rw [if_neg (by simpa using hlt), hstate]
      exact (if_neg hlt).symm

omit [FloatArith D] [DecidableEq Digest] in
/-- **The record stands for the sample that it has admitted.** -/
theorem stage_advance {kind : StreamKind D C} {record : StreamRecord Digest}
    (fingerprint : Digest) {content : StableSample C} {ghost : Option (HighWater (StableSample C))}
    (hcodes : Codes (fun content d => nativeEnvelopeFingerprint lib kind content = .ok d)
      record.state ghost)
    (hstage : record.stage = ghost.map fun mark => mark.tag.stage)
    (hadmits : Admits ghost (sequenceOf content) content) :
    (advance record fingerprint content).stage = some content.stage := by
  unfold advance
  generalize record.state = state at hcodes ⊢
  cases hcodes with
  | none => rfl
  | @some mark g hmark =>
    obtain ⟨hle, htag⟩ := hadmits g rfl
    by_cases hlt : mark.key < content.sample.sampleSequence
    · rw [if_pos (by simpa using hlt)]
    · -- The sequence of the mark: the sample is the one that moved it.
      have heq : sequenceOf content = g.key := by
        have hkey := hmark.1
        unfold sequenceOf at hle ⊢
        omega
      rw [if_neg (by simpa using hlt), hstage, Option.map_some, ← htag heq]

/-- **A gate keeps its stream in order**, whatever it returns. -/
theorem nativeUpheld_gated (hdigest : DigestsInjective lib) {kind : StreamKind D C}
    (hkind : kind.Faithful) (reading : Except String (NativeRead C)) (maxAgeNs : ℕ)
    (now : ViewerClocks) {record : StreamRecord Digest} {shown : List (StableSample C)}
    (h : NativeUpheld lib kind record shown) :
    NativeUpheld lib kind (gated lib kind reading maxAgeNs now record).2 shown ∧
      ∀ result, (gated lib kind reading maxAgeNs now record).1 = .ok result →
        NativeUpheld lib kind (gated lib kind reading maxAgeNs now record).2
          (shown ++ result.1.toList) ∧
        ∀ visible, result.1 = some visible →
          ∃ attempts, reading = .ok (.stable attempts visible) := by
  have unchanged : ∀ (status : String) (result : Option (StableSample C) × String),
      Except.ok (none, status) = (Except.ok result : Except Raised _) →
        NativeUpheld lib kind record (shown ++ result.1.toList) ∧
          ∀ visible, result.1 = some visible →
            ∃ attempts, reading = .ok (.stable attempts visible) := by
    rintro status result hresult
    cases hresult
    refine ⟨?_, fun visible hvisible => by cases hvisible⟩
    rw [Option.toList_none, List.append_nil]
    exact h
  unfold gated
  cases reading with
  | error status => exact ⟨h, unchanged status⟩
  | ok read =>
    cases read with
    | unavailable contended sequence attempts => exact ⟨h, unchanged _⟩
    | stable attempts content =>
      dsimp only
      cases hfingerprint : nativeEnvelopeFingerprint lib kind content with
      | error e => exact ⟨h, fun result hresult => by cases hresult⟩
      | ok fingerprint =>
        dsimp only
        cases hrefusal : refusal record kind.name fingerprint content with
        | some status => exact ⟨h, unchanged status⟩
        | none =>
          dsimp only
          obtain ⟨ghost, hcodes, hstage, hsequences, hepochs⟩ := h
          obtain ⟨hadmits, hadmitsStage⟩ := admits_of_refusal hrefusal
          have hadmitsGhost : Admits ghost (sequenceOf content) content :=
            hcodes.admits (nativeEnvelopeFingerprint_injective hdigest hkind)
              hfingerprint hadmits
          have hcodes' := hcodes.raise (sequenceOf content) hfingerprint
          rw [← state_advance] at hcodes'
          have hstage' := stage_advance fingerprint hcodes hstage hadmitsGhost
          have hmark : (advance record fingerprint content).stage.map stageMark =
              raise (record.stage.map stageMark) (epochOf content)
                (stageNameOf content) := by
            rw [hstage', raise_of_admits hadmitsStage]
            rfl
          have hghost : (advance record fingerprint content).stage =
              (raise ghost (sequenceOf content) content).map fun mark =>
                mark.tag.stage := by
            rw [hstage', raise_of_admits hadmitsGhost]
            rfl
          have hraised : NativeUpheld lib kind (advance record fingerprint content)
              shown := by
            refine ⟨_, hcodes', hghost, hsequences.raise _ _, ?_⟩
            rw [hmark]
            exact hepochs.raise _ _
          refine ⟨hraised, fun result hresult => ?_⟩
          rcases shown_of_freshnessGate hresult with hnone | hsome
          · rw [hnone, Option.toList_none, List.append_nil]
            exact ⟨hraised, fun visible hvisible => by cases hvisible⟩
          · rw [hsome]
            refine ⟨⟨_, hcodes', hghost, hsequences.show hadmitsGhost, ?_⟩, ?_⟩
            · rw [hmark]
              exact hepochs.show hadmitsStage
            · rintro visible hvisible
              cases hvisible
              exact ⟨attempts, rfl⟩

/-! ## The header -/

/-- **A header that is no longer of this run**: it does not parse, it has another identity or
another creation, or it was created in the future. -/
def IdentityFault (config : ReaderConfig) (call : AcceptCall D) (s : AdapterState Digest) : Prop :=
  match telemetryIdentityFromNativeHeader call.header with
  | .error e => e.family ≠ .other
  | .ok (identity, creation) =>
    identity ≠ config.expectedIdentity ∨
    (∃ known, s.headerCreation = some known ∧ creation ≠ known) ∨
    ∃ now, readClocks call.nowUnixNs call.nowMonotonicNs = .ok now ∧
      (creation.1 > now.unixNs + maxFutureSkewNs ∨
        creation.2 > now.monotonicNs + maxFutureSkewNs)

omit [DecidableEq Digest] in
theorem wp_latchIdentityFault {α : Type} {message : String} {s : AdapterState Digest}
    {t : List Empty} {Q : α → AdapterState Digest → List Empty → Prop}
    {E : Raised → AdapterState Digest → List Empty → Prop}
    (h : E (identityError message) { s with identityFault := some message } t) :
    wp (latchIdentityFault message) Q E s t := by
  unfold latchIdentityFault
  rw [wp_bind, wp_update, wp_fail]
  exact h

/-- **How a header fails**: with a latched fault, or before one is decided. -/
def HeaderFailed (config : ReaderConfig) (call : AcceptCall D) (s s' : AdapterState Digest)
    (e : Raised) : Prop :=
  (IdentityFault config call s ∧ ∃ m, s'.identityFault = some m ∧ e = identityError m) ∨
    (¬IdentityFault config call s ∧
      ((telemetryIdentityFromNativeHeader call.header = .error e ∧ e.family = .other) ∨
        readClocks call.nowUnixNs call.nowMonotonicNs = .error e))

omit [FloatArith D] [DecidableEq Digest] in
/-- **A call's header**: the streams stay, and an identity fault is latched. -/
theorem wp_admitHeader (call : AcceptCall D) (s : AdapterState Digest) (t : List Empty) :
    wp (admitHeader config call.header call.nowUnixNs call.nowMonotonicNs)
      (fun now s' _ => s'.streams = s.streams ∧
        readClocks call.nowUnixNs call.nowMonotonicNs = .ok now ∧ ¬IdentityFault config call s)
      (fun e s' _ => s'.streams = s.streams ∧ HeaderFailed config call s s' e) s t := by
  unfold admitHeader parseHeader HeaderFailed IdentityFault
  cases telemetryIdentityFromNativeHeader call.header with
  | error e =>
    dsimp only
    rw [wp_bind]
    by_cases hother : e.family = .other
    · rw [if_pos hother, wp_fail]
      exact ⟨rfl, .inr ⟨not_not.mpr hother, .inl ⟨rfl, hother⟩⟩⟩
    · rw [if_neg hother]
      exact wp_latchIdentityFault ⟨rfl, .inl ⟨hother, _, rfl, rfl⟩⟩
  | ok fields =>
    obtain ⟨identity, creation⟩ := fields
    simp only [wp_bind, wp_pure, wp_runIf, wp_read, wp_update, wp_ofExcept]
    constructor
    · intro hidentity
      exact wp_latchIdentityFault ⟨rfl, .inl ⟨.inl hidentity, _, rfl, rfl⟩⟩
    intro hidentity
    constructor
    · intro hcreation
      obtain ⟨known, hknown, hne⟩ := Option.any_eq_true _ _ |>.mp hcreation
      exact wp_latchIdentityFault
        ⟨rfl, .inl ⟨.inr (.inl ⟨known, hknown, of_decide_eq_true hne⟩), _, rfl, rfl⟩⟩
    intro hcreation
    have hknown : ¬∃ known, s.headerCreation = some known ∧ creation ≠ known := by
      rintro ⟨known, hknown, hne⟩
      rw [hknown] at hcreation
      exact hcreation (decide_eq_true hne)
    constructor
    · intro now hnow
      constructor
      · intro hfuture
        exact wp_latchIdentityFault
          ⟨rfl, .inl ⟨.inr (.inr ⟨now, hnow, hfuture⟩), _, rfl, rfl⟩⟩
      · intro hfuture
        refine ⟨trivial, hnow, ?_⟩
        rintro (hne | hother | ⟨now', hnow', hlate⟩)
        · exact hidentity hne
        · exact hknown hother
        · rw [hnow] at hnow'
          cases hnow'
          exact hfuture hlate
    · intro e he
      refine ⟨trivial, .inr ⟨?_, .inr he⟩⟩
      rintro (hne | hother | ⟨now', hnow', -⟩)
      · exact hidentity hne
      · exact hknown hother
      · rw [he] at hnow'
        cases hnow'

/-- **The rule of a call**: a latched fault, a header that fails, and the streams. -/
theorem wp_accept {call : AcceptCall D} {s : AdapterState Digest} {t : List Empty}
    {Q : NativeTelemetryVisibility D → AdapterState Digest → List Empty → Prop}
    {E : Raised → AdapterState Digest → List Empty → Prop}
    (hlatched : ∀ m, s.identityFault = some m → E (identityError m) s t)
    (hheader : s.identityFault = none → ∀ e s' t', s'.streams = s.streams →
      HeaderFailed config call s s' e → E e s' t')
    (hstreams : ∀ now s' t', s'.streams = s.streams →
      readClocks call.nowUnixNs call.nowMonotonicNs = .ok now → ¬IdentityFault config call s →
      wp (acceptStreams lib config call now) Q E s' t') :
    wp (accept lib config call) Q E s t := by
  unfold accept
  rw [wp_bind, wp_read]
  beta_reduce
  cases hfault : s.identityFault with
  | some m =>
    dsimp only
    rw [wp_fail]
    exact hlatched m hfault
  | none =>
    dsimp only
    rw [wp_bind]
    refine wp_mono (wp_admitHeader call s t) ?_ ?_
    · rintro now s' t' ⟨hkeeps, hnow, hno⟩
      exact hstreams now s' t' hkeeps hnow hno
    · rintro e s' t' ⟨hkeeps, hfailed⟩
      exact hheader hfault e s' t' hkeeps hfailed

/-! ## A call -/

theorem gateNativeStream_bind_apply {β : Type} {kind : StreamKind D C}
    {reading : Except String (NativeRead C)} {maxAgeNs : ℕ} {now : ViewerClocks}
    (f : Option (StableSample C) × String → AdapterMethod Digest β) (s : AdapterState Digest) :
    (gateNativeStream lib kind reading maxAgeNs now >>= f) s =
      match gated lib kind reading maxAgeNs now (s.streams kind.name) with
      | (.error e, record) => (.error e, s.setStream kind.name record, [])
      | (.ok result, record) => f result (s.setStream kind.name record) := by
  show andThen (gateNativeStream lib kind reading maxAgeNs now) f s = _
  unfold andThen
  rw [gateNativeStream_apply]
  rcases gated lib kind reading maxAgeNs now (s.streams kind.name) with ⟨result, record⟩
  cases result with
  | error e => rfl
  | ok result =>
    dsimp only
    rcases f result (s.setStream kind.name record) with ⟨r, s', w⟩
    rfl

def armReading (lib : Library D Digest) (call : AcceptCall D) :
    Except Raised (Except String (NativeRead (Matrix 4 D))) :=
  parseNativeStream .arm (nativeArmReadFromMapping lib call.armRead)

def handReading (call : AcceptCall D) : Except Raised (Except String (NativeRead HandAngles)) :=
  parseNativeStream .hand (nativeHandReadFromMapping call.handRead)

/-- **The streams of a call**: two readings and two independent gates. -/
theorem acceptStreams_apply (call : AcceptCall D) (now : ViewerClocks) (s : AdapterState Digest) :
    acceptStreams lib config call now s =
      match armReading lib call, handReading call with
      | .error e, _ => (.error e, s, [])
      | .ok _, .error e => (.error e, s, [])
      | .ok armReading, .ok handReading =>
        match gated lib armKind armReading config.armMaxAgeNs now (s.streams .arm) with
        | (.error e, armRecord) => (.error e, s.setStream .arm armRecord, [])
        | (.ok arm, armRecord) =>
          match gated lib handKind handReading config.handMaxAgeNs now (s.streams .hand) with
          | (.error e, handRecord) =>
            (.error e, (s.setStream .arm armRecord).setStream .hand handRecord, [])
          | (.ok hand, handRecord) =>
            (.ok (visibility config.expectedIdentity arm hand),
              (s.setStream .arm armRecord).setStream .hand handRecord, []) := by
  unfold acceptStreams armReading handReading
  cases parseNativeStream .arm (nativeArmReadFromMapping lib call.armRead) with
  | error e => rfl
  | ok armReading =>
    rw [ofExcept_ok_bind_apply]
    cases parseNativeStream .hand (nativeHandReadFromMapping call.handRead) with
    | error e => rfl
    | ok handReading =>
      rw [ofExcept_ok_bind_apply, gateNativeStream_bind_apply, armKind_name]
      dsimp only
      rcases gated lib armKind armReading config.armMaxAgeNs now (s.streams .arm)
        with ⟨result, armRecord⟩
      cases result with
      | error e => rfl
      | ok arm =>
        dsimp only
        rw [gateNativeStream_bind_apply, handKind_name, setStream_of_ne s (by decide)]
        rcases gated lib handKind handReading config.handMaxAgeNs now (s.streams .hand)
          with ⟨result, handRecord⟩
        cases result with
        | error e => rfl
        | ok hand => rfl

/-! ## Every run -/

/-- **What a visibility may combine**: one stage, and bundles that agree unless one is neutral. -/
def Combined (v : NativeTelemetryVisibility D) : Prop :=
  ∃ arm hand, v.arm = some arm ∧ v.hand = some hand ∧ arm.stage = hand.stage ∧
    (arm.bundleSequence = 0 ∨ hand.bundleSequence = 0 ∨ arm.bundleSequence = hand.bundleSequence)

/-- **A sound visibility.** -/
structure Sound (config : ReaderConfig) (v : NativeTelemetryVisibility D) : Prop where
  identity : v.identity = config.expectedIdentity
  arm : ∀ content, v.arm = some content → content.Coherent
  hand : ∀ content, v.hand = some content → content.Coherent
  coherent : v.streamsCoherent = true → Combined v

omit [FloatArith D] in
/-- **Coherent streams** have one stage and compatible bundles. -/
theorem combined_of_streamsCoherent {identity : TelemetryIdentity}
    {arm : Option (StableSample (Matrix 4 D)) × String}
    {hand : Option (StableSample HandAngles) × String}
    (h : (visibility identity arm hand).streamsCoherent = true) :
    Combined (visibility identity arm hand) := by
  obtain ⟨arm, armStatus⟩ := arm
  obtain ⟨hand, handStatus⟩ := hand
  unfold visibility streamsCoherent at h
  cases arm with
  | none => cases h
  | some arm =>
    cases hand with
    | none => cases h
    | some hand =>
      obtain ⟨hstage, hbundle⟩ := (Bool.and_eq_true _ _).mp h
      obtain ⟨hepoch, hname, hhash⟩ := of_decide_eq_true hstage
      refine ⟨arm, hand, rfl, rfl, ?_, of_decide_eq_true hbundle⟩
      obtain ⟨armSample, ⟨armName, armEpoch, armHash⟩, armBundle⟩ := arm
      obtain ⟨handSample, ⟨handName, handEpoch, handHash⟩, handBundle⟩ := hand
      dsimp only at hepoch hname hhash
      rw [hepoch, hname, hhash]

theorem read_of_parseNativeStream {S : Type} {name : StreamName} {parsed : Except Raised S}
    {reading : S} (h : parseNativeStream name parsed = .ok (.ok reading)) : parsed = .ok reading := by
  unfold parseNativeStream at h
  cases parsed with
  | ok found =>
    cases h
    rfl
  | error e =>
    dsimp only at h
    by_cases hother : e.family = .other
    · rw [if_pos hother] at h
      cases h
    · rw [if_neg hother] at h
      cases h

omit [FloatArith D] in
theorem parse_of_readWith {envelope : NativeEnvelope D}
    {parse : PyMapping D → Except Raised (StableSample C)} {attempts : ℕ}
    {content : StableSample C} (h : envelope.readWith parse = .ok (.stable attempts content)) :
    ∃ sample, parse sample = .ok content := by
  unfold NativeEnvelope.readWith at h
  cases hsample : envelope.sample with
  | none =>
    rw [hsample] at h
    cases h
  | some sample =>
    rw [hsample] at h
    refine ⟨sample, ?_⟩
    dsimp only at h
    cases hparse : parse sample with
    | error e =>
      rw [hparse] at h
      cases h
    | ok found =>
      rw [hparse] at h
      cases h
      rfl

omit [DecidableEq Digest] in
theorem armReading_coherent {call : AcceptCall D} {attempts : ℕ}
    {content : StableSample (Matrix 4 D)}
    (h : armReading lib call = .ok (.ok (.stable attempts content))) : content.Coherent := by
  obtain ⟨envelope, -, hread⟩ := except_bind_eq_ok.mp (read_of_parseNativeStream h)
  obtain ⟨sample, hsample⟩ := parse_of_readWith hread
  exact nativeArmSample_coherent hsample

omit [FloatArith D] in
theorem handReading_coherent {call : AcceptCall D} {attempts : ℕ}
    {content : StableSample HandAngles}
    (h : handReading call = .ok (.ok (.stable attempts content))) : content.Coherent := by
  obtain ⟨envelope, -, hread⟩ := except_bind_eq_ok.mp (read_of_parseNativeStream h)
  obtain ⟨sample, hsample⟩ := parse_of_readWith hread
  exact nativeHandSample_coherent hsample

/-- **What an adapter upholds** about everything that it has returned. -/
structure AdapterUpheld (lib : Library D Digest) (config : ReaderConfig)
    (streams : StreamName → StreamRecord Digest) (shown : List (NativeTelemetryVisibility D)) :
    Prop where
  arm : NativeUpheld lib armKind (streams .arm) (shown.filterMap NativeTelemetryVisibility.arm)
  hand : NativeUpheld lib handKind (streams .hand)
    (shown.filterMap NativeTelemetryVisibility.hand)
  sound : ∀ v ∈ shown, Sound config v

omit [FloatArith D] [DecidableEq Digest] in
theorem adapterUpheld_initial :
    AdapterUpheld lib config (AdapterState.initial : AdapterState Digest).streams [] where
  arm := nativeUpheld_initial armKind
  hand := nativeUpheld_initial handKind
  sound := fun v hv => by cases hv

/-- **The streams of one call keep what the adapter upholds.** -/
theorem adapterUpheld_acceptStreams (hdigest : DigestsInjective lib) {s : AdapterState Digest}
    {shown : List (NativeTelemetryVisibility D)} (h : AdapterUpheld lib config s.streams shown)
    (call : AcceptCall D) (now : ViewerClocks) :
    wp (acceptStreams lib config call now)
      (fun v s' _ => AdapterUpheld lib config s'.streams (shown ++ [v]))
      (fun _ s' _ => AdapterUpheld lib config s'.streams shown) s [] := by
  unfold wp
  rw [acceptStreams_apply]
  cases harmReading : armReading lib call with
  | error e => exact h
  | ok armRead =>
    cases hhandReading : handReading call with
    | error e => exact h
    | ok handRead =>
      obtain ⟨harm, harmShown⟩ := nativeUpheld_gated hdigest armKind_faithful armRead
        config.armMaxAgeNs now h.arm
      obtain ⟨hhand, hhandShown⟩ := nativeUpheld_gated hdigest handKind_faithful handRead
        config.handMaxAgeNs now h.hand
      dsimp only
      generalize gated lib armKind armRead config.armMaxAgeNs now (s.streams .arm) =
        armOutcome at harm harmShown ⊢
      generalize gated lib handKind handRead config.handMaxAgeNs now (s.streams .hand) =
        handOutcome at hhand hhandShown ⊢
      obtain ⟨armResult, armRecord⟩ := armOutcome
      obtain ⟨handResult, handRecord⟩ := handOutcome
      cases armResult with
      | error e =>
        refine ⟨?_, ?_, h.sound⟩
        · rw [setStream_same]
          exact harm
        · rw [setStream_of_ne s (by decide)]
          exact h.hand
      | ok arm =>
        cases handResult with
        | error e =>
          refine ⟨?_, ?_, h.sound⟩
          · rw [setStream_of_ne _ (by decide), setStream_same]
            exact harm
          · rw [setStream_same]
            exact hhand
        | ok hand =>
          obtain ⟨harmOk, harmSample⟩ := harmShown arm rfl
          obtain ⟨hhandOk, hhandSample⟩ := hhandShown hand rfl
          refine ⟨?_, ?_, ?_⟩
          · rw [filterMap_concat, setStream_of_ne _ (by decide), setStream_same]
            exact harmOk
          · rw [filterMap_concat, setStream_same]
            exact hhandOk
          · intro v hv
            rcases List.mem_append.mp hv with hv | hv
            · exact h.sound v hv
            · obtain rfl := List.mem_singleton.mp hv
              refine ⟨rfl, ?_, ?_, combined_of_streamsCoherent⟩
              · intro content hcontent
                obtain ⟨attempts, rfl⟩ := harmSample content hcontent
                exact armReading_coherent harmReading
              · intro content hcontent
                obtain ⟨attempts, rfl⟩ := hhandSample content hcontent
                exact handReading_coherent hhandReading

theorem adapterUpheld_accept (hdigest : DigestsInjective lib) {s : AdapterState Digest}
    {shown : List (NativeTelemetryVisibility D)} (h : AdapterUpheld lib config s.streams shown)
    (call : AcceptCall D) :
    AdapterUpheld lib config (accept lib config call s).2.1.streams
      (shown ++ (accept lib config call s).1.toOption.toList) := by
  refine wp_result (t := []) (P := fun result (s' : AdapterState Digest) _ =>
    AdapterUpheld lib config s'.streams (shown ++ result.toOption.toList)) ?_
  refine wp_accept ?_ ?_ ?_
  · intro m _
    show AdapterUpheld lib config s.streams (shown ++ [])
    rwa [List.append_nil]
  · intro _ e s' _ hkeeps _
    show AdapterUpheld lib config s'.streams (shown ++ [])
    rwa [List.append_nil, hkeeps]
  · intro now s' t' hkeeps _ _
    rw [← hkeeps] at h
    refine wp_shift.mpr (wp_mono (adapterUpheld_acceptStreams hdigest h call now) ?_ ?_)
    · intro v s'' _ hv
      exact hv
    · intro e s'' _ he
      show AdapterUpheld lib config s''.streams (shown ++ [])
      rwa [List.append_nil]

theorem adapterUpheld_run (hdigest : DigestsInjective lib) (calls : List (AcceptCall D)) :
    AdapterUpheld lib config ((adapter lib config).run .initial calls).streams
      (returned ((adapter lib config).trace .initial calls)) := by
  refine (adapter lib config).monitor_induction
    (P := fun s results => AdapterUpheld lib config s.streams (returned results))
    adapterUpheld_initial ?_ calls
  intro s results call h
  show AdapterUpheld lib config _ (returned (results ++ [_]))
  rw [returned_concat]
  exact adapterUpheld_accept hdigest h call

/-! ## Faults -/

theorem accept_of_fault {s : AdapterState Digest} {message : String} (call : AcceptCall D)
    (h : s.identityFault = some message) :
    accept lib config call s = (.error (identityError message), s, []) := by
  unfold accept
  rw [read_bind_apply, h]
  rfl

theorem trace_of_fault {s : AdapterState Digest} {message : String}
    (h : s.identityFault = some message) (calls : List (AcceptCall D)) :
    ∀ result ∈ (adapter lib config).trace s calls, result = .error (identityError message) := by
  induction calls generalizing s with
  | nil =>
    intro result hresult
    cases hresult
  | cons call calls ih =>
    intro result hresult
    rw [Machine.trace_cons] at hresult
    have hstep : (adapter lib config).step s call = (s, [.error (identityError message)]) := by
      show ((accept lib config call s).2.1, [(accept lib config call s).1]) = _
      rw [accept_of_fault call h]
    rw [hstep] at hresult
    rcases List.mem_cons.mp hresult with hhead | htail
    · exact hhead
    · exact ih h result htail

theorem fault_of_identityFault (lib : Library D Digest) {s : AdapterState Digest}
    {call : AcceptCall D}
    (hnone : s.identityFault = none) (hfault : IdentityFault config call s) :
    ∃ message, (accept lib config call s).1 = .error (identityError message) ∧
      (accept lib config call s).2.1.identityFault = some message := by
  refine wp_result (t := []) (P := fun result (s' : AdapterState Digest) _ =>
    ∃ message, result = .error (identityError message) ∧ s'.identityFault = some message) ?_
  refine wp_accept ?_ ?_ ?_
  · intro m hm
    rw [hnone] at hm
    cases hm
  · rintro - e s' _ - (⟨-, m, hm, rfl⟩ | ⟨hno, -⟩)
    · exact ⟨m, rfl, hm⟩
    · exact absurd hfault hno
  · intro now s' _ _ _ hno
    exact absurd hfault hno

/-! ## Independence -/

/-- **A stream that raised**: its reading raised neither a `TypeError` nor a `ValueError`, or its
fingerprint or the text of its age could not be computed. -/
def StreamRaised (lib : Library D Digest) (kind : StreamKind D C)
    (parsed : Except Raised (NativeRead C)) (maxAgeNs : ℕ) (now : ViewerClocks) (e : Raised) :
    Prop :=
  (parsed = .error e ∧ e.family = .other) ∨
    ∃ attempts content, parsed = .ok (.stable attempts content) ∧
      (nativeEnvelopeFingerprint lib kind content = .error e ∨
        freshnessStatus D content.sample kind.name maxAgeNs now = .error e)

theorem other_of_parseNativeStream {S : Type} {name : StreamName} {parsed : Except Raised S}
    {e : Raised} (h : parseNativeStream name parsed = .error e) :
    parsed = .error e ∧ e.family = .other := by
  unfold parseNativeStream at h
  cases parsed with
  | ok found => cases h
  | error e' =>
    dsimp only at h
    by_cases hother : e'.family = .other
    · rw [if_pos hother] at h
      cases h
      exact ⟨rfl, hother⟩
    · rw [if_neg hother] at h
      cases h

theorem streamRaised_of_gated {kind : StreamKind D C} {parsed : Except Raised (NativeRead C)}
    {reading : Except String (NativeRead C)} {maxAgeNs : ℕ} {now : ViewerClocks}
    {record record' : StreamRecord Digest} {e : Raised}
    (hparsed : parseNativeStream kind.name parsed = .ok reading)
    (h : gated lib kind reading maxAgeNs now record = (.error e, record')) :
    StreamRaised lib kind parsed maxAgeNs now e := by
  unfold gated at h
  cases reading with
  | error status => cases h
  | ok read =>
    cases read with
    | unavailable contended sequence attempts => cases h
    | stable attempts content =>
      refine .inr ⟨attempts, content, read_of_parseNativeStream hparsed, ?_⟩
      dsimp only at h
      cases hfingerprint : nativeEnvelopeFingerprint lib kind content with
      | error e' =>
        rw [hfingerprint] at h
        cases h
        exact .inl rfl
      | ok fingerprint =>
        rw [hfingerprint] at h
        dsimp only at h
        cases hrefusal : refusal record kind.name fingerprint content with
        | some status =>
          rw [hrefusal] at h
          cases h
        | none =>
          rw [hrefusal] at h
          exact .inr (status_of_freshnessGate (congrArg Prod.fst h))

/-- **What a call did**: both gates returned, each on its own record, or the call raised for its
header, its clocks or a stream. -/
theorem accept_outcome (lib : Library D Digest) (config : ReaderConfig) (call : AcceptCall D)
    (s : AdapterState Digest) :
    wp (accept lib config call)
      (fun v s' _ => ∃ now armRead handRead handStatus,
        readClocks call.nowUnixNs call.nowMonotonicNs = .ok now ∧
        armReading lib call = .ok armRead ∧ handReading call = .ok handRead ∧
        gated lib armKind armRead config.armMaxAgeNs now (s.streams .arm) =
          (.ok (v.arm, v.armStatus), s'.streams .arm) ∧
        gated lib handKind handRead config.handMaxAgeNs now (s.streams .hand) =
          (.ok (v.hand, handStatus), s'.streams .hand))
      (fun e s' _ => s.identityFault ≠ none ∨ HeaderFailed config call s s' e ∨
        ∃ now, readClocks call.nowUnixNs call.nowMonotonicNs = .ok now ∧
          (StreamRaised lib armKind (nativeArmReadFromMapping lib call.armRead)
              config.armMaxAgeNs now e ∨
            StreamRaised lib handKind (nativeHandReadFromMapping call.handRead)
              config.handMaxAgeNs now e)) s [] := by
  refine wp_accept ?_ ?_ ?_
  · intro m hm
    refine .inl ?_
    rw [hm]
    exact Option.some_ne_none m
  · intro _ e s' _ _ hfailed
    exact .inr (.inl hfailed)
  · intro now s' t' hkeeps hnow _
    unfold wp
    rw [acceptStreams_apply, ← hkeeps]
    cases harmReading : armReading lib call with
    | error e => exact .inr (.inr ⟨now, hnow, .inl (.inl (other_of_parseNativeStream harmReading))⟩)
    | ok armRead =>
      cases hhandReading : handReading call with
      | error e =>
        exact .inr (.inr ⟨now, hnow, .inr (.inl (other_of_parseNativeStream hhandReading))⟩)
      | ok handRead =>
        dsimp only
        rcases harm : gated lib armKind armRead config.armMaxAgeNs now (s'.streams .arm)
          with ⟨armResult, armRecord⟩
        rcases hhand : gated lib handKind handRead config.handMaxAgeNs now
          (s'.streams .hand) with ⟨handResult, handRecord⟩
        cases armResult with
        | error e =>
          exact .inr (.inr ⟨now, hnow, .inl (streamRaised_of_gated harmReading harm)⟩)
        | ok arm =>
          cases handResult with
          | error e =>
            exact .inr (.inr ⟨now, hnow, .inr (streamRaised_of_gated hhandReading hhand)⟩)
          | ok hand =>
            refine ⟨now, armRead, handRead, hand.2, hnow, rfl, rfl, ?_, ?_⟩
            · rw [harm, setStream_of_ne _ (by decide), setStream_same]
              rfl
            · rw [hhand, setStream_same]
              rfl

end FrankaDeploy.ViewerTelemetry.NativeAdapter
