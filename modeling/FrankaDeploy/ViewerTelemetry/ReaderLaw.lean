import FrankaDeploy.ViewerTelemetry.Reader

/-! # What the reader upholds

Each gate is a function of the mark of its own stream (`gated`), so a call of the reader is its
checks, two independent gates and the commit (`readMapping_apply`). A stream keeps the digest of the
last sample that raised its mark; with injective digests that is the sample itself, and everything
shown stays in order (`StreamUpheld`). The epochs of the stages are kept in the same way. -/

namespace FrankaDeploy.ViewerTelemetry

open FrankaDeploy.Foundation
open FrankaDeploy.Foundation.Program
open FrankaDeploy.Foundation.HighWater
open FrankaDeploy.PersistentSession (Matrix)

variable {D Digest C S : Type} [FloatArith D] [DecidableEq Digest] {lib : Library D Digest}
  {config : ReaderConfig}

/-! ## Injective digests -/

/-- **SHA-256 fingerprints are injective.** -/
structure DigestsInjective (lib : Library D Digest) : Prop where
  sample : ∀ a b d, lib.sampleDigest a = .ok d → lib.sampleDigest b = .ok d → a = b
  envelope : ∀ a b d, lib.envelopeDigest a = .ok d → lib.envelopeDigest b = .ok d → a = b

structure StreamKind.Faithful (kind : StreamKind D C) : Prop where
  key : ∀ a b, kind.key a = kind.key b → a = b

omit [FloatArith D] in
@[simp] theorem armKind_name : (armKind : StreamKind D (Matrix 4 D)).name = .arm := rfl

omit [FloatArith D] in
@[simp] theorem handKind_name : (handKind : StreamKind D HandAngles).name = .hand := rfl

omit [FloatArith D] in
theorem armKind_faithful : (armKind : StreamKind D (Matrix 4 D)).Faithful := by
  constructor
  intro a b h
  cases h
  rfl

omit [FloatArith D] in
theorem handKind_faithful : (handKind : StreamKind D HandAngles).Faithful := by
  constructor
  intro a b h
  cases h
  rfl

omit [FloatArith D] [DecidableEq Digest] in
theorem sampleFingerprint_injective (hdigest : DigestsInjective lib) {kind : StreamKind D C}
    (hkind : kind.Faithful) (a b : TelemetrySample C) (d : Digest)
    (ha : sampleFingerprint lib kind a = .ok d) (hb : sampleFingerprint lib kind b = .ok d) :
    a = b :=
  hkind.key a b (hdigest.sample _ _ d ha hb)

theorem replayStatus_eq_none {τ : Type} [DecidableEq τ] {previous : Option (HighWater τ)}
    {key : ℕ} {tag : τ} {back changed : String} :
    replayStatus previous key tag back changed = none ↔ Admits previous key tag := by
  cases previous with
  | none =>
    constructor
    · intro _
      exact admits_none key tag
    · intro _
      rfl
  | some mark =>
    unfold replayStatus Admits
    dsimp only
    constructor
    · intro h m hm
      cases hm
      by_cases hlt : key < mark.key
      · rw [if_pos hlt] at h
        cases h
      · rw [if_neg hlt] at h
        refine ⟨not_lt.mp hlt, fun heq => ?_⟩
        by_contra hne
        rw [if_pos ⟨heq, hne⟩] at h
        cases h
    · intro h
      obtain ⟨hle, htag⟩ := h mark rfl
      rw [if_neg (not_lt.mpr hle), if_neg]
      rintro ⟨heq, hne⟩
      exact hne (htag heq)

/-! ## A gate as a function -/

theorem ofExcept_ok_bind_apply {σ α β : Type} (a : α) (f : α → Program σ Empty Raised β) (s : σ) :
    ((ofExcept (.ok a) : Program σ Empty Raised α) >>= f) s = f a s := by
  show andThen (ret a) f s = _
  simp only [andThen, ret, List.nil_append]

def freshnessGate (D : Type) [FloatArith D] (name : StreamName) (shown : S)
    (sample : TelemetrySample C) (maxAgeNs : ℕ) (now : ViewerClocks) :
    Except Raised (Option S × String) := do
  let status ← freshnessStatus D sample name maxAgeNs now
  match status with
  | some status => return (none, status)
  | none => return (some shown, name.text ++ " fresh measured feedback")

theorem gateFreshness_apply {σ : Type} {name : StreamName} {shown : S}
    {sample : TelemetrySample C} {maxAgeNs : ℕ} {now : ViewerClocks} (s : σ) :
    gateFreshness D name shown sample maxAgeNs now s =
      (freshnessGate D name shown sample maxAgeNs now, s, []) := by
  unfold gateFreshness freshnessGate
  cases freshnessStatus D sample name maxAgeNs now with
  | error e => rfl
  | ok status =>
    cases status with
    | none => rfl
    | some status => rfl

theorem shown_of_freshnessGate {name : StreamName} {shown : S} {sample : TelemetrySample C}
    {maxAgeNs : ℕ} {now : ViewerClocks} {result : Option S × String}
    (h : freshnessGate D name shown sample maxAgeNs now = .ok result) :
    result.1 = none ∨ result.1 = some shown := by
  unfold freshnessGate at h
  obtain ⟨status, -, h⟩ := except_bind_eq_ok.mp h
  cases status with
  | some status =>
    cases h
    exact .inl rfl
  | none =>
    cases h
    exact .inr rfl

theorem status_of_freshnessGate {name : StreamName} {shown : S} {sample : TelemetrySample C}
    {maxAgeNs : ℕ} {now : ViewerClocks} {e : Raised}
    (h : freshnessGate D name shown sample maxAgeNs now = .error e) :
    freshnessStatus D sample name maxAgeNs now = .error e := by
  unfold freshnessGate at h
  cases hstatus : freshnessStatus D sample name maxAgeNs now with
  | error e' =>
    rw [hstatus] at h
    cases h
    rfl
  | ok status =>
    rw [hstatus] at h
    cases status with
    | none => cases h
    | some status => cases h

/-- **`_gate_stream` on the mark of its stream**: the result and the new mark. -/
def gated (lib : Library D Digest) (kind : StreamKind D C) (sample : Option (TelemetrySample C))
    (maxAgeNs : ℕ) (now : ViewerClocks) (mark : Option (HighWater Digest)) :
    Except Raised (Option (TelemetrySample C) × String) × Option (HighWater Digest) :=
  let name := kind.name
  match sample with
  | none => (.ok (none, name.text ++ " unavailable"), mark)
  | some sample =>
    match sampleFingerprint lib kind sample with
    | .error e => (.error e, mark)
    | .ok fingerprint =>
      match replayStatus mark sample.sampleSequence fingerprint
          (name.text ++ " sample_sequence moved backwards")
          (name.text ++ " changed under the same sample_sequence") with
      | some status => (.ok (none, status), mark)
      | none => (freshnessGate D name sample sample maxAgeNs now,
          raise mark sample.sampleSequence fingerprint)

omit [DecidableEq Digest] in
theorem setStream_self (s : ReaderState Digest) (name : StreamName) :
    s.setStream name (s.streamState name) = s := by
  unfold ReaderState.setStream
  rw [Function.update_eq_self]

omit [DecidableEq Digest] in
@[simp] theorem setStream_same (s : ReaderState Digest) (name : StreamName)
    (mark : Option (HighWater Digest)) : (s.setStream name mark).streamState name = mark := by
  unfold ReaderState.setStream
  exact Function.update_self ..

omit [DecidableEq Digest] in
theorem setStream_of_ne (s : ReaderState Digest) {name other : StreamName} (hne : name ≠ other)
    (mark : Option (HighWater Digest)) :
    (s.setStream other mark).streamState name = s.streamState name := by
  unfold ReaderState.setStream
  exact Function.update_of_ne hne ..

/-- **A gate reads and writes the mark of its stream** and nothing else. -/
theorem gateStream_apply {kind : StreamKind D C} {sample : Option (TelemetrySample C)}
    {maxAgeNs : ℕ} {now : ViewerClocks} (s : ReaderState Digest) :
    gateStream lib kind sample maxAgeNs now s =
      ((gated lib kind sample maxAgeNs now (s.streamState kind.name)).1,
        s.setStream kind.name (gated lib kind sample maxAgeNs now (s.streamState kind.name)).2,
        []) := by
  cases sample with
  | none =>
    unfold gateStream gated
    dsimp only
    rw [setStream_self]
    rfl
  | some sample =>
    unfold gateStream gated
    dsimp only
    cases sampleFingerprint lib kind sample with
    | error e =>
      dsimp only
      rw [setStream_self]
      rfl
    | ok fingerprint =>
      rw [ofExcept_ok_bind_apply, read_bind_apply]
      dsimp only
      cases replayStatus (s.streamState kind.name) sample.sampleSequence fingerprint _ _ with
      | some status =>
        dsimp only
        rw [setStream_self]
        rfl
      | none =>
        dsimp only
        rw [update_bind_apply, gateFreshness_apply]

/-! ## What a gate upholds -/

/-- **What a stream has shown**: the mark stands for the last sample that raised it, and nothing
goes back below it. -/
def StreamUpheld (lib : Library D Digest) (kind : StreamKind D C)
    (mark : Option (HighWater Digest)) (shown : List (TelemetrySample C)) : Prop :=
  ∃ ghost, Codes (fun sample d => sampleFingerprint lib kind sample = .ok d) mark ghost ∧
    Upheld TelemetrySample.sampleSequence id ghost shown

omit [FloatArith D] [DecidableEq Digest] in
theorem streamUpheld_initial (kind : StreamKind D C) : StreamUpheld lib kind none [] :=
  ⟨none, .none, upheld_nil⟩

/-- **A gate keeps its stream in order**, whatever it returns. -/
theorem streamUpheld_gated (hdigest : DigestsInjective lib) {kind : StreamKind D C}
    (hkind : kind.Faithful) (sample : Option (TelemetrySample C)) (maxAgeNs : ℕ)
    (now : ViewerClocks) {mark : Option (HighWater Digest)} {shown : List (TelemetrySample C)}
    (h : StreamUpheld lib kind mark shown) :
    StreamUpheld lib kind (gated lib kind sample maxAgeNs now mark).2 shown ∧
      ∀ result, (gated lib kind sample maxAgeNs now mark).1 = .ok result →
        StreamUpheld lib kind (gated lib kind sample maxAgeNs now mark).2
          (shown ++ result.1.toList) ∧
        ∀ visible, result.1 = some visible → sample = some visible := by
  have unchanged : ∀ (status : String) (result : Option (TelemetrySample C) × String),
      Except.ok (none, status) = (Except.ok result : Except Raised _) →
        StreamUpheld lib kind mark (shown ++ result.1.toList) ∧
          ∀ visible, result.1 = some visible → sample = some visible := by
    rintro status result hresult
    cases hresult
    refine ⟨?_, fun visible hvisible => by cases hvisible⟩
    rw [Option.toList_none, List.append_nil]
    exact h
  unfold gated
  cases sample with
  | none => exact ⟨h, unchanged _⟩
  | some sample =>
    dsimp only
    cases hfingerprint : sampleFingerprint lib kind sample with
    | error e => exact ⟨h, fun result hresult => by cases hresult⟩
    | ok fingerprint =>
      dsimp only
      cases hreplay : replayStatus mark sample.sampleSequence fingerprint _ _ with
      | some status => exact ⟨h, unchanged status⟩
      | none =>
        dsimp only
        obtain ⟨ghost, hcodes, hupheld⟩ := h
        have hadmits : Admits ghost sample.sampleSequence sample :=
          hcodes.admits (sampleFingerprint_injective hdigest hkind) hfingerprint
            (replayStatus_eq_none.mp hreplay)
        have hraised : StreamUpheld lib kind
            (raise mark sample.sampleSequence fingerprint) shown :=
          ⟨_, hcodes.raise sample.sampleSequence hfingerprint,
            hupheld.raise sample.sampleSequence sample⟩
        refine ⟨hraised, fun result hresult => ?_⟩
        rcases shown_of_freshnessGate hresult with hnone | hsome
        · rw [hnone, Option.toList_none, List.append_nil]
          exact ⟨hraised, fun visible hvisible => by cases hvisible⟩
        · rw [hsome]
          refine ⟨⟨_, hcodes.raise sample.sampleSequence hfingerprint,
            hupheld.show hadmits⟩, ?_⟩
          rintro visible hvisible
          exact hvisible

/-! ## A call -/

/-- **The checks of a call**, up to its gates. -/
def admission (lib : Library D Digest) (config : ReaderConfig) (call : ReadCall D Digest)
    (s : ReaderState Digest) :
    Except Raised (ContinuousTelemetryBundle D × Digest × ViewerClocks) := do
  let bundle ← continuousTelemetryFromMapping lib call.payload
  let digest ← call.rawDigest.elim (lib.payloadDigest call.payload) .ok
  let now ← checkBundle config bundle digest call.nowUnixNs call.nowMonotonicNs s
  return (bundle, digest, now)

theorem readMapping_apply (call : ReadCall D Digest) (s : ReaderState Digest) :
    readMapping lib config call s =
      match admission lib config call s with
      | .error e => (.error e, s, [])
      | .ok (bundle, digest, now) => gateBundle lib config bundle digest now s := by
  unfold readMapping admission
  cases continuousTelemetryFromMapping lib call.payload with
  | error e => rfl
  | ok bundle =>
    rw [ofExcept_ok_bind_apply]
    cases call.rawDigest.elim (lib.payloadDigest call.payload) .ok with
    | error e => rfl
    | ok digest =>
      rw [ofExcept_ok_bind_apply]
      unfold accept
      rw [read_bind_apply]
      simp only [except_ok_bind]
      cases checkBundle config bundle digest call.nowUnixNs call.nowMonotonicNs s with
      | error e => rfl
      | ok now => exact ofExcept_ok_bind_apply now _ s

theorem gateStream_bind_apply {β : Type} {kind : StreamKind D C}
    {sample : Option (TelemetrySample C)} {maxAgeNs : ℕ} {now : ViewerClocks}
    (f : Option (TelemetrySample C) × String → ReaderMethod Digest β) (s : ReaderState Digest) :
    (gateStream lib kind sample maxAgeNs now >>= f) s =
      match gated lib kind sample maxAgeNs now (s.streamState kind.name) with
      | (.error e, mark) => (.error e, s.setStream kind.name mark, [])
      | (.ok result, mark) => f result (s.setStream kind.name mark) := by
  show andThen (gateStream lib kind sample maxAgeNs now) f s = _
  unfold andThen
  rw [gateStream_apply]
  rcases gated lib kind sample maxAgeNs now (s.streamState kind.name) with ⟨result, mark⟩
  cases result with
  | error e => rfl
  | ok result =>
    dsimp only
    rcases f result (s.setStream kind.name mark) with ⟨r, s', w⟩
    rfl

/-- **The gates of a bundle**: an exception of a gate ends the call, otherwise it commits. -/
theorem gateBundle_apply (bundle : ContinuousTelemetryBundle D) (digest : Digest)
    (now : ViewerClocks) (s : ReaderState Digest) :
    gateBundle lib config bundle digest now s =
      match gated lib armKind bundle.arm config.armMaxAgeNs now (s.streamState .arm) with
      | (.error e, armMark) => (.error e, s.setStream .arm armMark, [])
      | (.ok arm, armMark) =>
        match gated lib handKind bundle.hand config.handMaxAgeNs now (s.streamState .hand) with
        | (.error e, handMark) =>
          (.error e, (s.setStream .arm armMark).setStream .hand handMark, [])
        | (.ok hand, handMark) =>
          (.ok ⟨bundle, arm.1, hand.1, arm.2, hand.2⟩,
            ((s.setStream .arm armMark).setStream .hand handMark).commit bundle digest,
            []) := by
  unfold gateBundle
  rw [gateStream_bind_apply, armKind_name]
  rcases gated lib armKind bundle.arm config.armMaxAgeNs now (s.streamState .arm)
    with ⟨result, armMark⟩
  cases result with
  | error e => rfl
  | ok arm =>
    dsimp only
    have hother : (s.setStream .arm armMark).streamState .hand = s.streamState .hand :=
      setStream_of_ne s (by decide) armMark
    rw [gateStream_bind_apply, handKind_name, hother]
    rcases gated lib handKind bundle.hand config.handMaxAgeNs now (s.streamState .hand)
      with ⟨result, handMark⟩
    cases result with
    | error e => rfl
    | ok hand => rfl

/-! ## What the checks guarantee -/

omit [FloatArith D] [DecidableEq Digest] in
theorem ok_of_raiseIf {α : Type} {c : Prop} [Decidable c] {e : Raised} {f : Unit → Except Raised α}
    {a : α} (h : (raiseIf c e >>= f) = .ok a) : ¬c ∧ f () = .ok a := by
  obtain ⟨_, hcheck, h⟩ := except_bind_eq_ok.mp h
  exact ⟨(ite_error_eq_ok.mp hcheck).1, h⟩

/-- **The stages seen**: the last epoch and its name. -/
def StageKept (s : ReaderState Digest) (mark : Option (HighWater String)) : Prop :=
  s.lastStageEpoch = mark.map HighWater.key ∧
    ∀ m, mark = some m → s.stageNames.lookup m.key = some m.tag

omit [FloatArith D] in
/-- **The checks admit the bundle's stage** and its identity. -/
theorem checkBundle_admits {bundle : ContinuousTelemetryBundle D} {digest : Digest}
    {nowUnixNs nowMonotonicNs : PyValue D} {s : ReaderState Digest} {now : ViewerClocks}
    {mark : Option (HighWater String)} (hkept : StageKept s mark)
    (h : checkBundle config bundle digest nowUnixNs nowMonotonicNs s = .ok now) :
    bundle.identity = config.expectedIdentity ∧
      Admits mark bundle.stage.epoch bundle.stage.name := by
  unfold checkBundle at h
  obtain ⟨hidentity, h⟩ := ok_of_raiseIf h
  iterate 2 obtain ⟨_, -, h⟩ := except_bind_eq_ok.mp h
  obtain ⟨-, h⟩ := ok_of_raiseIf h
  obtain ⟨-, h⟩ := ok_of_raiseIf h
  obtain ⟨hepoch, h⟩ := ok_of_raiseIf h
  obtain ⟨hname, h⟩ := ok_of_raiseIf h
  refine ⟨not_not.mp hidentity, ?_⟩
  intro m hm
  obtain ⟨hlast, hnames⟩ := hkept
  rw [hm, Option.map_some] at hlast
  rw [hlast] at hepoch
  refine ⟨by simpa using hepoch, fun heq => ?_⟩
  rw [heq, hnames m hm] at hname
  have hsame : m.tag = bundle.stage.name := by simpa using hname
  exact hsame.symm

omit [FloatArith D] [DecidableEq Digest] in
theorem stageKept_commit {s : ReaderState Digest} {mark : Option (HighWater String)}
    {bundle : ContinuousTelemetryBundle D} (digest : Digest)
    (hadmits : Admits mark bundle.stage.epoch bundle.stage.name) :
    StageKept (s.commit bundle digest) (raise mark bundle.stage.epoch bundle.stage.name) := by
  rw [raise_of_admits hadmits]
  refine ⟨rfl, ?_⟩
  intro m hm
  cases hm
  exact List.lookup_cons_self

/-! ## Every run -/

/-- **What a visibility shows belongs to its bundle.** -/
structure TelemetryVisibility.Sound (config : ReaderConfig) (v : TelemetryVisibility D) : Prop where
  identity : v.bundle.identity = config.expectedIdentity
  arm : ∀ sample, v.arm = some sample →
    v.bundle.arm = some sample ∧ sample.stageEpoch = v.bundle.stage.epoch
  hand : ∀ sample, v.hand = some sample →
    v.bundle.hand = some sample ∧ sample.stageEpoch = v.bundle.stage.epoch

def TelemetryVisibility.stageEpoch (v : TelemetryVisibility D) : ℕ := v.bundle.stage.epoch

def TelemetryVisibility.stageName (v : TelemetryVisibility D) : String := v.bundle.stage.name

/-- **What a reader upholds** about everything that it has returned. -/
structure ReaderUpheld (lib : Library D Digest) (config : ReaderConfig) (s : ReaderState Digest)
    (shown : List (TelemetryVisibility D)) : Prop where
  arm : StreamUpheld lib armKind (s.streamState .arm) (shown.filterMap TelemetryVisibility.arm)
  hand : StreamUpheld lib handKind (s.streamState .hand)
    (shown.filterMap TelemetryVisibility.hand)
  stage : ∃ mark, StageKept s mark ∧
    Upheld TelemetryVisibility.stageEpoch TelemetryVisibility.stageName mark shown
  sound : ∀ v ∈ shown, v.Sound config

omit [FloatArith D] [DecidableEq Digest] in
theorem readerUpheld_initial : ReaderUpheld lib config .initial [] where
  arm := streamUpheld_initial armKind
  hand := streamUpheld_initial handKind
  stage := ⟨none, ⟨rfl, fun m hm => by cases hm⟩, upheld_nil⟩
  sound := fun v hv => by cases hv

theorem filterMap_concat {α β : Type} (f : α → Option β) (l : List α) (a : α) :
    (l ++ [a]).filterMap f = l.filterMap f ++ (f a).toList := by
  rw [List.filterMap_append]
  cases hfa : f a with
  | none => simp [hfa]
  | some b => simp [hfa]

theorem admission_ok {call : ReadCall D Digest} {s : ReaderState Digest}
    {bundle : ContinuousTelemetryBundle D} {digest : Digest} {now : ViewerClocks}
    (h : admission lib config call s = .ok (bundle, digest, now)) :
    bundle.Coherent ∧
      checkBundle config bundle digest call.nowUnixNs call.nowMonotonicNs s = .ok now := by
  unfold admission at h
  obtain ⟨bundle', hbundle, h⟩ := except_bind_eq_ok.mp h
  obtain ⟨digest', -, h⟩ := except_bind_eq_ok.mp h
  obtain ⟨now', hnow, h⟩ := except_bind_eq_ok.mp h
  cases h
  exact ⟨bundle_coherent hbundle, hnow⟩

theorem readerUpheld_readMapping (hdigest : DigestsInjective lib) {s : ReaderState Digest}
    {shown : List (TelemetryVisibility D)} (h : ReaderUpheld lib config s shown)
    (call : ReadCall D Digest) :
    ReaderUpheld lib config (readMapping lib config call s).2.1
      (shown ++ (readMapping lib config call s).1.toOption.toList) := by
  rw [readMapping_apply]
  cases hadmission : admission lib config call s with
  | error e =>
    show ReaderUpheld lib config s (shown ++ [])
    rwa [List.append_nil]
  | ok fields =>
    obtain ⟨bundle, digest, now⟩ := fields
    obtain ⟨hcoherent, hcheck⟩ := admission_ok hadmission
    obtain ⟨mark, hkept, hstages⟩ := h.stage
    obtain ⟨hidentity, hadmits⟩ := checkBundle_admits hkept hcheck
    obtain ⟨harm, harmShown⟩ := streamUpheld_gated hdigest armKind_faithful bundle.arm
      config.armMaxAgeNs now h.arm
    obtain ⟨hhand, hhandShown⟩ := streamUpheld_gated hdigest handKind_faithful bundle.hand
      config.handMaxAgeNs now h.hand
    dsimp only
    rw [gateBundle_apply]
    generalize gated lib armKind bundle.arm config.armMaxAgeNs now (s.streamState .arm) =
      armOutcome at harm harmShown ⊢
    generalize gated lib handKind bundle.hand config.handMaxAgeNs now (s.streamState .hand) =
      handOutcome at hhand hhandShown ⊢
    obtain ⟨armResult, armMark⟩ := armOutcome
    obtain ⟨handResult, handMark⟩ := handOutcome
    cases armResult with
    | error e =>
      -- The arm gate raised: only its mark can have moved.
      show ReaderUpheld lib config (s.setStream .arm armMark) (shown ++ [])
      rw [List.append_nil]
      refine ⟨?_, ?_, ⟨mark, hkept, hstages⟩, h.sound⟩
      · rw [setStream_same]
        exact harm
      · rw [setStream_of_ne s (by decide)]
        exact h.hand
    | ok arm =>
      cases handResult with
      | error e =>
        show ReaderUpheld lib config ((s.setStream .arm armMark).setStream .hand handMark)
          (shown ++ [])
        rw [List.append_nil]
        refine ⟨?_, ?_, ⟨mark, hkept, hstages⟩, h.sound⟩
        · rw [setStream_of_ne _ (by decide), setStream_same]
          exact harm
        · rw [setStream_same]
          exact hhand
      | ok hand =>
        show ReaderUpheld lib config
          (((s.setStream .arm armMark).setStream .hand handMark).commit bundle digest)
          (shown ++ [⟨bundle, arm.1, hand.1, arm.2, hand.2⟩])
        obtain ⟨harmOk, harmSample⟩ := harmShown arm rfl
        obtain ⟨hhandOk, hhandSample⟩ := hhandShown hand rfl
        refine ⟨?_, ?_, ⟨_, stageKept_commit digest hadmits, ?_⟩, ?_⟩
        · rw [filterMap_concat]
          show StreamUpheld lib armKind
            (((s.setStream .arm armMark).setStream .hand handMark).streamState .arm) _
          rw [setStream_of_ne _ (by decide), setStream_same]
          exact harmOk
        · rw [filterMap_concat]
          show StreamUpheld lib handKind
            (((s.setStream .arm armMark).setStream .hand handMark).streamState .hand) _
          rw [setStream_same]
          exact hhandOk
        · exact hstages.show
            (a := (⟨bundle, arm.1, hand.1, arm.2, hand.2⟩ : TelemetryVisibility D)) hadmits
        · intro v hv
          rcases List.mem_append.mp hv with hv | hv
          · exact h.sound v hv
          · obtain rfl := List.mem_singleton.mp hv
            refine ⟨hidentity, fun sample hsample => ?_, fun sample hsample => ?_⟩
            · exact ⟨harmSample sample hsample,
                hcoherent.arm sample (harmSample sample hsample)⟩
            · exact ⟨hhandSample sample hsample,
                hcoherent.hand sample (hhandSample sample hsample)⟩

def returned {V : Type} (results : List (Except Raised V)) : List V :=
  results.filterMap Except.toOption

theorem returned_concat {V : Type} (results : List (Except Raised V)) (result : Except Raised V) :
    returned (results ++ [result]) = returned results ++ result.toOption.toList :=
  filterMap_concat Except.toOption results result

theorem readerUpheld_run (hdigest : DigestsInjective lib) (calls : List (ReadCall D Digest)) :
    ReaderUpheld lib config ((reader lib config).run .initial calls)
      (returned ((reader lib config).trace .initial calls)) := by
  refine (reader lib config).monitor_induction
    (P := fun s results => ReaderUpheld lib config s (returned results))
    readerUpheld_initial ?_ calls
  intro s results call h
  show ReaderUpheld lib config _ (returned (results ++ [_]))
  rw [returned_concat]
  exact readerUpheld_readMapping hdigest h call

/-! ## Independence -/

omit [FloatArith D] in
theorem clocks_of_checkBundle {bundle : ContinuousTelemetryBundle D} {digest : Digest}
    {nowUnixNs nowMonotonicNs : PyValue D} {s : ReaderState Digest} {now : ViewerClocks}
    (h : checkBundle config bundle digest nowUnixNs nowMonotonicNs s = .ok now) :
    nonnegativeInteger nowUnixNs "now_unix_ns" = .ok now.unixNs ∧
      nonnegativeInteger nowMonotonicNs "now_monotonic_ns" = .ok now.monotonicNs := by
  unfold checkBundle at h
  obtain ⟨-, h⟩ := ok_of_raiseIf h
  obtain ⟨nowWall, hwall, h⟩ := except_bind_eq_ok.mp h
  obtain ⟨nowMono, hmono, h⟩ := except_bind_eq_ok.mp h
  iterate 4 replace h := (ok_of_raiseIf h).2
  cases h
  exact ⟨hwall, hmono⟩

/-- **A call that returned** is what the two gates returned on the marks of their streams. -/
theorem gates_of_returned {call : ReadCall D Digest} {s s' : ReaderState Digest}
    {v : TelemetryVisibility D} {w : List Empty}
    (h : readMapping lib config call s = (.ok v, s', w)) :
    ∃ now : ViewerClocks, nonnegativeInteger call.nowUnixNs "now_unix_ns" = .ok now.unixNs ∧
      nonnegativeInteger call.nowMonotonicNs "now_monotonic_ns" = .ok now.monotonicNs ∧
      gated lib armKind v.bundle.arm config.armMaxAgeNs now (s.streamState .arm) =
        (.ok (v.arm, v.armStatus), s'.streamState .arm) ∧
      gated lib handKind v.bundle.hand config.handMaxAgeNs now (s.streamState .hand) =
        (.ok (v.hand, v.handStatus), s'.streamState .hand) := by
  rw [readMapping_apply] at h
  cases hadmission : admission lib config call s with
  | error e =>
    rw [hadmission] at h
    cases h
  | ok fields =>
    obtain ⟨bundle, digest, now⟩ := fields
    rw [hadmission] at h
    dsimp only at h
    obtain ⟨hwall, hmono⟩ := clocks_of_checkBundle (admission_ok hadmission).2
    rw [gateBundle_apply] at h
    rcases harm : gated lib armKind bundle.arm config.armMaxAgeNs now (s.streamState .arm)
      with ⟨armResult, armMark⟩
    rcases hhand : gated lib handKind bundle.hand config.handMaxAgeNs now
      (s.streamState .hand) with ⟨handResult, handMark⟩
    rw [harm, hhand] at h
    cases armResult with
    | error e => cases h
    | ok arm =>
      cases handResult with
      | error e => cases h
      | ok hand =>
        cases h
        refine ⟨now, hwall, hmono, ?_, ?_⟩
        · show gated lib armKind bundle.arm config.armMaxAgeNs now _ = (_,
            ((s.setStream .arm armMark).setStream .hand handMark).streamState .arm)
          rw [harm, setStream_of_ne _ (by decide), setStream_same]
        · show gated lib handKind bundle.hand config.handMaxAgeNs now _ = (_,
            ((s.setStream .arm armMark).setStream .hand handMark).streamState .hand)
          rw [hhand, setStream_same]

omit [FloatArith D] in
theorem clocks_unique {nowUnixNs nowMonotonicNs : PyValue D} {now now' : ViewerClocks}
    (hwall : nonnegativeInteger nowUnixNs "now_unix_ns" = .ok now.unixNs)
    (hmono : nonnegativeInteger nowMonotonicNs "now_monotonic_ns" = .ok now.monotonicNs)
    (hwall' : nonnegativeInteger nowUnixNs "now_unix_ns" = .ok now'.unixNs)
    (hmono' : nonnegativeInteger nowMonotonicNs "now_monotonic_ns" = .ok now'.monotonicNs) :
    now = now' := by
  obtain ⟨unixNs, monotonicNs⟩ := now
  obtain ⟨unixNs', monotonicNs'⟩ := now'
  rw [hwall] at hwall'
  rw [hmono] at hmono'
  cases hwall'
  cases hmono'
  rfl

/-- **A gate that raised**: the fingerprint or the text of an age could not be computed. -/
def GateRaised (lib : Library D Digest) (kind : StreamKind D C) (maxAgeNs : ℕ)
    (now : ViewerClocks) (sample : TelemetrySample C) (e : Raised) : Prop :=
  sampleFingerprint lib kind sample = .error e ∨
    freshnessStatus D sample kind.name maxAgeNs now = .error e

theorem gateRaised_of_gated {kind : StreamKind D C} {sample : Option (TelemetrySample C)}
    {maxAgeNs : ℕ} {now : ViewerClocks} {mark mark' : Option (HighWater Digest)} {e : Raised}
    (h : gated lib kind sample maxAgeNs now mark = (.error e, mark')) :
    ∃ found, sample = some found ∧ GateRaised lib kind maxAgeNs now found e := by
  unfold gated at h
  cases sample with
  | none => cases h
  | some sample =>
    refine ⟨sample, rfl, ?_⟩
    dsimp only at h
    cases hfingerprint : sampleFingerprint lib kind sample with
    | error e' =>
      rw [hfingerprint] at h
      cases h
      exact .inl hfingerprint
    | ok fingerprint =>
      rw [hfingerprint] at h
      dsimp only at h
      cases hreplay : replayStatus mark sample.sampleSequence fingerprint _ _ with
      | some status =>
        rw [hreplay] at h
        cases h
      | none =>
        rw [hreplay] at h
        exact .inr (status_of_freshnessGate (congrArg Prod.fst h))

/-- **A call that raised** was rejected and left the reader alone, or one of its gates raised. -/
theorem rejected_or_gateRaised {call : ReadCall D Digest} {s s' : ReaderState Digest} {e : Raised}
    {w : List Empty} (h : readMapping lib config call s = (.error e, s', w)) :
    s' = s ∨ ∃ bundle digest now, admission lib config call s = .ok (bundle, digest, now) ∧
      ((∃ sample, bundle.arm = some sample ∧
          GateRaised lib armKind config.armMaxAgeNs now sample e) ∨
        ∃ sample, bundle.hand = some sample ∧
          GateRaised lib handKind config.handMaxAgeNs now sample e) := by
  rw [readMapping_apply] at h
  cases hadmission : admission lib config call s with
  | error e' =>
    rw [hadmission] at h
    cases h
    exact .inl rfl
  | ok fields =>
    obtain ⟨bundle, digest, now⟩ := fields
    rw [hadmission] at h
    dsimp only at h
    rw [gateBundle_apply] at h
    rcases harm : gated lib armKind bundle.arm config.armMaxAgeNs now (s.streamState .arm)
      with ⟨armResult, armMark⟩
    rcases hhand : gated lib handKind bundle.hand config.handMaxAgeNs now
      (s.streamState .hand) with ⟨handResult, handMark⟩
    rw [harm, hhand] at h
    cases armResult with
    | error e' =>
      cases h
      exact .inr ⟨bundle, digest, now, rfl, .inl (gateRaised_of_gated harm)⟩
    | ok arm =>
      cases handResult with
      | error e' =>
        cases h
        exact .inr ⟨bundle, digest, now, rfl, .inr (gateRaised_of_gated hhand)⟩
      | ok hand => cases h

end FrankaDeploy.ViewerTelemetry
