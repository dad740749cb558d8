import FrankaDeploy.Foundation.Ieee754
import FrankaDeploy.ViewerTelemetry.AdapterLaw
import Mathlib.Data.Fintype.Pi

/-! # The contract of viewer telemetry

What the two readers guarantee over every history of calls, with arbitrary mappings and clocks: the
streams never go back, one stream does not touch the other, and a rejected bundle leaves the reader
alone. The JSON reader tells samples apart by their own content only, so one sample may be visible
in two bundles (`sample_in_two_bundles`); the native adapter binds the stage and the bundle too. -/

namespace FrankaDeploy.ViewerTelemetry

open FrankaDeploy.Foundation
open FrankaDeploy.Foundation.HighWater
open FrankaDeploy.PersistentSession (Matrix)

variable {D Digest : Type} [FloatArith D] [DecidableEq Digest]

/-! ## The JSON reader -/

/-- **What a reader has shown is in order**: sample sequences and stage epochs never decrease, one
sequence has one sample and one epoch has one name. -/
structure ReaderInOrder (config : ReaderConfig) (shown : List (TelemetryVisibility D)) : Prop where
  arm : (shown.filterMap TelemetryVisibility.arm).Pairwise
    (Follows TelemetrySample.sampleSequence id)
  hand : (shown.filterMap TelemetryVisibility.hand).Pairwise
    (Follows TelemetrySample.sampleSequence id)
  stage : shown.Pairwise (Follows TelemetryVisibility.stageEpoch TelemetryVisibility.stageName)
  sound : ∀ v ∈ shown, v.Sound config

/-- **The streams of an accepted bundle are independent**: what a call does with one of them is
decided by that stream's sample and mark and by the clocks. -/
structure ReaderIndependent (lib : Library D Digest) (config : ReaderConfig) : Prop where
  arm : ∀ (call₁ call₂ : ReadCall D Digest) (s₁ s₂ s₁' s₂' : ReaderState Digest) v₁ v₂ w₁ w₂,
    readMapping lib config call₁ s₁ = (.ok v₁, s₁', w₁) →
    readMapping lib config call₂ s₂ = (.ok v₂, s₂', w₂) →
    call₁.nowUnixNs = call₂.nowUnixNs → call₁.nowMonotonicNs = call₂.nowMonotonicNs →
    v₁.bundle.arm = v₂.bundle.arm → s₁.streamState .arm = s₂.streamState .arm →
    v₁.arm = v₂.arm ∧ v₁.armStatus = v₂.armStatus ∧
      s₁'.streamState .arm = s₂'.streamState .arm
  hand : ∀ (call₁ call₂ : ReadCall D Digest) (s₁ s₂ s₁' s₂' : ReaderState Digest) v₁ v₂ w₁ w₂,
    readMapping lib config call₁ s₁ = (.ok v₁, s₁', w₁) →
    readMapping lib config call₂ s₂ = (.ok v₂, s₂', w₂) →
    call₁.nowUnixNs = call₂.nowUnixNs → call₁.nowMonotonicNs = call₂.nowMonotonicNs →
    v₁.bundle.hand = v₂.bundle.hand → s₁.streamState .hand = s₂.streamState .hand →
    v₁.hand = v₂.hand ∧ v₁.handStatus = v₂.handStatus ∧
      s₁'.streamState .hand = s₂'.streamState .hand

/-- **A rejected bundle leaves the reader alone**: when a call raises, either nothing has changed or
the bundle had passed every check and one of its gates raised. -/
def RejectionLeavesReader (lib : Library D Digest) (config : ReaderConfig) : Prop :=
  ∀ (call : ReadCall D Digest) (s s' : ReaderState Digest) e w,
    readMapping lib config call s = (.error e, s', w) →
    s' = s ∨ ∃ bundle digest now, admission lib config call s = .ok (bundle, digest, now) ∧
      ((∃ sample, bundle.arm = some sample ∧
          GateRaised lib armKind config.armMaxAgeNs now sample e) ∨
        ∃ sample, bundle.hand = some sample ∧
          GateRaised lib handKind config.handMaxAgeNs now sample e)

theorem readerInOrder {lib : Library D Digest} (config : ReaderConfig)
    (hdigest : DigestsInjective lib) (calls : List (ReadCall D Digest)) :
    ReaderInOrder config (returned ((reader lib config).trace .initial calls)) := by
  have hrun : ReaderUpheld lib config _ _ := readerUpheld_run hdigest calls
  obtain ⟨armGhost, -, harm⟩ := hrun.arm
  obtain ⟨handGhost, -, hhand⟩ := hrun.hand
  obtain ⟨mark, -, hstage⟩ := hrun.stage
  exact ⟨harm.ordered, hhand.ordered, hstage.ordered, hrun.sound⟩

theorem readerIndependent (lib : Library D Digest) (config : ReaderConfig) :
    ReaderIndependent lib config := by
  constructor
  · intro call₁ call₂ s₁ s₂ s₁' s₂' v₁ v₂ w₁ w₂ h₁ h₂ hwall hmono hsample hmark
    obtain ⟨now₁, hwall₁, hmono₁, harm₁, -⟩ := gates_of_returned h₁
    obtain ⟨now₂, hwall₂, hmono₂, harm₂, -⟩ := gates_of_returned h₂
    rw [← hwall] at hwall₂
    rw [← hmono] at hmono₂
    obtain rfl := clocks_unique hwall₁ hmono₁ hwall₂ hmono₂
    rw [hsample, hmark, harm₂] at harm₁
    injection harm₁ with hresult hstate
    injection hresult with hresult
    injection hresult with harm hstatus
    exact ⟨harm.symm, hstatus.symm, hstate.symm⟩
  · intro call₁ call₂ s₁ s₂ s₁' s₂' v₁ v₂ w₁ w₂ h₁ h₂ hwall hmono hsample hmark
    obtain ⟨now₁, hwall₁, hmono₁, -, hhand₁⟩ := gates_of_returned h₁
    obtain ⟨now₂, hwall₂, hmono₂, -, hhand₂⟩ := gates_of_returned h₂
    rw [← hwall] at hwall₂
    rw [← hmono] at hmono₂
    obtain rfl := clocks_unique hwall₁ hmono₁ hwall₂ hmono₂
    rw [hsample, hmark, hhand₂] at hhand₁
    injection hhand₁ with hresult hstate
    injection hresult with hresult
    injection hresult with hhand hstatus
    exact ⟨hhand.symm, hstatus.symm, hstate.symm⟩

/-! ## The native adapter -/

namespace NativeAdapter

/-- **What an adapter has shown is in order**: sequences and stage epochs never decrease, one
sequence has one sample with one stage and one bundle, and one epoch has one name. -/
structure AdapterInOrder (config : ReaderConfig) (shown : List (NativeTelemetryVisibility D)) :
    Prop where
  arm : (shown.filterMap NativeTelemetryVisibility.arm).Pairwise (Follows sequenceOf id)
  armStage : (shown.filterMap NativeTelemetryVisibility.arm).Pairwise
    (Follows epochOf stageNameOf)
  hand : (shown.filterMap NativeTelemetryVisibility.hand).Pairwise (Follows sequenceOf id)
  handStage : (shown.filterMap NativeTelemetryVisibility.hand).Pairwise
    (Follows epochOf stageNameOf)
  /-- Each visibility is of the expected run, its samples carry the epochs of their stages, and
  coherent streams have one stage and compatible bundles. -/
  sound : ∀ v ∈ shown, Sound config v

/-- **The streams of a call are independent**: what a call does with one of them is decided by that
stream's reading and record and by the clocks. -/
structure AdapterIndependent (lib : Library D Digest) (config : ReaderConfig) : Prop where
  arm : ∀ (call₁ call₂ : AcceptCall D) (s₁ s₂ s₁' s₂' : AdapterState Digest) v₁ v₂ w₁ w₂,
    accept lib config call₁ s₁ = (.ok v₁, s₁', w₁) →
    accept lib config call₂ s₂ = (.ok v₂, s₂', w₂) →
    call₁.nowUnixNs = call₂.nowUnixNs → call₁.nowMonotonicNs = call₂.nowMonotonicNs →
    call₁.armRead = call₂.armRead → s₁.streams .arm = s₂.streams .arm →
    v₁.arm = v₂.arm ∧ v₁.armStatus = v₂.armStatus ∧ s₁'.streams .arm = s₂'.streams .arm
  hand : ∀ (call₁ call₂ : AcceptCall D) (s₁ s₂ s₁' s₂' : AdapterState Digest) v₁ v₂ w₁ w₂,
    accept lib config call₁ s₁ = (.ok v₁, s₁', w₁) →
    accept lib config call₂ s₂ = (.ok v₂, s₂', w₂) →
    call₁.nowUnixNs = call₂.nowUnixNs → call₁.nowMonotonicNs = call₂.nowMonotonicNs →
    call₁.handRead = call₂.handRead → s₁.streams .hand = s₂.streams .hand →
    v₁.hand = v₂.hand ∧ s₁'.streams .hand = s₂'.streams .hand

/-- **A malformed reading hides its stream**: a call raises only for a latched fault, for its header
or its clocks, or for an exception of a stream that no handler catches. -/
def MalformedHides (lib : Library D Digest) (config : ReaderConfig) : Prop :=
  ∀ (call : AcceptCall D) (s s' : AdapterState Digest) e w,
    accept lib config call s = (.error e, s', w) →
    s.identityFault ≠ none ∨ HeaderFailed config call s s' e ∨
      ∃ now, readClocks call.nowUnixNs call.nowMonotonicNs = .ok now ∧
        (StreamRaised lib armKind (nativeArmReadFromMapping lib call.armRead)
            config.armMaxAgeNs now e ∨
          StreamRaised lib handKind (nativeHandReadFromMapping call.handRead)
            config.handMaxAgeNs now e)

/-- **Nothing is visible from an identity fault on.** -/
def FaultIsFinal (lib : Library D Digest) (config : ReaderConfig) : Prop :=
  ∀ (s : AdapterState Digest) (call : AcceptCall D) (later : List (AcceptCall D)),
    s.identityFault ≠ none ∨ IdentityFault config call s →
    ∃ message, ∀ result ∈ (adapter lib config).trace s (call :: later),
      result = .error (identityError message)

theorem adapterInOrder {lib : Library D Digest} (config : ReaderConfig)
    (hdigest : DigestsInjective lib) (calls : List (AcceptCall D)) :
    AdapterInOrder config (returned ((adapter lib config).trace .initial calls)) := by
  have hrun : AdapterUpheld lib config _ _ := adapterUpheld_run hdigest calls
  obtain ⟨armGhost, -, -, harm, harmStage⟩ := hrun.arm
  obtain ⟨handGhost, -, -, hhand, hhandStage⟩ := hrun.hand
  exact ⟨harm.ordered, harmStage.ordered, hhand.ordered, hhandStage.ordered, hrun.sound⟩

theorem gates_of_returned {lib : Library D Digest} {config : ReaderConfig} {call : AcceptCall D}
    {s s' : AdapterState Digest} {v : NativeTelemetryVisibility D} {w : List Empty}
    (h : accept lib config call s = (.ok v, s', w)) :
    ∃ now armRead handRead handStatus,
      readClocks call.nowUnixNs call.nowMonotonicNs = .ok now ∧
      armReading lib call = .ok armRead ∧ handReading call = .ok handRead ∧
      gated lib armKind armRead config.armMaxAgeNs now (s.streams .arm) =
        (.ok (v.arm, v.armStatus), s'.streams .arm) ∧
      gated lib handKind handRead config.handMaxAgeNs now (s.streams .hand) =
        (.ok (v.hand, handStatus), s'.streams .hand) := by
  have houtcome := accept_outcome lib config call s
  unfold Program.wp at houtcome
  rw [h] at houtcome
  exact houtcome

theorem adapterIndependent (lib : Library D Digest) (config : ReaderConfig) :
    AdapterIndependent lib config := by
  constructor
  · intro call₁ call₂ s₁ s₂ s₁' s₂' v₁ v₂ w₁ w₂ h₁ h₂ hwall hmono hread hrecord
    obtain ⟨now₁, arm₁, -, -, hnow₁, hparse₁, -, harm₁, -⟩ := gates_of_returned h₁
    obtain ⟨now₂, arm₂, -, -, hnow₂, hparse₂, -, harm₂, -⟩ := gates_of_returned h₂
    rw [hwall, hmono, hnow₂] at hnow₁
    obtain rfl := Except.ok.inj hnow₁
    unfold armReading at hparse₁ hparse₂
    rw [hread, hparse₂] at hparse₁
    obtain rfl := Except.ok.inj hparse₁
    rw [hrecord, harm₂] at harm₁
    injection harm₁ with hresult hstate
    injection hresult with hresult
    injection hresult with harm hstatus
    exact ⟨harm.symm, hstatus.symm, hstate.symm⟩
  · intro call₁ call₂ s₁ s₂ s₁' s₂' v₁ v₂ w₁ w₂ h₁ h₂ hwall hmono hread hrecord
    obtain ⟨now₁, -, hand₁, _, hnow₁, -, hparse₁, -, hhand₁⟩ := gates_of_returned h₁
    obtain ⟨now₂, -, hand₂, _, hnow₂, -, hparse₂, -, hhand₂⟩ := gates_of_returned h₂
    rw [hwall, hmono, hnow₂] at hnow₁
    obtain rfl := Except.ok.inj hnow₁
    unfold handReading at hparse₁ hparse₂
    rw [hread, hparse₂] at hparse₁
    obtain rfl := Except.ok.inj hparse₁
    rw [hrecord, hhand₂] at hhand₁
    injection hhand₁ with hresult hstate
    injection hresult with hresult
    injection hresult with hhand _
    exact ⟨hhand.symm, hstate.symm⟩

theorem malformedHides (lib : Library D Digest) (config : ReaderConfig) :
    MalformedHides lib config := by
  intro call s s' e w h
  have houtcome := accept_outcome lib config call s
  unfold Program.wp at houtcome
  rw [h] at houtcome
  exact houtcome

theorem faultIsFinal (lib : Library D Digest) (config : ReaderConfig) :
    FaultIsFinal lib config := by
  intro s call later hfault
  cases hlatched : s.identityFault with
  | some message => exact ⟨message, trace_of_fault hlatched (call :: later)⟩
  | none =>
    rcases hfault with hfault | hfault
    · exact absurd hlatched hfault
    · obtain ⟨message, hresult, hstate⟩ := fault_of_identityFault lib hlatched hfault
      refine ⟨message, ?_⟩
      intro result hmem
      rw [Machine.trace_cons] at hmem
      rcases List.mem_append.mp hmem with hhead | htail
      · rw [List.mem_singleton.mp hhead]
        exact hresult
      · exact trace_of_fault hstate later result htail

end NativeAdapter

/-! ## Digests and payloads of a run -/

deriving instance DecidableEq for SampleKey

inductive PlainDigest where
  | payload (bundleSequence : ℤ)
  | sample (key : SampleKey Binary64)
  | envelope (sample : PlainDigest) (stageName : String)
      (stageEpoch stageNameHash64 bundleSequence : ℕ)
deriving DecidableEq

def bundleSequenceOf (payload : PyValue Binary64) : ℤ :=
  match payload with
  | .mapping entries =>
    match item entries "bundle_sequence" with
    | .int n => n
    | _ => 0
  | _ => 0

def plainLibrary : Library Binary64 PlainDigest where
  asarray _ := .error (valueError "no arrays")
  str _ := ""
  float _ := .error (valueError "no numbers")
  det rotation := rotation 0 0
  gram rotation := rotation
  payloadDigest payload := .ok (.payload (bundleSequenceOf payload))
  sampleDigest key := .ok (.sample key)
  envelopeDigest key := .ok (.envelope key.sampleSha256 key.stageName key.stageEpoch
    key.stageNameHash64 key.bundleSequence)

theorem plainLibrary_injective : DigestsInjective plainLibrary := by
  constructor
  · rintro a b d ha hb
    cases ha
    injection hb with hb
    injection hb with hb
    exact hb.symm
  · rintro ⟨sampleA, nameA, epochA, hashA, bundleA⟩ ⟨sampleB, nameB, epochB, hashB, bundleB⟩ d ha hb
    cases ha
    injection hb with hb
    injection hb with hsample hname hepoch hhash hbundle
    dsimp only at hsample hname hepoch hhash hbundle
    rw [hsample, hname, hepoch, hhash, hbundle]

def repeatedDigest (digit : Char) : String := String.ofList (List.replicate 64 digit)

def runIdentity (digit : Char) : TelemetryIdentity where
  runUuid := "123e4567-e89b-42d3-a456-426614174000"
  executionContractSha256 := repeatedDigest 'a'
  sourceSnapshotSha256 := repeatedDigest 'b'
  controlConfigSha256 := repeatedDigest digit
  calibrationSha256 := repeatedDigest 'd'
  producerBuildSha256 := repeatedDigest 'e'

def identityMapping (identity : TelemetryIdentity) : PyValue Binary64 :=
  .mapping
    [("run_uuid", .str identity.runUuid),
      ("execution_contract_sha256", .str identity.executionContractSha256),
      ("source_snapshot_sha256", .str identity.sourceSnapshotSha256),
      ("control_config_sha256", .str identity.controlConfigSha256),
      ("calibration_sha256", .str identity.calibrationSha256),
      ("producer_build_sha256", .str identity.producerBuildSha256)]

def handPayload (identity : TelemetryIdentity) (bundleSequence : ℤ) : PyValue Binary64 :=
  .mapping
    [("schema_version", .int 2), ("contract", .str "fr3_rh56_continuous_viewer_v1"),
      ("identity", identityMapping identity), ("bundle_sequence", .int bundleSequence),
      ("published_unix_ns", .int 1000), ("published_monotonic_ns", .int 1000),
      ("stage", .mapping [("name", .str "hold"), ("epoch", .int 1)]),
      ("commit", .mapping
        [("identity", identityMapping identity), ("bundle_sequence", .int bundleSequence),
          ("stage_epoch", .int 1)]),
      ("hand", .mapping
        [("identity", identityMapping identity), ("bundle_sequence", .int bundleSequence),
          ("stage_epoch", .int 1), ("sample_sequence", .int 7),
          ("timestamp_unix_ns", .int 900), ("timestamp_monotonic_ns", .int 900),
          ("measurement_kind", .str handMeasurementKind), ("source", .str handSource),
          ("angles", .list (List.replicate 6 (.int 1000)))])]

def handCall (identity : TelemetryIdentity) (bundleSequence : ℤ) :
    ReadCall Binary64 PlainDigest where
  payload := handPayload identity bundleSequence
  nowUnixNs := .int 1000
  nowMonotonicNs := .int 1000
  rawDigest := none

def viewerConfig : ReaderConfig := ⟨runIdentity 'c', 10 ^ 9, 10 ^ 9⟩

def viewerCalls : List (ReadCall Binary64 PlainDigest) :=
  [handCall (runIdentity 'f') 1, handCall (runIdentity 'c') 1, handCall (runIdentity 'c') 2]

def shownHand (result : Except Raised (TelemetryVisibility Binary64)) :
    Except Raised (Option ℕ × ℕ) :=
  result.map fun v => (v.hand.map TelemetrySample.sampleSequence, v.bundle.bundleSequence)

theorem shownHand_viewerCalls :
    ((reader plainLibrary viewerConfig).trace .initial viewerCalls).map shownHand =
      [.error (identityError
          "continuous telemetry run UUID/artifact hashes do not match this viewer"),
        .ok (some 7, 1), .ok (some 7, 2)] := by
  decide +kernel

theorem exists_returned (results : List (Except Raised (TelemetryVisibility Binary64)))
    (sequence bundleSequence : ℕ)
    (h : .ok (some sequence, bundleSequence) ∈ results.map shownHand) :
    ∃ v ∈ returned results, ∃ sample, v.hand = some sample ∧
      sample.sampleSequence = sequence ∧ v.bundle.bundleSequence = bundleSequence := by
  obtain ⟨result, hresult, hshown⟩ := List.mem_map.mp h
  cases result with
  | error e => cases hshown
  | ok v =>
    injection hshown with hshown
    injection hshown with hhand hbundle
    obtain ⟨sample, hsample, hsequence⟩ := Option.map_eq_some_iff.mp hhand
    refine ⟨v, ?_, sample, hsample, hsequence, hbundle⟩
    exact List.mem_filterMap.mpr ⟨.ok v, hresult, rfl⟩

/-- **One sample may be visible in two bundles**, also after a bundle of another run. -/
theorem sample_in_two_bundles :
    DigestsInjective plainLibrary ∧
    ¬∀ v₁ ∈ returned ((reader plainLibrary viewerConfig).trace .initial viewerCalls),
      ∀ v₂ ∈ returned ((reader plainLibrary viewerConfig).trace .initial viewerCalls),
      ∀ a b, v₁.hand = some a → v₂.hand = some b → a.sampleSequence = b.sampleSequence →
        v₁.bundle.bundleSequence = v₂.bundle.bundleSequence := by
  refine ⟨plainLibrary_injective, ?_⟩
  intro hsame
  obtain ⟨v₁, hv₁, a, ha, hsequence₁, hbundle₁⟩ := exists_returned
    ((reader plainLibrary viewerConfig).trace .initial viewerCalls) 7 1 (by rw [shownHand_viewerCalls]; decide)
  obtain ⟨v₂, hv₂, b, hb, hsequence₂, hbundle₂⟩ := exists_returned
    ((reader plainLibrary viewerConfig).trace .initial viewerCalls) 7 2 (by rw [shownHand_viewerCalls]; decide)
  have hbundles := hsame v₁ hv₁ v₂ hv₂ a b ha hb (hsequence₁.trans hsequence₂.symm)
  omega

/-! ## The contract -/

/-- **Viewer telemetry never goes back.** With injective digests both readers show every stream in
order over every history of calls. Neither stream touches the other. A bundle that the JSON reader
rejects leaves it alone, and after an identity fault the native adapter shows nothing. -/
theorem viewer_telemetry_never_goes_back (lib : Library D Digest) (config : ReaderConfig)
    (hdigest : DigestsInjective lib) :
    (∀ calls : List (ReadCall D Digest),
      ReaderInOrder config (returned ((reader lib config).trace .initial calls))) ∧
    ReaderIndependent lib config ∧ RejectionLeavesReader lib config ∧
    (∀ calls : List (NativeAdapter.AcceptCall D), NativeAdapter.AdapterInOrder config
      (returned ((NativeAdapter.adapter lib config).trace .initial calls))) ∧
    NativeAdapter.AdapterIndependent lib config ∧ NativeAdapter.MalformedHides lib config ∧
    NativeAdapter.FaultIsFinal lib config := by
  refine ⟨readerInOrder config hdigest, readerIndependent lib config, ?_,
    NativeAdapter.adapterInOrder config hdigest, NativeAdapter.adapterIndependent lib config,
    NativeAdapter.malformedHides lib config, NativeAdapter.faultIsFinal lib config⟩
  intro call s s' e w h
  exact rejected_or_gateRaised h

theorem viewer_calls_in_order :
    ((reader plainLibrary viewerConfig).trace .initial viewerCalls).map shownHand =
      [.error (identityError
          "continuous telemetry run UUID/artifact hashes do not match this viewer"),
        .ok (some 7, 1), .ok (some 7, 2)] ∧
    ReaderInOrder viewerConfig
      (returned ((reader plainLibrary viewerConfig).trace .initial viewerCalls)) :=
  ⟨shownHand_viewerCalls,
    (viewer_telemetry_never_goes_back plainLibrary viewerConfig plainLibrary_injective).1
      viewerCalls⟩

end FrankaDeploy.ViewerTelemetry
