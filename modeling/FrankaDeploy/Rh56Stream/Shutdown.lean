import FrankaDeploy.Foundation.Program
import FrankaDeploy.Rh56Stream.Stream

/-! # The shutdown of the hand stream

`_disable` and `_verify_post_release_stop`: the hold in place, the release of all six axes, the idle
window, the restored settings and the last release. What the hand answers is in a `ShutdownInput`. -/

namespace FrankaDeploy.Rh56Stream

open FrankaDeploy.Foundation FrankaDeploy.Foundation.Program

def rh56Error (message : String) : PyException := ⟨.ordinary, "RH56Error", message⟩

/-- **What the hand answers** to the operations of a shutdown. -/
structure ShutdownInput where
  actual : Except PyException Targets
  holdWrite : Except PyException Unit
  holdReadback : Except PyException Targets
  firstWrite : Except PyException Unit
  firstReadback : Except PyException Targets
  samples : Fin 5 → Except PyException StopSample
  reassertWrite : Except PyException Unit
  reassertReadback : Except PyException Targets
  speedWrite : Except PyException Unit
  forceWrite : Except PyException Unit
  finalWrite : Except PyException Unit
  finalReadback : Except PyException Targets

/-- `original_speeds` and `original_forces`. -/
structure Originals where
  speeds : Option Targets
  forces : Option Targets

/-! ## The idle window -/

def span (values : List ℤ) : ℤ := values.max?.getD 0 - values.min?.getD 0

def stillMoving (verification : List StopSample) (joint : Fin 6) : Bool :=
  decide (span (verification.map fun sample => sample.angles joint) > 2) ||
    decide (span (verification.map fun sample => sample.positions joint) > 3)

def StopSample.check (sample : StopSample) : Except PyException Unit :=
  if ∃ joint, sample.errors joint ≠ 0 then
    .error (rh56Error "post-release actuator fault remains")
  else if ¬∀ joint, sample.statuses joint = 2 ∨ sample.statuses joint = 255 then
    .error (rh56Error "post-release status is not idle")
  else if ∃ joint, |sample.currents joint| > 100 then
    .error (rh56Error "post-release per-axis current is not idle")
  else if ((List.finRange 6).map fun joint => |sample.currents joint|).sum > 200 then
    .error (rh56Error "post-release total current is not idle")
  else if ∃ joint, sample.temperatures joint ≥ 60 then
    .error (rh56Error "post-release actuator temperature is unsafe")
  else .ok ()

def checkIdle (verification : List StopSample) : Except PyException Unit :=
  match (List.finRange 6).find? (stillMoving verification) with
  | some joint =>
    .error (rh56Error ("post-release " ++ joints joint ++ " feedback is still moving"))
  | none => verification.forM StopSample.check

abbrev Shutdown (α : Type) : Type := Program Shared StreamEvent PyException α

variable (cal : PipelineCalibration) (selected : Fin 6 → Bool) (input : ShutdownInput)

/-- **`_verify_post_release_stop`.** -/
def verifyPostReleaseStop : Shutdown Unit := do
  let samples ← ofExcept ((List.finRange 5).mapM input.samples)
  ofExcept (checkIdle (samples.drop 2))
  update fun s => { s with physicalStopVerified := true }
  emit (.idleVerified (samples.drop 2))

/-! ## The release -/

/-- A write of `ANGLE_SET` = -1 on all axes, and its readback. -/
def release (write : Except PyException Unit) (readback : Except PyException Targets) :
    Shutdown Targets := do
  emit (.write .angleSet disabled .setting)
  ofExcept write
  let targets ← ofExcept readback
  emit (.angleSetRead targets)
  update fun s => { s with finalAngleTargets := some targets }
  ret targets

def holdInPlace : Shutdown Unit := do
  let actual ← ofExcept input.actual
  check (¬∀ joint, 0 ≤ actual joint ∧ actual joint ≤ 1000)
    (rh56Error "invalid actual angles during shutdown")
  let hold ← ofExcept ((selectedCommandsFromActual cal selected actual).mapError
    (PyError.raised "RH56Error"))
  emit (.write .angleSet hold .hold)
  ofExcept input.holdWrite
  let readback ← ofExcept input.holdReadback
  check (readback ≠ hold) (rh56Error "stop-in-place hold readback mismatch")

def reassert (stop : PyException) : Shutdown Unit := do
  match ← attempt (release input.reassertWrite input.reassertReadback) with
  | .error e =>
    fail (rh56Error ("physical stop verification failed and release reassertion also failed: stop="
      ++ stop.message ++ "; reassert=" ++ e.message))
  | .ok _ => fail (rh56Error ("physical stop verification failed: " ++ stop.message))

def restore (register : Register) (what : String) (original : Option Targets)
    (write : Except PyException Unit) : Shutdown (List String) :=
  match original with
  | none => ret []
  | some values => do
    emit (.write register values .setting)
    match write with
    | .ok () => ret []
    | .error e => ret [what ++ " restore failed: " ++ e.message]

/-- What is done only when `c` holds, and what its failure adds to the reason of the stop. -/
def degraded (c : Bool) (what : String) (m : Shutdown Unit) : Shutdown (List String) :=
  if c then do
    match ← attempt m with
    | .ok () => ret []
    | .error e => ret [what ++ e.message]
  else ret []

/-- `_disable` after the hold: the release, the idle window, the settings, and the last release. -/
def releaseAndRestore (originals : Originals) (held : List String) : Shutdown Unit := do
  let first ← release input.firstWrite input.firstReadback
  check (first ≠ disabled) (rh56Error "failed to verify ANGLE_SET=-1 before settings restore")
  match ← attempt (verifyPostReleaseStop input) with
  | .error stop => reassert input stop
  | .ok () =>
    let speeds ← restore .speedSet "speed" originals.speeds input.speedWrite
    let forces ← restore .forceSet "force" originals.forces input.forceWrite
    let final ← release input.finalWrite input.finalReadback
    check (final ≠ disabled) (rh56Error "failed to verify final ANGLE_SET=-1")
    let errors := held ++ speeds ++ forces
    update fun s =>
      { s with
        stopReason := if errors = [] then s.stopReason
          else s.stopReason ++ "; " ++ "; ".intercalate errors }

/-- **`_disable`.** -/
def disable (stopInPlace : Bool) (originals : Originals) : Shutdown Unit := do
  let held ← degraded stopInPlace "stop-in-place hold failed: " (holdInPlace cal selected input)
  releaseAndRestore input originals held

/-! ## What a shutdown leaves alone -/

/-- The events of a shutdown after the hold: `ANGLE_SET` is only released. -/
def StreamEvent.ofRelease : StreamEvent → Bool
  | .write .angleSet values .setting => decide (values = disabled)
  | .write _ _ .setting | .angleSetRead _ | .idleVerified _ => true
  | _ => false

/-- **A relation that a shutdown does not touch** after the hold: it speaks about neither its events
nor what it changes. -/
structure Untouched (I : Shared → List StreamEvent → Prop) : Prop where
  event : ∀ s t event, event.ofRelease = true → I s t → I s (t ++ [event])
  readback : ∀ s t targets, I s t → I { s with finalAngleTargets := some targets } t
  verified : ∀ s t, I s t → I { s with physicalStopVerified := true } t
  reason : ∀ s t text, I s t → I { s with stopReason := text } t

variable {cal : PipelineCalibration} {selected : Fin 6 → Bool}
  {I : Shared → List StreamEvent → Prop}

theorem keeps_degraded {m : Shutdown Unit} (hm : Keeps I m) (c : Bool) (what : String) :
    Keeps I (degraded c what m) := by
  unfold degraded
  apply Keeps.ite
  · apply Keeps.bind hm.attempt
    intro outcome
    cases outcome with
    | ok _ => exact keeps_ret _
    | error e => exact keeps_ret _
  · exact keeps_ret _

theorem keeps_holdInPlace
    (h : ∀ s t values, I s t → I s (t ++ [.write .angleSet values .hold])) (input : ShutdownInput) :
    Keeps I (holdInPlace cal selected input) := by
  unfold holdInPlace
  apply Keeps.bind (keeps_ofExcept _)
  intro actual
  apply Keeps.bind (keeps_check _ _)
  intro _
  apply Keeps.bind (keeps_ofExcept _)
  intro hold
  apply Keeps.bind (Program.keeps_emit fun s t hI => h s t hold hI)
  intro _
  apply Keeps.bind (keeps_ofExcept _)
  intro _
  apply Keeps.bind (keeps_ofExcept _)
  intro readback
  exact keeps_check _ _

namespace Untouched

variable (h : Untouched I)
include h

theorem keeps_emit {event : StreamEvent} (hevent : event.ofRelease = true) :
    Keeps I (emit event : Shutdown Unit) :=
  Program.keeps_emit fun s t hI => h.event s t event hevent hI

theorem keeps_release (write : Except PyException Unit)
    (readback : Except PyException Targets) : Keeps I (release write readback) := by
  unfold release
  apply Keeps.bind (h.keeps_emit rfl)
  intro _
  apply Keeps.bind (keeps_ofExcept _)
  intro _
  apply Keeps.bind (keeps_ofExcept _)
  intro targets
  apply Keeps.bind (h.keeps_emit rfl)
  intro _
  apply Keeps.bind
  · exact keeps_update fun s t hI => h.readback s t targets hI
  · intro _
    exact keeps_ret _

theorem keeps_verifyPostReleaseStop (input : ShutdownInput) :
    Keeps I (verifyPostReleaseStop input) := by
  unfold verifyPostReleaseStop
  apply Keeps.bind (keeps_ofExcept _)
  intro samples
  apply Keeps.bind (keeps_ofExcept _)
  intro _
  apply Keeps.bind
  · exact keeps_update h.verified
  · intro _
    exact h.keeps_emit rfl

theorem keeps_reassert (input : ShutdownInput) (stop : PyException) :
    Keeps I (reassert input stop) := by
  unfold reassert
  apply Keeps.bind (h.keeps_release _ _).attempt
  intro outcome
  cases outcome with
  | ok _ => exact keeps_fail _
  | error e => exact keeps_fail _

theorem keeps_restore {register : Register} (hregister : register ≠ .angleSet) (what : String)
    (original : Option Targets) (write : Except PyException Unit) :
    Keeps I (restore register what original write) := by
  unfold restore
  cases original with
  | none => exact keeps_ret _
  | some values =>
    have hevent : (StreamEvent.write register values .setting).ofRelease = true := by
      cases register with
      | angleSet => exact absurd rfl hregister
      | speedSet | forceSet => rfl
    apply Keeps.bind (h.keeps_emit hevent)
    intro _
    cases write with
    | ok _ => exact keeps_ret _
    | error e => exact keeps_ret _

/-- **After the hold a shutdown keeps what it does not touch.** -/
theorem keeps_releaseAndRestore (input : ShutdownInput) (originals : Originals)
    (held : List String) : Keeps I (releaseAndRestore input originals held) := by
  unfold releaseAndRestore
  apply Keeps.bind (h.keeps_release _ _)
  intro first
  apply Keeps.bind (keeps_check _ _)
  intro _
  apply Keeps.bind (h.keeps_verifyPostReleaseStop input).attempt
  intro outcome
  cases outcome with
  | error stop => exact h.keeps_reassert input stop
  | ok _ =>
    apply Keeps.bind (h.keeps_restore (by decide) _ _ _)
    intro speeds
    apply Keeps.bind (h.keeps_restore (by decide) _ _ _)
    intro forces
    apply Keeps.bind (h.keeps_release _ _)
    intro final
    apply Keeps.bind (keeps_check _ _)
    intro _
    exact keeps_update fun s t hI => h.reason s t _ hI

variable (cal selected) in
/-- **A whole shutdown** keeps it as well when the hold does. -/
theorem keeps_disable (hhold : ∀ s t values, I s t → I s (t ++ [.write .angleSet values .hold]))
    (input : ShutdownInput) (stopInPlace : Bool) (originals : Originals) :
    Keeps I (disable cal selected input stopInPlace originals) := by
  unfold disable
  apply Keeps.bind (keeps_degraded (keeps_holdInPlace hhold input) _ _)
  intro held
  exact h.keeps_releaseAndRestore input originals held

end Untouched

end FrankaDeploy.Rh56Stream
