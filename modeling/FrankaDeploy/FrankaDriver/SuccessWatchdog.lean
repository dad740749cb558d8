import FrankaDeploy.Foundation.FloatArith

/-! # The success watchdog of the sequence driver

`_ControlSuccessWatchdog`: the driver's own average of the success rate over a window of control
time. Equal adjacent rates are one sample, and the oldest samples are removed as the window
slides. -/

namespace FrankaDeploy.FrankaDriver

open FrankaDeploy.Foundation
open FloatArith (ofRat zero)
open scoped FloatArith

variable {F : Type} [FloatArith F]

def controlSuccessRateAbsoluteTolerance : ℚ := 1 / 10 ^ 6

/-- The slack of the window's times, written `1.0e-12`. -/
def windowSlack : ℚ := 1 / 10 ^ 12

/-- **`_ControlSuccessWatchdog`.** -/
structure ControlSuccessWatchdog (F : Type) where
  threshold : F
  hardFloor : F
  windowLimitS : F
  samples : List (F × F)
  windowDurationS : F
  weightedSuccess : F

def ControlSuccessWatchdog.init (minControlSuccessRate controlSuccessHardFloor
    controlSuccessEvaluationWindowS : F) : ControlSuccessWatchdog F where
  threshold := minControlSuccessRate
  hardFloor := controlSuccessHardFloor
  windowLimitS := controlSuccessEvaluationWindowS
  samples := []
  windowDurationS := zero
  weightedSuccess := zero

inductive WatchdogFault where
  | hardFloor
  | window
  | noSample
  /-- The loop over the excess went on beyond the rounds that it was given. -/
  | diverged
  deriving DecidableEq, Repr

namespace ControlSuccessWatchdog

def pyMin (x y : F) : F := if y < x then y else x

def appended (samples : List (F × F)) (success periodS : F) : List (F × F) :=
  match samples.getLast? with
  | some last =>
    if FloatArith.eqv last.1 success then samples.dropLast ++ [(last.1, last.2 + periodS)]
    else samples ++ [(success, periodS)]
  | none => samples ++ [(success, periodS)]

/-- **The loop over the excess.** -/
def trim : ℕ → F → ControlSuccessWatchdog F → Except WatchdogFault (ControlSuccessWatchdog F)
  | rounds, excess, watchdog =>
    if excess > ofRat windowSlack then
      match watchdog.samples, rounds with
      | [], _ => .error .noSample
      | _ :: _, 0 => .error .diverged
      | oldest :: rest, rounds + 1 =>
        let removed := pyMin oldest.2 excess
        trim rounds (excess - removed)
          { watchdog with
            samples :=
              if removed + ofRat windowSlack ≥ oldest.2 then rest
              else (oldest.1, oldest.2 - removed) :: rest
            windowDurationS := watchdog.windowDurationS - removed
            weightedSuccess := watchdog.weightedSuccess - oldest.1 * removed }
    else .ok watchdog

def checkAverage (watchdog : ControlSuccessWatchdog F) : Except WatchdogFault Unit :=
  if watchdog.windowDurationS + ofRat windowSlack < watchdog.windowLimitS then .ok ()
  else if watchdog.weightedSuccess / watchdog.windowDurationS <
      watchdog.threshold - ofRat controlSuccessRateAbsoluteTolerance then .error .window
  else .ok ()

/-- **`observe`**: what it raises, and the watchdog after it. -/
def observe (watchdog : ControlSuccessWatchdog F) (success periodS : F) :
    Except WatchdogFault Unit × ControlSuccessWatchdog F :=
  if success < watchdog.hardFloor - ofRat controlSuccessRateAbsoluteTolerance then
    (.error .hardFloor, watchdog)
  else if periodS ≤ zero then (.ok (), watchdog)
  else
    let samples := appended watchdog.samples success periodS
    let duration := watchdog.windowDurationS + periodS
    let observed : ControlSuccessWatchdog F :=
      { watchdog with
        samples := samples
        windowDurationS := duration
        weightedSuccess := watchdog.weightedSuccess + success * periodS }
    match trim (samples.length + 1) (duration - watchdog.windowLimitS) observed with
    | .error fault => (.error fault, observed)
    | .ok trimmed => (trimmed.checkAverage, trimmed)

/-- **An observation that passes the loop** ends with the check of the window. -/
theorem observe_of_trim {watchdog trimmed : ControlSuccessWatchdog F} {success periodS : F}
    (hfloor : ¬success < watchdog.hardFloor - ofRat controlSuccessRateAbsoluteTolerance)
    (hperiod : ¬periodS ≤ zero)
    (htrim : trim ((appended watchdog.samples success periodS).length + 1)
      (watchdog.windowDurationS + periodS - watchdog.windowLimitS)
      { watchdog with
        samples := appended watchdog.samples success periodS
        windowDurationS := watchdog.windowDurationS + periodS
        weightedSuccess := watchdog.weightedSuccess + success * periodS } = .ok trimmed) :
    watchdog.observe success periodS = (trimmed.checkAverage, trimmed) := by
  unfold observe
  rw [if_neg hfloor, if_neg hperiod]
  dsimp only
  rw [htrim]

end ControlSuccessWatchdog

end FrankaDeploy.FrankaDriver
