import FrankaDeploy.Foundation.Rounding
import FrankaDeploy.Rh56Stream.Commands

/-! # The law of the rate limit

A tick moves a command towards its target by at most the rate limit, rounded to a register unit. It
never passes the target, and as soon as the limit of a tick is more than half a unit every tick makes
progress. The rounding is to the nearest unit, so a tick may move further than its limit by up to half
a unit, and a limit of half a unit may not move at all. -/

namespace FrankaDeploy.Rh56Stream

open FrankaDeploy.Foundation

/-! ## One axis -/

namespace AxisCalibration

variable {axis : AxisCalibration} {before target : ℤ} {dt : ℚ}

theorem abs_limited_sub_le (hlimit : 0 ≤ axis.maxRateUnitsPerSecond * dt) :
    |(axis.limited before target dt : ℚ) - before|
      ≤ axis.maxRateUnitsPerSecond * dt + 1 / 2 := by
  unfold limited
  dsimp only
  generalize axis.maxRateUnitsPerSecond * dt = limit at hlimit
  have hclip : |min (max ((target - before : ℤ) : ℚ) (-limit)) limit| ≤ limit := by
    rw [abs_le]
    exact ⟨le_min (le_max_right _ _) (by linarith), min_le_right _ _⟩
  generalize min (max ((target - before : ℤ) : ℚ) (-limit)) limit = delta at hclip
  have hround := abs_rint_sub_le (before + delta)
  rw [abs_le] at hround hclip ⊢
  constructor <;> linarith

theorem limited_mem_of_le (hlimit : 0 ≤ axis.maxRateUnitsPerSecond * dt) (h : before ≤ target) :
    before ≤ axis.limited before target dt ∧ axis.limited before target dt ≤ target := by
  unfold limited
  dsimp only
  generalize axis.maxRateUnitsPerSecond * dt = limit at hlimit
  have hdistance : (0 : ℚ) ≤ (target - before : ℤ) := by
    exact_mod_cast Int.sub_nonneg_of_le h
  have hmax : max ((target - before : ℤ) : ℚ) (-limit) = (target - before : ℤ) :=
    max_eq_left (by linarith)
  rw [hmax]
  constructor
  · apply le_rint_of_le
    have := le_min hdistance hlimit
    linarith
  · apply rint_le_of_le
    have := min_le_left ((target - before : ℤ) : ℚ) limit
    push_cast at this ⊢
    linarith

theorem limited_mem_of_ge (hlimit : 0 ≤ axis.maxRateUnitsPerSecond * dt) (h : target ≤ before) :
    target ≤ axis.limited before target dt ∧ axis.limited before target dt ≤ before := by
  unfold limited
  dsimp only
  generalize axis.maxRateUnitsPerSecond * dt = limit at hlimit
  have hdistance : ((target - before : ℤ) : ℚ) ≤ 0 := by
    exact_mod_cast Int.sub_nonpos_of_le h
  have hmin : min (max ((target - before : ℤ) : ℚ) (-limit)) limit
      = max ((target - before : ℤ) : ℚ) (-limit) :=
    min_eq_left ((max_le hdistance (by linarith)).trans hlimit)
  rw [hmin]
  constructor
  · apply le_rint_of_le
    have := le_max_left ((target - before : ℤ) : ℚ) (-limit)
    push_cast at this ⊢
    linarith
  · apply rint_le_of_le
    have := max_le hdistance (neg_nonpos.2 hlimit)
    linarith

/-- **Progress**: a limit of more than half a unit brings the command nearer. -/
theorem natAbs_limited_lt (hlimit : 1 / 2 < axis.maxRateUnitsPerSecond * dt)
    (h : before ≠ target) :
    (target - axis.limited before target dt).natAbs < (target - before).natAbs := by
  have hnonneg : 0 ≤ axis.maxRateUnitsPerSecond * dt := by linarith
  rcases lt_or_gt_of_ne h with hlt | hgt
  · obtain ⟨-, htarget⟩ := limited_mem_of_le hnonneg hlt.le
    have hmove : before < axis.limited before target dt := by
      unfold limited
      dsimp only
      generalize axis.maxRateUnitsPerSecond * dt = limit at hlimit
      apply lt_rint_of_half_lt
      have hone : (1 : ℚ) ≤ (target - before : ℤ) := by
        exact_mod_cast Int.add_one_le_iff.2 (Int.sub_pos_of_lt hlt)
      have hclip : 1 / 2 < min (max ((target - before : ℤ) : ℚ) (-limit)) limit :=
        lt_min (lt_max_of_lt_left (by linarith)) hlimit
      linarith
    omega
  · obtain ⟨htarget, -⟩ := limited_mem_of_ge hnonneg hgt.le
    have hmove : axis.limited before target dt < before := by
      unfold limited
      dsimp only
      generalize axis.maxRateUnitsPerSecond * dt = limit at hlimit
      apply rint_lt_of_lt_half
      have hone : ((target - before : ℤ) : ℚ) ≤ -1 := by
        have : target - before ≤ -1 := by omega
        exact_mod_cast this
      have hclip : min (max ((target - before : ℤ) : ℚ) (-limit)) limit < -(1 / 2) :=
        min_lt_of_left_lt (max_lt (by linarith) (by linarith))
      linarith
    omega

theorem limited_self (hlimit : 0 ≤ axis.maxRateUnitsPerSecond * dt) :
    axis.limited target target dt = target := by
  obtain ⟨hlow, hhigh⟩ := @limited_mem_of_le axis target target dt hlimit le_rfl
  exact le_antisymm hhigh hlow

end AxisCalibration

/-! ## Runs of ticks -/

variable (cal : PipelineCalibration) (selected : Fin 6 → Bool)

def InRange (targets : Targets) : Prop :=
  ∀ joint, selected joint = true →
    (cal.axes joint).lower ≤ targets joint ∧ targets joint ≤ (cal.axes joint).upper

/-- **What a tick does** to the commands. -/
structure TickLaw (before : Targets) (tick : RateTick) (after : Targets) : Prop where
  unselected : ∀ joint, selected joint = false → after joint = -1
  bounded : ∀ joint, selected joint = true → |(after joint : ℚ) - before joint|
    ≤ (cal.axes joint).maxRateUnitsPerSecond * tick.dt + 1 / 2
  upwards : ∀ joint, selected joint = true → before joint ≤ tick.desired joint →
    before joint ≤ after joint ∧ after joint ≤ tick.desired joint
  downwards : ∀ joint, selected joint = true → tick.desired joint ≤ before joint →
    tick.desired joint ≤ after joint ∧ after joint ≤ before joint
  inRange : InRange cal selected after

def Lawful : Targets → List RateTick → List Targets → Prop
  | _, [], [] => True
  | before, tick :: ticks, after :: rest =>
    TickLaw cal selected before tick after ∧ Lawful after ticks rest
  | _, _, _ => False

variable {cal selected}

theorem missingCommand_eq_none (hcal : cal.Accepted) {before desired : Targets}
    (hbefore : InRange cal selected before) (hdesired : InRange cal selected desired) :
    missingCommand selected before desired = none := by
  unfold missingCommand
  rw [List.find?_eq_none]
  intro joint _
  rw [Bool.and_eq_true, Bool.or_eq_true, beq_iff_eq, beq_iff_eq]
  rintro ⟨hselected, hmissing⟩
  have haxis := hcal.axes joint
  have hlower := haxis.range.1
  have hclosed := haxis.closed_nonneg
  have h₁ := (hbefore joint hselected).1
  have h₂ := (hdesired joint hselected).1
  omega

/-- **A tick between calibrated commands** succeeds and is lawful. -/
theorem rateLimit_ok (hcal : cal.Accepted) {before : Targets} {tick : RateTick}
    (hbefore : InRange cal selected before) (hdesired : InRange cal selected tick.desired)
    (hdt : 0 ≤ tick.dt) :
    ∃ after, rateLimit cal selected before tick.desired tick.dt = .ok after ∧
      TickLaw cal selected before tick after ∧
      ∀ joint, selected joint = true →
        after joint = (cal.axes joint).limited (before joint) (tick.desired joint) tick.dt := by
  have hlimit (joint : Fin 6) : 0 ≤ (cal.axes joint).maxRateUnitsPerSecond * tick.dt :=
    mul_nonneg (by linarith [(hcal.axes joint).one_le_rate]) hdt
  have hselect (joint : Fin 6) (h : selected joint = true) :
      (if selected joint = true
        then (cal.axes joint).limited (before joint) (tick.desired joint) tick.dt else -1)
        = (cal.axes joint).limited (before joint) (tick.desired joint) tick.dt := if_pos h
  unfold rateLimit
  rw [missingCommand_eq_none hcal hbefore hdesired]
  refine ⟨_, rfl, ⟨?_, ?_, ?_, ?_, ?_⟩, hselect⟩
  · intro joint h
    exact if_neg (by rw [h]; exact Bool.false_ne_true)
  · intro joint h
    rw [hselect joint h]
    exact AxisCalibration.abs_limited_sub_le (hlimit joint)
  · intro joint h hle
    rw [hselect joint h]
    exact AxisCalibration.limited_mem_of_le (hlimit joint) hle
  · intro joint h hle
    rw [hselect joint h]
    exact AxisCalibration.limited_mem_of_ge (hlimit joint) hle
  · intro joint h
    dsimp only
    rw [hselect joint h]
    have hb := hbefore joint h
    have hd := hdesired joint h
    rcases le_total (before joint) (tick.desired joint) with hle | hle
    · obtain ⟨hlow, hhigh⟩ := AxisCalibration.limited_mem_of_le (hlimit joint) hle
      exact ⟨hb.1.trans hlow, hhigh.trans hd.2⟩
    · obtain ⟨hlow, hhigh⟩ := AxisCalibration.limited_mem_of_ge (hlimit joint) hle
      exact ⟨hd.1.trans hlow, hhigh.trans hb.2⟩

theorem rateRun_lawful (hcal : cal.Accepted) {sent : Targets} (hsent : InRange cal selected sent)
    {ticks : List RateTick}
    (hticks : ∀ tick ∈ ticks, InRange cal selected tick.desired ∧ 0 ≤ tick.dt) :
    ∃ commands, rateRun cal selected sent ticks = .ok commands ∧
      Lawful cal selected sent ticks commands := by
  induction ticks generalizing sent with
  | nil => exact ⟨[], rfl, trivial⟩
  | cons tick ticks ih =>
    rw [List.forall_mem_cons] at hticks
    obtain ⟨after, hafter, hlaw, -⟩ := rateLimit_ok hcal hsent hticks.1.1 hticks.1.2
    obtain ⟨rest, hrest, hlawful⟩ := ih hlaw.inRange hticks.2
    refine ⟨after :: rest, ?_, hlaw, hlawful⟩
    unfold rateRun
    rw [hafter, except_ok_bind, hrest]
    rfl

theorem rateRun_cons {sent after : Targets} {tick : RateTick} {ticks : List RateTick}
    {rest : List Targets} (hafter : rateLimit cal selected sent tick.desired tick.dt = .ok after)
    (hrest : rateRun cal selected after ticks = .ok rest) :
    rateRun cal selected sent (tick :: ticks) = .ok (after :: rest) := by
  unfold rateRun
  rw [hafter, except_ok_bind, hrest]
  rfl

/-- **Arrival**: under a constant target and a limit of more than half a unit a tick, a command has
arrived after as many ticks as it is units away. -/
theorem rateRun_arrives (hcal : cal.Accepted) {sent : Targets} (hsent : InRange cal selected sent)
    {tick : RateTick} (hdesired : InRange cal selected tick.desired) (hdt : 0 ≤ tick.dt) (n : ℕ) :
    ∃ commands, rateRun cal selected sent (List.replicate n tick) = .ok commands ∧
      ∀ joint, selected joint = true →
        1 / 2 < (cal.axes joint).maxRateUnitsPerSecond * tick.dt →
        (tick.desired joint - sent joint).natAbs ≤ n →
        (sent :: commands).getLast (List.cons_ne_nil _ _) joint = tick.desired joint := by
  induction n generalizing sent with
  | zero =>
    refine ⟨[], rfl, ?_⟩
    intro joint _ _ hdistance
    show sent joint = tick.desired joint
    omega
  | succ n ih =>
    obtain ⟨after, hafter, hlaw, hlimited⟩ := rateLimit_ok hcal hsent hdesired hdt
    obtain ⟨rest, hrest, harrives⟩ := ih hlaw.inRange
    refine ⟨after :: rest, rateRun_cons hafter hrest, ?_⟩
    intro joint hselected hlimit hdistance
    rw [List.getLast_cons (List.cons_ne_nil _ _)]
    apply harrives joint hselected hlimit
    rw [hlimited joint hselected]
    by_cases hthere : sent joint = tick.desired joint
    · rw [hthere, AxisCalibration.limited_self (by linarith)]
      omega
    · have hnearer := AxisCalibration.natAbs_limited_lt hlimit hthere
      omega

theorem inRange_of_selectedCommandsFromActual {actual sent : Targets}
    (h : selectedCommandsFromActual cal selected actual = .ok sent) : InRange cal selected sent := by
  unfold selectedCommandsFromActual at h
  obtain ⟨commands, hcommands, h⟩ := except_bind_eq_ok.1 h
  cases h
  intro joint hselected
  have hall := forall₂_of_mapM_ok hcommands
  have hlt : joint.val < commands.length := by
    rw [← hall.length_eq, List.length_finRange]
    exact joint.isLt
  have hget := hall.get (i := joint.val) (by rw [List.length_finRange]; exact joint.isLt) hlt
  dsimp only at hget ⊢
  rw [List.getD_eq_getElem?_getD, List.getElem?_eq_getElem hlt, Option.getD_some]
  rw [List.get_eq_getElem, List.getElem_finRange, List.get_eq_getElem] at hget
  change (if selected joint = true then commandFromActual cal joint (actual joint) else _) = _
    at hget
  rw [if_pos hselected] at hget
  unfold commandFromActual at hget
  dsimp only at hget
  split_ifs at hget with _ hrange
  rw [Except.ok.injEq] at hget
  rw [← hget]
  exact hrange

theorem InRange.mem (hcal : cal.Accepted) {targets : Targets} (h : InRange cal selected targets)
    {joint : Fin 6} (hselected : selected joint = true) :
    0 ≤ targets joint ∧ targets joint ≤ 1000 := by
  have haxis := hcal.axes joint
  obtain ⟨hlower, hupper⟩ := haxis.range
  obtain ⟨hlow, hhigh⟩ := h joint hselected
  rw [hlower] at hlow
  rw [hupper] at hhigh
  exact ⟨haxis.closed_nonneg.trans hlow, hhigh.trans haxis.open_le⟩

/-- **The rounded rate limit.** For every calibration that the loader accepts and every run of ticks
from calibrated commands, each tick moves a selected command by at most its rate times the elapsed
time, rounded to a unit, towards its target and not past it, inside the calibrated range. Under a
constant target and ticks of one control period an axis whose rate is more than half a unit a tick
has arrived after a thousand ticks. The commands that the stream starts from are calibrated. -/
theorem rounded_rate_limit {data : PipelineMapping} {cal : PipelineCalibration}
    (hload : PipelineCalibration.load data = .ok cal) (selected : Fin 6 → Bool) {sent : Targets}
    (hsent : InRange cal selected sent) :
    (∀ ticks : List RateTick,
      (∀ tick ∈ ticks, InRange cal selected tick.desired ∧ 0 ≤ tick.dt) →
      ∃ commands, rateRun cal selected sent ticks = .ok commands ∧
        Lawful cal selected sent ticks commands) ∧
    (∀ desired, InRange cal selected desired → ∀ n ≥ 1000,
      ∃ commands, rateRun cal selected sent (List.replicate n ⟨desired, cal.period⟩)
          = .ok commands ∧
        ∀ joint, selected joint = true →
          1 / 2 < (cal.axes joint).maxRateUnitsPerSecond * cal.period →
          (sent :: commands).getLast (List.cons_ne_nil _ _) joint = desired joint) ∧
    ∀ actual seed, selectedCommandsFromActual cal selected actual = .ok seed →
      InRange cal selected seed := by
  have hcal := PipelineCalibration.accepted_of_load hload
  refine ⟨fun ticks hticks => rateRun_lawful hcal hsent hticks, ?_,
    fun actual seed h => inRange_of_selectedCommandsFromActual h⟩
  intro desired hdesired n hn
  have hperiod : 0 ≤ cal.period := by
    unfold PipelineCalibration.period
    have := hcal.five_le_hz
    positivity
  obtain ⟨commands, hrun, harrives⟩ :=
    @rateRun_arrives cal selected hcal sent hsent ⟨desired, cal.period⟩ hdesired hperiod n
  refine ⟨commands, hrun, ?_⟩
  intro joint hselected hlimit
  have hs := hsent.mem hcal hselected
  have hd := hdesired.mem hcal hselected
  exact harrives joint hselected hlimit (by
    show (desired joint - sent joint).natAbs ≤ n
    omega)

/-! ## A slow axis -/

def slowAxis : AxisMapping where
  qOpen := 0
  qClosed := 1
  commandOpen := 900
  commandClosed := 400
  enabled := none
  maxRateUnitsPerSecond := some 10
  openEnterQ := none
  openExitQ := some (1 / 4)
  closedEnterQ := none
  closedExitQ := some (3 / 4)
  hardwareSpeed := none
  feedbackToCommandOffsetUnits := none
  feedbackToCommandValidMin := none
  feedbackToCommandValidMax := none

def slowMapping : PipelineMapping where
  axes := fun _ => slowAxis
  trackingTimeoutSeconds := none
  validFramesToArm := none
  armingMaxFrameGapSeconds := none
  armingMaxTargetDeltaUnits := none
  speed := none
  forceLimit := none
  controlHz := none
  feedbackHz := none
  preflightMaxAngleDelta := none
  preflightMaxIdleCurrentMa := none
  activeCurrentPolicy := none
  streamMaxCurrentMa := none
  streamMaxTotalCurrentMa := none

def slowCalibration : PipelineCalibration where
  axes := fun _ => AxisCalibration.read slowAxis
  trackingTimeoutSeconds := 3 / 4
  validFramesToArm := 3
  armingMaxFrameGapSeconds := 1 / 4
  armingMaxTargetDeltaUnits := 50
  speed := 120
  forceLimit := 100
  controlHz := 20
  feedbackHz := 5
  preflightMaxAngleDelta := 5
  preflightMaxIdleCurrentMa := 300
  activeCurrentPolicy := "fault"
  streamMaxCurrentMa := 1000
  streamMaxTotalCurrentMa := 6000

theorem fromMapping_slowAxis :
    AxisCalibration.fromMapping slowAxis = .ok (AxisCalibration.read slowAxis) := by
  unfold AxisCalibration.fromMapping
  simp only [requireThat_bind_eq_ok]
  refine ⟨by decide, by decide +kernel, by decide +kernel, by decide, by decide, by decide,
    by decide +kernel, by decide, by decide, by decide, by decide, by decide +kernel, rfl⟩

theorem getD_replicate_six (axis default : AxisCalibration) :
    (fun joint : Fin 6 => (List.replicate 6 axis).getD joint.val default) = fun _ => axis := by
  funext joint
  rw [List.getD_eq_getElem?_getD, List.getElem?_replicate, if_pos joint.isLt]
  rfl

theorem mapM_fromMapping {axis : AxisMapping} {read : AxisCalibration}
    (h : AxisCalibration.fromMapping axis = .ok read) :
    ((List.finRange 6).mapM fun _ => AxisCalibration.fromMapping axis)
      = .ok (List.replicate 6 read) := by
  rw [h]
  rfl

theorem load_slowMapping : PipelineCalibration.load slowMapping = .ok slowCalibration := by
  have haxes := getD_replicate_six (AxisCalibration.read slowAxis) (AxisCalibration.read slowAxis)
  unfold PipelineCalibration.load
  rw [except_bind_eq_ok]
  refine ⟨_, mapM_fromMapping fromMapping_slowAxis, ?_⟩
  dsimp only [slowMapping]
  rw [haxes, except_bind_eq_ok]
  refine ⟨(), ?_, rfl⟩
  unfold PipelineCalibration.validate
  simp only [requireThat_bind_eq_ok, requireThat_eq_ok]
  decide +kernel

/-- The limit of the slow axis is half a unit a tick. -/
example : (slowCalibration.axes 0).maxRateUnitsPerSecond * slowCalibration.period = 1 / 2 := by
  decide +kernel

theorem rateLimit_slow {before : ℤ} (h : before = 899 ∨ before = 898) :
    rateLimit slowCalibration (fun _ => true) (fun _ => before) (fun _ => 400)
      slowCalibration.period = .ok fun _ => 898 := by
  have hlimited :
      (AxisCalibration.read slowAxis).limited before 400 slowCalibration.period = 898 := by
    rcases h with rfl | rfl <;> decide +kernel
  have hmissing :
      missingCommand (fun _ => true) (fun _ => before) (fun _ => 400) = none := by
    rcases h with rfl | rfl <;> decide
  unfold rateLimit
  rw [hmissing]
  exact congrArg Except.ok (funext fun _ => hlimited)

theorem rateRun_slow (n : ℕ) :
    rateRun slowCalibration (fun _ => true) (fun _ => 898)
      (List.replicate n ⟨fun _ => 400, slowCalibration.period⟩)
      = .ok (List.replicate n fun _ => 898) := by
  induction n with
  | zero => rfl
  | succ n ih => exact rateRun_cons (rateLimit_slow (Or.inr rfl)) ih

/-- **A slow axis moves too fast and then not at all**: with a limit of half a unit a tick the first
tick from 899 moves a whole unit, and no later tick moves at all, so 400 is never reached. -/
theorem slow_axis_stalls :
    PipelineCalibration.load slowMapping = .ok slowCalibration ∧
      InRange slowCalibration (fun _ => true) (fun _ => 899) ∧
      InRange slowCalibration (fun _ => true) (fun _ => 400) ∧
      (∀ joint, (slowCalibration.axes joint).maxRateUnitsPerSecond * slowCalibration.period
        < |((898 : ℤ) : ℚ) - ((899 : ℤ) : ℚ)|) ∧
      ∀ n, rateRun slowCalibration (fun _ => true) (fun _ => 899)
        (List.replicate (n + 1) ⟨fun _ => 400, slowCalibration.period⟩)
          = .ok (List.replicate (n + 1) fun _ => 898) := by
  refine ⟨load_slowMapping, ?_, ?_, by decide +kernel, ?_⟩
  · unfold InRange
    decide
  · unfold InRange
    decide
  · intro n
    exact rateRun_cons (rateLimit_slow (Or.inl rfl)) (rateRun_slow n)

theorem rounded_rate_limit_slow :
    (∃ commands, rateRun slowCalibration (fun _ => true) (fun _ => 899)
        [⟨fun _ => 400, 1 / 20⟩, ⟨fun _ => 900, 1⟩] = .ok commands ∧
      Lawful slowCalibration (fun _ => true) (fun _ => 899)
        [⟨fun _ => 400, 1 / 20⟩, ⟨fun _ => 900, 1⟩] commands) := by
  have hrange {v : ℤ} (h : 400 ≤ v ∧ v ≤ 900) :
      InRange slowCalibration (fun _ => true) (fun _ => v) := fun _ _ => h
  refine (rounded_rate_limit load_slowMapping (fun _ => true) (hrange (by decide))).1 _ ?_
  intro tick htick
  rw [List.mem_cons, List.mem_singleton] at htick
  rcases htick with rfl | rfl
  · exact ⟨hrange (by decide), by decide +kernel⟩
  · exact ⟨hrange (by decide), by decide +kernel⟩

end FrankaDeploy.Rh56Stream
