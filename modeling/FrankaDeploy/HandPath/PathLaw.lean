import Mathlib.Data.Fintype.Basic
import Mathlib.Data.Fin.VecNotation
import Mathlib.Tactic.FinCases
import FrankaDeploy.Foundation.ExactArith
import FrankaDeploy.Foundation.ExceptList
import FrankaDeploy.Foundation.Walk
import FrankaDeploy.HandPath.Path

/-! # The law of the canonical hand path

Every configuration of the path lies on a line: one axis somewhere between its target and 1000, the
axes that close before it at their targets, the others open. The closing loops are walks down these
lines and the reopening loops are walks up them, and the four walks fit together at their ends. -/

namespace FrankaDeploy.HandPath

open FrankaDeploy.Foundation

variable (step : StepUnits) (target : Registers)

/-! ## Lines -/

/-- The place of an axis in the closing order: `q6`, then the bend axes. -/
def closingRank (axis : Fin 6) : ℕ := if axis = 5 then 0 else axis.val + 1

/-- **The line of an axis**: the axis at `v`, the axes that close before it at their targets and the
others open. -/
def line (axis : Fin 6) (v : ℤ) : Registers := fun other =>
  if other = axis then v else if closingRank other < closingRank axis then target other else 1000

def bendLine (axis : Fin 5) (v : ℤ) : Bends := fun other =>
  if other = axis then v else if other < axis then target other.castSucc else 1000

@[simp] theorem line_self (axis : Fin 6) (v : ℤ) : line target axis v axis = v := if_pos rfl

theorem line_of_ne {axis other : Fin 6} (h : other ≠ axis) (u v : ℤ) :
    line target axis u other = line target axis v other := by
  unfold line
  rw [if_neg h, if_neg h]

@[simp] theorem bendLine_self (axis : Fin 5) (v : ℤ) : bendLine target axis v axis = v := if_pos rfl

theorem update_bendLine (axis : Fin 5) (u v : ℤ) :
    Function.update (bendLine target axis u) axis v = bendLine target axis v := by
  funext other
  by_cases h : other = axis
  · subst h
    rw [Function.update_self, bendLine_self]
  · rw [Function.update_of_ne h]
    unfold bendLine
    rw [if_neg h, if_neg h]

theorem bendLine_withQ6 (axis : Fin 5) (v : ℤ) :
    (bendLine target axis v).withQ6 (target 5) = line target axis.castSucc v := by
  funext other
  unfold Bends.withQ6 bendLine line closingRank
  fin_cases axis <;> fin_cases other <;> rfl

theorem openBends_withQ6 (v : ℤ) : openBends.withQ6 v = line target 5 v := by
  funext other
  unfold Bends.withQ6 openBends line closingRank
  fin_cases other <;> rfl

theorem allOpen_eq_line : allOpen = line target 5 1000 := by
  funext other
  unfold allOpen line closingRank
  fin_cases other <;> rfl

/-- The bend registers with the first `k` axes closed. -/
def bendsAt (k : ℕ) : Bends := fun axis => if axis.val < k then target axis.castSucc else 1000

theorem bendLine_open (axis : Fin 5) : bendLine target axis 1000 = bendsAt target axis := by
  funext other
  unfold bendLine bendsAt
  by_cases h : other = axis
  · subst h
    rw [if_pos rfl, if_neg (lt_irrefl _)]
  · rw [if_neg h]
    rfl

theorem bendLine_closed (axis : Fin 5) :
    bendLine target axis (target axis.castSucc) = bendsAt target (axis + 1) := by
  funext other
  unfold bendLine bendsAt
  by_cases h : other = axis
  · subst h
    rw [if_pos rfl, if_pos (Nat.lt_succ_self _)]
  · have hiff : other < axis ↔ other.val < axis + 1 := by
      rw [Fin.lt_def]
      have := Fin.val_ne_of_ne h
      omega
    rw [if_neg h]
    simp only [hiff]

theorem bendsAt_zero : bendsAt target 0 = openBends := rfl

theorem bendsAt_five : bendsAt target 5 = fun axis => target axis.castSucc := by
  funext axis
  exact if_pos axis.isLt

/-- The configuration with `q6` and the first `k` bend axes closed. -/
def closedTo (k : ℕ) : Registers := (bendsAt target k).withQ6 (target 5)

theorem closedTo_zero : closedTo target 0 = line target 5 (target 5) := openBends_withQ6 target _

theorem closedTo_five : closedTo target 5 = target := by
  unfold closedTo
  rw [bendsAt_five]
  funext axis
  unfold Bends.withQ6
  fin_cases axis <;> rfl

/-! ## Moves -/

/-- **A closing move**: down a line by at most a step. Only `q6` can stay where it is, when its
target is 1000. -/
def Closes (x y : Registers) : Prop :=
  ∃ axis u v, x = line target axis u ∧ y = line target axis v ∧ target axis ≤ v ∧ v ≤ u ∧
    u ≤ 1000 ∧ u ≤ v + step.units ∧ (u = v → axis = 5 ∧ target 5 = 1000)

/-- **A reopening move**: up a line by at most a step, or away from the target by at least 50 units
or to 1000. -/
def Reopens (x y : Registers) : Prop :=
  ∃ axis u v, x = line target axis u ∧ y = line target axis v ∧ target axis ≤ u ∧ u ≤ v ∧
    v ≤ 1000 ∧ (v ≤ u + step.units ∨
      u = target axis ∧ (u + minDirectionReversalBootstrapUnits ≤ v ∨ v = 1000)) ∧
    (u = v → axis = 5 ∧ target 5 = 1000)

/-! ## The loops are walks -/

theorem rangeDown_walk (start : ℤ) (hstart : start + step.units ≤ 1000)
    (hlow : target 5 ≤ start + step.units) :
    ∃ u, target 5 ≤ u ∧ u ≤ target 5 + step.units ∧ u ≤ 1000 ∧
      (u = target 5 → start + step.units = target 5) ∧
      Walk (Closes step target) (line target 5 (start + step.units))
        ((rangeDown step start (target 5)).map (line target 5)) (line target 5 u) := by
  have hten := step.ten_le
  induction hleft : (start - target 5).toNat using Nat.strong_induction_on generalizing start with
  | _ left ih =>
    rw [rangeDown]
    by_cases h : target 5 < start
    · rw [if_pos h]
      obtain ⟨u, hu, hle, htop, heq, hwalk⟩ :=
        ih _ (by omega) (start - step.units) (by omega) (by omega) rfl
      rw [Int.sub_add_cancel] at heq hwalk
      refine ⟨u, hu, hle, htop, fun hut => absurd (heq hut) h.ne', ?_⟩
      refine Walk.cons ⟨5, _, start, rfl, rfl, h.le, by omega, by omega, le_rfl, ?_⟩ hwalk
      intro hstay
      omega
    · rw [if_neg h]
      exact ⟨start + step.units, hlow, by omega, hstart, id, Walk.nil _⟩

theorem lt_of_mem_rangeDown {start stop v : ℤ} (h : v ∈ rangeDown step start stop) : stop < v := by
  have hten := step.ten_le
  induction hleft : (start - stop).toNat using Nat.strong_induction_on generalizing start with
  | _ left ih =>
    rw [rangeDown] at h
    split_ifs at h with hlt
    · rcases List.mem_cons.1 h with rfl | hmem
      · exact hlt
      · exact ih _ (by omega) hmem rfl
    · cases h

/-- **The `q6` forward values** walk from open to the target. -/
theorem q6Forward_walk (htop : target 5 ≤ 1000) :
    Walk (Closes step target) (line target 5 1000)
      ((q6Forward step (target 5)).map (line target 5)) (line target 5 (target 5)) := by
  obtain ⟨u, hu, hle, hutop, heq, hwalk⟩ := rangeDown_walk step target
    (1000 - step.units) (by omega) (by omega)
  rw [Int.sub_add_cancel] at hwalk heq
  have happend : q6Forward step (target 5)
      = rangeDown step (1000 - step.units) (target 5) ++ [target 5] := by
    unfold q6Forward
    refine if_pos (Or.inr ?_)
    intro hlast
    exact lt_irrefl _ (lt_of_mem_rangeDown step (List.mem_of_getLast? hlast))
  rw [happend, List.map_append]
  refine hwalk.append (Walk.single ⟨5, u, target 5, rfl, rfl, le_rfl, hu, hutop, hle, ?_⟩)
  intro hstay
  exact ⟨rfl, (heq hstay).symm⟩

theorem closeAxis_walk (axis : Fin 5) {u : ℤ} (hle : target axis.castSucc ≤ u) (htop : u ≤ 1000)
    (emitted : List Bends) :
    ∃ l, closeAxis step (target axis.castSucc) axis (bendLine target axis u) emitted
        = (bendLine target axis (target axis.castSucc), emitted ++ l) ∧
      Walk (Closes step target) (line target axis.castSucc u)
        (l.map fun bends => bends.withQ6 (target 5))
        (line target axis.castSucc (target axis.castSucc)) := by
  have hten := step.ten_le
  induction hleft : (u - target axis.castSucc).toNat using Nat.strong_induction_on
    generalizing u emitted with
  | _ left ih =>
    rw [closeAxis, bendLine_self]
    by_cases h : u = target axis.castSucc
    · rw [if_pos h]
      subst h
      exact ⟨[], by rw [List.append_nil], Walk.nil _⟩
    · rw [if_neg h]
      dsimp only
      rw [update_bendLine]
      obtain ⟨l, hclose, hwalk⟩ :=
        ih _ (by omega) (u := max (target axis.castSucc) (u - step.units)) (by omega) (by omega)
          (emitted ++ [bendLine target axis (max (target axis.castSucc) (u - step.units))]) rfl
      refine ⟨bendLine target axis (max (target axis.castSucc) (u - step.units)) :: l, ?_, ?_⟩
      · rw [hclose, List.append_assoc]
        rfl
      · rw [List.map_cons, bendLine_withQ6]
        refine Walk.cons ⟨axis.castSucc, u, _, rfl, rfl, by omega, by omega, htop, by omega, ?_⟩
          hwalk
        intro hstay
        omega

theorem reopenAxis_walk (axis : Fin 5) {u : ℤ} (hle : target axis.castSucc ≤ u) (htop : u ≤ 1000)
    (emitted : List Bends) :
    ∃ l, reopenAxis step axis (bendLine target axis u) emitted
        = (bendLine target axis 1000, emitted ++ l) ∧
      Walk (Reopens step target) (line target axis.castSucc u)
        (l.map fun bends => bends.withQ6 (target 5)) (line target axis.castSucc 1000) := by
  have hten := step.ten_le
  induction hleft : (1000 - u).toNat using Nat.strong_induction_on generalizing u emitted with
  | _ left ih =>
    rw [reopenAxis, bendLine_self]
    by_cases h : u = 1000
    · rw [if_pos h]
      subst h
      exact ⟨[], by rw [List.append_nil], Walk.nil _⟩
    · rw [if_neg h]
      dsimp only
      rw [update_bendLine]
      obtain ⟨l, hopen, hwalk⟩ :=
        ih _ (by omega) (u := min 1000 (u + step.units)) (by omega) (by omega)
          (emitted ++ [bendLine target axis (min 1000 (u + step.units))]) rfl
      refine ⟨bendLine target axis (min 1000 (u + step.units)) :: l, ?_, ?_⟩
      · rw [hopen, List.append_assoc]
        rfl
      · rw [List.map_cons, bendLine_withQ6]
        refine Walk.cons ⟨axis.castSucc, u, _, rfl, rfl, hle, by omega, by omega,
          Or.inl (by omega), ?_⟩ hwalk
        intro hstay
        omega

theorem q6ReverseFrom_walk {u : ℤ} (hle : target 5 ≤ u) (htop : u ≤ 1000) :
    Walk (Reopens step target) (line target 5 u)
      ((q6ReverseFrom step u).map (line target 5)) (line target 5 1000) := by
  have hten := step.ten_le
  induction hleft : (1000 - u).toNat using Nat.strong_induction_on generalizing u with
  | _ left ih =>
    rw [q6ReverseFrom]
    by_cases h : u = 1000
    · rw [if_pos h]
      subst h
      exact Walk.nil _
    · rw [if_neg h]
      dsimp only
      rw [List.map_cons]
      refine Walk.cons ⟨5, u, _, rfl, rfl, hle, by omega, by omega, Or.inl (by omega), ?_⟩
        (ih _ (by omega) (by omega) (by omega) rfl)
      intro hstay
      omega

theorem reopens_bootstrap {axis : Fin 6} (htop : target axis ≤ 1000)
    (hstay : target axis = 1000 → axis = 5) :
    Reopens step target (line target axis (target axis))
      (line target axis (min 1000 (target axis + bootstrap step))) := by
  have hmin : minDirectionReversalBootstrapUnits ≤ bootstrap step := le_max_left _ _
  have hpos : 0 < minDirectionReversalBootstrapUnits := by decide
  refine ⟨axis, _, _, rfl, rfl, le_rfl, by omega, by omega, Or.inr ⟨rfl, by omega⟩, ?_⟩
  intro heq
  have htarget : target axis = 1000 := by omega
  have haxis := hstay htarget
  exact ⟨haxis, haxis ▸ htarget⟩

/-- **One bend axis** closes from where the ones before it are closed. -/
theorem closeAxis_closedTo (htop : ∀ axis, target axis ≤ 1000) (axis : Fin 5)
    (emitted : List Bends) :
    ∃ l, closeAxis step (target axis.castSucc) axis (bendsAt target axis) emitted
        = (bendsAt target (axis + 1), emitted ++ l) ∧
      Walk (Closes step target) (closedTo target axis)
        (l.map fun bends => bends.withQ6 (target 5)) (closedTo target (axis + 1)) := by
  have hwalk := closeAxis_walk step target axis (htop axis.castSucc) le_rfl emitted
  rw [bendLine_open, bendLine_closed, ← bendLine_withQ6, ← bendLine_withQ6, bendLine_open,
    bendLine_closed] at hwalk
  exact hwalk

/-- **The whole of `bend_forward`** walks from the closed `q6` to the target. -/
theorem bendForward_walk (htop : ∀ axis, target axis ≤ 1000) :
    Walk (Closes step target) (line target 5 (target 5))
      ((bendForward step target).map fun bends => bends.withQ6 (target 5)) target := by
  obtain ⟨l₀, h₀, w₀⟩ := closeAxis_closedTo step target htop 0 []
  obtain ⟨l₁, h₁, w₁⟩ := closeAxis_closedTo step target htop 1 ([] ++ l₀)
  obtain ⟨l₂, h₂, w₂⟩ := closeAxis_closedTo step target htop 2 ([] ++ l₀ ++ l₁)
  obtain ⟨l₃, h₃, w₃⟩ := closeAxis_closedTo step target htop 3 ([] ++ l₀ ++ l₁ ++ l₂)
  obtain ⟨l₄, h₄, w₄⟩ := closeAxis_closedTo step target htop 4 ([] ++ l₀ ++ l₁ ++ l₂ ++ l₃)
  have hemitted : bendForward step target = l₀ ++ l₁ ++ l₂ ++ l₃ ++ l₄ := by
    unfold bendForward
    rw [show List.finRange 5 = [0, 1, 2, 3, 4] by decide, ← bendsAt_zero target]
    simp only [List.foldl_cons, List.foldl_nil]
    -- Each loop starts where the one before it ended.
    erw [h₀, h₁, h₂, h₃, h₄]
    rw [List.nil_append]
  have hwalk := (((w₀.append w₁).append w₂).append w₃).append w₄
  rw [← List.map_append, ← List.map_append, ← List.map_append, ← List.map_append, ← hemitted]
    at hwalk
  have hends : Walk (Closes step target) (closedTo target 0) _ (closedTo target 5) := hwalk
  rw [closedTo_zero, closedTo_five] at hends
  exact hends

def reopenStep (state : Bends × List Bends) (axis : Fin 5) : Bends × List Bends :=
  if state.1 axis = 1000 then state
  else
    let next := Function.update state.1 axis (min 1000 (state.1 axis + bootstrap step))
    reopenAxis step axis next (state.2 ++ [next])

/-- **One bend axis** reopens to where the ones before it are closed; an open one is skipped. -/
theorem reopenStep_closedTo (htop : ∀ axis, target axis ≤ 1000) (axis : Fin 5)
    (emitted : List Bends) :
    ∃ l, reopenStep step (bendsAt target (axis + 1), emitted) axis
        = (bendsAt target axis, emitted ++ l) ∧
      Walk (Reopens step target) (closedTo target (axis + 1))
        (l.map fun bends => bends.withQ6 (target 5)) (closedTo target axis) := by
  have hten := step.ten_le
  have hboot : 50 ≤ bootstrap step := le_max_left _ _
  unfold reopenStep closedTo
  rw [← bendLine_open, ← bendLine_closed]
  simp only [bendLine_self, bendLine_withQ6]
  by_cases h : target axis.castSucc = 1000
  · rw [if_pos h, h]
    exact ⟨[], by rw [List.append_nil], Walk.nil _⟩
  · rw [if_neg h]
    have hle := htop axis.castSucc
    obtain ⟨l, hopen, hwalk⟩ := reopenAxis_walk step target axis
      (u := min 1000 (target axis.castSucc + bootstrap step)) (by omega) (by omega)
      (emitted ++ [bendLine target axis (min 1000 (target axis.castSucc + bootstrap step))])
    rw [update_bendLine, hopen]
    refine ⟨bendLine target axis (min 1000 (target axis.castSucc + bootstrap step)) :: l, ?_, ?_⟩
    · rw [List.append_assoc]
      rfl
    · rw [List.map_cons, bendLine_withQ6]
      exact Walk.cons (reopens_bootstrap step target hle fun hopened => absurd hopened h) hwalk

/-- **The whole of `reverse_bends`** walks from the target to the closed `q6`. -/
theorem reverseBends_walk (htop : ∀ axis, target axis ≤ 1000) :
    Walk (Reopens step target) target
      ((reverseBends step target).map fun bends => bends.withQ6 (target 5))
      (line target 5 (target 5)) := by
  obtain ⟨l₄, h₄, w₄⟩ := reopenStep_closedTo step target htop 4 []
  obtain ⟨l₃, h₃, w₃⟩ := reopenStep_closedTo step target htop 3 ([] ++ l₄)
  obtain ⟨l₂, h₂, w₂⟩ := reopenStep_closedTo step target htop 2 ([] ++ l₄ ++ l₃)
  obtain ⟨l₁, h₁, w₁⟩ := reopenStep_closedTo step target htop 1 ([] ++ l₄ ++ l₃ ++ l₂)
  obtain ⟨l₀, h₀, w₀⟩ := reopenStep_closedTo step target htop 0 ([] ++ l₄ ++ l₃ ++ l₂ ++ l₁)
  have hemitted : reverseBends step target = l₄ ++ l₃ ++ l₂ ++ l₁ ++ l₀ := by
    show ((List.finRange 5).reverse.foldl (reopenStep step) _).2 = _
    rw [show (List.finRange 5).reverse = [4, 3, 2, 1, 0] by decide, ← bendsAt_five]
    simp only [List.foldl_cons, List.foldl_nil]
    erw [h₄, h₃, h₂, h₁, h₀]
    rw [List.nil_append]
  have hwalk := (((w₄.append w₃).append w₂).append w₁).append w₀
  rw [← List.map_append, ← List.map_append, ← List.map_append, ← List.map_append, ← hemitted]
    at hwalk
  have hends : Walk (Reopens step target) (closedTo target 5) _ (closedTo target 0) := hwalk
  rw [closedTo_zero, closedTo_five] at hends
  exact hends

/-- **The `q6` reverse values** walk from the target to open. -/
theorem q6Reverse_walk (htop : target 5 ≤ 1000) :
    Walk (Reopens step target) (line target 5 (target 5))
      ((q6Reverse step (target 5)).map (line target 5)) (line target 5 1000) := by
  have hboot : 50 ≤ bootstrap step := le_max_left _ _
  unfold q6Reverse
  dsimp only
  rw [List.map_cons]
  exact Walk.cons (reopens_bootstrap step target htop fun _ => rfl)
    (q6ReverseFrom_walk step target (by omega) (by omega))

/-! ## The configurations -/

def forwardConfigurations : List Registers :=
  (q6Forward step (target 5)).map openBends.withQ6 ++
    (bendForward step target).map fun bends => bends.withQ6 (target 5)

def reverseConfigurations : List Registers :=
  (reverseBends step target).map (fun bends => bends.withQ6 (target 5)) ++
    (q6Reverse step (target 5)).map openBends.withQ6

/-- **The forward part** walks from all-open to the target. -/
theorem forward_walk (htop : ∀ axis, target axis ≤ 1000) :
    Walk (Closes step target) allOpen (forwardConfigurations step target) target := by
  have hq6 := q6Forward_walk step target (htop 5)
  rw [← allOpen_eq_line] at hq6
  have hline : openBends.withQ6 = line target 5 := funext (openBends_withQ6 target)
  unfold forwardConfigurations
  rw [hline]
  exact hq6.append (bendForward_walk step target htop)

/-- **The reverse part** walks from the target to all-open. -/
theorem reverse_walk (htop : ∀ axis, target axis ≤ 1000) :
    Walk (Reopens step target) target (reverseConfigurations step target) allOpen := by
  have hq6 := q6Reverse_walk step target (htop 5)
  rw [← allOpen_eq_line] at hq6
  have hline : openBends.withQ6 = line target 5 := funext (openBends_withQ6 target)
  unfold reverseConfigurations
  rw [hline]
  exact (reverseBends_walk step target htop).append hq6

theorem waypointArguments_configurations :
    (waypointArguments target step).map (fun arguments => arguments.2.2)
      = allOpen :: (forwardConfigurations step target ++ reverseConfigurations step target) := by
  have hnumbered {α : Type} (phase : String) (command configuration : α → Registers)
      (values : List α) : (numbered phase command configuration values).map
        (fun arguments => arguments.2.2) = values.map configuration := by
    apply List.ext_getElem?
    intro i
    unfold numbered
    rw [List.getElem?_map, List.getElem?_mapIdx, List.getElem?_map, Option.map_map]
    rfl
  unfold waypointArguments forwardConfigurations reverseConfigurations
  simp only [List.map_append, hnumbered, List.map_cons, List.map_nil, List.append_assoc]
  rfl

/-! ## The builder succeeds -/

def InDomain (x : Registers) : Prop := ∀ axis, 0 ≤ x axis ∧ x axis ≤ 1000

variable {step target}

theorem line_inDomain (htarget : InDomain target) {axis : Fin 6} {v : ℤ} (hlow : target axis ≤ v)
    (htop : v ≤ 1000) : InDomain (line target axis v) := by
  intro other
  unfold line
  split_ifs
  · exact ⟨(htarget axis).1.trans hlow, htop⟩
  · exact htarget other
  · exact ⟨by decide, le_rfl⟩

theorem allOpen_inDomain : InDomain allOpen := fun _ => ⟨by show (0 : ℤ) ≤ 1000; decide, le_rfl⟩

theorem configurations_inDomain (htarget : InDomain target) :
    ∀ x ∈ allOpen :: (forwardConfigurations step target ++ reverseConfigurations step target),
      InDomain x := by
  have htop (axis : Fin 6) := (htarget axis).2
  have hforward := (forward_walk step target htop).forall_mem (P := InDomain)
    (by
      rintro _ _ ⟨axis, u, v, -, rfl, hlow, hle, hopen, -⟩ -
      exact line_inDomain htarget hlow (hle.trans hopen))
    allOpen_inDomain
  have hreverse := (reverse_walk step target htop).forall_mem (P := InDomain)
    (by
      rintro _ _ ⟨axis, u, v, -, rfl, hlow, hle, hopen, -⟩ -
      exact line_inDomain htarget (hlow.trans hle) hopen)
    htarget
  intro x hx
  rw [← List.cons_append, List.mem_append] at hx
  rcases hx with hx | hx
  · exact hforward x hx
  · exact hreverse x (List.mem_cons_of_mem target hx)

theorem command_of_mem {arguments : WaypointArguments}
    (h : arguments ∈ waypointArguments target step) : arguments.1 ≠ "" ∧
      (arguments.2.1 = arguments.2.2 ∨ arguments.2.1 = q6Command (arguments.2.2 5) ∨
        arguments.2.1 = fun _ => -1) := by
  have hphase (phase : String) (hne : phase ≠ "") (digits : String) : phase ++ digits ≠ "" := by
    intro hempty
    rw [String.append_eq_empty_iff] at hempty
    exact hne hempty.1
  have hnumbered {α : Type} {phase : String} {command configuration : α → Registers}
      {values : List α} (h : arguments ∈ numbered phase command configuration values) :
      ∃ index value, arguments = (phase ++ FloatArith.paddedDigits 4 index, command value,
        configuration value) := by
    obtain ⟨index, hlt, rfl⟩ := List.mem_mapIdx.1 h
    exact ⟨index, _, rfl⟩
  unfold waypointArguments at h
  simp only [List.mem_append, List.mem_singleton] at h
  rcases h with (((rfl | h) | h) | h) | h
  · exact ⟨by decide, Or.inr (Or.inr rfl)⟩
  · obtain ⟨index, value, rfl⟩ := hnumbered h
    exact ⟨hphase _ (by decide) _, Or.inr (Or.inl rfl)⟩
  · obtain ⟨index, value, rfl⟩ := hnumbered h
    exact ⟨hphase _ (by decide) _, Or.inl rfl⟩
  · obtain ⟨index, value, rfl⟩ := hnumbered h
    exact ⟨hphase _ (by decide) _, Or.inl rfl⟩
  · obtain ⟨index, value, rfl⟩ := hnumbered h
    exact ⟨hphase _ (by decide) _, Or.inr (Or.inl rfl)⟩

theorem handWaypoint_ok (htarget : InDomain target) {arguments : WaypointArguments}
    (h : arguments ∈ waypointArguments target step) :
    ∃ waypoint, handWaypoint arguments = .ok waypoint ∧
      waypoint.actuatorConfiguration = arguments.2.2 := by
  obtain ⟨phase, command, configuration⟩ := arguments
  obtain ⟨hphase, hcommand⟩ := command_of_mem h
  have hmem : configuration ∈ (waypointArguments target step).map fun arguments => arguments.2.2 :=
    List.mem_map_of_mem h
  rw [waypointArguments_configurations] at hmem
  have hconfiguration : ∀ axis, 0 ≤ configuration axis ∧ configuration axis ≤ 1000 :=
    configurations_inDomain htarget configuration hmem
  have hdomain : ∀ axis, -1 ≤ command axis ∧ command axis ≤ 1000 := by
    intro axis
    rcases hcommand with hsame | hq6 | hdisabled
    · have := hconfiguration axis
      rw [show command = configuration from hsame]
      omega
    · have := hconfiguration 5
      rw [show command = q6Command (configuration 5) from hq6]
      unfold q6Command Bends.withQ6
      dsimp only
      split_ifs <;> omega
    · rw [show command = fun _ => -1 from hdisabled]
      dsimp only
      omega
  unfold handWaypoint
  dsimp only at hphase ⊢
  rw [dif_neg hphase, dif_pos hdomain, dif_pos hconfiguration]
  exact ⟨_, rfl, rfl⟩

def RH56HandExecutionPath.configurations (path : RH56HandExecutionPath) : List Registers :=
  path.waypoints.map fun waypoint => waypoint.actuatorConfiguration

theorem six_ofFn (htarget : InDomain target) (name : String) :
    six (List.ofFn target) name false = .ok target := by
  have hmem : ∀ item ∈ List.ofFn target, (0 : ℤ) ≤ item ∧ item ≤ 1000 := by
    intro item hitem
    obtain ⟨axis, rfl⟩ := List.mem_ofFn.1 hitem
    exact htarget axis
  unfold six
  refine (dif_pos ⟨List.length_ofFn, hmem⟩).trans ?_
  congr 1
  funext axis
  exact List.getElem_ofFn _

/-- **The builder returns** the path with these configurations. -/
theorem build_ok (htarget : InDomain target) (step : StepUnits) :
    ∃ path, buildRh56NoContactExecutionPath (List.ofFn target) step.units = .ok path ∧
      path.target = target ∧ path.stepUnits = step ∧ path.configurations
        = allOpen :: (forwardConfigurations step target ++ reverseConfigurations step target) := by
  obtain ⟨waypoints, hwaypoints, hall⟩ :=
    exists_mapM_ok (f := handWaypoint) (l := waypointArguments target step)
      fun _ h => handWaypoint_ok htarget h
  refine ⟨⟨target, step, waypoints⟩, ?_, rfl, rfl, ?_⟩
  · unfold buildRh56NoContactExecutionPath
    rw [six_ofFn htarget, except_ok_bind, dif_pos ⟨step.ten_le, step.le_fifty⟩]
    show ((waypointArguments target step).mapM handWaypoint >>= _) = _
    rw [hwaypoints]
    rfl
  · rw [← waypointArguments_configurations]
    have hmap : List.Forall₂ (· = ·)
        (waypoints.map fun waypoint => waypoint.actuatorConfiguration)
        ((waypointArguments target step).map fun arguments => arguments.2.2) := by
      rw [List.forall₂_map_left_iff, List.forall₂_map_right_iff]
      exact hall.flip
    rw [List.forall₂_eq_eq_eq] at hmap
    exact hmap

/-! ## The law -/

/-- **What a canonical path is**, of the configurations `path` with the target at index `peak`. -/
structure Canonical (step : ℤ) (target : Registers) (path : List Registers) (peak : ℕ) : Prop where
  starts : path.head? = some allOpen
  passes : path[peak]? = some target
  ends : path.getLast? = some allOpen
  domain : ∀ x ∈ path, InDomain x
  single : ∀ i x y, path[i]? = some x → path[i + 1]? = some y →
    ∀ axis other, x axis ≠ y axis → x other ≠ y other → axis = other
  closes : ∀ i j x y, i ≤ j → j ≤ peak → path[i]? = some x → path[j]? = some y →
    ∀ axis, y axis ≤ x axis
  reopens : ∀ i j x y, peak ≤ i → i ≤ j → path[i]? = some x → path[j]? = some y →
    ∀ axis, x axis ≤ y axis
  /-- An axis leaves 1000 when the axes before it have reached their targets, and it leaves its
  target when the axes after it are open again. -/
  order : ∀ x ∈ path, ∀ axis other, closingRank axis < closingRank other →
    x axis = target axis ∨ x other = 1000
  /-- A register moves by at most a step, but for the first reopening move of its axis, which is at
  least 50 units or ends at 1000. -/
  bounded : ∀ i x y, path[i]? = some x → path[i + 1]? = some y → ∀ axis,
    |y axis - x axis| ≤ step ∨ peak ≤ i ∧ x axis = target axis ∧
      (x axis + minDirectionReversalBootstrapUnits ≤ y axis ∨ y axis = 1000)
  noRepeat : ∀ i j x, i < j → j ≤ peak ∨ peak ≤ i → path[i]? = some x → path[j]? = some x →
    x = allOpen ∧ target 5 = 1000

theorem line_order (axis : Fin 6) (v : ℤ) {first second : Fin 6}
    (h : closingRank first < closingRank second) :
    line target axis v first = target first ∨ line target axis v second = 1000 := by
  unfold line
  by_cases hrank : closingRank first < closingRank axis
  · left
    have hne : first ≠ axis := by
      rintro rfl
      exact lt_irrefl _ hrank
    rw [if_neg hne, if_pos hrank]
  · right
    have hne : second ≠ axis := by
      rintro rfl
      exact hrank h
    rw [if_neg hne, if_neg (by omega)]

theorem eq_of_line_ne {axis other : Fin 6} {u v : ℤ}
    (h : line target axis u other ≠ line target axis v other) : other = axis := by
  by_contra hne
  exact h (line_of_ne target hne u v)

theorem line_mono {axis : Fin 6} {u v : ℤ} (h : u ≤ v) (other : Fin 6) :
    line target axis u other ≤ line target axis v other := by
  by_cases heq : other = axis
  · subst heq
    rw [line_self, line_self]
    exact h
  · exact (line_of_ne target heq u v).le

theorem line_eq_allOpen {axis : Fin 6} {u : ℤ} (hlow : target axis ≤ u) (htop : u ≤ 1000)
    (h : axis = 5 ∧ target 5 = 1000) : line target axis u = allOpen ∧ target 5 = 1000 := by
  obtain ⟨rfl, h⟩ := h
  rw [h] at hlow
  rw [le_antisymm htop hlow, allOpen_eq_line target]
  exact ⟨rfl, h⟩

theorem Closes.self {x : Registers} (h : Closes step target x x) :
    x = allOpen ∧ target 5 = 1000 := by
  obtain ⟨axis, u, v, rfl, hsame, hlow, hle, htop, -, hstay⟩ := h
  have huv : u = v := by simpa using congrFun hsame axis
  exact line_eq_allOpen (hlow.trans hle) htop (hstay huv)

theorem Reopens.self {x : Registers} (h : Reopens step target x x) :
    x = allOpen ∧ target 5 = 1000 := by
  obtain ⟨axis, u, v, rfl, hsame, hlow, hle, htop, -, hstay⟩ := h
  have huv : u = v := by simpa using congrFun hsame axis
  exact line_eq_allOpen hlow (hle.trans htop) (hstay huv)

theorem canonical_configurations (htarget : InDomain target) :
    Canonical step.units target
      (allOpen :: (forwardConfigurations step target ++ reverseConfigurations step target))
      (forwardConfigurations step target).length := by
  have htop (axis : Fin 6) := (htarget axis).2
  have hforward := forward_walk step target htop
  have hreverse := reverse_walk step target htop
  generalize hF : forwardConfigurations step target = F at *
  generalize hR : reverseConfigurations step target = R at *
  -- Every pair of neighbours is a closing move before the peak or a reopening move after it.
  have hmove {i : ℕ} {x y : Registers} (hx : (allOpen :: (F ++ R))[i]? = some x)
      (hy : (allOpen :: (F ++ R))[i + 1]? = some y) :
      Closes step target x y ∨ F.length ≤ i ∧ Reopens step target x y := by
    by_cases hi : i + 1 ≤ F.length
    · rw [Walk.getElem?_left (by omega)] at hx
      rw [Walk.getElem?_left hi] at hy
      exact Or.inl (hforward.move hx hy)
    · rw [hforward.getElem?_right (by omega)] at hx
      rw [hforward.getElem?_right (by omega),
        show i + 1 - F.length = i - F.length + 1 by omega] at hy
      exact Or.inr ⟨by omega, hreverse.move hx hy⟩
  have hcloses {i j : ℕ} {x y : Registers} (hij : i ≤ j) (hj : j ≤ F.length)
      (hx : (allOpen :: (F ++ R))[i]? = some x) (hy : (allOpen :: (F ++ R))[j]? = some y) :
      ∀ axis, y axis ≤ x axis := by
    rw [Walk.getElem?_left (hij.trans hj)] at hx
    rw [Walk.getElem?_left hj] at hy
    refine hforward.rel_of_le (S := fun x y => ∀ axis, y axis ≤ x axis) (fun _ _ => le_rfl)
      (fun h h' axis => (h' axis).trans (h axis)) ?_ hij hx hy
    rintro _ _ ⟨axis, u, v, rfl, rfl, -, hle, -⟩
    exact line_mono hle
  have hreopens {i j : ℕ} {x y : Registers} (hi : F.length ≤ i) (hij : i ≤ j)
      (hx : (allOpen :: (F ++ R))[i]? = some x) (hy : (allOpen :: (F ++ R))[j]? = some y) :
      ∀ axis, x axis ≤ y axis := by
    rw [hforward.getElem?_right hi] at hx
    rw [hforward.getElem?_right (hi.trans hij)] at hy
    refine hreverse.rel_of_le (S := fun x y => ∀ axis, x axis ≤ y axis) (fun _ _ => le_rfl)
      (fun h h' axis => (h axis).trans (h' axis)) ?_ (Nat.sub_le_sub_right hij _) hx hy
    rintro _ _ ⟨axis, u, v, rfl, rfl, -, hle, -⟩
    exact line_mono hle
  -- Every configuration is on a line.
  have hmem : ∀ x ∈ allOpen :: (F ++ R), ∃ axis u, x = line target axis u := by
    have hclosing := hforward.forall_mem (P := fun x => ∃ axis u, x = line target axis u)
      (by
        rintro _ _ ⟨axis, u, v, -, rfl, -⟩ -
        exact ⟨axis, v, rfl⟩)
      ⟨5, 1000, allOpen_eq_line target⟩
    have hopening := hreverse.forall_mem (P := fun x => ∃ axis u, x = line target axis u)
      (by
        rintro _ _ ⟨axis, u, v, -, rfl, -⟩ -
        exact ⟨axis, v, rfl⟩)
      (hclosing target (List.mem_of_getElem? hforward.getElem?_length))
    intro x hx
    rw [← List.cons_append, List.mem_append] at hx
    rcases hx with hx | hx
    · exact hclosing x hx
    · exact hopening x (List.mem_cons_of_mem target hx)
  constructor
  case starts => rfl
  case passes => rw [hforward.getElem?_right le_rfl, Nat.sub_self]; rfl
  case ends =>
    rw [List.getLast?_eq_getElem?, List.length_cons, List.length_append, Nat.add_sub_cancel,
      hforward.getElem?_right (Nat.le_add_right _ _), Nat.add_sub_cancel_left]
    exact hreverse.getElem?_length
  case domain =>
    have hdomain := @configurations_inDomain step target htarget
    rw [hF, hR] at hdomain
    exact hdomain
  case single =>
    intro i x y hx hy axis other haxis hother
    rcases hmove hx hy with ⟨a, u, v, rfl, rfl, -⟩ | ⟨-, a, u, v, rfl, rfl, -⟩
    · exact (eq_of_line_ne haxis).trans (eq_of_line_ne hother).symm
    · exact (eq_of_line_ne haxis).trans (eq_of_line_ne hother).symm
  case closes => exact fun i j x y hij hj hx hy => hcloses hij hj hx hy
  case reopens => exact fun i j x y hi hij hx hy => hreopens hi hij hx hy
  case order =>
    intro x hx axis other hrank
    have hline := hmem x hx
    obtain ⟨a, u, rfl⟩ := hline
    exact line_order a u hrank
  case bounded =>
    intro i x y hx hy other
    have hsame {a : Fin 6} {u v : ℤ} (hne : other ≠ a) :
        |line target a v other - line target a u other| ≤ step.units := by
      rw [line_of_ne target hne v u, sub_self, abs_zero]
      exact le_trans (by decide) step.ten_le
    rcases hmove hx hy with ⟨a, u, v, rfl, rfl, -, hle, -, hstep, -⟩ |
      ⟨hi, a, u, v, rfl, rfl, -, hle, -, hstep, -⟩
    · by_cases heq : other = a
      · subst heq
        left
        rw [line_self, line_self, abs_le]
        have := step.ten_le
        omega
      · exact Or.inl (hsame heq)
    · by_cases heq : other = a
      · subst heq
        rw [line_self, line_self]
        rcases hstep with hstep | ⟨htarget, hboot⟩
        · left
          rw [abs_le]
          have := step.ten_le
          omega
        · exact Or.inr ⟨hi, htarget, hboot⟩
      · exact Or.inl (hsame heq)
  case noRepeat =>
    intro i j x hij hside hx hx'
    obtain ⟨hlt, -⟩ := List.getElem?_eq_some_iff.1 hx'
    obtain ⟨y, hy⟩ : ∃ y, (allOpen :: (F ++ R))[i + 1]? = some y :=
      ⟨_, List.getElem?_eq_getElem (lt_of_le_of_lt hij hlt)⟩
    -- What comes after `x` is between `x` and `x`.
    have hsame : y = x := by
      funext axis
      rcases hside with hj | hi
      · exact le_antisymm (hcloses (Nat.le_succ i) (by omega) hx hy axis)
          (hcloses hij hj hy hx' axis)
      · exact le_antisymm (hreopens (by omega) hij hy hx' axis)
          (hreopens hi (Nat.le_succ i) hx hy axis)
    subst hsame
    rcases hmove hx hy with h | ⟨-, h⟩
    · exact h.self
    · exact h.self

/-! ## The dense joint paths -/

section Dense

variable {F : Type} [FloatArith F]

def Answers (converter : Registers → Except PyError (List F)) (x : Registers) : Prop :=
  ∃ row, converter x = .ok row ∧ row.length = 12 ∧ row.all FloatArith.isFinite = true

theorem intervalRegisters_inDomain {start finish : Registers} (hstart : InDomain start)
    (hfinish : InDomain finish) (changed : List (Fin 6)) :
    ∀ x ∈ intervalRegisters start finish changed, InDomain x := by
  intro x hx
  cases changed with
  | nil =>
    rw [List.mem_singleton.1 hx]
    exact hstart
  | cons axis rest =>
    obtain ⟨k, hk, rfl⟩ := List.mem_map.1 hx
    rw [List.mem_range] at hk
    intro other
    by_cases h : other = axis
    · subst h
      have h₁ := hstart other
      have h₂ := hfinish other
      rw [Function.update_self]
      split_ifs <;> omega
    · rw [Function.update_of_ne h]
      exact hstart other

theorem length_changedAxes_le {start finish : Registers}
    (hsingle : ∀ axis other, start axis ≠ finish axis → start other ≠ finish other →
      axis = other) : (changedAxes start finish).length ≤ 1 := by
  have hnodup : (changedAxes start finish).Nodup := (List.nodup_finRange 6).filter _
  have hmem : ∀ axis ∈ changedAxes start finish, start axis ≠ finish axis := by
    intro axis haxis
    exact of_decide_eq_true (List.mem_filter.1 haxis).2
  match hchanged : changedAxes start finish with
  | [] => exact Nat.zero_le 1
  | [_] => exact le_rfl
  | axis :: other :: rest =>
    rw [hchanged] at hnodup hmem
    have heq := hsingle axis other (hmem axis (by simp)) (hmem other (by simp))
    subst heq
    simp at hnodup

theorem denseInterval_ok {converter : Registers → Except PyError (List F)}
    (hanswers : ∀ x, InDomain x → Answers converter x) (index : ℕ)
    {first second : RH56HandWaypoint}
    (hsingle : ∀ axis other,
      first.actuatorConfiguration axis ≠ second.actuatorConfiguration axis →
      first.actuatorConfiguration other ≠ second.actuatorConfiguration other → axis = other) :
    ∃ q12, denseInterval converter index first second = .ok q12 := by
  have hdomain := intervalRegisters_inDomain first.configuration_mem second.configuration_mem
    (changedAxes first.actuatorConfiguration second.actuatorConfiguration)
  obtain ⟨rows, hrows, hall⟩ := exists_mapM_ok (f := converter)
    (P := fun _ row => row.length = 12 ∧ row.all FloatArith.isFinite = true)
    fun x hx => hanswers x (hdomain x hx)
  have hvalid : ∀ row ∈ rows, row.length = 12 ∧ row.all FloatArith.isFinite = true := by
    intro row hrow
    obtain ⟨k, hk, rfl⟩ := List.mem_iff_getElem.1 hrow
    exact hall.get (by rw [hall.length_eq]; exact hk) hk
  have hstack : npStack rows = .ok rows := by
    refine if_pos ?_
    intro row hrow
    rw [(hvalid row hrow).1]
    cases rows with
    | nil => cases hrow
    | cons head rest => exact (hvalid head List.mem_cons_self).1.symm
  refine ⟨rows, ?_⟩
  unfold denseInterval
  dsimp only
  rw [if_neg (not_lt_of_ge (length_changedAxes_le hsingle))]
  show (_ >>= fun rows => _) = _
  rw [hrows, except_ok_bind, hstack, except_ok_bind, if_neg (not_not_intro hvalid)]
  rfl

/-- **A path with canonical configurations** is mapped, one interval after the other. -/
theorem dense_ok {converter : Registers → Except PyError (List F)}
    (hanswers : ∀ x, InDomain x → Answers converter x) {path : RH56HandExecutionPath} {peak : ℕ}
    (hpath : Canonical path.stepUnits.units path.target path.configurations peak) :
    ∃ intervals, denseRh56HandIntervalJointPaths path converter = .ok intervals ∧
      intervals.length + 1 = path.waypoints.length := by
  have hne : path.waypoints ≠ [] := by
    intro hnil
    have hstarts := hpath.starts
    unfold RH56HandExecutionPath.configurations at hstarts
    rw [hnil] at hstarts
    cases hstarts
  obtain ⟨intervals, hintervals, hall⟩ := exists_mapM_ok (P := fun _ _ => True)
    (l := (path.waypoints.dropLast.zip path.waypoints.tail).zipIdx)
    (f := fun interval : (RH56HandWaypoint × RH56HandWaypoint) × ℕ =>
      denseInterval converter interval.2 interval.1.1 interval.1.2) (by
    rintro ⟨⟨first, second⟩, index⟩ hmem
    have hzip := (List.mk_mem_zipIdx_iff_getElem?.1 hmem)
    rw [List.getElem?_zip_eq_some] at hzip
    obtain ⟨hfirst, hsecond⟩ := hzip
    rw [List.getElem?_dropLast] at hfirst
    split_ifs at hfirst with hlt
    rw [List.getElem?_tail] at hsecond
    have hconfiguration {i : ℕ} {waypoint : RH56HandWaypoint}
        (h : path.waypoints[i]? = some waypoint) :
        path.configurations[i]? = some waypoint.actuatorConfiguration := by
      unfold RH56HandExecutionPath.configurations
      rw [List.getElem?_map, h]
      rfl
    obtain ⟨q12, hq12⟩ := denseInterval_ok hanswers index
      (hpath.single index _ _ (hconfiguration hfirst) (hconfiguration hsecond))
    exact ⟨q12, hq12, trivial⟩)
  refine ⟨intervals, hintervals, ?_⟩
  have hpositive := List.length_pos_iff.2 hne
  rw [← hall.length_eq, List.length_zipIdx, List.length_zip, List.length_dropLast,
    List.length_tail]
  omega

end Dense

end FrankaDeploy.HandPath
