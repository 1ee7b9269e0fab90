import Mathlib
import LateralTorque.LowSpeed
import LateralTorque.Signals
import LateralTorque.Proofs.Curve
import LateralTorque.Proofs.Mirror
import LateralTorque.Proofs.Run
import LateralTorque.Proofs.Smoothing

/-!
# Curves and order

A piecewise linear curve keeps order in two ways: in the argument, where its values are in order,
and in the values, where one curve lies above another point by point.  Both hold across any number
of segments and jumps, and in whatever order the breakpoints are.

Arithmetic is exact.  The lists may be of different lengths, of which the common part counts, and
have to have one point at least, since a curve without points is zero.

* `interpAfter_mono`, `interp_mono` — a curve through values that do not descend does not descend;
* `interpAfter_le`, `interp_le` — a curve through larger values is nowhere below;
* `curve_bounded_and_monotone` — bounds and order of every curve, and what follows for gain
  schedules, the attenuation of the curvature and the low speed factor.

Rounding is left out: in double precision the value on a segment may miss the line by an ulp, and
with it the bounds.
-/

set_option autoImplicit false

namespace LateralTorque

namespace Exact

/-! ## Order in the argument -/

theorem linearMap_mono {s₀ s₁ t₀ t₁ x y : ℝ} (hwidth : s₀ < s₁) (ht : t₀ ≤ t₁) (hxy : x ≤ y) :
    linearMap s₀ s₁ t₀ t₁ x ≤ linearMap s₀ s₁ t₀ t₁ y := by
  have hrise : (x - s₀) * (t₁ - t₀) ≤ (y - s₀) * (t₁ - t₀) :=
    mul_le_mul_of_nonneg_right (sub_le_sub_right hxy s₀) (sub_nonneg.mpr ht)
  exact add_le_add le_rfl (div_le_div_of_nonneg_right hrise (sub_pos.mpr hwidth).le)

/-- Along the points, `x` stays to the right of the point before. -/
theorem interpAfter_mono {x y : ℝ} (hxy : x ≤ y) {before : ℝ × ℝ} (hbefore : before.1 < x)
    {points : List (ℝ × ℝ)}
    (hrising : ((before :: points).map Prod.snd).Pairwise (· ≤ ·)) :
    interpAfter x before points ≤ interpAfter y before points := by
  induction points generalizing before with
  | nil => exact le_rfl
  | cons point rest ih =>
    obtain ⟨hfirst, hlater⟩ := List.pairwise_cons.mp hrising
    have hstep : before.2 ≤ point.2 := hfirst point.2 (by simp)
    rcases lt_or_ge point.1 x with hx | hx
    · -- Both arguments lie beyond the segment.
      have hy : ¬ y ≤ point.1 := not_le.mpr (hx.trans_le hxy)
      rw [interpAfter, interpAfter, if_neg (not_le.mpr hx), if_neg hy]
      exact ih hx hlater
    · have hwidth : ¬ (point.1 == before.1) = true := by
        rw [beq_iff]
        exact (hbefore.trans_le hx).ne'
      rw [interpAfter, if_pos hx, if_neg hwidth]
      rcases lt_or_ge point.1 y with hy | hy
      · -- The segment lies between the arguments: the curve passes its end.
        have hupto : linearMap before.1 point.1 before.2 point.2 x ∈ Set.Iic point.2 :=
          linearMap_mem (convex_Iic _) hstep Set.self_mem_Iic hbefore.le hx
        have hbeyond : interpAfter y point rest ∈ Set.Ici point.2 := by
          refine interpAfter_mem (convex_Ici _) hy.le Set.self_mem_Ici fun p hp => ?_
          exact List.rel_of_pairwise_cons hlater (List.mem_map_of_mem hp)
        rw [interpAfter, if_neg (not_le.mpr hy)]
        exact le_trans hupto hbeyond
      · rw [interpAfter, if_pos hy, if_neg hwidth]
        exact linearMap_mono (hbefore.trans_le hx) hstep hxy

theorem interpPoints_mono {points : List (ℝ × ℝ)}
    (hrising : (points.map Prod.snd).Pairwise (· ≤ ·)) :
    Monotone fun x => interpPoints x points := by
  intro x y hxy
  cases points with
  | nil => exact le_rfl
  | cons first rest =>
    obtain ⟨last, hlast⟩ : ∃ last, rest.getLast?.getD first = last := ⟨_, rfl⟩
    have hend : (first :: rest).getLast (List.cons_ne_nil _ _) = last := by
      rw [List.getLast_eq_iff_getLast?_eq_some, List.getLast?_cons, hlast]
    have hfirst : ∀ p ∈ first :: rest, first.2 ≤ p.2 := fun p hp =>
      hrising.rel_head (List.mem_map_of_mem hp)
    have htop : ∀ p ∈ first :: rest, p.2 ≤ last.2 := by
      intro p hp
      have hle := hrising.rel_getLast (List.mem_map_of_mem hp)
      rwa [List.getLast_map, hend] at hle
    have hlow : first.2 ≤ interpPoints y (first :: rest) :=
      interpPoints_mem (convex_Ici _) y (List.cons_ne_nil _ _) hfirst
    have hhigh : interpPoints x (first :: rest) ≤ last.2 :=
      interpPoints_mem (convex_Iic _) x (List.cons_ne_nil _ _) htop
    dsimp only
    by_cases hx : x ≤ first.1
    · calc interpPoints x (first :: rest) = first.2 := by rw [interpPoints]; exact if_pos hx
        _ ≤ interpPoints y (first :: rest) := hlow
    have hy : ¬ y ≤ first.1 := fun hy => hx (hxy.trans hy)
    by_cases hyend : last.1 ≤ y
    · calc interpPoints x (first :: rest) ≤ last.2 := hhigh
        _ = interpPoints y (first :: rest) := by
          rw [interpPoints]
          simp only [hlast, if_neg hy, if_pos hyend]
    have hxend : ¬ last.1 ≤ x := fun hxend => hyend (hxend.trans hxy)
    simp only [interpPoints, hlast, if_neg hx, if_neg hy, if_neg hxend, if_neg hyend]
    exact interpAfter_mono hxy (not_le.mp hx) hrising

/-- The values that a curve has points for. -/
theorem map_snd_zip_eq (breakpoints values : List ℝ) :
    (breakpoints.zip values).map Prod.snd = values.take breakpoints.length := by
  induction breakpoints generalizing values with
  | nil => rfl
  | cons first rest ih =>
    cases values with
    | nil => rfl
    | cons value others => exact congrArg (value :: ·) (ih others)

theorem interp_mono {breakpoints values : List ℝ}
    (hrising : (values.take breakpoints.length).Pairwise (· ≤ ·)) :
    Monotone fun x => interp x breakpoints values := by
  rw [← map_snd_zip_eq] at hrising
  exact interpPoints_mono hrising

/-- A falling curve is a rising one upside down. -/
theorem interp_anti {breakpoints values : List ℝ}
    (hfalling : (values.take breakpoints.length).Pairwise (· ≥ ·)) :
    Antitone fun x => interp x breakpoints values := by
  have hrising : ((values.map (- ·)).take breakpoints.length).Pairwise (· ≤ ·) := by
    rw [← List.map_take, List.pairwise_map]
    exact hfalling.imp fun h => neg_le_neg h
  intro x y hxy
  have hneg := interp_mono hrising hxy
  dsimp only at hneg
  rwa [interp_neg, interp_neg, neg_le_neg_iff] at hneg

/-! ## Order in the values -/

theorem linearMap_le {s₀ s₁ t₀ t₁ u₀ u₁ x : ℝ} (hleft : s₀ < x) (hright : x ≤ s₁) (h₀ : t₀ ≤ u₀)
    (h₁ : t₁ ≤ u₁) : linearMap s₀ s₁ t₀ t₁ x ≤ linearMap s₀ s₁ u₀ u₁ x := by
  -- The difference of the two lines is a line between differences that are not negative.
  have hgap : linearMap s₀ s₁ (u₀ - t₀) (u₁ - t₁) x ∈ Set.Ici 0 :=
    linearMap_mem (convex_Ici 0) (sub_nonneg.mpr h₀) (sub_nonneg.mpr h₁) hleft.le hright
  have hdifference : linearMap s₀ s₁ (u₀ - t₀) (u₁ - t₁) x
      = linearMap s₀ s₁ u₀ u₁ x - linearMap s₀ s₁ t₀ t₁ x := by
    unfold linearMap
    ring
  rw [hdifference] at hgap
  exact sub_nonneg.mp hgap

/-- A point at the same breakpoint with no smaller value. -/
def Below (p q : ℝ × ℝ) : Prop := p.1 = q.1 ∧ p.2 ≤ q.2

theorem interpAfter_le {x : ℝ} {before other : ℝ × ℝ} (hbefore : Below before other)
    (hx : before.1 < x) {points others : List (ℝ × ℝ)} (h : List.Forall₂ Below points others) :
    interpAfter x before points ≤ interpAfter x other others := by
  induction h generalizing before other with
  | nil => exact hbefore.2
  | @cons p q rest rest' hpoint _ ih =>
    have hstep : (p.1 == before.1) = (q.1 == other.1) := by rw [hpoint.1, hbefore.1]
    unfold interpAfter
    rw [hstep, hpoint.1]
    by_cases hright : x ≤ q.1
    · rw [if_pos hright, if_pos hright]
      split
      · exact hpoint.2
      · rw [hbefore.1] at hx ⊢
        exact linearMap_le hx hright hbefore.2 hpoint.2
    · rw [if_neg hright, if_neg hright]
      refine ih hpoint ?_
      rw [hpoint.1]
      exact not_le.mp hright

theorem getLast?_below {points others : List (ℝ × ℝ)} (h : List.Forall₂ Below points others)
    {first other : ℝ × ℝ} (hfirst : Below first other) :
    Below (points.getLast?.getD first) (others.getLast?.getD other) := by
  induction h generalizing first other with
  | nil => exact hfirst
  | cons hpoint _ ih =>
    rw [List.getLast?_cons, List.getLast?_cons]
    exact ih hpoint

theorem interpPoints_le (x : ℝ) {points others : List (ℝ × ℝ)}
    (h : List.Forall₂ Below points others) : interpPoints x points ≤ interpPoints x others := by
  cases h with
  | nil => exact le_rfl
  | @cons first other rest rest' hfirst hrest =>
    have hlast := getLast?_below hrest hfirst
    unfold interpPoints
    dsimp only
    rw [hlast.1, hfirst.1]
    by_cases hleft : x ≤ other.1
    · rw [if_pos hleft, if_pos hleft]
      exact hfirst.2
    · rw [if_neg hleft, if_neg hleft]
      split
      · exact hlast.2
      · refine interpAfter_le hfirst ?_ hrest
        rw [hfirst.1]
        exact not_le.mp hleft

theorem interp_le (x : ℝ) {breakpoints values others : List ℝ}
    (h : List.Forall₂ (· ≤ ·) (values.take breakpoints.length)
      (others.take breakpoints.length)) :
    interp x breakpoints values ≤ interp x breakpoints others := by
  refine interpPoints_le x ?_
  induction breakpoints generalizing values others with
  | nil => exact .nil
  | cons first rest ih =>
    cases values with
    | nil =>
      cases others with
      | nil => exact .nil
      | cons other others => cases h
    | cons value values =>
      cases others with
      | nil => cases h
      | cons other others =>
        obtain ⟨hfirst, hrest⟩ := List.forall₂_cons.mp h
        exact .cons ⟨rfl, hfirst⟩ (ih hrest)

/-! ## Bounds -/

/-- A curve stays between the smallest and the largest of its values. -/
theorem interp_mem_Icc (x : ℝ) {breakpoints values : List ℝ}
    (hne : values.take breakpoints.length ≠ []) :
    interp x breakpoints values ∈ Set.Icc ((values.take breakpoints.length).min hne)
      ((values.take breakpoints.length).max hne) := by
  have hvalues := map_snd_zip_eq breakpoints values
  refine interpPoints_mem (convex_Icc _ _) x ?_ fun p hp => ?_
  · rintro hnone
    rw [hnone] at hvalues
    exact hne hvalues.symm
  · have hmem : p.2 ∈ values.take breakpoints.length := hvalues ▸ List.mem_map_of_mem hp
    exact ⟨List.min_le_of_mem hmem, List.le_max_of_mem hmem⟩

end Exact

open Exact

/-- A schedule that can be used stays between the smallest and the largest of its gains. -/
theorem GainSchedule.value_mem_Icc {g : GainSchedule ℝ} (h : g.isValid = true) (speed : ℝ) :
    ∃ low ∈ g.gains, ∃ high ∈ g.gains, g.value speed ∈ Set.Icc low high := by
  simp only [isValid, Bool.and_eq_true, Bool.not_eq_true', List.isEmpty_eq_false_iff, beq_iff_eq]
    at h
  obtain ⟨⟨⟨hspeeds, hlength⟩, -⟩, -⟩ := h
  have hgains : g.gains.take g.speeds.length = g.gains := by rw [hlength, List.take_length]
  have hne : g.gains.take g.speeds.length ≠ [] := by
    rw [hgains, ← List.length_pos_iff, ← hlength]
    exact List.length_pos_iff.mpr hspeeds
  refine ⟨_, ?_, _, ?_, interp_mem_Icc speed hne⟩
  · exact List.mem_of_mem_take (List.min_mem hne)
  · exact List.mem_of_mem_take (List.max_mem hne)

theorem curvatureAttenuation_mem (speed : ℝ) : curvatureAttenuation speed ∈ Set.Icc 0.88 1 := by
  refine interp_mem (convex_Icc _ _) speed (by simp) fun y hy => ?_
  simp only [List.mem_cons, List.not_mem_nil, or_false] at hy
  rcases hy with rfl | rfl | rfl <;> norm_num

/-- The standard table asks for less where the factor is suppressed. -/
theorem LowSpeedTable.standard_factor_le (speed : ℝ) :
    (standard : LowSpeedTable ℝ).factor speed true
      ≤ (standard : LowSpeedTable ℝ).factor speed false := by
  have hroots : interp speed (standard : LowSpeedTable ℝ).speeds standard.suppressedRoots
      ≤ interp speed (standard : LowSpeedTable ℝ).speeds standard.roots := by
    apply interp_le
    norm_num [standard]
  have hpositive : interp speed (standard : LowSpeedTable ℝ).speeds standard.suppressedRoots
      ∈ Set.Ici 0 := by
    refine interp_mem (convex_Ici 0) speed (by simp [standard]) fun y hy => ?_
    simp only [standard, List.mem_cons, List.not_mem_nil, or_false] at hy
    rcases hy with rfl | rfl | rfl | rfl <;> norm_num
  exact mul_self_le_mul_self hpositive hroots

/-- **Bounds and order of curves.**  Every curve stays between the smallest and the largest of its
values, in whatever order its breakpoints are, repeated ones included.  Through values that do not
descend it does not descend, through values that do not ascend it does not ascend, and through larger
values it is nowhere below.  So accepted gain schedules stay within their gains, the attenuation of
the curvature within 0.88 and 1, and the standard low speed factor is not larger where it is
suppressed. -/
theorem curve_bounded_and_monotone :
    (∀ (breakpoints values : List ℝ) (hne : values.take breakpoints.length ≠ []),
      (∀ x, interp x breakpoints values ∈ Set.Icc ((values.take breakpoints.length).min hne)
        ((values.take breakpoints.length).max hne)) ∧
      ((values.take breakpoints.length).Pairwise (· ≤ ·) →
        Monotone fun x => interp x breakpoints values) ∧
      ((values.take breakpoints.length).Pairwise (· ≥ ·) →
        Antitone fun x => interp x breakpoints values) ∧
      ∀ others, List.Forall₂ (· ≤ ·) (values.take breakpoints.length)
          (others.take breakpoints.length) →
        ∀ x, interp x breakpoints values ≤ interp x breakpoints others) ∧
    (∀ params : Params ℝ, params.validate = .ok () → ∀ named ∈ params.schedules, ∀ speed,
      ∃ low ∈ named.2.gains, ∃ high ∈ named.2.gains,
        named.2.value speed ∈ Set.Icc low high) ∧
    (∀ speed : ℝ, curvatureAttenuation speed ∈ Set.Icc 0.88 1) ∧
    ∀ speed, (LowSpeedTable.standard : LowSpeedTable ℝ).factor speed true
      ≤ (LowSpeedTable.standard : LowSpeedTable ℝ).factor speed false := by
  refine ⟨fun breakpoints values hne => ?_, fun params hvalid named hmem speed => ?_,
    curvatureAttenuation_mem, LowSpeedTable.standard_factor_le⟩
  · exact ⟨fun x => interp_mem_Icc x hne, interp_mono, interp_anti, fun others h x => interp_le x h⟩
  · obtain ⟨-, -, -, -, hschedules⟩ := Params.validate_eq_ok_iff.mp hvalid
    exact GainSchedule.value_mem_Icc (hschedules named hmem) speed

/-- A curve over a step stays between its values, never descends and lies below the same curve one
higher; and the gains of the standard parameters stay within their lists. -/
theorem curve_rises_over_step :
    let curve := fun x : ℝ => interp x [0, 10, 10, 20] [1, 1, 2, 2]
    (∀ x, curve x ∈ Set.Icc 1 2) ∧ Monotone curve ∧
      (∀ x, curve x ≤ interp x [0, 10, 10, 20] [2, 2, 3, 3]) ∧
      (Params.standard : Params ℝ).validate = .ok () ∧
      ∀ speed, ∃ low ∈ (Params.standard : Params ℝ).integralGain.gains,
        ∃ high ∈ (Params.standard : Params ℝ).integralGain.gains,
          (Params.standard : Params ℝ).integralGain.value speed ∈ Set.Icc low high := by
  intro curve
  have hne : ([1, 1, 2, 2] : List ℝ).take ([0, 10, 10, 20] : List ℝ).length ≠ [] := by simp
  have hends : (([1, 1, 2, 2] : List ℝ).take ([0, 10, 10, 20] : List ℝ).length).min hne = 1 ∧
      (([1, 1, 2, 2] : List ℝ).take ([0, 10, 10, 20] : List ℝ).length).max hne = 2 := by
    show List.foldl min (1 : ℝ) [1, 2, 2] = 1 ∧ List.foldl max (1 : ℝ) [1, 2, 2] = 2
    norm_num
  obtain ⟨hcurves, hschedules, -, -⟩ := curve_bounded_and_monotone
  obtain ⟨hmem, hrising, -, hbelow⟩ := hcurves [0, 10, 10, 20] [1, 1, 2, 2] hne
  rw [hends.1, hends.2] at hmem
  have hvalid : (Params.standard : Params ℝ).validate = .ok () := Params.validate_standard_exact
  refine ⟨hmem, hrising (by norm_num), hbelow [2, 2, 3, 3] (by norm_num), hvalid, fun speed => ?_⟩
  exact hschedules Params.standard hvalid ("k_i", Params.standard.integralGain)
    (by simp [Params.schedules]) speed

end LateralTorque
