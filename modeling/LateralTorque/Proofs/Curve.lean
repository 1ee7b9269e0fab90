import Mathlib
import LateralTorque.Gain
import LateralTorque.Proofs.Exact

/-!
# Curves in exact arithmetic

A piecewise linear curve takes its values at its points and on the lines between them, whatever the
order of the breakpoints.  So what is convex and holds the values of a table holds all that is read
from it, which is all that most laws of the controller need of their tables.

* `interp_mem` — a convex set with all values of a curve holds the whole curve;
* `GainSchedule.value_nonneg` — a schedule of gains that are not negative gives no negative gain.

Which of the values a curve takes where is said in `Breakpoints`.
-/

set_option autoImplicit false

namespace LateralTorque

namespace Exact

variable {S : Set ℝ}

theorem linearMap_mem (hS : Convex ℝ S) {s₀ s₁ t₀ t₁ x : ℝ} (h₀ : t₀ ∈ S) (h₁ : t₁ ∈ S)
    (hleft : s₀ ≤ x) (hright : x ≤ s₁) : linearMap s₀ s₁ t₀ t₁ x ∈ S := by
  have hweight : (x - s₀) / (s₁ - s₀) ∈ Set.Icc 0 1 :=
    ⟨div_nonneg (sub_nonneg.mpr hleft) (sub_nonneg.mpr (hleft.trans hright)),
      div_le_one_of_le₀ (sub_le_sub_right hright s₀) (sub_nonneg.mpr (hleft.trans hright))⟩
  have hline : linearMap s₀ s₁ t₀ t₁ x = t₀ + ((x - s₀) / (s₁ - s₀)) • (t₁ - t₀) := by
    rw [linearMap, smul_eq_mul, mul_div_right_comm]
  rw [hline]
  exact hS.add_smul_sub_mem h₀ h₁ hweight

/-- Along the points, `x` stays to the right of the point before. -/
theorem interpAfter_mem (hS : Convex ℝ S) {x : ℝ} {before : ℝ × ℝ} (hleft : before.1 ≤ x)
    (hbefore : before.2 ∈ S) {points : List (ℝ × ℝ)} (hpoints : ∀ p ∈ points, p.2 ∈ S) :
    interpAfter x before points ∈ S := by
  induction points generalizing before with
  | nil => exact hbefore
  | cons point rest ih =>
    obtain ⟨hpoint, hrest⟩ := List.forall_mem_cons.mp hpoints
    unfold interpAfter
    split
    · rename_i hright
      split
      · exact hpoint
      · exact linearMap_mem hS hbefore hpoint hleft hright
    · rename_i hbeyond
      exact ih (not_le.mp hbeyond).le hpoint hrest

theorem interpPoints_mem (hS : Convex ℝ S) (x : ℝ) {points : List (ℝ × ℝ)} (hne : points ≠ [])
    (hpoints : ∀ p ∈ points, p.2 ∈ S) : interpPoints x points ∈ S := by
  cases points with
  | nil => exact absurd rfl hne
  | cons first rest =>
    obtain ⟨hfirst, hrest⟩ := List.forall_mem_cons.mp hpoints
    have hlast : (rest.getLast?.getD first).2 ∈ S := by
      cases hlast : rest.getLast? with
      | none => exact hfirst
      | some last => exact hrest last (List.mem_of_getLast? hlast)
    by_cases hbefore : x ≤ first.1
    · simpa [interpPoints, hbefore] using hfirst
    · have hinside := interpAfter_mem hS (not_le.mp hbefore).le hfirst hrest
      simp only [interpPoints, if_neg hbefore]
      split
      · exact hlast
      · exact hinside

/-- **A curve stays within every convex set that holds its values**, if it has a point at all. -/
theorem interp_mem (hS : Convex ℝ S) (x : ℝ) {breakpoints values : List ℝ}
    (hne : breakpoints.zip values ≠ []) (hvalues : ∀ y ∈ values, y ∈ S) :
    interp x breakpoints values ∈ S :=
  interpPoints_mem hS x hne fun _ hp => hvalues _ (List.of_mem_zip hp).2

end Exact

@[simp] theorem GainSchedule.value_constant {α : Type} [Scalar α] (gain speed : α) :
    (constant gain).value speed = gain := by
  show interpPoints speed [(0, gain)] = gain
  unfold interpPoints
  dsimp only
  split
  · rfl
  · split <;> rfl

/-- A schedule of gains that are not negative gives no negative gain at any speed. -/
theorem GainSchedule.value_nonneg {g : GainSchedule ℝ} (h : ∀ gain ∈ g.gains, 0 ≤ gain)
    (speed : ℝ) : 0 ≤ g.value speed := by
  by_cases hne : g.speeds.zip g.gains = []
  · rw [value, interp, hne]
    exact le_rfl
  · exact Exact.interp_mem (convex_Ici 0) speed hne h

end LateralTorque
