import Mathlib
import LateralTorque.Scalar

/-!
# Exact arithmetic

Over the real numbers the control laws are what double precision approximates: every value is
finite, comparisons are those of the order, and the operations obey the laws of a field.  Rounding,
overflow, signed zeros and NaN are left out, and the quotient by zero is zero.

* `Scalar ℝ` — the real numbers as numbers to compute with;
* `isFinite_eq`, `abs_eq`, `beq_iff` — its operations in the words of the order;
* `sign_neg`, `clamp_neg` — the derived operations under a change of sign;
* `clamp_eq`, `clamp_mem`, `maxNum_eq` — and their values.

What hinges on a quotient by zero is told apart in `Guarded`, and what becomes of special values in
`Extended`.
-/

set_option autoImplicit false

namespace LateralTorque

noncomputable instance : Scalar ℝ where
  decidableLT a b := Real.decidableLT a b
  decidableLE a b := Real.decidableLE a b
  beq a b := decide (a = b)
  isFinite _ := true
  abs x := |x|
  signum x := if 0 ≤ x then 1 else -1
  cos := Real.cos
  exp := Real.exp
  tanh := Real.tanh
  pi := Real.pi
  ofDecimal m e := m * 10 ^ e

namespace Exact

@[simp] theorem isFinite_eq (x : ℝ) : Scalar.isFinite x = true := rfl

theorem all_isFinite (values : List ℝ) : values.all Scalar.isFinite = true :=
  List.all_eq_true.mpr fun _ _ => rfl

@[simp] theorem abs_eq (x : ℝ) : Scalar.abs x = |x| := rfl

theorem beq_iff {x y : ℝ} : (x == y) = true ↔ x = y := decide_eq_true_iff

@[simp] theorem neg_beq_neg (x y : ℝ) : (-x == -y) = (x == y) := by
  rw [Bool.eq_iff_iff, beq_iff, beq_iff, neg_inj]

@[simp] theorem neg_beq_zero (x : ℝ) : (-x == 0) = (x == 0) := by
  rw [Bool.eq_iff_iff, beq_iff, beq_iff, neg_eq_zero]

@[simp] theorem sign_neg (x : ℝ) : Scalar.sign (-x) = -Scalar.sign x := by
  unfold Scalar.sign
  rcases lt_trichotomy x 0 with h | rfl | h
  · simp [h, h.not_gt]
  · simp
  · simp [h, h.not_gt]

theorem clamp_neg {limit : ℝ} (h : 0 ≤ limit) (x : ℝ) :
    Scalar.clamp (-x) (-limit) limit = -Scalar.clamp x (-limit) limit := by
  unfold Scalar.clamp
  grind

theorem clamp_eq (x low high : ℝ) : Scalar.clamp x low high = max low (min high x) := by
  unfold Scalar.clamp
  grind

theorem clamp_mem {low high : ℝ} (h : low ≤ high) (x : ℝ) :
    Scalar.clamp x low high ∈ Set.Icc low high := by
  unfold Scalar.clamp
  grind

theorem maxNum_eq (x y : ℝ) : Scalar.maxNum x y = max x y := by
  unfold Scalar.maxNum
  split
  · rename_i h
    exact (max_eq_right h.le).symm
  · rename_i h
    rw [if_pos (beq_iff.mpr rfl), max_eq_left (not_lt.mp h)]

end Exact

end LateralTorque
