import LateralTorque.Proofs.Exact

/-!
# Exact arithmetic with special values

The real numbers with the two infinities and NaN: finite numbers are computed with exactly and never
overflow, and the special values behave as in double precision.  Zeros have no sign here, so a
quotient by zero takes the sign of its dividend.

Between `Exact`, which has no special values, and `Double`, which has rounding, this is where it can
be said for certain which results are finite: a sum of finite numbers is, and so is a product.

* `Scalar Extended` — these numbers as numbers to compute with;
* `isFinite_add`, `isFinite_mul`, `isFinite_cos` — a result is finite exactly where its operands
  are;
* `isFinite_div`, `maxNum_real` — what else keeps finite numbers finite.
-/

set_option autoImplicit false

namespace LateralTorque

/-- A real number, an infinity or NaN. -/
inductive Extended where
  | real (x : ℝ)
  | infinity (negative : Bool)
  | nan

namespace Extended

/-- The value in the order of the extended reals; NaN has none. -/
noncomputable def value? : Extended → Option EReal
  | real x => some x
  | infinity negative => some (if negative then ⊥ else ⊤)
  | nan => none

/-- Whether a number is below zero; NaN is not. -/
noncomputable def isNegative : Extended → Bool
  | real x => decide (x < 0)
  | infinity negative => negative
  | nan => false

protected def neg : Extended → Extended
  | real x => real (-x)
  | infinity negative => infinity !negative
  | nan => nan

protected def add : Extended → Extended → Extended
  | real x, real y => real (x + y)
  | infinity negative, real _ | real _, infinity negative => infinity negative
  | infinity a, infinity b => if a = b then infinity a else nan
  | nan, _ | _, nan => nan

/-- A product with an infinity has the sign of the factors, and is NaN if the other one is zero. -/
protected noncomputable def mul : Extended → Extended → Extended
  | real x, real y => real (x * y)
  | infinity negative, real x | real x, infinity negative =>
    if x = 0 then nan else infinity (negative != decide (x < 0))
  | infinity a, infinity b => infinity (a != b)
  | nan, _ | _, nan => nan

protected noncomputable def div : Extended → Extended → Extended
  | real x, real y =>
    if y = 0 then if x = 0 then nan else infinity (decide (x < 0)) else real (x / y)
  | real _, infinity _ => real 0
  | infinity negative, real x => infinity (negative != decide (x < 0))
  | infinity _, infinity _ => nan
  | nan, _ | _, nan => nan

open Classical in
noncomputable instance : Scalar Extended where
  zero := real 0
  one := real 1
  add := Extended.add
  sub a b := Extended.add a b.neg
  mul := Extended.mul
  div := Extended.div
  neg := Extended.neg
  lt a b := ∃ x y, a.value? = some x ∧ b.value? = some y ∧ x < y
  le a b := ∃ x y, a.value? = some x ∧ b.value? = some y ∧ x ≤ y
  beq a b := decide (a.value? ≠ none ∧ a.value? = b.value?)
  ofScientific m negative e := real (OfScientific.ofScientific m negative e)
  natCast n := real n
  decidableLT _ _ := inferInstance
  decidableLE _ _ := inferInstance
  isFinite a := match a with
    | real _ => true
    | infinity _ | nan => false
  abs a := match a with
    | real x => real |x|
    | infinity _ => infinity false
    | nan => nan
  signum a := match a with
    | nan => nan
    | _ => real (if a.isNegative then -1 else 1)
  cos a := match a with
    | real x => real (Real.cos x)
    | infinity _ | nan => nan
  exp a := match a with
    | real x => real (Real.exp x)
    | infinity negative => if negative then real 0 else infinity false
    | nan => nan
  tanh a := match a with
    | real x => real (Real.tanh x)
    | infinity negative => real (if negative then -1 else 1)
    | nan => nan
  pi := real Real.pi
  ofDecimal m e := real (Scalar.ofDecimal m e)

/-! ## Finite numbers -/

variable {a b : Extended} {x y : ℝ}

@[simp] theorem isFinite_real (x : ℝ) : Scalar.isFinite (real x) = true := rfl

@[simp] theorem isFinite_ofScientific (m : Nat) (negative : Bool) (e : Nat) :
    Scalar.isFinite (OfScientific.ofScientific m negative e : Extended) = true := rfl

@[simp] theorem isFinite_one : Scalar.isFinite (1 : Extended) = true := rfl

theorem isFinite_iff : Scalar.isFinite a = true ↔ ∃ x, a = real x := by
  cases a with
  | real x => exact ⟨fun _ => ⟨x, rfl⟩, fun _ => rfl⟩
  | infinity negative | nan => exact ⟨fun h => (by cases h), fun ⟨_, h⟩ => (by cases h)⟩

theorem real_sub (x y : ℝ) : real x - real y = real (x - y) := by
  rw [sub_eq_add_neg]
  rfl

theorem real_div (x : ℝ) (hy : y ≠ 0) : real x / real y = real (x / y) := by
  show Extended.div (real x) (real y) = _
  rw [Extended.div, if_neg hy]

@[simp] theorem isFinite_add (a b : Extended) :
    Scalar.isFinite (a + b) = (Scalar.isFinite a && Scalar.isFinite b) := by
  cases a with
  | real x => cases b <;> rfl
  | nan => cases b <;> rfl
  | infinity p =>
    cases b with
    | real y | nan => rfl
    | infinity q =>
      show Scalar.isFinite (if p = q then infinity p else nan) = false
      split <;> rfl

@[simp] theorem isFinite_sub (a b : Extended) :
    Scalar.isFinite (a - b) = (Scalar.isFinite a && Scalar.isFinite b) := by
  show Scalar.isFinite (a + b.neg) = _
  rw [isFinite_add]
  cases b <;> rfl

@[simp] theorem isFinite_mul (a b : Extended) :
    Scalar.isFinite (a * b) = (Scalar.isFinite a && Scalar.isFinite b) := by
  cases a with
  | nan => cases b <;> rfl
  | real x =>
    cases b with
    | real y | nan => rfl
    | infinity q =>
      show Scalar.isFinite (if x = 0 then nan else infinity (q != decide (x < 0))) = false
      split <;> rfl
  | infinity p =>
    cases b with
    | infinity q | nan => rfl
    | real y =>
      show Scalar.isFinite (if y = 0 then nan else infinity (p != decide (y < 0))) = false
      split <;> rfl

@[simp] theorem isFinite_neg (a : Extended) : Scalar.isFinite (-a) = Scalar.isFinite a := by
  cases a <;> rfl

@[simp] theorem isFinite_cos (a : Extended) : Scalar.isFinite (Scalar.cos a) = Scalar.isFinite a := by
  cases a <;> rfl

theorem isFinite_div (a : Extended) (hy : y ≠ 0) :
    Scalar.isFinite (a / real y) = Scalar.isFinite a := by
  cases a with
  | real x =>
    show Scalar.isFinite (Extended.div (real x) (real y)) = true
    rw [Extended.div, if_neg hy]
    rfl
  | infinity negative | nan => rfl

/-! ## Comparisons -/

theorem real_lt_iff : real x < real y ↔ x < y := by
  show (∃ u v : EReal, (some (x : EReal)) = some u ∧ some (y : EReal) = some v ∧ u < v) ↔ x < y
  simp

theorem real_le_iff : real x ≤ real y ↔ x ≤ y := by
  show (∃ u v : EReal, (some (x : EReal)) = some u ∧ some (y : EReal) = some v ∧ u ≤ v) ↔ x ≤ y
  simp

theorem real_beq_iff : (real x == real y) = true ↔ x = y := by
  show decide (some (x : EReal) ≠ none ∧ some (x : EReal) = some (y : EReal)) = true ↔ x = y
  simp

/-- The larger of two finite numbers. -/
theorem maxNum_real (x y : ℝ) : Scalar.maxNum (real x) (real y) = real (max x y) := by
  unfold Scalar.maxNum
  by_cases h : x < y
  · rw [if_pos (real_lt_iff.mpr h), max_eq_right h.le]
  · rw [if_neg (mt real_lt_iff.mp h), if_pos (real_beq_iff.mpr rfl), max_eq_left (not_lt.mp h)]

end Extended

end LateralTorque
