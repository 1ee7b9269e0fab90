import LateralTorque.Scalar

/-!
# Tuning of the torque response

The numbers that describe how a vehicle answers steering torque.  They start from the vehicle's
parameters and may be replaced while the controller runs, by overrides from a store or by a live
estimate.

* `Tuning.standard` — the tuning of a vehicle about which nothing is known;
* `Tuning.agrees`, `agrees_iff` — when a tuning is not worth an exchange.

Agreement compares numbers as numbers.  In double precision a tuning with NaN agrees with nothing,
and two tunings that agree differ in the sign of a zero at most.
-/

set_option autoImplicit false

namespace LateralTorque

/-- The tuning in use: the lateral acceleration per unit of torque (`accelFactor`) and at zero
torque (`accelOffset`) in m/s², the torque that overcomes the friction of the steering rack, whether
curvature is measured from the steering angle instead of the yaw rate, the steering angle in degrees
within which friction is not compensated, and whether the overrides of the tuning store are in
force. -/
structure Tuning (α : Type) where
  accelFactor : α
  accelOffset : α
  friction : α
  useSteeringAngle : Bool
  angleDeadzone : α
  overridden : Bool

namespace Tuning

variable {α : Type} [Scalar α]

/-- The tuning of a vehicle about which nothing is known. -/
def standard : Tuning α where
  accelFactor := 2.5
  accelOffset := 0
  friction := 0.1
  useSteeringAngle := true
  angleDeadzone := 0
  overridden := false

/-- Whether two tunings agree in every field, numbers compared as numbers (`agrees_iff`): NaN agrees
with nothing. -/
def agrees (a b : Tuning α) : Bool :=
  a.accelFactor == b.accelFactor && a.accelOffset == b.accelOffset && a.friction == b.friction
    && a.useSteeringAngle == b.useSteeringAngle && a.angleDeadzone == b.angleDeadzone
    && a.overridden == b.overridden

/-- Tunings that agree have numbers that compare as equal and the same flags.  In double precision
only the sign of a zero can tell them apart (`Double.eq_or_zeros_of_beq`). -/
theorem agrees_iff {a b : Tuning α} :
    a.agrees b = true ↔
      (a.accelFactor == b.accelFactor) = true ∧ (a.accelOffset == b.accelOffset) = true ∧
      (a.friction == b.friction) = true ∧ a.useSteeringAngle = b.useSteeringAngle ∧
      (a.angleDeadzone == b.angleDeadzone) = true ∧ a.overridden = b.overridden := by
  simp only [agrees, Bool.and_eq_true, beq_iff_eq, and_assoc]

end Tuning

end LateralTorque
