import LateralTorque.FileError
import LateralTorque.Interp
import LateralTorque.Tuning

/-!
# Torque models

A torque model says how much steering torque a lateral acceleration takes.  An analytic model is a
law of the acceleration and the friction input; a neural model is a learned function of a vector of
features.  The controller is given a `TorqueModel` and keeps an analytic model in either case.

Models are functions that may refuse to answer, and say why.  The controller takes them as they are,
so that what is said of every controller holds whatever its models answer.

* `AnalyticModel`, `NeuralModel`, `TorqueModel` — the models;
* `ModelError`, `NetworkFlaw` — why a model gives no answer or could not be loaded, with the texts
  that are shown for it;
* `linearTorque`, `AnalyticModel.linear` — the linear law: the acceleration over the tuned factor,
  plus a ramp of friction.
-/

set_option autoImplicit false

namespace LateralTorque

/-! ## Errors -/

/-- What is wrong with the description of a network: lists or rows of sizes that do not match, no
layers, a number of outputs other than one, or a flaw in a model's own words. -/
inductive NetworkFlaw where
  | inputSizes (means deviations : Nat)
  | noLayers
  | rowCount (layer rows biases : Nat)
  | columnCount (layer columns : Nat)
  | outputCount (outputs : Nat)
  | described (reason : String)

/-- The text shown for a flaw. -/
def NetworkFlaw.message : NetworkFlaw → String
  | .inputSizes means deviations => s!"input_mean has {means} values and input_std {deviations}"
  | .noLayers => "the model has no layers"
  | .rowCount layer rows biases => s!"layer {layer} has {rows} weight rows and {biases} biases"
  | .columnCount layer columns => s!"layer {layer} weights must have {columns} columns"
  | .outputCount outputs => s!"the model must have a single output, found {outputs}"
  | .described reason => reason

/-- Why a torque model could not be loaded or evaluated: its file failed, the text is not a
description of a network or has a flaw, it was shown a vector of another size, or its answer is not
finite. -/
inductive ModelError where
  | file (cause : FileError)
  | unreadable
  | malformed (flaw : NetworkFlaw)
  | inputSize (expected found : Nat)
  | notFinite

/-- The text shown for an error. -/
def ModelError.message : ModelError → String
  | .file cause => "Could not read the model file: " ++ cause.message
  | .unreadable => "Could not parse the model:"
  | .malformed flaw => "Malformed model: " ++ flaw.message
  | .inputSize expected found => s!"Expected {expected} model inputs but got {found}"
  | .notFinite => "The model produced a non-finite output"

/-! ## Models -/

/-- The state of the vehicle that an analytic model is evaluated for, in metres and seconds.  The
`rollCompensation` is the lateral acceleration due to the roll of the road. -/
structure AnalyticInputs (α : Type) where
  lateralAccel : α
  rollCompensation : α
  speed : α
  longitudinalAccel : α

/-- An analytic torque model.  The linear law is told from others, since it needs the full low speed
factor. -/
structure AnalyticModel (α : Type) where
  /-- The torque for an acceleration.  The friction term is driven by `frictionInput`, stays out
  within `deadzone`, and is added if `compensate`; `gravityAdjusted` says that the acceleration
  already has the roll compensation removed. -/
  torque : (inputs : AnalyticInputs α) → (tuning : Tuning α) → (frictionInput deadzone : α) →
    (compensate gravityAdjusted : Bool) → Except ModelError α
  isLinear : Bool

/-- A learned torque model, which answers vectors of `inputSize` features.  `frictionOverride` says
that the analytic friction has to be added to the learned one, and `frictionFactor` scales the
friction input among the features. -/
structure NeuralModel (α : Type) where
  inputSize : Nat
  evaluate : List α → Except ModelError α
  frictionOverride : Bool
  frictionFactor : α

/-- The torque model of a controller.  Beside a neural model stands the analytic one, for its
friction override and for cycles without a usable plan. -/
inductive TorqueModel (α : Type) where
  | analytic (model : AnalyticModel α)
  | neural (network : NeuralModel α) (fallback : AnalyticModel α)

namespace TorqueModel

variable {α : Type}

/-- The analytic model, present in both cases. -/
def analyticModel : TorqueModel α → AnalyticModel α
  | .analytic model => model
  | .neural _ fallback => fallback

/-- The neural model, if there is one. -/
def neuralModel? : TorqueModel α → Option (NeuralModel α)
  | .analytic _ => none
  | .neural network _ => some network

end TorqueModel

/-! ## The linear law -/

variable {α : Type} [Scalar α]

/-- An error strictly inside the deadzone counts as zero. -/
def centerDeadzone (error deadzone : α) : α :=
  if -deadzone < error ∧ error < deadzone then 0 else error

/-- The error at which the full friction torque is applied, in m/s². -/
def frictionThreshold : α := 0.3

/-- The friction torque for an error: a ramp that reaches the tuned friction at `threshold`. -/
def frictionTorque (error deadzone threshold : α) (tuning : Tuning α) (compensate : Bool) : α :=
  if compensate then
    interp (centerDeadzone error deadzone) [-threshold, threshold]
      [-tuning.friction, tuning.friction]
  else 0

/-- The linear law: acceleration over the tuned factor, plus friction. -/
def linearTorque (inputs : AnalyticInputs α) (tuning : Tuning α) (frictionInput deadzone : α)
    (compensate : Bool) : α :=
  inputs.lateralAccel / tuning.accelFactor
    + frictionTorque frictionInput deadzone frictionThreshold tuning compensate

/-- The model of the linear law. -/
def AnalyticModel.linear : AnalyticModel α where
  torque inputs tuning frictionInput deadzone compensate _ :=
    .ok (linearTorque inputs tuning frictionInput deadzone compensate)
  isLinear := true

end LateralTorque
