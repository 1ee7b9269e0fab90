import LateralTorque.Decimal.Format
import LateralTorque.FileError
import LateralTorque.Gain
import LateralTorque.TorqueModel
import LateralTorque.Tuning

/-!
# Parameters of the controller

The parameters of a vehicle, the conditions under which the controller accepts them, and the errors
of setting a controller up.

* `Params.validate` — the check of the parameters: a positive limit, rate and factor, a delay that
  is not negative, and schedules of gains that can be used; the first that fails is reported;
* `InvalidParam`, `LoadError`, `SetupError` — what can be wrong, with the texts that are shown for
  it;
* `Params.standard` — the parameters of a vehicle about which nothing is known.

Only what `validate` names is checked.  A number that has to be positive may be infinite, the limit
of the saturation and the two friction factors may be anything, and so may offset and friction of
the tuning.
-/

set_option autoImplicit false

namespace LateralTorque

/-- Parameters of the controller: the largest torque demand, relative to the actuator's maximum, the
cycles per second, the gains and the vehicle's tuning.  The delay of the actuator, in seconds, is
used unless it is estimated; `saturationLimit` is the saturated time until a timeout, in seconds.
Under `useLateralJerk` the planned jerk shapes the friction compensation of the analytic model, and
the two friction factors weigh the jerk and the acceleration error in the friction response. -/
structure Params (α : Type) where
  steerMax : α
  rate : α
  proportionalGain : GainSchedule α
  integralGain : GainSchedule α
  derivativeGain : GainSchedule α
  feedforwardGain : GainSchedule α
  actuatorDelay : α
  estimateDelay : Bool
  saturationLimit : α
  useLateralJerk : Bool
  jerkFrictionFactor : α
  accelFrictionFactor : α
  tuning : Tuning α

/-! ## Errors -/

/-- A parameter that the controller does not accept: a number out of its range, the gain schedule
with the given name, or a live estimate of the torque response. -/
inductive InvalidParam (α : Type) where
  | steerMax (found : α)
  | rate (found : α)
  | actuatorDelay (found : α)
  | accelFactor (found : α)
  | schedule (name : String)
  | liveTuning (factor offset friction : α)

/-- The text shown for a parameter that is not accepted. -/
def InvalidParam.message (e : InvalidParam Float) : String :=
  let text := Decimal.format .plain
  "Invalid parameter: " ++ match e with
  | .steerMax found => "steer_max must be positive, found " ++ text found
  | .rate found => "rate_hz must be positive, found " ++ text found
  | .actuatorDelay found => "steer_actuator_delay_s must not be negative, found " ++ text found
  | .accelFactor found => "tuning.lat_accel_factor must be positive, found " ++ text found
  | .schedule name =>
    name ++ " must have the same, non-zero, number of ascending speed breakpoints and gains"
  | .liveTuning factor offset friction =>
    "live torque parameters must be finite with a positive factor, found factor " ++ text factor
      ++ ", offset " ++ text offset ++ ", friction " ++ text friction

/-- Why a parameter file could not be loaded: the software root is not known, the file could not be
read, or its text does not describe the parameters. -/
inductive LoadError where
  | rootNotSet
  | file (cause : FileError)
  | unreadable

/-- The text shown for a file that could not be loaded. -/
def LoadError.message : LoadError → String
  | .rootNotSet => "The software root environment variable (STEER_SW_ROOT) is not set"
  | .file cause => "Cannot load the parmeter file: " ++ cause.message
  | .unreadable => "Cannot read the parameter file:"

/-- Why a controller could not be set up. -/
inductive SetupError (α : Type) where
  | load (cause : LoadError)
  | param (cause : InvalidParam α)
  | model (cause : ModelError)
  | modelInputSize (expected found : Nat)

/-- The text shown for a controller that could not be set up. -/
def SetupError.message : SetupError Float → String
  | .load cause => "Could not load parameters: " ++ cause.message
  | .param cause => cause.message
  | .model cause => "Could not load the torque model: " ++ cause.message
  | .modelInputSize expected found =>
    s!"The neural torque model expects {found} inputs but the controller provides {expected}"

/-! ## Validation -/

namespace Params

variable {α : Type} [Scalar α]

/-- The parameters of a vehicle about which nothing is known. -/
def standard : Params α where
  steerMax := 1.0
  rate := 100.0
  proportionalGain := .constant 1
  integralGain := .constant 0.1
  derivativeGain := .constant 0
  feedforwardGain := .constant 1
  actuatorDelay := 0.2
  estimateDelay := false
  saturationLimit := 1.0
  useLateralJerk := false
  jerkFrictionFactor := 0.4
  accelFrictionFactor := 0.7
  tuning := .standard

/-- The gain schedules with their names. -/
def schedules (p : Params α) : List (String × GainSchedule α) :=
  [("k_p", p.proportionalGain), ("k_i", p.integralGain), ("k_d", p.derivativeGain),
    ("k_f", p.feedforwardGain)]

/-- The first parameter that the controller does not accept, if any. -/
def validate (p : Params α) : Except (InvalidParam α) Unit :=
  if ¬ 0 < p.steerMax then .error (.steerMax p.steerMax)
  else if ¬ 0 < p.rate then .error (.rate p.rate)
  else if ¬ 0 ≤ p.actuatorDelay then .error (.actuatorDelay p.actuatorDelay)
  else if ¬ 0 < p.tuning.accelFactor then .error (.accelFactor p.tuning.accelFactor)
  else match p.schedules.find? fun named => !named.2.isValid with
    | some named => .error (.schedule named.1)
    | none => .ok ()

/-- Time per cycle in seconds. -/
def period (p : Params α) : α := 1 / p.rate

end Params

end LateralTorque
