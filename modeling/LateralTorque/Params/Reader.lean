import LateralTorque.FileSystem
import LateralTorque.Params
import LateralTorque.Path
import LateralTorque.Toml.Document

/-!
# Parameter files

Parameter files are TOML documents in the directory `params` of the software root.

* `ParameterFile.parse`, `ParameterFile.load` — a document read as a record of parameters;
* `Params.read?` — the parameters of the controller as such a record.

Parameters that may be missing have the standard value then.  A document with a value of the wrong
kind, or without one that is required, is unreadable as a whole; whether the values make sense is
checked by `Params.validate` and not here.
-/

set_option autoImplicit false

namespace LateralTorque

namespace ParameterFile

variable {β : Type}

/-- A number of a parameter file. -/
def number? (d : Data) : Option Float := d.numeral?.map Decimal.Numeral.toFloat

/-- The text of a parameter file read as a record. -/
def parse (read : Data → Option β) (text : String) : Except LoadError β :=
  match (Toml.read? text).bind read with
  | some value => .ok value
  | none => .error .unreadable

/-- The directory of the parameter files below a software root. -/
def directory (root : String) : String := Path.join root "params"

/-- Loads the parameter file with a name. -/
def load {m : Type → Type} [Monad m] (files : FileSystem m) (root : Option String)
    (read : Data → Option β) (name : String) : m (Except LoadError β) := do
  match root with
  | none => return .error .rootNotSet
  | some root =>
    match ← files.readText (Path.join (directory root) name) with
    | .ok text => return parse read text
    | .error cause => return .error (.file cause)

end ParameterFile

open ParameterFile

/-- A gain schedule of a parameter file. -/
def GainSchedule.read? (d : Data) : Option (GainSchedule Float) := do
  let r ← d.record? ["speed_bp_ms", "gain"]
  return {
    speeds := ← r.required? "speed_bp_ms" (Data.list? number?)
    gains := ← r.required? "gain" (Data.list? number?) }

/-- The tuning of a parameter file. -/
def Tuning.read? (d : Data) : Option (Tuning Float) := do
  let r ← d.record?
    ["lat_accel_factor", "lat_accel_offset", "friction", "use_steering_angle",
      "steering_angle_deadzone_deg", "override_enabled"]
  return {
    accelFactor := ← r.required? "lat_accel_factor" number?
    accelOffset := ← r.required? "lat_accel_offset" number?
    friction := ← r.required? "friction" number?
    useSteeringAngle := ← r.required? "use_steering_angle" Data.flag?
    angleDeadzone := ← r.required? "steering_angle_deadzone_deg" number?
    overridden := ← r.optional? "override_enabled" false Data.flag? }

namespace Params

/-- The names of the parameters in a file. -/
def fieldNames : List String :=
  ["steer_max", "rate_hz", "k_p", "k_i", "k_d", "k_f", "steer_actuator_delay_s", "enable_dsad",
    "steer_limit_timer_s", "use_lateral_jerk", "lat_jerk_friction_factor",
    "lat_accel_friction_factor", "tuning"]

/-- The parameters of the controller in a file. -/
def read? (d : Data) : Option (Params Float) := do
  let r ← d.record? fieldNames
  let missing : Params Float := standard
  return {
    steerMax := ← r.required? "steer_max" number?
    rate := ← r.required? "rate_hz" number?
    proportionalGain := ← r.required? "k_p" GainSchedule.read?
    integralGain := ← r.required? "k_i" GainSchedule.read?
    derivativeGain := ← r.optional? "k_d" missing.derivativeGain GainSchedule.read?
    feedforwardGain := ← r.optional? "k_f" missing.feedforwardGain GainSchedule.read?
    actuatorDelay := ← r.required? "steer_actuator_delay_s" number?
    estimateDelay := ← r.optional? "enable_dsad" missing.estimateDelay Data.flag?
    saturationLimit := ← r.optional? "steer_limit_timer_s" missing.saturationLimit number?
    useLateralJerk := ← r.optional? "use_lateral_jerk" missing.useLateralJerk Data.flag?
    jerkFrictionFactor :=
      ← r.optional? "lat_jerk_friction_factor" missing.jerkFrictionFactor number?
    accelFrictionFactor :=
      ← r.optional? "lat_accel_friction_factor" missing.accelFrictionFactor number?
    tuning := ← r.required? "tuning" Tuning.read? }

end Params

end LateralTorque
